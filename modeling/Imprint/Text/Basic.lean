/-!
# Text

Text is a sequence of characters.  This module fixes which characters are
blank, and cuts text at blanks: trimming, words, and a leading run of blanks.
-/

namespace Imprint

abbrev Text := List Char

namespace Text

/-- The code points with the property of being white space, as inclusive ranges. -/
def blankRanges : List (Nat × Nat) :=
  [(0x0009, 0x000D), (0x0020, 0x0020), (0x0085, 0x0085), (0x00A0, 0x00A0),
    (0x1680, 0x1680), (0x2000, 0x200A), (0x2028, 0x2029), (0x202F, 0x202F),
    (0x205F, 0x205F), (0x3000, 0x3000)]

def isBlank (c : Char) : Bool :=
  blankRanges.any fun range => range.1 ≤ c.toNat && c.toNat ≤ range.2

def trimLeft (t : Text) : Text :=
  t.dropWhile isBlank

def trimRight (t : Text) : Text :=
  (t.reverse.dropWhile isBlank).reverse

def trim (t : Text) : Text :=
  trimRight (trimLeft t)

def words : Text → List Text
  | [] => []
  | c :: rest =>
      if isBlank c then
        words rest
      else
        match rest, words rest with
        | d :: _, word :: others =>
            if isBlank d then [c] :: word :: others else (c :: word) :: others
        | _, others => [c] :: others

def after? : Text → Text → Option Text
  | [], t => some t
  | _ :: _, [] => none
  | c :: lead, d :: t => if c = d then after? lead t else none

@[simp] theorem after?_append (lead t : Text) : after? lead (lead ++ t) = some t := by
  induction lead with
  | nil =>
      rfl
  | cons c lead ih =>
      simp [after?, ih]

theorem eq_append_of_after? {lead t rest : Text} (h : after? lead t = some rest) :
    t = lead ++ rest := by
  induction lead generalizing t with
  | nil =>
      simpa [after?] using h
  | cons c lead ih =>
      cases t with
      | nil =>
          simp [after?] at h
      | cons d t =>
          by_cases hcd : c = d
          · simp [after?, hcd] at h
            simp [hcd, ih h]
          · simp [after?, hcd] at h

/-- Whether a text is the same as another or stands before it, character by character. -/
def le (t u : Text) : Bool :=
  !(u.lex t fun c d => decide (c < d))

def skipBlanks? : Text → Option Text
  | [] => none
  | c :: rest => if isBlank c then some (trimLeft rest) else none

end Text

end Imprint
