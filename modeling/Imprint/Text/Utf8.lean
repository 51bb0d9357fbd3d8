import Imprint.Text.Basic

/-!
# Bytes as text

Bytes are cut into the encodings of characters and into ill-formed pieces, each
as long as some character's encoding begins.  Strict reading wants no ill-formed
piece; lenient reading shows one replacement character for each.
-/

namespace Imprint

abbrev Bytes := List UInt8

namespace Utf8

/-- The bytes that may come second and how many follow them, for a first byte of
a longer encoding. -/
structure Lead where
  secondLow : UInt8
  secondHigh : UInt8
  tail : Nat

/-- What a first byte promises, if it begins an encoding of two bytes or more. -/
def lead? (b : UInt8) : Option Lead :=
  if b < 0xC2 then none
  else if b < 0xE0 then some ⟨0x80, 0xBF, 0⟩
  else if b = 0xE0 then some ⟨0xA0, 0xBF, 1⟩
  else if b = 0xED then some ⟨0x80, 0x9F, 1⟩
  else if b < 0xF0 then some ⟨0x80, 0xBF, 1⟩
  else if b = 0xF0 then some ⟨0x90, 0xBF, 2⟩
  else if b < 0xF4 then some ⟨0x80, 0xBF, 2⟩
  else if b = 0xF4 then some ⟨0x80, 0x8F, 2⟩
  else none

def isContinuation (b : UInt8) : Bool :=
  0x80 ≤ b && b ≤ 0xBF

def leadPayload (b : UInt8) : Nat :=
  if b < 0xE0 then b.toNat % 32 else if b < 0xF0 then b.toNat % 16 else b.toNat % 8

/-- The payload of a first byte followed by those of the bytes after it. -/
def codePoint (first : UInt8) (others : Bytes) : Nat :=
  others.foldl (fun value b => 64 * value + b.toNat % 64) (leadPayload first)

/-- A well-formed character, or a piece that is the beginning of none or is cut short. -/
inductive Piece where
  | char (c : Char)
  | illFormed
deriving DecidableEq

/-- The piece at the front of a byte string that begins with `b`, and how many
bytes after `b` belong to it. -/
def front (b : UInt8) (rest : Bytes) : Piece × Nat :=
  if b < 0x80 then
    (.char (Char.ofNat b.toNat), 0)
  else
    match lead? b, rest with
    | some lead, second :: others =>
        if lead.secondLow ≤ second ∧ second ≤ lead.secondHigh then
          let tail := (others.take lead.tail).takeWhile isContinuation
          if tail.length = lead.tail then
            (.char (Char.ofNat (codePoint b (second :: tail))), 1 + lead.tail)
          else
            (.illFormed, 1 + tail.length)
        else
          (.illFormed, 0)
    | _, _ => (.illFormed, 0)

def pieces (bytes : Bytes) : List Piece :=
  match bytes with
  | [] => []
  | b :: rest => (front b rest).1 :: pieces (rest.drop (front b rest).2)
termination_by bytes.length
decreasing_by
  simp only [List.length_drop, List.length_cons]
  omega

/-- The text that the bytes encode, if every piece is well formed. -/
def decode? (bytes : Bytes) : Option Text :=
  (pieces bytes).mapM fun
    | .char c => some c
    | .illFormed => none

/-- The text of the bytes, with a replacement character for each ill-formed piece. -/
def decode (bytes : Bytes) : Text :=
  (pieces bytes).map fun
    | .char c => c
    | .illFormed => '\uFFFD'

def encode (t : Text) : Bytes :=
  t.flatMap String.utf8EncodeChar

end Utf8

end Imprint
