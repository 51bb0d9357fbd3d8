import Imprint.Script.Pattern

/-!
# Fields

An expanded word is parted into fields at separators that came out of expansions.
Blank separators next to one another count as one; others part fields that may be
empty.  What was quoted makes a field even where it is empty.
-/

namespace Imprint

namespace Script

/-- What an expanded word is made of: characters, signs that something was quoted, and
borders between fields. -/
inductive Ink where
  | glyph (g : Glyph)
  | mark
  | border

namespace Ink

def glyph? : Ink → Option Glyph
  | glyph g => some g
  | border => some { char := '\x00', isQuoted := true }
  | mark => none

def glyphs (inks : List Ink) : List Glyph :=
  inks.filterMap glyph?

def ofGlyphs (gs : List Glyph) : List Ink :=
  gs.flatMap fun g =>
    if g.char = '\x00' ∧ g.isQuoted then [border, mark] else [glyph g]

end Ink

namespace Field

def usualSeparators : Text :=
  [' ', '\t', '\n']

def isBlank (c : Char) : Bool :=
  c == ' ' || c == '\t' || c == '\n' || c == '\x00'

def separates (separators : Text) (g : Glyph) : Bool :=
  g.parts && (g.char == '\x00' || separators.contains g.char)

def dropBlanks (separators : Text) : List Ink → List Ink
  | .glyph g :: rest =>
      if separates separators g && isBlank g.char then dropBlanks separators rest
      else .glyph g :: rest
  | inks => inks

/-- What follows a separator: more blank ones belong to it, and one other if it is blank. -/
def behind (separators : Text) (separator : Glyph) (inks : List Ink) : List Ink :=
  let inks := dropBlanks separators inks
  if isBlank separator.char then
    match inks with
    | .glyph g :: rest =>
        if separates separators g then dropBlanks separators rest else inks
    | _ => inks
  else
    inks

def collect (separators : Text) :
    (fuel : Nat) → (isOpen : Bool) → (current : List Glyph) → List Ink → List (List Glyph)
  | 0, _, current, _ => [current.reverse]
  | _ + 1, isOpen, current, [] =>
      if isOpen || !current.isEmpty then [current.reverse] else []
  | fuel + 1, isOpen, current, ink :: rest =>
      match ink with
      | .mark => collect separators fuel true current rest
      | .border => current.reverse :: collect separators fuel true [] rest
      | .glyph g =>
          if separates separators g then
            if !isOpen && current.isEmpty && isBlank g.char then
              collect separators fuel false [] rest
            else
              current.reverse :: collect separators fuel false [] (behind separators g rest)
          else
            collect separators fuel isOpen (g :: current) rest

def ofInks (separators : Text) (inks : List Ink) : List (List Glyph) :=
  collect separators (inks.length + 1) false [] inks

/-- What is left for the last of several names: one field without what ends it, or all
fields without blanks at the end. -/
def remainder (separators : Text) (gs : List Glyph) : List Glyph :=
  let first := gs.takeWhile fun g => !separates separators g
  let ending := (gs.drop first.length).map Ink.glyph
  match ending with
  | .glyph g :: rest =>
      if (behind separators g rest).isEmpty then
        first
      else
        (gs.reverse.dropWhile fun g => separates separators g && isBlank g.char).reverse
  | _ => first

/-- Gives the fields of a line to a count of names, the last of which takes all that is
left. -/
def deal (separators : Text) : (count : Nat) → List Glyph → List Text
  | 0, _ => []
  | count + 1, gs =>
      let gs := Ink.glyphs (dropBlanks separators (gs.map Ink.glyph))
      if count = 0 then
        [textOf (remainder separators gs)]
      else
        let first := gs.takeWhile fun g => !separates separators g
        let rest := match (gs.drop first.length).map Ink.glyph with
          | .glyph g :: rest => Ink.glyphs (behind separators g rest)
          | _ => []
        textOf first :: deal separators count rest

end Field

end Script

end Imprint
