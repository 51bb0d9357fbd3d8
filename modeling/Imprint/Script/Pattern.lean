import Imprint.Process.Channel
import Imprint.Regex.Reader

/-!
# Patterns

A pattern fits whole texts: its signs stand for any text, any character, or a
character of a set, unless they are quoted.  Patterns also find files, where the
pieces between slashes are fitted one by one.
-/

namespace Imprint

namespace Script

/-- A character of an expanded word, which may be quoted, and at which the word may be
parted. -/
structure Glyph where
  char : Char
  isQuoted : Bool := false
  parts : Bool := false
deriving DecidableEq

def textOf (gs : List Glyph) : Text :=
  gs.map Glyph.char

/-- One item of a pattern: a character, any character, any text, or one of a set. -/
inductive PatternItem where
  | exactly (c : Char)
  | anyChar
  | anyText
  | oneOf (set : CharSet)
deriving DecidableEq

abbrev Pattern := List PatternItem

namespace Pattern

/-- The set between brackets, after the opening one, and what follows; the first character
may be the closing bracket itself. -/
def brackets? (gs : List Glyph) : Option (CharSet × List Glyph) :=
  let isSign (g : Glyph) (c : Char) : Bool := g.char == c && !g.isQuoted
  let negated := gs.head?.any fun g => isSign g '!' || isSign g '^'
  let inner := if negated then gs.drop 1 else gs
  (items (inner.length + 1) true inner).map fun read => (⟨read.1, negated⟩, read.2)
where
  items : (fuel : Nat) → (isFirst : Bool) → List Glyph → Option (List (Nat × Nat) × List Glyph)
    | 0, _, _ => none
    | _ + 1, _, [] => none
    | fuel + 1, isFirst, g :: rest =>
        if g.char = ']' ∧ g.isQuoted = false ∧ isFirst = false then
          some ([], rest)
        else if g.char = '[' ∧ g.isQuoted = false ∧ (rest.head?.any fun h => h.char = ':') then
          let name := (rest.drop 1).takeWhile fun h => h.char ≠ ':'
          let behind := (rest.drop 1).drop name.length
          match Regex.namedRanges? (name.map Glyph.char), behind with
          | some ranges, _ :: ⟨']', _, _⟩ :: rest =>
              (items fuel false rest).map fun read => (ranges ++ read.1, read.2)
          | _, _ => single fuel g rest
        else
          single fuel g rest
  single (fuel : Nat) (g : Glyph) (rest : List Glyph) : Option (List (Nat × Nat) × List Glyph) :=
    let (low, rest) := match g, rest with
      | ⟨'\\', false, _⟩, h :: rest => (h.char, rest)
      | g, rest => (g.char, rest)
    match rest with
    | ⟨'-', false, _⟩ :: high :: others =>
        if high.char = ']' ∧ high.isQuoted = false then
          (items fuel false rest).map fun read => ((low.toNat, low.toNat) :: read.1, read.2)
        else
          (items fuel false others).map fun read =>
            ((low.toNat, high.char.toNat) :: read.1, read.2)
    | _ => (items fuel false rest).map fun read => ((low.toNat, low.toNat) :: read.1, read.2)

def ofGlyphs : (fuel : Nat) → List Glyph → Pattern
  | 0, _ => []
  | _ + 1, [] => []
  | fuel + 1, g :: rest =>
      if g.isQuoted then
        .exactly g.char :: ofGlyphs fuel rest
      else
        match g.char, rest with
        | '*', _ => .anyText :: ofGlyphs fuel rest
        | '?', _ => .anyChar :: ofGlyphs fuel rest
        | '[', _ =>
            match brackets? rest with
            | some (set, rest) => .oneOf set :: ofGlyphs fuel rest
            | none => .exactly '[' :: ofGlyphs fuel rest
        | '\\', h :: rest => .exactly h.char :: ofGlyphs fuel rest
        | c, _ => .exactly c :: ofGlyphs fuel rest

def read (gs : List Glyph) : Pattern :=
  ofGlyphs (gs.length + 1) gs

def fits : Pattern → Text → Bool
  | [], t => t.isEmpty
  | .exactly c :: items, t =>
      match t with
      | d :: t => c == d && fits items t
      | [] => false
  | .anyChar :: items, t =>
      match t with
      | _ :: t => fits items t
      | [] => false
  | .oneOf set :: items, t =>
      match t with
      | d :: t => set.has d && fits items t
      | [] => false
  | .anyText :: items, t =>
      if items.isEmpty then true
      else (List.range (t.length + 1)).any fun n => fits items (t.drop n)

def trim (fromEnd longest : Bool) (p : Pattern) (gs : List Glyph) : List Glyph :=
  let t := textOf gs
  let cuts := List.range (t.length + 1)
  let kept? (n : Nat) : Option (List Glyph) :=
    if fromEnd then
      if p.fits (t.drop (t.length - n)) then some (gs.take (gs.length - n)) else none
    else
      if p.fits (t.take n) then some (gs.drop n) else none
  ((if longest then cuts.reverse else cuts).findSome? kept?).getD gs

def hasSigns (gs : List Glyph) : Bool :=
  gs.any fun g => !g.isQuoted && (g.char == '*' || g.char == '?' || g.char == '[')

/-- The paths behind `base` that fit the pieces of a pattern one by one.  Names that begin
with a dot are found by patterns that do. -/
def walk (store : Store) : List (List Glyph) → (base : Text) → List Text
  | [], base => if exists? base then [base] else []
  | piece :: rest, base =>
      let goOn (name : Text) : List Text :=
        walk store rest (base ++ name ++ if rest.isEmpty then [] else ['/'])
      if hasSigns piece then
        let p := read piece
        let dir : Path := Path.ofBytes (if base.isEmpty then ['.'] else base)
        let names := match store.list dir with
          | .ok names => names.map Text.ofBytes
          | .error _ => []
        let dotted := piece.head?.any fun g => g.char == '.'
        let names := if dotted then ['.'] :: ['.', '.'] :: names
          else names.filter fun n => n.head? != some '.'
        (names.filter p.fits).flatMap goOn
      else
        goOn (textOf (piece.filter fun g => g.isQuoted || g.char != '\\'))
where
  exists? (path : Text) : Bool :=
    match store.locate .kept (Path.ofBytes path) with
    | .ok (.found _) => true
    | _ => false

def pieces : List Glyph → List (List Glyph)
  | [] => [[]]
  | g :: rest =>
      match pieces rest with
      | [] => []
      | piece :: others => if g.char = '/' then [] :: piece :: others else (g :: piece) :: others

def find (store : Store) (gs : List Glyph) : List Text :=
  (walk store (pieces gs) []).mergeSort Text.le

end Pattern

end Script

end Imprint
