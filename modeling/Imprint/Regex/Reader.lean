import Imprint.Numeral
import Imprint.Regex.Basic

/-!
# Reading regular expressions

Two ways to write regular expressions are read: the basic one, where a backslash
makes operators, and the extended one, where it takes them away.
-/

namespace Imprint

namespace Regex

inductive Dialect where
  | basic
  | extended
deriving DecidableEq

inductive Symbol where
  | opening (capturing : Bool)
  | closing
  | bar
  | repetition (least : Nat) (most : Option Nat) (greedy : Bool)
  | atom (r : Regex)

/-- The ranges of the letters, digits and so on, by the names that they have in brackets. -/
def namedRanges? (name : Text) : Option (List (Nat × Nat)) :=
  match String.ofList name with
  | "alpha" => some [(0x41, 0x5A), (0x61, 0x7A)]
  | "digit" => some [(0x30, 0x39)]
  | "alnum" => some [(0x30, 0x39), (0x41, 0x5A), (0x61, 0x7A)]
  | "upper" => some [(0x41, 0x5A)]
  | "lower" => some [(0x61, 0x7A)]
  | "space" => some [(0x09, 0x0D), (0x20, 0x20)]
  | "blank" => some [(0x09, 0x09), (0x20, 0x20)]
  | "punct" => some [(0x21, 0x2F), (0x3A, 0x40), (0x5B, 0x60), (0x7B, 0x7E)]
  | "print" => some [(0x20, 0x7E)]
  | "graph" => some [(0x21, 0x7E)]
  | "cntrl" => some [(0x00, 0x1F), (0x7F, 0x7F)]
  | "xdigit" => some [(0x30, 0x39), (0x41, 0x46), (0x61, 0x66)]
  | _ => none

def asciiBlankSet : CharSet :=
  ⟨[(0x09, 0x0D), (0x20, 0x20)], false⟩

def escapedSet? (c : Char) : Option CharSet :=
  match c with
  | 'w' => some asciiWordSet
  | 'W' => some asciiWordSet.opposite
  | 's' => some asciiBlankSet
  | 'S' => some asciiBlankSet.opposite
  | _ => none

def control? (c : Char) : Option Char :=
  [('n', '\n'), ('t', '\t'), ('r', '\r'), ('f', '\x0c'), ('v', '\x0b'), ('a', '\x07')].lookup c

def escapedAnchor? (c : Char) : Option Anchor :=
  match c with
  | 'b' => some (.word .border asciiWordSet)
  | 'B' => some (.word .inside asciiWordSet)
  | '<' => some (.word .start asciiWordSet)
  | '>' => some (.word .finish asciiWordSet)
  | '\'' => some .textEnd
  | c => if c = Char.ofNat 0x60 then some .textStart else none

def hexEscape? (t : Text) : Option (Char × Text) :=
  match t with
  | a :: b :: rest =>
      if Text.isHexDigit a && Text.isHexDigit b then
        some (Char.ofNat (Text.hexValue [a, b]), rest)
      else
        none
  | _ => none

def bracketChar? : Text → Option (Char × Text)
  | '[' :: '.' :: c :: '.' :: ']' :: rest => some (c, rest)
  | '[' :: '=' :: c :: '=' :: ']' :: rest => some (c, rest)
  | c :: rest => some (c, rest)
  | [] => none

/-- Reads the items between brackets up to the closing one, which may be the first item. -/
def bracketItems : (fuel : Nat) → (isFirst : Bool) → Text → Option (List (Nat × Nat) × Text)
  | 0, _, _ => none
  | _ + 1, _, [] => none
  | fuel + 1, isFirst, c :: rest =>
      if c = ']' ∧ isFirst = false then
        some ([], rest)
      else
        match c, rest with
        | '[', ':' :: rest =>
            let name := rest.takeWhile (· ≠ ':')
            match rest.drop name.length with
            | ':' :: ']' :: rest => do
                let named ← namedRanges? name
                let (others, rest) ← bracketItems fuel false rest
                some (named ++ others, rest)
            | _ => none
        | _, _ => do
            let (low, rest) ← bracketChar? (c :: rest)
            match rest with
            | '-' :: ']' :: _ =>
                let (others, rest) ← bracketItems fuel false rest
                some ((low.toNat, low.toNat) :: others, rest)
            | '-' :: rest => do
                let (high, rest) ← bracketChar? rest
                if high < low then none
                else
                  let (others, rest) ← bracketItems fuel false rest
                  some ((low.toNat, high.toNat) :: others, rest)
            | _ => do
                let (others, rest) ← bracketItems fuel false rest
                some ((low.toNat, low.toNat) :: others, rest)

def bracketSet? (t : Text) : Option (CharSet × Text) :=
  match t with
  | '^' :: rest =>
      (bracketItems (rest.length + 1) true rest).map fun read => (⟨read.1, true⟩, read.2)
  | rest =>
      (bracketItems (rest.length + 1) true rest).map fun read => (⟨read.1, false⟩, read.2)

def count? (t : Text) : Option (Nat × Text) :=
  let digits := t.takeWhile Char.isDigit
  if digits = [] then none
  else some (digits.foldl (fun n c => 10 * n + (c.toNat - '0'.toNat)) 0, t.drop digits.length)

def bounds? (closing : Text) (t : Text) : Option (Nat × Option Nat × Text) := do
  let (least, rest) := (count? t).getD (0, t)
  let (most, rest) ← match rest with
    | ',' :: rest =>
        match count? rest with
        | some (most, rest) => some (some most, rest)
        | none => some (none, rest)
    | rest => if (count? t).isSome then some (some least, rest) else none
  let rest ← Text.after? closing rest
  some (least, most, rest)

def canRepeat : Option Symbol → Bool
  | none => false
  | some (.opening _) => false
  | some .bar => false
  | some (.atom (.anchor .textStart)) => false
  | some _ => true

def basicSymbol? (before : Option Symbol) (t : Text) : Option (Symbol × Text) :=
  match t with
  | '\\' :: '(' :: rest => some (.opening true, rest)
  | '\\' :: ')' :: rest => some (.closing, rest)
  | '\\' :: '|' :: rest => some (.bar, rest)
  | '\\' :: '{' :: rest =>
      (bounds? "\\\x7d".toList rest).map fun b => (.repetition b.1 b.2.1 true, b.2.2)
  | '\\' :: '+' :: rest => some (.repetition 1 none true, rest)
  | '\\' :: '?' :: rest => some (.repetition 0 (some 1) true, rest)
  | '*' :: rest =>
      if canRepeat before then some (.repetition 0 none true, rest)
      else some (.atom (.one (.single '*')), rest)
  | '^' :: rest =>
      match before with
      | none | some (.opening _) | some .bar => some (.atom (.anchor .textStart), rest)
      | _ => some (.atom (.one (.single '^')), rest)
  | '$' :: rest =>
      match rest with
      | [] | '\\' :: ')' :: _ | '\\' :: '|' :: _ => some (.atom (.anchor .textEnd), rest)
      | _ => some (.atom (.one (.single '$')), rest)
  | _ => none

def extendedSymbol? (before : Option Symbol) (t : Text) : Option (Symbol × Text) :=
  match t with
  | '(' :: rest => some (.opening true, rest)
  | ')' :: rest => some (.closing, rest)
  | '|' :: rest => some (.bar, rest)
  | '*' :: rest =>
      if canRepeat before then some (.repetition 0 none true, rest)
      else some (.atom (.one (.single '*')), rest)
  | '+' :: rest => some (.repetition 1 none true, rest)
  | '?' :: rest => some (.repetition 0 (some 1) true, rest)
  | '{' :: rest => (bounds? ['}'] rest).map fun b => (.repetition b.1 b.2.1 true, b.2.2)
  | '^' :: rest => some (.atom (.anchor .textStart), rest)
  | '$' :: rest => some (.atom (.anchor .textEnd), rest)
  | _ => none

def atom? (d : Dialect) (controls : Bool) (t : Text) : Option (Regex × Text) :=
  match t with
  | '.' :: rest => some (.one .all, rest)
  | '[' :: rest => (bracketSet? rest).map fun read => (.one read.1, read.2)
  | '\\' :: 'x' :: rest =>
      if controls then
        (hexEscape? rest).map fun read => (.one (.single read.1), read.2)
      else
        some (.one (.single 'x'), rest)
  | '\\' :: c :: rest =>
      match escapedSet? c, escapedAnchor? c with
      | some set, _ => some (.one set, rest)
      | none, some a => some (.anchor a, rest)
      | none, none =>
          if d = .basic && (c == '{' || c == '}') then
            none
          else if c.isDigit && c != '0' then
            some (.again (c.toNat - '0'.toNat), rest)
          else
            match if controls then control? c else none with
            | some control => some (.one (.single control), rest)
            | none => some (.one (.single c), rest)
  | ['\\'] => none
  | c :: rest => some (.one (.single c), rest)
  | [] => none

def symbols (d : Dialect) (controls : Bool) : (fuel : Nat) → (before : Option Symbol) → Text →
    Option (List Symbol)
  | 0, _, _ => none
  | _ + 1, _, [] => some []
  | fuel + 1, before, t => do
      let (symbol, rest) ← match if d = .basic then basicSymbol? before t
          else extendedSymbol? before t with
        | some read => some read
        | none => (atom? d controls t).map fun read => (.atom read.1, read.2)
      let others ← symbols d controls fuel (some symbol) rest
      some (symbol :: others)

/-- A group that is not closed yet: its index, its finished alternatives, and what the
current one is made of, last first. -/
structure Frame where
  index : Option Nat
  finished : List Regex := []
  current : List Regex := []

def Frame.alternative (f : Frame) : Regex :=
  ofList f.current.reverse

def Frame.body (f : Frame) : Regex :=
  f.finished.foldl (fun r first => .either first r) f.alternative

def Frame.close (f : Frame) : Regex :=
  match f.index with
  | some index => .group index f.body
  | none => f.body

/-- The groups that are open, the innermost first, and the count of all groups so far. -/
structure Progress where
  frames : List Frame := [{ index := none }]
  groups : Nat := 0

/-- Takes a symbol in.  There has to be something to repeat and a group to close, but where
it is `forgiving`, nothing may be repeated, and a parenthesis that closes nothing stands for
itself. -/
def Progress.take (forgiving : Bool) (p : Progress) (s : Symbol) : Option Progress :=
  match s, p.frames with
  | _, [] => none
  | .atom r, f :: outer => some { p with frames := { f with current := r :: f.current } :: outer }
  | .bar, f :: outer =>
      some { p with
        frames := { f with finished := f.alternative :: f.finished, current := [] } :: outer }
  | .repetition least most greedy, f :: outer =>
      match f.current with
      | [] => if forgiving then some p else none
      | r :: others =>
          let r := .repeated r least most greedy
          some { p with frames := { f with current := r :: others } :: outer }
  | .opening capturing, frames =>
      let index := if capturing then some (p.groups + 1) else none
      some
        { frames := { index := index } :: frames
          groups := if capturing then p.groups + 1 else p.groups }
  | .closing, f :: next :: outer =>
      some { p with frames := { next with current := f.close :: next.current } :: outer }
  | .closing, f :: outer =>
      if forgiving then
        some { p with frames := { f with current := .one (.single ')') :: f.current } :: outer }
      else
        none

/-- The expression that symbols make up.  Groups that are matched again have to be there. -/
def ofSymbols? (forgiving : Bool) (ss : List Symbol) : Option Regex := do
  let p ← ss.foldlM (Progress.take forgiving) {}
  match p.frames with
  | [f] => if f.body.refersWithin p.groups then some f.body else none
  | _ => none

/-- How a regular expression is written: in which dialect, whether letters after a backslash
may stand for control characters, and whether signs that make no sense are forgiven. -/
structure Manner where
  dialect : Dialect
  controls : Bool := false
  forgiving : Bool := false

def read? (m : Manner) (t : Text) : Option Regex := do
  let ss ← symbols m.dialect m.controls (t.length + 1) none t
  ofSymbols? m.forgiving ss

/-- What is wrong with an expression that cannot be read, in the words of utilities. -/
def fault (d : Dialect) (t : Text) : Text :=
  let opening : Text := if d = .basic then ['\\', '('] else ['(']
  let closing : Text := if d = .basic then ['\\', ')'] else [')']
  let text : String := scan opening closing (t.length + 1) 0 t
  text.toList
where
  /-- Skips what stands between brackets. -/
  behindBrackets (t : Text) : Option Text :=
    (bracketSet? t).map Prod.snd
  scan (opening closing : Text) : (fuel : Nat) → (depth : Nat) → Text → String
    | 0, _, _ => ""
    | _ + 1, 0, [] => "Invalid preceding regular expression"
    | _ + 1, _ + 1, [] => "Unmatched ( or \\("
    | fuel + 1, depth, c :: rest =>
        match Text.after? opening (c :: rest), Text.after? closing (c :: rest) with
        | some rest, _ => scan opening closing fuel (depth + 1) rest
        | none, some rest =>
            if depth = 0 then "Unmatched ) or \\)" else scan opening closing fuel (depth - 1) rest
        | none, none =>
            match c, rest with
            | '[', _ =>
                match behindBrackets (if rest.head? = some '^' then rest.drop 1 else rest) with
                | some rest => scan opening closing fuel depth rest
                | none =>
                    if !(rest.drop 1).contains ']' then
                      "Unmatched [, [^, [:, [., or [="
                    else if (String.ofList rest).contains "[:" then "Invalid character class name"
                    else "Invalid range end"
            | '\\', [] => "Trailing backslash"
            | '\\', '{' :: rest =>
                match if d = .basic then bounds? "\\\x7d".toList rest else some (0, none, rest) with
                | some (_, _, rest) => scan opening closing fuel depth rest
                | none => "Unmatched \\\x7b"
            | '\\', e :: rest =>
                if e.isDigit && e != '0' then "Invalid back reference"
                else scan opening closing fuel depth rest
            | _, _ => scan opening closing fuel depth rest

end Regex

end Imprint
