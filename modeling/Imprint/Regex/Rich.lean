import Imprint.Character.Case
import Imprint.Character.Named
import Imprint.Regex.Reader

/-!
# Rich regular expressions

A third way to write regular expressions has classes of characters with names, sets
that are computed from others, flags, reluctant repetition, and blanks and comments
that do not count.
-/

namespace Imprint

namespace Regex

/-- What flags change: that case does not count, that lines have starts and ends of their own,
that a dot stands for a line end too, that blanks and comments do not count, that carriage
returns end lines, that classes are those of all scripts and not of ASCII alone, and that all
characters stand for bytes. -/
structure Flags where
  caseless : Bool := false
  byLine : Bool := false
  dotAll : Bool := false
  spaced : Bool := false
  returns : Bool := false
  wide : Bool := true
  ofBytes : Bool := false
deriving DecidableEq

namespace Flags

/-- Sets a flag by its letter.  Which of two ways to match is preferred does not matter for
whether there is one, so the letter for it changes nothing. -/
def set? (f : Flags) (setting : Bool) (letter : Char) : Option Flags :=
  match letter with
  | 'i' => some { f with caseless := setting }
  | 'm' => some { f with byLine := setting }
  | 's' => some { f with dotAll := setting }
  | 'x' => some { f with spaced := setting }
  | 'R' => some { f with returns := setting }
  | 'u' => some { f with wide := setting }
  | 'U' => some f
  | _ => none

/-- Sets flags by their letters; those behind a dash are cleared, and there is at least one
behind it.  No letter is given twice. -/
def change? (f : Flags) (letters : Text) : Option Flags :=
  let changeAll (f : Flags) (setting : Bool) (letters : Text) : Option Flags :=
    letters.foldlM (fun f c => f.set? setting c) f
  if letters.eraseDups ≠ letters then none
  else
    let first := letters.takeWhile (· ≠ '-')
    match letters.drop first.length with
    | [] => changeAll f true first
    | [_] => none
    | _ :: cleared => (changeAll f true first).bind fun f => changeAll f false cleared

def skip (inComment : Bool) : Text → Text
  | [] => []
  | c :: rest =>
      if inComment then skip (c != '\n') rest
      else if Text.isBlank c then skip false rest
      else if c = '#' then skip true rest
      else c :: rest

def next (f : Flags) (t : Text) : Text :=
  if f.spaced then skip false t else t

def fold (f : Flags) (s : CharSet) : CharSet :=
  if !f.caseless then s else if f.wide then s.foldingCase else s.ignoringCase

def takesAll (f : Flags) : Bool :=
  f.wide || f.ofBytes

def allowed? (f : Flags) (s : CharSet) : Option CharSet :=
  if f.takesAll || s.positive.all (fun range => range.2 < 0x80) then some s else none

def settle? (f : Flags) (isNegated : Bool) (s : CharSet) : Option CharSet :=
  f.allowed? (if isNegated then (f.fold s).complement else f.fold s)

def letters (f : Flags) : CharSet :=
  if f.wide then Character.wordSet else asciiWordSet

def class? (f : Flags) (c : Char) : Option CharSet :=
  match c with
  | 'd' => some (if f.wide then Character.digitSet else .ofRanges [(0x30, 0x39)])
  | 's' => some (if f.wide then Character.blankSet else asciiBlankSet)
  | 'w' => some f.letters
  | _ => none

def dot (f : Flags) : CharSet :=
  if f.dotAll then .all else .allBut (if f.returns then ['\n', '\r'] else ['\n'])

def start (f : Flags) : Anchor :=
  if !f.byLine then .textStart else if f.returns then .returnStart else .lineStart

def finish (f : Flags) : Anchor :=
  if !f.byLine then .textEnd else if f.returns then .returnEnd else .lineEnd

end Flags

namespace Rich

def hexDigits (f : Flags) : (count : Nat) → Text → Text × Text
  | 0, t => ([], t)
  | _ + 1, [] => ([], [])
  | count + 1, c :: rest =>
      if Text.isHexDigit c then
        let (digits, rest) := hexDigits f count (f.next rest)
        (c :: digits, rest)
      else
        ([], c :: rest)

/-- The character of a number in hexadecimal digits, of a fixed count or in braces, and the
rest. -/
def hexChar? (f : Flags) (count : Nat) (t : Text) : Option (Char × Text) :=
  match t with
  | '{' :: rest =>
      match hexDigits f rest.length (f.next rest) with
      | ([], _) => none
      | (digits, '}' :: rest) => (charOf? digits).map fun c => (c, f.next rest)
      | _ => none
  | t =>
      let (digits, rest) := hexDigits f count t
      if digits.length = count then (charOf? digits).map fun c => (c, rest) else none
where
  charOf? (digits : Text) : Option Char :=
    let n := Text.hexValue digits
    if n.isValidChar then some (Char.ofNat n) else none

def cutBy? (separator : Text) : Text → Option (Text × Text)
  | [] => none
  | c :: rest =>
      match Text.after? separator (c :: rest) with
      | some behind => some ([], behind)
      | none => (cutBy? separator rest).map fun cut => (c :: cut.1, cut.2)

def property? (t : Text) : Option (CharSet × Bool) :=
  match cutBy? ['!', '='] t with
  | some (name, value) => (Character.valued? name value).map fun s => (s, true)
  | none =>
      match (cutBy? [':'] t).or (cutBy? ['='] t) with
      | some (name, value) => (Character.valued? name value).map fun s => (s, false)
      | none => (Character.named? t).map fun s => (s, false)

def braced? (f : Flags) : (fuel : Nat) → Text → Option (Text × Text)
  | _ + 1, '}' :: rest => some ([], rest)
  | fuel + 1, c :: rest => (braced? f fuel (f.next rest)).map fun read => (c :: read.1, read.2)
  | _, _ => none

/-- The set with the property at the front, which is one letter or stands in braces, and the
rest.  There are properties only where classes are those of all scripts. -/
def propertySet? (f : Flags) (isNegated : Bool) (t : Text) : Option (CharSet × Text) := do
  guard f.wide
  match t with
  | '{' :: rest =>
      let (inside, rest) ← braced? f (rest.length + 1) (f.next rest)
      let (s, isOpposite) ← property? inside
      (f.settle? (isNegated != isOpposite) s).map fun s => (s, rest)
  | c :: rest =>
      let s ← (Character.named? [c]).bind (f.settle? isNegated)
      some (s, f.next rest)
  | [] => none

inductive Piece where
  | char (c : Char)
  | set (s : CharSet)
  | anchor (a : Anchor)

def wordPlace? (f : Flags) (t : Text) : Option (WordPlace × Text) :=
  match t with
  | '{' :: rest =>
      match braced? f (rest.length + 1) (f.next rest) with
      | some (inside, rest) =>
          (match String.ofList inside with
            | "start" => some WordPlace.start
            | "end" => some WordPlace.finish
            | "start-half" => some WordPlace.startHalf
            | "end-half" => some WordPlace.finishHalf
            | _ => none).map fun place => (place, rest)
      | none => none
  | _ => none

def escaped? (f : Flags) : Text → Option (Piece × Text)
  | 'x' :: rest => (hexChar? f 2 (f.next rest)).map fun read => (.char read.1, read.2)
  | 'u' :: rest => (hexChar? f 4 (f.next rest)).map fun read => (.char read.1, read.2)
  | 'U' :: rest => (hexChar? f 8 (f.next rest)).map fun read => (.char read.1, read.2)
  | 'p' :: rest => (propertySet? f false (f.next rest)).map fun read => (.set read.1, read.2)
  | 'P' :: rest => (propertySet? f true (f.next rest)).map fun read => (.set read.1, read.2)
  | 'A' :: rest => some (.anchor .textStart, rest)
  | 'z' :: rest => some (.anchor .textEnd, rest)
  | '<' :: rest => some (.anchor (.word .start f.letters), rest)
  | '>' :: rest => some (.anchor (.word .finish f.letters), rest)
  | 'B' :: rest => some (.anchor (.word .inside f.letters), rest)
  | 'b' :: rest =>
      match wordPlace? f rest with
      | some (place, rest) => some (.anchor (.word place f.letters), rest)
      | none => some (.anchor (.word .border f.letters), rest)
  | c :: rest =>
      match f.class? c, f.class? c.toLower with
      | some s, _ => some (.set s, rest)
      | none, some s => (f.allowed? s.complement).map fun s => (.set s, rest)
      | none, none =>
          match control? c with
          | some control => some (.char control, rest)
          | none => if c.isAlphanum || 0x80 ≤ c.toNat then none else some (.char c, rest)
  | [] => none

def startsWithByte (f : Flags) : Text → Bool
  | '\\' :: 'x' :: rest => (f.next rest).head? != some '{'
  | _ => false

inductive SetOperation where
  | intersection
  | difference
  | symmetricDifference

def SetOperation.apply (op : SetOperation) (a b : CharSet) : CharSet :=
  match op with
  | .intersection => a.intersection b
  | .difference => a.difference b
  | .symmetricDifference => a.symmetricDifference b

/-- What was read of a set between brackets: the operation that waits for its right side with
its left side, and the ranges since then. -/
structure Gathering where
  pending : Option (SetOperation × CharSet) := none
  ranges : List (Nat × Nat) := []

namespace Gathering

def result (f : Flags) (g : Gathering) : CharSet :=
  let s := CharSet.ofRanges g.ranges
  match g.pending with
  | none => s
  | some (op, left) => op.apply (f.fold left) (f.fold s)

def add (g : Gathering) (s : CharSet) : Gathering :=
  { g with ranges := s.positive ++ g.ranges }

def addChar (g : Gathering) (c : Char) : Gathering :=
  { g with ranges := (c.toNat, c.toNat) :: g.ranges }

end Gathering

def classRanges? (name : Text) : Option (List (Nat × Nat)) :=
  match String.ofList name with
  | "word" => some asciiWordSet.ranges
  | "ascii" => some [(0x00, 0x7F)]
  | _ => namedRanges? name

def namedClass? (f : Flags) : Text → Option (CharSet × Text)
  | ':' :: rest =>
      let (isNegated, t) := match rest with
        | '^' :: t => (true, t)
        | t => (false, t)
      let name := t.takeWhile (· ≠ ':')
      match t.drop name.length, classRanges? name with
      | ':' :: ']' :: rest, some ranges =>
          (f.settle? isNegated (.ofRanges ranges)).map fun s => (s, rest)
      | _, _ => none
  | _ => none

/-- One item of a set: a character, or a set that a backslash stands before.  Where classes are
those of ASCII alone, other characters are given by two hexadecimal digits, if at all. -/
def setItem? (f : Flags) (t : Text) : Option (Piece × Text) := do
  let (piece, rest) ← match t with
    | '\\' :: rest => escaped? f rest
    | c :: rest => some (.char c, rest)
    | [] => none
  match piece with
  | .char c => guard (f.takesAll || startsWithByte f t || c.toNat < 0x80)
  | _ => pure ()
  some (piece, rest)

/-- The character to come that counts, as far as one can tell without reading a comment: the
first one of a comment that is not blank is taken for it. -/
def peek (f : Flags) (t : Text) : Option Char :=
  if f.spaced then
    match t.dropWhile Text.isBlank with
    | '#' :: rest => (rest.dropWhile Text.isBlank).head?
    | t => t.head?
  else
    t.head?

def addItem? (f : Flags) (g : Gathering) (t : Text) : Option (Gathering × Text) := do
  let (low, rest) ← setItem? f t
  let single : Option (Gathering × Text) := match low with
    | .char c => some (g.addChar c, rest)
    | .set s => some (g.add s, rest)
    | .anchor _ => none
  match f.next rest with
  | '-' :: behind =>
      match peek f behind with
      | some ']' | some '-' => single
      | _ =>
          match low, ← setItem? f (f.next behind) with
          | .char a, (.char b, rest) =>
              if b < a then none else some ({ g with ranges := (a.toNat, b.toNat) :: g.ranges }, rest)
          | _, _ => none
  | _ => single

def addDashes (f : Flags) (g : Gathering) : (fuel : Nat) → Text → Gathering × Text
  | fuel + 1, '-' :: rest => addDashes f (g.addChar '-') fuel (f.next rest)
  | _, t => (g, t)

mutual

def setItems? (f : Flags) : (fuel : Nat) → Gathering → Text → Option (CharSet × Text)
  | 0, _, _ => none
  | fuel + 1, g, t =>
      let goOn (op : SetOperation) (rest : Text) : Option (CharSet × Text) :=
        setItems? f fuel { pending := some (op, g.result f) } rest
      match f.next t with
      | ']' :: rest => some (g.result f, rest)
      | '&' :: '&' :: rest => goOn .intersection rest
      | '-' :: '-' :: rest => goOn .difference rest
      | '~' :: '~' :: rest => goOn .symmetricDifference rest
      | '[' :: rest =>
          match (namedClass? f rest).or (bracketed? f fuel rest) with
          | some (s, rest) => setItems? f fuel (g.add s) rest
          | none => none
      | t =>
          match addItem? f g t with
          | some (g, rest) => setItems? f fuel g rest
          | none => none

/-- Reads a set after its opening bracket.  Dashes and then a closing bracket at its front
stand for themselves. -/
def bracketed? (f : Flags) : (fuel : Nat) → Text → Option (CharSet × Text)
  | 0, _ => none
  | fuel + 1, t =>
      let (isNegated, t) := match f.next t with
        | '^' :: rest => (true, f.next rest)
        | t => (false, t)
      let (g, t) := addDashes f {} t.length t
      let (g, t) := match g.ranges, t with
        | [], ']' :: rest => (g.addChar ']', f.next rest)
        | _, t => (g, t)
      match setItems? f fuel g t with
      | some (s, rest) => (f.settle? isNegated s).map fun s => (s, rest)
      | none => none

end

/-- Takes a decimal number of at most 32 bits off the front, with the blanks around it. -/
def decimal (f : Flags) (t : Text) : Option Nat × Text :=
  let (digits, rest) := digitsOf t.length (t.dropWhile Text.isBlank)
  let n := Text.decimalValue digits
  (if digits.isEmpty || Nat.pow 2 32 ≤ n then none else some n, rest.dropWhile Text.isBlank)
where
  digitsOf : (fuel : Nat) → Text → Text × Text
    | fuel + 1, c :: rest =>
        if c.isDigit then
          let (digits, rest) := digitsOf fuel (f.next rest)
          (c :: digits, rest)
        else
          ([], c :: rest)
    | _, t => ([], t)

def bounds? (f : Flags) (t : Text) : Option (Nat × Option Nat × Text) :=
  match decimal f (f.next t) with
  | (some least, ',' :: rest) =>
      match f.next rest with
      | '}' :: rest => some (least, none, f.next rest)
      | rest =>
          match decimal f rest with
          | (some most, '}' :: rest) =>
              if most < least then none else some (least, some most, f.next rest)
          | _ => none
  | (some count, '}' :: rest) => some (count, some count, f.next rest)
  | _ => none

def repetition (least : Nat) (most : Option Nat) (rest : Text) : Symbol × Text :=
  match rest with
  | '?' :: rest => (.repetition least most false, rest)
  | rest => (.repetition least most true, rest)

def symbolOf (f : Flags) : Piece → Symbol
  | .char c => .atom (.one (f.fold (.single c)))
  | .set s => .atom (.one s)
  | .anchor a => .atom (.anchor a)

def symbol? (f : Flags) (t : Text) : Option (Symbol × Text) :=
  match t with
  | '(' :: rest => some (.opening true, rest)
  | ')' :: rest => some (.closing, rest)
  | '|' :: rest => some (.bar, rest)
  | '*' :: rest => some (repetition 0 none rest)
  | '+' :: rest => some (repetition 1 none rest)
  | '?' :: rest => some (repetition 0 (some 1) rest)
  | '{' :: rest => (bounds? f rest).map fun b => repetition b.1 b.2.1 b.2.2
  | '^' :: rest => some (.atom (.anchor f.start), rest)
  | '$' :: rest => some (.atom (.anchor f.finish), rest)
  | '.' :: rest => (f.allowed? f.dot).map fun s => (.atom (.one s), rest)
  | '[' :: rest => (bracketed? f (2 * rest.length + 2) rest).map fun read => (.atom (.one read.1), read.2)
  | '\\' :: rest =>
      match escaped? f rest with
      | some (.char c, behind) =>
          if !f.takesAll && startsWithByte f t && 0x80 ≤ c.toNat then none
          else some (symbolOf f (.char c), behind)
      | read => read.map fun read => (symbolOf f read.1, read.2)
  | c :: rest => some (symbolOf f (.char c), rest)
  | [] => none

def isGroupName : Text → Bool
  | [] => false
  | c :: rest =>
      let letters := Character.nameLetterSet
      let numbers := Character.nameNumberSet
      (c == '_' || letters.has c) &&
        rest.all fun c => "_.[]".toList.contains c || letters.has c || numbers.has c

/-- What follows an opening parenthesis and a question mark: a group, which may have a name,
with the flags inside it, or flags for the rest of the group around it. -/
inductive GroupKind where
  | named (name : Text)
  | plain (f : Flags)
  | flags (f : Flags)

def groupKind? (f : Flags) (t : Text) : Option (GroupKind × Text) :=
  match t with
  | 'P' :: '<' :: rest | '<' :: rest =>
      let name := rest.takeWhile (· ≠ '>')
      match rest.drop name.length with
      | _ :: rest => if isGroupName name then some (.named name, rest) else none
      | [] => none
  | t => do
      let marks := t.takeWhile fun c => c != ':' && c != ')'
      let changed ← f.change? marks
      match t.drop marks.length with
      | ':' :: rest => some (.plain changed, rest)
      | _ :: rest => if marks.isEmpty then none else some (.flags changed, rest)
      | [] => none

def isRepetition (t : Text) : Bool :=
  match t with
  | c :: _ => "*+?\x7b".toList.contains c
  | [] => false

/-- The symbols of an expression, under the flags of the open groups, the innermost first, and
with the names of the groups so far.  Flags are nothing that can be repeated. -/
def symbols (f : Flags) : (fuel : Nat) → (names : List Text) → List Flags → Text →
    Option (List Symbol)
  | 0, _, _, _ => none
  | fuel + 1, names, flags, t =>
      let inner := flags.headD f
      match inner.next t with
      | [] => some []
      | t =>
          let question : Option Text := match t with
            | '(' :: rest =>
                match inner.next rest with
                | '?' :: rest => some rest
                | _ => none
            | _ => none
          match question with
          | some rest => do
              match ← groupKind? inner rest with
              | (.flags changed, rest) =>
                  guard (!isRepetition (changed.next rest))
                  symbols f fuel names (changed :: flags.tail) rest
              | (.plain changed, rest) =>
                  let others ← symbols f fuel names (changed :: inner :: flags.tail) rest
                  some (.opening false :: others)
              | (.named name, rest) =>
                  guard (!names.contains name)
                  let others ← symbols f fuel (name :: names) (inner :: inner :: flags.tail) rest
                  some (.opening true :: others)
          | none => do
              let (symbol, rest) ← symbol? inner t
              let flags := match symbol with
                | .opening _ => inner :: inner :: flags.tail
                | .closing => flags.tail
                | _ => flags
              let others ← symbols f fuel names flags rest
              some (symbol :: others)

def read? (f : Flags) (t : Text) : Option Regex := do
  let ss ← symbols f (t.length + 1) [] [f] t
  ofSymbols? false ss

end Rich

end Regex

end Imprint
