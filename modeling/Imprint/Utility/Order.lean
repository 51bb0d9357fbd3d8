import Imprint.Utility.Output
import Imprint.Utility.Excerpt

/-!
# Utilities about the order of lines

The utilities that sort lines, and join equal lines that follow one another.
-/

namespace Imprint

namespace Utility

open Imprint.Task

inductive KeyOrder where
  | text
  | number
deriving DecidableEq

structure KeyManner where
  order : KeyOrder := .text
  backwards : Bool := false
  caseless : Bool := false
  skipsStartBlanks : Bool := false
  skipsEndBlanks : Bool := false
  onlyWords : Bool := false
  onlyShown : Bool := false
deriving DecidableEq

/-- A key of lines: from a character of a field on, up to one of another. -/
structure Key where
  startField : Nat := 0
  startChar : Nat := 0
  stop : Option (Nat × Nat) := none
  manner : KeyManner := {}

namespace KeyManner

def take? (m : KeyManner) (c : Char) : Option KeyManner :=
  match c with
  | 'n' => some { m with order := .number }
  | 'r' => some { m with backwards := true }
  | 'f' => some { m with caseless := true }
  | 'd' => some { m with onlyWords := true }
  | 'i' => some { m with onlyShown := true }
  | 'b' => some { m with skipsStartBlanks := true, skipsEndBlanks := true }
  | _ => none

def seen (m : KeyManner) (t : Text) : Text :=
  let t := if m.onlyWords then t.filter fun c => c.isAlphanum || c == ' ' || c == '\t' else t
  let t := if m.onlyShown then t.filter Text.isShown else t
  if m.caseless then t.map Char.toUpper else t

end KeyManner

def isFieldBlank (c : Char) : Bool :=
  c == ' ' || c == '\t' || c == '\n'

def leadingDecimal (t : Text) : Decimal :=
  let body := t.dropWhile isFieldBlank
  let (isNegative, body) := match body with
    | '-' :: rest => (true, rest)
    | rest => (false, rest)
  let whole := body.takeWhile Char.isDigit
  let places := match body.drop whole.length with
    | '.' :: rest => rest.takeWhile Char.isDigit
    | _ => []
  let n := Text.decimalValue (whole ++ places)
  ⟨if isNegative then -(n : Int) else n, places.length⟩

def Decimal.order (a b : Decimal) : Ordering :=
  let places := max a.places b.places
  compare (a.withPlaces places) (b.withPlaces places)

def textOrder (a b : Text) : Ordering :=
  if a = b then .eq else if a < b then .lt else .gt

def KeyManner.compare (m : KeyManner) (a b : Text) : Ordering :=
  let order := match m.order with
    | .text => textOrder (m.seen a) (m.seen b)
    | .number => Decimal.order (leadingDecimal a) (leadingDecimal b)
  if m.backwards then order.swap else order

def behindFields (separator : Option Char) : (count : Nat) → Text → Text
  | 0, t => t
  | count + 1, t =>
      match separator with
      | some c => behindFields separator count ((t.dropWhile (· ≠ c)).drop 1)
      | none =>
          behindFields separator count
            ((t.dropWhile isFieldBlank).dropWhile fun c => !isFieldBlank c)

def lengthOfFields (separator : Option Char) (t : Text) : (count : Nat) → Nat
  | 0 => 0
  | 1 =>
      match separator with
      | some c => (t.takeWhile (· ≠ c)).length
      | none => t.length - (behindFields none 1 t).length
  | count + 1 =>
      let rest := behindFields separator 1 t
      if rest.isEmpty then t.length
      else (t.length - rest.length) + lengthOfFields separator rest count

def Key.text (k : Key) (separator : Option Char) (line : Text) : Text :=
  let start := behindFields separator k.startField line
  let start := if k.manner.skipsStartBlanks then start.dropWhile isFieldBlank else start
  let start := start.drop k.startChar
  let first := line.length - start.length
  match k.stop with
  | none => start
  | some (field, 0) => start.take (lengthOfFields separator line (field + 1) - first)
  | some (field, char) =>
      let rest := behindFields separator field line
      let rest := if k.manner.skipsEndBlanks then rest.dropWhile isFieldBlank else rest
      start.take (line.length - (rest.drop char).length - first)

structure Sorting where
  keys : List Key := []
  whole : KeyManner := {}
  separator : Option Char := none
  isStable : Bool := false
  isUnique : Bool := false

namespace Sorting

def compareKeys (s : Sorting) (a b : Text) : Ordering :=
  match s.keys with
  | [] => s.whole.compare a b
  | keys =>
      keys.foldl
        (fun order k =>
          if order == .eq then
            k.manner.compare (k.text s.separator a) (k.text s.separator b)
          else
            order)
        .eq

def compare (s : Sorting) (a b : Text) : Ordering :=
  match s.compareKeys a b with
  | .eq =>
      if s.isStable || s.isUnique then .eq
      else if s.whole.backwards then (textOrder a b).swap
      else textOrder a b
  | other => other

def distinct (s : Sorting) : List Text → List Text
  | [] => []
  | [line] => [line]
  | a :: b :: rest =>
      if s.compareKeys a b == .eq then distinct s (a :: rest) else a :: distinct s (b :: rest)

def sort (s : Sorting) (lines : List Text) : List Text :=
  let sorted := lines.mergeSort fun a b => s.compare a b != .gt
  if s.isUnique then s.distinct sorted else sorted

end Sorting

def readKeyPlace (t : Text) (isStart : Bool) : Except Text (Nat × Nat × Text) := do
  let blanks := t.takeWhile Char.isWhitespace
  let digits := (t.drop blanks.length).takeWhile Char.isDigit
  let place := if isStart then "field start" else "','"
  if digits.isEmpty then
    throw ((if isStart then "invalid number at field start" else "invalid number after ','").toList ++
      ": invalid count at start of ".toList ++ Text.inPlainQuotes t)
  let field := Text.decimalValue digits
  if field = 0 then
    throw "field number is zero".toList
  let rest := t.drop (blanks.length + digits.length)
  match rest with
  | '.' :: more =>
      let chars := more.takeWhile Char.isDigit
      if chars.isEmpty then
        throw ("invalid number after '.': invalid count at start of ".toList ++ Text.inPlainQuotes more)
      let char := Text.decimalValue chars
      if char = 0 ∧ isStart then
        throw "character offset is zero".toList
      pure (field, char, more.drop chars.length)
  | rest => if place.isEmpty then throw [] else pure (field, 0, rest)

def readKey (spec : Text) : Except Text Key := do
  let about (t : Text) : Text :=
    if (String.ofList t).contains "invalid count" then t
    else t ++ ": invalid field specification ".toList ++ Text.inPlainQuotes spec
  let place (t : Text) (isStart : Bool) : Except Text (Nat × Nat × Text) :=
    match readKeyPlace t isStart with
    | .ok read => .ok read
    | .error t => .error (about t)
  let letters (t : Text) : Text × Text :=
    let found := t.takeWhile fun c => c != ','
    (found, t.drop found.length)
  let manner (atStart : Bool) (m : KeyManner) (t : Text) : Except Text KeyManner :=
    t.foldlM
      (fun m c =>
        if c = 'b' then
          .ok (if atStart then { m with skipsStartBlanks := true } else { m with skipsEndBlanks := true })
        else
          match m.take? c with
          | some m => .ok m
          | none => .error (about "stray character in field spec".toList))
      m
  let (field, char, rest) ← place spec true
  let (found, rest) := letters rest
  let m ← manner true {} found
  let k : Key := { startField := field - 1, startChar := char - 1, manner := m }
  match rest with
  | ',' :: rest =>
      let (field, char, rest) ← place rest false
      let (found, rest) := letters rest
      let m ← manner false m found
      if !rest.isEmpty then
        throw (about "stray character in field spec".toList)
      pure { k with stop := some (field - 1, char), manner := m }
  | _ => pure k

def fieldSeparator (t : Text) : Except Text Char :=
  match t with
  | [] => .error "empty tab".toList
  | [c] => .ok c
  | ['\\', '0'] => .ok '\x00'
  | t => .error ("multi-character tab ".toList ++ Text.inPlainQuotes t)

def sortCheck (g : Given) : Option Complaint :=
  let faultIn {α : Type} (read : Except Text α) : Option Complaint :=
    match read with
    | .ok _ => none
    | .error t => some (.plain t)
  match g.name with
  | "key" => faultIn (readKey g.value)
  | "field-separator" => faultIn (fieldSeparator g.value)
  | _ => none

def sort : Utility := fun _ arguments => do
  let forms :=
    [flag 'b' "ignore-leading-blanks", flag 'd' "dictionary-order", flag 'f' "ignore-case",
      flag 'i' "ignore-nonprinting", flag 'n' "numeric-sort", flag 'r' "reverse", flag 'c' "check",
      flag 'C' "check-quiet", valued 'k' "key", valued 'o' "output", flag 's' "stable",
      valued 't' "field-separator", flag 'u' "unique", flag 'z' "zero-terminated"]
  let (given, operands) ← optionsBy { forms := forms, check := sortCheck } arguments 2
  let letters := forms.filterMap fun f => if has given f.name then f.letter else none
  let whole := letters.foldl (fun m c => (KeyManner.take? m c).getD m) {}
  let read := (given.filter fun g => g.name == "key").filterMap fun g => (readKey g.value).toOption
  let keys := read.map fun k => if k.manner = {} then { k with manner := whole } else k
  let separator := (value? given "field-separator").bind fun t => (fieldSeparator t).toOption
  let s : Sorting :=
    { keys := keys
      whole := whole
      separator := separator
      isStable := has given "stable"
      isUnique := has given "unique" }
  let ending := separatorOf given
  let checks := has given "check" || has given "check-quiet"
  let mut lines : List Text := []
  for operand in orInput operands do
    match ← contents operand with
    | .ok t => lines := lines ++ Text.bareRecords ending t
    | .error .isDirectory =>
        fail 2 ("read failed: ".toList ++ Text.asShellWord operand ++ ": Is a directory".toList)
    | .error cause =>
        fail 2 ((if checks then "open failed: ".toList else "cannot read: ".toList) ++
          Text.asShellWord operand ++ ": ".toList ++ cause.wording)
  if checks then
    let isWrong (a b : Text) : Bool :=
      let order := s.compare a b
      order == .gt || (s.isUnique && order == .eq)
    let pairs := (lines.zip (lines.drop 1)).zipIdx
    match pairs.find? fun p => isWrong p.1.1 p.1.2 with
    | none => return 0
    | some (pair, index) =>
        unless has given "check-quiet" do
          complain ((operands.headD ['-']) ++ ':' :: Radix.decimal.numeral (index + 2) ++
            ": disorder: ".toList ++ pair.2)
        return 1
  let t := (s.sort lines).flatMap fun line => line ++ [ending]
  match value? given "output" with
  | none => out t
  | some path =>
      match ← writeFile path .writing t with
      | .ok () => pure ()
      | .error cause =>
          fail 2 ("open failed: ".toList ++ Text.asShellWord path ++ ": ".toList ++ cause.wording)
  return 0

def runsOf (seen : Text → Text) : List Text → List (List Text)
  | [] => []
  | line :: rest =>
      match runsOf seen rest with
      | (next :: run) :: others =>
          if seen line = seen next then (line :: next :: run) :: others else [line] :: (next :: run) :: others
      | others => [line] :: others

/-- How many fields are skipped after another option; digits by themselves make up one number. -/
def fieldsAfter (fields : Option (Nat × Bool)) (g : Given) : Option (Nat × Bool) :=
  if g.name = "skip-fields" then (Text.natural? g.value).map fun n => (n, false)
  else
    match Text.natural? g.name.toList, fields with
    | none, _ => fields
    | some digit, some (n, true) => some (10 * n + digit, true)
    | some digit, _ => some (digit, true)

def uniq : Utility := fun _ arguments => do
  let forms := "0123456789".toList.map (fun c => flag c "") ++
    [flag 'c' "count", flag 'd' "repeated", flag 'D' "", ⟨none, "all-repeated", .joined⟩,
      valued 'f' "skip-fields", flag 'i' "ignore-case", valued 's' "skip-chars", flag 'u' "unique",
      flag 'z' "zero-terminated", valued 'w' "check-chars"]
  let check (g : Given) : Option Complaint :=
    let number (what : String) : Option Complaint :=
      if (Text.natural? g.value).isSome then none
      else some (.plain (g.value ++ ": invalid number of ".toList ++ what.toList))
    match g.name with
    | "skip-fields" => number "fields to skip"
    | "skip-chars" => number "bytes to skip"
    | "check-chars" => number "bytes to compare"
    | _ => none
  let (given, operands) ← optionsBy { forms := forms, check := check } arguments 1
  let numberOf (name : String) : Option Nat := (value? given name).bind Text.natural?
  let fields := (given.foldl fieldsAfter none).map Prod.fst
  let chars := numberOf "skip-chars"
  let width := numberOf "check-chars"
  match operands with
  | _ :: _ :: extra :: _ => misuse 1 ("extra operand ".toList ++ Text.inPlainQuotes extra)
  | _ => pure ()
  let operand := operands.headD ['-']
  let t ← match ← contents operand with
    | .ok t => pure t
    | .error .isDirectory =>
        fail 1 ("error reading ".toList ++ Text.inShellQuotes operand ++ ": Is a directory".toList)
    | .error cause => do
        refuse operand cause
        finish 1
  let seen (line : Text) : Text :=
    let t := (behindFields none (fields.getD 0) line).drop (chars.getD 0)
    let t := match width with
      | some n => t.take n
      | none => t
    if has given "ignore-case" then t.map Char.toUpper else t
  let ending := separatorOf given
  let runs := runsOf seen (Text.bareRecords ending t)
  let showsAll := has given "D" || has given "all-repeated"
  let wanted (run : List Text) : List Text :=
    let isRepeated := 1 < run.length
    if showsAll then (if isRepeated then run else [])
    else if (has given "repeated" && !isRepeated) || (has given "unique" && isRepeated) then []
    else
      let count := Radix.decimal.numeral run.length
      run.take 1 |>.map fun line =>
        if has given "count" then List.replicate (7 - count.length) ' ' ++ count ++ ' ' :: line else line
  let result := (runs.flatMap wanted).flatMap fun line => line ++ [ending]
  match operands with
  | [_, path] =>
      match ← writeFile path .writing result with
      | .ok () => return 0
      | .error cause =>
          refuse path cause
          return 1
  | _ =>
      out result
      return 0

end Utility

end Imprint
