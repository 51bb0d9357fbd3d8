import Imprint.Text.Format
import Imprint.Text.Records
import Imprint.Utility.Options

/-!
# Utilities that show files

The utilities that print files or parts of them: whole, from the front, or from the back.
-/

namespace Imprint

namespace Utility

open Imprint.Task

def refuse (operand : Text) (cause : Cause) : Task Unit :=
  complain (Text.asShellWord operand ++ ": ".toList ++ cause.wording)

def orInput (operands : List Text) : List Text :=
  if operands.isEmpty then [['-']] else operands

structure Marking where
  hidden : Bool := false
  tabs : Bool := false
  ends : Bool := false

def Marking.char (m : Marking) (c : Char) : Text :=
  if c = '\n' then ['\n']
  else if c = '\t' then (if m.tabs then ['^', 'I'] else ['\t'])
  else if !m.hidden then [c]
  else
    let n := c.toNat
    let (lead, n) := if 128 ≤ n then (['M', '-'], n - 128) else ([], n)
    lead ++
      if n < 32 then ['^', Char.ofNat (n + 64)]
      else if n = 127 then ['^', '?']
      else [Char.ofNat n]

def Marking.line (m : Marking) (t : Text) : Text :=
  let isEnded := t.getLast? = some '\n'
  let body := if isEnded then t.dropLast else t
  let shown :=
    if m.ends && !m.hidden && isEnded && body.getLast? = some '\r' then
      body.dropLast.flatMap m.char ++ ['^', 'M']
    else
      body.flatMap m.char
  shown ++ if isEnded then (if m.ends then ['$', '\n'] else ['\n']) else []

inductive Numbering where
  | none
  | all
  | filled
deriving DecidableEq

def numberLines (numbering : Numbering) : (next : Nat) → (atStart : Bool) → List Text → List Text
  | _, _, [] => []
  | next, atStart, t :: rest =>
      let isNumbered := atStart && match numbering with
        | .none => false
        | .all => true
        | .filled => t ≠ ['\n']
      let digits := Radix.decimal.numeral next
      let lead := if isNumbered then List.replicate (6 - digits.length) ' ' ++ digits ++ ['\t'] else []
      (lead ++ t) :: numberLines numbering (if isNumbered then next + 1 else next)
        (t.getLast? = some '\n') rest

def squeezeLines : (wasEmpty : Bool) → List Text → List Text
  | _, [] => []
  | wasEmpty, t :: rest =>
      let isEmpty := t == ['\n']
      if wasEmpty && isEmpty then squeezeLines true rest
      else t :: squeezeLines isEmpty rest

def cat : Utility := fun _ arguments => do
  let forms :=
    [flag 'A' "show-all", flag 'b' "number-nonblank", ⟨some 'e', "", .never⟩, flag 'E' "show-ends",
      flag 'n' "number", flag 's' "squeeze-blank", ⟨some 't', "", .never⟩, flag 'T' "show-tabs",
      flag 'v' "show-nonprinting", ⟨some 'u', "", .never⟩]
  let (given, operands) ← options forms arguments 1
  let all := has given "show-all"
  let m : Marking :=
    { hidden := all || has given "e" || has given "t" || has given "show-nonprinting"
      tabs := all || has given "t" || has given "show-tabs"
      ends := all || has given "e" || has given "show-ends" }
  let numbering : Numbering :=
    if has given "number-nonblank" then .filled else if has given "number" then .all else .none
  let isPlain := given.all fun g => g.name == "u"
  let mut status := 0
  let mut text : Text := []
  for operand in orInput operands do
    match ← contents operand with
    | .ok t => if isPlain then out t else text := text ++ t
    | .error cause =>
        refuse operand cause
        status := 1
  unless isPlain do
    let lines := Text.records '\n' text
    let lines := if has given "squeeze-blank" then squeezeLines false lines else lines
    out ((numberLines numbering 1 true lines).flatMap m.line)
  return status

def factor? (t : Text) : Option Nat :=
  let powers : Text := "KMGTPEZYRQ".toList
  match t with
  | [] => some 1
  | ['b'] => some 512
  | c :: rest =>
      match powers.idxOf? (if c = 'k' ∨ c = 'm' then c.toUpper else c) with
      | none => none
      | some n =>
          if rest = [] ∨ rest = "iB".toList then some (Nat.pow 1024 (n + 1))
          else if rest = ['B'] then some (Nat.pow 1000 (n + 1))
          else none

/-- A count, which may have letters behind it; letters alone stand for one of what they mean. -/
def count? (t : Text) : Option Nat :=
  let t := match t.dropWhile Char.isWhitespace with
    | '+' :: rest => rest
    | t => t
  let digits := t.takeWhile Char.isDigit
  let letters := t.drop digits.length
  if t.isEmpty then none
  else (factor? letters).map fun n => if digits.isEmpty then n else Text.decimalValue digits * n

/-- Which part of a text is shown: by bytes or by records, from which end, and how many of
them. -/
structure Extent where
  byBytes : Bool := false
  isCounted : Bool := true
  count : Nat := 10

def Extent.parts (e : Extent) (separator : Char) (t : Text) : List Text :=
  if e.byBytes then t.map fun c => [c] else Text.records separator t

def Extent.front (e : Extent) (separator : Char) (t : Text) : Text :=
  let parts := e.parts separator t
  (parts.take (if e.isCounted then e.count else parts.length - e.count)).flatten

def Extent.back (e : Extent) (separator : Char) (t : Text) : Text :=
  let parts := e.parts separator t
  (parts.drop (if e.isCounted then parts.length - e.count else e.count - 1)).flatten

def showParts (withNames : Bool) (operands : List Text) (part : Text → Text)
    (putsBack : Bool) : Task Nat := do
  let mut status := 0
  let mut isFirst := true
  for operand in operands do
    let title (name : Text) : Task Unit := do
      if withNames then
        out ((if isFirst then [] else ['\n']) ++ "==> ".toList ++ name ++ " <==\n".toList)
    match ← contents operand with
    | .ok t =>
        title (if operand = ['-'] then "standard input".toList else operand)
        isFirst := false
        let shown := part t
        out shown
        if putsBack && isInput operand then
          giveBack (t.length - shown.length)
    | .error .isDirectory =>
        title operand
        isFirst := false
        complain ("error reading ".toList ++ Text.inShellQuotes operand ++ ": Is a directory".toList)
        status := 1
    | .error cause =>
        complain ("cannot open ".toList ++ Text.inShellQuotes operand ++ " for reading: ".toList ++
          cause.wording)
        status := 1
  return status

def partForms : List OptionForm :=
  [valued 'n' "lines", valued 'c' "bytes", flag 'q' "quiet", flag 'q' "silent",
    flag 'v' "verbose", flag 'z' "zero-terminated"]

/-- The number behind a dash at the front of the arguments, with letters behind it, as
options. -/
def dashedCount? (t : Text) : Option (Except Char (List Given)) :=
  match t with
  | '-' :: rest =>
      let digits := rest.takeWhile Char.isDigit
      if digits.isEmpty then none
      else
        let letters := rest.drop digits.length
        match letters.find? fun c => !"ckbmlqvz".toList.contains c with
        | some c => some (.error c)
        | none =>
            let size := letters.filter fun c => "kbm".toList.contains c
            let byBytes := letters.contains 'c' || !size.isEmpty
            some (.ok
              ({ name := if byBytes then "bytes" else "lines", value := digits ++ size } ::
                (if letters.contains 'q' then [{ name := "quiet" }] else []) ++
                (if letters.contains 'v' then [{ name := "verbose" }] else []) ++
                if letters.contains 'z' then [{ name := "zero-terminated" }] else []))
  | _ => none

/-- The part that an option asks for, or what is wrong with its value; `mark` stands before a
count that is not of the usual kind. -/
def readExtent (mark : Char) (g : Given) : Except Complaint Extent :=
  let byBytes := g.name = "bytes"
  let (isCounted, t) := match g.value with
    | c :: rest =>
        if c = mark then (false, rest) else if c = '-' then (true, rest) else (true, g.value)
    | [] => (true, [])
  let refused := (if byBytes then "invalid number of bytes: ".toList
    else "invalid number of lines: ".toList) ++ Text.inPlainQuotes t
  match count? t with
  | none => .error (.plain refused)
  | some count =>
      if Nat.pow 2 64 ≤ count then
        .error (.plain (refused ++ ": Value too large for defined data type".toList))
      else
        .ok ⟨byBytes, isCounted, count⟩

/-- What is wrong with the value of an option of a utility that shows parts of files. -/
def partCheck (mark : Char) (g : Given) : Option Complaint :=
  match g.name with
  | "lines" | "bytes" => faultOf (readExtent mark g)
  | "sleep-interval" =>
      match readFraction? 64 g.value with
      | some (false, _, []) => none
      | _ => some (.plain ("invalid number of seconds: ".toList ++ Text.inPlainQuotes g.value))
  | "pid" =>
      if (Text.natural? g.value).isSome then none
      else some (.plain ("invalid PID: ".toList ++ Text.inPlainQuotes g.value))
  | "max-unchanged-stats" =>
      if (Text.natural? g.value).isSome then none
      else some (.plain ("invalid maximum number of unchanged stats between opens: ".toList ++
        Text.inPlainQuotes g.value))
  | "follow" =>
      if g.value.isEmpty then none
      else faultOf (choice "follow" ["descriptor", "name"] g.value)
  | _ => none

def extentOf (mark : Char) (given : List Given) : Task Extent := do
  let mut e : Extent := {}
  for g in given do
    if g.name = "lines" ∨ g.name = "bytes" then
      e ← match readExtent mark g with
        | .ok extent => pure extent
        | .error complaint => complainOf complaint 1
  return e

def showsNames (given : List Given) (operands : List Text) : Bool :=
  match given.reverse.find? fun g => ["quiet", "silent", "verbose"].contains g.name with
  | some g => g.name == "verbose"
  | none => 1 < operands.length

def separatorOf (given : List Given) : Char :=
  if has given "zero-terminated" then '\x00' else '\n'

def head : Utility := fun _ arguments => do
  let (front, arguments) ← match arguments with
    | first :: rest =>
        match dashedCount? first with
        | some (.ok given) => pure (given, rest)
        | some (.error c) => misuse 1 ("invalid trailing option -- ".toList ++ [c])
        | none => pure ([], arguments)
    | [] => pure ([], arguments)
  let (given, operands) ← optionsBy { forms := partForms, check := partCheck '-' } arguments 1
  let given := front ++ given
  let e ← extentOf '-' given
  let operands := orInput operands
  showParts (showsNames given operands) operands (e.front (separatorOf given)) true

/-- The count of an argument in the old form, if there is at most one more argument. -/
def oldTailCount? (arguments : List Text) : Option (Given × List Text) :=
  match arguments with
  | (sign :: t) :: rest =>
      let digits := t.takeWhile Char.isDigit
      let letters := t.drop digits.length
      if (sign = '-' ∨ sign = '+') ∧ rest.length ≤ 1 ∧ (digits ≠ [] ∨ sign = '+') ∧
          letters.all (fun c => "bclf".toList.contains c) ∧
          ["".toList, "b".toList, "c".toList, "l".toList, "f".toList].contains letters then
        let count := if digits.isEmpty then "10".toList else digits
        let count := if letters.contains 'b' then count ++ ['b'] else count
        let name := if letters.contains 'b' || letters.contains 'c' then "bytes" else "lines"
        some ({ name := name, value := if sign = '+' then '+' :: count else count }, rest)
      else
        none
  | _ => none

def tail : Utility := fun _ arguments => do
  let (front, arguments) := match oldTailCount? arguments with
    | some (g, rest) => ([g], rest)
    | none => ([], arguments)
  match arguments with
  | ('-' :: c :: _) :: _ =>
      if c.isDigit then
        fail 1 ("option used in invalid context -- ".toList ++ [c])
  | _ => pure ()
  let forms := partForms ++
    [flag 'f' "", flag 'F' "", ⟨none, "follow", .joined⟩, ⟨none, "retry", .never⟩,
      valued 's' "sleep-interval", ⟨none, "pid", .always⟩, ⟨none, "max-unchanged-stats", .always⟩]
  let (given, operands) ← optionsBy { forms := forms, check := partCheck '+' } arguments 1
  let given := front ++ given
  let e ← extentOf '+' given
  if has given "retry" && !(has given "f" || has given "F" || has given "follow") then
    complain "warning: --retry ignored; --retry is useful only when following".toList
  let operands := orInput operands
  showParts (showsNames given operands) operands (e.back (separatorOf given)) false

end Utility

end Imprint
