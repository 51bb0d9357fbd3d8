import Imprint.Utility.Files

/-!
# The utility that works in blocks

Data is passed on in blocks of a size, and may be changed on the way.
-/

namespace Imprint

namespace Utility

open Imprint.Task

structure Amount where
  count : Nat
  isBytes : Bool := false

def Amount.size (a : Amount) (blockSize : Nat) : Nat :=
  if a.isBytes then a.count else a.count * blockSize

/-- A number with letters for a factor behind it; a lone `B` says that bytes are meant. -/
def amountFactor? (t : Text) : Option Amount :=
  let digits := t.takeWhile Char.isDigit
  let value := Text.decimalValue digits
  if digits.isEmpty then none
  else
    match t.drop digits.length with
    | ['c'] => some ⟨value, false⟩
    | ['w'] => some ⟨2 * value, false⟩
    | ['B'] => some ⟨value, true⟩
    | letters => (factor? letters).map fun n => ⟨n * value, letters.getLast? = some 'B'⟩

def amount? (t : Text) : Option Amount := do
  let factors ← (cutAt 'x' t).mapM amountFactor?
  return ⟨(factors.map Amount.count).foldl (· * ·) 1, factors.any Amount.isBytes⟩

/-- How data is passed on: where from and to, in blocks of which sizes, and how much of it. -/
structure Transfer where
  source : Option Text := none
  target : Option Text := none
  inputSize : Nat := 512
  outputSize : Nat := 512
  recordSize : Nat := 0
  skipped : Amount := ⟨0, false⟩
  sought : Amount := ⟨0, false⟩
  limit : Option Amount := none
  conversions : List String := []
  inputFlags : List String := []
  outputFlags : List String := []
  status : String := ""

namespace Transfer

def knownConversions : List String :=
  ["ascii", "block", "ebcdic", "excl", "fdatasync", "fsync", "ibm", "lcase", "nocreat", "noerror",
    "notrunc", "sparse", "swab", "sync", "ucase", "unblock"]

def knownFlags : List String :=
  ["append", "binary", "cio", "count_bytes", "direct", "directory", "dsync", "fullblock", "noatime",
    "nocache", "noctty", "nofollow", "nolinks", "nonblock", "seek_bytes", "skip_bytes", "sync", "text"]

def exclusions : List (String × String) :=
  [("block", "unblock"), ("lcase", "ucase"), ("excl", "nocreat")]

def names (known : List String) (what : String) (value : Text) : Except (Bool × Text) (List String) :=
  (cutAt ',' value).mapM fun name =>
    if known.contains (String.ofList name) then .ok (String.ofList name)
    else .error (true, "invalid ".toList ++ what.toList ++ ": ".toList ++ Text.inPlainQuotes name)

def note (t : Transfer) (operand : Text) : Except (Bool × Text) Transfer := do
  let name := operand.takeWhile (· ≠ '=')
  let unknown : Except (Bool × Text) Transfer :=
    .error (true, "unrecognized operand ".toList ++ Text.inPlainQuotes operand)
  match operand.drop name.length with
  | [] => unknown
  | _ :: value =>
      let number : Except (Bool × Text) Amount :=
        match amount? value with
        | some a => .ok a
        | none => .error (false, "invalid number: ".toList ++ Text.inPlainQuotes value)
      let size : Except (Bool × Text) Nat := do
        let a ← number
        if a.count = 0 then
          throw (false, "invalid number: ".toList ++ Text.inPlainQuotes value)
        return a.count
      match String.ofList name with
      | "if" => return { t with source := some value }
      | "of" => return { t with target := some value }
      | "ibs" => return { t with inputSize := ← size }
      | "obs" => return { t with outputSize := ← size }
      | "bs" =>
          let n ← size
          return { t with inputSize := n, outputSize := n }
      | "cbs" => return { t with recordSize := ← size }
      | "skip" | "iseek" => return { t with skipped := ← number }
      | "seek" | "oseek" => return { t with sought := ← number }
      | "count" => return { t with limit := some (← number) }
      | "conv" => return { t with conversions := ← names knownConversions "conversion" value }
      | "iflag" => return { t with inputFlags := ← names knownFlags "input flag" value }
      | "oflag" => return { t with outputFlags := ← names knownFlags "output flag" value }
      | "status" =>
          if ["none", "noxfer", "progress"].contains (String.ofList value) then
            return { t with status := String.ofList value }
          else
            throw (true, "invalid status level: ".toList ++ Text.inPlainQuotes value)
      | _ => unknown

def check (t : Transfer) : Except (Bool × Text) Transfer :=
  match exclusions.find? fun e => t.conversions.contains e.1 && t.conversions.contains e.2 with
  | some (a, b) => .error (false, "cannot combine ".toList ++ a.toList ++ " and ".toList ++ b.toList)
  | none => .ok t

def converts (t : Transfer) (name : String) : Bool :=
  t.conversions.contains name

def swapPairs : Text → Text
  | a :: b :: rest => b :: a :: swapPairs rest
  | t => t

def toRecords (size : Nat) (t : Text) : Text × Nat :=
  let lines := Text.bareRecords '\n' t
  (lines.flatMap fun line => line.take size ++ List.replicate (size - line.length) ' ',
    (lines.filter fun line => size < line.length).length)

def ofRecords (size : Nat) (t : Text) : Text :=
  (inPieces size t).flatMap fun record => (record.reverse.dropWhile (· = ' ')).reverse ++ ['\n']

def convert (t : Transfer) (data : Text) : Text × Nat :=
  let byRecord := t.recordSize ≠ 0 && (t.converts "block" || t.converts "unblock")
  let missing := if data.length % t.inputSize = 0 then 0 else t.inputSize - data.length % t.inputSize
  let data :=
    if t.converts "sync" then data ++ List.replicate missing (if byRecord then ' ' else '\x00') else data
  let data := if t.converts "swab" then swapPairs data else data
  let data :=
    if t.converts "ucase" then data.map Char.toUpper
    else if t.converts "lcase" then data.map Char.toLower
    else data
  if byRecord then
    if t.converts "block" then toRecords t.recordSize data
    else (ofRecords t.recordSize data, 0)
  else
    (data, 0)

def blocks (length size : Nat) : Text :=
  Radix.decimal.numeral (length / size) ++ (if length % size = 0 then "+0" else "+1").toList

def openTarget (t : Transfer) (path : Text) : Task Nat := do
  let s ← store
  let sought := t.sought.size (if t.outputFlags.contains "seek_bytes" then 1 else t.outputSize)
  let failed (cause : Cause) : Task Nat :=
    fail 1 ("failed to open ".toList ++ Text.inShellQuotes path ++ ": ".toList ++ cause.wording)
  let isThere := (s.entry (Path.ofBytes path)).toOption.isSome
  if t.converts "excl" && isThere then
    failed .alreadyExists
  else if t.converts "nocreat" && !isThere then
    failed .notFound
  else
    let keeps := t.converts "notrunc"
    let mode : OpenMode :=
      if !keeps then .writing else if t.outputFlags.contains "append" then .appending else .both
    let old := ((s.read (Path.ofBytes path)).map Text.ofBytes).toOption.getD []
    let p ← get
    match p.files.openPath p.descriptors mode path with
    | .error cause => failed cause
    | .ok (id, files) =>
        let files :=
          if (Device.ofPath? path).isSome || (OpenFiles.descriptorOf? path).isSome then files
          else if keeps then files.advance id sought
          else files.write id (old.take sought ++ List.replicate (sought - old.length) '\x00')
        set { p with files := files }
        return id

def openSource (path : Text) : Task Nat := do
  let p ← get
  match p.files.openPath p.descriptors .reading path with
  | .ok (id, files) =>
      set { p with files := files }
      return id
  | .error cause =>
      fail 1 ("failed to open ".toList ++ Text.inShellQuotes path ++ ": ".toList ++ cause.wording)

def work (t : Transfer) (source target : Option Nat) : Task Nat := do
  let p ← get
  let name := t.source.getD "standard input".toList
  let available := match source with
    | some id => p.files.unread id
    | none => .error .badDescriptor
  let skipped := t.skipped.size (if t.inputFlags.contains "skip_bytes" then 1 else t.inputSize)
  let limit := t.limit.map fun a =>
    a.size (if t.inputFlags.contains "count_bytes" then 1 else t.inputSize)
  let all := available.toOption.getD []
  if all.length < skipped then
    complain (Text.asShellWord name ++ ": cannot skip to specified offset".toList)
  let data := (all.drop skipped).take (limit.getD all.length)
  let (passed, cut) := t.convert data
  modify fun p =>
    let files := source.elim p.files fun id => p.files.advance id (skipped + data.length)
    { p with files := target.elim files fun id => files.write id passed }
  let status ← match available with
    | .ok _ => pure 0
    | .error cause => do
        complain ("error reading ".toList ++ Text.inShellQuotes name ++ ": ".toList ++ cause.wording)
        pure 1
  let numeral := Radix.decimal.numeral
  if t.status ≠ "none" then
    err (blocks data.length t.inputSize ++ " records in\n".toList ++
      blocks passed.length t.outputSize ++ " records out\n".toList ++
      if cut = 0 then []
      else numeral cut ++ (if cut = 1 then " truncated record\n" else " truncated records\n").toList)
    if t.status ≠ "noxfer" then
      err (numeral passed.length ++ (if passed.length = 1 then " byte" else " bytes").toList ++
        " copied, 0 s, Infinity B/s\n".toList)
  return status

end Transfer

def dd : Utility := fun _ arguments => do
  let (_, operands) ← options [] arguments 1
  match operands.foldlM Transfer.note {} >>= Transfer.check with
  | .error (offersHelp, message) => if offersHelp then misuse 1 message else fail 1 message
  | .ok t => do
      let source ← match t.source with
        | some path => some <$> Transfer.openSource path
        | none => (fun p => p.descriptors.lookup 0) <$> get
      let target ← match t.target with
        | some path => some <$> t.openTarget path
        | none => (fun p => p.descriptors.lookup 1) <$> get
      t.work source target

end Utility

end Imprint
