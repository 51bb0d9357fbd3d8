import Imprint.Utility.Excerpt

/-!
# Utilities that count and sum up

The utilities that count what is in files, and print remainders of them that tell them apart.
-/

namespace Imprint

namespace Utility

open Imprint.Task

structure Counts where
  lines : Nat := 0
  words : Nat := 0
  bytes : Nat := 0
  longest : Nat := 0

namespace Counts

def widthOf (t : Text) : Nat :=
  t.foldl
    (fun width c =>
      if c = '\t' then (width / 8 + 1) * 8
      else if ' ' ≤ c && c ≤ '~' then width + 1
      else width)
    0

def wordCount (t : Text) : Nat :=
  let isBlank (c : Char) : Bool := c.isWhitespace || c == '\x0b' || c == '\x0c'
  (t.foldl
    (fun (state : Nat × Bool) c =>
      if isBlank c then (state.1, false)
      else (if state.2 then state.1 else state.1 + 1, true))
    (0, false)).1

def ofText (t : Text) : Counts where
  lines := (t.filter (· = '\n')).length
  words := wordCount t
  bytes := t.length
  longest := (Text.bareRecords '\n' t).foldl (fun n line => max n (widthOf line)) 0

def add (a b : Counts) : Counts :=
  ⟨a.lines + b.lines, a.words + b.words, a.bytes + b.bytes, max a.longest b.longest⟩

end Counts

/-- What is known of an input before it is read: nothing if it is not there, and its size if
it is a file. -/
def sizeBefore (name : Text) : Task (Option (Option Nat)) := do
  let p ← get
  if isInput name then
    match p.descriptors.lookup 0 with
    | none => return none
    | some id =>
        match p.files.channels[id]? with
        | some (.file location ..) =>
            match p.files.store.at? location with
            | some (.file contents _) => return some (some contents.length)
            | _ => return some none
        | _ => return some none
  else if (Device.ofPath? name).isSome then
    return some none
  else
    match p.files.store.entry (Path.ofBytes name) with
    | .ok (.file contents _) => return some (some contents.length)
    | .ok _ => return some none
    | .error _ => return none

/-- The width of a column of counts: room for the sum of the sizes, and for seven digits if
some input is not a file. -/
def columnWidth (sizes : List (Option (Option Nat))) : Nat :=
  let total := (sizes.filterMap fun s => s.join).foldl (· + ·) 0
  max (Radix.decimal.numeral total).length (if sizes.contains (some none) then 7 else 1)

def wc : Utility := fun _ arguments => do
  let forms := [flag 'c' "bytes", flag 'm' "chars", flag 'l' "lines", flag 'L' "max-line-length",
    flag 'w' "words"]
  let (given, operands) ← options forms arguments 1
  let isNone := given.isEmpty
  let columns (c : Counts) : List Nat :=
    (if isNone || has given "lines" then [c.lines] else []) ++
      (if isNone || has given "words" then [c.words] else []) ++
      (if has given "chars" then [c.bytes] else []) ++
      (if isNone || has given "bytes" then [c.bytes] else []) ++
      if has given "max-line-length" then [c.longest] else []
  let names := orInput operands
  let sizes ← names.mapM sizeBefore
  let mut rows : List (Option Counts × Text) := []
  let mut total : Counts := {}
  let mut status := 0
  let mut notes : List (Nat × Cause) := []
  for name in names do
    match ← contents name with
    | .ok t =>
        rows := rows ++ [(some (Counts.ofText t), name)]
        total := total.add (Counts.ofText t)
    | .error cause =>
        notes := notes ++ [(rows.length, cause)]
        rows := rows ++ [(if cause = .isDirectory then some {} else none, name)]
        status := 1
  let isSingle := (columns {}).length = 1
  let width := if isSingle && names.length = 1 then 1 else columnWidth sizes
  let print (c : Counts) (name : Text) : Task Unit := do
    let cells := (columns c).map fun n =>
      let t := Radix.decimal.numeral n
      List.replicate (width - t.length) ' ' ++ t
    out (List.intercalate [' '] cells ++ (if name.isEmpty then [] else ' ' :: name) ++ ['\n'])
  for ((counts?, name), index) in rows.zipIdx do
    match notes.lookup index with
    | some cause => refuse name cause
    | none => pure ()
    match counts? with
    | some c => print c (if operands.isEmpty then [] else name)
    | none => pure ()
  if 1 < names.length then
    print total "total".toList
  return status

def divideByte (remainder byte : Nat) : Nat :=
  (List.range 8).foldl
    (fun r _ =>
      if Nat.pow 2 31 ≤ r then ((r <<< 1) % Nat.pow 2 32) ^^^ 0x04c11db7 else r <<< 1)
    (remainder ^^^ byte <<< 24)

def lengthBytes : (fuel : Nat) → Nat → List Nat
  | 0, _ => []
  | _, 0 => []
  | fuel + 1, n => n % 256 :: lengthBytes fuel (n / 256)

def remainderOf (t : Text) : Nat :=
  Nat.pow 2 32 - 1 - (t.map Char.toNat ++ lengthBytes 8 t.length).foldl divideByte 0

def cksum : Utility := fun _ arguments => do
  let (_, operands) ← options [] arguments 1
  forAll (orInput operands) fun operand => do
    match ← contents operand with
    | .ok t =>
        out (Radix.decimal.numeral (remainderOf t) ++ ' ' :: Radix.decimal.numeral t.length ++
          (if operands.isEmpty then [] else ' ' :: operand) ++ ['\n'])
        return true
    | .error cause =>
        refuse operand cause
        return false

end Utility

end Imprint
