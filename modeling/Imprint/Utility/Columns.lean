import Imprint.Utility.Excerpt

/-!
# Utilities about columns

The utilities that take columns out of lines, and put lines of several files side by
side.  The columns of a line are its bytes, or its fields between separators.
-/

namespace Imprint

namespace Utility

open Imprint.Task

/-- A range of columns, counted from one; one without an end goes on to the last. -/
structure ColumnRange where
  first : Nat
  last : Option Nat

namespace ColumnRange

def has (r : ColumnRange) (column : Nat) : Bool :=
  r.first ≤ column && r.last.all (column ≤ ·)

def joined : List ColumnRange → List ColumnRange
  | [] => []
  | r :: rest =>
      match joined rest with
      | next :: others =>
          if r.last.all (next.first ≤ ·) then
            { r with last := match r.last, next.last with
                | some a, some b => some (max a b)
                | _, _ => none } :: others
          else
            r :: next :: others
      | [] => [r]

def gaps (next : Nat) : List ColumnRange → List ColumnRange
  | [] => [⟨next, none⟩]
  | r :: rest =>
      (if next < r.first then [⟨next, some (r.first - 1)⟩] else []) ++
        match r.last with
        | some last => gaps (last + 1) rest
        | none => []

end ColumnRange

/-- What is wrong with a list of columns, where the columns are fields or bytes. -/
inductive ColumnFault where
  | fromZero
  | badNumber (t : Text)
  | tooLarge (t : Text)
  | decreasing
  | endless
  | badRange

def ColumnFault.message (ofFields : Bool) : ColumnFault → Text
  | .fromZero =>
      (if ofFields then "fields are numbered from 1"
        else "byte/character positions are numbered from 1").toList
  | .badNumber t =>
      (if ofFields then "invalid field value " else "invalid byte/character position ").toList ++
        Text.inPlainQuotes t
  | .tooLarge t =>
      (if ofFields then "field number " else "byte/character offset ").toList ++
        Text.inPlainQuotes t ++ " is too large".toList
  | .decreasing => "invalid decreasing range".toList
  | .endless => "invalid range with no endpoint: -".toList
  | .badRange =>
      (if ofFields then "invalid field range" else "invalid byte or character range").toList

def readColumn (t : Text) : Except ColumnFault (Option Nat × Text) :=
  let digits := t.takeWhile Char.isDigit
  if digits.isEmpty then
    .ok (none, t)
  else if Nat.pow 2 64 - 1 ≤ Text.decimalValue digits then
    .error (.tooLarge digits)
  else
    .ok (some (Text.decimalValue digits), t.drop digits.length)

def readColumnRange (item : Text) : Except ColumnFault (ColumnRange × Text) := do
  let isEnd (t : Text) : Bool := match t with
    | [] => true
    | c :: _ => c == ',' || c == ' ' || c == '\t'
  let (first, rest) ← readColumn item
  match rest with
  | '-' :: rest =>
      if first = some 0 then
        throw .fromZero
      let (last, rest) ← readColumn rest
      if rest.head? = some '-' then
        throw .badRange
      unless isEnd rest do
        throw (.badNumber rest)
      match first, last with
      | none, none => throw .endless
      | first, none => pure (⟨first.getD 1, none⟩, rest)
      | first, some last =>
          if last < first.getD 1 then
            throw .decreasing
          pure (⟨first.getD 1, some last⟩, rest)
  | rest =>
      unless isEnd rest do
        throw (.badNumber rest)
      match first with
      | some (n + 1) => pure (⟨n + 1, some (n + 1)⟩, rest)
      | _ => throw .fromZero

def readColumns : (fuel : Nat) → Text → Except ColumnFault (List ColumnRange)
  | 0, _ => .ok []
  | fuel + 1, t => do
      let (r, rest) ← readColumnRange t
      match rest with
      | [] => pure [r]
      | _ :: rest => pure (r :: (← readColumns fuel rest))

structure Cutting where
  ranges : List ColumnRange
  byFields : Bool
  separator : Char := '\t'
  between : Option Text := none
  onlySeparated : Bool := false
  ending : Char := '\n'

namespace Cutting

def wants (c : Cutting) (column : Nat) : Bool :=
  c.ranges.any fun r => r.has column

/-- The wanted bytes of a line; where something stands between ranges, it comes before each of
them but the first. -/
def bytes (c : Cutting) (line : Text) : Text :=
  let rec go : (column : Nat) → (isFirst : Bool) → Text → Text
    | _, _, [] => []
    | column, isFirst, d :: rest =>
        if c.wants column then
          let starts := c.ranges.any fun r => r.first == column
          (if starts && !isFirst then c.between.getD [] else []) ++ d :: go (column + 1) false rest
        else
          go (column + 1) isFirst rest
  go 1 true line

def fields (c : Cutting) (line : Text) : Text :=
  let wanted := (cutAt c.separator line).zipIdx.filter fun f => c.wants (f.2 + 1)
  List.intercalate (c.between.getD [c.separator]) (wanted.map Prod.fst)

def line (c : Cutting) (t : Text) : Text :=
  if !c.byFields then c.bytes t ++ [c.ending]
  else if t.contains c.separator then c.fields t ++ [c.ending]
  else if c.onlySeparated then []
  else t ++ [c.ending]

/-- What becomes of the contents of a file.  Where lines end with the separator of fields, each
line is a field. -/
def text (c : Cutting) (t : Text) : Text :=
  if c.byFields && c.separator == c.ending then
    if t.contains c.separator then c.fields (Text.withoutEnd c.ending t) ++ [c.ending]
    else if t.isEmpty || c.onlySeparated then []
    else t ++ [c.ending]
  else
    (Text.bareRecords c.ending t).flatMap c.line

end Cutting

def cut : Utility := fun _ arguments => do
  let forms :=
    [valued 'b' "bytes", valued 'c' "characters", valued 'd' "delimiter", valued 'f' "fields",
      ⟨some 'n', "", .never⟩, flag 's' "only-delimited", flag 'z' "zero-terminated",
      ⟨none, "complement", .never⟩, ⟨none, "output-delimiter", .always⟩]
  let (given, operands) ← options forms arguments 1
  let lists := given.filter fun g => ["bytes", "characters", "fields"].contains g.name
  for g in given do
    if g.name = "delimiter" ∧ 1 < g.value.length then
      misuse 1 "the delimiter must be a single character".toList
  match lists with
  | [] => misuse 1 "you must specify a list of bytes, characters, or fields".toList
  | _ :: _ :: _ => misuse 1 "only one list may be specified".toList
  | [list] =>
      let byFields := list.name = "fields"
      if !byFields && has given "delimiter" then
        misuse 1 "an input delimiter may be specified only when operating on fields".toList
      if !byFields && has given "only-delimited" then
        misuse 1 ("suppressing non-delimited lines makes sense\n\t".toList ++
          "only when operating on fields".toList)
      match readColumns (list.value.length + 1) list.value with
      | .error fault => misuse 1 (fault.message byFields)
      | .ok ranges =>
          let ranges := ColumnRange.joined (ranges.mergeSort fun a b => a.first ≤ b.first)
          let c : Cutting :=
            { ranges := if has given "complement" then ColumnRange.gaps 1 ranges else ranges
              byFields := byFields
              separator := match value? given "delimiter" with
                | some t => t.headD '\x00'
                | none => '\t'
              between := (value? given "output-delimiter").map fun t =>
                if t.isEmpty then ['\x00'] else t
              onlySeparated := has given "only-delimited"
              ending := separatorOf given }
          forAll (orInput operands) fun operand => do
            match ← contents operand with
            | .ok t =>
                out (c.text t)
                return true
            | .error cause =>
                refuse operand cause
                return false

def readSeparators : Text → Option (List Text)
  | [] => some []
  | ['\\'] => none
  | '\\' :: c :: rest =>
      let t : Text := match c with
        | '0' => []
        | 'b' => ['\x08']
        | 'f' => ['\x0c']
        | 'n' => ['\n']
        | 'r' => ['\r']
        | 't' => ['\t']
        | 'v' => ['\x0b']
        | c => [c]
      (readSeparators rest).map (t :: ·)
  | c :: rest => (readSeparators rest).map ([c] :: ·)

def joinInTurn (separators : List Text) : (turn : Nat) → List Text → Text
  | _, [] => []
  | _, [line] => line
  | turn, line :: rest =>
      line ++ (separators[turn % separators.length]?).getD [] ++ joinInTurn separators (turn + 1) rest

/-- Takes the next line of each column, where columns without lines of their own share some. -/
def takeRow : (shared : List Text) → List (Option (List Text)) →
    List (Option Text) × List Text × List (Option (List Text))
  | shared, [] => ([], shared, [])
  | shared, none :: rest =>
      let (row, left, columns) := takeRow (shared.drop 1) rest
      (shared.head? :: row, left, none :: columns)
  | shared, some lines :: rest =>
      let (row, left, columns) := takeRow shared rest
      (lines.head? :: row, left, some (lines.drop 1) :: columns)

def sideBySide (separators : List Text) (ending : Char) : (fuel : Nat) → (shared : List Text) →
    List (Option (List Text)) → Text
  | 0, _, _ => []
  | fuel + 1, shared, columns =>
      let (row, shared, columns) := takeRow shared columns
      if row.all Option.isNone then
        []
      else
        joinInTurn separators 0 (row.map fun line => line.getD []) ++
          ending :: sideBySide separators ending fuel shared columns

/-- Puts the lines of files side by side, or the lines of each file one behind the other. -/
def paste : Utility := fun _ arguments => do
  let forms := [valued 'd' "delimiters", flag 's' "serial", flag 'z' "zero-terminated"]
  let (given, operands) ← options forms arguments 1
  let list := match value? given "delimiters" with
    | some [] => "\\0".toList
    | some t => t
    | none => ['\t']
  let ending := separatorOf given
  match readSeparators list with
  | none =>
      fail 1 ("delimiter list ends with an unescaped backslash: ".toList ++ list)
  | some separators =>
      if has given "serial" then
        forAll (orInput operands) fun operand => do
          match ← contents operand with
          | .ok t =>
              out (joinInTurn separators 0 (Text.bareRecords ending t) ++ [ending])
              return true
          | .error cause =>
              if cause = .isDirectory then
                out [ending]
              refuse operand cause
              return false
      else
        let mut status := 0
        let mut shared : List Text := []
        let mut columns : List (Option (List Text)) := []
        for operand in orInput operands do
          if operand = ['-'] then
            match ← input with
            | .ok t => shared := shared ++ Text.bareRecords ending t
            | .error cause =>
                refuse operand cause
                status := 1
            columns := columns ++ [none]
          else
            match ← contents operand with
            | .ok t => columns := columns ++ [some (Text.bareRecords ending t)]
            | .error cause =>
                refuse operand cause
                if cause ≠ .isDirectory then
                  finish 1
                status := 1
                columns := columns ++ [some []]
        let count := columns.foldl (fun n c => n + (c.getD []).length) shared.length
        out (sideBySide separators ending (count + 1) shared columns)
        return status

end Utility

end Imprint
