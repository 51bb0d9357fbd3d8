import Imprint.Regex.Rich
import Imprint.Utility.Names

/-!
# Searching for lines

The utility that prints the lines of files in which a pattern is found.
-/

namespace Imprint

namespace Utility

open Imprint.Task

/-- Where a pattern has to be found: anywhere, as a word, or as a whole line. -/
inductive Bounding where
  | anywhere
  | word
  | line
deriving DecidableEq

/-- What is reported of a file: its lines, their count, or its name. -/
inductive Report where
  | lines
  | count
  | named (whenFound : Bool)
  | silent
deriving DecidableEq

structure Search where
  patterns : List Regex
  bounding : Bounding := .anywhere
  inverted : Bool := false
  report : Report := .lines
  onlyParts : Bool := false
  numbers : Bool := false
  offsets : Bool := false
  names : Bool := false
  before : Nat := 0
  after : Nat := 0
  most : Option Nat := none
  separator : Char := '\n'
  asText : Bool := false
  skipsBinary : Bool := false
  zeroNames : Bool := false
  tabWidth : Option Nat := none
  label : Text := "(standard input)".toList

namespace Search

def isOpen (input : Array Char) (place : Nat) : Bool :=
  !(input[place]?.any Regex.asciiWordSet.has)

def isBounded (s : Search) (input : Array Char) (first last : Nat) : Bool :=
  match s.bounding with
  | .anywhere => true
  | .word => (first == 0 || isOpen input (first - 1)) && isOpen input last
  | .line => first == 0 && last == input.size

def foundAt (s : Search) (input : Array Char) (place : Nat) : Option Nat :=
  s.patterns.foldl
    (fun best r =>
      (r.ways input place []).foldl
        (fun best way =>
          if s.isBounded input place way.1 then
            some (match best with
              | none => way.1
              | some old => max old way.1)
          else
            best)
        best)
    none

def found (s : Search) (input : Array Char) (start : Nat) : Option (Nat × Nat) :=
  (List.range (input.size + 1 - start)).findSome? fun offset =>
    (s.foundAt input (start + offset)).map fun last => (start + offset, last)

def wants (s : Search) (line : Text) : Bool :=
  (s.found line.toArray 0).isSome != s.inverted

def parts (s : Search) (line : Text) : List (Nat × Text) :=
  let input := line.toArray
  let rec go : (fuel start : Nat) → List (Nat × Text)
    | 0, _ => []
    | fuel + 1, start =>
        match s.found input start with
        | none => []
        | some (first, last) =>
            if first = last then go fuel (last + 1)
            else (first, Regex.slice input first last) :: go fuel last
  go (line.length + 1) 0

/-- A line of a file: its number, its offset, its text, and whether it is searched for. -/
structure Line where
  number : Nat
  offset : Nat
  text : Text
  isWanted : Bool

def lines (s : Search) (t : Text) : List Line :=
  let texts := Text.bareRecords s.separator t
  let rec go : (number offset wanted : Nat) → List Text → List Line
    | _, _, _, [] => []
    | number, offset, wanted, line :: rest =>
        let mayBe := match s.most with
          | some most => decide (wanted < most)
          | none => true
        let isWanted := mayBe && s.wants line
        ⟨number, offset, line, isWanted⟩ ::
          go (number + 1) (offset + line.length + 1) (if isWanted then wanted + 1 else wanted) rest
  go 1 0 0 texts

/-- What stands in front of a line, where `mark` tells whether it is searched for.  Numbers are filled
up where a tab follows them. -/
def lead (s : Search) (name : Text) (number offset : Nat) (mark : Char) (line : Text) : Text :=
  let numeral (n : Nat) : Text :=
    let t := Radix.decimal.numeral n
    List.replicate (s.tabWidth.getD 0 - t.length) ' ' ++ t ++ [mark]
  let t := (if s.names then name ++ [if s.zeroNames then '\x00' else mark] else []) ++
    (if s.numbers then numeral number else []) ++ if s.offsets then numeral offset else []
  if s.tabWidth.isSome && !t.isEmpty && !line.isEmpty then t ++ ['\t'] else t

def shown (s : Search) (name : Text) (l : Line) : Text :=
  if s.onlyParts then
    if s.inverted then []
    else
      (s.parts l.text).flatMap fun part =>
        s.lead name l.number (l.offset + part.1) ':' part.2 ++ part.2 ++ [s.separator]
  else
    s.lead name l.number l.offset ':' l.text ++ l.text ++ [s.separator]

/-- Shows lines with those around them, and a mark between lines that are apart.  `before`
are the lines that wait to be shown, last first; `owed` counts those still to come. -/
def shownLines (s : Search) (name : Text) : (started gap : Bool) → (before : List Line) →
    (owed : Nat) → List Line → List Text
  | _, _, _, _, [] => []
  | started, gap, before, owed, l :: rest =>
      let around (l : Line) : Text :=
        if s.onlyParts then [] else s.lead name l.number l.offset '-' l.text ++ l.text ++ [s.separator]
      if l.isWanted then
        let waiting := (before.take s.before).reverse
        let apart := started && gap && s.before < before.length
        let mark : List Text :=
          if (s.before ≠ 0 || s.after ≠ 0) && apart && !s.onlyParts then ["--\n".toList] else []
        mark ++ waiting.map around ++ s.shown name l ::
          shownLines s name true (s.before = 0 && s.after = 0) [] s.after rest
      else if owed ≠ 0 then
        around l :: shownLines s name started false [] (owed - 1) rest
      else
        shownLines s name started true (l :: before) 0 rest

end Search

def searchForms : List OptionForm :=
  [flag 'E' "extended-regexp", flag 'F' "fixed-strings", flag 'G' "basic-regexp",
    flag 'P' "perl-regexp", valued 'e' "regexp", valued 'f' "file", flag 'i' "ignore-case",
    flag 'y' "", ⟨none, "no-ignore-case", .never⟩, flag 'v' "invert-match", flag 'w' "word-regexp",
    flag 'x' "line-regexp", flag 'c' "count", flag 'L' "files-without-match",
    flag 'l' "files-with-matches", valued 'm' "max-count", flag 'o' "only-matching",
    flag 'q' "quiet", flag 'q' "silent", flag 's' "no-messages", flag 'b' "byte-offset",
    flag 'H' "with-filename", flag 'h' "no-filename", ⟨none, "label", .always⟩,
    flag 'n' "line-number", flag 'z' "null-data", valued 'A' "after-context",
    valued 'B' "before-context", valued 'C' "context", flag 'a' "text",
    ⟨none, "color", .joined⟩, ⟨none, "colour", .joined⟩, ⟨none, "line-buffered", .never⟩,
    flag 'r' "recursive", flag 'R' "dereference-recursive", valued 'd' "directories",
    valued 'D' "devices", flag 'U' "binary", flag 'I' "", flag 'T' "initial-tab", flag 'Z' "null",
    ⟨none, "binary-files", .always⟩, flag 'u' "unix-byte-offsets", valued 'X' ""]

def directoryAction (t : Text) : Except Complaint String :=
  choice "directories" ["read", "recurse", "skip"] t

/-- How patterns are written: as texts, or as one kind of regular expressions. -/
inductive PatternForm where
  | plain
  | regular (d : Regex.Dialect)
  | rich
deriving DecidableEq

def patternForm? (g : Given) : Option PatternForm :=
  match g.name with
  | "extended-regexp" => some (.regular .extended)
  | "fixed-strings" => some .plain
  | "basic-regexp" => some (.regular .basic)
  | "perl-regexp" => some .rich
  | "X" =>
      match String.ofList g.value with
      | "grep" => some (.regular .basic)
      | "egrep" | "awk" | "gawk" | "posixawk" => some (.regular .extended)
      | "fgrep" => some .plain
      | "perl" => some .rich
      | _ => none
  | _ => none

def signedCount? (t : Text) : Option (Option Nat) :=
  match t.dropWhile Char.isWhitespace with
  | '-' :: digits => (Text.natural? digits).map fun n => if n = 0 then some 0 else none
  | '+' :: digits => (Text.natural? digits).map some
  | digits => (Text.natural? digits).map some

/-- What is wrong with the value of an option; where a word is none of the known ones, the status
is that of a search without success. -/
def searchCheck (g : Given) : Option Complaint :=
  match g.name with
  | "directories" =>
      (faultOf (directoryAction g.value)).map fun complaint => { complaint with status := some 1 }
  | "devices" =>
      if ["read".toList, "skip".toList].contains g.value then none
      else some (.plain "unknown devices method".toList)
  | "binary-files" =>
      if ["binary".toList, "text".toList, "without-match".toList].contains g.value then none
      else some (.plain "unknown binary-files type".toList)
  | "X" =>
      if (patternForm? g).isSome then none
      else some (.plain ("invalid matcher ".toList ++ g.value))
  | "max-count" =>
      if (signedCount? g.value).isSome then none else some (.plain "invalid max count".toList)
  | "context" | "before-context" | "after-context" =>
      match signedCount? g.value with
      | some (some _) => none
      | _ => some (.plain (g.value ++ ": invalid context length argument".toList))
  | _ => none

/-- What is done with directories: what the last of the options says that are about them. -/
def directoryActionOf (given : List Given) : String :=
  (given.reverse.findSome? fun g =>
    match g.name with
    | "recursive" | "dereference-recursive" => some "recurse"
    | "directories" => (directoryAction g.value).toOption
    | _ => none).getD "read"

/-- Whether small and capital letters count as equal: what the last of the options says about it. -/
def ignoresCase (given : List Given) : Bool :=
  (given.reverse.findSome? fun g =>
    match g.name with
    | "ignore-case" | "y" => some true
    | "no-ignore-case" => some false
    | _ => none).getD false

def readPattern (form : PatternForm) (t : Text) : Except Text Regex :=
  match form with
  | .plain => .ok (.ofText t)
  | .regular d =>
      match Regex.read? { dialect := d, forgiving := d = .extended } t with
      | some r => .ok r
      | none => .error (Regex.fault d t)
  | .rich =>
      match Regex.Rich.read? { wide := false, ofBytes := true } t with
      | some r => .ok r
      | none => .error (Regex.fault .extended t)

def searchUsage (status : Nat) : Task α := do
  let name := lastPiece (← get).name
  err ("Usage: ".toList ++ name ++ " [OPTION]... PATTERNS [FILE]...\n".toList ++
    "Try '".toList ++ name ++ " --help' for more information.\n".toList)
  finish status

def digitOptions : (isValue : Bool) → List Text → List Text
  | _, [] => []
  | true, a :: rest => a :: digitOptions false rest
  | false, a :: rest =>
      match a with
      | ['-', '-'] => a :: rest
      | '-' :: c :: more =>
          if c.isDigit then
            let digits := (c :: more).takeWhile Char.isDigit
            let letters := (c :: more).drop digits.length
            ("-C".toList ++ digits) :: (if letters.isEmpty then id else (('-' :: letters) :: ·))
              (digitOptions (waitsForValue searchForms ('-' :: letters)) rest)
          else
            a :: digitOptions (waitsForValue searchForms a) rest
      | _ => a :: digitOptions false rest

def searchFile (s : Search) (name contents : Text) : Task Bool := do
  let isBinary := contents.contains '\x00' && !s.asText && s.separator = '\n'
  let size := contents.length + if s.numbers then 1 else 0
  let s := { s with tabWidth := s.tabWidth.map fun _ => (Radix.decimal.numeral size).length }
  let final : Char := if s.zeroNames then '\x00' else '\n'
  let lines := if isBinary && s.skipsBinary then [] else s.lines contents
  let count := (lines.filter Search.Line.isWanted).length
  match s.report with
  | .silent => pure ()
  | .count =>
      let lead := if s.names then name ++ [if s.zeroNames then '\x00' else ':'] else []
      out (lead ++ Radix.decimal.numeral count ++ ['\n'])
  | .named whenFound =>
      if (count ≠ 0) == whenFound then
        out (name ++ [final])
  | .lines =>
      if isBinary then
        if count ≠ 0 then
          complain (name ++ ": binary file matches".toList)
      else
        out (s.shownLines name false false [] 0 lines).flatten
  return count ≠ 0

def filesBelow (s : Store) : (depth : Nat) → (path : Text) → List Text
  | 0, _ => []
  | depth + 1, path =>
      match s.list (Path.ofBytes path) with
      | .ok names =>
          names.flatMap fun name =>
            filesBelow s depth (if path.getLast? = some '/' then path ++ Text.ofBytes name
              else path ++ '/' :: Text.ofBytes name)
      | .error _ => [path]

def grep : Utility := fun _ arguments => do
  let p ← get
  if ["egrep".toList, "fgrep".toList].contains (lastPiece p.name) then
    set { p with name := "grep".toList }
  let rules : OptionRules := { forms := searchForms, check := searchCheck }
  let ((given, operands), fault) := readOptions rules none (digitOptions false arguments)
  let mut form? : Option PatternForm :=
    if lastPiece p.name = "egrep".toList then some (.regular .extended)
    else if lastPiece p.name = "fgrep".toList then some .plain
    else none
  let mut texts : List Text := []
  for g in given do
    match patternForm? g with
    | some form =>
        if form?.any fun old => old ≠ form then
          fail 2 "conflicting matchers specified".toList
        form? := some form
    | none => pure ()
    if g.name = "unix-byte-offsets" then
      complain "warning: --unix-byte-offsets (-u) is obsolete".toList
    if g.name = "regexp" then
      texts := texts ++ cutAt '\n' g.value
    if g.name = "file" then
      match ← contents g.value with
      | .ok t => texts := texts ++ Text.bareRecords '\n' t
      | .error cause => fail 2 (g.value ++ ": ".toList ++ cause.wording)
  match fault with
  | some complaint =>
      let status := complaint.status.getD 2
      complain complaint.text
      if complaint.offersHelp then searchUsage status else finish status
  | none => pure ()
  let isGiven := has given "regexp" || has given "file"
  let (wordings, operands) ← match isGiven, operands with
    | true, operands => pure (texts, operands)
    | false, [] => searchUsage 2
    | false, t :: rest => pure (cutAt '\n' t, rest)
  let mut patterns : List Regex := []
  for t in wordings do
    match readPattern (form?.getD (.regular .basic)) t with
    | .ok r =>
        let r := if ignoresCase given then r.ignoringCase else r
        patterns := patterns ++ [r]
    | .error t => fail 2 t
  let number (name : String) : Option Nat := ((value? given name).bind signedCount?).join
  let around := number "context"
  let before := number "before-context"
  let after := number "after-context"
  let most := number "max-count"
  let binaryRule := given.reverse.findSome? fun g =>
    match g.name with
    | "text" => some "text"
    | "I" => some "without-match"
    | "binary-files" => some (String.ofList g.value)
    | _ => none
  let action := directoryActionOf given
  let recursive := action = "recurse"
  let operands :=
    if recursive then
      (if operands.isEmpty then [['.']] else operands).flatMap fun o => filesBelow p.files.store 100 o
    else orInput operands
  let report : Report :=
    if has given "quiet" || has given "silent" then .silent
    else if has given "files-with-matches" then .named true
    else if has given "files-without-match" then .named false
    else if has given "count" then .count
    else .lines
  let names := match given.reverse.find? fun g => g.name == "with-filename" || g.name == "no-filename" with
    | some g => g.name == "with-filename"
    | none => recursive || 1 < operands.length
  let s : Search :=
    { patterns := patterns
      bounding := if has given "line-regexp" then .line
        else if has given "word-regexp" then .word else .anywhere
      inverted := has given "invert-match"
      report := report
      onlyParts := has given "only-matching"
      numbers := has given "line-number"
      offsets := has given "byte-offset"
      names := names
      before := (before.or around).getD 0
      after := (after.or around).getD 0
      most := most
      separator := if has given "null-data" then '\x00' else '\n'
      asText := binaryRule == some "text"
      skipsBinary := binaryRule == some "without-match"
      zeroNames := has given "null"
      tabWidth := if has given "initial-tab" then some 0 else none
      label := (value? given "label").getD "(standard input)".toList }
  let mut isFound := false
  let mut hasFailed := false
  for operand in operands do
    let read ← contents operand
    let isStandard := operand == ['-']
    match read with
    | .error cause =>
        unless cause = .isDirectory && action = "skip" do
          hasFailed := true
          unless has given "no-messages" do
            complain (operand ++ ": ".toList ++ cause.wording)
    | .ok t =>
        if ← searchFile s (if isStandard then s.label else operand) t then
          isFound := true
          if report = .silent then
            return 0
  return if hasFailed then 2 else if isFound then 0 else 1

end Utility

end Imprint
