import Imprint.Text.Records
import Imprint.Utility.Edit.Command
import Imprint.Process.Task

/-!
# Editing

A script is gone through for each line of the input, which stands in the pattern
space meanwhile.  A hold space keeps text from line to line.
-/

namespace Imprint

namespace Utility

namespace Edit

/-- A line of the input: its number, whether a line end follows it, of which file it is, and
whether it is the last one that counts as such. -/
structure Line where
  number : Nat := 0
  text : Text := []
  isEnded : Bool := true
  file : Text := ['-']
  isLast : Bool := false

inductive Addition where
  | text (t : Text)
  | file (path : Text)

/-- The state of a range: outside it, up to a line, or up to a match. -/
inductive RangeState where
  | outside
  | upTo (number : Nat)
  | upToMatch

structure Sink where
  written : List Text := []
  lacksEnd : Bool := false

namespace Sink

def endLine (s : Sink) : Sink :=
  if s.lacksEnd then { written := ['\n'] :: s.written, lacksEnd := false } else s

def write (s : Sink) (t : Text) : Sink :=
  { s.endLine with written := t :: s.endLine.written }

def writeLine (s : Sink) (ending : Char) (t : Text) (isEnded : Bool) : Sink :=
  let s := s.write t
  if isEnded then { s with written := [ending] :: s.written } else { s with lacksEnd := true }

def text (s : Sink) : Text :=
  s.written.reverse.flatten

end Sink

structure Editor where
  input : List Line
  current : Line := {}
  pattern : Text := []
  isEnded : Bool := true
  hold : Text := []
  holdIsEnded : Bool := true
  additions : List Addition := []
  ranges : List (Nat × RangeState) := []
  hasReplaced : Bool := false
  lastRegex : Option Regex := none
  out : Sink := {}
  files : List (Text × Sink) := []
  readers : List (Text × List Text) := []
  isQuiet : Bool := false
  ending : Char := '\n'
  width : Nat := 70
  fault : Option Text := none

/-- How a script goes on: with the command at a place, with the next line, anew with what is
left, or not at all. -/
inductive Course where
  | goOn (place : Nat)
  | nextLine (prints : Bool)
  | again
  | quit (status : Nat) (prints : Bool)

abbrev Editing := StateM Editor

def writeTo (file : Text) (write : Sink → Sink) : Editing Unit :=
  modify fun e =>
    if file = "/dev/stdout".toList then
      { e with out := write e.out }
    else
      let old := (e.files.lookup file).getD {}
      { e with files := (file, write old) :: e.files.filter fun f => f.1 != file }

def printPattern : Editing Unit :=
  modify fun e => { e with out := e.out.writeLine e.ending e.pattern e.isEnded }

def resolve (r : Option Regex) : Editing (Option Regex) := do
  match r with
  | some r =>
      modify fun e => { e with lastRegex := some r }
      return some r
  | none =>
      let last := (← get).lastRegex
      if last.isNone then
        modify fun e => { e with fault := some "no previous regular expression".toList }
      return last

def Address.holds (a : Address) : Editing Bool := do
  let e ← get
  match a with
  | .line n => return e.current.number == n
  | .every first step =>
      return if step = 0 then e.current.number == first
        else decide (first ≤ e.current.number) && (e.current.number - first) % step == 0
  | .last => return e.current.isLast
  | .fitting r =>
      match ← resolve r with
      | some r => return r.occursIn e.pattern
      | none => return false

def Selector.picks (s : Selector) (place : Nat) : Editing Bool := do
  let e ← get
  let setRange (r : RangeState) : Editing Unit :=
    modify fun e => { e with ranges := (place, r) :: e.ranges.filter fun x => x.1 != place }
  let picked ← match s.first, s.stop with
    | none, _ => pure true
    | some a, none => a.holds
    | some a, some stop => do
        let state := (e.ranges.lookup place).getD (if s.fromStart then .upToMatch else .outside)
        match state, stop with
        | .upTo n, _ =>
            if n ≤ e.current.number then
              setRange .outside
            if e.current.number ≤ n then pure true else a.holds
        | .upToMatch, .at b => do
            if ← b.holds then
              setRange .outside
            pure true
        | .upToMatch, _ => pure true
        | .outside, _ =>
            if ← a.holds then
              let n := e.current.number
              let upTo (stop : Nat) : Editing Unit :=
                if n < stop then setRange (.upTo stop) else pure ()
              match stop with
              | .at (.line m) => upTo m
              | .behind count => upTo (n + count)
              | .multiple 0 => pure ()
              | .multiple factor => upTo ((n / factor + 1) * factor)
              | .at _ => setRange .upToMatch
              pure true
            else
              pure false
  return picked != s.negated

def flushAdditions (store : Store) : Editing Unit :=
  modify fun e =>
    let write (out : Sink) : Addition → Sink
      | .text t => out.write t
      | .file path =>
          match store.read (Path.ofBytes path) with
          | .ok contents => if contents.isEmpty then out else out.write (Text.ofBytes contents)
          | .error _ => out
    { e with additions := [], out := e.additions.foldl write e.out }

def readNext : Editing (Option Line) :=
  modifyGet fun e =>
    match e.input with
    | [] => (none, e)
    | l :: rest => (some l, { e with input := rest, current := l })

def Casing.apply (c : Casing) (t : Text) : Text :=
  match c with
  | .upper => t.map Char.toUpper
  | .lower => t.map Char.toLower
  | _ => t

/-- The text of a replacement for a match.  A change of case holds for what follows; one for
a single letter comes before it. -/
def replacementText (input : Array Char) (span : Nat × Nat) (captures : Regex.Captures) :
    (casing : Casing) → (once : Option Casing) → List Piece → Text
  | _, _, [] => []
  | casing, once, piece :: rest =>
      let put (t : Text) : Text :=
        match t with
        | [] => replacementText input span captures casing once rest
        | c :: more =>
            let first := match once with
              | some .nextUpper => [c.toUpper]
              | some .nextLower => [c.toLower]
              | _ => casing.apply [c]
            first ++ casing.apply more ++ replacementText input span captures casing none rest
      match piece with
      | .text t => put t
      | .group 0 => put (Regex.slice input span.1 span.2)
      | .group index =>
          match captures.find? fun c => c.1 = index with
          | some c => put (Regex.slice input c.2.1 c.2.2)
          | none => put []
      | .casing .nextUpper => replacementText input span captures casing (some .nextUpper) rest
      | .casing .nextLower => replacementText input span captures casing (some .nextLower) rest
      | .casing c => replacementText input span captures c none rest

/-- Replaces matches from a place on; `number` counts those that come before the first one to
be replaced.  An empty match does not follow another match at once. -/
def replaceFrom (s : Substitution) (r : Regex) (input : Array Char) :
    (fuel : Nat) → (place : Nat) → (behind : Option Nat) → (number : Nat) → Text × Bool
  | 0, place, _, _ => (Regex.slice input place input.size, false)
  | fuel + 1, place, behind, number =>
      match if input.size < place then none else r.search input place with
      | none => (Regex.slice input place input.size, false)
      | some (first, last, captures) =>
          let before := Regex.slice input place first
          if first = last ∧ behind = some first then
            let (rest, replaced) := replaceFrom s r input fuel (first + 1) none number
            (Regex.slice input place (first + 1) ++ rest, replaced)
          else
            let isWanted := number ≤ 1
            let put :=
              if isWanted then replacementText input (first, last) captures .plain none s.replacement
              else Regex.slice input first last
            if isWanted && !s.isGlobal then
              (before ++ put ++ Regex.slice input last input.size, true)
            else
              let next := if first = last then last + 1 else last
              let skipped := Regex.slice input last next
              let (rest, replaced) := replaceFrom s r input fuel next
                (if first = last then none else some last) (number - 1)
              (before ++ put ++ skipped ++ rest, replaced || isWanted)

def substitute (s : Substitution) : Editing Unit := do
  match ← resolve s.pattern with
  | none => return
  | some r =>
      let e ← get
      let (t, replaced) := replaceFrom s r e.pattern.toArray (2 * e.pattern.length + 2) 0 none s.number
      if replaced then
        modify fun e => { e with pattern := t, hasReplaced := true }
        if s.prints then
          printPattern
        match s.file with
        | some file => writeTo file fun out => out.writeLine e.ending t e.isEnded
        | none => pure ()

def listed (c : Char) : Text :=
  if c = '\\' then ['\\', '\\']
  else
    match [('\x07', 'a'), ('\x08', 'b'), ('\x0c', 'f'), ('\n', 'n'), ('\r', 'r'), ('\t', 't'),
        ('\x0b', 'v')].lookup c with
    | some letter => ['\\', letter]
    | none =>
        if ' ' ≤ c && c ≤ '~' then [c]
        else
          let digit (n : Nat) : Char := Char.ofNat ('0'.toNat + n % 8)
          ['\\', digit (c.toNat / 64), digit (c.toNat / 8), digit c.toNat]

def listing (width : Nat) : (used : Nat) → Text → Text
  | _, [] => ['$', '\n']
  | used, c :: rest =>
      let shown := listed c
      if 1 < width ∧ width - 1 < used + shown.length then
        '\\' :: '\n' :: shown ++ listing width shown.length rest
      else
        shown ++ listing width (used + shown.length) rest

/-- The part of a text before its first line end, and the part behind it, if it has one. -/
def firstLine (t : Text) : Text × Option Text :=
  let line := t.takeWhile (· ≠ '\n')
  (line, match t.drop line.length with
    | _ :: rest => some rest
    | [] => none)

def target (p : Program) (label : Option Text) : Course :=
  match label with
  | none => .goOn p.commands.size
  | some t => .goOn ((p.labels.lookup t).getD p.commands.size)

def perform (store : Store) (p : Program) (place : Nat) (s : Selector) (a : Action) :
    Editing Course := do
  let next := Course.goOn (place + 1)
  let e ← get
  match a with
  | .block _ | .close | .label => return next
  | .jump label => return target p label
  | .jumpIf wanted label =>
      set { e with hasReplaced := false }
      return if e.hasReplaced = wanted then target p label else next
  | .append t =>
      set { e with additions := e.additions ++ [Addition.text t] }
      return next
  | .insert t =>
      set { e with out := e.out.write t }
      return next
  | .change t =>
      let isInside := match (e.ranges.lookup place), s.stop with
        | some (.upTo _), some _ | some .upToMatch, some _ => !s.negated
        | _, _ => false
      unless isInside do
        set { e with out := e.out.write t }
      return .nextLine false
  | .delete => return .nextLine false
  | .deleteFirst =>
      match firstLine e.pattern with
      | (_, none) => return .nextLine false
      | (_, some rest) =>
          set { e with pattern := rest }
          return .again
  | .number =>
      set { e with out := e.out.write (Radix.decimal.numeral e.current.number ++ ['\n']) }
      return next
  | .fileName =>
      set { e with out := e.out.write (e.current.file ++ ['\n']) }
      return next
  | .get =>
      set { e with pattern := e.hold, isEnded := e.holdIsEnded }
      return next
  | .getAppend =>
      set { e with pattern := e.pattern ++ e.ending :: e.hold, isEnded := e.holdIsEnded }
      return next
  | .hold =>
      set { e with hold := e.pattern, holdIsEnded := e.isEnded }
      return next
  | .holdAppend =>
      set { e with hold := e.hold ++ e.ending :: e.pattern, holdIsEnded := e.isEnded }
      return next
  | .exchange =>
      set { e with
        pattern := e.hold, isEnded := e.holdIsEnded, hold := e.pattern, holdIsEnded := e.isEnded }
      return next
  | .list width =>
      let width := width.getD e.width
      set { e with out := e.out.write (listing width 0 e.pattern) }
      return next
  | .next =>
      if e.input.isEmpty then
        return .quit 0 true
      unless e.isQuiet do
        printPattern
      flushAdditions store
      match ← readNext with
      | some l => modify fun e => { e with pattern := l.text, isEnded := l.isEnded }
      | none => pure ()
      return next
  | .nextAppend =>
      if e.input.isEmpty then
        return .quit 0 true
      flushAdditions store
      match ← readNext with
      | some l =>
          modify fun f =>
            { f with pattern := e.pattern ++ e.ending :: l.text, isEnded := l.isEnded }
      | none => pure ()
      return next
  | .print =>
      printPattern
      return next
  | .printFirst =>
      let (line, rest?) := firstLine e.pattern
      set { e with out := e.out.writeLine e.ending line (rest?.isSome || e.isEnded) }
      return next
  | .quit status prints => return .quit status prints
  | .read file =>
      set { e with additions := e.additions ++ [Addition.file file] }
      return next
  | .readLine file =>
      let lines := match e.readers.lookup file with
        | some lines => lines
        | none => ((store.read (Path.ofBytes file)).toOption.map fun c =>
            Text.bareRecords '\n' (Text.ofBytes c)).getD []
      match lines with
      | l :: rest =>
          set { e with
            additions := e.additions ++ [Addition.text (l ++ ['\n'])]
            readers := (file, rest) :: e.readers.filter fun r => r.1 != file }
      | [] => pure ()
      return next
  | .substitute s =>
      substitute s
      return next
  | .write file =>
      writeTo file fun out => out.writeLine e.ending e.pattern e.isEnded
      return next
  | .writeFirst file =>
      writeTo file fun out => out.writeLine e.ending (firstLine e.pattern).1 true
      return next
  | .translate table =>
      set { e with pattern := e.pattern.map fun c => (table.lookup c).getD c }
      return next
  | .empty =>
      set { e with pattern := [] }
      return next

def goThrough (store : Store) (p : Program) : (fuel : Nat) → (place : Nat) → Editing Course
  | 0, _ => return .quit 4 false
  | fuel + 1, place => do
      match p.commands[place]? with
      | none => return .nextLine true
      | some c =>
          let picked ← c.selector.picks place
          if (← get).fault.isSome then
            return .quit 1 false
          match picked, c.action with
          | false, .block stop => goThrough store p fuel stop
          | false, _ => goThrough store p fuel (place + 1)
          | true, a =>
              let course ← perform store p place c.selector a
              if (← get).fault.isSome then
                return .quit 1 false
              match course with
              | .goOn place => goThrough store p fuel place
              | other => return other

def maxSteps : Nat := 1000000

/-- Goes through a script for line after line, and gives the status.  A cycle may begin with
what is left of the last one. -/
def cycles (store : Store) (p : Program) : (fuel : Nat) → (isFresh : Bool) → Editing Nat
  | 0, _ => return 0
  | fuel + 1, isFresh => do
      let isThere ← if isFresh then do
          match ← readNext with
          | some l =>
              modify fun e =>
                { e with pattern := l.text, isEnded := l.isEnded, hasReplaced := false }
              pure true
          | none => pure false
        else
          pure true
      if !isThere then
        return 0
      let course ← goThrough store p maxSteps 0
      let display (prints : Bool) : Editing Unit := do
        if prints && !(← get).isQuiet then
          printPattern
      match course with
      | .goOn _ => return 0
      | .nextLine prints =>
          display prints
          flushAdditions store
          cycles store p fuel true
      | .again =>
          flushAdditions store
          cycles store p fuel false
      | .quit status prints =>
          display prints
          if prints then
            flushAdditions store
          return status

end Edit

end Utility

end Imprint
