import Imprint.Script.Condition
import Imprint.Script.Expansion
import Imprint.Text.Printing

/-!
# Utilities of the shell

The utilities that are part of a shell because they work on its state: variables,
options, arguments, descriptors and signals.  Those that run commands are not
among them.
-/

namespace Imprint

namespace Script

namespace Builtin

open Run

def number (t : Text) : Run Nat := do
  match Text.natural? t with
  | some n => return n
  | none => fail ("Illegal number: ".toList ++ t)

def optionGroup (letters : Text) : Text → Run (List (Char × Text) × Option Char)
  | [] => return ([], none)
  | c :: more => do
      if c = ':' ∨ !letters.contains c then
        fail ("Illegal option -".toList ++ [c])
      else if ((letters.dropWhile (· ≠ c)).drop 1).head? = some ':' then
        return if more.isEmpty then ([], some c) else ([(c, more)], none)
      else
        let (others, awaiting) ← optionGroup letters more
        return ((c, []) :: others, awaiting)

/-- Reads options whose letters stand in `letters`, where a colon follows those that take a
value, and gives them with the arguments left.  One may be waiting for its value. -/
def readOptions (letters : Text) :
    (awaiting : Option Char) → List Text → Run (List (Char × Text) × List Text)
  | none, [] => return ([], [])
  | some c, [] => fail ("No arg for -".toList ++ c :: " option".toList)
  | some c, value :: rest => do
      let (others, rest) ← readOptions letters none rest
      return ((c, value) :: others, rest)
  | none, argument :: rest =>
      match argument with
      | ['-', '-'] => return ([], rest)
      | '-' :: c :: more => do
          let (found, awaiting) ← optionGroup letters (c :: more)
          let (others, rest) ← readOptions letters awaiting rest
          return (found ++ others, rest)
      | _ => return ([], argument :: rest)

/-- Reads options, of which the letters are given, and gives them with the arguments left. -/
def options (letters : Text) (arguments : List Text) : Run (List (Char × Text) × List Text) :=
  readOptions letters none arguments

def singleQuoted : (fuel : Nat) → Text → Text
  | 0, _ => []
  | fuel + 1, t =>
      let plain := t.takeWhile (· ≠ '\'')
      let rest := t.drop plain.length
      let quotes := rest.takeWhile (· = '\'')
      let behind := rest.drop quotes.length
      '\'' :: plain ++ ['\''] ++
        (if quotes.isEmpty then [] else '"' :: quotes ++ ['"']) ++
        (if behind.isEmpty then [] else singleQuoted fuel behind)

def quote (t : Text) : Text :=
  singleQuoted (t.length + 1) t

def echo (arguments : List Text) : Run Nat := do
  let (silent, arguments) := match arguments with
    | ['-', 'n'] :: rest => (true, rest)
    | rest => (false, rest)
  let line := List.intercalate [' '] arguments
  let (text, stopped, _) := Text.unescape Text.endingEscape (line.length + 1) line
  out (if silent || stopped then text else text ++ ['\n'])
  return 0

def printingStyle : PrintingStyle where
  bits := 53
  escape := Text.simpleEscape
  argumentEscape := Text.endingEscape
  takesBareQuote := true
  allows _ _ letter := "sbcdiouxXeEfFgGaA".toList.contains letter
  notNumeric := ": expected numeric value".toList
  notWhole := ": not completely converted".toList
  invalid := ": invalid directive".toList
  missing _ := "missing format character".toList

def printf (arguments : List Text) : Run Nat := do
  let (_, arguments) ← options [] arguments
  match arguments with
  | [] => fail "usage: printf format [arg ...]".toList
  | format :: arguments =>
      let p := Printing.run printingStyle format arguments
      for c in p.complaints.reverse do
        warn c
      match p.failure with
      | some t =>
          warn t
          out p.text
          setStatus 2
          throw .error
      | none =>
          out p.text
          return if p.hasFailed then 1 else 0

def condition (system : System) (name : Text) (arguments : List Text) : Run Nat := do
  let arguments ←
    if name = ['['] then
      if arguments.getLast? = some [']'] then pure arguments.dropLast
      else fail "missing ]".toList
    else
      pure arguments
  let files := (← get).files
  let c : Condition.Context :=
    ⟨files.store, system.fixture, fun t => files.changedAt? (Path.ofBytes t), false⟩
  match Condition.truth c (arguments.length + 1) arguments with
  | .ok truth => return if truth then 0 else 1
  | .error (.unexpected t _) => fail (t ++ ": unexpected operator".toList)
  | .error (.lonely o) => fail (o ++ ": argument expected".toList)
  | .error .unclosed => fail "closing paren expected".toList
  | .error (.badNumber t) => fail ("Illegal number: ".toList ++ t)

def joinedPath (dir path : Text) : Text :=
  let start := if path.head? = some '/' then [] else cutAt '/' dir
  let pieces := (start ++ cutAt '/' path).foldl
    (fun kept piece =>
      if piece.isEmpty || piece == ['.'] then kept
      else if piece == ['.', '.'] then kept.dropLast
      else kept ++ [piece])
    []
  '/' :: List.intercalate ['/'] pieces

def workingPath (s : Store) : Text :=
  '/' :: List.intercalate ['/'] (s.workingDirectory.reverse.map Text.ofBytes)

def cd (arguments : List Text) : Run Nat := do
  let (given, arguments) ← options "LP".toList arguments
  let isPhysical := (given.getLast?.map Prod.fst) == some 'P'
  let back := arguments.head? == some ['-']
  let target ← match arguments with
    | [] => valueOf "HOME"
    | t :: _ => if back then valueOf "OLDPWD" else pure t
  let store := (← get).files.store
  let before := (← valueOf? "PWD".toList).getD (workingPath store)
  let path := joinedPath before target
  let found := if isPhysical then store.locate .followed (Path.ofBytes target)
    else store.locate .followed (Path.ofBytes path)
  match found with
  | .ok (.found location) =>
      if store.at? location = some .directory then
        let entered := store.enter location
        modify fun s => { s with files := { s.files with store := entered } }
        assign "OLDPWD".toList before true
        assign "PWD".toList (if isPhysical then workingPath entered else path) true
        if back then
          out (path ++ ['\n'])
        return 0
      else
        fail ("can't cd to ".toList ++ target)
  | _ => if target.isEmpty then return 0 else fail ("can't cd to ".toList ++ target)

def pwd (arguments : List Text) : Run Nat := do
  let (given, _) ← options "LP".toList arguments
  let store := (← get).files.store
  let logical := (← valueOf? "PWD".toList).getD (workingPath store)
  out ((if (given.getLast?.map Prod.fst) == some 'P' then workingPath store else logical) ++ ['\n'])
  return 0

/-- The glyphs of a line at the front of a text, the count of characters that it takes, and
whether it is complete.  Unless it is taken as it is, a backslash quotes a character or
joins lines. -/
def readLineGlyphs (raw : Bool) : Text → List Glyph × Nat × Bool
  | [] => ([], 0, false)
  | '\n' :: _ => ([], 1, true)
  | '\\' :: rest =>
      if raw then
        let tail := readLineGlyphs raw rest
        ({ char := '\\', parts := true } :: tail.1, tail.2.1 + 1, tail.2.2)
      else
        match rest with
        | [] => ([], 1, false)
        | '\n' :: rest =>
            let tail := readLineGlyphs raw rest
            (tail.1, tail.2.1 + 2, tail.2.2)
        | c :: rest =>
            let tail := readLineGlyphs raw rest
            ({ char := c, isQuoted := true } :: tail.1, tail.2.1 + 2, tail.2.2)
  | c :: rest =>
      let tail := readLineGlyphs raw rest
      (if c = '\x00' then tail.1 else { char := c, parts := true } :: tail.1, tail.2.1 + 1,
        tail.2.2)

def read (arguments : List Text) : Run Nat := do
  let (given, names) ← options "p:r".toList arguments
  if names.isEmpty then
    fail "arg count".toList
  for name in names do
    if !isName name then
      fail (name ++ ": bad variable name".toList)
  let raw := given.any fun g => g.1 == 'r'
  let s ← get
  let text := match s.descriptors.lookup 0 with
    | some id => (s.files.unread id).toOption.getD []
    | none => []
  let (gs, count, isComplete) := readLineGlyphs raw text
  match s.descriptors.lookup 0 with
  | some id => set { s with files := s.files.advance id count }
  | none => pure ()
  let values := Field.deal (← Expand.separators) names.length gs
  for (name, value) in names.zip values do
    assign name value false
  return if isComplete then 0 else 1

def nameAndValue (t : Text) : Text × Option Text :=
  let name := t.takeWhile (· ≠ '=')
  (name, match t.drop name.length with
    | _ :: value => some value
    | [] => none)

def listing (word : Text) (p : Variable → Bool) : Run Text := do
  let shown := (← get).bindings.filter fun v => p v.2
  let sorted := shown.mergeSort fun a b => Text.le a.1 b.1
  return sorted.flatMap fun v =>
    word ++ v.1 ++ (match v.2.value with
      | some t => '=' :: quote t
      | none => []) ++ ['\n']

def declare (word : String) (mark : Variable → Variable) (isMarked : Variable → Bool)
    (arguments : List Text) : Run Nat := do
  let (_, names) ← options ['p'] arguments
  if names.isEmpty then
    out (← listing (word.toList ++ [' ']) isMarked)
  for t in names do
    let (name, value) := nameAndValue t
    if !isName name then
      fail (name ++ ": bad variable name".toList)
    match value with
    | some value => assign name value false
    | none => pure ()
    let old := ((← get).bindings.lookup name).getD {}
    putVariable name (some (mark old))
  return 0

def unset (arguments : List Text) : Run Nat := do
  let (given, names) ← options "vf".toList arguments
  let isFunction := (given.getLast?.map Prod.fst) == some 'f'
  for name in names do
    if isFunction then
      modify fun s => { s with functions := s.functions.filter fun f => f.1 != name }
    else
      if !isName name then
        fail (name ++ ": bad variable name".toList)
      if (((← get).bindings.lookup name).map Variable.isReadOnly) = some true then
        fail (name ++ ": is read only".toList)
      putVariable name none
  return 0

def optionNames : List (String × Char) :=
  [("errexit", 'e'), ("noglob", 'f'), ("ignoreeof", 'I'), ("interactive", 'i'), ("monitor", 'm'),
    ("noexec", 'n'), ("stdin", 's'), ("xtrace", 'x'), ("verbose", 'v'), ("vi", 'V'), ("emacs", 'E'),
    ("noclobber", 'C'), ("allexport", 'a'), ("notify", 'b'), ("nounset", 'u'), ("privileged", 'p'),
    ("nolog", 'L'), ("debug", 'D')]

def namedOption (on : Bool) (name : Option Text) : Run Unit := do
  match name with
  | none =>
      let s ← get
      if on then
        out "Current option settings\n".toList
        for (name, letter) in optionNames do
          let name := name.toList
          out (name ++ List.replicate (16 - name.length) ' ' ++
            (if s.options.contains letter then "on\n" else "off\n").toList)
      else
        for (name, letter) in optionNames do
          out ((if s.options.contains letter then "set -o " else "set +o ").toList ++ name.toList ++
            ['\n'])
  | some name =>
      match optionNames.lookup (String.ofList name) with
      | some letter => setOption letter on
      | none => fail ("Illegal option ".toList ++ (if on then "-o " else "+o ").toList ++ name)

/-- Sets or clears options by their letters; tells whether one by name is to come.  Where a
shell starts, one letter tells that a command is given. -/
def setLetters (atStart on : Bool) : Text → Run Bool
  | [] => return false
  | 'o' :: more => do
      let _ ← setLetters atStart on more
      return true
  | c :: more => do
      if c = 'm' ∧ on then
        warn "can't access tty; job control turned off".toList
        setLetters atStart on more
      else if "efIimnsxvVECabup".toList.contains c || c == 'c' && atStart then
        setOption c on
        setLetters atStart on more
      else
        fail ("Illegal option ".toList ++ [if on then '-' else '+', c])

/-- Takes options of the shell from arguments, and gives the arguments left and whether they
are new ones for the script.  The name of one may be awaited. -/
def takeOptions (atStart : Bool) :
    (awaiting : Option Bool) → List Text → Run (List Text × Bool)
  | none, [] => return ([], false)
  | some on, [] => do
      namedOption on none
      return ([], false)
  | some on, name :: rest => do
      namedOption on (some name)
      takeOptions atStart none rest
  | none, argument :: rest =>
      match argument with
      | ['-'] => do
          unless atStart do
            setOption 'x' false
            setOption 'v' false
          return (rest, !rest.isEmpty)
      | ['-', '-'] => return (rest, true)
      | sign :: letters => do
          if sign = '-' ∨ sign = '+' then
            let on := sign == '-'
            let awaits ← setLetters atStart on letters
            takeOptions atStart (if awaits then some on else none) rest
          else
            return (argument :: rest, true)
      | [] => return (argument :: rest, true)

def set (arguments : List Text) : Run Nat := do
  if arguments.isEmpty then
    out (← listing [] fun v => v.value.isSome)
    return 0
  let (rest, isNew) ← takeOptions false none arguments
  if isNew then
    modify fun s => { s with arguments := rest, optionIndex := 1, letterOffset := 0 }
  return 0

def shift (arguments : List Text) : Run Nat := do
  let count ← match arguments with
    | [] => pure 1
    | t :: _ => number t
  if (← get).arguments.length < count then
    fail "can't shift that many".toList
  modify fun s =>
    { s with arguments := s.arguments.drop count, optionIndex := 1, letterOffset := 0 }
  return 0

def localize (arguments : List Text) : Run Nat := do
  if (← get).frames.isEmpty then
    fail "not in a function".toList
  for t in arguments do
    let (name, value) := nameAndValue t
    if name = ['-'] then
      modify fun s =>
        match s.frames with
        | frame :: others =>
            { s with frames := ((['-'], some { value := some s.options }) :: frame) :: others }
        | [] => s
    else
      if !isName name then
        fail (name ++ ": bad variable name".toList)
      keep name
      match value with
      | some value => assign name value false
      | none => pure ()
  return 0

def leave (leaving : Nat → Leaving) (arguments : List Text) : Run Nat := do
  let count ← match arguments with
    | [] => pure 1
    | t :: _ => number t
  if count = 0 then
    fail ("Illegal number: ".toList ++ arguments.headD [])
  let count := min count (← get).loops
  if 0 < count then
    modify fun s => { s with leaving := leaving count }
  return 0

def returnFrom (arguments : List Text) : Run Nat := do
  let status ← match arguments with
    | [] => pure (← get).status
    | t :: _ => number t
  modify fun s => { s with leaving := .returning }
  return status

def exit (arguments : List Text) : Run Nat := do
  match arguments with
  | [] => pure ()
  | t :: _ =>
      let n ← number t
      modify fun s => { s with finalStatus := some n }
  throw .exit

def signalName (signal : Nat) : Text :=
  match ExitStatus.signalName.signalNames.lookup signal with
  | some name => if signal = 16 then numeral 16 else name.toList.drop 3
  | none => if signal = 0 then "EXIT".toList else numeral signal

def signal? (t : Text) : Option Nat :=
  match Text.natural? t with
  | some n => if n ≤ 64 then some n else none
  | none => (List.range 32).find? fun n => signalName n == t.map Char.toUpper

def trap (arguments : List Text) : Run Nat := do
  let (_, arguments) ← options [] arguments
  let take (action : Option Text) (names : List Text) : Run Nat := do
    for name in names do
      match signal? name with
      | none =>
          write 2 ("trap: ".toList ++ name ++ ": bad trap\n".toList)
          return 1
      | some n =>
          modify fun s =>
            let others := s.traps.filter fun e => e.1 != n
            { s with
              traps := match action with
                | some t => (n, t) :: others
                | none => others }
    return 0
  match arguments with
  | [] =>
      let traps := (← get).traps.mergeSort fun a b => decide (a.1 ≤ b.1)
      for (n, action) in traps do
        out ("trap -- ".toList ++ quote action ++ ' ' :: signalName n ++ ['\n'])
      return 0
  | [name] => take none [name]
  | action :: names =>
      if (Text.natural? action).isSome then take none (action :: names)
      else take (if action = ['-'] then none else some action) names

def isHarmless (signal : Nat) : Bool :=
  [0, 17, 18, 23, 28].contains signal

/-- Lets a signal reach the shell: its action is put off, it does nothing, or it ends the
shell. -/
def receive (signal : Nat) : Run Unit := do
  if signal = 9 then
    throw (.killed signal)
  if (← get).ignored.contains signal then
    return
  match (← get).traps.lookup signal with
  | some [] => return
  | some _ => modify fun s => { s with pending := s.pending ++ [signal] }
  | none =>
      unless isHarmless signal do
        throw (.killed signal)

def isRunning (s : Shell) (number : Nat) : Bool :=
  s.jobs.any fun j => j.number == number

def kill (arguments : List Text) : Run Nat := do
  let usage : Run Nat :=
    fail ("Usage: kill [-s sigspec | -signum | -sigspec] [pid | job]... or\n" ++
      "kill -l [exitstatus]").toList
  let direct : Option Nat := match arguments with
    | ('-' :: name) :: _ => if name.isEmpty then none else signal? name
    | _ => none
  let (signal, lists, targets) ← match direct with
    | some n => pure (some n, false, arguments.drop 1)
    | none => do
        let (given, targets) ← options "ls:".toList arguments
        let mut signal : Option Nat := none
        for (letter, value) in given do
          if letter = 's' then
            match signal? value with
            | some n => signal := some n
            | none => fail ("invalid signal number or name: ".toList ++ value)
        pure (signal, given.any (fun g => g.1 == 'l'), targets)
  if lists then
    match targets with
    | [] =>
        out "0\n".toList
        for n in List.range 31 do
          out (signalName (n + 1) ++ ['\n'])
        return 0
    | t :: _ =>
        let n ← number t
        let n := if 128 < n then n - 128 else n
        if 0 < n ∧ n ≤ 64 then
          out (signalName n ++ ['\n'])
          return 0
        else
          fail ("invalid signal number or exit status: ".toList ++ t)
  else if targets.isEmpty then
    usage
  else
    let mut status := 0
    for t in targets do
      let isGroup := t.head? == some '-'
      let target ← number (if t.head? = some '-' then t.drop 1 else t)
      let s ← get
      if isGroup then
        warn "No such process\n".toList
        status := 1
      else if target = s.number then
        if s.depth = 0 then
          receive (signal.getD 15)
        else
          modify fun s => { s with outerSignals := s.outerSignals ++ [signal.getD 15] }
      else if isRunning s target then
        let signal := signal.getD 15
        let sent (j : Job) : Job :=
          if j.number = target ∧ j.deadline.isNone ∧ signal ≠ 0 then
            { j with deadline := some (s.files.clock, signal) }
          else
            j
        modify fun s => { s with jobs := s.jobs.map sent }
      else if !(s.children.any fun c => c.1 == target) then
        warn "No such process\n".toList
        status := 1
    return status

/-- Of the jobs that come to an end by a time, lets the one that does so first come to it, and
gives its number and the time. -/
def finishJob (limit : Option Nat) : Run (Option (Nat × Nat)) := do
  let s ← get
  let limit := match limit, s.files.limit with
    | some a, some b => some (min a b)
    | a, b => a.or b
  let tries := s.jobs.map fun j =>
    (j, j.run j.deadline { s.files with clock := j.start, limit := limit })
  let inTime := tries.filter fun e => limit.all fun n => e.2.2.1.clock ≤ n
  match inTime with
  | [] => return none
  | first :: rest =>
      let (j, status, files, signals) := rest.foldl
        (fun best e => if e.2.2.1.clock < best.2.2.1.clock then e else best) first
      let store := files.store.enter s.files.store.workingDirectory
      modify fun s =>
        { s with
          files := { files with store := store, clock := s.files.clock, limit := s.files.limit }
          jobs := s.jobs.filter fun other => other.number ≠ j.number
          children := (j.number, status) :: s.children }
      for signal in signals do
        if s.depth = 0 then receive signal
        else modify fun s => { s with outerSignals := s.outerSignals ++ [signal] }
      return some (j.number, files.clock)

def finishJobs (limit : Option Nat) : (count : Nat) → Run Unit
  | 0 => return
  | count + 1 => do
      if (← finishJob limit).isSome then
        finishJobs limit count

def awaitJob (number : Option Nat) : (count : Nat) → Run Unit
  | 0 => return
  | count + 1 => do
      let children := (← get).children
      if number.all fun n => !(children.any fun c => c.1 == n) then
        match ← finishJob none with
        | some (_, time) =>
            modify fun s => { s with files := { s.files with clock := max s.files.clock time } }
            awaitJob number count
        | none => return

def wait (arguments : List Text) : Run Nat := do
  let (_, arguments) ← options [] arguments
  let mut status := 0
  for t in arguments do
    let n ← number t
    let wasRunning := isRunning (← get) n
    if wasRunning then
      awaitJob (some n) (← get).jobs.length
    match (← get).children.lookup n with
    | some ended =>
        if wasRunning then
          tellSignal ended
        status := ended.code
    | none => status := 127
  if arguments.isEmpty then
    awaitJob none (← get).jobs.length
  return status

/-- What reading one option of arguments comes to: its letter, if there is one, the value
that it has, what is wrong with it, and where reading goes on. -/
structure OptionRead where
  letter : Option Char
  value : Option Text := none
  complaint : Option Text := none
  index : Nat
  offset : Nat := 0

/-- Reads one option, whose letters stand in `letters`, from arguments: at a place of an
argument, or from the start of the next one. -/
def readOption (letters : Text) (arguments : List Text) (index offset : Nat) : OptionRead :=
  let silent := letters.head? == some ':'
  let current := arguments[index - 2]?.getD []
  let inside := if 1 < index && 0 < offset then current.drop offset else []
  let start : Option (Text × Nat × Nat) :=
    if inside.isEmpty then
      match arguments[index - 1]? with
      | some ['-', '-'] => none
      | some ('-' :: c :: more) => some (c :: more, index + 1, 1)
      | _ => none
    else
      some (inside, index, offset)
  match start with
  | none =>
      { letter := none
        index := if inside.isEmpty && arguments[index - 1]? == some ['-', '-'] then index + 1 else index }
  | some (text, index, offset) =>
      let c := text.headD '?'
      let more := text.drop 1
      let offset := if more.isEmpty then 0 else offset + 1
      let behind := ((letters.drop (if silent then 1 else 0)).dropWhile (· ≠ c)).drop 1
      if c = ':' ∨ !letters.contains c then
        { letter := some '?', index := index, offset := offset
          value := if silent then some [c] else none
          complaint := if silent then none else some ("Illegal option -".toList ++ [c]) }
      else if behind.head? = some ':' then
        if !more.isEmpty then
          { letter := some c, value := some more, index := index }
        else
          match arguments[index - 1]? with
          | some value => { letter := some c, value := some value, index := index + 1 }
          | none =>
              { letter := some (if silent then ':' else '?'), index := index
                value := if silent then some [c] else none
                complaint :=
                  if silent then none
                  else some ("No arg for -".toList ++ c :: " option".toList) }
      else
        { letter := some c, value := some [], index := index, offset := offset }

def getopts (arguments : List Text) : Run Nat := do
  match arguments with
  | letters :: name :: given =>
      let s ← get
      let arguments := if given.isEmpty then s.arguments else given
      let isBehind := arguments.length + 1 < s.optionIndex
      let read := if isBehind then readOption letters arguments 1 0
        else readOption letters arguments s.optionIndex s.letterOffset
      match read.complaint with
      | some t => write 2 (t ++ ['\n'])
      | none => pure ()
      match read.letter, read.value with
      | some _, some value => assign "OPTARG".toList value false
      | some _, none => putVariable "OPTARG".toList none
      | none, _ => pure ()
      assign "OPTIND".toList (numeral read.index) false
      if !isName name then
        fail (name ++ ": bad variable name".toList)
      assign name [read.letter.getD '?'] false
      modify fun s => { s with optionIndex := read.index, letterOffset := read.offset }
      return if read.letter.isNone then 1 else 0
  | _ => fail "Usage: getopts optstring var [arg...]".toList

end Builtin

end Script

end Imprint
