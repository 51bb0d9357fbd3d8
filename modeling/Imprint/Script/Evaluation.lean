import Imprint.Script.Builtin

/-!
# Evaluation of scripts

A script is run command by command in the state of a shell.  Commands that hold
others are evaluated by way of a function that evaluates those; it is used up to a
depth, beyond which a script counts as broken.
-/

namespace Imprint

namespace Script

/-- How the status of a command is used: it may be tested, so that a failure is no reason
to end the shell, and it may be the last of its shell. -/
structure Usage where
  isTested : Bool := false
  isLast : Bool := false

def attempt (body : Run α) : Run (Option α) := fun s =>
  match body s with
  | (.ok a, t) => (.ok (some a), t)
  | (.error .error, t) => (.ok none, t)
  | (.error abort, t) => (.error abort, t)

inductive Found where
  | function (body : Command)
  | builtin (isSpecial : Bool)
  | program (path : Text)
  | missing (cause : Cause)

def builtinNames : List String :=
  ["cd", "chdir", "command", "echo", "false", "getopts", "kill", "local", "printf", "pwd", "read",
    "test", "[", "true", "type", "wait"]

def isSpecialName (name : Text) : Bool :=
  specialNames.contains (String.ofList name) || name == "local".toList

def Cause.ofCommand (cause : Cause) : Text :=
  match cause with
  | .notFound | .notDirectory => "not found".toList
  | cause => cause.wording

def Cause.ofOpening (creates : Bool) (cause : Cause) : Text :=
  match cause with
  | .notFound | .notDirectory => (if creates then "Directory nonexistent" else "No such file").toList
  | cause => cause.wording

section Evaluation

variable (system : System) (self : Usage → Command → Run Nat)

def searchPath : Run Text :=
  return (← Run.valueOf? "PATH".toList).getD System.defaultSearchPath

def find (name : Text) (withFunctions : Bool) : Run Found := do
  let s ← get
  if name.contains '/' then
    return .program name
  else if isSpecialName name then
    return .builtin true
  else
    match if withFunctions then s.functions.lookup name else none with
    | some body => return .function body
    | none =>
        if builtinNames.contains (String.ofList name) then
          return .builtin false
        else
          match system.find s.files.store (← searchPath) name with
          | .ok path =>
              return .program path
          | .error cause => return .missing cause

/-- Reads and runs the lines of a text, one by one, and gives the status of the last.  What
follows a line is left out where the line says so. -/
def runLines (usage : Usage) : (fuel : Nat) → Reading → (status : Nat) → Run Nat
  | 0, _, status => return status
  | fuel + 1, r, status => do
      let s ← get
      let (result, r') := readLine
        { r with documents := s.documents, nextDocument := s.nextDocument }
      modify fun s => { s with documents := r'.documents, nextDocument := r'.nextDocument }
      if s.options.contains 'v' then
        Run.write 2 (r.rest.take (r.rest.length - r'.rest.length))
      match result with
      | .error m =>
          modify fun s => { s with line := m.line }
          Run.fail ("Syntax error: ".toList ++ m.message)
      | .ok none => return status
      | .ok (some c) =>
          let isEnd := r'.rest.isEmpty
          let status ← if c.isSkip then pure status
            else self { usage with isLast := usage.isLast && isEnd } c
          if (← get).leaving ≠ .staying then
            return status
          runLines usage fuel r' status

def runText (usage : Usage) (t : Text) : Run Nat :=
  runLines self usage (t.length + 2) { rest := t } 0

def runPending : Run Unit := do
  let s ← get
  if s.pending.isEmpty || s.leaving ≠ .staying then
    return
  set { s with pending := [], finalStatus := some (s.finalStatus.getD s.status) }
  for signal in s.pending.mergeSort (fun a b => decide (a ≤ b)) do
    match (← get).traps.lookup signal with
    | some action =>
        let _ ← runText self {} action
        if (← get).leaving ≠ .returning then
          Run.setStatus s.status
    | none => pure ()
  modify fun t => { t with finalStatus := s.finalStatus }

/-- How a shell ends: the action for its end is run, and the status is what it was before
unless the action ends the shell itself.  What still runs in the background goes on to its
end. -/
def conclude (result : Except Abort Nat) : StateM Shell ExitStatus := fun s =>
  let left (status : ExitStatus) (s : Shell) : ExitStatus × Shell :=
    (status, (Builtin.finishJobs none s.jobs.length s).2)
  let killed (signal : Nat) (s : Shell) : ExitStatus × Shell := left (.signaled signal false) s
  let ended (s : Shell) : ExitStatus × Shell := left (.exited (UInt8.ofNat s.status)) s
  let before : Option Shell :=
    match result with
    | .ok _ | .error .error => some { s with finalStatus := none }
    | .error .exit => some { s with status := s.finalStatus.getD s.status, finalStatus := none }
    | .error (.killed _) => none
  match before, result with
  | none, .error (.killed signal) => killed signal s
  | none, _ => ended s
  | some s, _ =>
      match s.traps.lookup 0 with
      | some (c :: action) =>
          let start : Shell :=
            { s with
              traps := s.traps.filter fun e => e.1 != 0
              leaving := .staying
              finalStatus := some s.status }
          match runText self {} (c :: action) start with
          | (.ok _, t) => ended { t with status := s.status }
          | (.error .exit, t) => ended { t with status := t.finalStatus.getD t.status }
          | (.error .error, t) => ended t
          | (.error (.killed signal), t) => killed signal t
      | _ => ended s

/-- Runs a computation as a shell inside another one.  Actions for signals are not handed
down. -/
def runInside (outer : Shell) (deadline : Option (Nat × Nat)) (body : Run Nat) :
    ExitStatus × Shell :=
  let inner : Shell :=
    { outer with
      depth := outer.depth + 1
      traps := outer.traps.filter fun e => e.2.isEmpty
      pending := []
      outerSignals := []
      children := []
      jobs := []
      deadline := deadline
      loops := 0
      finalStatus := none }
  let (result, ended) := body inner
  let (status, after) := conclude self result ended
  let store := after.files.store.enter outer.files.store.workingDirectory
  (status, { after with files := { after.files with store := store } })

/-- Runs a computation as a shell of its own: of what it does, only the files remain, and
the signals that it sent. -/
def subshell (deadline : Option (Nat × Nat)) (body : Run Nat) : Run ExitStatus := do
  let outer ← get
  let (status, after) := runInside self outer deadline body
  set
    { outer with
      files := after.files
      nextNumber := after.nextNumber
      documents := after.documents
      nextDocument := after.nextDocument }
  for signal in after.outerSignals do
    if outer.depth = 0 then
      Builtin.receive signal
    else
      modify fun s => { s with outerSignals := s.outerSignals ++ [signal] }
  return status

def jobDelay : Nat := 200

def programDelay : Nat := 1000

def startJob (body : Run Nat) : Run Unit := do
  let s ← get
  let job : Job :=
    { number := s.nextNumber
      start := s.files.clock + jobDelay
      run := fun deadline files =>
        let store := files.store.enter s.files.store.workingDirectory
        let (status, after) := runInside self { s with files := { files with store := store } } deadline body
        (status, after.files, after.outerSignals) }
  set
    { s with
      jobs := s.jobs ++ [job]
      lastChild := some s.nextNumber
      nextNumber := s.nextNumber + 1 }

def inBackground (withInput : Bool) (body : Run Nat) : Run Nat := do
  modify fun s => { s with traps := [(2, []), (3, [])] ++ s.traps }
  unless withInput do
    let (id, files) := (← get).files.add .nothing
    modify fun s => { s with files := files }
    Run.lead 0 (some id)
  body

def capture (body : Command) : Run Text := do
  let s ← get
  let (id, files) := s.files.add (.sink [])
  set { s with files := files }
  if body.isSkip then
    return []
  let status ← subshell self none do
    Run.lead 1 (some id)
    self { isLast := true } body
  Run.tellSignal status
  modify fun s => { s with outputStatus := status.code, files := s.files.awaitEnd id }
  let t := ((← get).files.collected id).filter (· ≠ '\x00')
  return (t.reverse.dropWhile (· = '\n')).reverse

inductive Leading where
  | file (descriptor : Nat) (opening : Opening) (path : Text)
  | copy (descriptor source : Nat)
  | close (descriptor : Nat)
  | text (descriptor : Nat) (t : Text)

def expandRedirection (r : Redirection) : Run Leading := do
  let text (w : Word) := Expand.text (capture self) { tilde := true } w
  match r with
  | .file descriptor opening target => return .file descriptor opening (← text target)
  | .copy descriptor source => return .copy descriptor source
  | .close descriptor => return .close descriptor
  | .copyNamed descriptor source =>
      match ← text source with
      | ['-'] => return .close descriptor
      | [d] =>
          if d.isDigit then return .copy descriptor (d.toNat - '0'.toNat)
          else Run.fail "Syntax error: Bad fd number".toList
      | _ => Run.fail "Syntax error: Bad fd number".toList
  | .document descriptor id =>
      let w := ((← get).documents.lookup id).getD []
      return .text descriptor (← Expand.text (capture self) {} w)

def redirect (l : Leading) : Run Unit := do
  let s ← get
  match l with
  | .copy descriptor source =>
      match s.descriptors.lookup source with
      | some id => Run.lead descriptor (some id)
      | none => Run.fail (Run.numeral source ++ ": Bad file descriptor".toList)
  | .close descriptor => Run.lead descriptor none
  | .text descriptor t =>
      let (id, files) := s.files.add (.source t)
      modify fun s => { s with files := files }
      Run.lead descriptor (some id)
  | .file descriptor opening path =>
      let creates := opening ≠ .reading
      let refuse (cause : Cause) : Run Unit :=
        Run.fail ((if creates then "cannot create ".toList else "cannot open ".toList) ++ path ++
          ": ".toList ++ Cause.ofOpening creates cause)
      let isThere := match s.files.store.entry (Path.ofBytes path) with
        | .ok (.file ..) => true
        | _ => false
      if opening = .writing && s.options.contains 'C' && isThere then
        refuse .alreadyExists
      else
        let mode : OpenMode := match opening with
          | .reading => .reading
          | .writing | .clobbering => .writing
          | .appending => .appending
          | .both => .both
        match s.files.openPath s.descriptors mode path with
        | .ok (id, files) =>
            modify fun s => { s with files := files }
            Run.lead descriptor (some id)
        | .error cause => refuse cause

/-- Runs a computation with descriptors led elsewhere, and leads them back after it.  The
status is two where they cannot be led there. -/
def withRedirections (redirections : List Redirection) (body : Run Nat) : Run Nat := do
  if redirections.isEmpty then
    body
  else
    let leadings ← redirections.mapM (expandRedirection self)
    let before := (← get).descriptors
    Run.ending
      (do
        match ← attempt (leadings.forM redirect) with
        | none => return 2
        | some () => body)
      (modify fun s => { s with descriptors := before })

def runProgram (usage : Usage) (path : Text) (words : List Text) : Run Nat := do
  let name := words.headD []
  let arguments := words.drop 1
  let p ← Run.process name
  let p := { p with files := p.files.wait programDelay }
  let result := match system.start path p arguments with
    | .error .badFormat =>
        system.start "/bin/sh".toList { p with name := "/bin/sh".toList } (path :: arguments)
    | result => result
  match result with
  | .ok (status, files) =>
      modify fun s => { s with files := files }
      match status with
      | .signaled signal _ =>
          if usage.isLast && !(← get).hasTraps then
            throw (.killed signal)
          Run.tellSignal status
      | .exited _ => pure ()
      return status.code
  | .error cause =>
      Run.warn (name ++ ": ".toList ++ Cause.ofCommand cause)
      return if cause = .notFound ∨ cause = .notDirectory ∨ cause = .tooManyLinks ∨
        cause = .nameTooLong then 127 else 126

def replace (words : List Text) : Run Nat := do
  let name := words.headD []
  let p ← Run.process name
  let result := system.byName (← searchPath) p name (words.drop 1)
  let result := match result with
    | .error .badFormat =>
        system.start "/bin/sh".toList { p with name := "/bin/sh".toList } (name :: words.drop 1)
    | result => result
  match result with
  | .ok (status, files) =>
      modify fun s => { s with files := files, traps := [], status := status.code, finalStatus := none }
      match status with
      | .signaled signal _ => throw (.killed signal)
      | .exited _ => throw .exit
  | .error cause =>
      Run.failWith
        (if cause = .notFound ∨ cause = .notDirectory ∨ cause = .tooManyLinks ∨
          cause = .nameTooLong then 127 else 126)
        (name ++ ": ".toList ++ Cause.ofCommand cause)

def call (usage : Usage) (body : Command) (arguments : List Text) : Run Nat := do
  let outer ← get
  set { outer with arguments := arguments, optionIndex := 1, letterOffset := 0, loops := 0 }
  Run.ending (self { isTested := usage.isTested } body)
    (modify fun s =>
      { s with
        arguments := outer.arguments
        optionIndex := outer.optionIndex
        letterOffset := outer.letterOffset
        loops := outer.loops
        leaving := if s.leaving = .returning then .staying else s.leaving })

def source (arguments : List Text) : Run Nat := do
  let (_, arguments) ← Builtin.options [] arguments
  match arguments with
  | [] => return 0
  | name :: _ =>
      let s ← get
      let isFile (path : Text) : Bool :=
        match s.files.store.entry (Path.ofBytes path) with
        | .ok (.file ..) => true
        | _ => false
      let path ←
        if name.contains '/' then pure name
        else
          let paths := (cutAt ':' (← searchPath)).map fun dir => System.pathIn dir name
          match paths.find? isFile with
          | some path => pure path
          | none => Run.fail (name ++ ": not found".toList)
      match s.files.openPath s.descriptors .reading path with
      | .error cause => Run.fail ("cannot open ".toList ++ path ++ ": ".toList ++ Cause.ofOpening false cause)
      | .ok (id, files) =>
          let text := (files.unread id).toOption.getD []
          modify fun s => { s with commandName := some path }
          let status ← runText self {} text
          modify fun s =>
            { s with leaving := if s.leaving = .returning then .staying else s.leaving }
          return status

def describe (inWords : Bool) (name : Text) : Run Nat := do
  let s ← get
  let tell (t : String) : Run Nat := do
    Run.out (if inWords then name ++ t.toList ++ ['\n'] else name ++ ['\n'])
    return 0
  if keywords.contains (String.ofList name) then
    tell " is a shell keyword"
  else
    let missing : Run Nat := do
      if inWords then
        Run.out (name ++ ": not found\n".toList)
      return 127
    match ← find system name true with
    | .function _ => tell " is a shell function"
    | .builtin isSpecial =>
        tell (if isSpecial then " is a special shell builtin" else " is a shell builtin")
    | .program path =>
        if name.contains '/' && (system.refusal? s.files.store path) == some .notFound then
          missing
        else
          Run.out ((if inWords then name ++ " is ".toList ++ path else path) ++ ['\n'])
          return 0
    | .missing _ => missing

def describeAll (names : List Text) : Run Nat := do
  let mut status := 0
  for name in names do
    let one ← describe system true name
    if one ≠ 0 then
      status := one
  return status

def builtin (usage : Usage) (name : Text) (arguments : List Text) : Run Nat :=
  match String.ofList name with
  | ":" | "true" => return 0
  | "false" => return 1
  | "." => source self arguments
  | "[" | "test" => Builtin.condition system name arguments
  | "break" => Builtin.leave .breaking arguments
  | "cd" | "chdir" => Builtin.cd arguments
  | "continue" => Builtin.leave .continuing arguments
  | "echo" => Builtin.echo arguments
  | "eval" =>
      if arguments.isEmpty then return 0
      else runText self { usage with isLast := false } (List.intercalate [' '] arguments)
  | "exec" => if arguments.isEmpty then return 0 else replace system arguments
  | "exit" => Builtin.exit arguments
  | "export" => Builtin.declare "export" (fun v => { v with isExported := true }) Variable.isExported
      arguments
  | "getopts" => Builtin.getopts arguments
  | "kill" => Builtin.kill arguments
  | "local" => Builtin.localize arguments
  | "printf" => Builtin.printf arguments
  | "pwd" => Builtin.pwd arguments
  | "read" => Builtin.read arguments
  | "readonly" => Builtin.declare "readonly" (fun v => { v with isReadOnly := true })
      Variable.isReadOnly arguments
  | "return" => Builtin.returnFrom arguments
  | "set" => Builtin.set arguments
  | "shift" => Builtin.shift arguments
  | "trap" => Builtin.trap arguments
  | "type" => describeAll system arguments
  | "unset" => Builtin.unset arguments
  | "wait" => Builtin.wait arguments
  | _ => return 127

/-- Runs a utility of the shell under its name in messages.  An error of one that is part
of the language ends the shell, and one of another is its status. -/
def runBuiltin (usage : Usage) (isSpecial : Bool) (name : Text) (arguments : List Text) :
    Run Nat := do
  let before := (← get).commandName
  modify fun s => { s with commandName := some name, isOutputLost := false }
  let whole : Run Nat := Run.ending
    (do
      let status ← builtin system self usage name arguments
      if (← get).isOutputLost then
        Run.warn (name ++ ": I/O error".toList)
        return status ||| 1
      return status)
    (modify fun s => { s with commandName := before })
  if isSpecial then
    whole
  else
    match ← attempt whole with
    | some status => return status
    | none => return (← get).status

/-- The fields of the words of a command, from the first on.  Words that assign are not
parted where the command declares variables. -/
def expandWords : List Word → Run (List Text)
  | [] => return []
  | w :: rest => do
      let first ← Expand.fields (capture self) w
      match first with
      | [] => expandWords rest
      | name :: _ =>
          let declares := ["export", "readonly", "local"].contains (String.ofList name)
          let others ← rest.mapM fun w =>
            match if declares then assignment? w else none with
            | some (name, value) => do
                let t ← Expand.text (capture self) { tilde := true, colons := true } value
                return [name ++ '=' :: t]
            | none => Expand.fields (capture self) w
          return first ++ others.flatten

/-- The name of a command behind utilities that only run it: the words from the name on, and
whether functions count. -/
def unwrap : (fuel : Nat) → (withFunctions : Bool) → List Text → List Text × Bool
  | 0, withFunctions, words => (words, withFunctions)
  | fuel + 1, withFunctions, words =>
      match words with
      | name :: rest =>
          if name = "command".toList then
            let rest := match rest with
              | ['-', '-'] :: rest => rest
              | ['-', 'p'] :: rest => rest
              | rest => rest
            match rest with
            | ('-' :: _ :: _) :: _ => (words, withFunctions)
            | [] => (words, withFunctions)
            | _ => unwrap fuel false rest
          else
            (words, withFunctions)
      | [] => ([], withFunctions)

def trace (descriptors : List (Nat × Nat)) (assignments : List (Text × Text)) (words : List Text) :
    Run Unit := do
  let s ← get
  if s.options.contains 'x' && !s.isTracing then
    modify fun s => { s with isTracing := true }
    let written := (← Run.valueOf? "PS4".toList).getD []
    let sign ← match readText written { rest := [] } with
      | (.ok w, _) => Expand.text (capture self) {} w
      | (.error _, _) => pure written
    let items := assignments.map (fun a => a.1 ++ '=' :: a.2) ++ words
    let line := sign ++ List.intercalate [' '] items ++ ['\n']
    modify fun s =>
      { s with
        isTracing := false
        files := match descriptors.lookup 2 with
          | some id => s.files.write id line
          | none => s.files }

def runSimple (usage : Usage) (line : Nat) (assignments : List (Text × Word)) (words : List Word)
    (redirections : List Redirection) : Run Nat := do
  modify fun s => { s with line := line, outputStatus := 0 }
  let all ← expandWords self words
  let (words, withFunctions) := unwrap all.length true all
  let wrapped := words.length < all.length
  let name := words.headD []
  let first ← if words.isEmpty then pure (Found.builtin false) else find system name withFunctions
  let isSpecial := !wrapped && !words.isEmpty && match first with
    | .builtin isSpecial => isSpecial
    | _ => false
  let isLocal := !words.isEmpty && !isSpecial
  let isExec := !words.isEmpty && name == "exec".toList
  let leadings ← redirections.mapM (expandRedirection self)
  let before := (← get).descriptors
  let after : Run Unit := do
    unless isExec && words.length = 1 do
      modify fun s => { s with descriptors := before }
    if isLocal then
      Run.leaveFrame
  if isLocal then
    Run.enterFrame
  Run.ending
    (do
      match ← attempt (leadings.forM redirect) with
      | none =>
          Run.setStatus 2
          if isSpecial then
            throw .error
          return 2
      | some () =>
          let mut assigned : List (Text × Text) := []
          for (name, w) in assignments do
            let value ← Expand.text (capture self) { tilde := true, colons := true } w
            if isLocal then
              Run.keep name
            Run.assign name value (isLocal || (isExec && 1 < words.length))
            assigned := assigned ++ [(name, value)]
          trace self before assigned all
          if words.isEmpty then
            return (← get).outputStatus
          let found ← match first with
            | .builtin _ => pure first
            | _ => find system name withFunctions
          match found with
          | .function body => call self usage body (words.drop 1)
          | .builtin _ =>
              if name = "command".toList then
                let (given, names) ← Builtin.options "pvV".toList (words.drop 1)
                match given.getLast?.map Prod.fst, names with
                | some letter, name :: _ => describe system (letter == 'V') name
                | _, _ => return 0
              else
                runBuiltin system self usage isSpecial name (words.drop 1)
          | .program path => runProgram system usage path words
          | .missing cause =>
              Run.warn (name ++ ": ".toList ++ Cause.ofCommand cause)
              Run.setStatus 127
              return 127)
    after

/-- What becomes of a loop after a turn: whether it goes on, and whether it ends here. -/
def afterTurn : Run Bool := do
  let s ← get
  match s.leaving with
  | .staying => return true
  | .returning => return false
  | .breaking count =>
      set { s with leaving := if count ≤ 1 then .staying else .breaking (count - 1) }
      return false
  | .continuing count =>
      set { s with leaving := if count ≤ 1 then .staying else .continuing (count - 1) }
      return count ≤ 1

def runLoop (usage : Usage) (wanted : Bool) (condition body : Command) :
    (fuel : Nat) → (status : Nat) → Run Nat
  | 0, status => return status
  | fuel + 1, status => do
      let i ← self { isTested := true } condition
      let leaving := (← get).leaving
      if leaving = .returning then
        return i
      if leaving ≠ .staying then
        if ← afterTurn then
          return ← runLoop usage wanted condition body fuel status
        else
          return status
      if (i == 0) != wanted then
        return status
      let status ← self usage body
      if ← afterTurn then
        runLoop usage wanted condition body fuel status
      else
        return status

def runForEach (usage : Usage) (name : Text) (body : Command) : List Text → (status : Nat) → Run Nat
  | [], status => return status
  | value :: rest, _ => do
      Run.assign name value false
      let status ← self usage body
      if ← afterTurn then
        runForEach usage name body rest status
      else
        return status

def runArms (usage : Usage) (subject : Text) : List (List Word × Command) → Run Nat
  | [] => return 0
  | (patterns, body) :: rest => do
      if ← fitsSome patterns then
        if body.isSkip then return 0 else self usage body
      else
        runArms usage subject rest
where
  fitsSome : List Word → Run Bool
    | [] => return false
    | w :: others => do
        let p := Pattern.read (← Expand.glyphs (capture self) w)
        if p.fits subject then return true else fitsSome others

/-- Runs commands joined by pipes, each in a shell of its own, and gives their statuses in
order.  What one prints is the input of the next. -/
def runPipeline (isBackground : Bool) : (isFirst : Bool) → (input : Option Nat) → List Command →
    Run (List ExitStatus)
  | _, _, [] => return []
  | isFirst, input, c :: rest => do
      let s ← get
      let (id, files) := s.files.add (.sink [])
      set { s with files := files }
      let body : Run Nat := do
        match input with
        | some id => Run.lead 0 (some id)
        | none => pure ()
        unless rest.isEmpty do
          Run.lead 1 (some id)
        self { isLast := true } c
      let status ← subshell self none
        (if isBackground then inBackground (!isFirst) body else body)
      modify fun s =>
        { s with files := (s.files.awaitEnd id).setChannel id (.source (s.files.collected id)) }
      return status :: (← runPipeline isBackground false (some id) rest)

def maxTurns : Nat := 1000000

def perform (usage : Usage) (c : Command) : Run Nat := do
  let inner : Usage := { isTested := usage.isTested }
  match c with
  | .skip => return 0
  | .simple line assignments words redirections =>
      runSimple system self usage line assignments words redirections
  | .negated body =>
      let status ← self { isTested := true } body
      return if status = 0 then 1 else 0
  | .sequence commands =>
      let rec go : List Command → Run Nat
        | [] => return 0
        | [c] => self usage c
        | c :: rest => do
            let status ← self inner c
            if (← get).leaving ≠ .staying then return status else go rest
      go commands
  | .both first second =>
      let status ← self { isTested := true } first
      if status ≠ 0 ∨ (← get).leaving ≠ .staying then return status else self usage second
  | .either first second =>
      let status ← self { isTested := true } first
      if status = 0 ∨ (← get).leaving ≠ .staying then return status else self usage second
  | .branch condition consequence alternative =>
      let status ← self { isTested := true } condition
      if (← get).leaving ≠ .staying then return status
      else if status = 0 then self usage consequence
      else if alternative.isSkip then return 0
      else self usage alternative
  | .loop wanted condition body =>
      modify fun s => { s with loops := s.loops + 1 }
      Run.ending (runLoop self inner wanted condition body maxTurns 0)
        (modify fun s => { s with loops := s.loops - 1 })
  | .forEach line name values body =>
      modify fun s => { s with line := line }
      let values ← Expand.allFields (capture self) values
      modify fun s => { s with loops := s.loops + 1 }
      Run.ending (runForEach self inner name body values 0)
        (modify fun s => { s with loops := s.loops - 1 })
  | .choose line subject arms =>
      modify fun s => { s with line := line }
      let subject ← Expand.text (capture self) { tilde := true } subject
      runArms self usage subject arms
  | .subshell line isBackground body redirections =>
      modify fun s => { s with line := line }
      let leadings ← redirections.mapM (expandRedirection self)
      let run : Run Nat := do
        leadings.forM redirect
        self { isTested := usage.isTested && !isBackground, isLast := true } body
      if isBackground then
        startJob self (inBackground false run)
        return 0
      else
        let s ← get
        let isReplaced := usage.isLast && !s.hasTraps
        if isReplaced then
          set { s with deadline := none }
        let status ← subshell self (if isReplaced then s.deadline else none) run
        match status with
        | .signaled signal _ => if isReplaced then throw (.killed signal) else Run.tellSignal status
        | .exited _ => pure ()
        return status.code
  | .redirected line body redirections =>
      modify fun s => { s with line := line }
      withRedirections self redirections (self inner body)
  | .definition _ name body =>
      modify fun s =>
        { s with functions := (name, body) :: s.functions.filter fun f => f.1 != name }
      return 0
  | .pipeline commands isBackground =>
      if isBackground then
        startJob self do
          let statuses ← runPipeline self true true none commands
          return (statuses.getLast?.getD (.exited 0)).code
        return 0
      else
        let statuses ← runPipeline self false true none commands
        statuses.forM Run.tellSignal
        return (statuses.getLast?.getD (.exited 0)).code

def endsShell : Command → Bool
  | .simple .. | .subshell .. | .pipeline .. => true
  | _ => false

/-- Sees to what happened while a command ran: jobs that came to an end, a signal that was sent
to this shell, and the time up to which it is followed. -/
def catchUp (before : Nat) : Run Unit := do
  let s ← get
  if before < s.files.clock && !s.jobs.isEmpty then
    Builtin.finishJobs (some s.files.clock) s.jobs.length
  match s.deadline with
  | some (time, signal) =>
      if time ≤ s.files.clock then
        modify fun s => { s with deadline := none }
        if (s.traps.lookup signal).isNone && !Builtin.isHarmless signal then
          modify fun s => { s with files := { s.files with clock := time } }
        Builtin.receive signal
  | none => pure ()
  if s.files.limit.any fun n => n < s.files.clock then
    throw (.killed 9)

/-- Evaluates a command and sees to signals, to the status and to failures that end the
shell. -/
def step (usage : Usage) (c : Command) : Run Nat := do
  if c.isSkip || (← Run.hasOption 'n') then
    return 0
  runPending self
  let before := (← get).files.clock
  let status ← perform system self usage c
  Run.setStatus status
  catchUp before
  if endsShell c && status ≠ 0 && !usage.isTested && (← Run.hasOption 'e') then
    throw .exit
  runPending self
  return (← get).status

end Evaluation

/-- Evaluates a command in which commands stand up to a depth; a script that goes deeper
breaks down. -/
def evaluate (system : System) : (depth : Nat) → Usage → Command → Run Nat
  | 0, _, _ => throw (.killed 11)
  | depth + 1, usage, c => step system (evaluate system depth) usage c

def maxDepth : Nat := 3000

def Shell.ofProcess (p : Process) (name : Text) (arguments : List Text) : Shell :=
  let imported := p.environment.filterMap fun e =>
    if isName e.1 ∧ e.1 ≠ "IFS".toList then
      some (e.1, { value := some e.2, isExported := true : Variable })
    else
      none
  let plain (name value : String) : Text × Variable :=
    (name.toList, { value := some value.toList })
  let own : List (Text × Variable) :=
    [("IFS".toList, { value := some Field.usualSeparators }), plain "OPTIND" "1", plain "PS4" "+ ",
      plain "PS1" "# ", plain "PS2" "> ", plain "PPID" "999",
      plain "PATH" "/usr/local/sbin:/usr/local/bin:/usr/sbin:/usr/bin:/sbin:/bin",
      ("PWD".toList, { value := some (Builtin.workingPath p.files.store), isExported := true })]
  let kept := imported.filter fun v => v.1 ≠ "PWD".toList ∧ v.1 ≠ "OPTIND".toList ∧ v.1 ≠ "PPID".toList
  { files := p.files
    descriptors := p.descriptors
    name := name
    ignored := p.ignored
    arguments := arguments
    bindings := kept ++ own.filter fun v => (kept.lookup v.1).isNone }

def Shell.run (s : Shell) (system : System) (isLast : Bool) (t : Text) : ExitStatus × OpenFiles :=
  let self := evaluate system maxDepth
  let (result, ended) := runText self { isLast := isLast } t s
  let (status, after) := conclude self result ended
  let store := after.files.store.enter s.files.store.workingDirectory
  (status, { after.files with store := store })

end Script

end Imprint
