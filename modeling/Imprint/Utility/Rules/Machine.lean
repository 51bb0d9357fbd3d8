import Imprint.Process.Task
import Imprint.Utility.Rules.Separator
import Imprint.Utility.Rules.Token
import Imprint.Utility.Rules.Value

/-!
# The machine of rules

What a program of rules works on: its variables and tables, the record at hand with its
fields, and the files and commands that it reads from and writes to.
-/

namespace Imprint

namespace Utility

namespace Rules

inductive Slot where
  | value (v : Value)
  | table (place : Nat)

inductive Way where
  | toFile
  | toCommand
  | fromFile
  | fromCommand
deriving DecidableEq

/-- An open file or command: its name, the channel that it is written to, what is to be written,
latest first, what is to be read, and the status of a command that ended. -/
structure Stream where
  name : Text
  way : Way
  channel : Nat := 0
  pending : List Text := []
  rest : Text := []
  status : ExitStatus := .exited 0

inductive Signal where
  | leaveLoop
  | nextTurn
  | nextRecord
  | nextFile
  | exit
  | giveBack (v : Value)
  | failed

structure Machine where
  process : Process
  globals : List (Text × Slot) := []
  tables : Array Table := #[]
  frame : Array Slot := #[]
  depth : Nat := 0
  record : Value := .text []
  fields : Array Value := #[]
  separator : Separator := .blanks
  ending : Ending := .mark '\n'
  patterns : List (Text × Regex) := []
  input : Option Text := none
  argument : Nat := 1
  hasInput : Bool := false
  streams : List Stream := []
  out : List Text := []
  openRanges : List Nat := []
  status : Nat := 0

abbrev Work := ExceptT Signal (StateM Machine)

namespace Work

def act (task : Task Unit) : Work Unit :=
  modify fun m => { m with process := (StateT.run (ExceptT.run task) m.process).2 }

def fail (t : Text) : Work α := do
  act (Task.complain t)
  throw .failed

section Variables

def replaceEntry (name : Text) (s : Slot) : List (Text × Slot) → List (Text × Slot)
  | [] => [(name, s)]
  | e :: rest => if e.1 = name then (name, s) :: rest else e :: replaceEntry name s rest

def slot (n : Name) : Work Slot := do
  let m ← get
  return (match n with
    | .shared t => m.globals.lookup t
    | .own place => m.frame[place]?).getD (.value .nothing)

def setSlot (n : Name) (s : Slot) : Work Unit :=
  modify fun m =>
    match n with
    | .shared t => { m with globals := replaceEntry t s m.globals }
    | .own place => { m with frame := m.frame.setIfInBounds place s }

def shared (name : String) : Work Value := do
  match ← slot (.shared name.toList) with
  | .value v => return v
  | .table _ => return .nothing

def setShared (name : String) (v : Value) : Work Unit :=
  setSlot (.shared name.toList) (.value v)

def toText (v : Value) : Work Text := do
  match v with
  | .nothing => return []
  | .text t | .both t _ => return t
  | .number x => return Layout.numberText (Layout.valueText [] (← shared "CONVFMT")) x

def toOutput (v : Value) : Work Text := do
  match v with
  | .nothing => return []
  | .text t | .both t _ => return t
  | .number x => return Layout.numberText (Layout.valueText [] (← shared "OFMT")) x

def sharedText (name : String) : Work Text := do
  toText (← shared name)

def fault (t : Text) : Work α := do
  let file ← sharedText "FILENAME"
  let number (name : String) : Work Text := do
    return ({} : Format).integer (Number.bounded (← shared name).toNumber)
  fail ("run time error: ".toList ++ t ++ "\n\tFILENAME=\"".toList ++ file ++ "\" FNR=".toList ++
    (← number "FNR") ++ " NR=".toList ++ (← number "NR"))

def compile (t : Text) : Work Regex := do
  match (← get).patterns.lookup t with
  | some r => return r
  | none =>
      match Pattern.read t with
      | .ok r =>
          modify fun m => { m with patterns := (t, r) :: m.patterns }
          return r
      | .error e =>
          fault ("regular expression compile failed (".toList ++ e.message ++ ")\n".toList ++ t)

def readWith (read : Text → Except Pattern.Fault α) (t : Text) : Work α := do
  match read t with
  | .ok a => return a
  | .error e => fault ("regular expression compile failed (".toList ++ e.message ++ ")\n".toList ++ t)

end Variables

section Tables

def tableOf (n : Name) : Work Nat := do
  match ← slot n with
  | .table place => return place
  | .value _ =>
      let place := (← get).tables.size
      modify fun m => { m with tables := m.tables.push {} }
      setSlot n (.table place)
      return place

def table (place : Nat) : Work Table :=
  return (← get).tables.getD place {}

def setTable (place : Nat) (t : Table) : Work Unit :=
  modify fun m => { m with tables := m.tables.setIfInBounds place t }

def look (place : Nat) (creates : Bool) (index : Value) : Work (Option Value × Text) := do
  let (v?, t, key) := (← table place).find (← sharedText "CONVFMT") creates index
  setTable place t
  return (v?, key)

def putElement (place : Nat) (key : Text) (v : Value) : Work Unit := do
  let t ← table place
  let t := if (t.entries.lookup key).isSome then t else (t.findText true key).2
  setTable place (t.put key v)

end Tables

section Records

def setRecord (t : Text) : Work Unit := do
  let fields := ((← get).separator.cut t).map Value.ofInput
  modify fun m => { m with record := Value.ofInput t, fields := fields.toArray }
  setShared "NF" (Value.ofNat fields.length)

def joinFields : Work Unit := do
  let ts ← (← get).fields.toList.mapM toText
  let between ← sharedText "OFS"
  modify fun m => { m with record := .text (List.intercalate between ts) }

def setCount (v : Value) : Work Unit := do
  let x := v.toNumber
  if x < 0.0 then
    fault "negative value assigned to NF".toList
  let count := (Number.bounded x).toNat
  modify fun m =>
    { m with
      fields := ((m.fields.toList.take count) ++
        List.replicate (count - m.fields.size) (Value.text [])).toArray }
  setShared "NF" v
  joinFields

def field (index : Nat) : Work Value := do
  let m ← get
  return if index = 0 then m.record else m.fields.getD (index - 1) (.text [])

def setField (index : Nat) (v : Value) : Work Unit := do
  if index = 0 then
    setRecord (← toText v)
  else
    if (← get).fields.size < index then
      setCount (Value.ofNat index)
    modify fun m => { m with fields := m.fields.setIfInBounds (index - 1) v }
    joinFields

def fieldIndex (v : Value) : Work Nat := do
  let n := Number.bounded v.toNumber
  if n < 0 then
    fault ("negative field index $".toList ++ ({} : Format).integer n)
  return n.toNat

end Records

def assign (n : Name) (v : Value) : Work Unit := do
  match n with
  | .own _ => setSlot n (.value v)
  | .shared t =>
      if t = "NF".toList then
        setCount v
      else
        setSlot n (.value v)
        if t = "FS".toList then
          let separator ← readWith Separator.ofText (← toText v)
          modify fun m => { m with separator := separator }
        else if t = "RS".toList then
          let ending ← readWith Ending.ofText (← toText v)
          modify fun m => { m with ending := ending }

section Streams

def flushOut : Work Unit := do
  let m ← get
  unless m.out.isEmpty do
    set { m with out := [] }
    act (Task.out m.out.reverse.flatten)

def outputName : Text :=
  "/dev/stdout".toList

def flushStream (s : Stream) : Work Unit := do
  if s.name = outputName then
    flushOut
  else
    modify fun m =>
      { m with
        process := { m.process with
          files := m.process.files.write s.channel s.pending.reverse.flatten }
        streams := m.streams.map fun t =>
          if t.name = s.name ∧ t.way = s.way then { t with pending := [] } else t }

def flushAll : Work Unit := do
  flushOut
  for s in (← get).streams do
    if s.way = .toFile then
      flushStream s

def stream? (way : Way) (name : Text) : Work (Option Stream) := do
  let m ← get
  let isMeant (s : Stream) : Bool := s.way == way && s.name == name
  match m.streams.find? isMeant with
  | none => return none
  | some s =>
      set { m with streams := s :: m.streams.filter fun s => !isMeant s }
      return some s

def setStream (s : Stream) : Work Unit :=
  modify fun m =>
    { m with streams := s :: m.streams.filter fun t => !(t.way == s.way && t.name == s.name) }

def runCommand (system : System) (name command : Text) (descriptors : List (Nat × Nat)) :
    Work ExitStatus := do
  let p := (← get).process
  let started := { p with name := name, descriptors := descriptors }
  match system.start "/bin/sh".toList started ["-c".toList, command] with
  | .ok (status, files) =>
      modify fun m => { m with process := { m.process with files := files } }
      return status
  | .error _ => return .exited 127

def pipedName : Text :=
  "/bin/sh".toList

def addChannel (c : Channel) : Work Nat :=
  modifyGet fun m =>
    let (id, files) := m.process.files.add c
    (id, { m with process := { m.process with files := files } })

def leading (descriptor channel : Nat) : Work (List (Nat × Nat)) := do
  let old := (← get).process.descriptors
  return (descriptor, channel) :: old.filter fun e => e.1 ≠ descriptor

def feed (system : System) (s : Stream) : Work ExitStatus := do
  let id ← addChannel (.source s.pending.reverse.flatten)
  runCommand system pipedName s.name (← leading 0 id)

def statusNumber : ExitStatus → Nat
  | .exited code => code.toNat
  | .signaled signal _ => 256 + signal

def close (system : System) (name : Text) : Work Value := do
  let (closed, others) := (← get).streams.partition fun s => s.name == name
  modify fun m => { m with streams := others }
  let mut result : Value := .number (-1.0)
  for s in closed do
    match s.way with
    | .toFile =>
        flushStream s
        result := .number 0.0
    | .toCommand => result := Value.ofNat (statusNumber (← feed system s))
    | .fromFile => result := .number 0.0
    | .fromCommand => result := Value.ofNat (statusNumber s.status)
  return result

def closeAll (system : System) : Work Unit := do
  for s in (← get).streams do
    match s.way with
    | .toFile => flushStream s
    | .toCommand =>
        let _ ← feed system s
    | .fromFile | .fromCommand => pure ()
  flushOut

def openOutput (way : Direction) (name : Text) : Work Stream := do
  let m ← get
  let p := m.process
  let mode : OpenMode := if way = .behindFile then .appending else .writing
  match p.files.openPath p.descriptors mode name with
  | .ok (id, files) =>
      set { m with process := { p with files := files } }
      return { name := name, way := .toFile, channel := id }
  | .error cause =>
      fail ("cannot open \"".toList ++ name ++ "\" for output (".toList ++ cause.wording ++ [')'])

def write (direction : Direction) (name : Text) (t : Text) : Work Unit := do
  if direction = .command then
    let s ← match ← stream? .toCommand name with
      | some s => pure s
      | none =>
          flushOut
          pure { name := name, way := .toCommand }
    setStream { s with pending := t :: s.pending }
  else if name = "/dev/stderr".toList then
    act (Task.err t)
  else if name = outputName ∨ name = ['-'] then
    setStream { name := outputName, way := .toFile }
    modify fun m => { m with out := t :: m.out }
  else
    let s ← match ← stream? .toFile name with
      | some s => pure s
      | none => openOutput direction name
    setStream { s with pending := t :: s.pending }

def out (t : Text) : Work Unit :=
  modify fun m => { m with out := t :: m.out }

def contents? (name : Text) : Work (Except Cause Text) := do
  let m ← get
  let p := m.process
  let opened : Except Cause (Nat × OpenFiles) :=
    match p.descriptors.lookup 0, Task.isInput name with
    | some id, true => .ok (id, p.files)
    | none, true => .error .badDescriptor
    | _, false => p.files.openPath p.descriptors .reading name
  match opened with
  | .error cause => return .error cause
  | .ok (id, files) =>
      match files.unread id with
      | .ok t =>
          set { m with process := { p with files := files.advance id t.length } }
          return .ok ((← get).ending.start t)
      | .error cause => fail ("read error (".toList ++ cause.wording ++ [')'])

def sourceOfFile (name : Text) : Work (Option Stream) := do
  match ← stream? .fromFile name with
  | some s => return some s
  | none =>
      match ← contents? name with
      | .ok t => return some { name := name, way := .fromFile, rest := t }
      | .error _ => return none

def sourceOfCommand (system : System) (name : Text) : Work Stream := do
  match ← stream? .fromCommand name with
  | some s => return s
  | none =>
      flushOut
      let id ← addChannel (.sink [])
      let status ← runCommand system pipedName name (← leading 1 id)
      modify fun m => { m with process := { m.process with files := m.process.files.awaitEnd id } }
      let t := (← get).process.files.collected id
      return { name := name, way := .fromCommand, status := status, rest := (← get).ending.start t }

def nextOf (s : Stream) : Work (Option Text) := do
  match (← get).ending.first? s.rest with
  | none =>
      setStream s
      return none
  | some (t, rest) =>
      setStream { s with rest := rest }
      return some t

end Streams

section Input

def isName (t : Text) : Bool :=
  match t with
  | c :: rest => (c.isAlpha || c == '_') && rest.all Source.isNameChar
  | [] => false

def assignment? (t : Text) : Option (Text × Text) :=
  let name := t.takeWhile (· != '=')
  match t.drop name.length with
  | _ :: value => if isName name then some (name, Source.unescaped (value.length + 1) value) else none
  | [] => none

def assignGiven (functions : List Function) (name value : Text) : Work Unit := do
  let w := String.ofList name
  let isTable := match ← slot (.shared name) with
    | .table _ => true
    | .value _ => false
  if isTable || Source.words.contains w || Source.builtins.contains w ||
      functions.any fun f => f.name == name then
    fault ("cannot command line assign to ".toList ++ name ++ "\n\ttype clash or keyword".toList)
  assign (.shared name) (Value.ofInput value)

def openInput (name : Text) : Work Unit := do
  setShared "FILENAME" (.text name)
  setShared "FNR" (.number 0.0)
  match ← contents? name with
  | .ok t => modify fun m => { m with input := some t, hasInput := true }
  | .error cause => fail ("cannot open \"".toList ++ name ++ "\" (".toList ++ cause.wording ++ [')'])

/-- Goes on to the next file of the arguments, if there is one; where none is given, the input is
gone through. -/
def openNext (functions : List Function) : (fuel : Nat) → Work Bool
  | 0 => return false
  | fuel + 1 => do
      let m ← get
      let count := Number.bounded (← shared "ARGC").toNumber
      if count ≤ (m.argument : Int) then
        if m.hasInput then
          return false
        openInput ['-']
        return true
      set { m with argument := m.argument + 1 }
      let (v?, _) ← look (← tableOf (.shared "ARGV".toList)) false (Value.ofNat m.argument)
      match ← toText (v?.getD .nothing) with
      | [] => openNext functions fuel
      | t =>
          match assignment? t with
          | some (name, value) =>
              assignGiven functions name value
              openNext functions fuel
          | none =>
              openInput t
              return true

def count (name : String) : Work Unit := do
  setShared name (.number ((← shared name).toNumber + 1.0))

def nextRecord (functions : List Function) : (fuel : Nat) → Work (Option Text)
  | 0 => return none
  | fuel + 1 => do
      let m ← get
      match m.input.bind m.ending.first? with
      | some (t, rest) =>
          set { m with input := some rest }
          count "NR"
          count "FNR"
          return some t
      | none =>
          let room := (Number.bounded (← shared "ARGC").toNumber).toNat + 2
          if ← openNext functions room then
            nextRecord functions fuel
          else
            return none

end Input

end Work

end Rules

end Utility

end Imprint
