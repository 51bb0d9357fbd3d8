import Imprint.Utility.Rules.Machine
import Imprint.Utility.Times

/-!
# Evaluation of rules

What expressions amount to and what statements do.  Both are evaluated by way of functions that
evaluate their parts; these are used up to a depth, beyond which a program counts as too large.
-/

namespace Imprint

namespace Utility

namespace Rules

inductive Place where
  | variable (n : Name)
  | element (table : Nat) (key : Text)
  | field (index : Nat)

namespace Value

def isTrue : Value → Bool
  | nothing => false
  | number x | both _ x => x != 0.0
  | text t => !t.isEmpty

def isNumeric : Value → Bool
  | text _ => false
  | _ => true

end Value

/-- Whether two things stand to one another in a way, given which of them comes first. -/
def Comparison.holds (isLess isEqual : Bool) : Comparison → Bool
  | .equal => isEqual
  | .unequal => !isEqual
  | .less => isLess
  | .lessOrEqual => isLess || isEqual
  | .greater => !isLess && !isEqual
  | .greaterOrEqual => !isLess

def Operation.apply (x y : Float) : Operation → Float
  | .add => x + y
  | .subtract => x - y
  | .multiply => x * y
  | .divide => x / y
  | .remainder => Number.remainder x y
  | .power => x.pow y

/-- The text that stands in place of what was matched: an ampersand stands for it, unless a
backslash is before it.  Of backslashes before an ampersand two stand for one. -/
def replacementText (matched : Text) : (backslashes : Nat) → Text → Text
  | n, '\\' :: rest => replacementText matched (n + 1) rest
  | n, '&' :: rest =>
      List.replicate (n / 2) '\\' ++ (if n % 2 = 1 then ['&'] else matched) ++
        replacementText matched 0 rest
  | n, c :: rest => List.replicate n '\\' ++ c :: replacementText matched 0 rest
  | n, [] => List.replicate n '\\'

/-- Replaces what an expression matches from a place on, once or everywhere, and counts it.  An
empty match does not follow another match at once. -/
def replaceFrom (r : Regex) (replacement : Text) (isGlobal : Bool) (input : Array Char) :
    (fuel place : Nat) → (behind : Option Nat) → Text × Nat
  | 0, place, _ => (Regex.slice input place input.size, 0)
  | fuel + 1, place, behind =>
      match if input.size < place then none else r.search input place with
      | none => (Regex.slice input place input.size, 0)
      | some (first, last, _) =>
          let next := if first = last then last + 1 else last
          let skipped := Regex.slice input last next
          let before := Regex.slice input place first
          if first = last ∧ behind = some first then
            let (rest, count) := replaceFrom r replacement isGlobal input fuel next none
            (before ++ skipped ++ rest, count)
          else
            let put := before ++ replacementText (Regex.slice input first last) 0 replacement
            if isGlobal then
              let (rest, count) := replaceFrom r replacement isGlobal input fuel next
                (if first = last then none else some last)
              (put ++ skipped ++ rest, count + 1)
            else
              (put ++ Regex.slice input last input.size, 1)

/-- The part of a text from an index on, which counts from one.  A length counts from zero where
the index is less. -/
def partOf (t : Text) (start : Int) (length? : Option Int) : Text :=
  let t := t.drop (start - 1).toNat
  match length? with
  | none => t
  | some n => t.take (if start ≤ 0 then n - start else n).toNat

def indexOf (t part : Text) : Nat :=
  let rec go (place : Nat) : Text → Nat
    | [] => if part.isEmpty then place else 0
    | c :: rest => if part.isPrefixOf (c :: rest) then place else go (place + 1) rest
  go 1 t

def maxTurns : Nat := 1000000000

def maxOwn : Nat := 1007

open Work

section Expressions

variable (system : System) (program : Program) (self : Expression → Work Value)
  (perform : Statement → Work Unit)

def indexValue (keys : List Expression) : Work Value := do
  match ← keys.mapM self with
  | [v] => return v
  | vs =>
      let between ← sharedText "SUBSEP"
      return .text (List.intercalate between (← vs.mapM toText))

def placeOf (e : Expression) : Work Place := do
  match e with
  | .variable n => return .variable n
  | .element table keys =>
      let index ← indexValue self keys
      let place ← tableOf table
      let (_, key) ← look place true index
      return .element place key
  | .field index => return .field (← fieldIndex (← self index))
  | _ => return .field 0

def load (p : Place) : Work Value := do
  match p with
  | .variable n =>
      match ← slot n with
      | .value v => return v
      | .table _ => return .nothing
  | .element place key => return ((← table place).entries.lookup key).getD .nothing
  | .field index => Work.field index

def put (p : Place) (v : Value) : Work Unit :=
  match p with
  | .variable n => assign n v
  | .element place key => putElement place key v
  | .field index => setField index v

def patternOf (e : Expression) : Work Regex := do
  match e with
  | .pattern r => return r
  | e => compile (← toText (← self e))

def compared (c : Comparison) (v w : Value) : Work Bool := do
  if v.isNumeric && w.isNumeric then
    let x := v.toNumber
    let y := w.toNumber
    return c.holds (x < y) (x == y)
  else
    let t ← toText v
    let u ← toText w
    return c.holds (decide (t < u)) (t == u)

def argumentSlots (f : Function) (arguments : List Expression) : Work (List Slot) :=
  arguments.zipIdx.mapM fun (e, place) => do
    match f.tables.getD place false, e with
    | true, .variable n => return .table (← tableOf n)
    | _, e => return .value (← self e)

def callFunction (name : Text) (arguments : List Expression) : Work Value := do
  match program.functions.find? fun f => f.name == name with
  | none => return .nothing
  | some f =>
      let slots ← argumentSlots self f arguments
      let missing := List.replicate (f.tables.length - slots.length) (Slot.value .nothing)
      let m ← get
      let depth := m.depth + f.tables.length
      if maxOwn < depth then
        fail "program limit exceeded: eval stack size=1024".toList
      set { m with frame := (slots ++ missing).toArray, depth := depth }
      let result ← tryCatch
        (do
          perform f.body
          return Value.nothing)
        fun
          | .giveBack v => return v
          | s => throw s
      modify fun n => { n with frame := m.frame, depth := m.depth }
      return result

/-- Takes the next record that is gone through into the record at hand, or into a place. -/
def takeRecord (target : Option Expression) : Work Value := do
  let place ← target.mapM (placeOf self)
  match ← nextRecord program.functions maxTurns with
  | none => return .number 0.0
  | some t =>
      match place with
      | none => setRecord t
      | some p => put p (.ofInput t)
      return .number 1.0

def takeFrom (place : Option Place) (s : Stream) : Work Value := do
  match ← nextOf s with
  | none => return .number 0.0
  | some t =>
      match place with
      | none => setRecord t
      | some p => put p (.ofInput t)
      return .number 1.0

/-- Puts values into a format; what could be put together before a fault is given to a function. -/
def formatted (name : String) (keep : Text → Work Unit) (vs : List Value) : Work Text := do
  let format ← toText (vs.headD .nothing)
  let numbers ← sharedText "CONVFMT"
  let (t, fault?) :=
    Layout.fill (Layout.valueText numbers) (format.length + 1) 1 format (vs.drop 1)
  let about : Text := name.toList ++ "(\"".toList ++ format ++ "\")".toList
  match fault? with
  | none => return t
  | some .lacksValue =>
      keep t
      fault ("not enough arguments passed to ".toList ++ about)
  | some (.badDirective number) =>
      keep t
      fault ("improper conversion(number ".toList ++ Radix.decimal.numeral number ++ ") in ".toList ++
        about)

def substitute (isGlobal : Bool) (pattern replacement target : Expression) : Work Value := do
  let r ← patternOf self pattern
  let replacing ← toText (← self replacement)
  let place ← placeOf self target
  let t ← toText (← load place)
  let (u, count) := replaceFrom r replacing isGlobal t.toArray (2 * t.length + 2) 0 none
  if 0 < count then
    put place (.text u)
  return Value.ofNat count

def splitInto (t : Text) (table : Name) (separator : Separator) : Work Value := do
  let fields := (separator.cut t).map Value.ofInput
  setTable (← tableOf table) (Table.ofList fields)
  return Value.ofNat fields.length

/-- The separator that an expression stands for; a blank as an expression is one character. -/
def separatorOf (e : Option Expression) : Work Separator := do
  match e with
  | none => return (← get).separator
  | some (.pattern r) => return if r = Regex.ofText [' '] then .mark ' ' else .pattern r
  | some e => readWith Separator.ofText (← toText (← self e))

def function? (name : String) : Option (Float → Float) :=
  match name with
  | "cos" => some Float.cos
  | "exp" => some Float.exp
  | "int" => some Number.truncated
  | "log" => some Float.log
  | "sin" => some Float.sin
  | "sqrt" => some Float.sqrt
  | _ => none

def callKnown (name : String) (vs : List Value) : Work Value := do
  let first := vs.headD .nothing
  match name, vs with
  | "atan2", [y, x] => return .number (Float.atan2 y.toNumber x.toNumber)
  | "close", _ => close system (← toText first)
  | "fflush", [] =>
      flushOut
      return .number 0.0
  | "fflush", _ =>
      let name ← toText first
      if name = outputName then
        flushOut
        return .number 0.0
      match ← stream? .toFile name, ← stream? .toCommand name with
      | some s, _ =>
          flushStream s
          return .number 0.0
      | none, some _ => return .number 0.0
      | none, none => return .number (-1.0)
  | "index", [t, part] => return Value.ofNat (indexOf (← toText t) (← toText part))
  | "length", _ => return Value.ofNat (← toText first).length
  | "sprintf", _ => return .text (← formatted name (fun _ => return) vs)
  | "substr", t :: start :: rest =>
      return .text (partOf (← toText t) (Number.bounded start.toNumber)
        (rest.head?.map fun v => Number.bounded v.toNumber))
  | "system", _ =>
      flushAll
      let descriptors := (← get).process.descriptors
      return Value.ofNat
        (statusNumber (← runCommand system "sh".toList (← toText first) descriptors))
  | "tolower", _ => return .text ((← toText first).map Char.toLower)
  | "toupper", _ => return .text ((← toText first).map Char.toUpper)
  | name, _ =>
      match function? name with
      | some f => return .number (f first.toNumber)
      | none => return .nothing

def callBuiltin (name : String) (arguments : List Expression) : Work Value := do
  match name, arguments with
  | "length", [] => return Value.ofNat (← toText (← get).record).length
  | "length", [.variable n] =>
      match ← slot n with
      | .table place => return Value.ofNat (← table place).size
      | .value v => return Value.ofNat (← toText v).length
  | "split", t :: .variable n :: rest =>
      let t ← toText (← self t)
      let separator ← separatorOf self rest.head?
      splitInto t n separator
  | "sub", [pattern, replacement, target] => substitute self false pattern replacement target
  | "gsub", [pattern, replacement, target] => substitute self true pattern replacement target
  | "match", [t, pattern] =>
      let t ← toText (← self t)
      let r ← patternOf self pattern
      let (start, length) : Float × Float := match r.search t.toArray 0 with
        | some (first, last, _) => (Float.ofNat (first + 1), Float.ofNat (last - first))
        | none => (0.0, -1.0)
      setShared "RSTART" (.number start)
      setShared "RLENGTH" (.number length)
      return .number start
  | name, arguments => callKnown system name (← arguments.mapM self)

def valueOf (e : Expression) : Work Value := do
  match e with
  | .number x => return .number x
  | .text t => return .text t
  | .pattern r => return .ofBool (r.occursIn (← toText (← get).record))
  | .variable _ | .element .. | .field _ => load (← placeOf self e)
  | .grouped e | .tuple [e] => self e
  | .tuple es =>
      let between ← sharedText "SUBSEP"
      return .text (List.intercalate between (← (← es.mapM self).mapM toText))
  | .assign operation target value =>
      let place ← placeOf self target
      let v ← self value
      match operation with
      | none =>
          put place v
          return v
      | some op =>
          let v := Value.number (op.apply (← load place).toNumber v.toNumber)
          put place v
          return v
  | .step op isAfter target =>
      let place ← placeOf self target
      let x := (← load place).toNumber
      let y := op.apply x 1.0
      put place (.number y)
      return .number (if isAfter then x else y)
  | .negated e => return .number (0.0 - (← self e).toNumber)
  | .positive e => return .number (← self e).toNumber
  | .opposite e => return .ofBool !(← self e).isTrue
  | .arithmetic op first second =>
      let x ← self first
      let y ← self second
      return .number (op.apply x.toNumber y.toNumber)
  | .joined first second =>
      let v ← self first
      let w ← self second
      return .text ((← toText v) ++ (← toText w))
  | .compared c first second =>
      let v ← self first
      let w ← self second
      return .ofBool (← compared c v w)
  | .found isWanted t pattern =>
      let t ← toText (← self t)
      let r ← patternOf self pattern
      return .ofBool (r.occursIn t == isWanted)
  | .both first second =>
      if (← self first).isTrue then
        return .ofBool (← self second).isTrue
      return .ofBool false
  | .either first second =>
      if (← self first).isTrue then
        return .ofBool true
      return .ofBool (← self second).isTrue
  | .choice condition yes no => if (← self condition).isTrue then self yes else self no
  | .within keys table =>
      let index ← indexValue self keys
      let (v?, _) ← look (← tableOf table) false index
      return .ofBool v?.isSome
  | .call name arguments => callFunction program self perform name arguments
  | .builtin name arguments => callBuiltin system self (String.ofList name) arguments
  | .nextRecord target => takeRecord program self target
  | .recordOfFile file target =>
      let place ← target.mapM (placeOf self)
      match ← sourceOfFile (← toText (← self file)) with
      | some s => takeFrom place s
      | none => return .number (-1.0)
  | .recordOfCommand command target =>
      let command ← toText (← self command)
      let place ← target.mapM (placeOf self)
      takeFrom place (← sourceOfCommand system command)

end Expressions

section Statements

variable (value : Expression → Work Value) (self : Statement → Work Unit)

def holds (e : Option Expression) : Work Bool := do
  match e with
  | some e => return (← value e).isTrue
  | none => return true

def turn (body : Statement) : Work Bool :=
  tryCatch
    (do
      self body
      return true)
    fun
      | .leaveLoop => return false
      | .nextTurn => return true
      | s => throw s

def turns (condition step : Option Expression) (body : Statement) : (fuel : Nat) → Work Unit
  | 0 => return
  | fuel + 1 => do
      if ← holds value condition then
        if ← turn self body then
          match step with
          | some e =>
              let _ ← value e
          | none => pure ()
          turns condition step body fuel

def turnsFor (place : Place) (body : Statement) : List Text → Work Unit
  | [] => return
  | key :: rest => do
      put place (.text key)
      if ← turn self body then
        turnsFor place body rest

def emit (to? : Option (Direction × Expression)) (t : Text) : Work Unit := do
  match to? with
  | none => Work.out t
  | some (direction, e) => Work.write direction (← toText (← value e)) t

def obey (s : Statement) : Work Unit := do
  match s with
  | .expression e =>
      let _ ← value e
  | .print es to? =>
      let ts ← match es with
        | [] => pure [← toOutput (← get).record]
        | es => (← es.mapM value).mapM toOutput
      emit value to? (List.intercalate (← sharedText "OFS") ts ++ (← sharedText "ORS"))
  | .printFormat es to? =>
      let vs ← es.mapM value
      emit value to? (← formatted "printf" (emit value to?) vs)
  | .block ss => ss.forM self
  | .branch condition yes no =>
      if (← value condition).isTrue then
        self yes
      else
        match no with
        | some s => self s
        | none => return
  | .whileLoop condition body => turns value self (some condition) none body maxTurns
  | .untilLoop body condition =>
      if ← turn self body then
        turns value self (some condition) none body maxTurns
  | .forLoop start condition step body =>
      match start with
      | some e =>
          let _ ← value e
      | none => pure ()
      turns value self condition step body maxTurns
  | .forEach key table body =>
      let place ← tableOf table
      let (keys, t) := (← Work.table place).keys
      setTable place t
      turnsFor self (← placeOf value key) body keys
  | .leaveLoop => throw .leaveLoop
  | .nextTurn => throw .nextTurn
  | .nextRecord => throw .nextRecord
  | .nextFile => throw .nextFile
  | .exit status =>
      match status with
      | some e =>
          let v ← value e
          modify fun m => { m with status := (Number.bounded v.toNumber % 256).toNat }
      | none => pure ()
      throw .exit
  | .giveBack v =>
      match v with
      | some e => throw (.giveBack (← value e))
      | none => throw (.giveBack .nothing)
  | .delete table keys =>
      let place ← tableOf table
      match keys with
      | none => setTable place {}
      | some keys =>
          let (_, key) ← look place false (← indexValue value keys)
          setTable place ((← Work.table place).erase key)

end Statements

mutual

def evaluate (system : System) (program : Program) : (depth : Nat) → Expression → Work Value
  | 0, _ => fail "program limit exceeded: eval stack size=1024".toList
  | depth + 1, e =>
      valueOf system program (evaluate system program depth) (execute system program depth) e

def execute (system : System) (program : Program) : (depth : Nat) → Statement → Work Unit
  | 0, _ => fail "program limit exceeded: eval stack size=1024".toList
  | depth + 1, s =>
      obey (evaluate system program depth) (execute system program depth) s

end

def maxPartDepth : Nat := 20000

section Running

variable (system : System) (program : Program)

def act (action : Option Statement) : Work Unit :=
  execute system program maxPartDepth (action.getD (.print [] none))

/-- Whether a rule is about the record at hand.  A range begins and ends with records of it. -/
def selects (place : Nat) (selection : Selection) : Work Bool := do
  let holds (e : Expression) : Work Bool := do
    return (← evaluate system program maxPartDepth e).isTrue
  match selection with
  | .before | .behind => return false
  | .all => return true
  | .only condition => holds condition
  | .range first last =>
      let isOpen := (← get).openRanges.contains place
      if isOpen || (← holds first) then
        let ends ← holds last
        modify fun m =>
          let others := m.openRanges.filter (· != place)
          { m with openRanges := if ends then others else place :: others }
        return true
      return false

def applyRules : Work Unit := do
  for (rule, place) in program.rules.zipIdx do
    if ← selects system program place rule.selection then
      act system program rule.action

def applyAll : (fuel : Nat) → Work Unit
  | 0 => return
  | fuel + 1 => do
      match ← nextRecord program.functions maxTurns with
      | none => return
      | some t =>
          setRecord t
          tryCatch (applyRules system program) fun
            | .nextRecord => return
            | .nextFile => modify fun m => { m with input := some [] }
            | s => throw s
          applyAll fuel

def upToExit (w : Work Unit) : Work Unit :=
  tryCatch w fun
    | .exit => return
    | s => throw s

/-- Runs a program: what is to be done before all records, for each of them, and behind the last
one.  If only the first is there, no records are read. -/
def runAll : Work Unit := do
  let isOnlyBefore := program.rules.all fun r => r.selection matches .before
  upToExit do
    for rule in program.rules do
      if rule.selection matches .before then
        act system program rule.action
    unless isOnlyBefore do
      applyAll system program maxTurns
  upToExit do
    for rule in program.rules do
      if rule.selection matches .behind then
        act system program rule.action

end Running

end Rules

end Utility

end Imprint
