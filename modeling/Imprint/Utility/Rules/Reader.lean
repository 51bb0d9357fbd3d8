import Imprint.Utility.Rules.Pattern
import Imprint.Utility.Rules.Token
import Imprint.Utility.Rules.Tree

/-!
# Reading rules

Expressions are read by the ranks of their operators, statements and rules by their first
tokens.  Behind an error the reading goes on with the next statement or action, so that one
run tells of several.
-/

namespace Imprint

namespace Utility

namespace Rules

/-- A call of a function, as far as what its arguments are can be told from the text: where it
stands, whether the function was read before, in which function it stands, and the bare names among
its arguments. -/
structure CallSite where
  source : Source
  isKnown : Bool
  within : Option Text
  function : Text
  arguments : List (Option Name)

/-- A function as it was read: its name, the names of its own, and its body. -/
structure Draft where
  name : Text
  own : List Text
  tables : List Name := []
  body : Statement := .block []

/-- What is being read: the text, the function in which it is, the loops that are open, whether
records are at hand, the names of a function's own that stand for values or for tables, and the
functions and calls so far. -/
structure Reading where
  source : Source
  within : Option Text := none
  loops : Nat := 0
  hasRecords : Bool := true
  ownKinds : List (Text × Kind) := []
  functions : List Draft := []
  calls : List CallSite := []

/-- Why reading was interrupted: a token did not fit, or nothing more can be read. -/
inductive Interruption where
  | misfit
  | broken

abbrev Read := ExceptT Interruption (StateM Reading)

namespace Read

def token : Read Token :=
  return (← get).source.last

def check : Read Unit := do
  if Source.mostMessages ≤ (← get).source.messages.length then
    throw .broken

def advance : Read Unit := do
  let r ← get
  match r.source.next with
  | .ok s =>
      set { r with source := s }
      check
  | .error s =>
      set { r with source := s }
      throw .broken

def reject : Read α := do
  modify fun r => { r with source := r.source.reject }
  check
  throw .misfit

def complain (t : Text) : Read Unit := do
  modify fun r => { r with source := r.source.complain t }
  check

def takes (m : String) : Read Bool := do
  if (← token).isMark m then
    advance
    return true
  return false

def expect (m : String) : Read Unit := do
  unless ← takes m do
    reject

def expectEnd : Read Unit := do
  unless (← token).isEnd do
    reject
  modify fun r => { r with source := { r.source with isPrinting := false } }
  advance

def skipLines : (fuel : Nat) → Read Unit
  | 0 => return
  | fuel + 1 => do
      if (← token) matches .newline then
        advance
        skipLines fuel

def room : Read Nat :=
  return (← get).source.rest.length + 10

def nameOf (t : Text) : Read Name := do
  match (← get).source.own.idxOf? t with
  | some place => return .own place
  | none => return .shared t

def note (t : Text) (kind : Kind) : Read Unit := do
  let r ← get
  let isOwn := r.source.own.contains t
  match if isOwn then r.ownKinds.lookup t else r.source.kinds.lookup t with
  | none =>
      set (if isOwn then { r with ownKinds := (t, kind) :: r.ownKinds }
        else { r with source := { r.source with kinds := (t, kind) :: r.source.kinds } })
  | some old =>
      if old ≠ kind then
        complain ("illegal reference to ".toList ++ (if isOwn then "local ".toList else []) ++
          (match old with
            | .value => "variable ".toList
            | .table => "array ".toList
            | .function => "function ".toList) ++ t)

def pattern (t : Text) : Read Expression := do
  match Pattern.read t with
  | .ok r => return .pattern r
  | .error fault =>
      complain ("regular expression compile failed (".toList ++ fault.message ++ ")\n".toList ++ t)
      return .pattern .empty

end Read

open Read

section Expressions

-- What reads an expression of any kind.
variable (expression : Read Expression)

def readList : (fuel : Nat) → Read (List Expression)
  | 0 => return []
  | fuel + 1 => do
      let e ← expression
      if ← takes "," then
        return e :: (← readList fuel)
      return [e]

def readArguments : Read (List Expression) := do
  if ← takes ")" then
    return []
  let es ← readList expression (← room)
  expect ")"
  return es

/-- Reads an expression that may be put into a place where its value is used; a bare name stands
for a value there. -/
def used (e : Expression) : Read Expression := do
  match e with
  | .variable n => do
      match n with
      | .shared t => note t .value
      | .own place =>
          match (← get).source.own[place]? with
          | some t => note t .value
          | none => pure ()
      return e
  | .tuple _ => reject
  | e => return e

def tableName : Read Name := do
  match ← token with
  | .name t =>
      advance
      note t .table
      nameOf t
  | _ => reject

def isTarget : Expression → Bool
  | .variable _ | .element .. | .field _ => true
  | _ => false

def assignment? (t : Token) : Option (Option Operation) :=
  match t with
  | .mark "=" => some none
  | .mark "+=" => some (some .add)
  | .mark "-=" => some (some .subtract)
  | .mark "*=" => some (some .multiply)
  | .mark "/=" => some (some .divide)
  | .mark "%=" => some (some .remainder)
  | .mark "^=" => some (some .power)
  | _ => none

def argumentCounts (name : String) : Nat × Nat :=
  match name with
  | "atan2" | "index" => (2, 2)
  | "close" | "cos" | "exp" | "int" | "log" | "sin" | "sqrt" | "system" | "tolower" | "toupper" =>
      (1, 1)
  | "fflush" => (0, 1)
  | "sprintf" => (1, 1000)
  | _ => (2, 3)

def asPattern (e : Expression) : Read Expression := do
  match e with
  | .text t => pattern t
  | e => return e

def readBuiltin (name : String) : Read Expression := do
  let call (es : List Expression) : Expression := .builtin name.toList es
  if name = "length" then
    unless ← takes "(" do
      return call []
    if ← takes ")" then
      return call []
    let e ← expression
    expect ")"
    return call [e]
  expect "("
  match name with
  | "split" =>
      let t ← expression
      expect ","
      let n ← tableName
      if ← takes ")" then
        return call [t, .variable n]
      expect ","
      let e ← expression
      expect ")"
      match e with
      | .text (c :: d :: rest) => return call [t, .variable n, ← pattern (c :: d :: rest)]
      | e => return call [t, .variable n, e]
  | "sub" | "gsub" =>
      let p ← asPattern (← expression)
      expect ","
      let t ← used (← expression)
      if ← takes ")" then
        return call [p, t, .field (.number 0.0)]
      expect ","
      let start := (← get).source.last
      let target ← expression
      unless isTarget target do
        modify fun r => { r with source := { r.source with last := start } }
        reject
      expect ")"
      return call [p, t, ← used target]
  | "match" =>
      let t ← used (← expression)
      expect ","
      let p ← asPattern (← expression)
      expect ")"
      return call [t, p]
  | _ =>
      let es ← readArguments expression
      let es ← es.mapM used
      let (least, most) := argumentCounts name
      if es.length < least ∨ most < es.length then
        complain ("wrong number of arguments in call to ".toList ++ name.toList)
      return call es

def readKeys : Read (List Expression) := do
  let es ← readList expression (← room)
  expect "]"
  es.mapM used

def startsOperand (t : Token) : Bool :=
  match t with
  | .name _ | .function _ | .builtin _ | .number .. | .text _ | .pattern _ => true
  | .mark m => ["(", "$", "!", "++", "--"].contains m
  | .word w => w == "getline"
  | _ => false

def readStepTarget (t : Token) (operand : Read Expression) : Read Expression := do
  match t with
  | .name _ | .mark "$" => operand
  | _ => reject

/-- Reads an operand without what may follow it: a constant, a variable, a call, a field, or
something in parentheses. -/
def readSimple : (fuel : Nat) → Read Expression
  | 0 => reject
  | fuel + 1 => do
      match ← token with
      | .number x _ =>
          advance
          return .number x
      | .text t =>
          advance
          return .text t
      | .pattern t =>
          advance
          pattern t
      | .builtin name =>
          advance
          readBuiltin expression name
      | .function name =>
          advance
          let site := (← get).source
          expect "("
          let es ← readArguments expression
          let bare (e : Expression) : Option Name := match e with
            | .variable n => some n
            | _ => none
          modify fun r =>
            let isKnown := r.functions.any fun f => f.name == name
            { r with calls := ⟨site, isKnown, r.within, name, es.map bare⟩ :: r.calls }
          return .call name es
      | .name t =>
          advance
          let n ← nameOf t
          if ← takes "[" then
            note t .table
            return .element n (← readKeys expression)
          return .variable n
      | .mark "$" =>
          advance
          match ← token with
          | .mark "++" | .mark "--" | .mark "-" | .mark "+" | .mark "!" =>
              return .field (← readSimple fuel)
          | _ => return .field (← used (← readSimple fuel))
      | .mark "-" =>
          advance
          return .negated (← used (← readSimple fuel))
      | .mark "+" =>
          advance
          return .positive (← used (← readSimple fuel))
      | .mark "!" =>
          advance
          return .opposite (← used (← readSimple fuel))
      | .mark "++" =>
          advance
          return .step .add false (← used (← readStepTarget (← token) (readSimple fuel)))
      | .mark "--" =>
          advance
          return .step .subtract false (← used (← readStepTarget (← token) (readSimple fuel)))
      | .mark "(" =>
          advance
          let es ← readArguments expression
          match es with
          | [e] => return .grouped (← used e)
          | es =>
              let es ← es.mapM used
              match ← token with
              | .word "in" =>
                  advance
                  return .within es (← tableName)
              | _ => return .tuple es
      | _ => reject

def readTarget? : Read (Option Expression) := do
  match ← token with
  | .name _ | .mark "$" => return some (← used (← readSimple expression (← room)))
  | _ => return none

def readStepped : Read Expression := do
  match ← token with
  | .word "getline" =>
      advance
      let target ← readTarget? expression
      if ← takes "<" then
        return .recordOfFile (← used (← readSimple expression (← room))) target
      return .nextRecord target
  | .mark "-" | .mark "+" | .mark "!" => reject
  | _ =>
      let e ← readSimple expression (← room)
      match ← token with
      | .mark "++" =>
          if isTarget e then
            advance
            return .step .add true (← used e)
          return e
      | .mark "--" =>
          if isTarget e then
            advance
            return .step .subtract true (← used e)
          return e
      | _ => return e

def readSigned : (fuel : Nat) → Read Expression
  | 0 => reject
  | fuel + 1 => do
      match ← token with
      | .mark "-" =>
          advance
          return .negated (← used (← readSigned fuel))
      | .mark "+" =>
          advance
          return .positive (← used (← readSigned fuel))
      | .mark "!" =>
          advance
          return .opposite (← used (← readSigned fuel))
      | _ =>
          let e ← readStepped expression
          if (← token).isMark "^" then
            advance
            return .arithmetic .power (← used e) (← used (← readSigned fuel))
          return e

def readPiped : (fuel : Nat) → Expression → Read Expression
  | 0, e => return e
  | fuel + 1, e => do
      if (← token).isMark "|" then
        advance
        unless (← token).isWord "getline" do
          reject
        advance
        let target ← readTarget? expression
        readPiped fuel (.recordOfCommand (← used e) target)
      else
        return e

/-- Reads operands of one rank with operators between them, which go from left to right. -/
def readRank (operand : Read Expression)
    (operator? : Token → Option (Expression → Expression → Expression)) :
    (fuel : Nat) → Expression → Read Expression
  | 0, e => return e
  | fuel + 1, e => do
      match operator? (← token) with
      | none => return e
      | some build =>
          let first ← used e
          advance
          let second ← used (← operand)
          readRank operand operator? fuel (build first second)

def readProduct : Read Expression := do
  let operand : Read Expression := do
    readPiped expression (← room) (← readSigned expression (← room))
  readRank operand
    (fun
      | .mark "*" => some (.arithmetic .multiply)
      | .mark "/" => some (.arithmetic .divide)
      | .mark "%" => some (.arithmetic .remainder)
      | _ => none)
    (← room) (← operand)

def readSum : Read Expression := do
  readRank (readProduct expression)
    (fun
      | .mark "+" => some (.arithmetic .add)
      | .mark "-" => some (.arithmetic .subtract)
      | _ => none)
    (← room) (← readProduct expression)

def readJoined : (fuel : Nat) → Expression → Read Expression
  | 0, e => return e
  | fuel + 1, e => do
      match e with
      | .tuple _ => return e
      | e =>
          if startsOperand (← token) then
            let first ← used e
            readJoined fuel (.joined first (← used (← readSum expression)))
          else
            return e

def readAssigned : Read Expression := do
  let e ← readJoined expression (← room) (← readSum expression)
  match assignment? (← token) with
  | none => return e
  | some operation =>
      unless isTarget e do
        reject
      let target ← used e
      advance
      return .assign operation target (← used (← expression))

def readCompared : Read Expression := do
  readRank (readAssigned expression)
    (fun
      | .mark "==" => some (.compared .equal)
      | .mark "!=" => some (.compared .unequal)
      | .mark "<" => some (.compared .less)
      | .mark "<=" => some (.compared .lessOrEqual)
      | .mark ">" => some (.compared .greater)
      | .mark ">=" => some (.compared .greaterOrEqual)
      | _ => none)
    (← room) (← readAssigned expression)

def readMatched : (fuel : Nat) → Expression → Read Expression
  | 0, e => return e
  | fuel + 1, e => do
      let goOn (isWanted : Bool) : Read Expression := do
        let first ← used e
        advance
        let p ← asPattern (← used (← readCompared expression))
        readMatched fuel (.found isWanted first p)
      match ← token with
      | .mark "~" => goOn true
      | .mark "!~" => goOn false
      | _ => return e

def readWithin : (fuel : Nat) → Expression → Read Expression
  | 0, e => return e
  | fuel + 1, e => do
      if (← token).isWord "in" then
        let key ← used e
        advance
        readWithin fuel (.within [key] (← tableName))
      else
        return e

def readBoth : Read Expression := do
  let operand : Read Expression := do
    readWithin (← room) (← readMatched expression (← room) (← readCompared expression))
  readRank operand
    (fun
      | .mark "&&" => some .both
      | _ => none)
    (← room) (← operand)

def readChoice : Read Expression := do
  let e ← readRank (readBoth expression)
    (fun
      | .mark "||" => some .either
      | _ => none)
    (← room) (← readBoth expression)
  if (← token).isMark "?" then
    let condition ← used e
    advance
    let yes ← used (← expression)
    expect ":"
    return .choice condition yes (← used (← expression))
  return e

end Expressions

/-- Reads an expression, which may have others in it up to a depth.  A list of expressions in
parentheses is one only where a list is wanted. -/
def readExpression : (depth : Nat) → Read Expression
  | 0 => reject
  | depth + 1 => readChoice (readExpression depth)

def maxDepth : Nat := 2000

def readValue : Read Expression := do
  used (← readExpression maxDepth)

def readValue? (isEnd : Token → Bool) : Read (Option Expression) := do
  if isEnd (← token) then
    return none
  return some (← readValue)

def readPrinted : Read (List Expression) := do
  let isDone (t : Token) : Bool :=
    t.isEnd || match t with
      | .output _ => true
      | _ => false
  if isDone (← token) then
    return []
  match ← readExpression maxDepth with
  | .tuple es =>
      unless isDone (← token) do
        reject
      return es
  | e =>
      let e ← used e
      if ← takes "," then
        return e :: (← (← readList readValue (← room)).mapM used)
      return [e]

def readDirection : Read (Option (Direction × Expression)) := do
  match ← token with
  | .output t =>
      advance
      let direction : Direction := if t = ">" then .file else if t = ">>" then .behindFile else .command
      return some (direction, ← readValue)
  | _ => return none

/-- Goes on behind an error with the next statement; whether a whole block is left is told. -/
def recover (isFirst : Bool) : (fuel : Nat) → Read Bool
  | 0 => throw .broken
  | fuel + 1 => do
      let t ← token
      if t.isEnd then
        modify fun r => { r with source := { r.source with isPrinting := false, parens := 0 } }
        advance
        return false
      else if isFirst && t.isMark "\x7d" then
        modify fun r => { r with source := { r.source with isPrinting := false, parens := 0 } }
        return true
      else
        match t with
        | .endOfText => throw .broken
        | _ =>
            advance
            recover isFirst fuel

section Statements

-- What reads a statement of any kind.
variable (statement : Read Statement)

def readStatements : (fuel : Nat) → (isFirst : Bool) → Read (List Statement)
  | 0, _ => throw .broken
  | fuel + 1, isFirst => do
      if !isFirst && (← token).isMark "\x7d" then
        return []
      let read : Read (Option Statement) := do return some (← statement)
      let found ← tryCatch read fun
        | .broken => throw .broken
        | .misfit => return none
      match found with
      | some s => return s :: (← readStatements fuel false)
      | none =>
          if ← recover isFirst (← room) then
            return []
          readStatements fuel false

def readBlock : Read Statement := do
  expect "\x7b"
  if (← token).isMark "\x7d" then
    advance
    return .block []
  let ss ← readStatements statement (← room) true
  expect "\x7d"
  return .block ss

def readCondition : Read Expression := do
  expect "("
  let e ← readValue
  expect ")"
  return e

def readBody : Read Statement := do
  modify fun r => { r with loops := r.loops + 1 }
  let body ← statement
  modify fun r => { r with loops := r.loops - 1 }
  return body

def readFor : Read Statement := do
  expect "("
  let start ← if (← token).isMark ";" then pure none else pure (some (← readExpression maxDepth))
  match start, (← token).isMark ")" with
  | some (.within [key] table), true =>
      match key with
      | .variable _ =>
          advance
          skipLines (← room)
          return .forEach key table (← readBody statement)
      | _ => reject
  | start, _ =>
      let start ← match start with
        | some e => pure (some (← used e))
        | none => pure none
      expect ";"
      let condition ← readValue? fun t => t.isMark ";"
      expect ";"
      let step ← readValue? fun t => t.isMark ")"
      expect ")"
      skipLines (← room)
      return .forLoop start condition step (← readBody statement)

def readWorded (word : String) : Read Statement := do
  advance
  match word with
  | "if" =>
      let condition ← readCondition
      skipLines (← room)
      let yes ← statement
      let r ← get
      skipLines (← room)
      if (← token).isWord "else" then
        advance
        return .branch condition yes (some (← statement))
      set r
      return .branch condition yes none
  | "while" =>
      let condition ← readCondition
      skipLines (← room)
      return .whileLoop condition (← readBody statement)
  | "do" =>
      let body ← readBody statement
      skipLines (← room)
      unless (← token).isWord "while" do
        reject
      advance
      let condition ← readCondition
      expectEnd
      return .untilLoop body condition
  | "for" => readFor statement
  | "print" =>
      let es ← readPrinted
      let to? ← readDirection
      expectEnd
      return .print es to?
  | "printf" =>
      let es ← readPrinted
      if es.isEmpty then
        complain "no arguments in call to printf".toList
      let to? ← readDirection
      expectEnd
      return .printFormat es to?
  | "break" =>
      if (← get).loops = 0 then
        complain "break statement outside of loop".toList
      expectEnd
      return .leaveLoop
  | "continue" =>
      if (← get).loops = 0 then
        complain "continue statement outside of loop".toList
      expectEnd
      return .nextTurn
  | "next" | "nextfile" =>
      unless (← token).isEnd do
        reject
      unless (← get).hasRecords do
        complain ("improper use of ".toList ++ word.toList)
      expectEnd
      return if word = "next" then .nextRecord else .nextFile
  | "exit" =>
      let status ← readValue? Token.isEnd
      expectEnd
      return .exit status
  | "return" =>
      if (← get).within.isNone then
        complain "return outside function body".toList
      let value ← readValue? Token.isEnd
      expectEnd
      return .giveBack value
  | _ =>
      let n ← tableName
      let keys ← if ← takes "[" then pure (some (← readKeys (readExpression maxDepth))) else pure none
      expectEnd
      return .delete n keys

end Statements

def leadingWords : List String :=
  ["break", "continue", "delete", "do", "exit", "for", "if", "next", "nextfile", "print", "printf",
    "return", "while"]

def readStatement : (depth : Nat) → Read Statement
  | 0 => reject
  | depth + 1 => do
      match ← token with
      | .mark "\x7b" => readBlock (readStatement depth)
      | .word w =>
          if leadingWords.contains w then
            readWorded (readStatement depth) w
          else if w = "getline" then
            simple
          else
            reject
      | t =>
          if t.isEnd then
            advance
            return .block []
          else
            simple
where
  simple : Read Statement := do
    let e ← readValue
    expectEnd
    return .expression e

def readAction : Read Statement :=
  readBlock (readStatement maxDepth)

def readOwn (function : Text) : (fuel : Nat) → Read (List Text)
  | 0 => reject
  | fuel + 1 => do
      match ← token with
      | .name t =>
          if t = function then
            complain "function parameter cannot be the function".toList
            reject
          advance
          if ← takes "," then
            let others ← readOwn function fuel
            if others.contains t then
              complain (t ++ " is duplicated in argument list".toList)
              return others
            return t :: others
          return [t]
      | _ => reject

def readFunction : Read Unit := do
  let name ← match ← token with
    | .name t | .function t => pure t
    | _ => reject
  match (← get).source.kinds.lookup name with
  | some .value => complain ("illegal reference to variable ".toList ++ name)
  | some .table => complain ("illegal reference to array ".toList ++ name)
  | some .function => pure ()
  | none =>
      modify fun r => { r with source := { r.source with kinds := (name, .function) :: r.source.kinds } }
  if (← get).functions.any fun f => f.name == name then
    complain ("redefinition of ".toList ++ name)
  advance
  expect "("
  let own ← if (← token).isMark ")" then pure [] else readOwn name (← room)
  modify fun r => { r with source := { r.source with own := own } }
  expect ")"
  skipLines (← room)
  modify fun r =>
    { r with
      within := some name
      hasRecords := false
      ownKinds := []
      functions := ⟨name, own, [], .block []⟩ :: r.functions }
  let body ← readAction
  modify fun r =>
    let tables := (own.zipIdx.filter fun p => r.ownKinds.lookup p.1 == some .table).map fun p => .own p.2
    { r with
      within := none
      hasRecords := true
      source := { r.source with own := [] }
      functions := r.functions.map fun f =>
        if f.name = name then { f with tables := tables, body := body } else f }

def readRule : Read Rule := do
  match ← token with
  | .word "BEGIN" =>
      advance
      modify fun r => { r with hasRecords := false }
      let action ← readAction
      modify fun r => { r with hasRecords := true }
      return ⟨.before, some action⟩
  | .word "END" =>
      advance
      modify fun r => { r with hasRecords := false }
      let action ← readAction
      modify fun r => { r with hasRecords := true }
      return ⟨.behind, some action⟩
  | .mark "\x7b" => return ⟨.all, some (← readAction)⟩
  | _ =>
      let first ← readValue
      if ← takes "," then
        let last ← readValue
        return ⟨.range first last, ← action⟩
      return ⟨.only first, ← action⟩
where
  action : Read (Option Statement) := do
    if (← token).isMark "\x7b" then
      return some (← readAction)
    expectEnd
    skipLines (← room)
    return none

def recoverRule : (fuel : Nat) → Read Unit
  | 0 => throw .broken
  | fuel + 1 => do
      match ← token with
      | .mark "\x7b" =>
          modify fun r => { r with
            within := none
            hasRecords := true
            source := { r.source with isPrinting := false, own := [] } }
      | .endOfText => throw .broken
      | _ =>
          advance
          recoverRule fuel

def readItems : (fuel : Nat) → Read (List Rule)
  | 0 => return []
  | fuel + 1 => do
      match ← token with
      | .endOfText => return []
      | _ =>
          let read : Read (List Rule) := do
            if (← token).isWord "function" then
              advance
              readFunction
              return []
            return [← readRule]
          let found ← tryCatch (do return some (← read)) fun
            | .broken => throw .broken
            | .misfit => return none
          match found with
          | some rules => return rules ++ (← readItems fuel)
          | none =>
              recoverRule (← room)
              readItems fuel

/-- The functions with all their names that are tables because they are passed on as such. -/
def spreadTables (calls : List CallSite) : (rounds : Nat) → List Draft → List Draft
  | 0, fs => fs
  | rounds + 1, fs =>
      let isTable (function : Text) (place : Nat) : Bool :=
        fs.any fun f => f.name == function && f.tables.contains (.own place)
      let passed (f : Draft) : List Name :=
        calls.flatMap fun c =>
          if c.within == some f.name then
            c.arguments.zipIdx.filterMap fun a =>
              match a.1 with
              | some (.own place) => if isTable c.function a.2 then some (.own place) else none
              | _ => none
          else
            []
      spreadTables calls rounds (fs.map fun f => { f with tables := f.tables ++ passed f })

def checkCalls (fs : List Draft) (calls : List CallSite) : Read Unit := do
  for c in calls.reverse do
    let about (t : Text) : Read Unit := do
      modify fun r => { r with source := { r.source with
        messages := (c.source.complain t).messages.take 1 ++ r.source.messages } }
      check
    match fs.find? fun f => f.name == c.function with
    | none => complain ("function ".toList ++ c.function ++ " never defined".toList)
    | some f =>
        if f.own.length < c.arguments.length then
          about ("too many arguments in call to ".toList ++ f.name)
        else
          for (a, place) in c.arguments.zipIdx do
            if f.tables.contains (.own place) then
              let isValue : Bool := match a with
                | none => true
                | some (.shared t) => c.source.kinds.lookup t == some .value
                | some (.own _) => false
              if isValue then
                about ("type error in arg(".toList ++ Radix.decimal.numeral (place + 1) ++
                  ") in call to ".toList ++ f.name ++
                  " (actual local variable vs local array)".toList)

def Program.read (title text : Text) : Except (List Text) Program :=
  let source : Source :=
    { rest := text
      title := title
      kinds := ["NF", "NR", "FNR", "FS", "OFS", "ORS", "RS", "FILENAME", "SUBSEP", "RSTART", "RLENGTH",
          "CONVFMT", "OFMT", "ARGC"].map (fun n => (n.toList, Kind.value)) ++
        [("ENVIRON".toList, .table), ("ARGV".toList, .table)] }
  let work : Read Program := do
    modify fun r => { r with source := r.source.skipLines }
    advance
    let rules ← readItems (← room)
    let r ← get
    let fs := spreadTables r.calls (r.functions.length + 1) r.functions
    checkCalls fs (if r.source.messages.isEmpty then r.calls else r.calls.filter CallSite.isKnown)
    return {
      rules := rules
      functions := fs.map fun f =>
        ⟨f.name, f.own.zipIdx.map fun p => f.tables.contains (.own p.2), f.body⟩ }
  match (work.run).run { source := source } with
  | (.ok p, r) => if r.source.messages.isEmpty then .ok p else .error r.source.messages.reverse
  | (.error _, r) => .error r.source.messages.reverse

end Rules

end Utility

end Imprint
