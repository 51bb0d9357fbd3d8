import Imprint.Script.Tree

/-!
# Reading scripts

A script is read one line of commands at a time, so that what a line does can be
done before a mistake further down is met.  Lines are counted on the way, and a
backslash before a line end joins lines.
-/

namespace Imprint

namespace Script

structure Lead where
  descriptor : Nat
  sign : Text

inductive Token where
  | endOfInput
  | newline
  | sign (t : Text)
  | keyword (t : Text)
  | word (w : Word)
  | redirection (lead : Lead)

/-- A document that a redirection asks for and that stands further down. -/
structure Awaited where
  id : Nat
  stop : Text
  isQuoted : Bool
  dropsTabs : Bool

structure Reading where
  rest : Text
  line : Nat := 1
  pushed : Option Token := none
  last : Token := .newline
  literally : Bool := false
  awaited : List Awaited := []
  documents : List (Nat × Word) := []
  nextDocument : Nat := 0

structure Mistake where
  line : Nat
  message : Text

abbrev Parse := ExceptT Mistake (StateM Reading)

namespace Token

def name : Token → Text
  | endOfInput => "end of file".toList
  | newline => "newline".toList
  | sign t => '"' :: t ++ ['"']
  | keyword t => '"' :: t ++ ['"']
  | word _ => "word".toList
  | redirection _ => "redirection".toList

def isSign (t : Token) (s : String) : Bool :=
  match t with
  | sign u => u == s.toList
  | _ => false

def isKeyword (t : Token) (s : String) : Bool :=
  match t with
  | keyword u => u == s.toList
  | _ => false

def endsList : Token → Bool
  | endOfInput => true
  | sign t => t == [')'] || t == [';', ';']
  | keyword t => ["do", "done", "elif", "else", "esac", "fi", "then", "\x7d"].contains (String.ofList t)
  | _ => false

end Token

namespace Parse

def fail (message : Text) : Parse α := do
  throw ⟨(← get).line, message⟩

def unexpected (wanted : Option String) : Parse α := do
  let expecting := match wanted with
    | some t => " (expecting ".toList ++ t.toList ++ [')']
    | none => []
  fail ((← get).last.name ++ " unexpected".toList ++ expecting)

def joints : Text → Nat × Text
  | '\\' :: '\n' :: rest => ((joints rest).1 + 1, (joints rest).2)
  | t => (0, t)

def peek : Parse (Option Char) := do
  let s ← get
  match s.rest with
  | '\\' :: '\n' :: rest =>
      let joined := joints rest
      set { s with rest := joined.2, line := s.line + joined.1 + 1 }
      return joined.2.head?
  | c :: _ => return some c
  | [] => return none

def skip (count : Nat) : Parse Unit :=
  modify fun s =>
    { s with
      rest := s.rest.drop count
      line := s.line + (s.rest.take count).count '\n' }

def takeRun (p : Char → Bool) : Parse Text := do
  let t := (← get).rest.takeWhile p
  skip t.length
  return t

def joinedRun (p : Char → Bool) : (fuel : Nat) → Parse Text
  | 0 => return []
  | fuel + 1 => do
      match ← peek with
      | some c => if p c then return (← takeRun p) ++ (← joinedRun p fuel) else return []
      | none => return []

def room : Parse Nat := do
  return (← get).rest.length + 2

end Parse

open Parse

/-- Where parts of a word stand: outside quotes, in braces, between double quotes, in an
arithmetic expression with open parentheses, or in a document.  Braces may stand between
quotes, and quotes in them again. -/
inductive Place where
  | bare
  | braces (isQuoted inner : Bool)
  | quotes
  | arithmetic (depth : Nat)
  | document
deriving DecidableEq

namespace Place

def isQuoted : Place → Bool
  | bare => false
  | braces isQuoted _ => isQuoted
  | _ => true

def stopsRun (place : Place) (c : Char) : Bool :=
  c == '\\' || c == '$' || c == backquote ||
    match place with
    | bare => " \t\n;&|<>()'\"".toList.contains c
    | braces false _ => c == '\'' || c == '"' || c == '\x7d'
    | braces true _ => c == '"' || c == '\x7d'
    | quotes => c == '"'
    | arithmetic _ => c == '(' || c == ')'
    | document => false

def escapes (place : Place) (c : Char) : Bool :=
  c == '\\' || c == '$' || c == backquote ||
    match place with
    | braces true _ => c == '"' || c == '\x7d'
    | quotes => c == '"'
    | arithmetic _ => c == '"'
    | document => false
    | _ => true

def part (place : Place) (t : Text) : Part :=
  if place.isQuoted then .quoted t else .plain t

end Place

/-- Parts between double quotes, marked as quoted unless they are the list of arguments
and nothing else. -/
def quotedParts : Word → Word
  | [.parameter ['@'] .value word isQuoted] => [.parameter ['@'] .value word isQuoted]
  | parts => .quoted [] :: parts

def joinPlain : Word → Word
  | .plain t :: rest =>
      match joinPlain rest with
      | .plain u :: others => .plain (t ++ u) :: others
      | others => .plain t :: others
  | part :: rest => part :: joinPlain rest
  | [] => []

/-- The script between backquotes: a backslash is dropped before some characters.  Without
the closing backquote there is none. -/
def backquoted (isQuoted : Bool) : Text → Option (Text × Text)
  | [] => none
  | '\\' :: '\n' :: rest => backquoted isQuoted rest
  | '\\' :: c :: rest =>
      (backquoted isQuoted rest).map fun tail =>
        if c == '\\' || c == '$' || c == backquote || (isQuoted && c == '"') then
          (c :: tail.1, tail.2)
        else
          ('\\' :: c :: tail.1, tail.2)
  | c :: rest =>
      if c = backquote then some ([], rest)
      else (backquoted isQuoted rest).map fun tail => (c :: tail.1, tail.2)

def inside (text : Text) (line : Nat) (reader : Parse α) : Parse α := do
  let outer ← get
  set { outer with rest := text, line := line, pushed := none, awaited := [] }
  let a ← reader
  modify fun s =>
    { s with rest := outer.rest, line := outer.line, pushed := none, awaited := outer.awaited }
  return a

section Words

-- What reads the commands of a nested script, up to the token that ends them.
variable (script : Parse Command)

def nestedScript : Parse Command := do
  let outer ← get
  set { outer with awaited := [] }
  let body ← script
  unless (← get).pushed.any (·.isSign ")") do
    unexpected (some "\")\"")
  modify fun s => { s with awaited := outer.awaited, pushed := none }
  return body

def readOperator : Parse Operator := do
  let c ← peek
  skip 1
  let (nullToo, c) ← if c = some ':' then do
      let c ← peek
      skip 1
      pure (true, c)
    else
      pure (false, c)
  match c with
  | some '\x7d' => return if nullToo then .unknown else .value
  | some '-' => return .orElse nullToo
  | some '+' => return .ifSet nullToo
  | some '?' => return .orFail nullToo
  | some '=' => return .orAssign nullToo
  | some '%' => if nullToo then return .unknown else
      if (← peek) = some '%' then skip 1; return .trim true true else return .trim true false
  | some '#' => if nullToo then return .unknown else
      if (← peek) = some '#' then skip 1; return .trim false true else return .trim false false
  | _ => return .unknown

def readUse : Parse (Text × Operator) := do
  let fuel ← room
  match ← peek with
  | none => return ([], .unknown)
  | some c =>
      if isNameStart c then
        let name ← joinedRun isNameChar fuel
        return (name, ← readOperator)
      else if c.isDigit then
        let name ← joinedRun Char.isDigit fuel
        return (name, ← readOperator)
      else if c = '\x7d' then
        skip 1
        return ([], .unknown)
      else
        skip 1
        let after ← peek
        if c = '#' ∧ after.any isNameChar then
          let name ← joinedRun (if after.any Char.isDigit then Char.isDigit else isNameChar) fuel
          return (name, .length)
        else if c = '#' ∧ after.any (fun d => isSpecial d && d != '\x7d') ∧
            ((← get).rest.drop 1).head? = some '\x7d' then
          skip 1
          return (after.toList, .length)
        else if isSpecial c then
          return ([c], ← readOperator)
        else
          return ([], .unknown)

def readEscape (place : Place) : Parse Part := do
  match (← get).rest with
  | [] => return .quoted ['\\']
  | c :: _ =>
      skip 1
      return .quoted (if place.escapes c then [c] else ['\\', c])

def readSingleQuoted : Parse Part := do
  let t ← takeRun (· ≠ '\'')
  if (← get).rest = [] then
    fail "Unterminated quoted string".toList
  skip 1
  return .quoted t

def readBackquoted (place : Place) : Parse Part := do
  let s ← get
  match backquoted place.isQuoted s.rest with
  | none =>
      skip s.rest.length
      fail "EOF in backquote substitution".toList
  | some (text, rest) =>
      skip (s.rest.length - rest.length)
      let body ← inside text 1 script
      return .output body place.isQuoted

mutual

def readParts : (fuel : Nat) → Place → Parse Word
  | 0, _ => return []
  | fuel + 1, place => do
      match ← peek with
      | none =>
          match place with
          | .bare | .document => return []
          | .braces false _ => fail "Missing '\x7d'".toList
          | .arithmetic _ => fail "Missing '))'".toList
          | _ => fail "Unterminated quoted string".toList
      | some c =>
          if !place.stopsRun c then
            let t ← takeRun fun c => !place.stopsRun c
            return place.part t :: (← readParts fuel place)
          else if c = '\\' then
            skip 1
            let part ← readEscape place
            return part :: (← readParts fuel place)
          else if c = '$' then
            skip 1
            let part ← readDollar fuel place
            return part :: (← readParts fuel place)
          else if c = backquote then
            skip 1
            if (← get).literally then
              return place.part [c] :: (← readParts fuel place)
            let part ← readBackquoted script place
            return part :: (← readParts fuel place)
          else
            match place, c with
            | .arithmetic depth, '(' =>
                skip 1
                return .quoted ['('] :: (← readParts fuel (.arithmetic (depth + 1)))
            | .arithmetic (depth + 1), _ =>
                skip 1
                return .quoted [')'] :: (← readParts fuel (.arithmetic depth))
            | .arithmetic 0, _ =>
                skip 1
                if (← peek) = some ')' then
                  skip 1
                  return []
                else
                  return .quoted [')'] :: (← readParts fuel (.arithmetic 0))
            | .quotes, _ =>
                skip 1
                return []
            | .braces true inner, '"' =>
                skip 1
                readParts fuel (.braces true (!inner))
            | .braces isQuoted inner, '\x7d' =>
                skip 1
                if inner then
                  return .quoted [c] :: (← readParts fuel (.braces isQuoted inner))
                else
                  return []
            | _, '\'' =>
                skip 1
                let part ← readSingleQuoted
                return part :: (← readParts fuel place)
            | _, '"' =>
                skip 1
                let inner ← readParts fuel .quotes
                return quotedParts inner ++ (← readParts fuel place)
            | _, _ => return []

def readDollar : (fuel : Nat) → Place → Parse Part
  | 0, place => return place.part ['$']
  | fuel + 1, place => do
      let isQuoted := place.isQuoted
      let c ← peek
      if (← get).literally then
        return place.part ['$']
      match c with
      | none => return place.part ['$']
      | some '(' =>
          skip 1
          if (← peek) = some '(' then
            skip 1
            return .arithmetic (← readParts fuel (.arithmetic 0)) isQuoted
          else
            return .output (← nestedScript script) isQuoted
      | some '\x7b' =>
          skip 1
          let (name, operator) ← readUse
          match operator with
          | .value => return .parameter name .value [] isQuoted
          | .trim .. =>
              return .parameter name operator (← readParts fuel (.braces false false)) isQuoted
          | _ =>
              return .parameter name operator (← readParts fuel (.braces isQuoted false))
                isQuoted
      | some c =>
          if isNameStart c then
            return .parameter (← joinedRun isNameChar (← room)) .value [] isQuoted
          else if isSpecial c then
            skip 1
            return .parameter [c] .value [] isQuoted
          else
            return place.part ['$']

end

/-- The lines up to the one that is `stop`, what follows that line, and the count of the
lines taken.  A line that continues the one before it is no stop. -/
def linesUpTo (d : Awaited) : (fuel : Nat) → (continues : Bool) → Text → Text × Text × Nat
  | 0, _, t => ([], t, 0)
  | fuel + 1, continues, t =>
      let line := t.takeWhile (· ≠ '\n')
      let behind := t.drop line.length
      let shown := if d.dropsTabs && !continues then line.dropWhile (· = '\t') else line
      if !continues && shown == d.stop then
        (([] : Text), behind.drop 1, behind.length - (behind.drop 1).length)
      else
        match behind with
        | [] => (shown, [], 0)
        | _ :: rest =>
            let joins := !d.isQuoted && (line.reverse.takeWhile (· = '\\')).length % 2 == 1
            let tail := linesUpTo d fuel joins rest
            (shown ++ '\n' :: tail.1, tail.2.1, tail.2.2 + 1)

def readDocuments : Parse Unit := do
  let awaited := (← get).awaited
  modify fun s => { s with awaited := [] }
  for d in awaited do
    let s ← get
    let (body, rest, count) := linesUpTo d (s.rest.length + 1) false s.rest
    set { s with rest := rest, line := s.line + count }
    let w ← if d.isQuoted then
        pure [.quoted body]
      else
        inside body s.line (readParts script (body.length + 2) .document)
    modify fun s => { s with documents := (d.id, w) :: s.documents }

def readLead (descriptor : Option Nat) : Parse Token := do
  let c ← peek
  skip 1
  let d ← peek
  let take (count : Nat) (usual : Nat) (sign : String) : Parse Token := do
    skip count
    return .redirection ⟨descriptor.getD usual, sign.toList⟩
  if c = some '>' then
    match d with
    | some '>' => take 1 1 ">>"
    | some '|' => take 1 1 ">|"
    | some '&' => take 1 1 ">&"
    | _ => take 0 1 ">"
  else
    match d with
    | some '<' =>
        skip 1
        if (← peek) = some '-' then take 1 0 "<<-" else take 0 0 "<<"
    | some '&' => take 1 0 "<&"
    | some '>' => take 1 0 "<>"
    | _ => take 0 0 "<"

def readWord : Parse Token := do
  let parts ← readParts script (← room) .bare
  let c ← peek
  let leads := c = some '<' || c = some '>'
  match parts with
  | [] => readLead none
  | [.plain [d]] =>
      if leads && d.isDigit then readLead (some (d.toNat - '0'.toNat)) else return .word parts
  | _ => return .word (joinPlain parts)

def readFresh : (fuel : Nat) → Parse Token
  | 0 => return .endOfInput
  | fuel + 1 => do
      let pair (c : Char) : Parse Token := do
        skip 1
        if (← peek) = some c then
          skip 1
          return .sign [c, c]
        else
          return .sign [c]
      match ← peek with
      | none => return .endOfInput
      | some '\n' => skip 1; return .newline
      | some '&' => pair '&'
      | some '|' => pair '|'
      | some ';' => pair ';'
      | some '(' => skip 1; return .sign ['(']
      | some ')' => skip 1; return .sign [')']
      | some '#' =>
          let _ ← takeRun (· ≠ '\n')
          readFresh fuel
      | some c =>
          if c = ' ' ∨ c = '\t' then
            skip 1
            readFresh fuel
          else
            readWord script

def keywords : List String :=
  ["!", "case", "do", "done", "elif", "else", "esac", "fi", "for", "if", "in", "then", "until",
    "while", "\x7b", "\x7d"]

structure Expectation where
  skipsLines : Bool := false
  keywords : Bool := false

def readToken (e : Expectation) : (fuel : Nat) → Parse Token
  | 0 => return .endOfInput
  | fuel + 1 => do
      let s ← get
      let t ← match s.pushed with
        | some t => do
            set { s with pushed := none }
            pure t
        | none => readFresh script (s.rest.length + 1)
      match t with
      | .newline =>
          if e.skipsLines then
            readDocuments script
            readToken e fuel
          else
            modify fun s => { s with last := t }
            return t
      | .word w =>
          match plain? w with
          | some text =>
              if e.keywords && keywords.contains (String.ofList text) then
                modify fun s => { s with last := .keyword text }
                return .keyword text
              else
                modify fun s => { s with last := t }
                return t
          | none =>
              modify fun s => { s with last := t }
              return t
      | _ =>
          modify fun s => { s with last := t }
          return t

end Words

def pushBack : Parse Unit :=
  modify fun s => { s with pushed := some s.last }

/-- How a list of commands ends: with its line, or before a token; one in a compound
command is not empty. -/
inductive Extent where
  | line
  | block
  | nested
deriving DecidableEq

section Commands

-- What reads a list of commands of an extent.
variable (list : Extent → Parse (Option Command))

def next (e : Expectation) : Parse Token := do
  readToken (do return (← list .nested).getD .skip) e (← room)

def readBlock : Parse Command := do
  return (← list .block).getD .skip

def readKeyword (name : String) (e : Expectation) : Parse Unit := do
  let t ← next list e
  unless t.isKeyword name do
    unexpected (some ("\"" ++ name ++ "\""))

def starting : Expectation :=
  { keywords := true }

def startingLater : Expectation :=
  { skipsLines := true, keywords := true }

def descriptor? : Word → Option (Option Nat)
  | w =>
      match plain? w with
      | some [d] => if d.isDigit then some (some (d.toNat - '0'.toNat)) else
          if d = '-' then some none else none
      | _ => none

def readTarget (lead : Lead) : Parse Redirection := do
  let isDocument := lead.sign.take 2 == ['<', '<']
  modify fun s => { s with literally := isDocument }
  let t ← next list {}
  modify fun s => { s with literally := false }
  let .word w := t | unexpected none
  match String.ofList lead.sign with
  | "<" => return .file lead.descriptor .reading w
  | ">" => return .file lead.descriptor .writing w
  | ">>" => return .file lead.descriptor .appending w
  | ">|" => return .file lead.descriptor .clobbering w
  | "<>" => return .file lead.descriptor .both w
  | "<&" | ">&" =>
      match descriptor? w with
      | some (some source) => return .copy lead.descriptor source
      | some none => return .close lead.descriptor
      | none => return .copyNamed lead.descriptor w
  | _ =>
      let s ← get
      let isQuoted := w.any fun | .quoted _ => true | _ => false
      let d : Awaited := ⟨s.nextDocument, literal w, isQuoted, lead.sign == "<<-".toList⟩
      set { s with awaited := s.awaited ++ [d], nextDocument := s.nextDocument + 1 }
      return .document lead.descriptor d.id

def readRedirections : (fuel : Nat) → Expectation → Parse (List Redirection)
  | 0, _ => return []
  | fuel + 1, e => do
      match ← next list e with
      | .redirection lead =>
          let r ← readTarget list lead
          return r :: (← readRedirections fuel {})
      | _ =>
          pushBack
          return []

def assignment? : Word → Option (Text × Word)
  | .plain t :: rest =>
      let name := t.takeWhile (· ≠ '=')
      match t.drop name.length with
      | _ :: value =>
          if isName name then
            some (name, if value.isEmpty then rest else .plain value :: rest)
          else
            none
      | [] => none
  | _ => none

structure Draft where
  assignments : List (Text × Word) := []
  words : List Word := []
  redirections : List Redirection := []

def specialNames : List String :=
  [".", ":", "break", "continue", "eval", "exec", "exit", "export", "readonly", "return", "set",
    "shift", "trap", "unset"]

def readSimple (body : Parse Command) (line : Nat) : (fuel : Nat) → Draft → Parse Command
  | 0, _ => return .skip
  | fuel + 1, d => do
      let finish : Parse Command := do
        pushBack
        return .simple line d.assignments.reverse d.words.reverse d.redirections.reverse
      match ← next list {} with
      | .word w =>
          match if d.words.isEmpty then assignment? w else none with
          | some a => readSimple body line fuel { d with assignments := a :: d.assignments }
          | none => readSimple body line fuel { d with words := w :: d.words }
      | .redirection lead =>
          let r ← readTarget list lead
          readSimple body line fuel { d with redirections := r :: d.redirections }
      | t =>
          match t.isSign "(", d with
          | true, ⟨[], [w], []⟩ =>
              let t ← next list {}
              unless t.isSign ")" do
                unexpected (some "\")\"")
              let name := (plain? w).getD []
              if !isName name || specialNames.contains (String.ofList name) then
                fail "Bad function name".toList
              let line := (← get).line
              return .definition line name (← body)
          | _, _ => finish

def readBranch : (fuel : Nat) → Parse Command
  | 0 => return .skip
  | fuel + 1 => do
      let condition ← readBlock list
      readKeyword list "then" {}
      let consequence ← readBlock list
      let t ← next list {}
      if t.isKeyword "elif" then
        return .branch condition consequence (← readBranch fuel)
      else if t.isKeyword "else" then
        return .branch condition consequence (← readBlock list)
      else
        pushBack
        return .branch condition consequence .skip

def readValues : (fuel : Nat) → Parse (List Word)
  | 0 => return []
  | fuel + 1 => do
      let t ← next list {}
      match t with
      | .word w => return w :: (← readValues fuel)
      | .newline => return []
      | _ => if t.isSign ";" then return [] else unexpected none

def readForEach (line : Nat) : Parse Command := do
  let t ← next list {}
  let name := match t with
    | .word w => (plain? w).getD []
    | _ => []
  if !isName name then
    fail "Bad for loop variable".toList
  let t ← next list startingLater
  let values ← if t.isKeyword "in" then
      readValues list (← room)
    else do
      unless t.isSign ";" do
        pushBack
      pure [[.parameter ['@'] .value [] true]]
  readKeyword list "do" startingLater
  return .forEach line name values (← readBlock list)

def readPatterns : (fuel : Nat) → Token → Parse (List Word)
  | 0, _ => return []
  | fuel + 1, t => do
      let w : Word := match t with
        | .word w => w
        | .keyword k => [.plain k]
        | _ => []
      let separator ← next list {}
      if separator.isSign "|" then
        let t ← next list {}
        return w :: (← readPatterns fuel t)
      else if separator.isSign ")" then
        return [w]
      else
        unexpected (some "\")\"")

def readArms : (fuel : Nat) → Parse (List (List Word × Command))
  | 0 => return []
  | fuel + 1 => do
      let e : Expectation := { skipsLines := true, keywords := true }
      let t ← next list e
      if t.isKeyword "esac" then
        return []
      let t ← if t.isSign "(" then next list {} else pure t
      let patterns ← readPatterns list (← room) t
      let body := (← list .nested).getD .skip
      let t ← next list e
      if t.isKeyword "esac" then
        return [(patterns, body)]
      else if t.isSign ";;" then
        return (patterns, body) :: (← readArms fuel)
      else
        unexpected (some "\";;\"")

def readChoice (line : Nat) : Parse Command := do
  let .word subject ← next list {} | unexpected (some "word")
  readKeyword list "in" startingLater
  return .choose line subject (← readArms list (← room))

def readCommand : (fuel : Nat) → Expectation → Parse Command
  | 0, _ => return .skip
  | fuel + 1, e => do
      let t ← next list e
      let line := (← get).line
      let compound : Option (Parse Command) := match t with
        | .keyword k =>
            match String.ofList k with
            | "if" => some (do
                let c ← readBranch list (← room)
                readKeyword list "fi" {}
                return c)
            | "while" | "until" => some (do
                let condition ← readBlock list
                readKeyword list "do" {}
                let body ← readBlock list
                readKeyword list "done" {}
                return .loop (k == "while".toList) condition body)
            | "for" => some (do
                let c ← readForEach list line
                readKeyword list "done" {}
                return c)
            | "case" => some (readChoice list line)
            | "\x7b" => some (do
                let c ← readBlock list
                readKeyword list "\x7d" {}
                return c)
            | _ => none
        | .sign ['('] => some (do
            let c ← readBlock list
            let t ← next list {}
            unless t.isSign ")" do
              unexpected (some "\")\"")
            return .subshell line false c [])
        | _ => none
      match compound with
      | some reader =>
          let c ← reader
          let redirections ← readRedirections list (← room) starting
          match redirections, c with
          | [], _ => return c
          | _, .subshell line isBackground body _ =>
              return .subshell line isBackground body redirections
          | _, _ => return .redirected line c redirections
      | none =>
          match t with
          | .word _ | .redirection _ =>
              pushBack
              readSimple list (readCommand fuel startingLater) line (← room) {}
          | _ => unexpected none

def readPipeline (e : Expectation) : Parse Command := do
  let t ← next list e
  let isNegated := t.isKeyword "!"
  unless isNegated do
    pushBack
  let rec others : (fuel : Nat) → Parse (List Command)
    | 0 => return []
    | fuel + 1 => do
        let t ← next list {}
        if t.isSign "|" then
          let c ← readCommand list (← room) startingLater
          return c :: (← others fuel)
        else
          pushBack
          return []
  let first ← readCommand list (← room) starting
  let more ← others (← room)
  let whole := if more.isEmpty then first else .pipeline (first :: more) false
  return if isNegated then .negated whole else whole

def readJoined : (fuel : Nat) → Command → Parse Command
  | 0, first => return first
  | fuel + 1, first => do
      let t ← next list {}
      if t.isSign "&&" then
        readJoined fuel (.both first (← readPipeline list startingLater))
      else if t.isSign "||" then
        readJoined fuel (.either first (← readPipeline list startingLater))
      else
        pushBack
        return first

def Command.inBackground (line : Nat) : Command → Command
  | .pipeline commands _ => .pipeline commands true
  | .redirected line body redirections => .subshell line true body redirections
  | c => .subshell line true c []

def Command.ofList : List Command → Command
  | [] => .skip
  | [c] => c
  | cs => .sequence cs

/-- Reads a list of commands of an extent, behind those before, last first; nothing is given
where a script has no more line. -/
def readListWith (extent : Extent) :
    (fuel : Nat) → (before : List Command) → Parse (Option Command)
  | 0, before => return some (.ofList before.reverse)
  | fuel + 1, before => do
      let documents := readDocuments (do return (← list .nested).getD .skip)
      let t ← next list { starting with skipsLines := extent ≠ .line }
      match t with
      | .newline =>
          documents
          return some (.ofList before.reverse)
      | .endOfInput =>
          documents
          pushBack
          return if extent = .line && before.isEmpty then none else some (.ofList before.reverse)
      | _ =>
          pushBack
          if t.endsList && (extent = .nested || (extent = .block && !before.isEmpty)) then
            return some (.ofList before.reverse)
          let line := (← get).line
          let c ← readJoined list (← room) (← readPipeline list starting)
          let t ← next list {}
          let c := if t.isSign "&" then c.inBackground line else c
          match t with
          | .endOfInput =>
              documents
              pushBack
              return some (.ofList (c :: before).reverse)
          | .newline =>
              pushBack
              readListWith extent fuel (c :: before)
          | _ =>
              if t.isSign "&" || t.isSign ";" then
                readListWith extent fuel (c :: before)
              else if extent = .line then
                unexpected none
              else
                pushBack
                return some (.ofList (c :: before).reverse)

end Commands

def readList : (depth : Nat) → Extent → Parse (Option Command)
  | 0, _ => return none
  | depth + 1, extent => do
      readListWith (readList depth) extent (← room) []

def readText (t : Text) (s : Reading) : Except Mistake Word × Reading :=
  let script : Parse Command := return (← readList (t.length + 1) .nested).getD .skip
  (inside t s.line (readParts script (t.length + 2) .document)).run s

/-- Reads the next line of commands, with all that it goes on to; there is none at the end. -/
def readLine (s : Reading) : Except Mistake (Option Command) × Reading :=
  let start := { s with pushed := none, awaited := [], literally := false }
  (readList (s.rest.length + 1) .line).run start

end Script

end Imprint
