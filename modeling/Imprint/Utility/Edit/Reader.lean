import Imprint.Utility.Edit.Command

/-!
# Reading edit scripts

Commands end at line ends and semicolons; some take texts, labels or file names that
go on to the end of their line.
-/

namespace Imprint

namespace Utility

namespace Edit

structure Cursor where
  rest : Text
  place : Nat := 0

/-- Why a script cannot be read, and up to which character it was. -/
structure Mistake where
  place : Nat
  message : Text

abbrev Parse := StateT Cursor (Except Mistake)

def mistake (message : String) : Parse α := fun c =>
  .error ⟨c.place, message.toList⟩

def peek : Parse (Option Char) :=
  return (← get).rest.head?

def take : Parse (Option Char) := do
  let c ← get
  match c.rest with
  | [] => return none
  | d :: rest =>
      set ({ rest := rest, place := c.place + 1 } : Cursor)
      return some d

def takeWhile (p : Char → Bool) : Parse Text :=
  modifyGet fun c =>
    let t := c.rest.takeWhile p
    (t, { rest := c.rest.drop t.length, place := c.place + t.length })

def isSpace (c : Char) : Bool :=
  c.isWhitespace || c == '\x0b' || c == '\x0c'

def skipBlanks : Parse Unit := do
  let _ ← takeWhile fun c => isSpace c && c != '\n'

def readNumber : Parse Nat :=
  return Text.decimalValue (← takeWhile Char.isDigit)

/-- What stands before the next sign that is not behind a backslash.  A sign behind one
loses it; inside brackets of an expression it is kept as it is. -/
def delimited (sign : Char) (isPattern : Bool) : (fuel : Nat) → Parse (Option Text)
  | 0 => return none
  | fuel + 1 => do
      match ← take with
      | none => return none
      | some c =>
          if c = sign then
            return some []
          else if c = '\n' ∧ isPattern then
            return none
          else if c = '\\' then
            match ← take with
            | none => return none
            | some d =>
                let kept : Text :=
                  if d = sign then (if isPattern && isSpecial sign then [d] else [d])
                  else if d = 'n' ∧ isPattern then ['\n']
                  else ['\\', d]
                return (← delimited sign isPattern fuel).map (kept ++ ·)
          else if c = '[' ∧ isPattern then
            match ← brackets with
            | some inner => return (← delimited sign isPattern fuel).map ((c :: inner) ++ ·)
            | none => do
                let _ ← takeWhile (· ≠ '\n')
                return none
          else
            return (← delimited sign isPattern fuel).map (c :: ·)
where
  isSpecial (c : Char) : Bool := "|+?()\x7b\x7d".toList.contains c
  /-- The rest of a set of characters, up to its closing bracket, if there is one. -/
  brackets : Parse (Option Text) := do
    let c ← get
    match Regex.bracketSet? c.rest with
    | some (_, rest) =>
        let t := c.rest.take (c.rest.length - rest.length)
        if t.contains '\n' then
          return none
        else
          set ({ rest := rest, place := c.place + t.length } : Cursor)
          return some (unescaped t)
    | none => return none
  /-- A set in which line ends may be written with a letter. -/
  unescaped : Text → Text
    | '\\' :: 'n' :: rest => '\n' :: unescaped rest
    | '\\' :: 't' :: rest => '\t' :: unescaped rest
    | c :: rest => c :: unescaped rest
    | [] => []

def text (sign : Char) (isPattern : Bool) : Parse (Option Text) := do
  delimited sign isPattern ((← get).rest.length + 1)

/-- Reads a regular expression under flags; the empty one stands for the last one used. -/
def regex (isExtended : Bool) (t flags : Text) : Parse (Option Regex) := do
  if t.isEmpty then
    return none
  let d : Regex.Dialect := if isExtended then .extended else .basic
  match Regex.read? { dialect := d, controls := true } t with
  | none => fun c => .error ⟨c.place, Regex.fault d t⟩
  | some r =>
      let r := if flags.contains 'M' || flags.contains 'm' then r.byLine else r
      return some (if flags.contains 'I' || flags.contains 'i' then r.ignoringCase else r)

def address? (isExtended : Bool) : Parse (Option Address) := do
  match ← peek with
  | none => return none
  | some c =>
      if c.isDigit then
        let first ← readNumber
        skipBlanks
        if (← peek) = some '~' then
          let _ ← take
          return some (.every first (← readNumber))
        else
          return some (.line first)
      else if c = '$' then
        let _ ← take
        return some .last
      else if c = '/' ∨ c = '\\' then
        let _ ← take
        let sign ← if c = '/' then pure (some '/') else take
        match ← text (sign.getD '/') true with
        | none => mistake "unterminated address regex"
        | some t =>
            let flags ← takeWhile fun c => c == 'I' || c == 'M'
            return some (.fitting (← regex isExtended t flags))
      else
        return none

def rangeEnd (isExtended : Bool) : Parse RangeEnd := do
  skipBlanks
  match ← peek with
  | some '+' => do
      let _ ← take
      return .behind (← readNumber)
  | some '~' => do
      let _ ← take
      return .multiple (← readNumber)
  | _ =>
      match ← address? isExtended with
      | some a => return .at a
      | none => mistake "unexpected \x60,'"

def selector (isExtended : Bool) : Parse Selector := do
  let first ← address? isExtended
  skipBlanks
  let stop ← match first, ← peek with
    | some _, some ',' => do
        let _ ← take
        pure (some (← rangeEnd isExtended))
    | _, _ => pure none
  let isZero := match first with
    | some (.line 0) => true
    | _ => false
  let isOpen := match isZero, stop with
    | true, some (.at (.fitting _)) => true
    | _, _ => false
  skipBlanks
  let negated := (← peek) = some '!'
  if negated then
    let _ ← take
    skipBlanks
    if (← peek) = some '!' then
      let _ ← take
      mistake "multiple \x60!'s"
  if isZero && !isOpen then
    let _ ← take
    mistake "invalid usage of line address 0"
  return { first := first, stop := stop, fromStart := isOpen, negated := negated }

def commandEnd : Parse Unit := do
  skipBlanks
  match ← peek with
  | none => return
  | some c =>
      if c = '\n' ∨ c = ';' then
        let _ ← take
      else if c ≠ '}' ∧ c ≠ '#' then
        let _ ← take
        mistake "extra characters after command"

/-- Lines of a text: a backslash before a line end goes on, and before anything else it is
left out. -/
def textLines : (fuel : Nat) → Parse Text
  | 0 => return []
  | fuel + 1 => do
      match ← take with
      | none => return ['\n']
      | some '\n' => return ['\n']
      | some '\\' =>
          match ← take with
          | none => return ['\n']
          | some c =>
              let c := if c = 't' then '\t' else c
              return c :: (← textLines fuel)
      | some c => return c :: (← textLines fuel)

/-- Reads the text of a command, which stands on the same line or on those that follow. -/
def commandText : Parse Text := do
  skipBlanks
  let fuel := (← get).rest.length + 1
  match ← peek with
  | none => mistake "expected \\ after \x60a', \x60c' or \x60i'"
  | some '\\' =>
      let _ ← take
      let blanks ← takeWhile fun c => isSpace c && c != '\n'
      match ← peek with
      | some '\n' =>
          let _ ← take
          textLines fuel
      | none => return []
      | some _ => return blanks ++ (← textLines fuel)
  | some _ => textLines fuel

def fileName : Parse Text := do
  skipBlanks
  let t ← takeWhile (· ≠ '\n')
  if t.isEmpty then
    mistake "missing filename in r/R/w/W commands"
  let _ ← take
  return t

def labelName : Parse (Option Text) := do
  skipBlanks
  let t ← takeWhile fun c => !isSpace c && c != ';' && c != '}'
  commandEnd
  return if t.isEmpty then none else some t

def pieces : Text → List Piece
  | [] => []
  | '&' :: rest => .group 0 :: pieces rest
  | '\\' :: 'x' :: a :: b :: rest =>
      if Text.isHexDigit a && Text.isHexDigit b then
        .text [Char.ofNat (Text.hexValue [a, b])] :: pieces rest
      else
        .text ['x'] :: pieces (a :: b :: rest)
  | '\\' :: c :: rest =>
      let piece : Piece :=
        if c.isDigit then .group (c.toNat - '0'.toNat)
        else
          match [('U', Casing.upper), ('L', .lower), ('u', .nextUpper), ('l', .nextLower),
              ('E', .plain)].lookup c with
          | some casing => .casing casing
          | none => .text [(Regex.control? c).getD c]
      piece :: pieces rest
  | c :: rest => .text [c] :: pieces rest

def substitutionFlags : (fuel : Nat) → (numbered : Bool) → Substitution → Text →
    Parse (Substitution × Text)
  | 0, _, s, flags => return (s, flags)
  | fuel + 1, numbered, s, flags => do
      match ← peek with
      | some 'g' =>
          let _ ← take
          if s.isGlobal then mistake "multiple \x60g' options to \x60s' command"
          substitutionFlags fuel numbered { s with isGlobal := true } flags
      | some 'p' =>
          let _ ← take
          if s.prints then mistake "multiple \x60p' options to \x60s' command"
          substitutionFlags fuel numbered { s with prints := true } flags
      | some 'w' =>
          let _ ← take
          return ({ s with file := some (← fileName) }, flags)
      | some c =>
          if c.isDigit then
            if numbered then mistake "multiple number options to \x60s' command"
            let n ← readNumber
            if n = 0 then mistake "number option to \x60s' command may not be zero"
            substitutionFlags fuel true { s with number := n } flags
          else if "iImM".toList.contains c then
            let _ ← take
            substitutionFlags fuel numbered s (c :: flags)
          else if isSpace c && c != '\n' then
            let _ ← take
            substitutionFlags fuel numbered s flags
          else if c = '\n' ∨ c = ';' then
            let _ ← take
            return (s, flags)
          else if c = '}' ∨ c = '#' then
            return (s, flags)
          else
            let _ ← take
            mistake "unknown option to \x60s'"
      | none => return (s, flags)

def substitution (isExtended : Bool) : Parse Action := do
  let sign := (← take).getD '\n'
  let unterminated : Parse Text := mistake "unterminated \x60s' command"
  let pattern ← match ← text sign true with
    | some t => pure t
    | none => unterminated
  let replacement ← match ← text sign false with
    | some t => pure t
    | none => unterminated
  let replacement := pieces replacement
  let fuel := (← get).rest.length + 1
  let (s, flags) ← substitutionFlags fuel false { pattern := none, replacement := replacement } []
  let r ← regex isExtended pattern flags
  let groups := (r.map Regex.groupCount).getD 9
  for piece in replacement do
    match piece with
    | .group index =>
        if groups < index then
          fun c => .error ⟨c.place, "invalid reference \\".toList ++ Radix.decimal.numeral index ++
            " on \x60s' command's RHS".toList⟩
    | _ => pure ()
  return .substitute { s with pattern := r }

def tableChars : Text → List Char
  | [] => []
  | '\\' :: '\\' :: rest => '\\' :: tableChars rest
  | '\\' :: 'n' :: rest => '\n' :: tableChars rest
  | '\\' :: 't' :: rest => '\t' :: tableChars rest
  | c :: rest => c :: tableChars rest

def translation : Parse Action := do
  let sign := (← take).getD '\n'
  let unterminated : Parse Text := mistake "unterminated \x60y' command"
  let sources ← match ← text sign false with
    | some t => pure (tableChars t)
    | none => unterminated
  let targets ← match ← text sign false with
    | some t => pure (tableChars t)
    | none => unterminated
  if sources.length ≠ targets.length then
    mistake "strings for \x60y' command are different lengths"
  commandEnd
  return .translate (sources.zip targets)

def quitStatus (prints : Bool) : Parse Action := do
  skipBlanks
  let n ← readNumber
  commandEnd
  return .quit n prints

def bareAction? (c : Char) : Option Action :=
  match c with
  | '=' => some .number
  | 'd' => some .delete
  | 'D' => some .deleteFirst
  | 'F' => some .fileName
  | 'g' => some .get
  | 'G' => some .getAppend
  | 'h' => some .hold
  | 'H' => some .holdAppend
  | 'n' => some .next
  | 'N' => some .nextAppend
  | 'p' => some .print
  | 'P' => some .printFirst
  | 'x' => some .exchange
  | 'z' => some .empty
  | _ => none

def action (isExtended : Bool) (c : Char) : Parse Action := do
  match bareAction? c with
  | some a =>
      commandEnd
      return a
  | none =>
      match c with
      | 'a' => return .append (← commandText)
      | 'i' => return .insert (← commandText)
      | 'c' => return .change (← commandText)
      | 'b' => return .jump (← labelName)
      | 't' => return .jumpIf true (← labelName)
      | 'T' => return .jumpIf false (← labelName)
      | 'l' =>
          skipBlanks
          let digits ← takeWhile Char.isDigit
          commandEnd
          return .list (if digits.isEmpty then none else some (Text.decimalValue digits))
      | 'q' => quitStatus true
      | 'Q' => quitStatus false
      | 'r' => return .read (← fileName)
      | 'R' => return .readLine (← fileName)
      | 'w' => return .write (← fileName)
      | 'W' => return .writeFirst (← fileName)
      | 's' => substitution isExtended
      | 'y' => translation
      | 'v' => do
          skipBlanks
          let t ← takeWhile fun c => !isSpace c && c != ';'
          commandEnd
          let number := Text.decimalValue (t.takeWhile Char.isDigit)
          if 4 < number then
            mistake "expected newer version of sed"
          return .label
      | c => fun s => .error ⟨s.place, "unknown command: \x60".toList ++ [c, '\'']⟩

/-- What is read of a script: its commands, the blocks that are open, and its labels. -/
structure Draft where
  commands : Array Command := #[]
  openBlocks : List Nat := []
  labels : List (Text × Nat) := []

def commands (isExtended : Bool) : (fuel : Nat) → Draft → Parse Draft
  | 0, d => return d
  | fuel + 1, d => do
      let _ ← takeWhile fun c => isSpace c || c == ';'
      match ← peek with
      | none =>
          unless d.openBlocks.isEmpty do
            fun _ => .error ⟨0, "unmatched \x60\x7b'".toList⟩
          return d
      | some _ =>
          let s ← selector isExtended
          match ← take with
          | none => mistake "missing command"
          | some '#' =>
              if s.first.isSome then
                mistake "comments don't accept any addresses"
              let _ ← takeWhile (· ≠ '\n')
              commands isExtended fuel d
          | some ':' =>
              if s.first.isSome then
                mistake ": doesn't want any addresses"
              let place := (← get).place
              skipBlanks
              let t ← takeWhile fun c => !isSpace c && c != ';'
              if t.isEmpty then
                fun _ => .error ⟨place, "\":\" lacks a label".toList⟩
              commandEnd
              commands isExtended fuel { d with labels := (t, d.commands.size) :: d.labels }
          | some '{' =>
              commands isExtended fuel
                { d with
                  openBlocks := d.commands.size :: d.openBlocks
                  commands := d.commands.push ⟨s, .block 0⟩ }
          | some '}' =>
              match d.openBlocks with
              | [] => mistake "unexpected \x60\x7d'"
              | start :: outer =>
                  if s.first.isSome then
                    mistake "\x7d doesn't want any addresses"
                  commandEnd
                  let place := d.commands.size
                  let closed := match d.commands[start]? with
                    | some c => d.commands.setIfInBounds start { c with action := .block place }
                    | none => d.commands
                  commands isExtended fuel { d with openBlocks := outer, commands := closed }
          | some c =>
              if "qQ".toList.contains c && s.stop.isSome then
                mistake "command only uses one address"
              let a ← action isExtended c
              commands isExtended fuel { d with commands := d.commands.push ⟨s, a⟩ }

def read (isExtended : Bool) (t : Text) : Except Mistake Program :=
  match StateT.run (commands isExtended (2 * t.length + 2) {}) { rest := t } with
  | .ok (d, _) => .ok ⟨d.commands, d.labels⟩
  | .error m => .error m

def Program.missingLabel? (p : Program) : Option Text :=
  p.commands.toList.findSome? fun c =>
    match c.action with
    | .jump (some t) | .jumpIf _ (some t) => if (p.labels.lookup t).isNone then some t else none
    | _ => none

end Edit

end Utility

end Imprint
