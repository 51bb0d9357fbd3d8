import Imprint.Utility.Excerpt

/-!
# Bytes as numbers

A utility shows the bytes of its inputs, one input after the other, as characters or
as numbers of several sizes, in lines that begin with the place of their first byte.
-/

namespace Imprint

namespace Utility

open Imprint.Task

inductive AmountFault where
  | unreadable
  | suffix
  | tooLarge
deriving DecidableEq

def AmountFault.wording (fault : AmountFault) (option value : Text) : Text :=
  let argument := option ++ " argument '".toList ++ value ++ ['\'']
  match fault with
  | unreadable => "invalid ".toList ++ argument
  | suffix => "invalid suffix in ".toList ++ argument
  | tooLarge => argument ++ " too large".toList

namespace Octets

def digitValue (c : Char) : Nat :=
  if c.isDigit then c.toNat - '0'.toNat
  else if Text.isHexDigit c then Text.hexValue [c]
  else 16

def readDigits (base : Nat) (t : Text) : Option Nat × Text :=
  let digits := t.takeWhile fun c => decide (digitValue c < base)
  (if digits.isEmpty then none else some (digits.foldl (fun n c => base * n + digitValue c) 0),
    t.drop digits.length)

def baseOf (t : Text) : Nat × Text :=
  match t with
  | '0' :: x :: c :: rest =>
      if (x = 'x' ∨ x = 'X') ∧ Text.isHexDigit c then (16, c :: rest) else (8, t)
  | '0' :: _ => (8, t)
  | t => (10, t)

/-- Reads an amount: a number in a base, or in the one that it tells, and a factor.  A factor
alone stands for itself. -/
def readAmount (base : Option Nat) (letters : Text) (t : Text) : Except AmountFault Nat :=
  let t := t.dropWhile Char.isWhitespace
  let unsigned := match t with
    | '+' :: rest => rest
    | t => t
  let (base, numeral) := match base with
    | some base => (base, unsigned)
    | none => baseOf unsigned
  let (value, suffix) : Option Nat × Text := match readDigits base numeral with
    | (some n, rest) => (some n, rest)
    | (none, _) => (if t.head?.any fun c => letters.contains c then some 1 else none, t)
  let isKnown := suffix.head?.all fun c => letters.contains c
  match value, if isKnown then factor? suffix else none with
  | none, _ => .error .unreadable
  | some _, none => .error .suffix
  | some n, some factor => if n * factor < Nat.pow 2 64 then .ok (n * factor) else .error .tooLarge

def amountLetters : Text :=
  "bEGKkMmPQRTYZ".toList

def amount (t : Text) : Except AmountFault Nat :=
  readAmount none amountLetters t

/-- A width of lines, which may have a sign; nothing is shown by one that is not positive. -/
def width (t : Text) : Except AmountFault Nat := do
  let t := t.dropWhile Char.isWhitespace
  let n ← match t with
    | '-' :: digits =>
        if digits.head?.any Char.isDigit then do
          let _ ← readAmount (some 10) [] digits
          pure 0
        else
          throw .unreadable
    | t => readAmount (some 10) [] t
  if n < Nat.pow 2 63 then return n else throw .tooLarge

def offset? (t : Text) : Option Nat :=
  let digits := match t with
    | '+' :: rest => rest
    | t => t
  match digits with
  | [] => none
  | digits =>
      let (base, digits) : Nat × Text := match digits with
        | '0' :: x :: rest => if x = 'x' ∨ x = 'X' then (16, rest) else (8, digits)
        | digits => (8, digits)
      match readDigits base digits with
      | (some n, []) => some n
      | (some n, ['b']) => some (512 * n)
      | (some n, ['B']) => some (1024 * n)
      | _ => none

end Octets

/-- How bytes are shown: as characters, by their names, or as numbers of a size in a radix. -/
inductive ByteForm where
  | characters
  | names
  | numbers (size : Nat) (letter : Char)

namespace ByteForm

def size : ByteForm → Nat
  | numbers size _ => size
  | _ => 1

def width : ByteForm → Nat
  | characters | names => 3
  | numbers size letter =>
      match letter with
      | 'x' => 2 * size
      | 'o' => (8 * size + 2) / 3
      | 'u' => (Radix.decimal.numeral (Nat.pow 256 size - 1)).length
      | _ => (Radix.decimal.numeral (Nat.pow 256 size / 2)).length + 1

def controlNames : List String :=
  ["nul", "soh", "stx", "etx", "eot", "enq", "ack", "bel", "bs", "ht", "nl", "vt", "ff", "cr", "so",
    "si", "dle", "dc1", "dc2", "dc3", "dc4", "nak", "syn", "etb", "can", "em", "sub", "esc", "fs", "gs",
    "rs", "us", "sp"]

def letterEscape? (c : Char) : Option Text :=
  ([('\x07', 'a'), ('\x08', 'b'), ('\x0c', 'f'), ('\n', 'n'), ('\r', 'r'), ('\t', 't'),
    ('\x0b', 'v')].lookup c).map fun letter => ['\\', letter]

/-- The number that bytes make up, of which the first is the highest, or the lowest. -/
def groupValue (highFirst : Bool) (group : Text) : Nat :=
  (if highFirst then group else group.reverse).foldl (fun n c => 256 * n + c.toNat) 0

def text (f : ByteForm) (highFirst : Bool) (group : Text) : Text :=
  let value := groupValue highFirst group
  match f with
  | characters =>
      let c := Char.ofNat value
      if c = '\x00' then ['\\', '0']
      else (letterEscape? c).getD
        (if Text.isShown c then [c] else ({ precision := some 3 } : Format).natural 'o' value)
  | names =>
      let n := value % 128
      match controlNames[n]? with
      | some t => t.toList
      | none => if n = 127 then "del".toList else [Char.ofNat n]
  | numbers size letter =>
      match letter with
      | 'x' => ({ precision := some (2 * size) } : Format).natural 'x' value
      | 'o' => ({ precision := some ((8 * size + 2) / 3) } : Format).natural 'o' value
      | 'u' => Radix.decimal.numeral value
      | _ => ({} : Format).integer
          (if value < Nat.pow 256 size / 2 then (value : Int) else (value : Int) - (Nat.pow 256 size : Nat))

def readSize (whole rest : Text) : Except Text (Nat × Text) :=
  let invalid : Text := "invalid type string ".toList ++ Text.inPlainQuotes whole
  match rest with
  | 'C' :: rest => .ok (1, rest)
  | 'S' :: rest => .ok (2, rest)
  | 'I' :: rest => .ok (4, rest)
  | 'L' :: rest => .ok (8, rest)
  | rest =>
      match Octets.readDigits 10 rest with
      | (none, _) => .ok (4, rest)
      | (some size, rest) =>
          if [1, 2, 4, 8].contains size then .ok (size, rest)
          else if Nat.pow 2 31 ≤ size then .error invalid
          else
            .error (invalid ++ ";\nthis system doesn't provide a ".toList ++ Radix.decimal.numeral size ++
              "-byte integral type".toList)

/-- Reads the forms that a text names, each with whether the characters are shown behind it. -/
def readForms (whole : Text) : (fuel : Nat) → Text → Except Text (List (ByteForm × Bool))
  | 0, _ | _, [] => .ok []
  | fuel + 1, letter :: rest => do
      let (f, rest) ← match letter with
        | 'a' => pure (names, rest)
        | 'c' => pure (characters, rest)
        | letter =>
            if "doux".toList.contains letter then
              let (size, rest) ← readSize whole rest
              pure (numbers size letter, rest)
            else
              throw ("invalid character '".toList ++ letter :: "' in type string ".toList ++
                Text.inPlainQuotes whole)
      match rest with
      | 'z' :: rest => return (f, true) :: (← readForms whole fuel rest)
      | rest => return (f, false) :: (← readForms whole fuel rest)

def ofText (t : Text) : Except Text (List (ByteForm × Bool)) :=
  readForms t (t.length + 1) t

def ofLetter? (letter : String) : Option ByteForm :=
  match letter with
  | "a" => some names
  | "b" => some (numbers 1 'o')
  | "c" => some characters
  | "D" => some (numbers 4 'u')
  | "d" => some (numbers 2 'u')
  | "X" | "H" => some (numbers 4 'x')
  | "i" => some (numbers 4 'd')
  | "I" | "L" | "l" => some (numbers 8 'd')
  | "O" => some (numbers 4 'o')
  | "B" | "o" => some (numbers 2 'o')
  | "s" => some (numbers 2 'd')
  | "h" | "x" => some (numbers 2 'x')
  | _ => none

end ByteForm

/-- How places are shown: in a radix with a least count of digits, if at all, and what is added
to them for a second one. -/
structure Places where
  radix : Char := 'o'
  label : Option Nat := none

namespace Places

def digits (p : Places) (n : Nat) : Text :=
  match p.radix with
  | 'd' => ({ precision := some 7 } : Format).integer n
  | 'x' => ({ precision := some 6 } : Format).natural 'x' n
  | _ => ({ precision := some 7 } : Format).natural 'o' n

def width (p : Places) : Nat :=
  match p.radix with
  | 'n' => if p.label.isSome then 7 else 0
  | 'x' => 6
  | _ => 7

def text (p : Places) (start n : Nat) : Text :=
  let second : Text := match p.label with
    | some label => '(' :: p.digits (n - start + label) ++ [')']
    | none => []
  if p.radix = 'n' then second
  else p.digits n ++ (if second.isEmpty then [] else ' ' :: second)

end Places

/-- How lines of bytes are written: the forms, how many bytes are in a line, whether the first
byte of a number is its highest, and whether lines that repeat are left out. -/
structure OctetLayout where
  forms : List (ByteForm × Bool)
  perLine : Nat
  highFirst : Bool := false
  isAbridged : Bool := true
  places : Places := {}

namespace OctetLayout

def lineWidth (l : OctetLayout) : Nat :=
  l.forms.foldl (fun n f => max n ((f.1.width + 1) * (l.perLine / f.1.size))) 0

/-- The groups of a line in a form; blanks are spread over the line so that those of all forms
end alike. -/
def cells (l : OctetLayout) (f : ByteForm) (block : Text) : Text :=
  let count := l.perLine / f.size
  let blanks := l.lineWidth - f.width * count
  let before (left : Nat) : Nat := blanks * left / count
  let groups := inPieces f.size block
  (groups.zipIdx.map fun (group, index) =>
    let group := group ++ List.replicate (f.size - group.length) '\x00'
    let t := f.text l.highFirst group
    let width := before (count - index) - before (count - index - 1) + f.width
    List.replicate (width - t.length) ' ' ++ t).flatten

def trailer (l : OctetLayout) (f : ByteForm) (block : Text) : Text :=
  let count := l.perLine / f.size
  let blanks := l.lineWidth - f.width * count
  let missing := (l.perLine - block.length) / f.size
  List.replicate (missing * f.width + blanks * missing / count) ' ' ++ "  >".toList ++
    (block.map fun c => if Text.isShown c then c else '.') ++ ['<']

def block (l : OctetLayout) (start place : Nat) (bytes : Text) : Text :=
  (l.forms.zipIdx.map fun ((f, isTrailed), index) =>
    (if index = 0 then l.places.text start place else List.replicate l.places.width ' ') ++
      l.cells f bytes ++ (if isTrailed then l.trailer f bytes else []) ++ ['\n']).flatten

/-- The blocks from a place on, of which full ones that are like the one before are left out
behind a star. -/
def blocks (l : OctetLayout) (start : Nat) :
    (previous : Option Text) → (isStarred : Bool) → (place : Nat) → List Text → Text
  | _, _, _, [] => []
  | previous, isStarred, place, bytes :: rest =>
      let next := place + bytes.length
      if l.isAbridged && previous == some bytes && bytes.length = l.perLine then
        (if isStarred then [] else "*\n".toList) ++ l.blocks start previous true next rest
      else
        l.block start place bytes ++ l.blocks start (some bytes) false next rest

end OctetLayout

/-- The inputs that are read one after the other: what is left of the present one and why it
ends, and the names of the others. -/
structure OctetSource where
  present : Option (Text × Option Text) := none
  rest : List Text

namespace OctetSource

/-- Opens the next input that can be opened, and tells whether none failed before it. -/
def advance : (names : List Text) → Task (OctetSource × Bool)
  | [] => return ({ present := none, rest := [] }, true)
  | name :: rest => do
      match ← contents name with
      | .ok t => return ({ present := some (t, none), rest := rest }, true)
      | .error .isDirectory => return ({ present := some ([], some name), rest := rest }, true)
      | .error cause =>
          refuse name cause
          let (s, _) ← advance rest
          return (s, false)

def leave (s : OctetSource) : Task (OctetSource × Bool) := do
  match s.present with
  | some (_, some name) =>
      refuse name .isDirectory
      let (s, _) ← advance s.rest
      return (s, false)
  | _ => advance s.rest

/-- Takes bytes, going on to the next inputs as long as they do not suffice, and tells whether
none failed. -/
def take : (fuel : Nat) → (count : Nat) → OctetSource → Task (Text × OctetSource × Bool)
  | 0, _, s => return ([], s, true)
  | fuel + 1, count, s => do
      match s.present with
      | none => return ([], s, true)
      | some (t, failed) =>
          if count ≤ t.length && failed.isNone then
            return (t.take count, { s with present := some (t.drop count, none) }, true)
          else
            let (next, isFine) ← s.leave
            let (others, next, areFine) ← take fuel (count - t.length) next
            return (t ++ others, next, isFine && areFine)

def canSeek (name : Text) : Task Bool := do
  let p ← get
  if isInput name then
    match (p.descriptors.lookup 0).bind fun id => p.files.channels[id]? with
    | some .nothing => return true
    | _ => return false
  else
    return (Device.ofPath? name).isSome

def skip : (fuel : Nat) → (name : Text) → (count : Nat) → OctetSource → Task (Nat × OctetSource × Bool)
  | 0, _, count, s => return (count, s, true)
  | fuel + 1, name, count, s => do
      match s.present with
      | none => return (count, s, true)
      | some (t, failed) =>
          if count = 0 || failed.isSome || (← canSeek name) then
            return (0, s, true)
          else if count ≤ t.length then
            return (0, { s with present := some (t.drop count, none) }, true)
          else
            let (next, isFine) ← s.leave
            let opened := s.rest.length - next.rest.length
            let (missing, next, areFine) ←
              skip fuel (s.rest.getD (opened - 1) []) (count - t.length) next
            return (missing, next, isFine && areFine)

end OctetSource

/-- The texts of shown characters, at least so many of them, that a zero byte ends, with their
places. -/
def stringsFrom (least : Nat) : (place : Nat) → (run : Text) → Text → List (Nat × Text)
  | _, _, [] => []
  | place, run, c :: rest =>
      if Text.isShown c then stringsFrom least (place + 1) (c :: run) rest
      else if c = '\x00' && least ≤ run.length then
        (place - run.length, run.reverse) :: stringsFrom least (place + 1) [] rest
      else
        stringsFrom least (place + 1) [] rest

def oldByteOptions : List OptionForm :=
  "aBbcDdHhIiLlOosXx".toList.map fun c => flag c ""

def newByteOptions : List OptionForm :=
  [valued 'A' "address-radix", valued 'j' "skip-bytes", valued 'N' "read-bytes",
    valued 't' "format", flag 'v' "output-duplicates", valued 'S' "",
    ⟨none, "strings", .joined⟩, ⟨some 'w', "width", .joined⟩, ⟨none, "endian", .always⟩,
    ⟨none, "traditional", .never⟩]

def byteOrder (t : Text) : Except Complaint String :=
  choice "endian" ["little", "big"] t

def octetCheck (g : Given) : Option Complaint :=
  let amountOf (letter : Char) : Option Complaint :=
    match Octets.amount g.value with
    | .ok _ => none
    | .error fault => some (.plain (fault.wording (g.shown letter) g.value))
  match g.name with
  | "address-radix" =>
      let c := g.value.headD '\x00'
      if "doxn".toList.contains c then none
      else some (.plain ("invalid output address radix '".toList ++ c ::
        "'; it must be one character from [doxn]".toList))
  | "skip-bytes" => amountOf 'j'
  | "read-bytes" => amountOf 'N'
  | "S" => amountOf 'S'
  | "strings" => if g.value.isEmpty then none else amountOf 'S'
  | "width" =>
      match Octets.width g.value with
      | .error fault =>
          if g.value.isEmpty then none else some (.plain (fault.wording (g.shown 'w') g.value))
      | .ok _ => none
  | "endian" => faultOf (byteOrder g.value)
  | _ => none

def formsOf : List Given → Except Text (List (ByteForm × Bool))
  | [] => .ok []
  | g :: rest => do
      let fs ← match ByteForm.ofLetter? g.name with
        | some f => pure [(f, false)]
        | none => if g.name = "format" then ByteForm.ofText g.value else pure []
      return fs ++ (← formsOf rest)

/-- Takes offsets off the operands: where to begin, and the place that is shown for it. -/
def takeOffsets (isTraditional : Bool) (operands : List Text) :
    Option (Nat × Option Nat) × List Text :=
  let starts (t : Text) (withDigit : Bool) : Bool :=
    isTraditional || t.head?.any fun c => c == '+' || withDigit && c.isDigit
  match operands with
  | [t] =>
      match if starts t false then Octets.offset? t else none with
      | some n => (some (n, none), [])
      | none => (none, operands)
  | [a, b] =>
      match if starts b true then Octets.offset? b else none with
      | some n =>
          match if isTraditional then Octets.offset? a else none with
          | some m => (some (m, some n), [])
          | none => (some (n, none), [a])
      | none => (none, operands)
  | [a, b, c] =>
      match isTraditional, Octets.offset? b, Octets.offset? c with
      | true, some m, some n => (some (m, some n), [a])
      | _, _, _ => (none, operands)
  | operands => (none, operands)

/-- Shows bytes in blocks.  After a failure the present block is the last one; what the memory
for blocks still holds of an earlier one is shown again then. -/
def showBlocks (l : OctetLayout) (start : Nat) (limit : Option Nat) (s : OctetSource) : Task Bool := do
  let mut s := s
  let mut blocks : List Text := []
  let mut isFine := true
  let mut taken := 0
  let fuel := s.rest.length + 2
  let mut isDone := false
  let mut total := limit.getD 0
  if limit.isNone then
    total := Device.supply * (s.rest.length + 2)
  for _ in List.range (total / l.perLine + 1) do
    unless isDone do
      let needed := min l.perLine (total - taken)
      let (bytes, next, goesOn) ← OctetSource.take fuel needed s
      s := next
      taken := taken + bytes.length
      unless bytes.isEmpty do
        blocks := bytes :: blocks
      isFine := isFine && goesOn
      if bytes.length < l.perLine then
        isDone := true
      else if !goesOn then
        isDone := true
        let old := match blocks with
          | _ :: earlier :: _ => earlier
          | _ => List.replicate l.perLine '\x00'
        blocks := old :: blocks
        taken := taken + old.length
  out (l.blocks start none false start blocks.reverse)
  if l.places.radix ≠ 'n' || l.places.label.isSome then
    out (l.places.text start (start + taken) ++ ['\n'])
  return isFine

def showStrings (p : Places) (least start : Nat) (limit : Option Nat) (s : OctetSource) : Task Bool := do
  let fuel := s.rest.length + 2
  let (t, _, isFine) ← OctetSource.take fuel (limit.getD (Device.supply * fuel)) s
  for (place, found) in stringsFrom (max 1 least) start [] t do
    let lead := p.text start place
    out ((if lead.isEmpty then [] else lead ++ [' ']) ++
      found.flatMap (fun c => (ByteForm.letterEscape? c).getD [c]) ++ ['\n'])
  return isFine

def od : Utility := fun _ arguments => do
  let rules : OptionRules := { forms := newByteOptions ++ oldByteOptions, check := octetCheck }
  let (given, operands) ← optionsBy rules arguments 1
  if given.any fun g => g.name == "width" && !g.value.isEmpty &&
      (Octets.width g.value).toOption == some 0 then
    throw (.signaled 6 true)
  let forms ← match formsOf given with
    | .ok forms => pure forms
    | .error t => fail 1 t
  let amountOf (name : String) : Option Nat :=
    (value? given name).bind fun t => (Octets.amount t).toOption
  let least? := (given.reverse.find? fun g => g.name == "S" || g.name == "strings").map
    fun g => (Octets.amount g.value).toOption.getD 3
  let isStrings := least?.isSome
  if isStrings && !forms.isEmpty then
    fail 1 "no type may be specified when dumping strings".toList
  let isTraditional := has given "traditional"
  let isModern := given.any fun g => newByteOptions.any fun f =>
    f.name == g.name && f.letter.isSome
  let (offset, operands) :=
    if isModern && !isTraditional then (none, operands) else takeOffsets isTraditional operands
  match isTraditional, operands with
  | true, _ :: extra :: _ =>
      complain ("extra operand ".toList ++ Text.inPlainQuotes extra)
      complain "compatibility mode supports at most one file".toList
      seeHelp 1
  | _, _ => pure ()
  let start := match offset with
    | some (n, _) => n
    | none => (amountOf "skip-bytes").getD 0
  let limit := amountOf "read-bytes"
  if limit.any fun n => Nat.pow 2 64 ≤ start + n then
    fail 1 "skip-bytes + read-bytes is too large".toList
  let places : Places :=
    { radix := ((value? given "address-radix").bind List.head?).getD 'o'
      label := offset.bind Prod.snd }
  let forms := if forms.isEmpty then [(.numbers 2 'o', false)] else forms
  let names := orInput operands
  let (source, isOpened) ← OctetSource.advance names
  if source.present.isNone then
    return 1
  let first := names.getD (names.length - source.rest.length - 1) []
  let (missing, source, isSkipped) ← OctetSource.skip (names.length + 1) first start source
  if missing ≠ 0 then
    fail 1 "cannot skip past end of combined input".toList
  if source.present.isNone then
    return 1
  let unit := forms.foldl (fun n f => max n f.1.size) 1
  let wanted := match value? given "width" with
    | some [] => 32
    | some digits => (Octets.width digits).toOption.getD 16
    | none => 16
  if wanted % unit ≠ 0 then
    complain ("warning: invalid width ".toList ++ Radix.decimal.numeral wanted ++ "; using ".toList ++
      Radix.decimal.numeral unit ++ " instead".toList)
  let layout : OctetLayout :=
    { forms := forms
      perLine := if wanted % unit = 0 then wanted else unit
      highFirst := (value? given "endian").any fun t => (byteOrder t).toOption == some "big"
      isAbridged := !has given "output-duplicates"
      places := places }
  let isShown ← if isStrings then
      showStrings places (least?.getD 3) start limit source
    else
      showBlocks layout start limit source
  return if isOpened && isSkipped && isShown then 0 else 1

end Utility

end Imprint
