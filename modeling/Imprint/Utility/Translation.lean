import Imprint.Character.Set
import Imprint.Regex.Reader
import Imprint.Text.Escape
import Imprint.Utility.Options

/-!
# The utility that translates characters

Characters of one set become those of another, are left out, or stand only once where they
are repeated.  Sets are written as characters, ranges, and names of kinds; characters stand for
bytes.
-/

namespace Imprint

namespace Utility

open Imprint.Task

/-- A character of a written set; behind a backslash it means nothing but itself. -/
structure WrittenChar where
  char : Char
  isEscaped : Bool := false
deriving DecidableEq

def readSetEscapes : (fuel : Nat) → Text → List WrittenChar × List Text
  | 0, _ | _, [] => ([], [])
  | fuel + 1, '\\' :: rest =>
      match rest with
      | [] =>
          ([⟨'\\', false⟩],
            ["warning: an unescaped backslash at end of string is not portable".toList])
      | c :: more =>
          if Text.isOctalDigit c then
            let digits := (rest.take 3).takeWhile Text.isOctalDigit
            let isLarge := 255 < Text.octalValue digits
            let kept := if isLarge then digits.take 2 else digits
            let (written, told) := readSetEscapes fuel (rest.drop kept.length)
            let warning : List Text :=
              if isLarge then
                ["warning: the ambiguous octal escape \\".toList ++ digits ++
                  " is being\n\tinterpreted as the 2-byte sequence \\0".toList ++ kept ++
                  ", ".toList ++ digits.drop 2]
              else []
            (⟨Char.ofNat (Text.octalValue kept), true⟩ :: written, warning ++ told)
          else
            let (written, told) := readSetEscapes fuel more
            let d := if c = 'e' then c else (Text.escapeLetter? c).getD c
            (⟨d, true⟩ :: written, told)
  | fuel + 1, c :: rest =>
      let (written, told) := readSetEscapes fuel rest
      (⟨c, false⟩ :: written, told)

/-- A part of a set: characters in order, the small or the capital letters, another kind of
characters, one that stands for those like it, or one that is repeated, as often as needed or a
number of times. -/
inductive SetPart where
  | chars (t : Text)
  | letters (areCapital : Bool)
  | kind (t : Text)
  | alike (c : Char)
  | repeated (c : Char) (count : Nat)
  | filling (c : Char)
deriving DecidableEq

namespace SetPart

def allBytes : Text :=
  (List.range 256).map Char.ofNat

def lettersOf (areCapital : Bool) : Text :=
  allBytes.filter fun c => if areCapital then 'A' ≤ c && c ≤ 'Z' else 'a' ≤ c && c ≤ 'z'

def members (fill : Nat) : SetPart → Text
  | chars t | kind t => t
  | letters areCapital => lettersOf areCapital
  | alike c => [c]
  | repeated c count => List.replicate count c
  | filling c => List.replicate fill c

def isFilling : SetPart → Bool
  | filling _ => true
  | _ => false

def isLetters : SetPart → Bool
  | letters _ => true
  | _ => false

def isKind : SetPart → Bool
  | kind _ => true
  | _ => false

def isAlike : SetPart → Bool
  | alike _ => true
  | _ => false

end SetPart

abbrev CharSequence := List SetPart

namespace CharSequence

def shownChar (c : Char) : Text :=
  if Text.isShown c then [c] else '\\' :: Format.octalRadix.padded 3 c.toNat

def shownText (t : Text) : Text :=
  t.flatMap fun c =>
    if c = '\\' then ['\\', '\\'] else if Text.isShown c then [c] else Text.hiddenEscape c

def startsWith (c : Char) (t : List WrittenChar) : Bool :=
  t.head? == some ⟨c, false⟩

def untilClosing (mark : Char) : List WrittenChar → Option (Text × List WrittenChar)
  | a :: b :: rest =>
      if a == ⟨mark, false⟩ && b == ⟨']', false⟩ then
        some ([], rest)
      else
        (untilClosing mark (b :: rest)).map fun found => (a.char :: found.1, found.2)
  | _ => none

def isStarred (t : List WrittenChar) : Bool :=
  startsWith '*' t && startsWith ']' ((t.drop 1).dropWhile fun w => w.char.isDigit)

def ofKind? (name : Text) : Option SetPart :=
  match name with
  | ['l', 'o', 'w', 'e', 'r'] => some (.letters false)
  | ['u', 'p', 'p', 'e', 'r'] => some (.letters true)
  | name =>
      (Regex.namedRanges? name).map fun ranges =>
        .kind (SetPart.allBytes.filter (CharSet.ofRanges ranges).has)

def readRepeated (t : List WrittenChar) : Except Text (Option (SetPart × List WrittenChar)) :=
  match t with
  | c :: star :: rest =>
      if star == ⟨'*', false⟩ then
        let inside := rest.takeWhile fun w => !w.isEscaped && w.char != ']'
        let digits := inside.map WrittenChar.char
        let behind := rest.drop inside.length
        if startsWith ']' behind then
          let isOctal := digits.head? == some '0'
          if digits.isEmpty then
            .ok (some (.filling c.char, behind.drop 1))
          else if digits.all (if isOctal then Text.isOctalDigit else Char.isDigit) then
            let count := if isOctal then Text.octalValue digits else Text.decimalValue digits
            .ok (some (if count = 0 then .filling c.char else .repeated c.char count, behind.drop 1))
          else
            .error ("invalid repeat count ".toList ++ Text.inPlainQuotes digits ++
              " in [c*n] construct".toList)
        else
          .ok none
      else
        .ok none
  | _ => .ok none

def readBracketed (t : List WrittenChar) : Except Text (Option (SetPart × List WrittenChar)) :=
  match t with
  | mark :: rest =>
      match if mark == ⟨':', false⟩ || mark == ⟨'=', false⟩ then untilClosing mark.char rest else none with
      | none => readRepeated t
      | some ([], _) =>
          .error (if mark.char = ':' then "missing character class name '[::]'".toList
            else "missing equivalence class character '[==]'".toList)
      | some (name, behind) =>
          let part : Except Text SetPart :=
            if mark.char = ':' then
              match ofKind? name with
              | some p => .ok p
              | none => .error ("invalid character class ".toList ++ Text.inPlainQuotes (shownText name))
            else
              match name with
              | [c] => .ok (.alike c)
              | _ =>
                  .error (shownText name ++
                    ": equivalence class operand must be a single character".toList)
          match part with
          | .ok p => .ok (some (p, behind))
          | .error message => if isStarred rest then readRepeated t else .error message
  | [] => .ok none

/-- The parts of a written set in order.  The last two characters only stand for
themselves. -/
def readParts : (fuel : Nat) → List WrittenChar → Except Text CharSequence
  | 0, _ => .ok []
  | fuel + 1, t =>
      match t with
      | first :: second :: third :: rest => do
          let found ← if first == ⟨'[', false⟩ then readBracketed (second :: third :: rest) else pure none
          match found with
          | some (part, rest) => pure (part :: (← readParts fuel rest))
          | none =>
              if second == ⟨'-', false⟩ then
                if third.char < first.char then
                  throw ("range-endpoints of '".toList ++ shownChar first.char ++ '-' ::
                    shownChar third.char ++ "' are in reverse collating sequence order".toList)
                let range := SetPart.allBytes.filter fun c => first.char ≤ c && c ≤ third.char
                pure (.chars range :: (← readParts fuel rest))
              else
                pure (.chars [first.char] :: (← readParts fuel (second :: third :: rest)))
      | last => pure (last.map fun w => .chars [w.char])

def fixedLength (s : CharSequence) : Nat :=
  s.foldl (fun n p => n + (p.members 0).length) 0

def members (s : CharSequence) (fill : Nat) : Text :=
  s.flatMap (SetPart.members fill)

end CharSequence

/-- A character on its way to another set: whether it begins a part, and which letters this
part is. -/
structure SetItem where
  char : Char
  isNew : Bool := true
  areCapital : Option Bool := none

def itemsOf (fill : Nat) (s : CharSequence) : List SetItem :=
  s.flatMap fun p =>
    let kind := match p with
      | .letters areCapital => some areCapital
      | _ => none
    (p.members fill).zipIdx.map fun c => ⟨c.1, c.2 == 0, kind⟩

/-- What characters become: one another, or all letters of one case those of the other. -/
inductive Replacement where
  | char (source target : Char)
  | letters (toCapital : Bool)

/-- Sets side by side.  Letters of a case in the second set have to stand beside letters of a
case. -/
def align : (fuel : Nat) → List SetItem → List SetItem → Option (List Replacement × Nat)
  | 0, _, _ | _, _, [] => some ([], 0)
  | _, [], y :: _ => if y.areCapital.isSome then none else some ([], 0)
  | fuel + 1, x :: xs, y :: ys =>
      match y.areCapital with
      | none => (align fuel xs ys).map fun found => (.char x.char y.char :: found.1, found.2)
      | some toCapital =>
          match x.isNew, x.areCapital with
          | true, some areCapital =>
              let rest (items : List SetItem) := items.dropWhile fun i => !i.isNew
              (align fuel (rest xs) (rest ys)).map fun found =>
                (if areCapital = toCapital then found.1 else .letters toCapital :: found.1,
                  found.2 + 1)
          | _, _ => none

def replaced (rs : List Replacement) (c : Char) : Char :=
  rs.foldl
    (fun d r =>
      match r with
      | .char source target => if source = c then target else d
      | .letters true => if 'a' ≤ c && c ≤ 'z' then c.toUpper else d
      | .letters false => if 'A' ≤ c && c ≤ 'Z' then c.toLower else d)
    c

def squeezed (isSqueezed : Char → Bool) : Text → Text
  | [] => []
  | [c] => [c]
  | c :: d :: rest =>
      if c = d && isSqueezed c then squeezed isSqueezed (d :: rest)
      else c :: squeezed isSqueezed (d :: rest)

def lengthening (s : CharSequence) : Option Char :=
  match s.getLast? with
  | some (.chars t) => t.getLast?
  | some (.repeated c _) | some (.filling c) => some c
  | _ => none

/-- The replacements of a set by another, or what is wrong.  The first set may be meant as all
characters but those in it, and may be cut to the length of the second. -/
def replacements (complement truncates : Bool) (first second : CharSequence) :
    Except Text (List Replacement) := do
  let all := SetPart.allBytes
  let source : List SetItem :=
    if complement then
      let inside := first.members 0
      (all.filter fun c => !inside.contains c).map fun c => { char := c }
    else
      itemsOf 0 first
  let fill := source.length - second.fixedLength
  let target := itemsOf fill second
  if second.any SetPart.isAlike then
    throw "[=c=] expressions may not appear in string2 when translating".toList
  if second.any SetPart.isKind then
    throw ("when translating, the only character classes that may appear in\n".toList ++
      "string2 are 'upper' and 'lower'".toList)
  let hasKind (s : CharSequence) : Bool := s.any fun p => p.isKind || p.isLetters
  let plain (items : List SetItem) : List SetItem := items.map fun i => { char := i.char }
  let target := if complement then plain target else target
  let fuel := source.length + target.length + 1
  match align fuel source target with
  | none => throw "misaligned [:upper:] and/or [:lower:] construct".toList
  | some (_, pairs) =>
      let sourceLength := source.length - 25 * pairs
      let targetLength := target.length - 25 * pairs
      let lacking := if truncates then 0 else sourceLength - targetLength
      let longer ← if lacking = 0 then pure target
        else if target.isEmpty then
          throw "when not truncating set1, string2 must be non-empty".toList
        else
          match lengthening second with
          | some c => pure (target ++ List.replicate lacking { char := c })
          | none =>
              throw ("when translating with string1 longer than string2,\n".toList ++
                "the latter string must not end with a character class".toList)
      let isUniform := longer.all fun i => some i.char == (longer.head?.map SetItem.char)
      if complement && hasKind first && !(longer.length = source.length && isUniform) then
        throw ("when translating with complemented character classes,\n".toList ++
          "string2 must map all characters in the domain to one".toList)
      match align (fuel + lacking) source longer with
      | some (rs, _) => pure rs
      | none => pure []

/-- Translates the characters of the input, leaves some out, or those that are repeated. -/
def tr : Utility := fun _ arguments => do
  let forms := [flag 'c' "complement", flag 'C' "", flag 'd' "delete",
    flag 's' "squeeze-repeats", flag 't' "truncate-set1"]
  let (given, operands) ← leadingOptions (flag 'A' "" :: forms) arguments 1
  let deletes := has given "delete"
  let squeezes := has given "squeeze-repeats"
  let complement := has given "complement" || has given "C"
  let least := if deletes == squeezes then 2 else 1
  let most := if deletes && !squeezes then 1 else 2
  if operands.length < least then
    match operands.getLast? with
    | none => misuse 1 "missing operand".toList
    | some last =>
        complain ("missing operand after ".toList ++ Text.inPlainQuotes last)
        err (if squeezes then
            "Two strings must be given when both deleting and squeezing repeats.\n".toList
          else "Two strings must be given when translating.\n".toList)
        seeHelp 1
  match operands[most]? with
  | none => pure ()
  | some extra =>
      complain ("extra operand ".toList ++ Text.inPlainQuotes extra)
      if operands.length = 2 then
        err "Only one string may be given when deleting without squeezing repeats.\n".toList
      seeHelp 1
  let mut sets : List CharSequence := []
  for operand in operands do
    let (written, told) := readSetEscapes (operand.length + 1) operand
    for t in told do
      complain t
    match CharSequence.readParts (written.length + 1) written with
    | .ok parts => sets := sets ++ [parts]
    | .error t => fail 1 t
  let first := sets.headD []
  let second := (sets.drop 1).headD []
  if first.any SetPart.isFilling then
    fail 1 "the [c*] repeat construct may not appear in string1".toList
  if 1 < (second.filter SetPart.isFilling).length then
    fail 1 "only one [c*] repeat construct may appear in string2".toList
  let members := first.members 0
  let isMember (c : Char) : Bool := members.contains c != complement
  let translates := !deletes && operands.length = 2
  if !translates && second.any SetPart.isFilling then
    fail 1 "the [c*] construct may appear in string2 only when translating".toList
  let rs ← if translates then
      match replacements complement (has given "truncate-set1") first second with
      | .ok rs => pure rs
      | .error t => fail 1 t
    else pure []
  let table := (SetPart.allBytes.map (replaced rs)).toArray
  let t ← match ← input with
    | .ok t => pure t
    | .error cause => fail 1 ("read error: ".toList ++ cause.wording)
  let kept := if deletes then t.filter fun c => !isMember c else t
  let translated := if translates then kept.map fun c => table.getD c.toNat c else kept
  let last := second.members (256 - second.fixedLength)
  out (if squeezes then
      squeezed (if operands.length = 2 then last.contains else isMember) translated
    else translated)
  return 0

end Utility

end Imprint
