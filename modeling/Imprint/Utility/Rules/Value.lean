import Imprint.Utility.Rules.Number
import Imprint.Utility.Rules.Tree

/-!
# Values of rules

A value is a number, a text, or both where a text from outside looks like a number.  A format
puts values into a text.
-/

namespace Imprint

namespace Utility

namespace Rules

/-- A value; what was never set is nothing, which counts as zero and as the empty text. -/
inductive Value where
  | nothing
  | number (x : Float)
  | text (t : Text)
  | both (t : Text) (x : Float)

namespace Value

def ofInput (t : Text) : Value :=
  match Number.ofWhole? t with
  | some x => .both t x
  | none => .text t

def ofNat (n : Nat) : Value :=
  .number (Float.ofNat n)

def ofBool (b : Bool) : Value :=
  .number (if b then 1.0 else 0.0)

def toNumber : Value → Float
  | nothing => 0.0
  | number x => x
  | text t => Number.ofText t
  | both _ x => x

end Value

/-- What is wrong with a format: there are too few values, or one cannot be put in as the format
says. -/
inductive FormatFault where
  | lacksValue
  | badDirective (place : Nat)

namespace Layout

def whole (f : Format) (x : Float) : Text :=
  f.integer (Number.bounded x)

/-- A number as one without a sign; negative ones count down from the end of the range. -/
def unsigned (f : Format) (letter : Char) (x : Float) : Text :=
  let n := Number.bounded x
  f.natural letter (if n < 0 then (n + Nat.pow 2 64).toNat else n.toNat)

def fraction (f : Format) (letter : Char) (x : Float) : Text :=
  let (isNegative, m) := Number.split x
  f.fraction Number.bits letter isNegative m

def charOf (v : Value) : Text :=
  match v with
  | .nothing => []
  | .text t => [t.headD '\x00']
  | .number x | .both _ x => [Char.ofNat ((Number.bounded x) % 256).toNat]

def takeCount (t : Text) (values : List Value) : Option (Option Int × Text × List Value) :=
  match t, values with
  | '*' :: _, [] => none
  | '*' :: rest, v :: values => some (some (Number.bounded v.toNumber), rest, values)
  | t, values =>
      let digits := t.takeWhile Char.isDigit
      some (if digits.isEmpty then none else some (Text.decimalValue digits : Nat),
        t.drop digits.length, values)

/-- Puts values into a format, where `shown` tells their texts; what was put together before a
fault is given, too. -/
def fill (shown : Value → Text) : (fuel place : Nat) → Text → List Value → Text × Option FormatFault
  | 0, _, _, _ => ([], none)
  | _ + 1, _, [], _ => ([], none)
  | fuel + 1, place, '%' :: '%' :: rest, values =>
      let (t, fault) := fill shown fuel place rest values
      ('%' :: t, fault)
  | fuel + 1, place, '%' :: rest, values =>
      let flags := rest.takeWhile fun c => "-+ #0".toList.contains c
      match takeCount (rest.drop flags.length) values with
      | none => ([], some .lacksValue)
      | some (width?, t, values) =>
          let read : Option (Option Int × Text × List Value) := match t with
            | '.' :: t => (takeCount t values).map fun found => (some (found.1.getD 0), found.2)
            | t => some (none, t, values)
          match read with
          | none => ([], some .lacksValue)
          | some (precision?, t, values) =>
              let t := t.dropWhile fun c => "hlLqjzt".toList.contains c
              match values with
              | [] => ([], some .lacksValue)
              | v :: values =>
                  let width := width?.getD 0
                  let f : Format :=
                    { left := flags.contains '-' || width < 0
                      plus := flags.contains '+'
                      space := flags.contains ' '
                      alternate := flags.contains '#'
                      zeros := flags.contains '0'
                      width := width.natAbs
                      precision := precision?.bind fun n => if n < 0 then none else some n.toNat }
                  let goOn (put rest : Text) : Text × Option FormatFault :=
                    let (others, fault) := fill shown fuel (place + 1) rest values
                    (put ++ others, fault)
                  match t with
                  | [] => ([], some (.badDirective place))
                  | letter :: rest =>
                      if letter = 'c' then goOn (f.pad (charOf v)) rest
                      else if letter = 's' then goOn (f.text (shown v)) rest
                      else if letter = 'd' ∨ letter = 'i' then goOn (whole f v.toNumber) rest
                      else if "ouxX".toList.contains letter then
                        goOn (unsigned f letter v.toNumber) rest
                      else if "eEfFgG".toList.contains letter then
                        goOn (fraction f letter v.toNumber) rest
                      else
                        ([], some (.badDirective place))
  | fuel + 1, place, c :: rest, values =>
      let (t, fault) := fill shown fuel place rest values
      (c :: t, fault)

def numberText (format : Text) (x : Float) : Text :=
  match Number.wholeText? x with
  | some t => t
  | none => (fill (fun _ => fraction {} 'g' x) (format.length + 1) 1 format [.number x]).1

def valueText (format : Text) : Value → Text
  | .nothing => []
  | .number x => numberText format x
  | .text t | .both t _ => t

end Layout

/-- A table of values by texts.  Its order depends on how entries were looked for: by texts, the
latest first, or by numbers.  Numbers take part in the order of texts only once a text was looked
for. -/
structure Table where
  entries : List (Text × Value) := []
  byText : List Text := []
  byNumber : List (Int × Text) := []
  isMixed : Bool := false

namespace Table

def width : Nat := 64

def slot (t : Text) : Nat :=
  (t.foldl (fun h c => (h.xor c.toNat * 16777619) % Nat.pow 2 32) 2166136261) % width

def size (table : Table) : Nat :=
  table.entries.length

def mix (table : Table) : Table :=
  if table.isMixed then table
  else
    let inOrder := (List.range width).flatMap fun n =>
      (table.byNumber.filter fun p => (p.1 % (width : Int)).toNat == n).map Prod.snd
    { table with byText := inOrder.reverse ++ table.byText, isMixed := true }

def touch (table : Table) (key : Text) : Table :=
  match table.byText with
  | first :: _ => if first = key then table
      else { table with byText := key :: table.byText.filter (· ≠ key) }
  | [] => { table with byText := [key] }

def add (table : Table) (key : Text) : Table :=
  { table with entries := (key, .nothing) :: table.entries }

def numberKey (n : Int) : Text :=
  (if n < 0 then ['-'] else []) ++ Radix.decimal.numeral n.natAbs

def findText (table : Table) (creates : Bool) (key : Text) : Option Value × Table :=
  let table := table.mix
  match table.entries.lookup key with
  | some v => (some v, table.touch key)
  | none =>
      if creates then (some .nothing, (table.add key).touch key) else (none, table)

def findNumber (table : Table) (creates : Bool) (n : Int) : Option Value × Table :=
  let key := numberKey n
  let front (table : Table) : Table :=
    { table with byNumber := (n, key) :: table.byNumber.filter fun p => p.1 ≠ n }
  if table.byNumber.any fun p => p.1 == n then
    (table.entries.lookup key, front table)
  else if table.isMixed then
    let (v?, table) := table.findText creates key
    (v?, if v?.isSome then front table else table)
  else if creates then
    (some .nothing, front (table.add key))
  else
    (none, table)

def find (table : Table) (numbers : Text) (creates : Bool) (index : Value) :
    Option Value × Table × Text :=
  let byText (t : Text) : Option Value × Table × Text :=
    let (v?, table) := table.findText creates t
    (v?, table, t)
  match index with
  | .number x =>
      match Number.whole? x with
      | some n =>
          if Number.ofInt n == x && n.natAbs < Nat.pow 2 53 then
            let (v?, table) := table.findNumber creates n
            (v?, table, numberKey n)
          else
            byText (Layout.numberText numbers x)
      | none => byText (Layout.numberText numbers x)
  | v => byText (Layout.valueText numbers v)

def put (table : Table) (key : Text) (v : Value) : Table :=
  { table with
    entries := table.entries.map fun e => if e.1 = key then (key, v) else e }

def erase (table : Table) (key : Text) : Table :=
  let entries := table.entries.filter fun e => e.1 ≠ key
  if entries.isEmpty then {}
  else
    { table with
      entries := entries
      byText := table.byText.filter (· ≠ key)
      byNumber := table.byNumber.filter fun p => p.2 ≠ key }

def keys (table : Table) : List Text × Table :=
  let table := table.mix
  ((List.range width).flatMap fun n => table.byText.filter fun t => slot t == n, table)

def ofList (vs : List Value) : Table :=
  let numbered := vs.zipIdx.map fun p => (p.1, (p.2 + 1 : Int))
  { entries := numbered.map fun p => (numberKey p.2, p.1)
    byNumber := (numbered.map fun p => (p.2, numberKey p.2)).reverse }

end Table

end Rules

end Utility

end Imprint
