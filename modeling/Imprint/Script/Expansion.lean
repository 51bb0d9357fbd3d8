import Imprint.Script.Arithmetic
import Imprint.Script.Field
import Imprint.Script.Shell

/-!
# Expansion of words

A word becomes text by expansion: parameters give their values, nested scripts
their outputs, and expressions their numbers.  Arguments are parted into fields
after that, and patterns among them become the paths that fit.
-/

namespace Imprint

namespace Script

/-- How a word is expanded: whether it is parted into fields, also at characters that
stand in it, and whether a tilde may be a home directory. -/
structure Manner where
  parts : Bool := false
  plainParts : Bool := false
  tilde : Bool := false
  colons : Bool := false

def int64Text (n : Int64) : Text :=
  if n < 0 then '-' :: Run.numeral n.toInt.natAbs else Run.numeral n.toInt.natAbs

def readInteger? (t : Text) : Option Int64 :=
  let t := t.dropWhile Char.isWhitespace
  let (isNegative, digits) := match t with
    | '-' :: rest => (true, rest)
    | '+' :: rest => (false, rest)
    | rest => (false, rest)
  if t.all Char.isWhitespace then some 0
  else
    match digits with
    | c :: _ =>
        if c.isDigit then
          let (n, rest) := readNumber digits
          if rest.all Char.isWhitespace then some (if isNegative then -n else n) else none
        else
          none
    | [] => none

namespace Expand

def separators : Run Text :=
  return (← Run.valueOf? "IFS".toList).getD Field.usualSeparators

def joint : Run Text := do
  match ← Run.valueOf? "IFS".toList with
  | none => return [' ']
  | some t => return t.take 1

def single? (name : Text) : Run (Option Text) := do
  let s ← get
  match name with
  | ['$'] => return some (Run.numeral s.number)
  | ['?'] => return some (Run.numeral s.status)
  | ['#'] => return some (Run.numeral s.arguments.length)
  | ['!'] => return s.lastChild.map Run.numeral
  | ['-'] => return some ("pubaCEVvxsnmiIfe".toList.filter fun c => s.options.contains c)
  | ['0'] => return some s.name
  | _ =>
      match Text.natural? name with
      | some 0 => return some s.name
      | some n => return s.arguments[n - 1]?
      | none => Run.valueOf? name

def inksOf (m : Manner) (isQuoted : Bool) (t : Text) : List Ink :=
  t.map fun c => .glyph { char := c, isQuoted := isQuoted, parts := m.parts && !isQuoted }

def value? (m : Manner) (name : Text) (isQuoted : Bool) : Run (Option (List Ink)) := do
  if name = ['@'] ∨ name = ['*'] then
    let arguments := (← get).arguments
    if m.parts && isQuoted && name == ['@'] then
      let each := arguments.map fun a => Ink.mark :: inksOf m true a
      return some (List.intercalate [.border] each)
    else
      let joint ← if m.parts && !isQuoted then pure ['\x00'] else joint
      return some (List.intercalate (inksOf m isQuoted joint) (arguments.map (inksOf m isQuoted)))
  else
    return (← single? name).map (inksOf m isQuoted)

def load (name : Text) : Run (Except ArithmeticError Int64) := do
  match ← Run.valueOf? name with
  | none => return .ok 0
  | some t =>
      match readInteger? t with
      | some n => return .ok n
      | none => return .error (.badNumber t)

def arithmetic (t : Text) : Run Int64 := do
  let refuse (e : ArithmeticError) : Run Int64 :=
    let about (what : Text) : Run Int64 :=
      Run.fail ("arithmetic expression: ".toList ++ what ++ ": \"".toList ++ t ++ ['"'])
    match e with
    | .expecting what => about ("expecting ".toList ++ what.toList)
    | .divisionByZero => about "division by zero".toList
    | .badNumber t => Run.fail ("Illegal number: ".toList ++ t)
  match Expression.read t with
  | .error e => refuse e
  | .ok e =>
      let result ← (e.value load fun name n => Run.assign name (int64Text n) false).run
      match result with
      | .ok n => return n
      | .error e => refuse e

def home? (user : Text) : Run (Option Text) := do
  if user = [] then Run.valueOf? "HOME".toList
  else if user = "root".toList then return some "/root".toList
  else return none

def tildePart (m : Manner) (isLast : Bool) (t : Text) : Run Word := do
  match t with
  | '~' :: rest =>
      let user := rest.takeWhile fun c => c != '/' && !(m.colons && c == ':')
      let behind := rest.drop user.length
      if behind.isEmpty && !isLast then
        return [.plain t]
      match ← home? user with
      | some dir => return [.quoted dir, .plain behind]
      | none => return [.plain t]
  | _ => return [.plain t]

def colonTildes (m : Manner) (isLast : Bool) (t : Text) : Run Word := do
  match cutAt ':' t with
  | [] => return [.plain t]
  | first :: others =>
      let mut parts : Word := [.plain first]
      for piece in others do
        parts := parts ++ .plain [':'] :: (← tildePart m isLast piece)
      return parts

def tildes (m : Manner) (w : Word) : Run Word := do
  if !m.tilde then
    return w
  match w with
  | .plain ('~' :: t) :: rest => return (← tildePart m rest.isEmpty ('~' :: t)) ++ rest
  | .plain t :: rest =>
      if m.colons && t.contains '~' then
        return (← colonTildes m rest.isEmpty t) ++ rest
      else
        return w
  | _ => return w

section Parts

-- What runs a nested script and gives its output.
variable (output : Command → Run Text)

def parameter (word : Manner → Word → Run (List Ink)) (m : Manner) (name : Text)
    (operator : Operator) (w : Word) (isQuoted : Bool) : Run (List Ink) := do
  let inner : Manner := { m with plainParts := m.parts && !isQuoted, tilde := !isQuoted }
  let plain : Manner := { tilde := true }
  let refuseUnset : Run Unit := do
    if (← Run.hasOption 'u') then
      Run.fail (name ++ ": parameter not set".toList)
  let value ← value? m name isQuoted
  let isNull (nullToo : Bool) : Bool :=
    match value with
    | none => true
    | some inks => nullToo && (Ink.glyphs inks).isEmpty
  match operator with
  | .unknown => Run.fail "Bad substitution".toList
  | .value =>
      if value.isNone then
        refuseUnset
      return value.getD []
  | .length =>
      if value.isNone then
        refuseUnset
      return inksOf m isQuoted (Run.numeral (Ink.glyphs (value.getD [])).length)
  | .orElse nullToo => if isNull nullToo then word inner w else return value.getD []
  | .ifSet nullToo => if isNull nullToo then return [] else word inner w
  | .orAssign nullToo =>
      if isNull nullToo then
        let t := textOf (Ink.glyphs (← word plain w))
        if !isName name then
          Run.fail (name ++ ": bad variable name".toList)
        Run.assign name t false
        return (← value? m name isQuoted).getD []
      else
        return value.getD []
  | .orFail nullToo =>
      if isNull nullToo then
        let t := textOf (Ink.glyphs (← word plain w))
        let usual := "parameter not set".toList ++ if nullToo then " or null".toList else []
        Run.fail (name ++ ": ".toList ++ if w.isEmpty then usual else t)
      else
        return value.getD []
  | .trim fromEnd longest =>
      match value with
      | none =>
          refuseUnset
          return []
      | some inks =>
          let pattern := Pattern.read (Ink.glyphs (← word plain w))
          let kept := Ink.ofGlyphs (pattern.trim fromEnd longest (Ink.glyphs inks))
          return if name = ['@'] ∧ isQuoted then .mark :: kept else kept

def part (word : Manner → Word → Run (List Ink)) (m : Manner) : Part → Run (List Ink)
  | .plain t => return t.map fun c => .glyph { char := c, parts := m.plainParts }
  | .quoted [] => return [.mark]
  | .quoted t => return t.map fun c => .glyph { char := c, isQuoted := true }
  | .parameter name operator w isQuoted => parameter word m name operator w isQuoted
  | .output body isQuoted => return inksOf m isQuoted (← output body)
  | .arithmetic e isQuoted => do
      let t := textOf (Ink.glyphs (← word {} e))
      return inksOf m isQuoted (int64Text (← arithmetic t))

def inks : (depth : Nat) → Manner → Word → Run (List Ink)
  | 0, _, _ => return []
  | depth + 1, m, w => do
      let parts ← (← tildes m w).mapM (part output (inks depth) m)
      return parts.flatten

def maxDepth : Nat := 1000

def glyphs (w : Word) : Run (List Glyph) :=
  return Ink.glyphs (← inks output maxDepth { tilde := true } w)

def text (m : Manner) (w : Word) : Run Text :=
  return textOf (Ink.glyphs (← inks output maxDepth m w))

/-- Expands a word to fields; patterns among them become the paths that fit, if some do. -/
def fields (w : Word) : Run (List Text) := do
  let inks ← inks output maxDepth { parts := true, tilde := true } w
  let fields := Field.ofInks (← separators) inks
  let isLiteral ← Run.hasOption 'f'
  let store := (← get).files.store
  return fields.flatMap fun gs =>
    if !isLiteral && Pattern.hasSigns gs then
      match Pattern.find store gs with
      | [] => [textOf gs]
      | paths => paths
    else
      [textOf gs]

def allFields (ws : List Word) : Run (List Text) :=
  return (← ws.mapM (fields output)).flatten

end Parts

end Expand

end Script

end Imprint
