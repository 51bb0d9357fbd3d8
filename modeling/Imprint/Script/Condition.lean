import Imprint.Process.Task

/-!
# Conditions

A condition is a list of operands and operators, which compares texts or numbers
or looks at files.  It is read from left to right; conjunctions bind more tightly
than disjunctions.
-/

namespace Imprint

namespace Script

namespace Condition

/-- What is wrong with a condition: an operator or operand that should not stand there, an
operator without its operand, a parenthesis that is not closed, or a number that is none. -/
inductive Wrong where
  | unexpected (before : Text) (rest : List Text)
  | lonely (operator : Text)
  | unclosed
  | badNumber (t : Text)

/-- What a condition is asked of: the files, what is always there, when something was changed,
and whether what is not there counts as older than everything. -/
structure Context where
  store : Store
  fixture : Text → Except Cause Fixture
  changedAt? : Text → Option Int
  missingIsOld : Bool

inductive Kind where
  | unary
  | binary
  | joining
  | negation
  | opening
  | closing
deriving DecidableEq

def kind? (t : Text) : Option Kind :=
  let s := String.ofList t
  if ["-r", "-w", "-x", "-e", "-f", "-d", "-c", "-b", "-p", "-u", "-g", "-k", "-s", "-t", "-z", "-n",
      "-h", "-O", "-G", "-L", "-S"].contains s then some .unary
  else if ["=", "!=", "<", ">", "-eq", "-ne", "-ge", "-gt", "-le", "-lt", "-nt", "-ot",
      "-ef"].contains s then some .binary
  else if s = "-a" ∨ s = "-o" then some .joining
  else if s = "!" then some .negation
  else if s = "(" then some .opening
  else if s = ")" then some .closing
  else none

/-- Whether a unary operator at the front is an operand itself: it has no operand, or it
stands before an operator on two. -/
def isOperand (ts : List Text) : Bool :=
  match ts with
  | _ :: next :: _ :: _ => kind? next == some .binary
  | _ :: _ :: [] => false
  | _ => true

def operator? (ts : List Text) : Option Kind :=
  match ts with
  | [] => none
  | t :: rest =>
      match kind? t with
      | some .unary => if isOperand ts then none else some .unary
      | some .opening => if rest.isEmpty then none else some .opening
      | k => k

def number (t : Text) : Except Wrong Int :=
  let body := (t.dropWhile Char.isWhitespace).reverse.dropWhile Char.isWhitespace |>.reverse
  let (isNegative, digits) := match body with
    | '-' :: rest => (true, rest)
    | '+' :: rest => (false, rest)
    | rest => (false, rest)
  if digits.isEmpty || !digits.all Char.isDigit then .error (.badNumber t)
  else
    let n : Int := (Text.decimalValue digits : Nat)
    .ok (if isNegative then -n else n)

/-- The entry that a path leads to; the null device counts as neither file nor directory. -/
def standing? (c : Context) (path : Text) : Option Entry :=
  match c.store.entry (Path.ofBytes path) with
  | .ok e => some e
  | .error _ =>
      match c.fixture path with
      | .ok .directory => some .directory
      | .ok (.program _) => some (.file [1] true)
      | .error _ => none

def isDevice (path : Text) : Bool :=
  Device.isCharacterDevice path || (OpenFiles.descriptorOf? path).isSome

def unary (c : Context) (operator operand : Text) : Except Wrong Bool :=
  let entry := standing? c operand
  let isThere := entry.isSome || isDevice operand
  match String.ofList operator with
  | "-n" => .ok (!operand.isEmpty)
  | "-z" => .ok operand.isEmpty
  | "-t" => (number operand).map fun _ => false
  | "-e" | "-r" | "-w" | "-O" | "-G" => .ok isThere
  | "-f" => .ok (match entry with | some (.file ..) => true | _ => false)
  | "-d" => .ok (match entry with | some .directory => true | _ => false)
  | "-s" => .ok (match entry with | some (.file contents _) => !contents.isEmpty | some _ => true | none => false)
  | "-x" => .ok (match entry with | some (.file _ x) => x | some _ => true | none => false)
  | "-c" => .ok (Device.isCharacterDevice operand)
  | "-p" => .ok (isDevice operand && !Device.isCharacterDevice operand && operand != "/dev/stdin".toList)
  | "-h" | "-L" =>
      .ok (match c.store.locate .kept (Path.ofBytes operand) with
        | .ok (.found location) =>
            match c.store.at? location with
            | some (.link _) => true
            | _ => false
        | _ => false)
  | _ => .ok false

def isNewer (c : Context) (first second : Text) : Bool :=
  match c.changedAt? first, c.changedAt? second with
  | some a, some b => b < a
  | _, _ => c.missingIsOld && (standing? c first).isSome && (standing? c second).isNone

def binary (c : Context) (first operator second : Text) : Except Wrong Bool := do
  let compare (relation : Int → Int → Bool) : Except Wrong Bool := do
    let a ← number first
    let b ← number second
    pure (relation a b)
  match String.ofList operator with
  | "=" => pure (first == second)
  | "!=" => pure (first != second)
  | "<" => pure (decide (first < second))
  | ">" => pure (decide (second < first))
  | "-eq" => compare (· == ·)
  | "-ne" => compare (· != ·)
  | "-lt" => compare fun a b => decide (a < b)
  | "-le" => compare fun a b => decide (a ≤ b)
  | "-gt" => compare fun a b => decide (b < a)
  | "-ge" => compare fun a b => decide (b ≤ a)
  | "-nt" => pure (isNewer c first second)
  | "-ot" => pure (isNewer c second first)
  | "-ef" => pure (c.store.leadToOne (Path.ofBytes first) (Path.ofBytes second))
  | _ => pure false

abbrev Reader := List Text → Except Wrong (Bool × List Text)

/-- The truth of what begins at the front without a negation, where `whole` reads what
stands in parentheses. -/
def primary (c : Context) (whole : Reader) : Reader := fun ts =>
  match ts with
  | [] => .ok (false, [])
  | t :: rest =>
      match operator? ts with
      | some .opening =>
          if operator? rest = some .closing then
            .ok (false, rest.drop 1)
          else do
            let (truth, rest) ← whole rest
            match rest with
            | [')'] :: rest => pure (truth, rest)
            | _ => throw .unclosed
      | some .unary =>
          match rest with
          | [] => .error (.lonely t)
          | operand :: rest => (unary c t operand).map fun truth => (truth, rest)
      | _ =>
          match rest with
          | o :: rest' =>
              if operator? rest = some .binary then
                match rest' with
                | [] => .error (.lonely o)
                | second :: behind => (binary c t o second).map fun truth => (truth, behind)
              else
                .ok (!t.isEmpty, rest)
          | [] => .ok (!t.isEmpty, [])

def negated (c : Context) (whole : Reader) : (fuel : Nat) → Reader
  | 0, ts => .ok (false, ts)
  | fuel + 1, ts =>
      match operator? ts with
      | some .negation =>
          match ts.drop 1 with
          | [] => .ok (true, [])
          | rest => (negated c whole fuel rest).map fun read => (!read.1, read.2)
      | _ => primary c whole ts

def joined (operator : Text) (join : Bool → Bool → Bool) (reader : Reader) : (fuel : Nat) → Reader
  | 0, ts => .ok (false, ts)
  | fuel + 1, ts => do
      let (first, rest) ← reader ts
      match rest with
      | o :: others =>
          if o = operator then
            let (second, rest) ← joined operator join reader fuel others
            pure (join first second, rest)
          else
            pure (first, rest)
      | [] => pure (first, rest)

def whole (c : Context) : (fuel : Nat) → Reader
  | 0, ts => .ok (false, ts)
  | fuel + 1, ts =>
      let conjunction := joined ['-', 'a'] and (negated c (whole c fuel) (fuel + 1)) (fuel + 1)
      joined ['-', 'o'] or conjunction (fuel + 1) ts

/-- The truth of a condition.  One of three or four words may be a comparison, a
condition in parentheses or a negation before it is anything else. -/
def truth (c : Context) : (fuel : Nat) → List Text → Except Wrong Bool
  | 0, _ => .ok false
  | fuel + 1, ts =>
      let general : Except Wrong Bool := do
        let (truth, rest) ← whole c (ts.length + 1) ts
        if rest.isEmpty then pure truth
        else throw (.unexpected ((ts.drop (ts.length - rest.length - 1)).headD []) rest)
      let inner (ts : List Text) : Except Wrong Bool :=
        match ts with
        | ['('] :: rest =>
            if rest.getLast? = some [')'] then truth c fuel rest.dropLast else general
        | ['!'] :: rest => (truth c fuel rest).map (!·)
        | _ => general
      match ts with
      | [] => .ok false
      | [first, o, second] =>
          if kind? o = some .binary then binary c first o second else inner ts
      | [_, _, _, _] => inner ts
      | _ => general

end Condition

end Script

end Imprint
