import Imprint.Regex.Reader
import Imprint.Utility.Options

/-!
# Formulas in arguments

The utility that works out a formula whose operands and operators are arguments of
their own.  A value is a text, which counts as a number where it looks like one.
-/

namespace Imprint

namespace Utility

namespace Formula

/-- A reader of formulas gives the value of what stands at the front, and the arguments
behind it, or what is wrong.  Where `counts` does not hold, the value is not used. -/
abbrev Reader := (counts : Bool) → List Text → Except Text (Text × List Text)

def integer? (t : Text) : Option Int :=
  match t with
  | '-' :: digits =>
      if !digits.isEmpty && digits.all Char.isDigit then some (-(Text.decimalValue digits : Int))
      else none
  | digits =>
      if !digits.isEmpty && digits.all Char.isDigit then some (Text.decimalValue digits) else none

def ofInteger (n : Int) : Text :=
  if n < 0 then '-' :: Radix.decimal.numeral n.natAbs else Radix.decimal.numeral n.natAbs

def ofBool (b : Bool) : Text :=
  if b then ['1'] else ['0']

def isFalse (t : Text) : Bool :=
  t.isEmpty || integer? t == some 0

def missingAfter (arguments rest : List Text) : Text :=
  let last := ((arguments.take (arguments.length - rest.length)).getLast?).getD []
  "syntax error: missing argument after ".toList ++ Text.inPlainQuotes last

def fit (t pattern : Text) : Except Text Text :=
  match Regex.read? { dialect := .basic } pattern with
  | none => .error (Regex.fault .basic pattern)
  | some r =>
      let input := t.toArray
      let found := r.longestAt input 0
      if r.groupCount = 0 then
        .ok (ofInteger ((found.map Prod.fst).getD 0))
      else
        match found.bind fun m => m.2.find? fun c => c.1 = 1 with
        | some c => .ok (Regex.slice input c.2.1 c.2.2)
        | none => .ok []

def relation? (operator : Text) : Option (Ordering → Bool) :=
  match String.ofList operator with
  | "<" => some (· == .lt)
  | "<=" => some (· != .gt)
  | "=" | "==" => some (· == .eq)
  | "!=" => some (· != .eq)
  | ">=" => some (· != .lt)
  | ">" => some (· == .gt)
  | _ => none

def order (a b : Text) : Ordering :=
  match integer? a, integer? b with
  | some m, some n => compare m n
  | _, _ => if a = b then .eq else if a < b then .lt else .gt

def calculate (operator : Text) (a b : Text) : Except Text Text :=
  match integer? a, integer? b with
  | some m, some n =>
      match operator with
      | ['+'] => .ok (ofInteger (m + n))
      | ['-'] => .ok (ofInteger (m - n))
      | ['*'] => .ok (ofInteger (m * n))
      | _ =>
          if n = 0 then .error "division by zero".toList
          else .ok (ofInteger (if operator = ['/'] then m.tdiv n else m.tmod n))
  | _, _ => .error "non-integer argument".toList

section

variable (arguments : List Text) (whole : Reader)

def atom : Reader := fun counts ts =>
  match ts with
  | [] => .error (missingAfter arguments [])
  | ['('] :: rest => do
      let (value, rest) ← whole counts rest
      match rest with
      | [')'] :: rest => pure (value, rest)
      | _ :: _ | [] =>
          throw ("syntax error: expecting ')' after ".toList ++ Text.inPlainQuotes
            (((arguments.take (arguments.length - rest.length)).getLast?).getD []))
  | [')'] :: _ => .error "syntax error: unexpected ')'".toList
  | t :: rest => .ok (t, rest)

def called : (fuel : Nat) → Reader
  | 0 => atom arguments whole
  | fuel + 1 => fun counts ts =>
      match ts with
      | name :: rest =>
          match String.ofList name with
          | "+" =>
              match rest with
              | [] => .error (missingAfter arguments [])
              | t :: rest => .ok (t, rest)
          | "length" => do
              let (t, rest) ← called fuel counts rest
              pure (ofInteger t.length, rest)
          | "match" => do
              let (t, rest) ← called fuel counts rest
              let (p, rest) ← called fuel counts rest
              let value ← if counts then fit t p else pure []
              pure (value, rest)
          | "index" => do
              let (t, rest) ← called fuel counts rest
              let (set, rest) ← called fuel counts rest
              let place : Nat := ((t.findIdx? set.contains).map (· + 1)).getD 0
              pure (ofInteger place, rest)
          | "substr" => do
              let (t, rest) ← called fuel counts rest
              let (first, rest) ← called fuel counts rest
              let (count, rest) ← called fuel counts rest
              let value : Text := match integer? first, integer? count with
                | some m, some n => if 0 < m then (t.drop (m.toNat - 1)).take n.toNat else []
                | _, _ => []
              pure (value, rest)
          | _ => atom arguments whole counts ts
      | [] => atom arguments whole counts ts

def joined (operand : Reader) (isOperator : Text → Bool)
    (apply : Text → Text → Text → Except Text Text) : Reader := fun counts ts => do
  let first ← operand counts ts
  let rec go : (fuel : Nat) → Text × List Text → Except Text (Text × List Text)
    | 0, read => .ok read
    | fuel + 1, (value, rest) =>
        match rest with
        | o :: rest' =>
            if isOperator o then do
              let (second, rest) ← operand counts rest'
              let value ← if counts then apply o value second else pure []
              go fuel (value, rest)
            else
              .ok (value, rest)
        | [] => .ok (value, [])
  go ts.length first

/-- Reads operands joined by a sign, where the later ones count only if the earlier ones
leave it open. -/
def chosen (operand : Reader) (sign : Text) (isOpen : Text → Bool)
    (choose : Text → Text → Text) : Reader := fun counts ts => do
  let first ← operand counts ts
  let rec go : (fuel : Nat) → Text × List Text → Except Text (Text × List Text)
    | 0, read => .ok read
    | fuel + 1, (value, rest) =>
        match rest with
        | o :: rest' =>
            if o = sign then do
              let (second, rest) ← operand (counts && isOpen value) rest'
              go fuel (choose value second, rest)
            else
              .ok (value, rest)
        | [] => .ok (value, [])
  go ts.length first

def formula : Reader :=
  let fitting := joined (called arguments whole arguments.length) (· == [':']) fun _ a b => fit a b
  let products := joined fitting (fun o => o == ['*'] || o == ['/'] || o == ['%']) calculate
  let sums := joined products (fun o => o == ['+'] || o == ['-']) calculate
  let comparisons := joined sums (fun o => (relation? o).isSome) fun o a b =>
    .ok (ofBool ((relation? o).any fun r => r (order a b)))
  let conjunctions := chosen comparisons ['&'] (fun t => !isFalse t) fun a b =>
    if isFalse a || isFalse b then ['0'] else a
  chosen conjunctions ['|'] isFalse fun a b =>
    if isFalse a then (if isFalse b then ['0'] else b) else a

end

def reader (arguments : List Text) : (depth : Nat) → Reader
  | 0 => fun _ ts => .ok ([], ts)
  | depth + 1 => formula arguments (reader arguments depth)

end Formula

def expr : Utility := fun _ arguments => do
  let arguments := match arguments with
    | ['-', '-'] :: rest => rest
    | arguments => arguments
  if arguments.isEmpty then
    misuse 2 "missing operand".toList
  match Formula.reader arguments (arguments.length + 1) true arguments with
  | .error t => Task.fail 2 t
  | .ok (_, extra :: _) =>
      Task.fail 2 ("syntax error: unexpected argument ".toList ++ Text.inPlainQuotes extra)
  | .ok (value, []) =>
      Task.out (value ++ ['\n'])
      return if Formula.isFalse value then 1 else 0

end Utility

end Imprint
