import Imprint.Numeral

/-!
# Arithmetic of scripts

Expressions over whole numbers of 64 bits, which wrap around, and over variables
that may be assigned to.  An expression is read as a tree first; its value is
worked out in a state that holds the variables.
-/

namespace Imprint

namespace Script

/-- What is wrong with an expression, or in working out its value. -/
inductive ArithmeticError where
  | expecting (what : String)
  | divisionByZero
  | badNumber (t : Text)

inductive BinaryOperator where
  | times | divided | modulo | plus | minus | left | right
  | less | lessEqual | greater | greaterEqual | equal | unequal
  | bitAnd | bitXor | bitOr
deriving DecidableEq

namespace BinaryOperator

def rank : BinaryOperator → Nat
  | times | divided | modulo => 0
  | plus | minus => 1
  | left | right => 2
  | less | lessEqual | greater | greaterEqual => 3
  | equal | unequal => 4
  | bitAnd => 5
  | bitXor => 6
  | bitOr => 7

def ofSign? (t : Text) : Option BinaryOperator :=
  match String.ofList t with
  | "*" => some times
  | "/" => some divided
  | "%" => some modulo
  | "+" => some plus
  | "-" => some minus
  | "<<" => some left
  | ">>" => some right
  | "<" => some less
  | "<=" => some lessEqual
  | ">" => some greater
  | ">=" => some greaterEqual
  | "==" => some equal
  | "!=" => some unequal
  | "&" => some bitAnd
  | "^" => some bitXor
  | "|" => some bitOr
  | _ => none

end BinaryOperator

inductive UnaryOperator where
  | negative
  | logicalNot
  | bitNot
deriving DecidableEq

inductive Expression where
  | number (n : Int64)
  | parameter (name : Text)
  | unary (operator : UnaryOperator) (e : Expression)
  | binary (operator : BinaryOperator) (first second : Expression)
  | both (first second : Expression)
  | either (first second : Expression)
  | choice (condition first second : Expression)
  | assign (name : Text) (operator : Option BinaryOperator) (e : Expression)

inductive ArithmeticToken where
  | number (n : Int64)
  | name (t : Text)
  | sign (t : Text)
deriving DecidableEq

def clampedValue (base : Nat) (digits : Text) : Int64 :=
  let n := digits.foldl (fun n c => base * n + Text.hexDigitValue c) 0
  Int64.ofNat (min n (Nat.pow 2 63 - 1))

def readNumber (t : Text) : Int64 × Text :=
  let hexDigits := (t.drop 2).takeWhile Text.isHexDigit
  match t with
  | '0' :: x :: _ =>
      if (x == 'x' || x == 'X') && !hexDigits.isEmpty then
        (clampedValue 16 hexDigits, t.drop (2 + hexDigits.length))
      else
        let digits := t.takeWhile fun c => '0' ≤ c && c ≤ '7'
        (clampedValue 8 digits, t.drop digits.length)
  | _ =>
      let digits := t.takeWhile Char.isDigit
      (clampedValue 10 digits, t.drop digits.length)

def longSigns : List String :=
  ["<<=", ">>=", "<<", ">>", "<=", ">=", "==", "!=", "&&", "||", "*=", "/=", "%=", "+=", "-=", "&=",
    "^=", "|="]

def arithmeticTokens : (fuel : Nat) → Text → List ArithmeticToken
  | 0, _ => []
  | _ + 1, [] => []
  | fuel + 1, c :: rest =>
      if c = ' ' ∨ c = '\t' ∨ c = '\n' then
        arithmeticTokens fuel rest
      else if c.isDigit then
        let read := readNumber (c :: rest)
        .number read.1 :: arithmeticTokens fuel read.2
      else if c.isAlpha || c == '_' then
        let name := (c :: rest).takeWhile fun d => d.isAlphanum || d == '_'
        .name name :: arithmeticTokens fuel ((c :: rest).drop name.length)
      else
        match longSigns.find? fun s => (Text.after? s.toList (c :: rest)).isSome with
        | some s => .sign s.toList :: arithmeticTokens fuel ((c :: rest).drop s.length)
        | none => .sign [c] :: arithmeticTokens fuel rest

namespace Expression

abbrev Reader := List ArithmeticToken → Except ArithmeticError (Expression × List ArithmeticToken)

def primary (whole : Reader) : (fuel : Nat) → Reader
  | 0, _ => .error (.expecting "primary")
  | fuel + 1, ts =>
      let behind (operator : UnaryOperator) (rest : List ArithmeticToken) := do
        let (e, rest) ← primary whole fuel rest
        pure (.unary operator e, rest)
      match ts with
      | .number n :: rest => .ok (.number n, rest)
      | .name t :: rest => .ok (.parameter t, rest)
      | .sign ['('] :: rest => do
          let (e, rest) ← whole rest
          match rest with
          | .sign [')'] :: rest => pure (e, rest)
          | _ => throw (.expecting "')'")
      | .sign ['+'] :: rest => primary whole fuel rest
      | .sign ['-'] :: rest => behind .negative rest
      | .sign ['!'] :: rest => behind .logicalNot rest
      | .sign ['~'] :: rest => behind .bitNot rest
      | _ => .error (.expecting "primary")

def operatorBelow? (rank : Nat) : List ArithmeticToken → Option (BinaryOperator × List ArithmeticToken)
  | .sign t :: rest =>
      (BinaryOperator.ofSign? t).bind fun o => if o.rank < rank then some (o, rest) else none
  | _ => none

def binaries (operand : Reader) (rank : Nat) : (fuel : Nat) → Expression → Reader
  | 0, first, ts => .ok (first, ts)
  | fuel + 1, first, ts =>
      match operatorBelow? rank ts with
      | none => .ok (first, ts)
      | some (operator, rest) => do
          let (second, rest) ← operand rest
          let (second, rest) ← binaries operand operator.rank fuel second rest
          binaries operand rank fuel (.binary operator first second) rest

def joined (sign : Text) (join : Expression → Expression → Expression) (operand : Reader) :
    (fuel : Nat) → Reader
  | 0, _ => .error (.expecting "primary")
  | fuel + 1, ts => do
      let (first, rest) ← operand ts
      match rest with
      | .sign t :: others =>
          if t = sign then
            let (second, rest) ← joined sign join operand fuel others
            pure (join first second, rest)
          else
            pure (first, rest)
      | _ => pure (first, rest)

def conditional (whole : Reader) : (fuel : Nat) → Reader
  | 0, _ => .error (.expecting "primary")
  | fuel + 1, ts => do
      let operand : Reader := primary whole (fuel + 1)
      let product : Reader := fun ts => do
        let (first, rest) ← operand ts
        binaries operand 8 (fuel + 1) first rest
      let conjunction : Reader := joined ['&', '&'] .both product (fuel + 1)
      let (condition, rest) ← joined ['|', '|'] .either conjunction (fuel + 1) ts
      match rest with
      | .sign ['?'] :: rest => do
          let (first, rest) ← whole rest
          match rest with
          | .sign [':'] :: rest => do
              let (second, rest) ← conditional whole fuel rest
              pure (.choice condition first second, rest)
          | _ => throw (.expecting "':'")
      | _ => pure (condition, rest)

def assignment? (sign : Text) : Option (Option BinaryOperator) :=
  if sign = ['='] then some none
  else if sign.getLast? = some '=' ∧ !(["==", "!=", "<=", ">="].contains (String.ofList sign)) then
    (BinaryOperator.ofSign? sign.dropLast).map some
  else none

def whole : (fuel : Nat) → Reader
  | 0, _ => .error (.expecting "primary")
  | fuel + 1, ts =>
      match ts with
      | .name t :: .sign s :: rest =>
          match assignment? s with
          | some operator => do
              let (e, rest) ← whole fuel rest
              pure (.assign t operator e, rest)
          | none => conditional (whole fuel) (fuel + 1) ts
      | _ => conditional (whole fuel) (fuel + 1) ts

def read (t : Text) : Except ArithmeticError Expression := do
  let ts := arithmeticTokens (t.length + 1) t
  let (e, rest) ← whole (ts.length + 1) ts
  if rest.isEmpty then pure e else throw (.expecting "EOF")

def ofBool (b : Bool) : Int64 :=
  if b then 1 else 0

def apply (operator : BinaryOperator) (a b : Int64) : Except ArithmeticError Int64 :=
  match operator with
  | .times => .ok (a * b)
  | .divided => if b = 0 then .error .divisionByZero else .ok (a / b)
  | .modulo => if b = 0 then .error .divisionByZero else .ok (a % b)
  | .plus => .ok (a + b)
  | .minus => .ok (a - b)
  | .left => .ok (a <<< b)
  | .right => .ok (a >>> b)
  | .less => .ok (ofBool (a < b))
  | .lessEqual => .ok (ofBool (a ≤ b))
  | .greater => .ok (ofBool (b < a))
  | .greaterEqual => .ok (ofBool (b ≤ a))
  | .equal => .ok (ofBool (a == b))
  | .unequal => .ok (ofBool (a != b))
  | .bitAnd => .ok (a &&& b)
  | .bitXor => .ok (a ^^^ b)
  | .bitOr => .ok (a ||| b)

/-- The value of an expression in a state where `load` gives values of variables and
`store` changes them. -/
def value {m : Type → Type} [Monad m] (load : Text → m (Except ArithmeticError Int64))
    (store : Text → Int64 → m Unit) : Expression → ExceptT ArithmeticError m Int64
  | number n => pure n
  | parameter name => ExceptT.mk (load name)
  | unary operator e => do
      let a ← value load store e
      match operator with
      | .negative => pure (-a)
      | .logicalNot => pure (ofBool (a == 0))
      | .bitNot => pure (~~~a)
  | binary operator first second => do
      let a ← value load store first
      let b ← value load store second
      ExceptT.mk (pure (apply operator a b))
  | both first second => do
      let a ← value load store first
      if a = 0 then pure 0 else pure (ofBool ((← value load store second) != 0))
  | either first second => do
      let a ← value load store first
      if a ≠ 0 then pure 1 else pure (ofBool ((← value load store second) != 0))
  | choice condition first second => do
      let a ← value load store condition
      if a ≠ 0 then value load store first else value load store second
  | assign name operator e => do
      let b ← value load store e
      let b ← match operator with
        | none => pure b
        | some operator => do
            let a ← ExceptT.mk (load name)
            ExceptT.mk (pure (apply operator a b))
      ExceptT.lift (store name b)
      pure b

end Expression

end Script

end Imprint
