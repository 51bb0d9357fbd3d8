import Imprint.Regex.Reader
import Imprint.Text.Escape

/-!
# Patterns of rules

How regular expressions are written in rules: like extended ones, with escapes also between
brackets, and every operator has to have something to work on.
-/

namespace Imprint

namespace Utility

namespace Rules

namespace Pattern

inductive Fault where
  | noOperand
  | noClosing
  | badSet
  | badBounds
  | repeatedStart
deriving DecidableEq

def Fault.message : Fault → Text
  | .noOperand => "missing operand".toList
  | .noClosing => "missing ')'".toList
  | .badSet => "bad class -- [], [^] or [".toList
  | .badBounds => "bad interval expression".toList
  | .repeatedStart => "syntax error ^* or ^+".toList

def escaped (t : Text) : Char × Text :=
  match t with
  | [] => ('\\', [])
  | 'x' :: rest => (Text.hexEscape? rest).getD ('x', rest)
  | c :: rest =>
      if Text.isOctalDigit c then Text.octalEscape t
      else if c = 'e' then (c, rest)
      else ((Text.escapeLetter? c).getD c, rest)

def setChar? : Text → Option (Char × Text)
  | [] => none
  | '\\' :: rest => some (escaped rest)
  | c :: rest => some (c, rest)

/-- Reads the items between brackets up to the closing one, which may be the first item.  A
range that goes backwards is none. -/
def setItems : (fuel : Nat) → (isFirst : Bool) → Text → Option (List (Nat × Nat) × Text)
  | 0, _, _ => none
  | fuel + 1, isFirst, t => do
      let named := match t with
        | '[' :: ':' :: rest =>
            let name := rest.takeWhile Char.isAlpha
            (Text.after? ":]".toList (rest.drop name.length)).map fun behind => (name, behind)
        | _ => none
      match named, t with
      | some (name, rest), _ =>
          let ranges ← Regex.namedRanges? name
          let (others, rest) ← setItems fuel false rest
          some (ranges ++ others, rest)
      | none, ']' :: rest =>
          if isFirst then
            let (others, rest) ← setItems fuel false rest
            some ((']'.toNat, ']'.toNat) :: others, rest)
          else
            some ([], rest)
      | none, t =>
          let (low, rest) ← setChar? t
          let single : List (Nat × Nat) := [(low.toNat, low.toNat)]
          let range? : Option (Char × Text) := match rest with
            | '-' :: ']' :: _ => none
            | '-' :: rest => setChar? rest
            | _ => none
          match range? with
          | some (high, behind) =>
              if low ≤ high then
                let (others, rest) ← setItems fuel false behind
                some ((low.toNat, high.toNat) :: others, rest)
              else
                let (others, rest) ← setItems fuel false rest
                some (single ++ others, rest)
          | none =>
              let (others, rest) ← setItems fuel false rest
              some (single ++ others, rest)

def set? (t : Text) : Option (CharSet × Text) :=
  let (isNegated, t) := match t with
    | '^' :: rest => (true, rest)
    | t => (false, t)
  (setItems (t.length + 1) true t).map fun read => (⟨read.1, isNegated⟩, read.2)

def isOperand : Option Regex.Symbol → Bool
  | some (.atom _) | some .closing | some (.repetition ..) => true
  | _ => false

def symbols : (fuel depth : Nat) → (before : Option Regex.Symbol) → Text →
    Except Fault (List Regex.Symbol)
  | 0, _, _, _ => .ok []
  | _ + 1, depth, before, [] =>
      if 0 < depth then .error .noClosing
      else
        match before with
        | some .bar => .error .noOperand
        | _ => .ok []
  | fuel + 1, depth, before, c :: rest => do
      let goOn (s : Regex.Symbol) (depth : Nat) (rest : Text) : Except Fault (List Regex.Symbol) := do
        pure (s :: (← symbols fuel depth (some s) rest))
      let atom (set : CharSet) (rest : Text) := goOn (.atom (.one set)) depth rest
      let repeats (least : Nat) (most : Option Nat) (rest : Text) : Except Fault (List Regex.Symbol) :=
        match before with
        | some (.atom (.anchor .textStart)) =>
            if least = 0 ∧ most = some 1 then .error .noOperand else .error .repeatedStart
        | _ =>
            if isOperand before then goOn (.repetition least most true) depth rest
            else .error .noOperand
      match c with
      | '(' => goOn (.opening true) (depth + 1) rest
      | ')' =>
          if depth = 0 then atom (.single ')') rest
          else if isOperand before then goOn .closing (depth - 1) rest
          else throw .noOperand
      | '|' => if isOperand before then goOn .bar depth rest else throw .noOperand
      | '*' => repeats 0 none rest
      | '+' => repeats 1 none rest
      | '?' => repeats 0 (some 1) rest
      | '{' =>
          match if isOperand before then Regex.bounds? ['}'] rest else none with
          | some (least, most, rest) =>
              if most.any (· < least) then throw .badBounds
              goOn (.repetition least most true) depth rest
          | none => atom (.single '{') rest
      | '^' => goOn (.atom (.anchor .textStart)) depth rest
      | '$' => goOn (.atom (.anchor .textEnd)) depth rest
      | '.' => atom .all rest
      | '[' =>
          match set? rest with
          | some (set, rest) => atom set rest
          | none => throw .badSet
      | '\\' =>
          let (d, rest) := escaped rest
          atom (.single d) rest
      | c => atom (.single c) rest

def read (t : Text) : Except Fault Regex := do
  let ss ← symbols (t.length + 1) 0 none t
  match Regex.ofSymbols? false ss with
  | some r => pure r
  | none => throw .noOperand

end Pattern

end Rules

end Utility

end Imprint
