import Imprint.Text.Escape
import Imprint.Text.Quotation

/-!
# Printing by formats

Arguments are put into a format in place of its directives.  The format is gone
through again as long as arguments are left.
-/

namespace Imprint

/-- How a format is understood: to how many bits fractions are kept, what escapes in it do
and in arguments, which directives there are, and the wording of what is wrong. -/
structure PrintingStyle where
  bits : Nat
  escape : Text → Text.Escaped
  argumentEscape : Text → Text.Escaped
  skipsSizes : Bool := false
  allows : (flags : Text) → (hasPrecision : Bool) → (letter : Char) → Bool
  shown : Text → Text := id
  takesEmpty : Bool := false
  takesBareQuote : Bool := false
  warnsOfQuoted : Bool := false
  notNumeric : Text
  notWhole : Text
  invalid : Text
  missing : Text → Text

/-- What a format has printed so far: the arguments left, and what was wrong with some. -/
structure Printing where
  arguments : List Text
  out : List Text := []
  complaints : List Text := []
  hasFailed : Bool := false
  stopped : Bool := false
  failure : Option Text := none

namespace Printing

def emit (p : Printing) (t : Text) : Printing :=
  { p with out := t :: p.out }

def next (p : Printing) : Option Text × Printing :=
  match p.arguments with
  | [] => (none, p)
  | a :: rest => (some a, { p with arguments := rest })

def complain (p : Printing) (t : Text) : Printing :=
  { p with complaints := t :: p.complaints, hasFailed := true }

def warn (p : Printing) (t : Text) : Printing :=
  { p with complaints := t :: p.complaints }

def fail (p : Printing) (t : Text) : Printing :=
  { p with stopped := true, failure := some t }

/-- The whole number at the front of an argument, and the rest: hexadecimal behind `0x` and
octal behind `0`. -/
def readWhole (t : Text) : Option (Bool × Nat × Text) :=
  let body := t.dropWhile Char.isWhitespace
  let (isNegative, digits) := match body with
    | '-' :: rest => (true, rest)
    | '+' :: rest => (false, rest)
    | rest => (false, rest)
  let hex := (digits.drop 2).takeWhile Text.isHexDigit
  match digits with
  | '0' :: x :: _ =>
      if (x == 'x' || x == 'X') && !hex.isEmpty then
        some (isNegative, Text.hexValue hex, digits.drop (2 + hex.length))
      else
        let octals := digits.takeWhile Text.isOctalDigit
        some (isNegative, Text.octalValue octals, digits.drop octals.length)
  | c :: _ =>
      if c.isDigit then
        let decimals := digits.takeWhile Char.isDigit
        some (isNegative, Text.decimalValue decimals, digits.drop decimals.length)
      else
        none
  | [] => none

section

variable (style : PrintingStyle)

def checked (p : Printing) (argument rest : Text) : Printing :=
  if rest.isEmpty then p else p.complain (style.shown argument ++ style.notWhole)

def refused (p : Printing) (argument : Text) : Printing :=
  if argument.isEmpty && style.takesEmpty then p
  else p.complain (style.shown argument ++ style.notNumeric)

def quotedValue? (a : Text) : Option Nat :=
  match a with
  | ['"'] | ['\''] => if style.takesBareQuote then some 0 else none
  | '"' :: c :: _ => some c.toNat
  | '\'' :: c :: _ => some c.toNat
  | _ => none

def afterQuoted (p : Printing) (a : Text) : Printing :=
  let rest := a.drop 2
  if rest.isEmpty || !style.warnsOfQuoted then p
  else
    p.warn ("warning: ".toList ++ rest ++
      ": character(s) following character constant have been ignored".toList)

def nextInteger (p : Printing) (isSigned : Bool) : Int × Printing :=
  match p.next with
  | (none, p) => (0, p)
  | (some a, p) =>
      match quotedValue? style a, readWhole a with
      | some n, _ => (n, p.afterQuoted style a)
      | none, none => (0, p.refused style a)
      | none, some (isNegative, n, rest) =>
          let high : Nat := if isSigned then Nat.pow 2 63 - 1 else Nat.pow 2 64 - 1
          let low : Nat := if isSigned then Nat.pow 2 63 else Nat.pow 2 64 - 1
          let isOut := decide ((if isNegative then low else high) < n)
          let value : Int :=
            if isOut then (if isNegative && isSigned then -(low : Int) else high)
            else if isNegative then (if isSigned then -(n : Int) else ((Nat.pow 2 64 - n) % Nat.pow 2 64 : Nat))
            else n
          (value, if isOut && rest.isEmpty then
            p.complain (style.shown a ++ ": Numerical result out of range".toList)
          else p.checked style a rest)

def nextFraction (p : Printing) : Bool × Magnitude × Printing :=
  match p.next with
  | (none, p) => (false, .finite 0 0, p)
  | (some a, p) =>
      match quotedValue? style a, readFraction? style.bits (a.dropWhile Char.isWhitespace) with
      | some n, _ => (false, .finite n 0, p.afterQuoted style a)
      | none, none => (false, .finite 0 0, p.refused style a)
      | none, some (isNegative, m, rest) => (isNegative, m, p.checked style a rest)

def nextCount (p : Printing) (t : Text) : Option Int × Text × Printing :=
  match t with
  | '*' :: rest =>
      let (n, p) := p.nextInteger style true
      (some n, rest, p)
  | _ =>
      let digits := t.takeWhile Char.isDigit
      (if digits.isEmpty then none else some (Text.decimalValue digits : Nat), t.drop digits.length, p)

def convert (p : Printing) (f : Format) (letter : Char) : Printing :=
  match letter with
  | 's' => let (a, p) := p.next; p.emit (f.text (a.getD []))
  | 'b' =>
      let (a, p) := p.next
      let a := a.getD []
      let (t, stopped, failure) := Text.unescape style.argumentEscape (a.length + 1) a
      { p.emit (f.text t) with stopped := stopped, failure := failure }
  | 'q' => let (a, p) := p.next; p.emit (Text.asShellWord (a.getD []))
  | 'c' =>
      let (a, p) := p.next
      p.emit (f.pad (match a with
        | some (c :: _) => [c]
        | _ => ['\x00']))
  | 'd' | 'i' => let (n, p) := p.nextInteger style true; p.emit (f.integer n)
  | 'o' | 'u' | 'x' | 'X' => let (n, p) := p.nextInteger style false; p.emit (f.natural letter n.toNat)
  | _ =>
      let (isNegative, m, p) := p.nextFraction style
      p.emit (f.fraction style.bits letter isNegative m)

def once : (fuel : Nat) → Text → Printing → Printing
  | 0, _, p => p
  | _ + 1, [], p => p
  | fuel + 1, '%' :: '%' :: rest, p => once fuel rest (p.emit ['%'])
  | fuel + 1, '%' :: rest, p =>
      let flags := rest.takeWhile fun c => "#-+ 0'I".toList.contains c && (style.skipsSizes || c != 'I' && c != '\'')
      let t := rest.drop flags.length
      let (width?, t', p) := p.nextCount style t
      let (precision?, u, p) := match t' with
        | '.' :: t' =>
            let (n?, u, p) := p.nextCount style t'
            (some (n?.getD 0), u, p)
        | u => (none, u, p)
      let u := if style.skipsSizes then u.dropWhile fun c => "lLhjtz".toList.contains c else u
      let width := width?.getD 0
      let f : Format :=
        { left := flags.contains '-' || width < 0
          plus := flags.contains '+'
          space := flags.contains ' '
          alternate := flags.contains '#'
          zeros := flags.contains '0'
          width := width.natAbs
          precision := precision?.bind fun n => if n < 0 then none else some n.toNat }
      let directive (count : Nat) : Text := '%' :: rest.take (rest.length - count)
      match u with
      | [] => p.fail (style.missing (directive 0))
      | letter :: u =>
          if style.allows flags precision?.isSome letter then
            let p := p.convert style f letter
            if p.stopped then p else once fuel u p
          else
            p.fail (directive u.length ++ style.invalid)
  | fuel + 1, '\\' :: rest, p =>
      match style.escape rest with
      | .text t rest => once fuel rest (p.emit t)
      | .stop => { p with stopped := true }
      | .broken message => p.fail message
  | fuel + 1, c :: rest, p => once fuel rest (p.emit [c])

def all (format : Text) : (fuel : Nat) → Printing → Printing
  | 0, p => p
  | fuel + 1, p =>
      let q := once style (format.length + 1) format p
      if q.stopped || q.arguments.isEmpty || q.arguments.length == p.arguments.length then
        q
      else
        all format fuel q

def run (format : Text) (arguments : List Text) : Printing :=
  all style format (arguments.length + 1) { arguments := arguments }

end

def text (p : Printing) : Text :=
  p.out.reverse.flatten

end Printing

end Imprint
