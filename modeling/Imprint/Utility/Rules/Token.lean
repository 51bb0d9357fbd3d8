import Imprint.Text.Escape
import Imprint.Utility.Rules.Number

/-!
# Tokens of rules

A program of rules is cut into tokens one by one.  What a character means depends on the token
before it, on the brackets that are open, and on what names are known to stand for.
-/

namespace Imprint

namespace Utility

namespace Rules

/-- A token.  Where a statement ends before a closing brace without a sign of its own, an end is
put there. -/
inductive Token where
  | endOfText
  | newline
  | impliedEnd
  | mark (t : String)
  | output (t : String)
  | word (t : String)
  | name (t : Text)
  | function (t : Text)
  | builtin (t : String)
  | number (x : Float) (t : Text)
  | text (t : Text)
  | pattern (t : Text)
  | stray (c : Char)

namespace Token

def shown : Token → Text
  | endOfText => "end of file".toList
  | newline => "end of line".toList
  | impliedEnd => ['}']
  | mark t | output t | word t | builtin t => t.toList
  | name t | function t | text t => t
  | number _ t => t
  | pattern t => '/' :: t ++ ['/']
  | stray c => [c]

def isMark (t : Token) (m : String) : Bool :=
  match t with
  | mark n => n == m
  | _ => false

def isWord (t : Token) (w : String) : Bool :=
  match t with
  | word v => v == w
  | _ => false

def isEnd : Token → Bool
  | newline | impliedEnd => true
  | mark t => t == ";"
  | _ => false

def isDivided : Token → Bool
  | number .. | text _ | name _ | pattern _ => true
  | mark t => [")", "]", "++", "--"].contains t
  | word t => t == "getline"
  | _ => false

end Token

inductive Kind where
  | value
  | table
  | function
deriving DecidableEq

/-- A program that is being read: what is left of it, the line that it is on, the one on which the
last token began, that token, the braces and parentheses that are open, whether the arguments of a printing statement are being read,
whether a closing brace is due, what names stand for, the names that a function has of its own, and
the messages so far, latest first. -/
structure Source where
  rest : Text
  title : Text
  line : Nat := 1
  tokenLine : Nat := 1
  last : Token := .newline
  braces : Nat := 0
  parens : Nat := 0
  isPrinting : Bool := false
  isBraceDue : Bool := false
  kinds : List (Text × Kind) := []
  own : List Text := []
  messages : List Text := []

namespace Source

def words : List String :=
  ["BEGIN", "END", "break", "continue", "delete", "do", "else", "exit", "for", "function", "getline",
    "if", "in", "next", "nextfile", "print", "printf", "return", "while"]

def builtins : List String :=
  ["atan2", "close", "cos", "exp", "fflush", "gsub", "index", "int", "length", "log", "match", "sin",
    "split", "sprintf", "sqrt", "sub", "substr", "system", "tolower", "toupper"]

def mostMessages : Nat := 5

def tell (s : Source) (t : Text) : Source :=
  { s with messages := (s.title ++ t) :: s.messages }

def complain (s : Source) (t : Text) : Source :=
  s.tell ("line ".toList ++ Radix.decimal.numeral s.tokenLine ++ ": ".toList ++ t)

def skip (lines : Bool) : (fuel : Nat) → Source → Source
  | 0, s => s
  | fuel + 1, s =>
      match s.rest with
      | '\n' :: rest =>
          if lines then skip lines fuel { s with rest := rest, line := s.line + 1 } else s
      | '#' :: rest => skip lines fuel { s with rest := rest.dropWhile (· ≠ '\n') }
      | '\\' :: rest =>
          match rest.dropWhile fun c => c == ' ' || c == '\t' || c == '\r' with
          | '\n' :: rest => skip lines fuel { s with rest := rest, line := s.line + 1 }
          | _ => s
      | c :: rest =>
          if c = ' ' ∨ c = '\t' ∨ c = '\r' ∨ c = '\x0b' ∨ c = '\x0c' then
            skip lines fuel { s with rest := rest }
          else
            s
      | [] => s

def skipLines (s : Source) : Source :=
  s.skip true (s.rest.length + 1)

def skipSemicolon (s : Source) : Source :=
  match s.rest.dropWhile fun c => c == ' ' || c == '\t' with
  | ';' :: rest => { s with rest := rest }
  | _ => s

def unescaped : (fuel : Nat) → Text → Text
  | 0, t => t
  | _ + 1, [] => []
  | fuel + 1, '\\' :: rest =>
      match rest with
      | [] => ['\\']
      | '\n' :: rest => unescaped fuel rest
      | '"' :: rest => '"' :: unescaped fuel rest
      | 'x' :: more =>
          match Text.hexEscape? more with
          | some (c, rest) => c :: unescaped fuel rest
          | none => '\\' :: 'x' :: unescaped fuel more
      | c :: more =>
          if Text.isOctalDigit c then
            let (d, rest) := Text.octalEscape rest
            d :: unescaped fuel rest
          else
            match if c = 'e' then none else Text.escapeLetter? c with
            | some d => d :: unescaped fuel more
            | none => '\\' :: c :: unescaped fuel more
  | fuel + 1, c :: rest => c :: unescaped fuel rest

/-- What stands before the closing quote, and the rest; without one there is nothing. -/
def quoted : Text → Option (Text × Text)
  | [] => none
  | '"' :: rest => some ([], rest)
  | '\n' :: _ => none
  | '\\' :: c :: rest => (quoted rest).map fun found => ('\\' :: c :: found.1, found.2)
  | c :: rest => (quoted rest).map fun found => (c :: found.1, found.2)

/-- The text of a pattern up to its closing slash, and the rest.  Between brackets a slash means
nothing, and a bracket that comes first neither does. -/
def slashed : (fuel : Nat) → (inSet : Bool) → Text → Option (Text × Text)
  | 0, _, _ => none
  | _ + 1, _, [] => none
  | _ + 1, _, '\n' :: _ => none
  | fuel + 1, inSet, '\\' :: c :: rest =>
      (slashed fuel inSet rest).map fun found =>
        (if c = '/' then c :: found.1 else '\\' :: c :: found.1, found.2)
  | _ + 1, false, '/' :: rest => some ([], rest)
  | fuel + 1, false, '[' :: rest =>
      let lead : Text := match rest with
        | '^' :: ']' :: _ => ['^', ']']
        | ']' :: _ => [']']
        | _ => []
      (slashed fuel true (rest.drop lead.length)).map fun found => ('[' :: lead ++ found.1, found.2)
  | fuel + 1, true, '[' :: ':' :: rest =>
      let name := rest.takeWhile Char.isAlpha
      match Text.after? ":]".toList (rest.drop name.length) with
      | some behind =>
          (slashed fuel true behind).map fun found =>
            ('[' :: ':' :: name ++ ":]".toList ++ found.1, found.2)
      | none => (slashed fuel true (':' :: rest)).map fun found => ('[' :: found.1, found.2)
  | fuel + 1, inSet, c :: rest =>
      (slashed fuel (inSet && c != ']') rest).map fun found => (c :: found.1, found.2)

def runaway (s : Source) (what : String) (mark : Char) (t : Text) : Source :=
  s.complain ("runaway ".toList ++ what.toList ++ ' ' :: mark ::
    ((t.takeWhile (· ≠ '\n')).take 10) ++ " ...".toList)

def marks : List String :=
  ["||", "&&", "==", "!=", "!~", "<=", ">=", "++", "--", "+=", "-=", "*=", "/=", "%=", "^=",
    "\x7b", "\x7d", "(", ")", "[", "]", ";", ",", "+", "-", "*", "/", "%", "^", "!", ">", "<", "|", "?",
    ":", "~", "$", "="]

def continuing : List String :=
  ["\x7b", "||", "&&", ",", ";"]

def isNameChar (c : Char) : Bool :=
  c.isAlphanum || c == '_'

def nameToken (s : Source) (t : Text) (rest : Text) : Token :=
  let w := String.ofList t
  if words.contains w then .word w
  else if builtins.contains w then .builtin w
  else if s.own.contains t then .name t
  else
    match s.kinds.lookup t with
    | some .function => .function t
    | some _ => .name t
    | none => if rest.head? = some '(' then .function t else .name t

/-- Takes the token that begins behind blanks.  Where the text cannot be read on, only the messages
count. -/
def take : (fuel : Nat) → Source → Except Source Source
  | 0, s => .error s
  | fuel + 1, s =>
      let s := s.skip false (s.rest.length + 1)
      let give (t : Token) (s : Source) : Except Source Source := .ok { s with last := t }
      match s.rest with
      | [] => give .endOfText s
      | '\n' :: rest => give .newline { s with rest := rest, line := s.line + 1 }
      | '"' :: rest =>
          match quoted rest with
          | some (t, rest) =>
              let lines := t.count '\n'
              give (.text (unescaped (t.length + 1) t)) { s with rest := rest, line := s.line + lines }
          | none => .error (s.runaway "string constant" '"' rest)
      | c :: rest =>
          if c = '/' && !s.last.isDivided then
            match slashed (rest.length + 2) false rest with
            | some (t, rest) => give (.pattern t) { s with rest := rest }
            | none => .error (s.runaway "regular expression" '/' rest)
          else if c.isDigit || c == '.' && rest.head?.any Char.isDigit then
            match decimalFraction? Number.bits (c :: rest) with
            | some (m, behind) =>
                let t := (c :: rest).take (rest.length + 1 - behind.length)
                let x := Number.ofMagnitude false m
                let s := if (Number.whole? x).isSome then s
                  else s.complain (t ++ " : decimal overflow".toList)
                give (.number x t) { s with rest := behind }
            | none => give (.stray c) { s with rest := rest }
          else if isNameChar c then
            let t := (c :: rest).takeWhile isNameChar
            let behind := (c :: rest).drop t.length
            let token := s.nameToken t behind
            let s := { s with rest := behind }
            match token with
            | .word w =>
                let s := if w = "print" ∨ w = "printf" then { s with isPrinting := true } else s
                give token (if w = "else" ∨ w = "do" then s.skipLines else s)
            | .function t =>
                give token
                  (if (s.kinds.lookup t).isNone then { s with kinds := (t, .function) :: s.kinds } else s)
            | token => give token s
          else
            match marks.findSome? fun m => (Text.after? m.toList (c :: rest)).map fun rest => (m, rest) with
            | none =>
                .error (s.tell (Radix.decimal.numeral s.line ++ ": unexpected character '".toList ++
                  [c, '\'']))
            | some (m, behind) =>
                let isOutput := s.isPrinting && s.parens == 0
                if m = "\x7d" then
                  if s.braces = 0 then
                    take fuel ({ s with rest := behind }.complain "extra '\x7d'".toList).skipSemicolon
                  else if s.last.isEnd || s.last.isMark "\x7d" || s.isBraceDue then
                    let s := { s with rest := behind, braces := s.braces - 1, isBraceDue := false }
                    let s := if s.braces = 0 then s.skipSemicolon else s
                    give (.mark m) s.skipLines
                  else
                    give .impliedEnd { s with isBraceDue := true }
                else if m = ")" ∧ s.parens = 0 then
                  take fuel ({ s with rest := behind }.complain "extra ')'".toList)
                else if isOutput && (c == '>' || m == "|") then
                  let (t, behind) := if c = '>' then
                      (if rest.head? = some '>' then (">>", rest.drop 1) else (">", rest))
                    else ("|", behind)
                  give (.output t) { s with rest := behind, isPrinting := false }
                else
                  let s := { s with rest := behind }
                  let s := if m = "\x7b" then { s with braces := s.braces + 1 }
                    else if m = "(" then { s with parens := s.parens + 1 }
                    else if m = ")" then { s with parens := s.parens - 1 }
                    else s
                  give (.mark m) (if continuing.contains m then s.skipLines else s)

def next (s : Source) : Except Source Source :=
  take (s.rest.length + 2) { s with tokenLine := s.line }

/-- The message about a token that does not fit, where a bracket may be missing before it. -/
def reject (s : Source) : Source :=
  let near := s.last.shown
  let isAtStart := s.last.isWord "BEGIN" || s.last.isWord "END"
  let isAtEnd := match s.last with
    | .endOfText => true
    | _ => false
  if (s.last.isEnd || isAtEnd || isAtStart) && s.parens != 0 then
    { s.complain ("missing ) near ".toList ++ near) with parens := 0 }
  else if (isAtEnd || isAtStart) && s.braces != 0 then
    { s.complain ("missing \x7d near ".toList ++ near) with braces := 0 }
  else
    s.complain ("syntax error at or near ".toList ++ near)

end Source

end Rules

end Utility

end Imprint
