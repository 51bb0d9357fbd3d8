import Imprint.Process.Task
import Imprint.Text.Quotation

/-!
# Options of utilities

Options begin with a dash, or with two dashes where they are words, and may stand
among the operands; a word may be cut short as long as only one begins so.
-/

namespace Imprint

namespace Utility

/-- Whether a value belongs to an option; it may be one that only counts if it is joined to
the option. -/
inductive Value where
  | never
  | always
  | joined
deriving DecidableEq

structure OptionForm where
  letter : Option Char
  word : String
  value : Value := .never

/-- An option that was given, by its word, or its letter if it has none, and whether the word
was used. -/
structure Given where
  name : String
  value : Text := []
  isWord : Bool := false

/-- How an option is called in messages, where a letter is all that it may have been. -/
def Given.shown (g : Given) (letter : Char) : Text :=
  if g.isWord then "--".toList ++ g.name.toList else ['-', letter]

def flag (letter : Char) (word : String) : OptionForm :=
  ⟨some letter, word, .never⟩

def valued (letter : Char) (word : String) : OptionForm :=
  ⟨some letter, word, .always⟩

namespace OptionForm

def name (f : OptionForm) : String :=
  if f.word = "" then String.ofList f.letter.toList else f.word

end OptionForm

abbrev Arguments := List Given × List Text

def readLetters (forms : List OptionForm) :
    Text → Except Text (List Given × Option OptionForm)
  | [] => .ok ([], none)
  | c :: more =>
      match forms.find? fun f => f.letter == some c with
      | none => .error ("invalid option -- ".toList ++ ['\'', c, '\''])
      | some f =>
          if f.value = .always then
            if more.isEmpty then .ok ([], some f) else .ok ([{ name := f.name, value := more }], none)
          else if f.value = .joined then
            .ok ([{ name := f.name, value := more }], none)
          else
            match readLetters forms more with
            | .ok (others, waiting) => .ok ({ name := f.name } :: others, waiting)
            | .error t => .error t

def formOfWord (forms : List OptionForm) (word argument : Text) : Except Text OptionForm :=
  let shown := "'--".toList ++ argument ++ ['\'']
  match forms.find? fun f => f.word.toList == word && f.word != "" with
  | some f => .ok f
  | none =>
      let fitting := forms.filter fun f => (Text.after? word f.word.toList).isSome && f.word != ""
      match fitting with
      | [f] => .ok f
      | [] => .error ("unrecognized option ".toList ++ shown)
      | fs =>
          .error ("option ".toList ++ shown ++ " is ambiguous; possibilities:".toList ++
            fs.flatMap fun f => " '--".toList ++ f.word.toList ++ ['\''])

def readWord (forms : List OptionForm) (t : Text) :
    Except Text (List Given × Option OptionForm) := do
  let word := t.takeWhile (· ≠ '=')
  let f ← formOfWord forms word t
  match t.drop word.length with
  | [] =>
      if f.value = .always then pure ([], some f)
      else pure ([{ name := f.name, isWord := true }], none)
  | _ :: value =>
      if f.value = .never then
        throw ("option '--".toList ++ f.word.toList ++ "' doesn't allow an argument".toList)
      else
        pure ([{ name := f.name, value := value, isWord := true }], none)

def waitsForValue (forms : List OptionForm) (argument : Text) : Bool :=
  match argument with
  | '-' :: '-' :: t => (readWord forms t).toOption.any fun read => read.2.isSome
  | '-' :: letters => (readLetters forms letters).toOption.any fun read => read.2.isSome
  | _ => false

/-- What is wrong with how a utility is called, and what was said to be wrong before it: help may
be offered, and another status than the usual one may be meant. -/
structure Complaint where
  text : Text
  earlier : List Text := []
  offersHelp : Bool := true
  status : Option Nat := none

def Complaint.behind (complaint : Complaint) (first : Complaint) : Complaint :=
  { complaint with earlier := first.earlier ++ first.text :: complaint.earlier }

def Complaint.plain (text : Text) : Complaint where
  text := text
  offersHelp := false

def wholeNumber (what : String) (least : Int) (t : Text) : Except Complaint Int :=
  let refused := what.toList ++ ": ".toList ++ Text.inPlainQuotes t
  let (isNegative, digits) := match t.dropWhile Char.isWhitespace with
    | '-' :: rest => (true, rest)
    | '+' :: rest => (false, rest)
    | rest => (false, rest)
  match Text.natural? digits with
  | none => .error (.plain refused)
  | some n =>
      let value : Int := if isNegative then -(n : Int) else n
      if isNegative && (least == 0 || least == 1) then .error (.plain refused)
      else if Nat.pow 2 63 ≤ n then
        .error (.plain (refused ++ ": Value too large for defined data type".toList))
      else if value < least then
        .error (.plain (refused ++ ": Numerical result out of range".toList))
      else .ok value

def noChoice (fault : String) (option : String) (names : List String) (t : Text) : Complaint where
  text := fault.toList ++ " argument ".toList ++ Text.inPlainQuotes t ++ " for '--".toList ++
    option.toList ++ "'\nValid arguments are:".toList ++
    names.flatMap fun name => "\n  - ".toList ++ Text.inPlainQuotes name.toList

/-- The one of some names that the value of an option means; it may be cut short as long as only
one begins so. -/
def choice (option : String) (names : List String) (t : Text) : Except Complaint String :=
  if names.contains (String.ofList t) then .ok (String.ofList t)
  else
    match names.filter fun name => (Text.after? t name.toList).isSome with
    | [name] => .ok name
    | [] => .error (noChoice "invalid" option names t)
    | _ => .error (noChoice "ambiguous" option names t)

def faultOf (read : Except Complaint α) : Option Complaint :=
  match read with
  | .ok _ => none
  | .error complaint => some complaint

/-- Which options there are, whether operands may stand among them, which arguments are
operands though they begin with a dash, what is wrong with the value of an option, which is
told before later arguments are looked at, and whether these are looked at all the same where the
complaint offers help. -/
structure OptionRules where
  forms : List OptionForm
  permutes : Bool := true
  isOperand : Text → Bool := fun _ => false
  check : Given → Option Complaint := fun _ => none
  goesOn : Bool := false

abbrev ReadArguments := Arguments × Option Complaint

/-- Puts options, or what is wrong with them, before what comes of the arguments behind. -/
def OptionRules.before (rules : OptionRules) (given : List Given) (fault : Option Complaint)
    (behind : ReadArguments) : ReadArguments :=
  match fault with
  | none => ((given ++ behind.1.1, behind.1.2), behind.2)
  | some complaint =>
      if rules.goesOn && complaint.offersHelp then
        (behind.1, some (behind.2.elim complaint fun later => later.behind complaint))
      else
        (([], []), some complaint)

/-- Reads options.  Where operands may not stand among them, the first operand ends them, and
two dashes always do. -/
def readOptions (rules : OptionRules) :
    (waiting : Option (OptionForm × Bool)) → List Text → ReadArguments
  | none, [] => (([], []), none)
  | some (f, isWord), [] =>
      let fault : Complaint :=
        if isWord then { text := "option '--".toList ++ f.word.toList ++ "' requires an argument".toList }
        else { text := "option requires an argument -- '".toList ++ f.letter.toList ++ ['\''] }
      (([], []), some fault)
  | some (f, isWord), value :: rest =>
      let g : Given := ⟨f.name, value, isWord⟩
      rules.before [g] (rules.check g) (readOptions rules none rest)
  | none, argument :: rest =>
      let goOn (isWord : Bool) (read : Except Text (List Given × Option OptionForm)) : ReadArguments :=
        match read with
        | .error t => rules.before [] (some { text := t }) (readOptions rules none rest)
        | .ok (given, waiting) =>
            rules.before given (given.findSome? rules.check)
              (readOptions rules (waiting.map fun f => (f, isWord)) rest)
      let asOperand : ReadArguments :=
        if rules.permutes then
          let ((given, operands), fault) := readOptions rules none rest
          ((given, argument :: operands), fault)
        else
          (([], argument :: rest), none)
      match argument with
      | ['-', '-'] => (([], rest), none)
      | '-' :: '-' :: t => goOn true (readWord rules.forms t)
      | '-' :: c :: more =>
          if rules.isOperand argument then asOperand
          else goOn false (readLetters rules.forms (c :: more))
      | _ => asOperand

def seeHelp (status : Nat) : Task α := do
  let name := (← get).name
  Task.err ("Try '".toList ++ name ++ " --help' for more information.\n".toList)
  Task.finish status

def misuse (status : Nat) (t : Text) : Task α := do
  Task.complain t
  seeHelp status

def complainOf (complaint : Complaint) (status : Nat) : Task α := do
  let status := complaint.status.getD status
  complaint.earlier.forM Task.complain
  Task.complain complaint.text
  if complaint.offersHelp then seeHelp status else Task.finish status

def settle (fault : Option Complaint) (status : Nat) : Task Unit :=
  match fault with
  | some complaint => complainOf complaint status
  | none => pure ()

def optionsBy (rules : OptionRules) (arguments : List Text) (status : Nat) : Task Arguments := do
  let (read, fault) := readOptions rules none arguments
  settle fault status
  return read

def options (forms : List OptionForm) (arguments : List Text) (status : Nat) : Task Arguments :=
  optionsBy { forms := forms } arguments status

def leadingOptions (forms : List OptionForm) (arguments : List Text) (status : Nat) :
    Task Arguments :=
  optionsBy { forms := forms, permutes := false } arguments status

def has (given : List Given) (name : String) : Bool :=
  given.any fun g => g.name == name

def value? (given : List Given) (name : String) : Option Text :=
  (given.reverse.find? fun g => g.name == name).map Given.value

/-- Does a job for each operand; the status is one where it could not be done for some. -/
def forAll (operands : List Text) (job : Text → Task Bool) : Task Nat := do
  let mut status := 0
  for operand in operands do
    unless ← job operand do
      status := 1
  return status

end Utility

end Imprint
