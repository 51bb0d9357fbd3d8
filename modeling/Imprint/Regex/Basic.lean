import Imprint.Character.Set
import Imprint.Text.Basic

/-!
# Regular expressions

A regular expression is matched at a place of a text, and every way to match it
there is found, the preferred ones first.  Groups remember what they matched.
-/

namespace Imprint

/-- How a place lies to words: at a border of one, at none, at its start or its end, or so
that no word goes on before it or after it. -/
inductive WordPlace where
  | border
  | inside
  | start
  | finish
  | startHalf
  | finishHalf
deriving DecidableEq

/-- A condition on a place in a text.  Lines end with a line feed, or also with a carriage
return and with both of them; words are made of the characters of a set. -/
inductive Anchor where
  | textStart
  | textEnd
  | lineStart
  | lineEnd
  | returnStart
  | returnEnd
  | word (place : WordPlace) (letters : CharSet)
deriving DecidableEq

/-- Whether a place lies to words in a way, by whether there are letters before and after
it. -/
def WordPlace.holds (before after : Bool) : WordPlace → Bool
  | .border => before != after
  | .inside => before == after
  | .start => !before && after
  | .finish => before && !after
  | .startHalf => !before
  | .finishHalf => !after

def Anchor.holds (input : Array Char) (place : Nat) : Anchor → Bool
  | .textStart => place == 0
  | .textEnd => after.isNone
  | .lineStart => place == 0 || before == some '\n'
  | .lineEnd => after.isNone || after == some '\n'
  | .returnStart => place == 0 || before == some '\n' || before == some '\r' && after != some '\n'
  | .returnEnd => after.isNone || after == some '\r' || after == some '\n' && before != some '\r'
  | .word kind letters => kind.holds (before.any letters.has) (after.any letters.has)
where
  before : Option Char := if place = 0 then none else input[place - 1]?
  after : Option Char := input[place]?

def Regex.asciiWordSet : CharSet :=
  ⟨[(0x30, 0x39), (0x41, 0x5A), (0x5F, 0x5F), (0x61, 0x7A)], false⟩

inductive Regex where
  | empty
  | one (set : CharSet)
  | anchor (a : Anchor)
  | sequence (first second : Regex)
  | either (first second : Regex)
  | repeated (body : Regex) (least : Nat) (most : Option Nat) (greedy : Bool)
  | group (index : Nat) (body : Regex)
  | again (index : Nat)
deriving DecidableEq

namespace Regex

abbrev Captures := List (Nat × Nat × Nat)

abbrev Match := Nat × Captures

def distinct (ways : List Match) : List Match :=
  match ways with
  | [] => []
  | [way] => [way]
  | ways => ways.eraseDups

/-- All ways to take a step again and again, at least `least` times and at most `most`
times.  A step that takes nothing is not repeated. -/
def repetitions (step : Nat → Captures → List Match) (greedy : Bool) :
    (fuel least : Nat) → (most : Option Nat) → Nat → Captures → List Match
  | 0, _, _, place, captures => [(place, captures)]
  | fuel + 1, least, most, place, captures =>
      let stop := if least = 0 then [(place, captures)] else []
      if most = some 0 then
        stop
      else
        let steps := step place captures
        let further := steps.flatMap fun way =>
          if way.1 = place ∧ least = 0 then []
          else repetitions step greedy fuel (least - 1) (most.map (· - 1)) way.1 way.2
        let ways := if greedy then further ++ stop else stop ++ further
        if steps.length ≤ 1 then ways else distinct ways

def slice (input : Array Char) (first last : Nat) : Text :=
  (input.extract first last).toList

def standsAt (input : Array Char) (place : Nat) (t : Text) : Option Nat :=
  if slice input place (place + t.length) = t then some (place + t.length) else none

def ways (input : Array Char) : Regex → Nat → Captures → List Match
  | empty, place, captures => [(place, captures)]
  | one set, place, captures =>
      match input[place]? with
      | some c => if set.has c then [(place + 1, captures)] else []
      | none => []
  | anchor a, place, captures => if a.holds input place then [(place, captures)] else []
  | sequence first second, place, captures =>
      let starts := ways input first place captures
      let found := starts.flatMap fun way => ways input second way.1 way.2
      if starts.length ≤ 1 then found else distinct found
  | either first second, place, captures =>
      distinct (ways input first place captures ++ ways input second place captures)
  | repeated body least most greedy, place, captures =>
      repetitions (ways input body) greedy (input.size - place + least + 1) least most place
        captures
  | group index body, place, captures =>
      (ways input body place captures).map fun way =>
        (way.1, (index, place, way.1) :: way.2.filter fun c => c.1 ≠ index)
  | again index, place, captures =>
      match captures.find? fun c => c.1 = index with
      | some c =>
          match standsAt input place (slice input c.2.1 c.2.2) with
          | some next => [(next, captures)]
          | none => []
      | none => []

def mergePlaces : List Nat → List Nat → List Nat
  | [], b => b
  | a, [] => a
  | x :: a, y :: b =>
      if x < y then x :: mergePlaces a (y :: b)
      else if y < x then y :: mergePlaces (x :: a) b
      else x :: mergePlaces a b
termination_by a b => a.length + b.length

/-- The places that are reached by steps from some places: from those that `least` steps lead
to, by at most `most` more.  What was found before is not tried again. -/
def placesAfter (step : List Nat → List Nat) : (fuel least : Nat) → (most : Option Nat) →
    (found fresh : List Nat) → List Nat
  | 0, _, _, found, _ => found
  | fuel + 1, least + 1, most, _, fresh =>
      let next := step fresh
      if next.isEmpty then []
      else placesAfter step fuel least (most.map (· - 1)) (if least = 0 then next else []) next
  | fuel + 1, 0, most, found, fresh =>
      if fresh.isEmpty || most == some 0 then
        found
      else
        let next := (step fresh).filter fun place => !found.contains place
        placesAfter step fuel 0 (most.map (· - 1)) (mergePlaces found next) next

/-- The places at which the ways to match from some places end, in ascending order.  An
expression that matches again what a group matched is not followed. -/
def ends (input : Array Char) : Regex → List Nat → List Nat
  | empty, places => places
  | one set, places =>
      (places.filter fun place => input[place]?.any set.has).map (· + 1)
  | anchor a, places => places.filter fun place => a.holds input place
  | sequence first second, places => ends input second (ends input first places)
  | either first second, places => mergePlaces (ends input first places) (ends input second places)
  | repeated body least most _, places =>
      placesAfter (ends input body) (input.size + least + 2) least
        most (if least = 0 then places else []) places
  | group _ body, places => ends input body places
  | again _, _ => []

def refersWithin (count : Nat) : Regex → Bool
  | sequence first second => first.refersWithin count && second.refersWithin count
  | either first second => first.refersWithin count && second.refersWithin count
  | repeated body .. => body.refersWithin count
  | group _ body => body.refersWithin count
  | again index => decide (index ≤ count)
  | _ => true

def failsAt (r : Regex) (input : Array Char) (place : Nat) : Bool :=
  r.refersWithin 0 && (r.ends input [place]).isEmpty

def longestAt (r : Regex) (input : Array Char) (place : Nat) : Option Match :=
  if r.failsAt input place then
    none
  else
    (r.ways input place []).foldl
      (fun best way =>
        match best with
        | none => some way
        | some old => if old.1 < way.1 then some way else some old)
      none

/-- The first place from `start` on at which the expression matches, and its longest way
to match there. -/
def search (r : Regex) (input : Array Char) (start : Nat) : Option (Nat × Match) :=
  (List.range (input.size + 1 - start)).findSome? fun offset =>
    (r.longestAt input (start + offset)).map fun way => (start + offset, way)

def occursIn (r : Regex) (t : Text) : Bool :=
  let input := t.toArray
  let places := List.range (input.size + 1)
  if r.refersWithin 0 then
    !(r.ends input places).isEmpty
  else
    places.any fun place => !(r.ways input place []).isEmpty

def ofText (t : Text) : Regex :=
  t.foldr (fun c r => .sequence (.one (.single c)) r) .empty

def ofList (rs : List Regex) : Regex :=
  rs.foldr .sequence .empty

def ignoringCase : Regex → Regex
  | one set => one set.ignoringCase
  | sequence first second => sequence first.ignoringCase second.ignoringCase
  | either first second => either first.ignoringCase second.ignoringCase
  | repeated body least most greedy => repeated body.ignoringCase least most greedy
  | group index body => group index body.ignoringCase
  | other => other

def byLine : Regex → Regex
  | anchor .textStart => anchor .lineStart
  | anchor .textEnd => anchor .lineEnd
  | sequence first second => sequence first.byLine second.byLine
  | either first second => either first.byLine second.byLine
  | repeated body least most greedy => repeated body.byLine least most greedy
  | group index body => group index body.byLine
  | other => other

def groupCount : Regex → Nat
  | sequence first second => first.groupCount + second.groupCount
  | either first second => first.groupCount + second.groupCount
  | repeated body .. => body.groupCount
  | group _ body => body.groupCount + 1
  | _ => 0

end Regex

end Imprint
