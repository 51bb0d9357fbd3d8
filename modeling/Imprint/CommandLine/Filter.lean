import Imprint.Event
import Imprint.Regex.Rich

/-!
# Filters

Which events are reported: by a level for all of them, or by directives that
give levels to parts of the program, and by an expression that occurs in their
wordings.
-/

namespace Imprint

namespace CommandLine

/-- A directive: the beginning of the names of the parts it is about, all of them if
it is empty, and the most detail that they report, if any. -/
structure Directive where
  stem : Text
  most : Option Level
deriving DecidableEq

/-- Directives, the longest beginnings first, and an expression that must occur in a
wording. -/
structure Filter where
  directives : List Directive
  wording : Regex := .empty
deriving DecidableEq

namespace Filter

/-- Whether an event is reported: the first directive about its origin decides, and
the expression looked for must occur in its wording. -/
def admits (f : Filter) (e : Event) : Bool :=
  match f.directives.find? fun d => (Text.after? d.stem e.origin.name).isSome with
  | some d => (d.most.any fun most => e.level.rank ≤ most.rank) && f.wording.occursIn e.message
  | none => false

def upTo (level : Level) : Filter where
  directives := [⟨[], some level⟩]

def ofVerbosity : Nat → Filter
  | 0 => upTo .warn
  | 1 => upTo .info
  | 2 => upTo .debug
  | _ => upTo .trace

def levelOf? (name : Text) : Option (Option Level) :=
  if name.map Char.toLower = "off".toList then some none
  else (Level.ofName? name).map some

/-- Reads a directive: a level for all parts, a part with its level, or a part that
reports everything.  The name of a part has no blanks. -/
def directiveOf? (t : Text) : Option Directive :=
  match (cutAt '=' t).map Text.trim with
  | part :: rest =>
      if part.any Text.isBlank then none
      else
        match rest with
        | [] => some ((levelOf? part).elim ⟨part, some .trace⟩ fun most => ⟨[], most⟩)
        | [[]] => some ⟨part, some .trace⟩
        | [level] => (levelOf? level).map fun most => ⟨part, most⟩
        | _ => none
  | [] => none

def directivesOf? (t : Text) : Option (List Directive) :=
  (((cutAt ',' t).map Text.trim).filter (· ≠ [])).mapM directiveOf?

/-- Reads directives and, behind a slash, an expression to look for.  A specification
with one wrong directive, a wrong expression or a second slash is none. -/
def ofSpecification? (t : Text) : Option Filter :=
  match cutAt '/' t with
  | directives :: rest =>
      if 1 < rest.length then none
      else do
        let ds ← directivesOf? directives
        let wording ← Regex.Rich.read? {} rest.flatten
        some
          { directives := ds.mergeSort fun a b => decide (b.stem.length ≤ a.stem.length)
            wording := wording }
  | [] => none

end Filter

end CommandLine

end Imprint
