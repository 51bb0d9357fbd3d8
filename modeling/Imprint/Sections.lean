import Imprint.Text.Lines

/-!
# Sections

A tool prints its answers in sections, each below a heading line that names it.
A line is governed by the nearest heading before it.
-/

namespace Imprint

namespace Sections

def code : Text :=
  ".text.init".toList

def data : Text :=
  ".data".toList

/-- Pairs each line that is no heading with the name that governs it, where
`here` governs up to the first heading. -/
def governed (heading? : Text → Option Text) (here : Option Text) :
    List Text → List (Option Text × Text)
  | [] => []
  | line :: rest =>
      match heading? line with
      | some name => governed heading? (some name) rest
      | none => (here, line) :: governed heading? here rest

def lastName (heading? : Text → Option Text) (here : Option Text) : List Text → Option Text
  | [] => here
  | line :: rest =>
      match heading? line with
      | some name => lastName heading? (some name) rest
      | none => lastName heading? here rest

@[simp] theorem governed_append (heading? : Text → Option Text) (here : Option Text)
    (first second : List Text) :
    governed heading? here (first ++ second) =
      governed heading? here first ++
        governed heading? (lastName heading? here first) second := by
  induction first generalizing here with
  | nil =>
      rfl
  | cons line rest ih =>
      cases h : heading? line with
      | none =>
          simp [governed, lastName, h, ih]
      | some name =>
          simp [governed, lastName, h, ih]

def under (heading? : Text → Option Text) (wanted : Text) (lines : List Text) : List Text :=
  (governed heading? none lines).filterMap fun entry =>
    if entry.1 = some wanted then some entry.2 else none

theorem mem_of_mem_governed {heading? : Text → Option Text} {here : Option Text}
    {lines : List Text} {entry : Option Text × Text}
    (hentry : entry ∈ governed heading? here lines) : entry.2 ∈ lines := by
  induction lines generalizing here with
  | nil =>
      cases hentry
  | cons line rest ih =>
      rw [governed] at hentry
      split at hentry
      · exact List.mem_cons_of_mem line (ih hentry)
      · rcases List.mem_cons.mp hentry with rfl | hrest
        · exact List.mem_cons_self
        · exact List.mem_cons_of_mem line (ih hrest)

theorem mem_of_mem_under {heading? : Text → Option Text} {wanted : Text} {lines : List Text}
    {line : Text} (hline : line ∈ under heading? wanted lines) : line ∈ lines := by
  obtain ⟨entry, hentry, hwanted⟩ := List.mem_filterMap.mp hline
  split at hwanted
  · cases hwanted
    exact mem_of_mem_governed hentry
  · cases hwanted

theorem governed_of_headless {heading? : Text → Option Text} {lines : List Text}
    (hlines : ∀ line ∈ lines, heading? line = none) (here : Option Text) :
    governed heading? here lines = lines.map fun line => (here, line) := by
  induction lines with
  | nil =>
      rfl
  | cons line rest ih =>
      have hrest := ih fun other hother => hlines other (List.mem_cons_of_mem line hother)
      simp [governed, hlines line List.mem_cons_self, hrest]

theorem under_cons {heading? : Text → Option Text} {wanted heading : Text} {lines : List Text}
    (hheading : heading? heading = some wanted) (hlines : ∀ line ∈ lines, heading? line = none) :
    under heading? wanted (heading :: lines) = lines := by
  have hgoverned : governed heading? none (heading :: lines) =
      lines.map fun line => (some wanted, line) := by
    rw [governed, hheading]
    exact governed_of_headless hlines (some wanted)
  rw [under, hgoverned, List.filterMap_map]
  show lines.filterMap (fun line => if some wanted = some wanted then some line else none) = lines
  simp

def mentions (heading? : Text → Option Text) (wanted : Text) (lines : List Text) : Bool :=
  lines.any fun line => heading? line == some wanted

end Sections

end Imprint
