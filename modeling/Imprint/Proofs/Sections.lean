import Mathlib.Data.List.Sort
import Imprint.Sections

/-!
# Nearest headings

Which name governs a line is told by looking back from the line: it is announced by
the nearest heading above.  The lines that were gathered under a name in one pass
from above are those that the name governs in this sense, in order and each once.
-/

namespace Imprint

namespace Sections

variable {announces : Text → Text → Prop} {heading? : Text → Option Text}

def Plain (announces : Text → Text → Prop) (line : Text) : Prop :=
  ∀ name, ¬ announces line name

def EndsUnder (announces : Text → Text → Prop) (lines : List Text) (name : Text) : Prop :=
  ∃ front heading between, lines = front ++ heading :: between ∧ announces heading name ∧
    ∀ line ∈ between, Plain announces line

/-- The line at a place is no heading, and the nearest heading above it announces the name. -/
def Governs (announces : Text → Text → Prop) (lines : List Text) (name : Text)
    (place : Nat) : Prop :=
  ∃ above line below, lines = above ++ line :: below ∧ above.length = place ∧
    Plain announces line ∧ EndsUnder announces above name

/-- A test for headings finds the names that lines announce. -/
def Detects (heading? : Text → Option Text) (announces : Text → Text → Prop)
    (lines : List Text) : Prop :=
  ∀ line ∈ lines, ∀ name, heading? line = some name ↔ announces line name

namespace Detects

variable {lines : List Text}

theorem plain_iff (hdetects : Detects heading? announces lines) {line : Text}
    (hline : line ∈ lines) : Plain announces line ↔ heading? line = none := by
  rw [Option.eq_none_iff_forall_ne_some]
  exact forall_congr' fun name => not_congr (hdetects line hline name).symm

theorem subset {others : List Text} (hdetects : Detects heading? announces lines)
    (hothers : others ⊆ lines) : Detects heading? announces others :=
  fun line hline => hdetects line (hothers hline)

end Detects

/-!
## Looking back
-/

theorem lastName_eq_findSome? (here : Option Text) (lines : List Text) :
    lastName heading? here lines = (lines.reverse.findSome? heading?).or here := by
  induction lines generalizing here with
  | nil =>
      rfl
  | cons line rest ih =>
      rw [lastName, List.reverse_cons, List.findSome?_append, Option.or_assoc]
      cases hline : heading? line with
      | none => simp [ih, hline]
      | some name => simp [ih, hline]

theorem endsUnder_iff {lines : List Text} (hdetects : Detects heading? announces lines)
    {name : Text} :
    EndsUnder announces lines name ↔ lastName heading? none lines = some name := by
  rw [lastName_eq_findSome?, Option.or_none, List.findSome?_eq_some_iff]
  constructor
  · rintro ⟨front, heading, between, rfl, hname, hbetween⟩
    refine ⟨between.reverse, heading, front.reverse, by simp, ?_, ?_⟩
    · exact (hdetects heading (by simp) name).mpr hname
    · intro line hline
      have hmem := List.mem_reverse.mp hline
      exact (hdetects.plain_iff (by simp [hmem])).mp (hbetween line hmem)
  · rintro ⟨between, heading, front, hsplit, hname, hbetween⟩
    have hlines : lines = front.reverse ++ heading :: between.reverse := by
      rw [← List.reverse_reverse lines, hsplit]
      simp
    refine ⟨front.reverse, heading, between.reverse, hlines, ?_, ?_⟩
    · exact (hdetects heading (by simp [hlines]) name).mp hname
    · intro line hline
      have hmem := List.mem_reverse.mp hline
      exact (hdetects.plain_iff (by simp [hlines, hmem])).mpr (hbetween line hmem)

/-!
## One more line
-/

theorem governs_concat {lines : List Text} {line name : Text} {place : Nat} :
    Governs announces (lines ++ [line]) name place ↔
      Governs announces lines name place ∨
        place = lines.length ∧ Plain announces line ∧ EndsUnder announces lines name := by
  constructor
  · rintro ⟨above, other, below, hsplit, hplace, hplain, hunder⟩
    rcases List.eq_nil_or_concat below with rfl | ⟨front, last, rfl⟩
    · obtain ⟨rfl, hline⟩ := List.append_inj' hsplit rfl
      cases hline
      exact Or.inr ⟨hplace.symm, hplain, hunder⟩
    · left
      have hinit : lines ++ [line] = (above ++ other :: front) ++ [last] := by
        rw [hsplit, List.concat_eq_append, List.append_assoc]
        rfl
      exact ⟨above, other, front, (List.append_inj' hinit rfl).1, hplace, hplain, hunder⟩
  · rintro (⟨above, other, below, rfl, hplace, hplain, hunder⟩ | ⟨rfl, hplain, hunder⟩)
    · exact ⟨above, other, below ++ [line], by simp, hplace, hplain, hunder⟩
    · exact ⟨lines, line, [], rfl, rfl, hplain, hunder⟩

theorem Governs.lt_length {lines : List Text} {name : Text} {place : Nat}
    (hgoverns : Governs announces lines name place) : place < lines.length := by
  obtain ⟨above, line, below, rfl, rfl, -, -⟩ := hgoverns
  simp

theorem under_concat (wanted : Text) (lines : List Text) (line : Text) :
    under heading? wanted (lines ++ [line]) = under heading? wanted lines ++
      if heading? line = none ∧ lastName heading? none lines = some wanted then [line] else [] := by
  unfold under
  rw [governed_append, List.filterMap_append]
  cases hline : heading? line with
  | none =>
      by_cases hname : lastName heading? none lines = some wanted
      · simp [governed, hline, hname]
      · simp [governed, hline, hname]
  | some name =>
      simp [governed, hline]

/-!
## All lines
-/

/-- The places with a property, in order and each once. -/
structure Places (places : List Nat) (holds : Nat → Prop) : Prop where
  ascending : places.Pairwise (· < ·)
  mem_iff : ∀ place, place ∈ places ↔ holds place

namespace Places

variable {places : List Nat} {holds : Nat → Prop}

theorem congr {holds' : Nat → Prop} (hplaces : Places places holds)
    (hiff : ∀ place, holds' place ↔ holds place) : Places places holds' where
  ascending := hplaces.ascending
  mem_iff place := (hplaces.mem_iff place).trans (hiff place).symm

theorem concat (hplaces : Places places holds) {last : Nat}
    (hlast : ∀ place, holds place → place < last) :
    Places (places ++ [last]) fun place => holds place ∨ place = last where
  ascending := by
    refine List.pairwise_append.mpr ⟨hplaces.ascending, List.pairwise_singleton _ _, ?_⟩
    intro place hplace other hother
    rw [List.mem_singleton.mp hother]
    exact hlast place ((hplaces.mem_iff place).mp hplace)
  mem_iff place := by
    rw [List.mem_append, List.mem_singleton, hplaces.mem_iff]

theorem unique {places' : List Nat} (hplaces : Places places holds)
    (hplaces' : Places places' holds) : places = places' := by
  have hperm : places.Perm places' := by
    rw [List.perm_ext_iff_of_nodup hplaces.ascending.nodup hplaces'.ascending.nodup]
    exact fun place => (hplaces.mem_iff place).trans (hplaces'.mem_iff place).symm
  exact hperm.eq_of_pairwise' hplaces.ascending hplaces'.ascending

theorem filter (hplaces : Places places holds) (p : Nat → Bool) :
    Places (places.filter p) fun place => holds place ∧ p place = true where
  ascending := hplaces.ascending.filter p
  mem_iff place := by
    rw [List.mem_filter, hplaces.mem_iff]

end Places

def linesAt (lines : List Text) (places : List Nat) : List Text :=
  places.map fun place => lines.getD place []

theorem linesAt_append {lines : List Text} {places : List Nat}
    (hplaces : ∀ place ∈ places, place < lines.length) (more : List Text) :
    linesAt (lines ++ more) places = linesAt lines places := by
  refine List.map_congr_left fun place hplace => ?_
  simp [List.getD, List.getElem?_append_left (hplaces place hplace)]

theorem linesAt_concat {lines : List Text} {places : List Nat}
    (hplaces : ∀ place ∈ places, place < lines.length) (line : Text) :
    linesAt (lines ++ [line]) (places ++ [lines.length]) = linesAt lines places ++ [line] := by
  have hkept := linesAt_append hplaces [line]
  unfold linesAt at hkept ⊢
  rw [List.map_append, hkept]
  simp [List.getD]

theorem under_eq_linesAt {lines : List Text} (hdetects : Detects heading? announces lines)
    (wanted : Text) :
    ∃ places, Places places (Governs announces lines wanted) ∧
      under heading? wanted lines = linesAt lines places := by
  generalize hreversed : lines.reverse = reversed
  induction reversed generalizing lines with
  | nil =>
      obtain rfl := List.reverse_eq_nil_iff.mp hreversed
      have hnone : ∀ place, ¬ Governs announces [] wanted place := fun place hgoverns =>
        Nat.not_lt_zero place hgoverns.lt_length
      exact ⟨[], ⟨.nil, fun place => by simp [hnone place]⟩, rfl⟩
  | cons line rest ih =>
      obtain rfl : lines = rest.reverse ++ [line] := by
        rw [← List.reverse_cons, ← hreversed, List.reverse_reverse]
      have habove := hdetects.subset (List.subset_append_left rest.reverse [line])
      have hline : line ∈ rest.reverse ++ [line] := by simp
      have hplain := hdetects.plain_iff hline
      obtain ⟨places, hplaces, hunder⟩ := ih habove (List.reverse_reverse rest)
      have hlt : ∀ place ∈ places, place < rest.reverse.length := fun place hplace =>
        ((hplaces.mem_iff place).mp hplace).lt_length
      rw [under_concat, hunder]
      by_cases hnew : heading? line = none ∧ lastName heading? none rest.reverse = some wanted
      · refine ⟨places ++ [rest.reverse.length], ?_, ?_⟩
        · refine (hplaces.concat fun place hgoverns => hgoverns.lt_length).congr fun place => ?_
          rw [governs_concat, hplain, endsUnder_iff habove]
          simp only [hnew, and_self, and_true]
        · rw [if_pos hnew, linesAt_concat hlt]
      · refine ⟨places, hplaces.congr fun place => ?_, ?_⟩
        · rw [governs_concat, hplain, endsUnder_iff habove]
          simp only [hnew, and_false, or_false]
        · rw [if_neg hnew, List.append_nil, linesAt_append hlt]

/-!
## Lines that are left out
-/

section

variable {keep : Text → Bool} (hkeep : ∀ line, keep line = false → heading? line = none)

include hkeep

theorem governed_filter (here : Option Text) (lines : List Text) :
    governed heading? here (lines.filter keep) =
      (governed heading? here lines).filter fun entry => keep entry.2 := by
  induction lines generalizing here with
  | nil =>
      rfl
  | cons line rest ih =>
      cases hline : keep line with
      | false =>
          rw [List.filter_cons_of_neg (by simp [hline])]
          simp [governed, hkeep line hline, hline, ih]
      | true =>
          rw [List.filter_cons_of_pos hline]
          cases hheading : heading? line with
          | none => simp [governed, hheading, hline, ih]
          | some name => simp [governed, hheading, ih]

@[simp] theorem under_filter (wanted : Text) (lines : List Text) :
    under heading? wanted (lines.filter keep) = (under heading? wanted lines).filter keep := by
  unfold under
  rw [governed_filter hkeep, List.filterMap_filter, List.filter_filterMap]
  congr 1
  funext entry
  by_cases hname : entry.1 = some wanted
  · simp [hname, Option.filter]
  · simp [hname]

@[simp] theorem mentions_filter (wanted : Text) (lines : List Text) :
    mentions heading? wanted (lines.filter keep) = mentions heading? wanted lines := by
  unfold mentions
  rw [List.any_filter]
  congr 1
  funext line
  cases hline : keep line with
  | false => simp [hkeep line hline]
  | true => simp

end

end Sections

end Imprint
