import Mathlib
import Imprint.Regex.Basic

/-!
# What regular expressions match

An expression matches a text between what stands before it and what stands after
it, and its groups match parts of that text.  The places that are found by
following an expression from place to place are those at which a match ends, so
an expression occurs in a text just when it matches a part of it.
-/

namespace Imprint

namespace Regex

/-!
## Matches
-/

/-- The groups of a match with what they matched, in the order of their opening. -/
abbrev Groups := List (Nat × Text)

/-- What is matched: a text between the one before it and the one after it, with its groups. -/
abbrev Matching := (before t after : Text) → Groups → Prop

def Matching.Nothing : Matching := fun _ t _ groups =>
  t = [] ∧ groups = []

def Matching.Then (first second : Matching) : Matching := fun before t after groups =>
  ∃ u v groups₁ groups₂, t = u ++ v ∧ groups = groups₁ ++ groups₂ ∧
    first before u (v ++ after) groups₁ ∧ second (before ++ u) v after groups₂

def Matching.Times (turn : Matching) : Nat → Matching
  | 0 => .Nothing
  | count + 1 => turn.Then (turn.Times count)

/-- What an expression matches.  What a group matched is not matched again. -/
def Matches : Regex → Matching
  | empty => .Nothing
  | one set => fun _ t _ groups => ∃ c, set.has c = true ∧ t = [c] ∧ groups = []
  | anchor a => fun before t after groups =>
      a.holds (before ++ after).toArray before.length = true ∧ t = [] ∧ groups = []
  | sequence first second => first.Matches.Then second.Matches
  | either first second => fun before t after groups =>
      first.Matches before t after groups ∨ second.Matches before t after groups
  | repeated body least most _ => fun before t after groups =>
      ∃ count, least ≤ count ∧ (∀ bound ∈ most, count ≤ bound) ∧
        body.Matches.Times count before t after groups
  | group index body => fun before t after groups =>
      ∃ inner, groups = (index, t) :: inner ∧ body.Matches before t after inner
  | again _ => fun _ _ _ _ => False

/-- No group is matched again, and the bounds of every repetition are in order. -/
def Regular : Regex → Prop
  | sequence first second => first.Regular ∧ second.Regular
  | either first second => first.Regular ∧ second.Regular
  | repeated body least most _ => body.Regular ∧ ∀ bound ∈ most, least ≤ bound
  | group _ body => body.Regular
  | again _ => False
  | _ => True

/-!
## From place to place
-/

namespace Matching

/-- A match begins at one place of a text and ends at another. -/
def Spans (m : Matching) (input : Text) (first last : Nat) : Prop :=
  ∃ before t after groups, input = before ++ (t ++ after) ∧ before.length = first ∧
    first + t.length = last ∧ m before t after groups

variable {m turn : Matching} {input : Text} {first last : Nat}

theorem Spans.le_length (hspans : m.Spans input first last) : last ≤ input.length := by
  rcases hspans with ⟨before, t, after, groups, rfl, rfl, rfl, -⟩
  simp only [List.length_append]
  omega

@[simp] theorem spans_nothing_iff :
    Matching.Nothing.Spans input first last ↔ first = last ∧ first ≤ input.length := by
  constructor
  · intro h
    rcases h with ⟨before, t, after, groups, rfl, rfl, rfl, rfl, -⟩
    simp
  · intro h
    rcases h with ⟨rfl, hle⟩
    exact ⟨input.take first, [], input.drop first, [], by simp, by simp [hle], rfl, rfl, rfl⟩

@[simp] theorem spans_then_iff {second : Matching} :
    (m.Then second).Spans input first last ↔
      ∃ middle, m.Spans input first middle ∧ second.Spans input middle last := by
  constructor
  · intro h
    rcases h with
      ⟨before, t, after, groups, rfl, rfl, rfl, u, v, groups₁, groups₂, rfl, rfl, hu, hv⟩
    refine ⟨before.length + u.length, ⟨before, u, v ++ after, groups₁, by simp, rfl, rfl, hu⟩,
      before ++ u, v, after, groups₂, by simp, by simp, ?_, hv⟩
    rw [List.length_append, Nat.add_assoc]
  · intro h
    rcases h with
      ⟨middle, ⟨before, u, behind, groups₁, rfl, rfl, rfl, hu⟩,
      before', v, after, groups₂, hinput, hlength, rfl, hv⟩
    rw [← List.append_assoc] at hinput
    obtain ⟨rfl, rfl⟩ := List.append_inj hinput (by rw [List.length_append, hlength])
    refine ⟨before, u ++ v, after, groups₁ ++ groups₂, by simp, rfl, ?_,
      u, v, groups₁, groups₂, rfl, rfl, hu, hv⟩
    rw [List.length_append, Nat.add_assoc]

end Matching

@[simp] theorem spans_one_iff {set : CharSet} {input : Text} {first last : Nat} :
    (one set).Matches.Spans input first last ↔
      input[first]?.any set.has = true ∧ last = first + 1 := by
  rw [Option.any_eq_true]
  constructor
  · intro h
    rcases h with ⟨before, t, after, groups, rfl, rfl, rfl, c, hc, rfl, -⟩
    exact ⟨⟨c, by simp, hc⟩, rfl⟩
  · intro h
    rcases h with ⟨⟨c, hget, hc⟩, rfl⟩
    rcases List.getElem?_eq_some_iff.mp hget with ⟨hlt, hget⟩
    refine ⟨input.take first, [c], input.drop (first + 1), [], ?_, ?_, rfl, c, hc, rfl, rfl⟩
    · rw [List.singleton_append, ← hget, List.getElem_cons_drop, List.take_append_drop]
    · rw [List.length_take, Nat.min_eq_left hlt.le]

@[simp] theorem spans_anchor_iff {a : Anchor} {input : Text} {first last : Nat} :
    (anchor a).Matches.Spans input first last ↔
      a.holds input.toArray first = true ∧ last = first ∧ first ≤ input.length := by
  constructor
  · intro h
    rcases h with ⟨before, t, after, groups, rfl, rfl, rfl, ha, rfl, -⟩
    exact ⟨ha, rfl, by simp⟩
  · intro h
    rcases h with ⟨ha, rfl, hle⟩
    refine ⟨input.take last, [], input.drop last, [], by simp, by simp [hle], rfl, ?_, rfl, rfl⟩
    rw [List.take_append_drop, List.length_take, Nat.min_eq_left hle]
    exact ha

@[simp] theorem spans_either_iff {r s : Regex} {input : Text} {first last : Nat} :
    (either r s).Matches.Spans input first last ↔
      r.Matches.Spans input first last ∨ s.Matches.Spans input first last := by
  constructor
  · intro h
    rcases h with ⟨before, t, after, groups, hinput, hfirst, hlast, hr | hs⟩
    · exact Or.inl ⟨before, t, after, groups, hinput, hfirst, hlast, hr⟩
    · exact Or.inr ⟨before, t, after, groups, hinput, hfirst, hlast, hs⟩
  · intro h
    rcases h with
      ⟨before, t, after, groups, hinput, hfirst, hlast, hr⟩ |
      ⟨before, t, after, groups, hinput, hfirst, hlast, hs⟩
    · exact ⟨before, t, after, groups, hinput, hfirst, hlast, Or.inl hr⟩
    · exact ⟨before, t, after, groups, hinput, hfirst, hlast, Or.inr hs⟩

@[simp] theorem spans_repeated_iff {body : Regex} {least : Nat} {most : Option Nat} {greedy : Bool}
    {input : Text} {first last : Nat} :
    (repeated body least most greedy).Matches.Spans input first last ↔
      ∃ count, least ≤ count ∧ (∀ bound ∈ most, count ≤ bound) ∧
        (body.Matches.Times count).Spans input first last := by
  constructor
  · intro h
    rcases h with
      ⟨before, t, after, groups, hinput, hfirst, hlast, count, hleast, hmost, htimes⟩
    exact ⟨count, hleast, hmost, before, t, after, groups, hinput, hfirst, hlast, htimes⟩
  · intro h
    rcases h with
      ⟨count, hleast, hmost, before, t, after, groups, hinput, hfirst, hlast, htimes⟩
    exact ⟨before, t, after, groups, hinput, hfirst, hlast, count, hleast, hmost, htimes⟩

@[simp] theorem spans_group_iff {index : Nat} {body : Regex} {input : Text} {first last : Nat} :
    (group index body).Matches.Spans input first last ↔ body.Matches.Spans input first last := by
  constructor
  · intro h
    rcases h with ⟨before, t, after, groups, hinput, hfirst, hlast, inner, -, hbody⟩
    exact ⟨before, t, after, inner, hinput, hfirst, hlast, hbody⟩
  · intro h
    rcases h with ⟨before, t, after, inner, hinput, hfirst, hlast, hbody⟩
    exact ⟨before, t, after, _, hinput, hfirst, hlast, inner, rfl, hbody⟩

/-!
## Repetitions
-/

@[simp] theorem mem_mergePlaces {place : Nat} {a b : List Nat} :
    place ∈ mergePlaces a b ↔ place ∈ a ∨ place ∈ b := by
  fun_induction mergePlaces a b with
  | case1 b => simp
  | case2 a _ => simp
  | case3 x a y b hlt ih => simp only [List.mem_cons, ih, or_assoc]
  | case4 x a y b hnot hlt ih =>
      simp only [List.mem_cons, ih]
      tauto
  | case5 x a y b hnot hnot' ih =>
      obtain rfl : x = y := by omega
      simp only [List.mem_cons, ih]
      tauto

def unfound (input : Text) (found : List Nat) : Nat :=
  ((Finset.range (input.length + 1)).filter fun place => place ∉ found).card

theorem unfound_le (input : Text) (found : List Nat) : unfound input found ≤ input.length + 1 :=
  (Finset.card_filter_le _ _).trans_eq (Finset.card_range _)

theorem unfound_lt {input : Text} {found more : List Nat} {place : Nat}
    (hplace : place ≤ input.length) (hnew : place ∉ found) (hmore : place ∈ more)
    (hsubset : found ⊆ more) : unfound input more < unfound input found := by
  refine Finset.card_lt_card ((Finset.ssubset_iff_of_subset ?_).mpr ⟨place, ?_, ?_⟩)
  · intro other hother
    rw [Finset.mem_filter] at hother ⊢
    exact ⟨hother.1, fun hold => hother.2 (hsubset hold)⟩
  · rw [Finset.mem_filter, Finset.mem_range]
    exact ⟨Nat.lt_succ_of_le hplace, hnew⟩
  · rw [Finset.mem_filter]
    exact fun hother => hother.2 hmore

theorem forall_le_pred_iff {most : Option Nat} (hmost : most ≠ some 0) {count : Nat} :
    (∀ bound ∈ most.map (· - 1), count ≤ bound) ↔ ∀ bound ∈ most, count + 1 ≤ bound := by
  cases most with
  | none => simp
  | some bound =>
      have hbound : bound ≠ 0 := fun hzero => hmost (congrArg some hzero)
      simp only [Option.map_some, Option.mem_some_iff, forall_eq']
      omega

/-- Of the places found, all but the fresh ones have been followed. -/
structure Explored (turn : Matching) (input : Text) (found fresh : List Nat) : Prop where
  within : ∀ place ∈ found, place ≤ input.length
  subset : fresh ⊆ found
  closed : ∀ place ∈ found, place ∉ fresh → ∀ last, turn.Spans input place last → last ∈ found

def Follows (turn : Matching) (input : Text) (step : List Nat → List Nat) : Prop :=
  ∀ places : List Nat, (∀ place ∈ places, place ≤ input.length) →
    ∀ last, last ∈ step places ↔ ∃ place ∈ places, turn.Spans input place last

section

variable {turn : Matching} {input : Text} {step : List Nat → List Nat} {found fresh : List Nat}
  {last : Nat}

theorem Follows.le_length (hstep : Follows turn input step)
    (hwithin : ∀ place ∈ fresh, place ≤ input.length) :
    ∀ place ∈ step fresh, place ≤ input.length := by
  intro place hplace
  rcases (hstep fresh hwithin place).mp hplace with ⟨start, -, hturn⟩
  exact hturn.le_length

namespace Explored

theorem within_fresh (hexplored : Explored turn input found fresh) :
    ∀ place ∈ fresh, place ≤ input.length :=
  fun place hplace => hexplored.within place (hexplored.subset hplace)

theorem mem_or_exists (hexplored : Explored turn input found fresh) {count place : Nat}
    (hplace : place ∈ found) (hspans : (turn.Times count).Spans input place last) :
    last ∈ found ∨ ∃ start ∈ fresh, ∃ fewer ≤ count, (turn.Times fewer).Spans input start last := by
  induction count generalizing place with
  | zero =>
      rw [(Matching.spans_nothing_iff.mp hspans).1] at hplace
      exact Or.inl hplace
  | succ count ih =>
      by_cases hfresh : place ∈ fresh
      · exact Or.inr ⟨place, hfresh, count + 1, le_rfl, hspans⟩
      · rcases Matching.spans_then_iff.mp hspans with ⟨middle, hturn, hspans⟩
        rcases ih (hexplored.closed place hplace hfresh middle hturn) hspans with
          hfound | ⟨start, hstart, fewer, hfewer, hspans⟩
        · exact Or.inl hfound
        · exact Or.inr ⟨start, hstart, fewer, hfewer.trans (Nat.le_succ count), hspans⟩

theorem follow (hexplored : Explored turn input found fresh) (hstep : Follows turn input step)
    {next : List Nat} (hnext : ∀ last, last ∈ next ↔ last ∈ step fresh ∧ last ∉ found) :
    Explored turn input (mergePlaces found next) next where
  within place hplace := by
    rcases mem_mergePlaces.mp hplace with hfound | hnew
    · exact hexplored.within place hfound
    · exact hstep.le_length hexplored.within_fresh place ((hnext place).mp hnew).1
  subset place hplace := mem_mergePlaces.mpr (Or.inr hplace)
  closed place hplace hold last hturn := by
    have hfound := (mem_mergePlaces.mp hplace).resolve_right hold
    rw [mem_mergePlaces, hnext, hstep fresh hexplored.within_fresh]
    by_cases hfresh : place ∈ fresh
    · by_cases hlast : last ∈ found
      · exact Or.inl hlast
      · exact Or.inr ⟨⟨place, hfresh, hturn⟩, hlast⟩
    · exact Or.inl (hexplored.closed place hfound hfresh last hturn)

end Explored

theorem Follows.exists_times_succ_iff (hstep : Follows turn input step)
    (hwithin : ∀ place ∈ fresh, place ≤ input.length) {count : Nat} :
    (∃ place ∈ fresh, (turn.Times (count + 1)).Spans input place last) ↔
      ∃ middle ∈ step fresh, (turn.Times count).Spans input middle last := by
  constructor
  · intro h
    rcases h with ⟨place, hplace, hspans⟩
    rcases Matching.spans_then_iff.mp hspans with ⟨middle, hturn, hspans⟩
    exact ⟨middle, (hstep fresh hwithin middle).mpr ⟨place, hplace, hturn⟩, hspans⟩
  · intro h
    rcases h with ⟨middle, hmiddle, hspans⟩
    rcases (hstep fresh hwithin middle).mp hmiddle with ⟨place, hplace, hturn⟩
    exact ⟨place, hplace, Matching.spans_then_iff.mpr ⟨middle, hturn, hspans⟩⟩

theorem Follows.exists_least_succ_iff (hstep : Follows turn input step)
    (hwithin : ∀ place ∈ fresh, place ≤ input.length) {least : Nat} {most : Option Nat}
    (hmost : most ≠ some 0) :
    (∃ count, least + 1 ≤ count ∧ (∀ bound ∈ most, count ≤ bound) ∧
      ∃ place ∈ fresh, (turn.Times count).Spans input place last) ↔
      ∃ count, least ≤ count ∧ (∀ bound ∈ most.map (· - 1), count ≤ bound) ∧
        ∃ middle ∈ step fresh, (turn.Times count).Spans input middle last := by
  constructor
  · intro h
    rcases h with ⟨_ | count, hleast, hcount, hspans⟩
    · cases hleast
    · exact ⟨count, Nat.le_of_succ_le_succ hleast, (forall_le_pred_iff hmost).mpr hcount,
        (hstep.exists_times_succ_iff hwithin).mp hspans⟩
  · intro h
    rcases h with ⟨count, hleast, hcount, hspans⟩
    exact ⟨count + 1, Nat.succ_le_succ hleast, (forall_le_pred_iff hmost).mp hcount,
      (hstep.exists_times_succ_iff hwithin).mpr hspans⟩

/-- A place was found, or is reached from a fresh one by as many turns as are allowed. -/
def Gathered (turn : Matching) (input : Text) (most : Option Nat) (found fresh : List Nat)
    (last : Nat) : Prop :=
  last ∈ found ∨ ∃ count, (∀ bound ∈ most, count ≤ bound) ∧
    ∃ place ∈ fresh, (turn.Times count).Spans input place last

section

variable (hexplored : Explored turn input found fresh) (hstep : Follows turn input step)
  {most : Option Nat} {next : List Nat}
  (hnext : ∀ last, last ∈ next ↔ last ∈ step fresh ∧ last ∉ found)

include hexplored

theorem Explored.gathered_iff_mem (hstop : fresh = [] ∨ most = some 0) :
    Gathered turn input most found fresh last ↔ last ∈ found := by
  refine ⟨?_, Or.inl⟩
  intro h
  rcases h with hfound | ⟨count, hcount, place, hplace, hspans⟩
  · exact hfound
  · rcases hstop with rfl | rfl
    · cases hplace
    · obtain rfl : count = 0 := Nat.le_zero.mp (hcount 0 rfl)
      rw [← (Matching.spans_nothing_iff.mp hspans).1]
      exact hexplored.subset hplace

include hstep hnext

theorem Explored.gathered_follow_iff (hmost : most ≠ some 0) :
    Gathered turn input (most.map (· - 1)) (mergePlaces found next) next last ↔
      Gathered turn input most found fresh last := by
  have hfurther := hexplored.follow hstep hnext
  have hturns : ∀ {count : Nat}, (∃ place ∈ fresh,
      (turn.Times (count + 1)).Spans input place last) ↔
        ∃ middle ∈ step fresh, (turn.Times count).Spans input middle last :=
    hstep.exists_times_succ_iff hexplored.within_fresh
  constructor
  · intro h
    rcases h with hlast | ⟨count, hcount, middle, hmiddle, hspans⟩
    · rcases mem_mergePlaces.mp hlast with hfound | hnew
      · exact Or.inl hfound
      · have hstay := Matching.spans_nothing_iff.mpr ⟨rfl, hfurther.within_fresh last hnew⟩
        exact Or.inr ⟨1, (forall_le_pred_iff hmost).mp fun _ _ => Nat.zero_le _,
          hturns.mpr ⟨last, ((hnext last).mp hnew).1, hstay⟩⟩
    · exact Or.inr ⟨count + 1, (forall_le_pred_iff hmost).mp hcount,
        hturns.mpr ⟨middle, ((hnext middle).mp hmiddle).1, hspans⟩⟩
  · intro h
    rcases h with hfound | ⟨_ | count, hcount, hspans⟩
    · exact Or.inl (mem_mergePlaces.mpr (Or.inl hfound))
    · rcases hspans with ⟨place, hplace, hspans⟩
      rw [← (Matching.spans_nothing_iff.mp hspans).1]
      exact Or.inl (mem_mergePlaces.mpr (Or.inl (hexplored.subset hplace)))
    · rcases hturns.mp hspans with ⟨middle, hmiddle, hspans⟩
      have hfound : middle ∈ mergePlaces found next := by
        rw [mem_mergePlaces, hnext]
        tauto
      refine (hfurther.mem_or_exists hfound hspans).imp_right ?_
      intro h
      rcases h with ⟨start, hstart, fewer, hfewer, hspans⟩
      have hcount := (forall_le_pred_iff hmost).mpr hcount
      exact ⟨fewer, fun bound hbound => hfewer.trans (hcount bound hbound), start, hstart, hspans⟩

theorem Explored.unfound_follow_lt (hne : next ≠ []) :
    unfound input (mergePlaces found next) < unfound input found := by
  have hfurther := hexplored.follow hstep hnext
  rcases List.exists_mem_of_ne_nil next hne with ⟨place, hplace⟩
  exact unfound_lt (hfurther.within_fresh place hplace) ((hnext place).mp hplace).2
    (hfurther.subset hplace) fun old hold => mem_mergePlaces.mpr (Or.inl hold)

end

theorem Follows.mem_placesAfter_zero (hstep : Follows turn input step) {fuel : Nat}
    {most : Option Nat} (hexplored : Explored turn input found fresh)
    (hfuel : fresh ≠ [] → unfound input found < fuel) :
    last ∈ placesAfter step fuel 0 most found fresh ↔
      Gathered turn input most found fresh last := by
  induction fuel generalizing most found fresh with
  | zero =>
      have hempty : fresh = [] := by
        by_contra hne
        exact Nat.not_lt_zero _ (hfuel hne)
      rw [hexplored.gathered_iff_mem (Or.inl hempty), placesAfter]
  | succ fuel ih =>
      rw [placesAfter]
      split
      · rename_i hstop
        rw [Bool.or_eq_true, List.isEmpty_iff, beq_iff_eq] at hstop
        exact (hexplored.gathered_iff_mem hstop).symm
      · rename_i hgo
        rw [Bool.or_eq_true, List.isEmpty_iff, beq_iff_eq, not_or] at hgo
        have hnext : ∀ last,
            last ∈ (step fresh).filter (fun place => !found.contains place) ↔
              last ∈ step fresh ∧ last ∉ found := by
          simp
        rw [ih (hexplored.follow hstep hnext), hexplored.gathered_follow_iff hstep hnext hgo.2]
        intro hne
        have hless := hexplored.unfound_follow_lt hstep hnext hne
        have hroom := hfuel hgo.1
        omega

theorem Follows.mem_placesAfter (hstep : Follows turn input step) {fuel least : Nat}
    {most : Option Nat} (hordered : ∀ bound ∈ most, least ≤ bound)
    (hfuel : input.length + least + 1 < fuel) (hwithin : ∀ place ∈ fresh, place ≤ input.length)
    (hfound : least = 0 → found = fresh) :
    last ∈ placesAfter step fuel least most found fresh ↔
      ∃ count, least ≤ count ∧ (∀ bound ∈ most, count ≤ bound) ∧
        ∃ place ∈ fresh, (turn.Times count).Spans input place last := by
  induction least generalizing fuel most found fresh with
  | zero =>
      rcases hfound rfl with rfl
      have hexplored : Explored turn input found found :=
        ⟨hwithin, List.Subset.refl found, fun _ hplace hold => absurd hplace hold⟩
      have hroom := unfound_le input found
      rw [hstep.mem_placesAfter_zero hexplored fun _ => by omega]
      constructor
      · intro h
        rcases h with hlast | ⟨count, hcount, hspans⟩
        · exact ⟨0, le_rfl, fun _ _ => Nat.zero_le _, last, hlast,
            Matching.spans_nothing_iff.mpr ⟨rfl, hwithin last hlast⟩⟩
        · exact ⟨count, Nat.zero_le count, hcount, hspans⟩
      · intro h
        rcases h with ⟨count, -, hcount, hspans⟩
        exact Or.inr ⟨count, hcount, hspans⟩
  | succ least ih =>
      have hmost : most ≠ some 0 := by
        rintro rfl
        exact Nat.not_succ_le_zero least (hordered 0 rfl)
      rcases fuel with _ | fuel
      · cases hfuel
      rw [hstep.exists_least_succ_iff hwithin hmost, placesAfter]
      split
      · rename_i hempty
        simp [List.isEmpty_iff.mp hempty]
      · exact ih ((forall_le_pred_iff hmost).mpr hordered) (by omega) (hstep.le_length hwithin)
          fun hzero => if_pos hzero

end

/-!
## Occurrences
-/

theorem follows_ends {r : Regex} (hregular : r.Regular) (input : Text) :
    Follows r.Matches input (r.ends input.toArray) := by
  induction r with
  | empty =>
      intro places hwithin last
      constructor
      · exact fun hlast => ⟨last, hlast, Matching.spans_nothing_iff.mpr ⟨rfl, hwithin last hlast⟩⟩
      · intro h
        rcases h with ⟨place, hplace, hspans⟩
        rw [← (Matching.spans_nothing_iff.mp hspans).1]
        exact hplace
  | one set =>
      intro places _ last
      simp only [ends, List.mem_map, List.mem_filter, spans_one_iff, List.getElem?_toArray,
        and_assoc, eq_comm]
  | anchor a =>
      intro places hwithin last
      simp only [ends, List.mem_filter, spans_anchor_iff]
      constructor
      · intro h
        rcases h with ⟨hplace, ha⟩
        exact ⟨last, hplace, ha, rfl, hwithin last hplace⟩
      · intro h
        rcases h with ⟨place, hplace, ha, rfl, -⟩
        exact ⟨hplace, ha⟩
  | sequence first second ihFirst ihSecond =>
      intro places hwithin last
      have hfirst := ihFirst hregular.1 places hwithin
      have hmiddle := (ihFirst hregular.1).le_length hwithin
      simp only [ends, ihSecond hregular.2 _ hmiddle last, hfirst, Matches,
        Matching.spans_then_iff]
      tauto
  | either first second ihFirst ihSecond =>
      intro places hwithin last
      simp only [ends, mem_mergePlaces, ihFirst hregular.1 places hwithin last,
        ihSecond hregular.2 places hwithin last, spans_either_iff, and_or_left, exists_or]
  | repeated body least most greedy ih =>
      intro places hwithin last
      have hplaces : least = 0 → (if least = 0 then places else []) = places := fun h => if_pos h
      rw [ends, (ih hregular.1).mem_placesAfter hregular.2 (by simp) hwithin hplaces]
      simp only [spans_repeated_iff]
      constructor
      · intro h
        rcases h with ⟨count, hleast, hmost, place, hplace, hspans⟩
        exact ⟨place, hplace, count, hleast, hmost, hspans⟩
      · intro h
        rcases h with ⟨place, hplace, count, hleast, hmost, hspans⟩
        exact ⟨count, hleast, hmost, place, hplace, hspans⟩
  | group index body ih =>
      intro places hwithin last
      simp only [ends, ih hregular places hwithin last, spans_group_iff]
  | again index => exact hregular.elim

theorem refersWithin_of_regular {r : Regex} (hregular : r.Regular) (count : Nat) :
    r.refersWithin count = true := by
  induction r with
  | sequence first second ihFirst ihSecond =>
      rw [refersWithin, ihFirst hregular.1, ihSecond hregular.2]
      rfl
  | either first second ihFirst ihSecond =>
      rw [refersWithin, ihFirst hregular.1, ihSecond hregular.2]
      rfl
  | repeated body least most greedy ih => exact ih hregular.1
  | group index body ih => exact ih hregular
  | again index => exact hregular.elim
  | _ => rfl

theorem occursIn_iff {r : Regex} (hregular : r.Regular) (input : Text) :
    r.occursIn input = true ↔ ∃ before t after groups, input = before ++ (t ++ after) ∧
      r.Matches before t after groups := by
  have hwithin : ∀ place ∈ List.range (input.length + 1), place ≤ input.length :=
    fun place hplace => Nat.le_of_lt_succ (List.mem_range.mp hplace)
  have hends := follows_ends hregular input _ hwithin
  simp only [occursIn, refersWithin_of_regular hregular, if_true, List.size_toArray,
    Bool.not_eq_true', List.isEmpty_eq_false_iff_exists_mem, hends]
  constructor
  · intro h
    rcases h with ⟨last, place, -, before, t, after, groups, hinput, -, -, hmatches⟩
    exact ⟨before, t, after, groups, hinput, hmatches⟩
  · intro h
    rcases h with ⟨before, t, after, groups, hinput, hmatches⟩
    refine ⟨_, before.length, ?_, before, t, after, groups, hinput, rfl, rfl, hmatches⟩
    rw [List.mem_range, hinput, List.length_append]
    omega

theorem occursIn_iff_of_whole {r : Regex} (hregular : r.Regular)
    (hwhole : ∀ {before t after groups}, r.Matches before t after groups →
      before = [] ∧ after = []) (input : Text) :
    r.occursIn input = true ↔ ∃ groups, r.Matches [] input [] groups := by
  rw [occursIn_iff hregular]
  constructor
  · intro h
    rcases h with ⟨before, t, after, groups, rfl, hmatches⟩
    rcases hwhole hmatches with ⟨rfl, rfl⟩
    rw [List.nil_append, List.append_nil]
    exact ⟨groups, hmatches⟩
  · intro h
    rcases h with ⟨groups, hmatches⟩
    exact ⟨[], input, [], groups, by simp, hmatches⟩

end Regex

end Imprint
