import Mathlib
import Imprint.Proofs.Memory.Listing
import Imprint.Proofs.Records

/-!
# The memories that a listing admits

The statements of a listing admit a memory when no two of its instructions
disagree on a word and those outside the filled range encode the no-operation
instruction.  They admit exactly one when the words of the instructions are
those of the range, each once: a word of the range without an instruction is
free, and the count of the range is the count of the instructions.
-/

namespace Imprint

namespace Listing

section

variable {listing : Text} {start : BitVec 30} {nop : BitVec 32}

theorem outside_iff {count : Nat} (hfit : start.toNat + count < 2 ^ 30) (a : BitVec 30) :
    (a < start ∨ a ≥ start + BitVec.ofNat 30 count) ↔
      (a.toNat < start.toNat ∨ start.toNat + count ≤ a.toNat) := by
  have hcount : count % 2 ^ 30 = count := Nat.mod_eq_of_lt (by omega)
  have hend : (start + BitVec.ofNat 30 count).toNat = start.toNat + count := by
    rw [BitVec.toNat_add, BitVec.toNat_ofNat, hcount, Nat.mod_eq_of_lt hfit]
  rw [ge_iff_le, BitVec.lt_def, BitVec.le_def, hend]

theorem toNat_index {i : Instruction} (hi : i ∈ instructions listing) :
    i.index.toNat = i.word.toNat := by
  rw [Instruction.index, BitVec.toNat_setWidth, Nat.mod_eq_of_lt (word_lt hi)]

theorem word_eq_of_index_eq {i j : Instruction} (hi : i ∈ instructions listing)
    (hj : j ∈ instructions listing) (hindex : i.index = j.index) : i.word = j.word := by
  apply BitVec.eq_of_toNat_eq
  rw [← toNat_index hi, ← toNat_index hj, hindex]

/-!
## Some memory
-/

/-- The memory that holds the instructions, the first one of each word, and `nop`
everywhere else. -/
def image (listing : Text) (nop : BitVec 32) : Memory := fun a =>
  match (instructions listing).find? fun i => i.index = a with
  | some i => i.bits
  | none => nop

/-- No two instructions of the same word have different encodings. -/
def Agreeing (listing : Text) : Prop :=
  ∀ i ∈ instructions listing, ∀ j ∈ instructions listing, i.word = j.word → i.bits = j.bits

/-- Every instruction whose word is outside of the filled range encodes `nop`. -/
def QuietOutside (listing : Text) (start : BitVec 30) (nop : BitVec 32) : Prop :=
  ∀ i ∈ instructions listing,
    i.word.toNat < start.toNat ∨
        start.toNat + (read listing).instructionCount ≤ i.word.toNat →
      i.bits = nop

theorem image_index (hagree : Agreeing listing) {i : Instruction}
    (hi : i ∈ instructions listing) : image listing nop i.index = i.bits := by
  unfold image
  cases hfind : (instructions listing).find? fun j => j.index = i.index with
  | none =>
      have hnone := List.find?_eq_none.mp hfind i hi
      exact absurd (decide_eq_true rfl) hnone
  | some j =>
      have hj := List.mem_of_find?_eq_some hfind
      have hindex : j.index = i.index := by
        simpa using List.find?_some hfind
      exact hagree j hj i hi (word_eq_of_index_eq hj hi hindex)

theorem models_image (hfit : start.toNat + (read listing).instructionCount < 2 ^ 30)
    (hagree : Agreeing listing) (hquiet : QuietOutside listing start nop) :
    (image listing nop).Models start nop (read listing).statements := by
  rw [models_statements_iff, ← instructionCount_eq_length]
  constructor
  · intro i hi
    exact image_index hagree hi
  · intro a ha
    rw [outside_iff hfit] at ha
    unfold image
    cases hfind : (instructions listing).find? fun i => i.index = a with
    | none =>
        rfl
    | some i =>
        have hi := List.mem_of_find?_eq_some hfind
        have hindex : i.index = a := by
          simpa using List.find?_some hfind
        rw [← hindex, toNat_index hi] at ha
        exact hquiet i hi ha

theorem exists_models_iff (hfit : start.toNat + (read listing).instructionCount < 2 ^ 30) :
    (∃ m : Memory, m.Models start nop (read listing).statements) ↔
      Agreeing listing ∧ QuietOutside listing start nop := by
  constructor
  · rintro ⟨m, hm⟩
    rw [models_statements_iff, ← instructionCount_eq_length] at hm
    obtain ⟨hpinned, hfilled⟩ := hm
    constructor
    · intro i hi j hj hword
      rw [← hpinned i hi, ← hpinned j hj, Instruction.index, Instruction.index, hword]
    · intro i hi houtside
      rw [← toNat_index hi] at houtside
      rw [← hpinned i hi]
      exact hfilled i.index ((outside_iff hfit i.index).mpr houtside)
  · rintro ⟨hagree, hquiet⟩
    exact ⟨_, models_image hfit hagree hquiet⟩

/-!
## Exactly one memory
-/

theorem models_update (hfit : start.toNat + (read listing).instructionCount < 2 ^ 30)
    {m : Memory} (hm : m.Models start nop (read listing).statements) {a : BitVec 30}
    (hfree : ∀ i ∈ instructions listing, i.index ≠ a) (hlow : start.toNat ≤ a.toNat)
    (hhigh : a.toNat < start.toNat + (read listing).instructionCount) (value : BitVec 32) :
    Memory.Models start nop (Function.update m a value) (read listing).statements := by
  rw [models_statements_iff, ← instructionCount_eq_length] at hm ⊢
  constructor
  · intro i hi
    rw [Function.update_of_ne (hfree i hi)]
    exact hm.1 i hi
  · intro b hb
    have hba : b ≠ a := by
      rintro rfl
      rw [outside_iff hfit] at hb
      omega
    rw [Function.update_of_ne hba]
    exact hm.2 b hb

theorem perm_range_of_determined
    (hfit : start.toNat + (read listing).instructionCount < 2 ^ 30)
    {m : Memory} (hm : m.Models start nop (read listing).statements)
    (hdetermined : ∀ a : BitVec 30, (∀ i ∈ instructions listing, i.index ≠ a) →
      ∀ m' : Memory, m'.Models start nop (read listing).statements → m' a = m a) :
    ((instructions listing).map fun i => i.word.toNat).Perm
      (List.range' start.toNat (read listing).instructionCount) := by
  have hmentioned : List.range' start.toNat (read listing).instructionCount ⊆
      (instructions listing).map fun i => i.word.toNat := by
    intro word hword
    rw [List.mem_range'_1] at hword
    have hlt : word < 2 ^ 30 := by
      omega
    have ha : (BitVec.ofNat 30 word).toNat = word := by
      rw [BitVec.toNat_ofNat, Nat.mod_eq_of_lt hlt]
    by_contra hfree
    have hne : ∀ i ∈ instructions listing, i.index ≠ BitVec.ofNat 30 word := by
      intro i hi hindex
      apply hfree
      refine List.mem_map.mpr ⟨i, hi, ?_⟩
      rw [← toNat_index hi, hindex, ha]
    have hother := models_update hfit hm hne (by omega) (by omega)
      (m (BitVec.ofNat 30 word) + 1)
    have hsame := hdetermined _ hne _ hother
    rw [Function.update_self] at hsame
    simp at hsame
  have hsubperm := List.subperm_of_subset List.nodup_range' hmentioned
  have hlength : ((instructions listing).map fun i => i.word.toNat).length ≤
      (List.range' start.toNat (read listing).instructionCount).length := by
    rw [List.length_map, List.length_range', instructionCount_eq_length]
  exact (hsubperm.perm_of_length_le hlength).symm

section

variable (hperm : ((instructions listing).map fun i => i.word.toNat).Perm
  (List.range' start.toNat (read listing).instructionCount))

include hperm

theorem agreeing_of_perm : Agreeing listing := by
  intro i hi j hj hword
  have hnodup := hperm.nodup_iff.mpr List.nodup_range'
  have hij : i = j :=
    List.inj_on_of_nodup_map hnodup hi hj (congrArg BitVec.toNat hword)
  rw [hij]

theorem quietOutside_of_perm : QuietOutside listing start nop := by
  intro i hi houtside
  have hmem : i.word.toNat ∈ List.range' start.toNat (read listing).instructionCount :=
    hperm.mem_iff.mp (List.mem_map_of_mem hi)
  rw [List.mem_range'_1] at hmem
  omega

theorem outside_of_perm {a : BitVec 30} (hfree : ∀ i ∈ instructions listing, i.index ≠ a) :
    a.toNat < start.toNat ∨ start.toNat + (read listing).instructionCount ≤ a.toNat := by
  by_contra hwithin
  have hmem : a.toNat ∈ List.range' start.toNat (read listing).instructionCount := by
    rw [List.mem_range'_1]
    omega
  obtain ⟨i, hi, hword⟩ := List.mem_map.mp (hperm.mem_iff.mpr hmem)
  apply hfree i hi
  apply BitVec.eq_of_toNat_eq
  rw [toNat_index hi, hword]

end

theorem models_of_perm (hfit : start.toNat + (read listing).instructionCount < 2 ^ 30)
    (hperm : ((instructions listing).map fun i => i.word.toNat).Perm
      (List.range' start.toNat (read listing).instructionCount))
    {m : Memory} (hm : m.Models start nop (read listing).statements) :
    (∀ i ∈ instructions listing, m i.index = i.bits) ∧
      ∀ a, (∀ i ∈ instructions listing, i.index ≠ a) → m a = nop := by
  rw [models_statements_iff, ← instructionCount_eq_length] at hm
  refine ⟨hm.1, fun a hfree => ?_⟩
  exact hm.2 a ((outside_iff hfit a).mpr (outside_of_perm hperm hfree))

theorem existsUnique_models_iff
    (hfit : start.toNat + (read listing).instructionCount < 2 ^ 30) :
    (∃! m : Memory, m.Models start nop (read listing).statements) ↔
      ((instructions listing).map fun i => i.word.toNat).Perm
        (List.range' start.toNat (read listing).instructionCount) := by
  constructor
  · rintro ⟨m, hm, hunique⟩
    apply perm_range_of_determined hfit hm
    intro a _ m' hm'
    rw [hunique m' hm']
  · intro hperm
    have himage : (image listing nop).Models start nop (read listing).statements :=
      models_image hfit (agreeing_of_perm hperm) (quietOutside_of_perm hperm)
    refine ⟨_, himage, fun m hm => ?_⟩
    obtain ⟨hpinned, hfilled⟩ := models_of_perm hfit hperm hm
    obtain ⟨hpinned', hfilled'⟩ := models_of_perm hfit hperm himage
    funext a
    by_cases hfree : ∀ i ∈ instructions listing, i.index ≠ a
    · rw [hfilled a hfree, hfilled' a hfree]
    · obtain ⟨i, hi, rfl⟩ : ∃ i ∈ instructions listing, i.index = a := by
        simpa using hfree
      rw [hpinned i hi, hpinned' i hi]

end

/-!
## The meaning of the statements
-/

/-- Some memory meets the statements of a listing exactly when instructions of one word
agree and those outside of the range are no-operations; exactly one does when the words
are those of the range in some order, and it holds the program and no-operations. -/
theorem statements_meaning (listing : Text) (start : BitVec 30) (nop : BitVec 32)
    (hfit : start.toNat + (read listing).instructionCount < 2 ^ 30) :
    ((∃ m : Memory, m.Models start nop (read listing).statements) ↔
      (∀ i ∈ instructions listing, ∀ j ∈ instructions listing,
        i.word = j.word → i.bits = j.bits) ∧
      ∀ i ∈ instructions listing,
        i.word.toNat < start.toNat ∨
            start.toNat + (read listing).instructionCount ≤ i.word.toNat →
          i.bits = nop) ∧
    ((∃! m : Memory, m.Models start nop (read listing).statements) ↔
      ((instructions listing).map fun i => i.word.toNat).Perm
        (List.range' start.toNat (read listing).instructionCount)) ∧
    ∀ m : Memory, (∃! m' : Memory, m'.Models start nop (read listing).statements) →
      m.Models start nop (read listing).statements →
      (∀ i ∈ instructions listing, m i.index = i.bits) ∧
        ∀ a, (∀ i ∈ instructions listing, i.index ≠ a) → m a = nop := by
  refine ⟨exists_models_iff hfit, existsUnique_models_iff hfit, fun m hunique hm => ?_⟩
  exact models_of_perm hfit ((existsUnique_models_iff hfit).mp hunique) hm

def descending : Text :=
  "Disassembly of section .text.init:\n00000004: 00008067 \tret\n00000000: 00000093 \tli\n".toList

theorem statements_meaning_descending :
    (read descending).instructionCount = 2 ∧
      (∃! m : Memory, m.Models 0#30 0x13#32 (read descending).statements) ∧
      ∀ m : Memory, m.Models 0#30 0x13#32 (read descending).statements →
        m 1#30 = 0x8067#32 ∧ m 0#30 = 0x93#32 ∧ ∀ a, a ≠ 0#30 → a ≠ 1#30 → m a = 0x13#32 := by
  have hcount : (read descending).instructionCount = 2 := by
    decide +kernel
  have hprogram : instructions descending =
      [⟨1, 0x8067#32, "ret".toList⟩, ⟨0, 0x93#32, "li".toList⟩] := by
    decide +kernel
  have hfit : (0#30).toNat + (read descending).instructionCount < 2 ^ 30 := by
    rw [hcount]
    decide
  obtain ⟨-, hunique, hholds⟩ := statements_meaning descending 0#30 0x13#32 hfit
  have hunique := hunique.mpr (by rw [hprogram, hcount]; decide)
  refine ⟨hcount, hunique, fun m hm => ?_⟩
  obtain ⟨hlisted, hfree⟩ := hholds m hunique hm
  rw [hprogram] at hlisted hfree
  refine ⟨hlisted ⟨1, 0x8067#32, "ret".toList⟩ (by simp),
    hlisted ⟨0, 0x93#32, "li".toList⟩ (by simp), fun a hzero hone => hfree a ?_⟩
  intro i hi
  simp only [List.mem_cons, List.not_mem_nil, or_false] at hi
  rcases hi with rfl | rfl
  · exact hone.symm
  · exact hzero.symm

/-- The meaning by the lines that the code section governs: their records decide which memories
meet the statements. -/
theorem meaning_of_recorded {listing : Text} {items : List ListingItem} {program : List Instruction}
    {start : BitVec 30} {nop : BitVec 32} (hrecorded : Recorded (· ≠ []) listing items)
    (hprogram : items.filterMap ListingItem.instruction? = program)
    (hfit : start.toNat + program.length < 2 ^ 30) :
    ((∃ m : Memory, m.Models start nop (read listing).statements) ↔
      (∀ i ∈ program, ∀ j ∈ program, i.word = j.word → i.bits = j.bits) ∧
      ∀ i ∈ program,
        i.word.toNat < start.toNat ∨ start.toNat + program.length ≤ i.word.toNat →
          i.bits = nop) ∧
    ((∃! m : Memory, m.Models start nop (read listing).statements) ↔
      (program.map fun i => i.word.toNat).Perm (List.range' start.toNat program.length)) ∧
    ∀ m : Memory, (∃! m' : Memory, m'.Models start nop (read listing).statements) →
      m.Models start nop (read listing).statements →
      (∀ i ∈ program, m i.index = i.bits) ∧
        ∀ a, (∀ i ∈ program, i.index ≠ a) → m a = nop := by
  obtain rfl := (recorded_unblank_iff listing items).mp hrecorded
  rw [filterMap_items] at hprogram
  subst hprogram
  rw [← instructionCount_eq_length] at hfit ⊢
  refine ⟨exists_models_iff hfit, existsUnique_models_iff hfit, fun m hunique hm => ?_⟩
  exact models_of_perm hfit ((existsUnique_models_iff hfit).mp hunique) hm

end Listing

end Imprint
