import Mathlib
import Imprint.Proofs.Memory.Admission

/-!
# Gaps between the instructions

The filled range counts instructions and not addresses.  A listing in
ascending order settles the whole memory exactly when its addresses leave no
gap; behind a gap the range ends too early, and a word of the gap is free or
no memory is left at all.
-/

namespace Imprint

namespace Listing

def addresses (listing : Text) : List Nat :=
  (instructionLines listing).map Instruction.addressOf

/-- The statements of a listing settle the memory: they admit some memory, and every
memory that they admit holds each instruction at its word and `nop` at all words that the
listing does not mention. -/
structure Settled (listing : Text) (start : BitVec 30) (nop : BitVec 32) : Prop where
  admitted : ∃ m : Memory, m.Models start nop (read listing).statements
  listed : ∀ m : Memory, m.Models start nop (read listing).statements →
    ∀ i ∈ instructions listing, m i.index = i.bits
  unlisted : ∀ m : Memory, m.Models start nop (read listing).statements →
    ∀ a, (∀ i ∈ instructions listing, i.index ≠ a) → m a = nop

/-!
## Ascending addresses
-/

theorem words_eq_addresses (listing : Text) :
    (instructions listing).map (fun i => i.word.toNat) = (addresses listing).map (· / 4) := by
  have hread : ∀ line ∈ instructionLines listing, (Instruction.read? line).isSome := by
    intro line hline
    exact (List.mem_filter.mp hline).2
  unfold instructions addresses
  generalize instructionLines listing = lines at hread ⊢
  induction lines with
  | nil =>
      rfl
  | cons line rest ih =>
      obtain ⟨i, hi⟩ := Option.isSome_iff_exists.mp (hread line List.mem_cons_self)
      have hrest := ih fun other hother => hread other (List.mem_cons_of_mem _ hother)
      rw [List.filterMap_cons_some hi, List.map_cons, hrest, (Instruction.read?_address hi).2]
      rfl

theorem eq_range_of_isChain {first : Nat} {rest : List Nat}
    (hchain : (first :: rest).IsChain fun a b => b = a + 1) :
    first :: rest = List.range' first (rest.length + 1) := by
  induction rest generalizing first with
  | nil =>
      rfl
  | cons next rest ih =>
      obtain ⟨hnext, htail⟩ := List.isChain_cons_cons.mp hchain
      rw [List.range'_succ, ← hnext, List.length_cons, ← ih htail]

theorem isChain_words_iff {as : List Nat} (haligned : ∀ a ∈ as, 4 ∣ a) :
    ((as.map (· / 4)).IsChain fun a b => b = a + 1) ↔ as.IsChain fun a b => b = a + 4 := by
  induction as with
  | nil =>
      simp
  | cons a rest ih =>
      cases rest with
      | nil =>
          simp
      | cons b rest =>
          have ha := haligned a (by simp)
          have hb := haligned b (by simp)
          have htail := ih fun c hc => haligned c (List.mem_cons_of_mem _ hc)
          rw [List.map_cons] at htail ⊢
          rw [List.map_cons, List.isChain_cons_cons, List.isChain_cons_cons, htail]
          have hstep : b / 4 = a / 4 + 1 ↔ b = a + 4 := by
            omega
          rw [hstep]

theorem length_le_of_pairwise {first bound : Nat} {rest : List Nat}
    (hascending : (first :: rest).Pairwise (· < ·))
    (hbound : ∀ w ∈ first :: rest, w < bound) : first + (rest.length + 1) ≤ bound := by
  induction rest generalizing first with
  | nil =>
      exact hbound first (List.mem_singleton_self _)
  | cons next rest ih =>
      have hnext : first < next := (List.pairwise_cons.mp hascending).1 next (by simp)
      have htail := ih (List.pairwise_cons.mp hascending).2
        fun w hw => hbound w (List.mem_cons_of_mem _ hw)
      rw [List.length_cons]
      omega

section

variable {listing : Text} {start : BitVec 30} {nop : BitVec 32} {first : Nat}
  (hfirst : (addresses listing).head? = some first) (hstart : start.toNat = first / 4)
  (hascending : (addresses listing).Pairwise (· < ·))
  (haligned : ∀ a ∈ addresses listing, 4 ∣ a)

include hfirst hstart hascending haligned

theorem words_ascending :
    ∃ rest, (instructions listing).map (fun i => i.word.toNat) = start.toNat :: rest ∧
      (start.toNat :: rest).Pairwise (· < ·) := by
  have hpairwise : ((addresses listing).map (· / 4)).Pairwise (· < ·) := by
    rw [List.pairwise_map]
    refine hascending.imp_of_mem fun {a b} ha hb hab => ?_
    have hfour := haligned a ha
    have hfour' := haligned b hb
    omega
  rw [words_eq_addresses]
  cases has : addresses listing with
  | nil =>
      rw [has] at hfirst
      cases hfirst
  | cons a rest =>
      rw [has] at hfirst hpairwise
      cases hfirst
      refine ⟨rest.map (· / 4), ?_, ?_⟩
      · rw [List.map_cons, hstart]
      · rw [List.map_cons, ← hstart] at hpairwise
        exact hpairwise

theorem perm_range_iff_isChain :
    ((instructions listing).map fun i => i.word.toNat).Perm
        (List.range' start.toNat (read listing).instructionCount) ↔
      (addresses listing).IsChain fun a b => b = a + 4 := by
  obtain ⟨rest, hwords, hpairwise⟩ := words_ascending hfirst hstart hascending haligned
  have hlength : (read listing).instructionCount = rest.length + 1 := by
    rw [instructionCount_eq_length, ← List.length_map, hwords, List.length_cons]
  rw [← isChain_words_iff haligned, ← words_eq_addresses, hwords, hlength]
  constructor
  · intro hperm
    have heq : start.toNat :: rest = List.range' start.toNat (rest.length + 1) :=
      List.Perm.eq_of_pairwise (fun a b _ _ hab hba => absurd hab (Nat.lt_asymm hba))
        hpairwise List.pairwise_lt_range' hperm
    rw [heq]
    exact List.isChain_range' _ _ _
  · intro hchain
    rw [← eq_range_of_isChain hchain]

variable (hlast : ∀ a ∈ addresses listing, a / 4 + 1 < 2 ^ 30)

include hlast

theorem range_fits : start.toNat + (read listing).instructionCount < 2 ^ 30 := by
  obtain ⟨rest, hwords, hpairwise⟩ := words_ascending hfirst hstart hascending haligned
  have hlength : (read listing).instructionCount = rest.length + 1 := by
    rw [instructionCount_eq_length, ← List.length_map, hwords, List.length_cons]
  have hbound : ∀ w ∈ start.toNat :: rest, w < 2 ^ 30 - 1 := by
    intro w hw
    rw [← hwords, words_eq_addresses] at hw
    obtain ⟨a, ha, rfl⟩ := List.mem_map.mp hw
    have := hlast a ha
    omega
  have := length_le_of_pairwise hpairwise hbound
  omega

theorem settled_iff_isChain :
    Settled listing start nop ↔ (addresses listing).IsChain fun a b => b = a + 4 := by
  have hfit := range_fits hfirst hstart hascending haligned hlast
  rw [← perm_range_iff_isChain hfirst hstart hascending haligned]
  constructor
  · intro hsettled
    obtain ⟨m, hm⟩ := hsettled.admitted
    apply perm_range_of_determined hfit hm
    intro a hfree m' hm'
    rw [hsettled.unlisted m' hm' a hfree, hsettled.unlisted m hm a hfree]
  · intro hperm
    exact
      { admitted := ((existsUnique_models_iff hfit).mpr hperm).exists
        listed := fun m hm => (models_of_perm hfit hperm hm).1
        unlisted := fun m hm => (models_of_perm hfit hperm hm).2 }

theorem exists_models_iff_tail :
    (∃ m : Memory, m.Models start nop (read listing).statements) ↔
      ∀ i ∈ instructions listing,
        start.toNat + (read listing).instructionCount ≤ i.word.toNat → i.bits = nop := by
  have hfit := range_fits hfirst hstart hascending haligned hlast
  obtain ⟨rest, hwords, hpairwise⟩ := words_ascending hfirst hstart hascending haligned
  rw [exists_models_iff hfit]
  constructor
  · rintro ⟨-, hquiet⟩ i hi hbehind
    exact hquiet i hi (Or.inr hbehind)
  · intro hbehind
    constructor
    · intro i hi j hj hword
      have hnodup : ((instructions listing).map fun i => i.word.toNat).Nodup := by
        rw [hwords]
        exact hpairwise.imp fun hlt => Nat.ne_of_lt hlt
      rw [List.inj_on_of_nodup_map hnodup hi hj (congrArg BitVec.toNat hword)]
    · intro i hi houtside
      rcases houtside with hbefore | hafter
      · have hmem : i.word.toNat ∈ start.toNat :: rest := by
          rw [← hwords]
          exact List.mem_map_of_mem hi
        rcases List.mem_cons.mp hmem with heq | htail
        · omega
        · have := (List.pairwise_cons.mp hpairwise).1 _ htail
          omega
      · exact hbehind i hi hafter

/-- A listing in ascending order from the start of the program on settles the memory
exactly when each instruction stands four bytes after the one before it.  Its statements
admit some memory exactly when the instructions behind the filled range are no-operations. -/
theorem settled_iff_gapless :
    (Settled listing start nop ↔ (addresses listing).IsChain fun a b => b = a + 4) ∧
    ((∃ m : Memory, m.Models start nop (read listing).statements) ↔
      ∀ i ∈ instructions listing,
        start.toNat + (read listing).instructionCount ≤ i.word.toNat → i.bits = nop) :=
  ⟨settled_iff_isChain hfirst hstart hascending haligned hlast,
    exists_models_iff_tail hfirst hstart hascending haligned hlast⟩

end

/-- Two instructions that follow each other at the usual start of a test program. -/
def gapless : Text :=
  "Disassembly of section .text.init:\n80000000: 00000093 \tli\n80000004: 00000073 \tecall\n".toList

theorem settled_gapless :
    (addresses gapless).head? = some 0x80000000 ∧
      (addresses gapless).Pairwise (· < ·) ∧
      (∀ a ∈ addresses gapless, 4 ∣ a) ∧
      (∀ a ∈ addresses gapless, a / 4 + 1 < 2 ^ 30) ∧
      Settled gapless 0x20000000#30 0x13#32 := by
  have haddresses : addresses gapless = [0x80000000, 0x80000004] := by
    decide +kernel
  have hfirst : (addresses gapless).head? = some 0x80000000 := by
    rw [haddresses]
    rfl
  have hascending : (addresses gapless).Pairwise (· < ·) := by
    rw [haddresses]
    decide
  have haligned : ∀ a ∈ addresses gapless, 4 ∣ a := by
    rw [haddresses]
    decide
  have hlast : ∀ a ∈ addresses gapless, a / 4 + 1 < 2 ^ 30 := by
    rw [haddresses]
    decide
  have hchain : (addresses gapless).IsChain fun a b => b = a + 4 := by
    rw [haddresses]
    decide
  have hstart : (0x20000000#30).toNat = 0x80000000 / 4 := by
    decide
  exact ⟨hfirst, hascending, haligned, hlast,
    (settled_iff_gapless hfirst hstart hascending haligned hlast).1.mpr hchain⟩

def gapped : Text :=
  "Disassembly of section .text.init:\n00000000: 00000093 \tli\n00000008: 00000073 \tecall\n".toList

/-- Behind a gap the filled range ends before the last instruction, which must then encode
the no-operation: nothing meets the statements. -/
theorem gapped_not_settled :
    (addresses gapped).head? = some 0 ∧
      (addresses gapped).Pairwise (· < ·) ∧
      (∀ a ∈ addresses gapped, 4 ∣ a) ∧
      (∀ a ∈ addresses gapped, a / 4 + 1 < 2 ^ 30) ∧
      ¬ Settled gapped 0#30 0x13#32 ∧
      ¬ ∃ m : Memory, m.Models 0#30 0x13#32 (read gapped).statements := by
  have haddresses : addresses gapped = [0, 8] := by
    decide +kernel
  have hinstructions : instructions gapped =
      [⟨0#32, 0x93#32, "li".toList⟩, ⟨2#32, 0x73#32, "ecall".toList⟩] := by
    decide +kernel
  have hcount : (read gapped).instructionCount = 2 := by
    rw [instructionCount_eq_length, hinstructions]
    rfl
  have hfit : (0#30).toNat + (read gapped).instructionCount < 2 ^ 30 := by
    rw [hcount]
    decide
  have hnone : ¬ ∃ m : Memory, m.Models 0#30 0x13#32 (read gapped).statements := by
    rw [exists_models_iff hfit]
    rintro ⟨-, hquiet⟩
    unfold QuietOutside at hquiet
    rw [hcount, hinstructions] at hquiet
    revert hquiet
    decide
  rw [haddresses]
  exact ⟨rfl, by decide, by decide, by decide, fun hsettled => hnone hsettled.admitted, hnone⟩

end Listing

end Imprint
