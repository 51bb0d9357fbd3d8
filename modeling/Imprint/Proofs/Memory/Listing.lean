import Mathlib
import Imprint.Proofs.Memory.Constraint
import Imprint.Proofs.Text.Fields

/-!
# The memories that a listing admits

The statements of a listing admit a memory when no two of its instructions
disagree on a word and those outside the filled range encode the no-operation
instruction.  They admit exactly one when the words of the instructions are
those of the range, each once.
-/

namespace Imprint

namespace Listing

/-- The lines of the code section that read as instructions. -/
def instructionLines (listing : Text) : List Text :=
  (Sections.under heading? Sections.code listing.trimmedLines).filter fun line =>
    (Instruction.read? line).isSome

def instructions (listing : Text) : List Instruction :=
  (instructionLines listing).filterMap Instruction.read?

end Listing

/-!
## Addresses and words
-/

namespace Instruction

def addressOf (line : Text) : Nat :=
  Text.hexValue (line.take 8)

theorem read?_address {line : Text} {i : Instruction} (hread : read? line = some i) :
    addressOf line < 2 ^ 32 ∧ i.word.toNat = addressOf line / 4 := by
  cases hfront : line.eightDigits? with
  | none =>
      simp [read?, hfront] at hread
  | some digits =>
      obtain ⟨address, rest⟩ := digits
      obtain ⟨haddress, hlt⟩ := Text.hexValue_eightDigits? hfront
      have hword : i.word = BitVec.ofNat 32 address.hexValue >>> 2 := by
        simp only [read?, hfront, Option.bind_eq_bind, Option.bind_some,
          Option.bind_eq_some_iff] at hread
        obtain ⟨_, _, _, _, _, _, _, _, hread⟩ := hread
        split at hread
        · cases hread
        · cases hread
          rfl
      refine ⟨hlt, ?_⟩
      rw [hword, haddress, toNat_wordIndex hlt, addressOf]

end Instruction

/-!
## Statements of a listing
-/

namespace ListingItem

def instruction? : ListingItem → Option Instruction
  | instruction i => some i
  | remark _ => none

@[simp] theorem instruction?_ofLine (line : Text) :
    (ofLine line).instruction? = Instruction.read? line := by
  unfold ofLine
  cases Instruction.read? line <;> rfl

end ListingItem

namespace Listing

@[simp] theorem filterMap_items (listing : Text) :
    (read listing).items.filterMap ListingItem.instruction? = instructions listing := by
  have hblank : Instruction.read? [] = none := rfl
  show (((Sections.under heading? Sections.code listing.trimmedLines).filter (· ≠ [])).map
    ListingItem.ofLine).filterMap ListingItem.instruction? = _
  unfold instructions instructionLines
  generalize Sections.under heading? Sections.code listing.trimmedLines = lines
  induction lines with
  | nil =>
      rfl
  | cons line rest ih =>
      cases hread : Instruction.read? line with
      | none =>
          by_cases hline : line = []
          · simpa [hline, hblank] using ih
          · simpa [hline, hread, ListingItem.instruction?_ofLine] using ih
      | some i =>
          have hline : line ≠ [] := by
            intro hnil
            rw [hnil, hblank] at hread
            cases hread
          simpa [hline, hread, ListingItem.instruction?_ofLine] using ih

theorem instructionCount_eq_length (listing : Text) :
    (read listing).instructionCount = (instructions listing).length := by
  rw [← filterMap_items]
  unfold instructionCount
  induction (read listing).items with
  | nil =>
      rfl
  | cons item rest ih =>
      cases item with
      | instruction i =>
          rw [List.countP_cons_of_pos rfl, ih]
          rfl
      | remark line =>
          rw [List.countP_cons_of_neg (by simp [ListingItem.isInstruction]), ih]
          rfl

theorem mem_items_iff {listing : Text} {i : Instruction} :
    ListingItem.instruction i ∈ (read listing).items ↔ i ∈ instructions listing := by
  rw [← filterMap_items, List.mem_filterMap]
  constructor
  · intro hitem
    exact ⟨_, hitem, rfl⟩
  · rintro ⟨item, hitem, hi⟩
    cases item with
    | instruction j =>
        cases hi
        exact hitem
    | remark line =>
        cases hi

theorem word_lt {listing : Text} {i : Instruction} (hi : i ∈ instructions listing) :
    i.word.toNat < 2 ^ 30 := by
  obtain ⟨line, _, hread⟩ := List.mem_filterMap.mp hi
  have haddress := Instruction.read?_address hread
  omega

/-- A memory meets the statements of a listing exactly when each instruction stands at
its word and the words outside the range are filled. -/
theorem models_statements_iff {listing : Text} {start : BitVec 30} {nop : BitVec 32}
    {m : Memory} :
    m.Models start nop (read listing).statements ↔
      (∀ i ∈ instructions listing, m i.index = i.bits) ∧
        (Constraint.filled (instructions listing).length).Holds start nop m := by
  unfold statements
  rw [instructionCount_eq_length]
  constructor
  · intro hmodels
    constructor
    · intro i hi
      have hmem := List.mem_map_of_mem (f := ListingItem.statement) (mem_items_iff.mpr hi)
      exact hmodels _ (List.mem_append_left _ hmem) _ (Constraint.ofStatement?_instruction i)
    · exact hmodels _ (List.mem_append_right _ (List.mem_singleton_self _)) _
        (Constraint.ofStatement?_fill _)
  · rintro ⟨hpinned, hfilled⟩ line hline c hc
    rcases List.mem_append.mp hline with hitem | hfill
    · obtain ⟨item, hmem, rfl⟩ := List.mem_map.mp hitem
      cases item with
      | instruction i =>
          rw [ListingItem.statement, Constraint.ofStatement?_instruction] at hc
          cases hc
          exact hpinned i (mem_items_iff.mp hmem)
      | remark line =>
          rw [Constraint.ofStatement?_remark] at hc
          cases hc
    · rw [List.mem_singleton.mp hfill, Constraint.ofStatement?_fill] at hc
      cases hc
      exact hfilled

end Listing

end Imprint
