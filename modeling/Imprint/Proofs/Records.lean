import Imprint.Proofs.Grammar.DumpRow
import Imprint.Proofs.Grammar.Instruction
import Imprint.Proofs.Scope

/-!
# Records of lines

What a line says by its grammar is its record: an instruction, a remark, or the words
of a row.  What is read of a listing or a dump are the records of the lines that the
right heading governs; a blank line of a listing has none.
-/

namespace Imprint

theorem forall₂_iff_eq_map {α β : Type} {related : α → β → Prop} {value : α → β}
    (hvalue : ∀ a b, related a b ↔ b = value a) {as : List α} {bs : List β} :
    List.Forall₂ related as bs ↔ bs = as.map value := by
  have hrelated : related = fun a b => value a = b :=
    funext fun a => funext fun b => propext ((hvalue a b).trans eq_comm)
  rw [hrelated, ← List.forall₂_map_left_iff (R := Eq), List.forall₂_eq_eq_eq]
  exact eq_comm

/-!
## Listings
-/

namespace Listing

/-- The record of a line: the instruction of its parts, or the line where it has no parts. -/
inductive Records : Text → ListingItem → Prop
  | instruction {parts : Instruction.Parts} {i : Instruction}
      (hparts : parts.instruction? = some i) : Records parts.line (.instruction i)
  | remark {line : Text} (hnone : ¬ ∃ parts : Instruction.Parts, parts.line = line) :
      Records line (.remark line)

/-- The records of the lines of a kind that the code section governs, in order. -/
def Recorded (kept : Text → Prop) (listing : Text) (items : List ListingItem) : Prop :=
  ∃ places, Sections.Places places (fun place =>
      Sections.Governs Announces listing.trimmedLines Sections.code place ∧
        kept (listing.trimmedLines.getD place [])) ∧
    List.Forall₂ Records (Sections.linesAt listing.trimmedLines places) items

theorem records_iff (line : Text) (item : ListingItem) :
    Records line item ↔ item = ListingItem.ofLine line := by
  constructor
  · intro h
    rcases h with ⟨hparts⟩ | ⟨hnone⟩
    · rename_i parts i
      rw [parts.instruction?_eq] at hparts
      cases hparts
      rw [ListingItem.ofLine, Instruction.read?_line]
    · rw [ListingItem.ofLine]
      split
      · rename_i hread
        exact absurd (Instruction.exists_parts_of_read? hread) hnone
      · rfl
  · rintro rfl
    unfold ListingItem.ofLine
    cases hread : Instruction.read? line with
    | some i =>
        rcases Instruction.exists_parts_of_read? hread with ⟨parts, rfl⟩
        rw [Instruction.read?_line] at hread
        cases hread
        exact .instruction parts.instruction?_eq
    | none =>
        refine .remark ?_
        intro h
        rcases h with ⟨parts, rfl⟩
        rw [Instruction.read?_line] at hread
        cases hread

theorem recorded_iff (kept : Text → Bool) (listing : Text) (items : List ListingItem) :
    Recorded (fun line => kept line = true) listing items ↔
      items = ((Sections.under heading? Sections.code listing.trimmedLines).filter kept).map
        ListingItem.ofLine := by
  rcases Sections.under_eq_linesAt (detects_trimmedLines listing) Sections.code with
    ⟨places, hplaces, hunder⟩
  have hkept := hplaces.filter fun place => kept (listing.trimmedLines.getD place [])
  have hlines : (Sections.under heading? Sections.code listing.trimmedLines).filter kept =
      Sections.linesAt listing.trimmedLines
        (places.filter fun place => kept (listing.trimmedLines.getD place [])) := by
    rw [hunder, Sections.linesAt, Sections.linesAt, List.filter_map]
    rfl
  rw [hlines, ← forall₂_iff_eq_map records_iff]
  constructor
  · intro h
    rcases h with ⟨places', hplaces', hrecords⟩
    rw [hplaces'.unique hkept] at hrecords
    exact hrecords
  · exact fun hrecords => ⟨_, hkept, hrecords⟩

theorem recorded_true_iff (listing : Text) (items : List ListingItem) :
    Recorded (fun _ => True) listing items ↔
      items = (Sections.under heading? Sections.code listing.trimmedLines).map
        ListingItem.ofLine := by
  have hkept : (fun _ => True) = fun _ : Text => true = true := by
    simp
  rw [hkept, recorded_iff fun _ => true, List.filter_true]

theorem recorded_unblank_iff (listing : Text) (items : List ListingItem) :
    Recorded (· ≠ []) listing items ↔ items = (read listing).items := by
  have hkept : (· ≠ []) = fun line : Text => decide (line ≠ []) = true := by
    simp
  rw [hkept, recorded_iff, read]

end Listing

/-!
## Dumps
-/

namespace Dump

/-- The records of a line: the words of its parts, or none where it has no parts. -/
inductive Records : Text → List DataWord → Prop
  | row {parts : DumpRow.Parts} {words : List DataWord} (hparts : parts.words? = some words) :
      Records parts.line words
  | other {line : Text} (hnone : ¬ ∃ parts : DumpRow.Parts, parts.line = line) : Records line []

/-- The records of the lines that the data section governs, in order. -/
def Recorded (dump : Text) (words : List DataWord) : Prop :=
  ∃ places rows, Sections.Places places
      (Sections.Governs Announces dump.trimmedLines Sections.data) ∧
    List.Forall₂ Records (Sections.linesAt dump.trimmedLines places) rows ∧ words = rows.flatten

theorem records_iff (line : Text) (words : List DataWord) :
    Records line words ↔ words = (DumpRow.read? line).toList.flatMap DumpRow.words := by
  constructor
  · intro h
    rcases h with ⟨hparts⟩ | ⟨hnone⟩
    · rename_i parts
      rw [parts.words?_eq] at hparts
      cases hparts
      rw [DumpRow.read?_line, Option.toList_some, List.flatMap_singleton]
    · cases hread : DumpRow.read? line with
      | some r => exact absurd (DumpRow.exists_parts_of_read? hread) hnone
      | none => rfl
  · rintro rfl
    cases hread : DumpRow.read? line with
    | some r =>
        rcases DumpRow.exists_parts_of_read? hread with ⟨parts, rfl⟩
        rw [DumpRow.read?_line] at hread
        cases hread
        rw [Option.toList_some, List.flatMap_singleton]
        exact .row parts.words?_eq
    | none =>
        refine .other ?_
        intro h
        rcases h with ⟨parts, rfl⟩
        rw [DumpRow.read?_line] at hread
        cases hread

theorem recorded_iff (dump : Text) (recorded : List DataWord) :
    Recorded dump recorded ↔ recorded = words dump := by
  rcases Sections.under_eq_linesAt (detects_heading dump.trimmedLines) Sections.data with
    ⟨places, hplaces, hunder⟩
  have hwords : words dump = ((Sections.linesAt dump.trimmedLines places).map fun line =>
      (DumpRow.read? line).toList.flatMap DumpRow.words).flatten := by
    rw [words, rows, dataLines, hunder, ← List.flatMap_def, List.filterMap_eq_flatMap_toList,
      List.flatMap_assoc]
  rw [hwords]
  constructor
  · intro h
    rcases h with ⟨places', rows, hplaces', hrecords, rfl⟩
    rw [hplaces'.unique hplaces, forall₂_iff_eq_map records_iff] at hrecords
    rw [hrecords]
  · rintro rfl
    exact ⟨places, _, hplaces, (forall₂_iff_eq_map records_iff).mpr rfl, rfl⟩

end Dump

end Imprint
