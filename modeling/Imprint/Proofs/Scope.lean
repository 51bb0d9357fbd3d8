import Imprint.Proofs.Dump.Reading
import Imprint.Proofs.Sections
import Imprint.Proofs.Shape
import Imprint.Proofs.Text.Words

/-!
# The scope of headings

A line of a listing or of a dump counts when the nearest heading above it names the
section in question.  The statements are those of the lines that count, in order,
each line once, and no other line adds anything.
-/

namespace Imprint

/-!
## Headings of listings
-/

namespace Listing

/-- A heading of a listing announces its last word, less one colon at the end. -/
def Announces (line name : Text) : Prop :=
  "Disassembly of section ".toList <+: line ∧
    ∃ front blank word, line = front ++ blank :: word ∧ Text.isBlank blank = true ∧
      (∀ c ∈ word, Text.isBlank c = false) ∧
        (word = name ++ [':'] ∨ word = name ∧ name.getLast? ≠ some ':')

theorem getLast?_words_title {title front word : Text} {blank : Char}
    (hline : "Disassembly of section ".toList ++ title = front ++ blank :: word)
    (hblank : Text.isBlank blank = true) (hne : word ≠ [])
    (hword : ∀ c ∈ word, Text.isBlank c = false) : title.words.getLast? = some word := by
  have hlead : "Disassembly of section ".toList = "Disassembly of section".toList ++ [' '] := by
    decide
  have hsplit : "Disassembly of section ".toList ++ title = (front ++ [blank]) ++ word := by
    rw [hline, List.append_assoc]
    rfl
  rcases List.append_eq_append_iff.mp hsplit with ⟨more, hfront, rfl⟩ | ⟨more, hlead', rfl⟩
  · rcases List.eq_nil_or_concat more with rfl | ⟨others, last, rfl⟩
    · rw [List.nil_append, Text.words_of_unblank hne hword]
      rfl
    · rw [List.concat_eq_append, ← List.append_assoc] at hfront
      obtain ⟨-, hlast⟩ := List.append_inj' hfront rfl
      cases hlast
      rw [List.concat_eq_append, List.append_assoc]
      exact Text.getLast?_words_append hblank others hne hword
  · rcases List.eq_nil_or_concat more with rfl | ⟨others, last, rfl⟩
    · simp only [List.nil_append] at hne hword
      rw [List.nil_append, Text.words_of_unblank hne hword]
      rfl
    · rw [hlead, List.concat_eq_append, ← List.append_assoc] at hlead'
      obtain ⟨-, hlast⟩ := List.append_inj' hlead' rfl
      cases hlast
      have hspace := hword ' ' (by simp)
      exact absurd hspace (by decide)

theorem heading?_trim (t name : Text) : heading? t.trim = some name ↔ Announces t.trim name := by
  have hne : ∀ {front word : Text} {blank : Char}, t.trim = front ++ blank :: word →
      Text.isBlank blank = true → word ≠ [] := by
    rintro front word blank hline hblank rfl
    rw [Text.isBlank_of_trim_eq hline] at hblank
    cases hblank
  unfold heading?
  rw [Option.map_eq_some_iff]
  constructor
  · rintro ⟨title, htitle, hname⟩
    have hline := Text.eq_append_of_after? htitle
    have hspace : ∃ c ∈ t.trim, Text.isBlank c = true := by
      refine ⟨' ', ?_, by decide⟩
      rw [hline]
      exact List.mem_append_left _ (by decide)
    obtain ⟨front, blank, word, hcut, hblank, hword⟩ := Text.exists_last_blank hspace
    have hlast := getLast?_words_title (hline.symm.trans hcut) hblank (hne hcut hblank) hword
    exact ⟨⟨title, hline.symm⟩, front, blank, word, hcut, hblank, hword,
      (headingName_iff hlast).mp hname⟩
  · rintro ⟨⟨title, hline⟩, front, blank, word, hcut, hblank, hword, hname⟩
    have hlast := getLast?_words_title (hline.trans hcut) hblank (hne hcut hblank) hword
    exact ⟨title, by rw [← hline, Text.after?_append], (headingName_iff hlast).mpr hname⟩

theorem detects_trimmedLines (listing : Text) :
    Sections.Detects heading? Announces listing.trimmedLines := by
  intro line hline name
  obtain ⟨whole, -, rfl⟩ := List.mem_map.mp hline
  exact heading?_trim whole name

def lineStatement (line : Text) : Text :=
  match Instruction.read? line with
  | some i => i.statement
  | none => "// ".toList ++ line

theorem statement_ofLine (line : Text) :
    (ListingItem.ofLine line).statement = lineStatement line := by
  unfold ListingItem.ofLine lineStatement
  cases Instruction.read? line with
  | none => rfl
  | some i => rfl

end Listing

/-!
## Headings of dumps
-/

namespace Dump

/-- A heading of a dump announces what stands behind its lead, less all colons at the end. -/
def Announces (line name : Text) : Prop :=
  ∃ colons, line = "Contents of section ".toList ++ (name ++ List.replicate colons ':') ∧
    name.getLast? ≠ some ':'

theorem dropColons_eq_rdropWhile (t : Text) : dropColons t = t.rdropWhile (· == ':') := rfl

theorem dropColons_append (name : Text) (colons : Nat) :
    dropColons (name ++ List.replicate colons ':') = dropColons name := by
  induction colons with
  | zero => simp
  | succ colons ih =>
      rw [List.replicate_succ', ← List.append_assoc, dropColons_eq_rdropWhile,
        List.rdropWhile_concat_pos _ _ _ (by decide)]
      exact ih

theorem dropColons_of_getLast? {name : Text} (hname : name.getLast? ≠ some ':') :
    dropColons name = name := by
  rw [dropColons_eq_rdropWhile, List.rdropWhile_eq_self_iff]
  intro hne hcolon
  rw [List.getLast?_eq_some_getLast hne, eq_of_beq hcolon] at hname
  exact hname rfl

theorem dropColons_split (t : Text) :
    ∃ colons, t = dropColons t ++ List.replicate colons ':' ∧
      (dropColons t).getLast? ≠ some ':' := by
  have hcolons : t.rtakeWhile (· == ':') =
      List.replicate (t.rtakeWhile (· == ':')).length ':' := by
    refine List.eq_replicate_of_mem fun c hc => ?_
    have hcolon := List.mem_rtakeWhile_imp hc
    exact eq_of_beq hcolon
  refine ⟨(t.rtakeWhile (· == ':')).length, ?_, ?_⟩
  · rw [← hcolons, dropColons_eq_rdropWhile, List.rdropWhile_append_rtakeWhile]
  · intro hlast
    obtain ⟨front, hfront⟩ := List.getLast?_eq_some_iff.mp hlast
    rw [dropColons_eq_rdropWhile] at hfront
    exact absurd (Text.last_of_rdropWhile hfront) (by decide)

theorem heading?_iff (line name : Text) : heading? line = some name ↔ Announces line name := by
  unfold heading?
  rw [Option.map_eq_some_iff]
  constructor
  · rintro ⟨title, htitle, rfl⟩
    obtain ⟨colons, hsplit, hlast⟩ := dropColons_split title
    exact ⟨colons, by rw [← hsplit]; exact Text.eq_append_of_after? htitle, hlast⟩
  · rintro ⟨colons, rfl, hlast⟩
    refine ⟨_, Text.after?_append _ _, ?_⟩
    rw [dropColons_append, dropColons_of_getLast? hlast]

theorem detects_heading (lines : List Text) : Sections.Detects heading? Announces lines :=
  fun line _ name => heading?_iff line name

end Dump

/-!
## Statements of the lines that count
-/

theorem Listing.statements_governed (listing : Text) :
    ∃ places, Sections.Places places (fun place =>
        Sections.Governs Announces listing.trimmedLines Sections.code place ∧
          listing.trimmedLines.getD place [] ≠ []) ∧
      (Listing.read listing).statements =
        (Sections.linesAt listing.trimmedLines places).map lineStatement ++
          [fill (Listing.read listing).instructionCount] := by
  obtain ⟨places, hplaces, hunder⟩ :=
    Sections.under_eq_linesAt (detects_trimmedLines listing) Sections.code
  refine ⟨places.filter fun place => listing.trimmedLines.getD place [] ≠ [],
    (hplaces.filter _).congr fun place => by simp, ?_⟩
  have hitems : (Listing.read listing).items.map ListingItem.statement =
      ((Sections.under heading? Sections.code listing.trimmedLines).filter
        (· ≠ [])).map lineStatement := by
    rw [Listing.read, List.map_map]
    exact List.map_congr_left fun line _ => statement_ofLine line
  rw [Listing.statements, hitems, hunder, Sections.linesAt, Sections.linesAt, List.filter_map]
  rfl

theorem Listing.hasData_iff_announces (listing : Text) :
    (Listing.read listing).hasData = true ↔
      ∃ line ∈ listing.trimmedLines, Announces line Sections.data := by
  unfold Listing.read Sections.mentions
  rw [List.any_eq_true]
  refine exists_congr fun line => and_congr_right fun hline => ?_
  rw [beq_iff_eq]
  exact detects_trimmedLines listing line hline Sections.data

theorem Dump.statements_governed (dump : Text) :
    ∃ places, Sections.Places places
        (Sections.Governs Announces dump.trimmedLines Sections.data) ∧
      statements dump = (Sections.linesAt dump.trimmedLines places).flatMap lineStatements := by
  obtain ⟨places, hplaces, hunder⟩ :=
    Sections.under_eq_linesAt (detects_heading dump.trimmedLines) Sections.data
  exact ⟨places, hplaces, by rw [statements_eq, dataLines, hunder]⟩

/-- A listing says what its lines say whose nearest heading names the code, a dump what its lines
say whose nearest heading names the data, and data is there when some heading names it. -/
theorem statements_scoped :
    (∀ listing : Text,
      (∃ places, Sections.Places places (fun place =>
          Sections.Governs Listing.Announces listing.trimmedLines Sections.code place ∧
            listing.trimmedLines.getD place [] ≠ []) ∧
        (Listing.read listing).statements =
          (Sections.linesAt listing.trimmedLines places).map Listing.lineStatement ++
            [Listing.fill (Listing.read listing).instructionCount]) ∧
      ((Listing.read listing).hasData = true ↔
        ∃ line ∈ listing.trimmedLines, Listing.Announces line Sections.data)) ∧
    ∀ dump : Text, ∃ places,
      Sections.Places places
          (Sections.Governs Dump.Announces dump.trimmedLines Sections.data) ∧
        Dump.statements dump =
          (Sections.linesAt dump.trimmedLines places).flatMap Dump.lineStatements :=
  ⟨fun listing => ⟨Listing.statements_governed listing, Listing.hasData_iff_announces listing⟩,
    Dump.statements_governed⟩

end Imprint
