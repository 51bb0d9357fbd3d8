import Imprint.Generation
import Imprint.Proofs.Job
import Imprint.Proofs.Sections
import Imprint.Proofs.Text.Layout

/-!
# Readings and layout

A listing and a dump are read line by line, each line trimmed and blank ones left
out.  So what is read from a text depends on its lines with contents alone, and
texts that differ in layout alone make the same statements.
-/

namespace Imprint

/-!
## Listings
-/

namespace Listing

theorem read_eq (t : Text) :
    read t =
      { items := (Sections.under heading? Sections.code t.contentLines).map ListingItem.ofLine
        hasData := Sections.mentions heading? Sections.data t.contentLines } := by
  have hblank : ∀ line : Text, decide (line ≠ []) = false → heading? line = none := by
    intro line hline
    rw [show line = [] by simpa using hline]
    rfl
  rw [read, Text.contentLines, Sections.under_filter hblank, Sections.mentions_filter hblank]

theorem read_congr {t u : Text} (hsame : t.normalForm = u.normalForm) : read t = read u := by
  rw [read_eq, read_eq, (Text.sameLayout_iff.mpr hsame).contentLines]

end Listing

/-!
## Dumps
-/

namespace Dump

theorem rows_eq (dump : Text) :
    rows dump =
      (Sections.under heading? Sections.data dump.contentLines).filterMap DumpRow.read? := by
  have hblank : ∀ line : Text, decide (line ≠ []) = false → heading? line = none := by
    intro line hline
    rw [show line = [] by simpa using hline]
    rfl
  rw [Text.contentLines, Sections.under_filter hblank, List.filterMap_filter, rows, dataLines]
  congr 1
  funext line
  by_cases hline : line = []
  · rw [hline]
    rfl
  · simp [hline]

theorem words_congr {t u : Text} (hsame : t.normalForm = u.normalForm) : words t = words u := by
  rw [words, words, rows_eq, rows_eq, (Text.sameLayout_iff.mpr hsame).contentLines]

theorem statements_congr {t u : Text} (hsame : t.normalForm = u.normalForm) :
    statements t = statements u := by
  rw [statements, statements, words_congr hsame]

end Dump

/-!
## Models
-/

/-- Two replies are refused alike, or are texts that differ in layout alone. -/
def SameReply (first second : Except Failure Text) : Prop :=
  first.map Text.normalForm = second.map Text.normalForm

theorem sameReply_cases {first second : Except Failure Text} (hsame : SameReply first second) :
    (∃ failure, first = .error failure ∧ second = .error failure) ∨
      ∃ t u, first = .ok t ∧ second = .ok u ∧ t.normalForm = u.normalForm := by
  cases first with
  | error failure =>
      cases second with
      | error other =>
          cases hsame
          exact Or.inl ⟨failure, rfl, rfl⟩
      | ok u => cases hsame
  | ok t =>
      cases second with
      | error other => cases hsame
      | ok u => exact Or.inr ⟨t, u, rfl, rfl, Except.ok.inj hsame⟩

section

variable {reply reply' : Call → Except Failure Text}
  (hsame : ∀ call, SameReply (reply call) (reply' call))

include hsame

theorem dataStatements_congr (binary : Path) (p q : Progress) :
    (dataStatements (.ofReplies reply) binary p).1 =
      (dataStatements (.ofReplies reply') binary q).1 := by
  rcases sameReply_cases (hsame ⟨.data, binary⟩) with
    ⟨failure, hreply, hreply'⟩ | ⟨t, u, hreply, hreply', hdump⟩
  · simp [dataStatements, Disassembler.ofReplies, hreply, hreply']
  · simp [dataStatements, Disassembler.ofReplies, hreply, hreply', Dump.statements_congr hdump]

theorem generate_congr (binary : Path) (p : Progress) :
    (generate (.ofReplies reply) binary p).1 = (generate (.ofReplies reply') binary p).1 := by
  rcases sameReply_cases (hsame ⟨.code, binary⟩) with
    ⟨failure, hreply, hreply'⟩ | ⟨t, u, hreply, hreply', hlisting⟩
  · simp [generate, Disassembler.ofReplies, hreply, hreply']
  · have hcode : (Disassembler.ofReplies reply).answer p.calls p.store ⟨.code, binary⟩ =
        (.ok t, p.store) := Prod.ext hreply rfl
    have hcode' : (Disassembler.ofReplies reply').answer p.calls p.store ⟨.code, binary⟩ =
        (.ok u, p.store) := Prod.ext hreply' rfl
    simp only [generate, Job.ask_bind, Job.report_bind, hcode, hcode',
      Listing.read_congr hlisting]
    split
    · rw [Job.result_bind_pure, Job.result_bind_pure, dataStatements_congr hsame]
    · rfl

end

/-- Listings and dumps are read like their normal forms.  Line ends with and without carriage
returns, blanks around lines, blank lines and final newlines lead to no other normal form, and to
no other statements, counts and sections with data; so models do not depend on them. -/
theorem statements_layout :
    (∀ listing : Text,
        (Listing.read listing.normalForm).statements = (Listing.read listing).statements ∧
          (Listing.read listing.normalForm).instructionCount =
            (Listing.read listing).instructionCount ∧
          (Listing.read listing.normalForm).hasData = (Listing.read listing).hasData) ∧
      (∀ dump : Text, Dump.statements dump.normalForm = Dump.statements dump) ∧
      (∀ t : Text, t.SameLayout t.addReturns ∧ t.SameLayout t.dropReturns ∧
        t.SameLayout t.normalForm) ∧
      (∀ t u : Text, (t.SameLayout u ↔ t.normalForm = u.normalForm) ∧
        (t.SameLayout u → (Listing.read t).statements = (Listing.read u).statements ∧
          (Listing.read t).instructionCount = (Listing.read u).instructionCount ∧
          (Listing.read t).hasData = (Listing.read u).hasData ∧
          Dump.statements t = Dump.statements u)) ∧
      ∀ reply reply' : Call → Except Failure Text,
        (∀ call, SameReply (reply call) (reply' call)) → ∀ binary p,
          (generate (.ofReplies reply) binary p).1 =
            (generate (.ofReplies reply') binary p).1 := by
  have hnormal : ∀ t : Text, t.normalForm.normalForm = t.normalForm := fun t =>
    (Text.sameLayout_iff.mp (Text.sameLayout_normalForm t)).symm
  refine ⟨?_, fun dump => Dump.statements_congr (hnormal dump), ?_, ?_, ?_⟩
  · intro listing
    rw [Listing.read_congr (hnormal listing)]
    exact ⟨rfl, rfl, rfl⟩
  · intro t
    exact ⟨Text.sameLayout_addReturns t, Text.sameLayout_dropReturns t,
      Text.sameLayout_normalForm t⟩
  · intro t u
    refine ⟨Text.sameLayout_iff, fun hsame => ?_⟩
    have hforms := Text.sameLayout_iff.mp hsame
    rw [Listing.read_congr hforms]
    exact ⟨rfl, rfl, rfl, Dump.statements_congr hforms⟩
  · exact fun reply reply' hsame binary p => generate_congr hsame binary p

def indentedListing : Text :=
  "Disassembly of section .text.init:\n\n  00000000: 00000073 ecall\n".toList

/-- With carriage returns, the listing makes the same two statements. -/
theorem statements_layout_returns :
    indentedListing ≠ indentedListing.addReturns ∧
      (Listing.read indentedListing).statements.length = 2 ∧
      (Listing.read indentedListing).statements =
        (Listing.read indentedListing.addReturns).statements := by
  obtain ⟨-, -, hlayout, hsame, -⟩ := statements_layout
  obtain ⟨-, hstatements⟩ := hsame indentedListing indentedListing.addReturns
  exact ⟨by decide +kernel, by decide +kernel, (hstatements (hlayout indentedListing).1).1⟩

end Imprint
