import Imprint.Proofs.Layout

/-!
# Sections put together

A heading cuts off what stands above it: neither the section that the lines there were in nor
the way their last line ends makes a difference below.  So a text that begins with a heading adds
what it is read as to any text before it, and sections of no interest can be put in, left out and
moved.
-/

namespace Imprint

namespace Text

/-- The first line of the text, trimmed, begins with the lead. -/
def OpensWith (t lead : Text) : Prop :=
  ∃ line others, t.lines = line :: others ∧ lead <+: line.trim

theorem joinLines_cons_cons (first second : Text) (others : List Text) :
    joinLines (first :: second :: others) = joinLines ((first ++ '\n' :: second) :: others) := by
  cases others with
  | nil =>
      rfl
  | cons next rest =>
      simp only [joinLines, List.append_assoc, List.cons_append]

end Text

/-!
## Below a heading
-/

namespace Sections

variable {heading? : Text → Option Text}

theorem under_append_heading {heading name : Text} (hheading : heading? heading = some name)
    (wanted : Text) (above below : List Text) :
    under heading? wanted (above ++ heading :: below) =
      under heading? wanted above ++ under heading? wanted (heading :: below) := by
  unfold under
  rw [governed_append, List.filterMap_append, governed, governed, hheading]

@[simp] theorem mentions_append (wanted : Text) (above below : List Text) :
    mentions heading? wanted (above ++ below) =
      (mentions heading? wanted above || mentions heading? wanted below) :=
  List.any_append

theorem governed_ne_of_not_mentioned {wanted : Text} {lines : List Text} {here : Option Text}
    (hlines : mentions heading? wanted lines = false) (hhere : here ≠ some wanted) :
    ∀ entry ∈ governed heading? here lines, entry.1 ≠ some wanted := by
  induction lines generalizing here with
  | nil =>
      intro entry hentry
      cases hentry
  | cons line rest ih =>
      obtain ⟨hline, hrest⟩ := Bool.or_eq_false_iff.mp hlines
      intro entry hentry
      rw [governed] at hentry
      split at hentry
      · rename_i name hname
        have hname' : some name ≠ some wanted := hname ▸ beq_eq_false_iff_ne.mp hline
        exact ih hrest hname' entry hentry
      · rcases List.mem_cons.mp hentry with rfl | hmem
        · exact hhere
        · exact ih hrest hhere entry hmem

theorem under_eq_nil {wanted : Text} {lines : List Text}
    (hlines : mentions heading? wanted lines = false) : under heading? wanted lines = [] := by
  refine List.filterMap_eq_nil_iff.mpr fun entry hentry => ?_
  rw [if_neg (governed_ne_of_not_mentioned hlines (by simp) entry hentry)]

end Sections

/-!
## Readings that add up
-/

theorem flatMap_eq_flatMap_filter {β : Type} {f : Text → List β} {relevant : Text → Bool}
    (hskips : ∀ part, relevant part = false → f part = []) (parts : List Text) :
    parts.flatMap f = (parts.filter relevant).flatMap f := by
  induction parts with
  | nil =>
      rfl
  | cons part rest ih =>
      cases hpart : relevant part with
      | false =>
          rw [List.flatMap_cons, hskips part hpart, ih, List.filter_cons_of_neg (by simp [hpart])]
          rfl
      | true =>
          rw [List.filter_cons_of_pos hpart, List.flatMap_cons, List.flatMap_cons, ih]

section

variable {β : Type} {lead : Text} {f : Text → List β}
  (hadds : ∀ first second : Text, second.OpensWith lead →
    f (first ++ '\n' :: second) = f first ++ f second)

include hadds

theorem reading_joinLines_cons {parts : List Text} (hparts : ∀ part ∈ parts, part.OpensWith lead)
    (front : Text) : f (Text.joinLines (front :: parts)) = f front ++ parts.flatMap f := by
  induction parts generalizing front with
  | nil =>
      exact (List.append_nil _).symm
  | cons part rest ih =>
      have hrest := ih (fun other hother => hparts other (List.mem_cons_of_mem part hother))
        (front ++ '\n' :: part)
      rw [Text.joinLines_cons_cons, hrest, hadds front part (hparts part List.mem_cons_self),
        List.append_assoc, List.flatMap_cons]

theorem reading_joinLines_append (hempty : f [] = []) {parts : List Text}
    (hparts : ∀ part ∈ parts, part.OpensWith lead) (front : List Text) :
    f (Text.joinLines (front ++ parts)) = f (Text.joinLines front) ++ parts.flatMap f := by
  cases front with
  | nil =>
      cases parts with
      | nil =>
          rw [List.flatMap_nil, List.append_nil, List.append_nil]
      | cons part rest =>
          have hrest : ∀ other ∈ rest, other.OpensWith lead := fun other hother =>
            hparts other (List.mem_cons_of_mem part hother)
          rw [List.nil_append, reading_joinLines_cons hadds hrest]
          show _ = f [] ++ _
          rw [hempty, List.nil_append, List.flatMap_cons]
  | cons first others =>
      induction others generalizing first with
      | nil =>
          exact reading_joinLines_cons hadds hparts first
      | cons next rest ih =>
          have hall := ih (first ++ '\n' :: next)
          rw [← Text.joinLines_cons_cons, List.cons_append, ← Text.joinLines_cons_cons] at hall
          exact hall

/-- Parts that are read as nothing can be put in, left out and moved: what the joined texts are
read as depends on the other parts alone, in their order. -/
theorem reading_joinLines_congr (hempty : f [] = []) {relevant : Text → Bool}
    (hskips : ∀ part, relevant part = false → f part = []) {parts parts' : List Text}
    (hparts : ∀ part ∈ parts ++ parts', part.OpensWith lead)
    (hrelevant : parts.filter relevant = parts'.filter relevant) (front : List Text) :
    f (Text.joinLines (front ++ parts)) = f (Text.joinLines (front ++ parts')) := by
  rw [reading_joinLines_append hadds hempty
      (fun part hpart => hparts part (List.mem_append_left _ hpart)),
    reading_joinLines_append hadds hempty
      (fun part hpart => hparts part (List.mem_append_right _ hpart)),
    flatMap_eq_flatMap_filter hskips parts, hrelevant,
    ← flatMap_eq_flatMap_filter hskips parts']

end

/-!
## Listings
-/

theorem Text.OpensWith.contentLines {t lead : Text} (hopens : t.OpensWith lead) (hne : lead ≠ []) :
    ∃ title others, t.contentLines = (lead ++ title) :: others := by
  obtain ⟨line, others, hlines, title, htitle⟩ := hopens
  have hline : line.trim ≠ [] := by
    rw [← htitle]
    exact List.append_ne_nil_of_left_ne_nil hne title
  refine ⟨title, (others.map trim).filter (· ≠ []), ?_⟩
  rw [Text.contentLines, trimmedLines, hlines, List.map_cons,
    List.filter_cons_of_pos (by simpa using hline), htitle]

namespace Listing

def lead : Text :=
  "Disassembly of section ".toList

theorem lead_ne_nil : lead ≠ [] := by
  decide

@[simp] theorem heading?_lead (title : Text) :
    heading? (lead ++ title) = some (headingName title) := by
  unfold heading? lead
  rw [Text.after?_append, Option.map_some]

/-- Whether some heading of a listing names the code section. -/
def namesCode (t : Text) : Bool :=
  Sections.mentions heading? Sections.code t.trimmedLines

theorem read_append {first second : Text} (hopens : second.OpensWith lead) :
    read (first ++ '\n' :: second) =
      { items := (read first).items ++ (read second).items
        hasData := (read first).hasData || (read second).hasData } := by
  obtain ⟨title, others, hsecond⟩ := hopens.contentLines lead_ne_nil
  rw [read_eq, read_eq first, read_eq second, Text.contentLines_append, hsecond,
    Sections.under_append_heading (heading?_lead title), Sections.mentions_append, List.map_append]

theorem items_of_namesCode {t : Text} (ht : namesCode t = false) : (read t).items = [] := by
  rw [read, Sections.under_eq_nil ht]
  rfl

theorem instructionCount_append {first second : Text} (hopens : second.OpensWith lead) :
    (read (first ++ '\n' :: second)).instructionCount =
      (read first).instructionCount + (read second).instructionCount := by
  rw [read_append hopens]
  exact List.countP_append

theorem statements_append {first second : Text} (hopens : second.OpensWith lead) :
    (read (first ++ '\n' :: second)).statements =
      (read first).statements.dropLast ++ (read second).statements.dropLast ++
        [fill ((read first).instructionCount + (read second).instructionCount)] := by
  rw [statements, instructionCount_append hopens, read_append hopens, statements, statements,
    List.dropLast_concat, List.dropLast_concat, List.map_append]

theorem statements_joinLines_congr {parts parts' : List Text}
    (hparts : ∀ part ∈ parts ++ parts', part.OpensWith lead)
    (hcode : parts.filter namesCode = parts'.filter namesCode) (front : List Text) :
    (read (Text.joinLines (front ++ parts))).statements =
      (read (Text.joinLines (front ++ parts'))).statements := by
  have hadds : ∀ first second : Text, second.OpensWith lead →
      (read (first ++ '\n' :: second)).items = (read first).items ++ (read second).items :=
    fun first second hopens => congrArg items (read_append hopens)
  have hitems := reading_joinLines_congr hadds rfl (fun _ => items_of_namesCode) hparts hcode front
  rw [statements, statements, instructionCount, instructionCount, hitems]

end Listing

/-!
## Dumps
-/

namespace Dump

def lead : Text :=
  "Contents of section ".toList

theorem lead_ne_nil : lead ≠ [] := by
  decide

@[simp] theorem heading?_lead (title : Text) :
    heading? (lead ++ title) = some (dropColons title) := by
  unfold heading? lead
  rw [Text.after?_append, Option.map_some]

def namesData (t : Text) : Bool :=
  Sections.mentions heading? Sections.data t.trimmedLines

theorem statements_append {first second : Text} (hopens : second.OpensWith lead) :
    statements (first ++ '\n' :: second) = statements first ++ statements second := by
  obtain ⟨title, others, hsecond⟩ := hopens.contentLines lead_ne_nil
  rw [statements, words, rows_eq, Text.contentLines_append, hsecond,
    Sections.under_append_heading (heading?_lead title), ← hsecond, List.filterMap_append,
    ← rows_eq, ← rows_eq,
    List.flatMap_append, List.map_append]
  rfl

theorem statements_of_namesData {t : Text} (ht : namesData t = false) : statements t = [] := by
  rw [statements, words, rows, dataLines, Sections.under_eq_nil ht]
  rfl

end Dump

/-- A text that begins with a heading adds what it says to whatever stands before it: the counts
of instructions are added, data is there if it is in either, and the statements follow each
other, with one fill for both.  So among texts that begin with headings, and behind any others,
those that do not name the section in question can be put in, left out and moved, and no
statement changes. -/
theorem statements_additive :
    (∀ first second : Text, second.OpensWith Listing.lead →
        (Listing.read (first ++ '\n' :: second)).instructionCount =
            (Listing.read first).instructionCount + (Listing.read second).instructionCount ∧
          (Listing.read (first ++ '\n' :: second)).hasData =
            ((Listing.read first).hasData || (Listing.read second).hasData) ∧
          (Listing.read (first ++ '\n' :: second)).statements =
            (Listing.read first).statements.dropLast ++
              (Listing.read second).statements.dropLast ++
                [Listing.fill ((Listing.read first).instructionCount +
                  (Listing.read second).instructionCount)]) ∧
      (∀ first second : Text, second.OpensWith Dump.lead →
        Dump.statements (first ++ '\n' :: second) =
          Dump.statements first ++ Dump.statements second) ∧
      (∀ front parts parts' : List Text,
        (∀ part ∈ parts ++ parts', part.OpensWith Listing.lead) →
          parts.filter Listing.namesCode = parts'.filter Listing.namesCode →
            (Listing.read (Text.joinLines (front ++ parts))).statements =
              (Listing.read (Text.joinLines (front ++ parts'))).statements) ∧
      ∀ front parts parts' : List Text, (∀ part ∈ parts ++ parts', part.OpensWith Dump.lead) →
        parts.filter Dump.namesData = parts'.filter Dump.namesData →
          Dump.statements (Text.joinLines (front ++ parts)) =
            Dump.statements (Text.joinLines (front ++ parts')) := by
  refine ⟨fun first second hopens => ?_, fun first second => Dump.statements_append,
    fun front parts parts' hparts hcode => ?_, fun front parts parts' hparts hdata => ?_⟩
  · exact ⟨Listing.instructionCount_append hopens, congrArg Listing.hasData
      (Listing.read_append hopens), Listing.statements_append hopens⟩
  · exact Listing.statements_joinLines_congr hparts hcode front
  · exact reading_joinLines_congr (fun _ _ => Dump.statements_append) rfl
      (fun _ => Dump.statements_of_namesData) hparts hdata front

/-- A listing that ends amid its code, behind a carriage return. -/
def brokenListing : Text :=
  "Disassembly of section .text.init:\n80000000: 00000013 nop\r".toList

/-- One instruction of a section that is not the code section, below an indented heading. -/
def foreignSection : Text :=
  "\tDisassembly of section .text:\n80000008: 00000013 nop".toList

def codeSection : Text :=
  "Disassembly of section .text.init:\n80000004: 00000073 ecall\r\n".toList

/-- A dump that ends amid its data, behind a carriage return. -/
def brokenDump : Text :=
  "Contents of section .data:\n80002000 00000001 00000002 00000003 00000004\r".toList

def foreignRows : Text :=
  "Contents of section .bss:\n80003000 00000005 00000006 00000007 00000008".toList

/-- The code section adds its instruction to a listing that ends amid its code, and another
section can stand before it, behind it, or be left out.  Rows of another section add nothing to a
dump that ends amid its data, and can be left out as well. -/
theorem statements_additive_seam :
    codeSection.OpensWith Listing.lead ∧ foreignSection.OpensWith Listing.lead ∧
      foreignRows.OpensWith Dump.lead ∧
      (Listing.read (brokenListing ++ '\n' :: codeSection)).instructionCount = 2 ∧
      (Listing.read (Text.joinLines ([brokenListing] ++ [foreignSection, codeSection]))).statements =
        (Listing.read (Text.joinLines ([brokenListing] ++ [codeSection]))).statements ∧
      (Listing.read (Text.joinLines ([brokenListing] ++ [foreignSection, codeSection]))).statements =
        (Listing.read
          (Text.joinLines ([brokenListing] ++ [codeSection, foreignSection]))).statements ∧
      (Dump.statements (brokenDump ++ '\n' :: foreignRows)).length = 4 ∧
      Dump.statements (Text.joinLines ([brokenDump] ++ [foreignRows])) =
        Dump.statements (Text.joinLines ([brokenDump] ++ [])) := by
  have hcode : codeSection.OpensWith Listing.lead :=
    ⟨"Disassembly of section .text.init:".toList, ["80000004: 00000073 ecall".toList],
      by decide +kernel, ".text.init:".toList, by decide +kernel⟩
  have hforeign : foreignSection.OpensWith Listing.lead :=
    ⟨"\tDisassembly of section .text:".toList, ["80000008: 00000013 nop".toList],
      by decide +kernel, ".text:".toList, by decide +kernel⟩
  have hrows : foreignRows.OpensWith Dump.lead :=
    ⟨"Contents of section .bss:".toList,
      ["80003000 00000005 00000006 00000007 00000008".toList],
      by decide +kernel, ".bss:".toList, by decide +kernel⟩
  obtain ⟨hadds, haddsRows, hmoves, hmovesRows⟩ := statements_additive
  refine ⟨hcode, hforeign, hrows, ?_, hmoves _ _ _ ?_ (by decide +kernel),
    hmoves _ _ _ ?_ (by decide +kernel), ?_, hmovesRows _ _ _ ?_ (by decide +kernel)⟩
  · rw [(hadds brokenListing codeSection hcode).1]
    decide +kernel
  · simp [hcode, hforeign]
  · simp [hcode, hforeign]
  · rw [haddsRows brokenDump foreignRows hrows]
    decide +kernel
  · simp [hrows]

end Imprint
