import Imprint.Generation
import Imprint.Proofs.Memory.Constraint

/-!
# The shape of models

The statements of a model stand in three parts: the lines of the listing, the
fill, and the words of the dump.  How a line begins tells its part, whatever
the listing says in its remarks, and one count is the number of instructions,
the bound of the fill, and the bound of the check.
-/

namespace Imprint

/-!
## How lines begin
-/

/-- How a statement begins that names a word of the instruction memory. -/
def codeLead : Text :=
  "assume (imem[".toList

def remarkLead : Text :=
  "// ".toList

/-- How a statement begins that names a word of the data memory. -/
def dataLead : Text :=
  "assume (dmem[".toList

def boundLead : Text :=
  "        vobj = bmc(".toList

theorem codeLead_statement (i : Instruction) : codeLead <+: i.statement := by
  unfold Instruction.statement
  simp only [List.append_assoc]
  exact ⟨"0x".toList ++ _, by rw [← List.append_assoc]; rfl⟩

theorem remarkLead_statement (line : Text) : remarkLead <+: (ListingItem.remark line).statement :=
  List.prefix_append _ _

theorem dataLead_statement (w : DataWord) : dataLead <+: w.statement := by
  unfold DataWord.statement
  simp only [List.append_assoc]
  exact ⟨"0x".toList ++ _, by rw [← List.append_assoc]; rfl⟩

theorem fillLead_fill (count : Nat) : Constraint.fillLead <+: Listing.fill count := by
  unfold Listing.fill
  rw [List.append_assoc]
  exact List.prefix_append _ _

theorem not_prefix_of_prefix {lead other line : Text} (hother : other <+: line)
    (hapart : ¬ lead <+: other ∧ ¬ other <+: lead) : ¬ lead <+: line :=
  fun hline => (List.prefix_or_prefix_of_prefix hline hother).elim hapart.1 hapart.2

theorem codeLead_ne_remarkLead : ¬ codeLead <+: remarkLead ∧ ¬ remarkLead <+: codeLead := by
  decide

/-!
## Headings that announce data
-/

/-- Some line of a listing, without the blanks at its ends, is a heading whose last word is the
name of the data section, with or without a colon behind it. -/
def Listing.AnnouncesData (listing : Text) : Prop :=
  ∃ line ∈ listing.lines, ∃ title word,
    line.trim = "Disassembly of section ".toList ++ title ∧ title.words.getLast? = some word ∧
      (word = Sections.data ∨ word = Sections.data ++ [':'])

theorem Listing.headingName_iff {title word name : Text}
    (hlast : title.words.getLast? = some word) :
    headingName title = name ↔
      word = name ++ [':'] ∨ word = name ∧ name.getLast? ≠ some ':' := by
  unfold headingName
  rw [hlast, Option.getD_some]
  by_cases hcolon : word.getLast? = some ':'
  · obtain ⟨front, rfl⟩ := List.getLast?_eq_some_iff.mp hcolon
    simp only [List.getLast?_concat, if_true, List.dropLast_concat]
    constructor
    · rintro rfl
      exact Or.inl rfl
    · rintro (hname | ⟨rfl, hname⟩)
      · exact List.append_cancel_right hname
      · exact absurd List.getLast?_concat hname
  · simp only [if_neg hcolon]
    constructor
    · rintro rfl
      exact Or.inr ⟨rfl, hcolon⟩
    · rintro (rfl | ⟨rfl, -⟩)
      · exact absurd List.getLast?_concat hcolon
      · rfl

theorem Listing.headingName_eq_data {title : Text} :
    headingName title = Sections.data ↔
      ∃ word, title.words.getLast? = some word ∧
        (word = Sections.data ∨ word = Sections.data ++ [':']) := by
  cases hlast : title.words.getLast? with
  | none =>
      unfold headingName
      rw [hlast]
      constructor
      · intro hname
        exact absurd hname (by decide)
      · rintro ⟨word, hword, -⟩
        cases hword
  | some word =>
      have hcolon : Sections.data.getLast? ≠ some ':' := by
        decide
      rw [headingName_iff hlast]
      simp only [Option.some.injEq, exists_eq_left', hcolon, ne_eq, not_false_eq_true, and_true]
      exact or_comm

theorem Listing.hasData_read {listing : Text} :
    (Listing.read listing).hasData = true ↔ AnnouncesData listing := by
  unfold Listing.read Sections.mentions AnnouncesData Text.trimmedLines
  dsimp only
  rw [List.any_map, List.any_eq_true]
  refine exists_congr fun line => and_congr_right fun _ => ?_
  simp only [Function.comp_apply, beq_iff_eq, heading?, Option.map_eq_some_iff,
    headingName_eq_data]
  constructor
  · rintro ⟨title, htitle, word, hword, hname⟩
    exact ⟨title, word, Text.eq_append_of_after? htitle, hword, hname⟩
  · rintro ⟨title, word, htitle, hword, hname⟩
    exact ⟨title, by rw [htitle, Text.after?_append], word, hword, hname⟩

/-!
## Statements in three parts
-/

/-- The statements of a model are lines about the code, the fill, and lines about the data. -/
structure Model.Shaped (m : Model) (code data : List Text) : Prop where
  init : m.init = code ++ [Listing.fill m.bound] ++ data
  code_begins : ∀ line ∈ code, codeLead <+: line ∨ remarkLead <+: line
  data_begins : ∀ line ∈ data, dataLead <+: line
  count : code.countP codeLead.isPrefixOf = m.bound
  data_length : 4 ∣ data.length

theorem ListingItem.begins (item : ListingItem) :
    codeLead <+: item.statement ∨ remarkLead <+: item.statement := by
  cases item with
  | instruction i => exact Or.inl (codeLead_statement i)
  | remark line => exact Or.inr (remarkLead_statement line)

@[simp] theorem ListingItem.codeLead_isPrefixOf (item : ListingItem) :
    codeLead.isPrefixOf item.statement = item.isInstruction := by
  cases item with
  | instruction i =>
      exact List.isPrefixOf_iff_prefix.mpr (codeLead_statement i)
  | remark line =>
      have hapart := not_prefix_of_prefix (remarkLead_statement line) codeLead_ne_remarkLead
      exact Bool.eq_false_iff.mpr fun hprefix => hapart (List.isPrefixOf_iff_prefix.mp hprefix)

@[simp] theorem Listing.countP_codeLead (l : Listing) :
    (l.items.map ListingItem.statement).countP codeLead.isPrefixOf = l.instructionCount := by
  rw [List.countP_map, instructionCount]
  exact List.countP_congr fun item _ => by rw [Function.comp_apply, item.codeLead_isPrefixOf]

theorem Dump.four_dvd_length_words (dump : Text) : 4 ∣ (words dump).length := by
  unfold words
  induction rows dump with
  | nil =>
      exact Nat.dvd_zero 4
  | cons row rest ih =>
      rw [List.flatMap_cons, List.length_append]
      exact Nat.dvd_add (Nat.dvd_refl 4) ih

theorem Dump.begins (dump : Text) : ∀ line ∈ statements dump, dataLead <+: line := by
  intro line hline
  obtain ⟨word, -, rfl⟩ := List.mem_map.mp hline
  exact dataLead_statement word

/-- The model that is made of a listing and of statements on the data. -/
def Model.ofListing (binary : Path) (l : Listing) (data : List Text) : Model where
  source := binary.display
  bound := l.instructionCount
  init := l.statements ++ data

theorem Model.shaped_ofListing (binary : Path) (l : Listing) {data : List Text}
    (hbegins : ∀ line ∈ data, dataLead <+: line) (hlength : 4 ∣ data.length) :
    (ofListing binary l data).Shaped (l.items.map ListingItem.statement) data where
  init := rfl
  code_begins line hline := by
    obtain ⟨item, -, rfl⟩ := List.mem_map.mp hline
    exact item.begins
  data_begins := hbegins
  count := l.countP_codeLead
  data_length := hlength

namespace Model.Shaped

variable {m : Model} {code data : List Text}

theorem begins (hshaped : m.Shaped code data) {line : Text} (hline : line ∈ code ++ data) :
    ∃ lead ∈ [codeLead, remarkLead, dataLead], lead <+: line := by
  rcases List.mem_append.mp hline with hcode | hdata
  · rcases hshaped.code_begins line hcode with hlead | hlead
    · exact ⟨codeLead, by simp, hlead⟩
    · exact ⟨remarkLead, by simp, hlead⟩
  · exact ⟨dataLead, by simp, hshaped.data_begins line hdata⟩

theorem ne_fill (hshaped : m.Shaped code data) {line : Text} (hline : line ∈ code ++ data)
    (count : Nat) : line ≠ Listing.fill count := by
  have hapart : ∀ lead ∈ [codeLead, remarkLead, dataLead],
      ¬ lead <+: Constraint.fillLead ∧ ¬ Constraint.fillLead <+: lead := by
    decide
  obtain ⟨lead, hlead, hbegins⟩ := hshaped.begins hline
  intro heq
  rw [heq] at hbegins
  exact not_prefix_of_prefix (fillLead_fill count) (hapart lead hlead) hbegins

theorem not_boundLead (hshaped : m.Shaped code data) {line : Text} (hline : line ∈ m.init) :
    ¬ boundLead <+: indented line := by
  have hapart : ∀ lead ∈ [Constraint.fillLead, codeLead, remarkLead, dataLead],
      ¬ boundLead <+: "        ".toList ++ lead ∧ ¬ "        ".toList ++ lead <+: boundLead := by
    decide
  have hbegins : ∃ lead ∈ [Constraint.fillLead, codeLead, remarkLead, dataLead], lead <+: line := by
    rw [hshaped.init, List.mem_append, List.mem_append, List.mem_singleton] at hline
    rcases hline with (hcode | rfl) | hdata
    · obtain ⟨lead, hlead, hline⟩ := hshaped.begins (List.mem_append_left data hcode)
      exact ⟨lead, List.mem_cons_of_mem _ hlead, hline⟩
    · exact ⟨Constraint.fillLead, List.mem_cons_self, fillLead_fill m.bound⟩
    · obtain ⟨lead, hlead, hline⟩ := hshaped.begins (List.mem_append_right code hdata)
      exact ⟨lead, List.mem_cons_of_mem _ hlead, hline⟩
  obtain ⟨lead, hlead, hline⟩ := hbegins
  exact not_prefix_of_prefix ((List.prefix_append_right_inj _).mpr hline) (hapart lead hlead)

end Model.Shaped

/-!
## Bounds
-/

theorem Text.joinLines_append {first second : List Text} (hfirst : first ≠ [])
    (hsecond : second ≠ []) :
    joinLines (first ++ second) = joinLines first ++ '\n' :: joinLines second := by
  induction first with
  | nil =>
      exact absurd rfl hfirst
  | cons line rest ih =>
      cases rest with
      | nil =>
          cases second with
          | nil => exact absurd rfl hsecond
          | cons next others => rfl
      | cons next others =>
          rw [List.cons_append, List.cons_append, joinLines, ← List.cons_append,
            ih (List.cons_ne_nil _ _), joinLines, List.append_assoc]
          rfl

namespace Model

def afterBound : List Text :=
  ["        check;".toList,
    "        print_results;".toList,
    "        vobj.print_cex(cpu_0.pc, cpu_0.exception, cpu_0.regfile);".toList,
    "    \x7d".toList,
    "\x7d".toList]

/-- The lines of the frame between the statements and the bound of the check. -/
def beforeBound : List Text :=
  (closing 0).take 14

theorem closing_eq (bound : Nat) :
    closing bound = beforeBound ++ boundLine bound :: afterBound := rfl

theorem filter_boundLead_closing (bound : Nat) :
    (closing bound).filter boundLead.isPrefixOf = [boundLine bound] := by
  have hbound : boundLead.isPrefixOf (boundLine bound) = true :=
    List.isPrefixOf_iff_prefix.mpr ((List.prefix_append _ _).trans (List.prefix_append _ _))
  have hbefore : beforeBound.filter boundLead.isPrefixOf = [] := by
    decide
  have hafter : afterBound.filter boundLead.isPrefixOf = [] := by
    decide
  rw [closing_eq, List.filter_append, List.filter_cons_of_pos hbound, hbefore, hafter,
    List.nil_append]

theorem Shaped.filter_boundLead {m : Model} {code data : List Text}
    (hshaped : m.Shaped code data) :
    m.lines.tail.filter boundLead.isPrefixOf = [boundLine m.bound] := by
  have hopening : opening.filter boundLead.isPrefixOf = [] := by
    decide
  have hinit : (m.init.map indented).filter boundLead.isPrefixOf = [] := by
    refine List.filter_eq_nil_iff.mpr fun line hline => ?_
    obtain ⟨statement, hstatement, rfl⟩ := List.mem_map.mp hline
    rw [List.isPrefixOf_iff_prefix]
    exact hshaped.not_boundLead hstatement
  have htail : m.lines.tail = opening ++ m.init.map indented ++ closing m.bound := rfl
  rw [htail, List.filter_append, List.filter_append, hopening, hinit, filter_boundLead_closing]
  rfl

theorem joinLines_bound_suffix_render (m : Model) :
    '\n' :: Text.joinLines (boundLine m.bound :: afterBound) <:+ m.render := by
  have hlines : m.lines = (m.headline :: opening ++ m.init.map indented ++ beforeBound) ++
      boundLine m.bound :: afterBound := by
    rw [lines, closing_eq, ← List.append_assoc]
  rw [render, hlines, Text.joinLines_append (by simp) (List.cons_ne_nil _ _)]
  exact List.suffix_append _ _

end Model

/-!
## Models from the answers of a disassembler
-/

/-- What a disassembler answers to the call for the code of a binary. -/
def codeReply (d : Disassembler) (binary : Path) (p : Progress) : Except Failure Text × Store :=
  d.answer p.calls p.store ⟨.code, binary⟩

/-- What a disassembler answers to the call for the data of a binary, right after that for its
code. -/
def dataReply (d : Disassembler) (binary : Path) (p : Progress) : Except Failure Text × Store :=
  d.answer (p.calls ++ [⟨.code, binary⟩]) (codeReply d binary p).2 ⟨.data, binary⟩

theorem generate_eq (d : Disassembler) (binary : Path) (p : Progress) :
    (generate d binary p).1 =
      match (codeReply d binary p).1 with
      | .error failure => .error failure
      | .ok listing =>
          if (Listing.read listing).hasData then
            match (dataReply d binary p).1 with
            | .error failure => .error failure
            | .ok dump =>
                .ok (Model.ofListing binary (Listing.read listing) (Dump.statements dump))
          else
            .ok (Model.ofListing binary (Listing.read listing) []) := by
  unfold generate dataReply codeReply
  rcases hcode : d.answer p.calls p.store ⟨.code, binary⟩ with ⟨code, left⟩
  cases code with
  | error failure =>
      simp [hcode]
  | ok listing =>
      by_cases hdata : (Listing.read listing).hasData = true
      · rcases hreply : d.answer (p.calls ++ [⟨.code, binary⟩]) left ⟨.data, binary⟩ with
          ⟨data, last⟩
        cases data <;> simp [hcode, hdata, dataStatements, hreply, Model.ofListing]
      · simp [hcode, hdata, Model.ofListing]

section

variable {d : Disassembler} {binary : Path} {p : Progress}

theorem generate_eq_error_iff {failure : Failure} :
    (generate d binary p).1 = .error failure ↔
      (codeReply d binary p).1 = .error failure ∨
        ∃ listing, (codeReply d binary p).1 = .ok listing ∧ Listing.AnnouncesData listing ∧
          (dataReply d binary p).1 = .error failure := by
  rw [generate_eq]
  cases (codeReply d binary p).1 with
  | error other => simp
  | ok listing =>
      by_cases hdata : Listing.AnnouncesData listing
      · have hread := Listing.hasData_read.mpr hdata
        cases (dataReply d binary p).1 with
        | error other => simp [hread, hdata]
        | ok dump => simp [hread]
      · have hread := mt Listing.hasData_read.mp hdata
        simp [hread, hdata]

theorem generate_eq_ok_iff {m : Model} :
    (generate d binary p).1 = .ok m ↔
      ∃ listing, (codeReply d binary p).1 = .ok listing ∧
        (¬ Listing.AnnouncesData listing ∧ m = .ofListing binary (.read listing) [] ∨
          Listing.AnnouncesData listing ∧ ∃ dump, (dataReply d binary p).1 = .ok dump ∧
            m = .ofListing binary (.read listing) (Dump.statements dump)) := by
  rw [generate_eq]
  cases (codeReply d binary p).1 with
  | error other => simp
  | ok listing =>
      by_cases hdata : Listing.AnnouncesData listing
      · have hread := Listing.hasData_read.mpr hdata
        cases (dataReply d binary p).1 with
        | error other => simp [hread, hdata]
        | ok dump =>
            simp only [hread, hdata, if_true, not_true, false_and, true_and, false_or,
              Except.ok.injEq, exists_eq_left']
            exact eq_comm
      · have hread := mt Listing.hasData_read.mp hdata
        simp only [hread, hdata, if_false, not_false_eq_true, true_and, false_and, or_false,
          Except.ok.injEq, exists_eq_left', Bool.false_eq_true]
        exact eq_comm

theorem shaped_of_generate {m : Model} (hgenerate : (generate d binary p).1 = .ok m) :
    ∃ listing code data, (codeReply d binary p).1 = .ok listing ∧ m.Shaped code data ∧
      (¬ Listing.AnnouncesData listing → data = []) := by
  obtain ⟨listing, hcode, hmade⟩ := generate_eq_ok_iff.mp hgenerate
  rcases hmade with ⟨-, rfl⟩ | ⟨hdata, dump, -, rfl⟩
  · exact ⟨listing, _, [], hcode, Model.shaped_ofListing binary _ (by simp) (Nat.dvd_zero 4),
      fun _ => rfl⟩
  · refine ⟨listing, _, _, hcode, Model.shaped_ofListing binary _ (Dump.begins dump) ?_,
      fun hnone => absurd hdata hnone⟩
    rw [Dump.statements, List.length_map]
    exact Dump.four_dvd_length_words dump

end

/-- A model is made exactly when the disassembler lists the code and, where the listing
announces data, dumps the data; otherwise the failure is that of the disassembler.  Its
statements are lines about the code, one fill, and lines about the data, and the count of
instructions is the bound of the fill and of the check. -/
theorem generate_shaped (d : Disassembler) (binary : Path) (p : Progress) :
    ((∃ m, (generate d binary p).1 = .ok m) ↔
        ∃ listing, (codeReply d binary p).1 = .ok listing ∧
          (Listing.AnnouncesData listing → ∃ dump, (dataReply d binary p).1 = .ok dump)) ∧
      (∀ failure, (generate d binary p).1 = .error failure ↔
        (codeReply d binary p).1 = .error failure ∨
          ∃ listing, (codeReply d binary p).1 = .ok listing ∧ Listing.AnnouncesData listing ∧
            (dataReply d binary p).1 = .error failure) ∧
      ∀ m, (generate d binary p).1 = .ok m →
        ∃ listing code data, (codeReply d binary p).1 = .ok listing ∧ m.Shaped code data ∧
          (¬ Listing.AnnouncesData listing → data = []) ∧
          (∀ line ∈ code ++ data, ∀ count, line ≠ Listing.fill count) ∧
          m.lines.tail.filter boundLead.isPrefixOf = [Model.boundLine m.bound] ∧
          '\n' :: Text.joinLines (Model.boundLine m.bound :: Model.afterBound) <:+ m.render := by
  refine ⟨?_, fun failure => generate_eq_error_iff, ?_⟩
  · constructor
    · rintro ⟨m, hgenerate⟩
      obtain ⟨listing, hcode, hmade⟩ := generate_eq_ok_iff.mp hgenerate
      refine ⟨listing, hcode, fun hdata => ?_⟩
      rcases hmade with ⟨hnone, -⟩ | ⟨-, dump, hdump, -⟩
      · exact absurd hdata hnone
      · exact ⟨dump, hdump⟩
    · rintro ⟨listing, hcode, hdump⟩
      by_cases hdata : Listing.AnnouncesData listing
      · obtain ⟨dump, hdump⟩ := hdump hdata
        exact ⟨_, generate_eq_ok_iff.mpr ⟨listing, hcode, Or.inr ⟨hdata, dump, hdump, rfl⟩⟩⟩
      · exact ⟨_, generate_eq_ok_iff.mpr ⟨listing, hcode, Or.inl ⟨hdata, rfl⟩⟩⟩
  · intro m hgenerate
    obtain ⟨listing, code, data, hcode, hshaped, hnone⟩ := shaped_of_generate hgenerate
    exact ⟨listing, code, data, hcode, hshaped, hnone, fun line hline => hshaped.ne_fill hline,
      hshaped.filter_boundLead, m.joinLines_bound_suffix_render⟩

/-- A disassembler that lists a call below a label that looks like a statement, and one row of
data. -/
def mimic : Disassembler :=
  .ofReplies fun call =>
    match call.pass with
    | .code =>
        .ok ("Disassembly of section .text.init:\nassume (imem[0x0bv30] == 0x0bv32);\n".toList ++
          "80000000: 00000073 ecall\nDisassembly of section .data:\n".toList)
    | .data =>
        .ok "Contents of section .data:\n 80002000 00000001 00000002 00000003 00000004\n".toList

/-- The label is no statement: one instruction is counted. -/
theorem generate_shaped_mimic :
    ∃ m code data, (generate mimic (.ofText "a".toList) { store := .empty }).1 = .ok m ∧
      m.Shaped code data ∧ m.init.length = 7 ∧ code.countP codeLead.isPrefixOf = 1 ∧
      m.lines.tail.filter boundLead.isPrefixOf = [Model.boundLine 1] := by
  have hmade : ∃ m, (generate mimic (.ofText "a".toList) { store := .empty }).1 = .ok m ∧
      m.bound = 1 ∧ m.init.length = 7 := by
    refine ⟨_, rfl, ?_, ?_⟩
    · decide +kernel
    · decide +kernel
  obtain ⟨m, hgenerate, hbound, hlength⟩ := hmade
  obtain ⟨listing, code, data, -, hshaped, -, -, hline, -⟩ :=
    (generate_shaped mimic (.ofText "a".toList) { store := .empty }).2.2 m hgenerate
  rw [hbound] at hline
  exact ⟨m, code, data, hgenerate, hshaped, hlength, hshaped.count.trans hbound, hline⟩

end Imprint
