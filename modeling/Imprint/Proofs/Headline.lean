import Imprint.Batch
import Imprint.Proofs.Generation
import Imprint.Proofs.Rendering
import Imprint.Proofs.Text.Shown

/-!
# Headlines

The first line of a model is a comment that names the binary by its path.  The
path is written as it is, so each of its newlines ends a line of the model: the
lines of a model are those of its frame and its statements exactly when there
are none in the path.
-/

namespace Imprint

/-!
## Ends of statements
-/

@[simp] theorem Instruction.endsInReturn_commentOf (rest : Text) :
    (commentOf rest).endsInReturn = false := by
  have htrim := Text.endsInReturn_trim rest
  unfold commentOf
  rcases List.eq_nil_or_concat' rest.trim with hnil | ⟨front, c, hrest⟩
  · rw [hnil]
    rfl
  · have hchar : commentChar c ≠ [] ∧ (commentChar c).endsInReturn = Text.endsInReturn [c] := by
      unfold commentChar
      split
      · rename_i hc
        subst hc
        decide
      · split
        · rename_i hc
          subst hc
          decide
        · exact ⟨List.cons_ne_nil c [], rfl⟩
    rw [hrest, Text.endsInReturn_append front (List.cons_ne_nil c [])] at htrim
    rw [hrest, List.flatMap_append, List.flatMap_singleton,
      Text.endsInReturn_append _ hchar.1, hchar.2, htrim]

theorem Instruction.endsInReturn_statement {line : Text} {i : Instruction}
    (hread : read? line = some i) : i.statement.endsInReturn = false := by
  obtain ⟨rest, -, hcomment⟩ := comment_of_read? hread
  unfold statement
  rw [hcomment]
  refine Text.endsInReturn_append_of_false ?_ (endsInReturn_commentOf rest)
  rw [Text.endsInReturn_append _ (by decide)]
  decide

@[simp] theorem DataWord.endsInReturn_statement (w : DataWord) :
    w.statement.endsInReturn = false := by
  unfold statement
  rw [Text.endsInReturn_append _ (by decide)]
  decide

@[simp] theorem ListingItem.endsInReturn_statement (t : Text) :
    (ofLine t.trim).statement.endsInReturn = false := by
  unfold ofLine
  cases hread : Instruction.read? t.trim with
  | some i =>
      exact Instruction.endsInReturn_statement hread
  | none =>
      exact Text.endsInReturn_append_of_false (by decide) (Text.endsInReturn_trim t)

theorem Listing.endsInReturn_statements {listing line : Text}
    (hline : line ∈ (read listing).statements) : line.endsInReturn = false := by
  rcases List.mem_append.mp hline with hitem | hfill
  · obtain ⟨item, hmem, rfl⟩ := List.mem_map.mp hitem
    obtain ⟨trimmed, htrimmed, rfl⟩ := List.mem_map.mp hmem
    obtain ⟨hunder, -⟩ := List.mem_filter.mp htrimmed
    obtain ⟨whole, -, rfl⟩ := List.mem_map.mp (Sections.mem_of_mem_under hunder)
    exact ListingItem.endsInReturn_statement whole
  · rw [List.mem_singleton.mp hfill]
    unfold fill
    rw [Text.endsInReturn_append _ (by decide)]
    decide

theorem Dump.endsInReturn_statements {dump line : Text} (hline : line ∈ statements dump) :
    line.endsInReturn = false := by
  obtain ⟨word, -, rfl⟩ := List.mem_map.mp hline
  exact word.endsInReturn_statement

theorem endsInReturn_of_generate {d : Disassembler} {binary : Path} {p : Progress} {m : Model}
    (hgenerate : (generate d binary p).1 = .ok m) :
    ∀ statement ∈ m.init, statement.endsInReturn = false := by
  intro statement hstatement
  rcases (init_of_generate hgenerate).2 statement hstatement with ⟨listing, hcode⟩ | ⟨dump, hdata⟩
  · exact Listing.endsInReturn_statements hcode
  · exact Dump.endsInReturn_statements hdata

/-!
## Lines of a model
-/

namespace Model

theorem endsInReturn_opening : ∀ line ∈ opening, line.endsInReturn = false := by
  decide

theorem endsInReturn_indented {statement : Text} (hstatement : statement.endsInReturn = false) :
    (indented statement).endsInReturn = false :=
  Text.endsInReturn_append_of_false (by decide) hstatement

theorem endsInReturn_closing (bound : Nat) : ∀ line ∈ closing bound, line.endsInReturn = false := by
  have hbefore : ∀ line ∈ beforeBound, line.endsInReturn = false := by
    decide
  have hafter : ∀ line ∈ afterBound, line.endsInReturn = false := by
    decide
  intro line hline
  rw [closing_eq] at hline
  rcases List.mem_append.mp hline with hline | hline
  · exact hbefore line hline
  · rcases List.mem_cons.mp hline with rfl | hline
    · unfold boundLine
      rw [Text.endsInReturn_append _ (by decide)]
      decide
    · exact hafter line hline

theorem lines_render {m : Model} (hinit : ∀ statement ∈ m.init, '\n' ∉ statement)
    (hends : ∀ statement ∈ m.init, statement.endsInReturn = false) :
    m.render.lines = (cutAt '\n' m.headline).map Text.withoutReturn ++ opening ++
      m.init.map indented ++ closing m.bound := by
  have hclosing : closing m.bound = (closing m.bound).dropLast ++ ["\x7d".toList] := rfl
  have hpieces : cutAt '\n' m.render = (cutAt '\n' m.headline ++ opening ++ m.init.map indented ++
      (closing m.bound).dropLast) ++ ["\x7d".toList] := by
    rw [cutAt_render hinit, List.append_assoc _ _ ["\x7d".toList], ← hclosing]
  have hkept (lines : List Text) (hlines : ∀ line ∈ lines, line.endsInReturn = false) :
      lines.map Text.withoutReturn = lines :=
    (List.map_congr_left fun line hline => Text.withoutReturn_eq (hlines line hline)).trans
      (List.map_id lines)
  have hindented : ∀ line ∈ m.init.map indented, line.endsInReturn = false := by
    intro line hline
    obtain ⟨statement, hstatement, rfl⟩ := List.mem_map.mp hline
    exact endsInReturn_indented (hends statement hstatement)
  rw [Text.lines_of_cutAt hpieces, if_neg (by decide)]
  simp only [List.map_append]
  rw [hkept _ endsInReturn_opening, hkept _ hindented,
    hkept _ fun line hline => endsInReturn_closing m.bound line (List.dropLast_subset _ hline),
    List.append_assoc _ _ ["\x7d".toList], ← hclosing]

theorem count_headline {m : Model} (hgenerator : m.generator = generatorName) :
    m.headline.count '\n' = m.source.count '\n' := by
  have hlead : "// AUTOGENERATED FROM ".toList.count '\n' = 0 := by
    decide
  have hbehind : (" BY ".toList ++ generatorName).count '\n' = 0 := by
    decide
  unfold headline
  rw [hgenerator, List.append_assoc, List.count_append, List.count_append, hlead, hbehind,
    Nat.zero_add, Nat.add_zero]

theorem endsInReturn_headline {m : Model} (hgenerator : m.generator = generatorName) :
    m.headline.endsInReturn = false := by
  unfold headline
  rw [hgenerator, Text.endsInReturn_append _ (by decide)]
  decide

end Model

@[simp] theorem Path.count_newline_display (p : Path) :
    p.display.count '\n' = p.bytes.count 0x0A := by
  have hcut := congrArg List.length
    (Utf8.cutAt_decode (show (0x0A : UInt8) < 0x80 by decide) p.bytes)
  rw [List.length_map, length_cutAt, length_cutAt] at hcut
  exact Nat.succ.inj hcut

/-!
## Newlines in paths
-/

section

variable {d : Disassembler} {binary : Path} {p : Progress} {m : Model}

theorem headline_of_generate (hgenerate : (generate d binary p).1 = .ok m) :
    m.headline = "// AUTOGENERATED FROM ".toList ++ binary.display ++
      (" BY ".toList ++ generatorName) := by
  unfold Model.headline
  rw [source_of_generate hgenerate, (single_of_generate hgenerate).1]
  exact List.append_assoc _ _ _

theorem lines_of_generate (hgenerate : (generate d binary p).1 = .ok m) :
    m.render.lines = (cutAt '\n' m.headline).map Text.withoutReturn ++ Model.opening ++
      m.init.map Model.indented ++ Model.closing m.bound :=
  Model.lines_render (single_of_generate hgenerate).2 (endsInReturn_of_generate hgenerate)

theorem length_lines_of_generate (hgenerate : (generate d binary p).1 = .ok m) :
    m.render.lines.length = 32 + m.init.length + binary.bytes.count 0x0A := by
  have hcount : m.headline.count '\n' = binary.bytes.count 0x0A := by
    rw [Model.count_headline (single_of_generate hgenerate).1, source_of_generate hgenerate,
      Path.count_newline_display]
  have hopening : Model.opening.length = 11 := rfl
  have hclosing : (Model.closing m.bound).length = 20 := rfl
  rw [lines_of_generate hgenerate, List.length_append, List.length_append, List.length_append,
    List.length_map, List.length_map, length_cutAt, hcount, hopening, hclosing]
  omega

/-- The lines of a model that is made are those of its headline, the frame and the statements:
32 and one for each statement, and one more for each newline in the path of the binary.  The
headline is the first line as a whole, with the frame and the statements behind it, exactly when
there is no newline in the path. -/
theorem generate_headed (hgenerate : (generate d binary p).1 = .ok m) :
    m.render.lines = (cutAt '\n' m.headline).map Text.withoutReturn ++ Model.opening ++
        m.init.map Model.indented ++ Model.closing m.bound ∧
      m.render.lines.length = 32 + m.init.length + binary.bytes.count 0x0A ∧
      (0x0A ∉ binary.bytes ↔
        m.render.lines[0]? = some ("// AUTOGENERATED FROM ".toList ++ binary.display ++
            (" BY ".toList ++ generatorName)) ∧
          m.render.lines[1]? = some "module main \x7b".toList ∧
          m.render.lines.length = 32 + m.init.length) := by
  have hlines := lines_of_generate hgenerate
  have hlength := length_lines_of_generate hgenerate
  refine ⟨hlines, hlength, ?_, ?_⟩
  · intro hnone
    have hwhole : (cutAt '\n' m.headline).map Text.withoutReturn = [m.headline] := by
      have hgenerator := (single_of_generate hgenerate).1
      have hheadline : '\n' ∉ m.headline := by
        rw [← List.count_eq_zero, Model.count_headline hgenerator, source_of_generate hgenerate,
          Path.count_newline_display, List.count_eq_zero]
        exact hnone
      rw [cutAt_of_not_mem hheadline, List.map_singleton,
        Text.withoutReturn_eq (Model.endsInReturn_headline hgenerator)]
    rw [hlength, hlines, hwhole, headline_of_generate hgenerate, List.count_eq_zero.mpr hnone]
    exact ⟨rfl, rfl, Nat.add_zero _⟩
  · rintro ⟨-, -, hshort⟩ hmem
    have hpositive := List.count_pos_iff.mpr hmem
    omega

end

/-- A path with carriage returns, quotes and the signs of a comment. -/
def noisyPath : Path :=
  .ofText "in/a // BY\r\"b\r".toList

/-- The noisy path is named on one line. -/
theorem generate_headed_noisy :
    0x0A ∉ noisyPath.bytes ∧
      ∃ m, (generate mimic noisyPath { store := .empty }).1 = .ok m ∧
        m.render.lines[0]? =
          some "// AUTOGENERATED FROM in/a // BY\r\"b\r BY riscv2ucl 0.1.0".toList ∧
        m.render.lines[1]? = some "module main \x7b".toList ∧ m.render.lines.length = 39 := by
  have hnone : 0x0A ∉ noisyPath.bytes := by
    decide +kernel
  obtain ⟨m, hgenerate, hlength⟩ : ∃ m, (generate mimic noisyPath { store := .empty }).1 = .ok m ∧
      m.init.length = 7 := ⟨_, rfl, by decide +kernel⟩
  obtain ⟨-, -, hiff⟩ := generate_headed hgenerate
  obtain ⟨hfirst, hsecond, hlines⟩ := hiff.mp hnone
  refine ⟨hnone, m, hgenerate, hfirst.trans ?_, hsecond, by rw [hlines, hlength]⟩
  decide +kernel

def forgedName : Name :=
  Utf8.encode "rv32ui-p-a\nmodule forged \x7b".toList

def forgedStore : Store :=
  (Store.empty.put [Utf8.encode "in".toList] .directory).put
    [forgedName, Utf8.encode "in".toList] (.file bareImage false)

/-- The binary by the forged name is discovered, and its model has a line behind the headline that
is no line of the frame. -/
theorem generate_headed_forged :
    Batch.discover forgedStore (.ofText "in".toList) "rv32ui-p-".toList =
        .ok [(Path.ofText "in".toList).child forgedName] ∧
      ∃ m, (generate mimic ((Path.ofText "in".toList).child forgedName)
          { store := forgedStore }).1 = .ok m ∧
        m.render.lines[0]? = some "// AUTOGENERATED FROM in/rv32ui-p-a".toList ∧
        m.render.lines[1]? = some "module forged \x7b BY riscv2ucl 0.1.0".toList ∧
        m.render.lines.length = 33 + m.init.length := by
  obtain ⟨m, hgenerate⟩ : ∃ m, (generate mimic ((Path.ofText "in".toList).child forgedName)
      { store := forgedStore }).1 = .ok m := ⟨_, rfl⟩
  have hheadlines : (cutAt '\n' m.headline).map Text.withoutReturn =
      ["// AUTOGENERATED FROM in/rv32ui-p-a".toList,
        "module forged \x7b BY riscv2ucl 0.1.0".toList] := by
    rw [headline_of_generate hgenerate]
    decide +kernel
  have hcount : ((Path.ofText "in".toList).child forgedName).bytes.count 0x0A = 1 := by
    decide +kernel
  refine ⟨by decide +kernel, m, hgenerate, ?_, ?_, ?_⟩
  · rw [lines_of_generate hgenerate, hheadlines]
    rfl
  · rw [lines_of_generate hgenerate, hheadlines]
    rfl
  · rw [length_lines_of_generate hgenerate, hcount]
    omega

end Imprint
