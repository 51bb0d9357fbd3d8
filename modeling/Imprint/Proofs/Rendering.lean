import Imprint.Proofs.Grammar.Instruction
import Imprint.Proofs.Shape
import Imprint.Proofs.Text.Lines

/-!
# Reading models back

The text of a model is read from the back: the closing lines have a fixed count,
the statements before them are what stands eight spaces inside, and the opening
lines end the headline, whatever text the name of the source holds.  No statement
holds a newline, so nothing of a model is lost in its text.
-/

namespace Imprint

/-!
## Statements are single lines
-/

theorem Radix.newline_not_mem_numeral {r : Radix} (hdigit : ∀ k < r.base, r.digit k ≠ '\n')
    (n : Nat) : '\n' ∉ r.numeral n := by
  have hall := r.forall_mem_numeral (fun c => decide (c ≠ '\n'))
    (fun k hk => decide_eq_true (hdigit k hk)) n
  intro hmem
  exact absurd rfl (of_decide_eq_true (hall '\n' hmem))

theorem Radix.newline_not_mem_padded {r : Radix} (hdigit : ∀ k < r.base, r.digit k ≠ '\n')
    (count n : Nat) : '\n' ∉ r.padded count n := by
  have hall := r.forall_mem_padded (fun c => decide (c ≠ '\n'))
    (fun k hk => decide_eq_true (hdigit k hk)) count n
  intro hmem
  exact absurd rfl (of_decide_eq_true (hall '\n' hmem))

theorem Radix.upperHex_ne_newline : ∀ k < upperHex.base, upperHex.digit k ≠ '\n' := by
  decide

theorem Radix.decimal_ne_newline : ∀ k < decimal.base, decimal.digit k ≠ '\n' := by
  decide

namespace Instruction

theorem newline_not_mem_commentOf {rest : Text} (hrest : '\n' ∉ rest) :
    '\n' ∉ commentOf rest := by
  intro hmem
  obtain ⟨c, hc, hchar⟩ := List.mem_flatMap.mp hmem
  have hne : c ≠ '\n' := by
    intro heq
    exact hrest ((Text.trim_sublist rest).subset (heq ▸ hc))
  unfold commentChar at hchar
  split at hchar
  · exact absurd hchar (by decide)
  · split at hchar
    · exact absurd hchar (by decide)
    · exact hne (List.mem_singleton.mp hchar).symm

theorem newline_not_mem_comment {line : Text} {i : Instruction} (hread : read? line = some i) :
    '\n' ∉ i.comment := by
  obtain ⟨rest, hrest, hcomment⟩ := comment_of_read? hread
  rw [hcomment]
  exact newline_not_mem_commentOf hrest

theorem newline_not_mem_statement {i : Instruction} (hcomment : '\n' ∉ i.comment) :
    '\n' ∉ i.statement := by
  have hword := Radix.newline_not_mem_numeral Radix.upperHex_ne_newline i.word.toNat
  have hbits := Radix.newline_not_mem_padded Radix.upperHex_ne_newline 8 i.bits.toNat
  unfold statement
  simp only [List.mem_append, not_or]
  exact ⟨⟨⟨⟨⟨by decide, hword⟩, by decide⟩, hbits⟩, by decide⟩, hcomment⟩

end Instruction

theorem DataWord.newline_not_mem_statement (w : DataWord) : '\n' ∉ w.statement := by
  have hword := Radix.newline_not_mem_numeral Radix.upperHex_ne_newline w.word.toNat
  have hvalue := Radix.newline_not_mem_padded Radix.upperHex_ne_newline 8 w.value.toNat
  unfold statement
  simp only [List.mem_append, not_or]
  exact ⟨⟨⟨⟨by decide, hword⟩, by decide⟩, hvalue⟩, by decide⟩

theorem ListingItem.newline_not_mem_statement {line : Text} (hline : '\n' ∉ line) :
    '\n' ∉ (ofLine line).statement := by
  unfold ofLine
  cases hread : Instruction.read? line with
  | some i =>
      exact Instruction.newline_not_mem_statement (Instruction.newline_not_mem_comment hread)
  | none =>
      unfold statement
      simp only [List.mem_append, not_or]
      exact ⟨by decide, hline⟩

namespace Listing

theorem newline_not_mem_fill (count : Nat) : '\n' ∉ fill count := by
  have hcount := Radix.newline_not_mem_numeral Radix.decimal_ne_newline count
  unfold fill
  simp only [List.mem_append, not_or]
  exact ⟨⟨by decide, hcount⟩, by decide⟩

theorem newline_not_mem_statements {listing line : Text}
    (hline : line ∈ (read listing).statements) : '\n' ∉ line := by
  rcases List.mem_append.mp hline with hitem | hfill
  · obtain ⟨item, hmem, rfl⟩ := List.mem_map.mp hitem
    obtain ⟨whole, hwhole, rfl⟩ := List.mem_map.mp hmem
    obtain ⟨hunder, -⟩ := List.mem_filter.mp hwhole
    exact ListingItem.newline_not_mem_statement
      (Text.newline_not_mem_trimmedLines (Sections.mem_of_mem_under hunder))
  · rw [List.mem_singleton.mp hfill]
    exact newline_not_mem_fill _

end Listing

theorem Dump.newline_not_mem_statements {dump line : Text} (hline : line ∈ statements dump) :
    '\n' ∉ line := by
  obtain ⟨word, -, rfl⟩ := List.mem_map.mp hline
  exact word.newline_not_mem_statement

namespace Model

/-!
## From the back of the text
-/

/-- Whether a line stands eight spaces inside the frame, as statements do. -/
def isIndented (line : Text) : Bool :=
  (indented []).isPrefixOf line

/-- The source that a headline names, where the generator is the usual one. -/
def sourceOf (headline : Text) : Text :=
  let named := headline.drop "// AUTOGENERATED FROM ".toList.length
  named.take (named.length - (" BY ".toList ++ generatorName).length)

def boundOf (line : Text) : Nat :=
  Text.decimalValue ((line.drop boundLead.length).takeWhile Char.isDigit)

/-- Reads a model from its text: the closing lines are taken from the back, then the statements,
then the opening lines, and what is left is the headline. -/
def recover (t : Text) : Model :=
  let reversed := (cutAt '\n' t).reverse
  let rest := reversed.drop (closing 0).length
  { source :=
      sourceOf (Text.joinLines ((rest.dropWhile isIndented).drop opening.length).reverse)
    bound := boundOf (reversed.getD afterBound.length [])
    init := (rest.takeWhile isIndented).reverse.map (List.drop (indented []).length) }

theorem sourceOf_headline {m : Model} (hgenerator : m.generator = generatorName) :
    sourceOf m.headline = m.source := by
  have hheadline : m.headline = "// AUTOGENERATED FROM ".toList ++
      (m.source ++ (" BY ".toList ++ generatorName)) := by
    unfold headline
    rw [hgenerator]
    exact (List.append_assoc _ _ _).trans (List.append_assoc _ _ _)
  unfold sourceOf
  rw [hheadline, List.drop_left]
  dsimp only
  rw [List.length_append, Nat.add_sub_cancel, List.take_left]

@[simp] theorem boundOf_boundLine (bound : Nat) : boundOf (boundLine bound) = bound := by
  have hdigits := Radix.forall_mem_numeral Radix.decimal Char.isDigit Text.isDigit_decimal bound
  have hline : boundLine bound =
      boundLead ++ (Radix.decimal.numeral bound ++ ')' :: ";".toList) := by
    unfold boundLine
    exact List.append_assoc _ _ _
  unfold boundOf
  rw [hline, List.drop_left, Text.takeWhile_append_of_stop hdigits (by decide),
    Text.decimalValue_numeral]

@[simp] theorem isIndented_indented (statement : Text) : isIndented (indented statement) = true :=
  List.isPrefixOf_iff_prefix.mpr (List.prefix_append _ statement)

@[simp] theorem drop_indented (statement : Text) :
    (indented statement).drop (indented []).length = statement :=
  List.drop_left

/-!
## Nothing is lost
-/

/-- Cut at its newlines, the text of a model is the headline, which may hold newlines itself,
and the lines of the frame and the statements. -/
theorem cutAt_render {m : Model} (hinit : ∀ statement ∈ m.init, '\n' ∉ statement) :
    cutAt '\n' m.render =
      cutAt '\n' m.headline ++ opening ++ m.init.map indented ++ closing m.bound := by
  have hopening : ∀ line ∈ opening, '\n' ∉ line := by
    decide
  have hindented : ∀ line ∈ m.init.map indented, '\n' ∉ line := by
    intro line hline
    obtain ⟨statement, hstatement, rfl⟩ := List.mem_map.mp hline
    unfold indented
    rw [List.mem_append, not_or]
    exact ⟨by decide, hinit statement hstatement⟩
  have hclosing : ∀ line ∈ closing m.bound, '\n' ∉ line := by
    have hbefore : ∀ line ∈ beforeBound, '\n' ∉ line := by
      decide
    have hafter : ∀ line ∈ afterBound, '\n' ∉ line := by
      decide
    have hbound : '\n' ∉ boundLine m.bound := by
      have hnumeral := Radix.newline_not_mem_numeral Radix.decimal_ne_newline m.bound
      unfold boundLine
      simp only [List.mem_append, not_or]
      exact ⟨⟨by decide, hnumeral⟩, by decide⟩
    intro line hline
    rw [closing_eq] at hline
    rcases List.mem_append.mp hline with hline | hline
    · exact hbefore line hline
    · rcases List.mem_cons.mp hline with rfl | hline
      · exact hbound
      · exact hafter line hline
  have hframe : opening ++ m.init.map indented ++ closing m.bound ≠ [] := by
    simp [opening]
  have hlines : ∀ line ∈ opening ++ m.init.map indented ++ closing m.bound, '\n' ∉ line := by
    intro line hline
    rcases List.mem_append.mp hline with hline | hline
    · rcases List.mem_append.mp hline with hline | hline
      · exact hopening line hline
      · exact hindented line hline
    · exact hclosing line hline
  have hrender : m.render = m.headline ++
      '\n' :: Text.joinLines (opening ++ m.init.map indented ++ closing m.bound) := rfl
  rw [hrender, cutAt_append, Text.cutAt_joinLines hframe hlines, List.append_assoc,
    List.append_assoc, List.append_assoc]

theorem recover_render {m : Model} (hgenerator : m.generator = generatorName)
    (hinit : ∀ statement ∈ m.init, '\n' ∉ statement) : recover m.render = m := by
  have hreversed : (cutAt '\n' m.render).reverse = (closing m.bound).reverse ++
      ((m.init.map indented).reverse ++ (opening.reverse ++ (cutAt '\n' m.headline).reverse)) := by
    rw [cutAt_render hinit]
    simp only [List.reverse_append]
  have hrest : (cutAt '\n' m.render).reverse.drop (closing 0).length =
      (m.init.map indented).reverse ++ (opening.reverse ++ (cutAt '\n' m.headline).reverse) := by
    rw [hreversed]
    exact List.drop_left' (by rw [List.length_reverse]; rfl)
  have hopening : opening.reverse = "    init \x7b".toList :: opening.dropLast.reverse := rfl
  have hstop : ¬ isIndented "    init \x7b".toList = true := by
    decide
  have hindented : ∀ line ∈ (m.init.map indented).reverse, isIndented line = true := by
    intro line hline
    obtain ⟨statement, -, rfl⟩ := List.mem_map.mp (List.mem_reverse.mp hline)
    exact isIndented_indented statement
  have htake : ((m.init.map indented).reverse ++
      (opening.reverse ++ (cutAt '\n' m.headline).reverse)).takeWhile isIndented =
        (m.init.map indented).reverse := by
    rw [List.takeWhile_append_of_pos hindented, hopening, List.cons_append,
      List.takeWhile_cons_of_neg hstop, List.append_nil]
  have hdrop : ((m.init.map indented).reverse ++
      (opening.reverse ++ (cutAt '\n' m.headline).reverse)).dropWhile isIndented =
        opening.reverse ++ (cutAt '\n' m.headline).reverse := by
    rw [List.dropWhile_append_of_pos hindented, hopening, List.cons_append,
      List.dropWhile_cons_of_neg hstop]
  have hsource : sourceOf (Text.joinLines ((opening.reverse ++
      (cutAt '\n' m.headline).reverse).drop opening.length).reverse) = m.source := by
    rw [List.drop_left' List.length_reverse, List.reverse_reverse, Text.joinLines_cutAt,
      sourceOf_headline hgenerator]
  have hbound : boundOf ((cutAt '\n' m.render).reverse.getD afterBound.length []) = m.bound := by
    rw [hreversed, closing_eq, List.reverse_append, List.reverse_cons, List.append_assoc,
      List.append_assoc, ← List.length_reverse]
    simp only [List.getD_eq_getElem?_getD, List.getElem?_append_right (Nat.le_refl _),
      Nat.sub_self, List.singleton_append, List.getElem?_cons_zero, Option.getD_some]
    exact boundOf_boundLine m.bound
  have hstatements : (m.init.map indented).reverse.reverse.map
      (List.drop (indented []).length) = m.init := by
    rw [List.reverse_reverse, List.map_map]
    exact (List.map_congr_left fun statement _ => drop_indented statement).trans (List.map_id _)
  unfold recover
  simp only [hrest, htake, hdrop, hsource, hbound, hstatements]
  cases m
  cases hgenerator
  rfl

end Model

theorem init_of_generate {d : Disassembler} {binary : Path} {p : Progress} {m : Model}
    (hgenerate : (generate d binary p).1 = .ok m) :
    m.generator = generatorName ∧ ∀ statement ∈ m.init,
      (∃ listing, statement ∈ (Listing.read listing).statements) ∨
        ∃ dump, statement ∈ Dump.statements dump := by
  obtain ⟨listing, -, hmade⟩ := generate_eq_ok_iff.mp hgenerate
  rcases hmade with ⟨-, rfl⟩ | ⟨-, dump, -, rfl⟩
  · refine ⟨rfl, fun statement hstatement => ?_⟩
    rcases List.mem_append.mp hstatement with hcode | hdata
    · exact Or.inl ⟨listing, hcode⟩
    · cases hdata
  · refine ⟨rfl, fun statement hstatement => ?_⟩
    rcases List.mem_append.mp hstatement with hcode | hdata
    · exact Or.inl ⟨listing, hcode⟩
    · exact Or.inr ⟨dump, hdata⟩

theorem single_of_generate {d : Disassembler} {binary : Path} {p : Progress} {m : Model}
    (hgenerate : (generate d binary p).1 = .ok m) :
    m.generator = generatorName ∧ ∀ statement ∈ m.init, '\n' ∉ statement := by
  obtain ⟨hgenerator, hinit⟩ := init_of_generate hgenerate
  refine ⟨hgenerator, fun statement hstatement => ?_⟩
  rcases hinit statement hstatement with ⟨listing, hcode⟩ | ⟨dump, hdata⟩
  · exact Listing.newline_not_mem_statements hcode
  · exact Dump.newline_not_mem_statements hdata

/-- The statements of a listing and of a dump are single lines.  The text of a model that is
made is cut at its newlines into the headline, the frame and the statements, and the model is
read back from it, so two models with one text have the same source, bound and statements. -/
theorem generate_recoverable :
    (∀ listing, ∀ line ∈ (Listing.read listing).statements, '\n' ∉ line) ∧
      (∀ dump, ∀ line ∈ Dump.statements dump, '\n' ∉ line) ∧
      (∀ d binary p m, (generate d binary p).1 = .ok m →
        cutAt '\n' m.render = cutAt '\n' m.headline ++ Model.opening ++
            m.init.map Model.indented ++ Model.closing m.bound ∧
          Model.recover m.render = m) ∧
      ∀ d d' binary binary' p p' m m', (generate d binary p).1 = .ok m →
        (generate d' binary' p').1 = .ok m' → m.render = m'.render →
          m.source = m'.source ∧ m.bound = m'.bound ∧ m.init = m'.init := by
  refine ⟨?_, ?_, ?_, ?_⟩
  · intro listing line hline
    exact Listing.newline_not_mem_statements hline
  · intro dump line hline
    exact Dump.newline_not_mem_statements hline
  · intro d binary p m hgenerate
    obtain ⟨hgenerator, hinit⟩ := single_of_generate hgenerate
    exact ⟨Model.cutAt_render hinit, Model.recover_render hgenerator hinit⟩
  · intro d d' binary binary' p p' m m' hgenerate hgenerate' hrender
    obtain ⟨hgenerator, hinit⟩ := single_of_generate hgenerate
    obtain ⟨hgenerator', hinit'⟩ := single_of_generate hgenerate'
    have hsame : m = m' := by
      rw [← Model.recover_render hgenerator hinit, hrender,
        Model.recover_render hgenerator' hinit']
    rw [hsame]
    exact ⟨rfl, rfl, rfl⟩

/-- A path that ends the headline and opens a frame of its own. -/
def forgedPath : Path :=
  .ofText "a BY riscv2ucl 0.1.0\nmodule main \x7b\n    init \x7b\n        // b".toList

/-- The forged path is read back whole, and its model is told from that of the plain path. -/
theorem generate_recoverable_forged :
    ∃ m m', (generate mimic forgedPath { store := .empty }).1 = .ok m ∧
      (generate mimic (.ofText "a".toList) { store := .empty }).1 = .ok m' ∧
      '\n' ∈ m.source ∧ Model.recover m.render = m ∧ m.render ≠ m'.render := by
  obtain ⟨-, -, hrecover, hinjective⟩ := generate_recoverable
  refine ⟨_, _, rfl, rfl, ?_, ?_, ?_⟩
  · decide +kernel
  · exact (hrecover mimic forgedPath { store := .empty } _ rfl).2
  · intro hrender
    have hsources := (hinjective mimic mimic forgedPath (.ofText "a".toList) { store := .empty }
      { store := .empty } _ _ rfl rfl hrender).1
    exact absurd hsources (by decide +kernel)

end Imprint
