import Imprint.Listing
import Imprint.Proofs.Text.Fields

/-!
# The grammar of instruction lines

An instruction line is an address of eight digits and a colon, blanks, an
encoding of eight digits, blanks, and a mnemonic on the same line.  Blanks before
the mnemonic can be counted to it or not, so a line can have several splits into
these parts, but all of them make the same instruction.
-/

namespace Imprint

/-!
## Comments
-/

/-- The text with `new` in the place of each character `old`. -/
def Text.replacing (old : Char) (new : Text) (t : Text) : Text :=
  t.flatMap fun c => if c = old then new else [c]

namespace Instruction

/-- The mnemonic trimmed, then with a space for each tab, then with a space behind each comma. -/
def commentFrom (rest : Text) : Text :=
  Text.replacing ',' [',', ' '] (Text.replacing '\t' [' '] rest.trim)

theorem commentOf_eq_commentFrom (rest : Text) : commentOf rest = commentFrom rest := by
  have hchar : ∀ c, commentChar c =
      (if c = '\t' then [' '] else [c]).flatMap fun d => if d = ',' then [',', ' '] else [d] := by
    intro c
    unfold commentChar
    by_cases htab : c = '\t'
    · rw [if_pos htab, if_pos htab]
      rfl
    · by_cases hcomma : c = ','
      · simp [hcomma]
      · simp [htab, hcomma]
  unfold commentOf commentFrom Text.replacing
  rw [List.flatMap_assoc]
  exact List.flatMap_congr fun c _ => hchar c

@[simp] theorem commentFrom_trimLeft (rest : Text) :
    commentFrom rest.trimLeft = commentFrom rest := by
  unfold commentFrom
  rw [Text.trim_trimLeft]

/-!
## Parts of a line
-/

/-- The parts of an instruction line. -/
structure Parts where
  address : Text
  gap : Text
  encoding : Text
  space : Text
  rest : Text
  isWord_address : address.IsWord
  isBlanks_gap : gap.IsBlanks
  isWord_encoding : encoding.IsWord
  isBlanks_space : space.IsBlanks
  single_rest : '\n' ∉ rest

namespace Parts

def line (parts : Parts) : Text :=
  parts.address ++ ':' :: (parts.gap ++ (parts.encoding ++ (parts.space ++ parts.rest)))

/-- The instruction that the parts make, where each of its numbers is checked. -/
def instruction? (parts : Parts) : Option Instruction := do
  let address ← parts.address.number?
  let bits ← parts.encoding.number?
  some { word := address >>> 2, bits, comment := commentFrom parts.rest }

def instruction (parts : Parts) : Instruction where
  word := BitVec.ofNat 32 parts.address.hexValue >>> 2
  bits := BitVec.ofNat 32 parts.encoding.hexValue
  comment := commentFrom parts.rest

@[simp] theorem instruction?_eq (parts : Parts) : parts.instruction? = some parts.instruction := by
  unfold instruction?
  rw [parts.isWord_address.number?_eq, parts.isWord_encoding.number?_eq]
  rfl

theorem toNat_word (parts : Parts) :
    parts.instruction.word.toNat = parts.address.hexValue / 4 :=
  toNat_wordIndex parts.isWord_address.hexValue_lt

theorem toNat_bits (parts : Parts) : parts.instruction.bits.toNat = parts.encoding.hexValue :=
  parts.isWord_encoding.toNat

theorem word_lt (parts : Parts) : parts.instruction.word.toNat < 0x40000000 := by
  have hlt := parts.isWord_address.hexValue_lt
  rw [toNat_word]
  omega

end Parts

/-!
## Reading lines
-/

@[simp] theorem read?_line (parts : Parts) : read? parts.line = some parts.instruction := by
  have haddress : parts.line.eightDigits? = some (parts.address,
      ':' :: (parts.gap ++ (parts.encoding ++ (parts.space ++ parts.rest)))) :=
    Text.eightDigits?_eq_some_iff.mpr ⟨parts.isWord_address, rfl⟩
  have hcolon (t : Text) : Text.after? [':'] (':' :: t) = some t := Text.after?_append [':'] t
  have hgap := parts.isBlanks_gap.skipBlanks?_append
    (parts.encoding ++ (parts.space ++ parts.rest))
  rw [parts.isWord_encoding.trimLeft_append] at hgap
  have hencoding : (parts.encoding ++ (parts.space ++ parts.rest)).eightDigits? =
      some (parts.encoding, parts.space ++ parts.rest) :=
    Text.eightDigits?_eq_some_iff.mpr ⟨parts.isWord_encoding, rfl⟩
  have hspace := parts.isBlanks_space.skipBlanks?_append parts.rest
  have hcontains : (Text.trimLeft parts.rest).contains '\n' = false := by
    rw [← Bool.not_eq_true, List.contains_iff_mem]
    exact Text.newline_not_mem_trimLeft parts.single_rest
  have hcomment : commentOf (Text.trimLeft parts.rest) = commentFrom parts.rest := by
    rw [commentOf_eq_commentFrom, commentFrom_trimLeft]
  simp only [read?, haddress, hcolon, hgap, hencoding, hspace, hcontains, Option.bind_eq_bind,
    Option.bind_some, Bool.false_eq_true, if_false, hcomment]
  rfl

theorem exists_parts_of_read? {line : Text} {i : Instruction} (hread : read? line = some i) :
    ∃ parts : Parts, parts.line = line := by
  simp only [read?, Option.bind_eq_bind, Option.bind_eq_some_iff] at hread
  obtain ⟨⟨address, behindAddress⟩, haddress, behindColon, hcolon, behindGap, hgap,
    ⟨encoding, behindEncoding⟩, hencoding, rest, hspace, hread⟩ := hread
  dsimp only at hcolon hencoding hspace hread
  obtain ⟨hisAddress, rfl⟩ := Text.eightDigits?_eq_some_iff.mp haddress
  obtain rfl := Text.eq_append_of_after? hcolon
  obtain ⟨gap, hisGap, rfl⟩ := Text.exists_of_skipBlanks? hgap
  obtain ⟨hisEncoding, rfl⟩ := Text.eightDigits?_eq_some_iff.mp hencoding
  obtain ⟨space, hisSpace, rfl⟩ := Text.exists_of_skipBlanks? hspace
  have hsingle : '\n' ∉ rest := by
    intro hmem
    rw [if_pos (List.contains_iff_mem.mpr hmem)] at hread
    cases hread
  exact ⟨⟨address, gap, encoding, space, rest, hisAddress, hisGap, hisEncoding, hisSpace,
    hsingle⟩, rfl⟩

theorem comment_of_read? {line : Text} {i : Instruction} (hread : read? line = some i) :
    ∃ rest, '\n' ∉ rest ∧ i.comment = commentOf rest := by
  obtain ⟨parts, rfl⟩ := exists_parts_of_read? hread
  rw [read?_line] at hread
  cases hread
  exact ⟨parts.rest, parts.single_rest, (commentOf_eq_commentFrom parts.rest).symm⟩

/-- A line is read as an instruction exactly when it is made up of the parts of one.  Whatever its
split into parts, its numbers fit into 32 bits, the word is the address divided by four, the
encoding is kept, and the comment is the mnemonic trimmed, with a space for each tab and behind
each comma. -/
theorem line_grammar :
    (∀ line, (∃ i, read? line = some i) ↔ ∃ parts : Parts, parts.line = line) ∧
      ∀ parts : Parts, ∃ i, read? parts.line = some i ∧ parts.instruction? = some i ∧
        i.word.toNat = parts.address.hexValue / 4 ∧ i.word.toNat < 0x40000000 ∧
          i.bits.toNat = parts.encoding.hexValue ∧
            i.comment =
              Text.replacing ',' [',', ' '] (Text.replacing '\t' [' '] parts.rest.trim) := by
  refine ⟨fun line => ⟨?_, ?_⟩, fun parts => ?_⟩
  · rintro ⟨i, hread⟩
    exact exists_parts_of_read? hread
  · rintro ⟨parts, rfl⟩
    exact ⟨_, read?_line parts⟩
  · exact ⟨parts.instruction, read?_line parts, parts.instruction?_eq, parts.toNat_word,
      parts.word_lt, parts.toNat_bits, rfl⟩

/-- A line with a newline behind its colon, where all blanks but the first are counted to the
mnemonic. -/
def shortSplit : Parts :=
  ⟨"00000006".toList, "\n".toList, "0000001F".toList, " ".toList, "\tadd\ta0,a1".toList,
    by decide, by decide, by decide, by decide, by decide⟩

/-- The same line, where no blank is counted to the mnemonic. -/
def longSplit : Parts :=
  ⟨"00000006".toList, "\n".toList, "0000001F".toList, " \t".toList, "add\ta0,a1".toList,
    by decide, by decide, by decide, by decide, by decide⟩

/-- Both splits of the line make one instruction; with a newline in the mnemonic there is no
split. -/
theorem line_grammar_splits :
    shortSplit.line = longSplit.line ∧ shortSplit.rest ≠ longSplit.rest ∧
      (∃ i, read? longSplit.line = some i ∧ i.word.toNat = 1 ∧ i.bits.toNat = 0x1F ∧
        i.comment = "add a0, a1".toList) ∧
      ¬ ∃ parts : Parts, parts.line = "00000006: 0000001F add\na0".toList := by
  obtain ⟨hsplit, hparts⟩ := line_grammar
  refine ⟨by decide, by decide, ?_, ?_⟩
  · obtain ⟨i, hread, -, hword, -, hbits, hcomment⟩ := hparts longSplit
    exact ⟨i, hread, hword.trans (by decide), hbits.trans (by decide),
      hcomment.trans (by decide)⟩
  · rw [← hsplit]
    rintro ⟨i, hread⟩
    have hnone : read? "00000006: 0000001F add\na0".toList = none := by
      decide
    rw [hnone] at hread
    cases hread

end Instruction

end Imprint
