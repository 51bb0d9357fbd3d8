import Imprint.Proofs.Records

/-!
# Statements as records

A statement shows all that it was made from: its index ends at a letter that no
numeral has, its value has a fixed length, and its comment is the rest.  How it
begins tells it from remarks and fills.  So the statements of a listing or of a
dump are the same only where the records of its lines are.
-/

namespace Imprint

/-!
## Literals
-/

/-- The literals of an index and a value with what stands between them, and the rest of a
statement. -/
def literals (index value : Nat) (rest : Text) : Text :=
  Radix.upperHex.numeral index ++
    ("bv30] == 0x".toList ++ (Radix.upperHex.padded 8 value ++ rest))

theorem numeral_append_inj {i j : Nat} {t u : Text}
    (h : Radix.upperHex.numeral i ++ 'b' :: t = Radix.upperHex.numeral j ++ 'b' :: u) :
    i = j ∧ t = u := by
  have hne : ∀ k < Radix.upperHex.base, decide (Radix.upperHex.digit k ≠ 'b') = true := by
    decide
  have hdigits := Radix.forall_mem_numeral Radix.upperHex (fun c => decide (c ≠ 'b')) hne
  have hstop : decide ('b' ≠ 'b') = false := by
    decide
  have hnumeral := congrArg (List.takeWhile fun c => decide (c ≠ 'b')) h
  have hrest := congrArg (List.dropWhile fun c => decide (c ≠ 'b')) h
  rw [Text.takeWhile_append_of_stop (hdigits i) hstop,
    Text.takeWhile_append_of_stop (hdigits j) hstop] at hnumeral
  rw [Text.dropWhile_append_of_stop (hdigits i) hstop,
    Text.dropWhile_append_of_stop (hdigits j) hstop] at hrest
  refine ⟨?_, (List.cons.inj hrest).2⟩
  rw [← Text.hexValue_numeral i, hnumeral, Text.hexValue_numeral]

theorem padded_append_inj {v w : Nat} {t u : Text}
    (h : Radix.upperHex.padded 8 v ++ t = Radix.upperHex.padded 8 w ++ u) :
    v % 0x100000000 = w % 0x100000000 ∧ t = u := by
  have hlength : (Radix.upperHex.padded 8 v).length = (Radix.upperHex.padded 8 w).length := by
    rw [Radix.length_padded, Radix.length_padded]
  obtain ⟨hdigits, hrest⟩ := List.append_inj h hlength
  have hvalue := congrArg Text.hexValue hdigits
  rw [Text.hexValue_padded, Text.hexValue_padded] at hvalue
  exact ⟨hvalue, hrest⟩

theorem literals_inj {i j v w : Nat} {t u : Text} (h : literals i v t = literals j w u) :
    i = j ∧ v % 0x100000000 = w % 0x100000000 ∧ t = u := by
  have hletter : "bv30] == 0x".toList = 'b' :: "v30] == 0x".toList := by
    simp
  unfold literals at h
  rw [hletter, List.cons_append, List.cons_append] at h
  obtain ⟨hindex, hbehind⟩ := numeral_append_inj h
  exact ⟨hindex, padded_append_inj (List.append_cancel_left hbehind)⟩

theorem literals_word_inj {i j v w : BitVec 32} {t u : Text}
    (h : literals i.toNat v.toNat t = literals j.toNat w.toNat u) : i = j ∧ v = w ∧ t = u := by
  obtain ⟨hindex, hvalue, hrest⟩ := literals_inj h
  rw [Nat.mod_eq_of_lt v.isLt, Nat.mod_eq_of_lt w.isLt] at hvalue
  exact ⟨BitVec.eq_of_toNat_eq hindex, BitVec.eq_of_toNat_eq hvalue, hrest⟩

/-!
## Records
-/

theorem Instruction.statement_eq_literals (i : Instruction) :
    i.statement = "assume (imem[0x".toList ++
      literals i.word.toNat i.bits.toNat ("bv32); // ".toList ++ i.comment) := by
  unfold statement literals
  simp only [List.append_assoc]

theorem DataWord.statement_eq_literals (w : DataWord) :
    w.statement = "assume (dmem[0x".toList ++
      literals w.word.toNat w.value.toNat "bv32);".toList := by
  unfold statement literals
  simp only [List.append_assoc]

theorem Instruction.statement_inj {i j : Instruction} : i.statement = j.statement ↔ i = j := by
  constructor
  · intro h
    rw [statement_eq_literals, statement_eq_literals] at h
    obtain ⟨hword, hbits, hbehind⟩ := literals_word_inj (List.append_cancel_left h)
    have hcomment := List.append_cancel_left hbehind
    cases i
    cases j
    cases hword
    cases hbits
    cases hcomment
    rfl
  · exact congrArg statement

theorem DataWord.statement_inj {w w' : DataWord} : w.statement = w'.statement ↔ w = w' := by
  constructor
  · intro h
    rw [statement_eq_literals, statement_eq_literals] at h
    obtain ⟨hword, hvalue, -⟩ := literals_word_inj (List.append_cancel_left h)
    cases w
    cases w'
    cases hword
    cases hvalue
    rfl
  · exact congrArg statement

theorem Instruction.statement_ne_remark (i : Instruction) (line : Text) :
    i.statement ≠ (ListingItem.remark line).statement := by
  intro h
  have hremark := remarkLead_statement line
  rw [← h] at hremark
  exact not_prefix_of_prefix hremark codeLead_ne_remarkLead (codeLead_statement i)

theorem Instruction.statement_ne_fill (i : Instruction) (count : Nat) :
    i.statement ≠ Listing.fill count := by
  have hapart : ¬ codeLead <+: Constraint.fillLead ∧ ¬ Constraint.fillLead <+: codeLead := by
    decide
  intro h
  have hfill := fillLead_fill count
  rw [← h] at hfill
  exact not_prefix_of_prefix hfill hapart (codeLead_statement i)

theorem ListingItem.statement_inj {item item' : ListingItem} :
    item.statement = item'.statement ↔ item = item' := by
  constructor
  · intro h
    cases item with
    | instruction i =>
        cases item' with
        | instruction j => rw [Instruction.statement_inj.mp h]
        | remark line => exact absurd h (i.statement_ne_remark line)
    | remark line =>
        cases item' with
        | instruction j => exact absurd h.symm (j.statement_ne_remark line)
        | remark line' =>
            have hlines : "// ".toList ++ line = "// ".toList ++ line' := h
            rw [List.append_cancel_left hlines]
  · exact congrArg statement

/-!
## Listings and dumps
-/

/-- The statements of two listings are the same just when their items are: the fill behind them
adds nothing that the items do not tell. -/
theorem Listing.statements_inj {l l' : Listing} :
    l.statements = l'.statements ↔ l.items = l'.items := by
  constructor
  · intro h
    have hitems := List.append_inj_left' h rfl
    exact (List.map_inj_right fun _ _ => ListingItem.statement_inj.mp).mp hitems
  · intro h
    rw [statements, statements, instructionCount, instructionCount, h]

theorem Dump.statements_inj {dump dump' : Text} :
    statements dump = statements dump' ↔ words dump = words dump' :=
  List.map_inj_right fun _ _ => DataWord.statement_inj.mp

/-- The statement of an instruction shows its word, its encoding and its comment, and that of a
data word its index and its value.  No instruction is stated like a remark or a fill.  So two
listings have the same statements just when their lines that are not blank have the same records,
and two dumps just when theirs have. -/
theorem statements_faithful :
    (∀ i j : Instruction, i.statement = j.statement ↔
        i.word = j.word ∧ i.bits = j.bits ∧ i.comment = j.comment) ∧
      (∀ w w' : DataWord, w.statement = w'.statement ↔ w.word = w'.word ∧ w.value = w'.value) ∧
      (∀ (i : Instruction) (line : Text), i.statement ≠ "// ".toList ++ line) ∧
      (∀ (i : Instruction) (count : Nat), i.statement ≠ Listing.fill count) ∧
      (∀ listing, ∃ items, Listing.Recorded (· ≠ []) listing items) ∧
      (∀ listing listing' items items', Listing.Recorded (· ≠ []) listing items →
        Listing.Recorded (· ≠ []) listing' items' →
          ((Listing.read listing).statements = (Listing.read listing').statements ↔
            items = items')) ∧
      (∀ dump, ∃ words, Dump.Recorded dump words) ∧
      ∀ dump dump' words words', Dump.Recorded dump words → Dump.Recorded dump' words' →
        (Dump.statements dump = Dump.statements dump' ↔ words = words') := by
  refine ⟨?_, ?_, fun i line => i.statement_ne_remark line, fun i => i.statement_ne_fill,
    ?_, ?_, ?_, ?_⟩
  · intro i j
    rw [Instruction.statement_inj]
    cases i
    cases j
    simp only [Instruction.mk.injEq]
  · intro w w'
    rw [DataWord.statement_inj]
    cases w
    cases w'
    simp only [DataWord.mk.injEq]
  · exact fun listing => ⟨_, (Listing.recorded_unblank_iff listing _).mpr rfl⟩
  · intro listing listing' items items' hitems hitems'
    rw [(Listing.recorded_unblank_iff listing items).mp hitems,
      (Listing.recorded_unblank_iff listing' items').mp hitems']
    exact Listing.statements_inj
  · exact fun dump => ⟨_, (Dump.recorded_iff dump _).mpr rfl⟩
  · intro dump dump' words words' hwords hwords'
    rw [(Dump.recorded_iff dump words).mp hwords, (Dump.recorded_iff dump' words').mp hwords']
    exact Dump.statements_inj

def underCode (lines : Text) : Text :=
  "Disassembly of section .text.init:\n".toList ++ lines

def underData (lines : Text) : Text :=
  "Contents of section .data:\n".toList ++ lines

/-- An instruction and a remark.  The same with other spaces, another address of the same word and
a blank line between them is stated alike, and with one remark more it is not.  What stands behind
a row is not stated. -/
theorem statements_faithful_respaced :
    (Listing.read (underCode "00000004: 00000073 ecall\nfoo".toList)).statements =
      (Listing.read (underCode " 00000007:\t00000073   ecall \n\n\tfoo\n".toList)).statements ∧
    (Listing.read (underCode "00000004: 00000073 ecall\nfoo".toList)).statements ≠
      (Listing.read (underCode "00000004: 00000073 ecall\nfoo\nbar".toList)).statements ∧
    Dump.statements (underData "00000000 00000001 00000002 00000003 00000004  ab".toList) =
      Dump.statements (underData "00000003 00000001 00000002 00000003 00000004".toList) := by
  obtain ⟨-, -, -, -, -, hlistings, -, hdumps⟩ := statements_faithful
  have hrecorded : ∀ lines ∈ ["00000004: 00000073 ecall\nfoo",
      " 00000007:\t00000073   ecall \n\n\tfoo\n"],
      Listing.Recorded (· ≠ []) (underCode lines.toList)
        [.instruction ⟨1, 0x73, "ecall".toList⟩, .remark "foo".toList] := by
    intro lines hlines
    rw [Listing.recorded_unblank_iff]
    revert lines
    decide +kernel
  have hlonger : Listing.Recorded (· ≠ []) (underCode "00000004: 00000073 ecall\nfoo\nbar".toList)
      [.instruction ⟨1, 0x73, "ecall".toList⟩, .remark "foo".toList, .remark "bar".toList] := by
    rw [Listing.recorded_unblank_iff]
    decide +kernel
  have hrow : ∀ line ∈ ["00000000 00000001 00000002 00000003 00000004  ab",
      "00000003 00000001 00000002 00000003 00000004"],
      Dump.Recorded (underData line.toList) [⟨0, 1⟩, ⟨1, 2⟩, ⟨2, 3⟩, ⟨3, 4⟩] := by
    intro line hline
    rw [Dump.recorded_iff]
    revert line
    decide +kernel
  refine ⟨?_, ?_, ?_⟩
  · exact (hlistings _ _ _ _ (hrecorded _ (by simp)) (hrecorded _ (by simp))).mpr rfl
  · intro hsame
    have hitems := (hlistings _ _ _ _ (hrecorded _ (by simp)) hlonger).mp hsame
    exact absurd (congrArg List.length hitems) (by decide)
  · exact (hdumps _ _ _ _ (hrow _ (by simp)) (hrow _ (by simp))).mpr rfl

/-- Were blank lines to have records, these two listings would state the same and have other
records. -/
theorem statements_faithful_blank :
    (Listing.read (underCode "\nfoo".toList)).statements =
        (Listing.read (underCode "foo".toList)).statements ∧
      Listing.Recorded (fun _ => True) (underCode "\nfoo".toList)
        [.remark [], .remark "foo".toList] ∧
      Listing.Recorded (fun _ => True) (underCode "foo".toList) [.remark "foo".toList] ∧
      [ListingItem.remark [], .remark "foo".toList] ≠ [.remark "foo".toList] := by
  rw [Listing.statements_inj, Listing.recorded_true_iff, Listing.recorded_true_iff]
  decide +kernel

end Imprint
