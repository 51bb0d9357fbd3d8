import Imprint.Listing
import Imprint.Proofs.Numeral

/-!
# Constraints on the instruction memory

The instruction memory holds a word of 32 bits at each of its 30-bit indices.
A statement is read from its text as a constraint on that memory: it pins one
word, or it fills all words outside the program with a no-operation
instruction.  The statements of a listing read back as what they were made
from, and comments read as nothing.
-/

namespace Imprint

abbrev Memory := BitVec 30 → BitVec 32

/-- What a statement says about the instruction memory. -/
inductive Constraint where
  | pinned (index : BitVec 30) (value : BitVec 32)
  | filled (count : Nat)
deriving DecidableEq

namespace Constraint

/-- A memory meets a constraint, where the program starts at the word `start` and
`nop` encodes the no-operation instruction. -/
def Holds (start : BitVec 30) (nop : BitVec 32) (m : Memory) : Constraint → Prop
  | pinned index value => m index = value
  | filled count => ∀ a, a < start ∨ a ≥ start + BitVec.ofNat 30 count → m a = nop

def pinLead : Text :=
  "assume (imem[0x".toList

/-- How the statement begins that fills the words outside the program. -/
def fillLead : Text :=
  "assume (forall (a : mem_word_addr_t) :: (a < IMEM_PC_START || a >= IMEM_PC_START + ".toList

def pinnedOf? (t : Text) : Option Constraint := do
  let index := t.takeWhile (· ≠ 'b')
  let rest ← Text.after? "bv30] == 0x".toList (t.dropWhile (· ≠ 'b'))
  let (value, rest) ← rest.eightDigits?
  let _ ← Text.after? "bv32); // ".toList rest
  if index ≠ [] ∧ index.all Text.isHexDigit then
    some (pinned (BitVec.ofNat 30 (Text.hexValue index)) (BitVec.ofNat 32 value.hexValue))
  else
    none

/-- Reads the count of words of the program and what closes the fill. -/
def filledOf? (t : Text) : Option Constraint := do
  let count ← Text.natural? (t.takeWhile Char.isDigit)
  let rest ← Text.after? "bv30) ==> imem[a] == instructions.NOP);".toList
    (t.dropWhile Char.isDigit)
  if rest = [] then some (filled count) else none

def ofStatement? (t : Text) : Option Constraint :=
  match Text.after? pinLead t with
  | some rest => pinnedOf? rest
  | none =>
      match Text.after? fillLead t with
      | some rest => filledOf? rest
      | none => none

end Constraint

namespace Memory

/-- A memory meets every constraint that some of the lines states. -/
def Models (start : BitVec 30) (nop : BitVec 32) (m : Memory) (lines : List Text) : Prop :=
  ∀ line ∈ lines, ∀ c, Constraint.ofStatement? line = some c → c.Holds start nop m

end Memory

/-!
## Reading statements back
-/

namespace Text

theorem after?_eq_none_of_ne {c d : Char} (hne : c ≠ d) (shared lead t : Text) :
    after? (shared ++ c :: lead) (shared ++ d :: t) = none := by
  induction shared with
  | nil =>
      simp [after?, hne]
  | cons e shared ih =>
      simpa [after?] using ih

@[simp] theorem after?_self (t : Text) : after? t t = some [] := by
  simpa using after?_append t []

theorem takeWhile_append_of_stop {p : Char → Bool} {front : Text} {c : Char}
    (hfront : ∀ d ∈ front, p d = true) (hc : p c = false) (rest : Text) :
    (front ++ c :: rest).takeWhile p = front := by
  rw [List.takeWhile_append_of_pos hfront, List.takeWhile_cons_of_neg (by simp [hc]),
    List.append_nil]

theorem dropWhile_append_of_stop {p : Char → Bool} {front : Text} {c : Char}
    (hfront : ∀ d ∈ front, p d = true) (hc : p c = false) (rest : Text) :
    (front ++ c :: rest).dropWhile p = c :: rest := by
  rw [List.dropWhile_append_of_pos hfront, List.dropWhile_cons_of_neg (by simp [hc])]

end Text

namespace Instruction

/-- The index of an instruction's word in the instruction memory. -/
def index (i : Instruction) : BitVec 30 :=
  i.word.setWidth 30

end Instruction

namespace Constraint

theorem pinnedOf?_numeral (word : Nat) (bits : BitVec 32) (comment : Text) :
    pinnedOf? (Radix.upperHex.numeral word ++ "bv30] == 0x".toList ++
        (Radix.upperHex.padded 8 bits.toNat ++ ("bv32); // ".toList ++ comment))) =
      some (pinned (BitVec.ofNat 30 word) bits) := by
  have hne : ∀ k < Radix.upperHex.base, decide (Radix.upperHex.digit k ≠ 'b') = true := by
    decide
  have hnumeral := Radix.forall_mem_numeral Radix.upperHex (fun c => decide (c ≠ 'b')) hne word
  have hhex := Radix.forall_mem_numeral Radix.upperHex Text.isHexDigit Text.isHexDigit_upperHex word
  have hstop : decide ('b' ≠ 'b') = false := by
    decide
  have hvalue : BitVec.ofNat 32 (Radix.upperHex.padded 8 bits.toNat).hexValue = bits := by
    rw [Text.hexValue_padded]
    exact BitVec.eq_of_toNat_eq (by simp; omega)
  have hhead : "bv30] == 0x".toList = 'b' :: "v30] == 0x".toList := by
    simp
  have happend :
      Radix.upperHex.numeral word ++ "bv30] == 0x".toList ++
          (Radix.upperHex.padded 8 bits.toNat ++ ("bv32); // ".toList ++ comment)) =
        Radix.upperHex.numeral word ++ 'b' :: ("v30] == 0x".toList ++
          (Radix.upperHex.padded 8 bits.toNat ++ ("bv32); // ".toList ++ comment))) := by
    rw [hhead, List.append_assoc, List.cons_append]
  unfold pinnedOf?
  rw [happend, Text.takeWhile_append_of_stop hnumeral hstop,
    Text.dropWhile_append_of_stop hnumeral hstop, ← List.cons_append, ← hhead,
    Text.after?_append]
  simp only [Option.bind_eq_bind, Option.bind_some,
    Text.eightDigits?_append (Radix.length_padded _ 8 _) (Text.all_isHexDigit_padded 8 _),
    Text.after?_append, Text.hexValue_numeral, hvalue]
  rw [if_pos ⟨Radix.numeral_ne_nil _ word, List.all_eq_true.mpr hhex⟩]

theorem filledOf?_numeral (count : Nat) :
    filledOf? (Radix.decimal.numeral count ++
        "bv30) ==> imem[a] == instructions.NOP);".toList) =
      some (filled count) := by
  have hdigits := Radix.forall_mem_numeral Radix.decimal Char.isDigit Text.isDigit_decimal count
  have hstop : Char.isDigit 'b' = false := by
    decide
  have hhead : "bv30) ==> imem[a] == instructions.NOP);".toList =
      'b' :: "v30) ==> imem[a] == instructions.NOP);".toList := by
    simp
  have hnatural : Text.natural? (Radix.decimal.numeral count) = some count := by
    unfold Text.natural?
    rw [if_pos ⟨Radix.numeral_ne_nil _ count, List.all_eq_true.mpr hdigits⟩,
      Text.decimalValue_numeral]
  unfold filledOf?
  rw [hhead, Text.takeWhile_append_of_stop hdigits hstop,
    Text.dropWhile_append_of_stop hdigits hstop, hnatural, ← hhead]
  simp only [Option.bind_eq_bind, Option.bind_some, Text.after?_self, if_true]

@[simp] theorem ofStatement?_instruction (i : Instruction) :
    ofStatement? i.statement = some (pinned i.index i.bits) := by
  have hindex : BitVec.ofNat 30 i.word.toNat = i.index :=
    BitVec.eq_of_toNat_eq (by simp [Instruction.index])
  have hstatement : i.statement =
      pinLead ++ (Radix.upperHex.numeral i.word.toNat ++ "bv30] == 0x".toList ++
        (Radix.upperHex.padded 8 i.bits.toNat ++ ("bv32); // ".toList ++ i.comment))) := by
    unfold Instruction.statement pinLead
    simp only [List.append_assoc]
  unfold ofStatement?
  rw [hstatement, Text.after?_append]
  simp only [pinnedOf?_numeral, hindex]

@[simp] theorem ofStatement?_fill (count : Nat) :
    ofStatement? (Listing.fill count) = some (filled count) := by
  have hfill : Listing.fill count = fillLead ++ (Radix.decimal.numeral count ++
      "bv30) ==> imem[a] == instructions.NOP);".toList) := by
    unfold Listing.fill fillLead
    simp only [List.append_assoc]
  have hpinned (t : Text) : Text.after? pinLead (fillLead ++ t) = none := by
    have hpin : pinLead = "assume (".toList ++ 'i' :: "mem[0x".toList := by
      unfold pinLead
      simp
    have hlead : fillLead = "assume (".toList ++ 'f' :: ("orall (a : mem_word_addr_t) :: " ++
        "(a < IMEM_PC_START || a >= IMEM_PC_START + ").toList := by
      unfold fillLead
      simp
    rw [hpin, hlead, List.append_assoc, List.cons_append]
    exact Text.after?_eq_none_of_ne (by decide) _ _ _
  unfold ofStatement?
  rw [hfill, hpinned, Text.after?_append]
  exact filledOf?_numeral count

@[simp] theorem ofStatement?_remark (line : Text) :
    ofStatement? (ListingItem.remark line).statement = none := by
  have hremark : (ListingItem.remark line).statement = [] ++ '/' :: ("/ ".toList ++ line) := by
    unfold ListingItem.statement
    simp
  have hpin : pinLead = [] ++ 'a' :: "ssume (imem[0x".toList := by
    unfold pinLead
    simp
  have hlead : fillLead = [] ++ 'a' :: ("ssume (forall (a : mem_word_addr_t) :: " ++
      "(a < IMEM_PC_START || a >= IMEM_PC_START + ").toList := by
    unfold fillLead
    simp
  unfold ofStatement?
  rw [hremark, hpin, Text.after?_eq_none_of_ne (by decide)]
  simp only
  rw [hlead, Text.after?_eq_none_of_ne (by decide)]

end Constraint

end Imprint
