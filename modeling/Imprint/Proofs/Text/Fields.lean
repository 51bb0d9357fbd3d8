import Mathlib
import Imprint.Proofs.Text.Lines
import Imprint.Proofs.Numeral

/-!
# Fields of lines

Lines are read field by field: eight digits at a time, with blanks between them.
A field at the front is taken whole whatever follows it, and what is taken is a
field.  Eight digits are a number of 32 bits, so a check at every digit that the
number does not run over never fails.
-/

namespace Imprint

namespace Text

/-!
## Values of digits
-/

theorem hexDigitValue_lt {c : Char} (hc : isHexDigit c = true) : hexDigitValue c < 16 := by
  have hle (d e : Char) : d ≤ e ↔ d.toNat ≤ e.toNat := Iff.rfl
  have hletters : 'a'.toNat = 97 ∧ 'A'.toNat = 65 ∧ '0'.toNat = 48 := by
    decide
  rw [isHexDigit_iff] at hc
  simp only [hexDigitValue, hle]
  split
  · omega
  · split <;> omega

@[simp] theorem hexValue_concat (front : Text) (c : Char) :
    hexValue (front ++ [c]) = 16 * hexValue front + hexDigitValue c := by
  simp [hexValue]

theorem hexValue_lt {digits : Text} (hdigits : digits.all isHexDigit = true) :
    hexValue digits < 16 ^ digits.length := by
  induction digits using List.reverseRecOn with
  | nil =>
      simp [hexValue]
  | append_singleton front c ih =>
      simp only [List.all_append, Bool.and_eq_true, List.all_cons, List.all_nil,
        Bool.and_true] at hdigits
      have hfront := ih hdigits.1
      have hc := hexDigitValue_lt hdigits.2
      rw [hexValue_concat, List.length_append, List.length_singleton, pow_succ]
      omega

theorem hexValue_eightDigits? {t digits rest : Text} (ht : t.eightDigits? = some (digits, rest)) :
    digits.hexValue = hexValue (t.take 8) ∧ hexValue (t.take 8) < 2 ^ 32 := by
  simp only [eightDigits?] at ht
  split at ht
  case isFalse =>
      cases ht
  case isTrue hdigits =>
      obtain ⟨rfl, -⟩ := Prod.mk.inj (Option.some.inj ht)
      have hlt := hexValue_lt hdigits.2
      rw [hdigits.1] at hlt
      exact ⟨rfl, by simpa using hlt⟩

/-!
## Eight digits
-/

/-- Eight hexadecimal digits and nothing else. -/
structure IsWord (t : Text) : Prop where
  length : t.length = 8
  digits : ∀ c ∈ t, isHexDigit c = true

instance (t : Text) : Decidable t.IsWord :=
  decidable_of_iff (t.length = 8 ∧ t.all isHexDigit = true)
    ⟨fun h => ⟨h.1, List.all_eq_true.mp h.2⟩, fun h => ⟨h.length, List.all_eq_true.mpr h.digits⟩⟩

theorem eightDigits?_eq_some_iff {t digits rest : Text} :
    t.eightDigits? = some (digits, rest) ↔ digits.IsWord ∧ t = digits ++ rest := by
  constructor
  · intro ht
    have hsplit := eq_append_of_eightDigits? ht
    unfold eightDigits? at ht
    dsimp only at ht
    split at ht
    · rename_i hword
      obtain ⟨rfl, -⟩ := Prod.mk.inj (Option.some.inj ht)
      exact ⟨⟨hword.1, List.all_eq_true.mp hword.2⟩, hsplit⟩
    · cases ht
  · rintro ⟨hword, rfl⟩
    exact eightDigits?_append hword.length (List.all_eq_true.mpr hword.digits) rest

theorem IsWord.hexValue_lt {t : Text} (hword : t.IsWord) : t.hexValue < 0x100000000 := by
  have hlt := Text.hexValue_lt (List.all_eq_true.mpr hword.digits)
  rw [hword.length] at hlt
  exact hlt

theorem IsWord.toNat {t : Text} (hword : t.IsWord) :
    (BitVec.ofNat 32 t.hexValue).toNat = t.hexValue := by
  rw [BitVec.toNat_ofNat]
  exact Nat.mod_eq_of_lt hword.hexValue_lt

theorem IsWord.exists_cons {t : Text} (hword : t.IsWord) :
    ∃ c others, t = c :: others ∧ isHexDigit c = true := by
  cases t with
  | nil =>
      have hlength := hword.length
      cases hlength
  | cons c others =>
      exact ⟨c, others, rfl, hword.digits c List.mem_cons_self⟩

/-!
## Numbers that are checked
-/

/-- Reads digits on from a value; it is refused as soon as a character is no digit or the value
leaves 32 bits. -/
def numberFrom? (value : Nat) : Text → Option (BitVec 32)
  | [] => some (BitVec.ofNat 32 value)
  | c :: rest =>
      if isHexDigit c ∧ 16 * value + hexDigitValue c < 0x100000000 then
        numberFrom? (16 * value + hexDigitValue c) rest
      else
        none

/-- The number of 32 bits that a text spells in hexadecimal digits, which a plus may precede. -/
def number? : Text → Option (BitVec 32)
  | [] => none
  | '+' :: c :: rest => numberFrom? 0 (c :: rest)
  | digits => numberFrom? 0 digits

example : number? "+ffffFFFF".toList = some 0xFFFFFFFF ∧ number? "100000000".toList = none := by
  decide

theorem numberFrom?_of_room {digits : Text} (hdigits : ∀ c ∈ digits, isHexDigit c = true)
    {value : Nat} (hroom : (value + 1) * 16 ^ digits.length ≤ 0x100000000) :
    numberFrom? value digits =
      some (BitVec.ofNat 32
        (digits.foldl (fun total c => 16 * total + hexDigitValue c) value)) := by
  induction digits generalizing value with
  | nil =>
      rfl
  | cons c rest ih =>
      have hc := hdigits c List.mem_cons_self
      have hvalue := hexDigitValue_lt hc
      have hrest : (16 * value + hexDigitValue c + 1) * 16 ^ rest.length ≤ 0x100000000 := by
        refine le_trans ?_ hroom
        calc (16 * value + hexDigitValue c + 1) * 16 ^ rest.length
            ≤ (16 * (value + 1)) * 16 ^ rest.length := Nat.mul_le_mul_right _ (by omega)
          _ = (value + 1) * 16 ^ (c :: rest).length := by
              rw [List.length_cons, pow_succ]
              ring
      have hlt : 16 * value + hexDigitValue c < 0x100000000 :=
        lt_of_lt_of_le (Nat.lt_succ_self _)
          (le_trans (Nat.le_mul_of_pos_right _ (by positivity)) hrest)
      rw [numberFrom?, if_pos ⟨hc, hlt⟩, List.foldl_cons]
      exact ih (fun d hd => hdigits d (List.mem_cons_of_mem c hd)) hrest

theorem IsWord.number?_eq {t : Text} (hword : t.IsWord) :
    t.number? = some (BitVec.ofNat 32 t.hexValue) := by
  obtain ⟨c, others, rfl, hc⟩ := hword.exists_cons
  have hplus : c ≠ '+' := by
    rintro rfl
    exact absurd hc (by decide)
  have hnumber : number? (c :: others) = numberFrom? 0 (c :: others) := by
    unfold number?
    split
    · rename_i heq
      cases heq
    · rename_i heq
      exact absurd (List.cons.inj heq).1 hplus
    · rfl
  rw [hnumber]
  exact numberFrom?_of_room hword.digits (by rw [hword.length]; decide)

/-!
## Blanks
-/

/-- One blank or more, and nothing else. -/
structure IsBlanks (t : Text) : Prop where
  ne_nil : t ≠ []
  blank : ∀ c ∈ t, isBlank c = true

instance (t : Text) : Decidable t.IsBlanks :=
  decidable_of_iff (t ≠ [] ∧ t.all isBlank = true)
    ⟨fun h => ⟨h.1, List.all_eq_true.mp h.2⟩, fun h => ⟨h.ne_nil, List.all_eq_true.mpr h.blank⟩⟩

theorem trimLeft_append {blanks : Text} (hblanks : ∀ c ∈ blanks, isBlank c = true) (t : Text) :
    trimLeft (blanks ++ t) = trimLeft t :=
  List.dropWhile_append_of_pos hblanks

theorem IsWord.trimLeft_append {word : Text} (hword : word.IsWord) (t : Text) :
    trimLeft (word ++ t) = word ++ t := by
  obtain ⟨c, others, rfl, hc⟩ := hword.exists_cons
  exact List.dropWhile_cons_of_neg (by simp [isBlank_of_isHexDigit hc])

theorem IsBlanks.skipBlanks?_append {blanks : Text} (hblanks : blanks.IsBlanks) (t : Text) :
    (blanks ++ t).skipBlanks? = some (trimLeft t) := by
  cases blanks with
  | nil =>
      exact absurd rfl hblanks.ne_nil
  | cons c others =>
      have hothers : ∀ d ∈ others, isBlank d = true := fun d hd =>
        hblanks.blank d (List.mem_cons_of_mem c hd)
      rw [List.cons_append, skipBlanks?, if_pos (hblanks.blank c List.mem_cons_self),
        trimLeft_append hothers]

theorem exists_of_skipBlanks? {t rest : Text} (ht : t.skipBlanks? = some rest) :
    ∃ blanks, blanks.IsBlanks ∧ t = blanks ++ rest := by
  cases t with
  | nil =>
      cases ht
  | cons c others =>
      rw [skipBlanks?] at ht
      split at ht
      · rename_i hc
        cases ht
        refine ⟨c :: others.takeWhile isBlank, ⟨List.cons_ne_nil _ _, ?_⟩, ?_⟩
        · intro d hd
          rcases List.mem_cons.mp hd with rfl | hd
          · exact hc
          · exact List.mem_takeWhile_imp hd
        · rw [List.cons_append, trimLeft, List.takeWhile_append_dropWhile]
      · cases ht

@[simp] theorem trim_trimLeft (t : Text) : t.trimLeft.trim = t.trim := by
  unfold trim trimLeft
  rw [List.dropWhile_idempotent]

theorem newline_not_mem_trimLeft {t : Text} (ht : '\n' ∉ t) : '\n' ∉ t.trimLeft :=
  fun hmem => ht ((List.dropWhile_sublist isBlank).subset hmem)

end Text

end Imprint
