import Imprint.Numeral

/-!
# Reading numerals back

A numeral is read by folding over its digits.  Unpadded numerals give back
their number, and padded ones its rest below the power of the base that their
count of digits spans.
-/

namespace Imprint

namespace Radix

/-!
## Digits
-/

theorem forall_mem_numeral (r : Radix) (p : Char → Bool)
    (hdigit : ∀ k < r.base, p (r.digit k) = true) (n : Nat) :
    ∀ c ∈ r.numeral n, p c = true := by
  induction n using Radix.numeral.induct r with
  | case1 n hlt =>
      intro c hc
      rw [numeral, dif_pos hlt] at hc
      rw [List.mem_singleton.mp hc]
      exact hdigit n hlt
  | case2 n hge ih =>
      intro c hc
      rw [numeral, dif_neg hge] at hc
      rcases List.mem_append.mp hc with hfront | hlast
      · exact ih c hfront
      · rw [List.mem_singleton.mp hlast]
        exact hdigit _ (Nat.mod_lt _ (by have := r.two_le_base; omega))

theorem forall_mem_padded (r : Radix) (p : Char → Bool)
    (hdigit : ∀ k < r.base, p (r.digit k) = true) (count n : Nat) :
    ∀ c ∈ r.padded count n, p c = true := by
  induction count generalizing n with
  | zero =>
      intro c hc
      cases hc
  | succ count ih =>
      intro c hc
      rcases List.mem_append.mp hc with hfront | hlast
      · exact ih _ c hfront
      · rw [List.mem_singleton.mp hlast]
        exact hdigit _ (Nat.mod_lt _ (by have := r.two_le_base; omega))

theorem numeral_ne_nil (r : Radix) (n : Nat) : r.numeral n ≠ [] := by
  unfold numeral
  split <;> simp

/-!
## Values
-/

theorem foldl_numeral (r : Radix) (value : Char → Nat)
    (hvalue : ∀ k < r.base, value (r.digit k) = k) (n : Nat) :
    (r.numeral n).foldl (fun total c => r.base * total + value c) 0 = n := by
  induction n using Radix.numeral.induct r with
  | case1 n hlt =>
      rw [numeral, dif_pos hlt]
      simp [hvalue n hlt]
  | case2 n hge ih =>
      have hmod : n % r.base < r.base :=
        Nat.mod_lt _ (by have := r.two_le_base; omega)
      rw [numeral, dif_neg hge, List.foldl_append, ih]
      simp only [List.foldl_cons, List.foldl_nil, hvalue _ hmod]
      exact Nat.div_add_mod n r.base

theorem foldl_padded (r : Radix) (value : Char → Nat)
    (hvalue : ∀ k < r.base, value (r.digit k) = k) (count n : Nat) :
    (r.padded count n).foldl (fun total c => r.base * total + value c) 0 =
      n % Nat.pow r.base count := by
  induction count generalizing n with
  | zero =>
      simp [padded, Nat.mod_one]
  | succ count ih =>
      have hmod : n % r.base < r.base :=
        Nat.mod_lt _ (by have := r.two_le_base; omega)
      rw [padded, List.foldl_append, ih]
      simp only [List.foldl_cons, List.foldl_nil, hvalue _ hmod]
      have hpow : Nat.pow r.base (count + 1) = r.base * Nat.pow r.base count := by
        rw [Nat.pow_eq, Nat.pow_eq, Nat.pow_succ, Nat.mul_comm]
      rw [hpow, Nat.mod_mul, Nat.add_comm]

end Radix

namespace Text

/-!
## Hexadecimal and decimal
-/

theorem isHexDigit_upperHex :
    ∀ k < Radix.upperHex.base, isHexDigit (Radix.upperHex.digit k) = true := by
  decide

theorem hexDigitValue_upperHex :
    ∀ k < Radix.upperHex.base, hexDigitValue (Radix.upperHex.digit k) = k := by
  decide

@[simp] theorem hexValue_numeral (n : Nat) : hexValue (Radix.upperHex.numeral n) = n :=
  Radix.foldl_numeral Radix.upperHex hexDigitValue hexDigitValue_upperHex n

@[simp] theorem hexValue_padded (count n : Nat) :
    hexValue (Radix.upperHex.padded count n) = n % Nat.pow 16 count :=
  Radix.foldl_padded Radix.upperHex hexDigitValue hexDigitValue_upperHex count n

@[simp] theorem all_isHexDigit_padded (count n : Nat) :
    (Radix.upperHex.padded count n).all isHexDigit = true :=
  List.all_eq_true.mpr
    (Radix.forall_mem_padded Radix.upperHex isHexDigit isHexDigit_upperHex count n)

theorem isHexDigit_lowerHex :
    ∀ k < Radix.lowerHex.base, isHexDigit (Radix.lowerHex.digit k) = true := by
  decide

theorem hexDigitValue_lowerHex :
    ∀ k < Radix.lowerHex.base, hexDigitValue (Radix.lowerHex.digit k) = k := by
  decide

@[simp] theorem hexValue_lowerPadded (count n : Nat) :
    hexValue (Radix.lowerHex.padded count n) = n % Nat.pow 16 count :=
  Radix.foldl_padded Radix.lowerHex hexDigitValue hexDigitValue_lowerHex count n

@[simp] theorem all_isHexDigit_lowerPadded (count n : Nat) :
    (Radix.lowerHex.padded count n).all isHexDigit = true :=
  List.all_eq_true.mpr
    (Radix.forall_mem_padded Radix.lowerHex isHexDigit isHexDigit_lowerHex count n)

@[simp] theorem decimalValue_numeral (n : Nat) : decimalValue (Radix.decimal.numeral n) = n := by
  have hvalue : ∀ k < Radix.decimal.base, (Radix.decimal.digit k).toNat - '0'.toNat = k := by
    decide
  exact Radix.foldl_numeral Radix.decimal (fun c => c.toNat - '0'.toNat) hvalue n

theorem isDigit_decimal :
    ∀ k < Radix.decimal.base, (Radix.decimal.digit k).isDigit = true := by
  decide

theorem isHexDigit_iff {c : Char} : isHexDigit c = true ↔
    (48 ≤ c.toNat ∧ c.toNat ≤ 57 ∨ 97 ≤ c.toNat ∧ c.toNat ≤ 102) ∨
      65 ≤ c.toNat ∧ c.toNat ≤ 70 := by
  have hle (d e : Char) : d ≤ e ↔ d.toNat ≤ e.toNat := Iff.rfl
  simp only [isHexDigit, Bool.or_eq_true, Bool.and_eq_true, decide_eq_true_eq, hle]
  rfl

theorem isBlank_of_isHexDigit {c : Char} (hc : isHexDigit c = true) : isBlank c = false := by
  rw [isHexDigit_iff] at hc
  simp only [isBlank, blankRanges, List.any_cons, List.any_nil, Bool.or_false, Bool.or_eq_false_iff,
    Bool.and_eq_false_iff, decide_eq_false_iff_not]
  omega

theorem eightDigits?_append {digits : Text} (hlength : digits.length = 8)
    (hdigits : digits.all isHexDigit = true) (rest : Text) :
    (digits ++ rest).eightDigits? = some (digits, rest) := by
  have htake : (digits ++ rest).take 8 = digits := by
    rw [← hlength, List.take_left]
  have hdrop : (digits ++ rest).drop 8 = rest := by
    rw [← hlength, List.drop_left]
  simp only [eightDigits?, htake, hdrop]
  rw [if_pos ⟨hlength, hdigits⟩]

theorem eightDigits?_extend {t digits rest : Text} (ht : t.eightDigits? = some (digits, rest))
    (more : Text) : (t ++ more).eightDigits? = some (digits, rest ++ more) := by
  have hsplit := eq_append_of_eightDigits? ht
  unfold eightDigits? at ht
  dsimp only at ht
  split at ht
  · rename_i hdigits
    obtain ⟨rfl, -⟩ := Prod.mk.inj (Option.some.inj ht)
    have hwhole := eightDigits?_append hdigits.1 hdigits.2 (rest ++ more)
    rwa [← List.append_assoc, ← hsplit] at hwhole
  · cases ht

end Text

/-!
## Indices of words
-/

theorem toNat_wordIndex {address : Nat} (haddress : address < 0x100000000) :
    (BitVec.ofNat 32 address >>> 2).toNat = address / 4 := by
  rw [BitVec.toNat_ushiftRight, BitVec.toNat_ofNat, Nat.mod_eq_of_lt haddress,
    Nat.shiftRight_eq_div_pow]

theorem toNat_add_index {start : BitVec 32} {place : Nat}
    (hfits : start.toNat + place < 0x100000000) :
    (start + BitVec.ofNat 32 place).toNat = start.toNat + place := by
  rw [BitVec.toNat_add, BitVec.toNat_ofNat]
  omega

end Imprint
