import Imprint.Text.Utf8
import Mathlib.Data.List.Basic

/-!
# Encoding and decoding

A byte of the ASCII range stands for itself wherever it stands: no ill-formed
piece runs over it, and what is before it is decoded on its own.  Bytes that
decode strictly are the encoding of their text, and the encoding of a text
decodes to it.
-/

namespace Imprint

namespace Utf8

/-!
## Pieces before an ASCII byte
-/

theorem isContinuation_of_ascii {b : UInt8} (hb : b < 0x80) : isContinuation b = false := by
  simp only [isContinuation, Bool.and_eq_false_iff, decide_eq_false_iff_not, UInt8.not_le]
  exact Or.inl hb

theorem lead?_cases {b : UInt8} {lead : Lead} (hlead : lead? b = some lead) :
    (lead.tail = 0 ∧ 0xC2 ≤ b.toNat ∧ b.toNat < 0xE0 ∧ lead.secondLow.toNat = 0x80 ∧
        lead.secondHigh.toNat = 0xBF) ∨
      (lead.tail = 1 ∧ 0xE0 ≤ b.toNat ∧ b.toNat < 0xF0 ∧ 0x80 ≤ lead.secondLow.toNat ∧
        lead.secondHigh.toNat ≤ 0xBF ∧ (b.toNat = 0xE0 → 0xA0 ≤ lead.secondLow.toNat) ∧
        (b.toNat = 0xED → lead.secondHigh.toNat ≤ 0x9F)) ∨
      (lead.tail = 2 ∧ 0xF0 ≤ b.toNat ∧ b.toNat < 0xF5 ∧ 0x80 ≤ lead.secondLow.toNat ∧
        lead.secondHigh.toNat ≤ 0xBF ∧ (b.toNat = 0xF0 → 0x90 ≤ lead.secondLow.toNat) ∧
        (b.toNat = 0xF4 → lead.secondHigh.toNat ≤ 0x8F)) := by
  unfold lead? at hlead
  simp only [UInt8.lt_iff_toNat_lt, ← UInt8.toNat_inj, UInt8.reduceToNat] at hlead
  split at hlead
  · cases hlead
  · split at hlead
    · cases hlead
      exact Or.inl ⟨rfl, by omega, by omega, rfl, rfl⟩
    · right
      split at hlead
      · cases hlead
        exact Or.inl ⟨rfl, by omega, by omega, by decide, by decide, fun _ => by decide,
          fun _ => by omega⟩
      · split at hlead
        · cases hlead
          exact Or.inl ⟨rfl, by omega, by omega, by decide, by decide, fun _ => by omega,
            fun _ => by decide⟩
        · split at hlead
          · cases hlead
            exact Or.inl ⟨rfl, by omega, by omega, by decide, by decide, fun _ => by omega,
              fun _ => by omega⟩
          · right
            split at hlead
            · cases hlead
              exact ⟨rfl, by omega, by omega, by decide, by decide, fun _ => by decide,
                fun _ => by omega⟩
            · split at hlead
              · cases hlead
                exact ⟨rfl, by omega, by omega, by decide, by decide, fun _ => by omega,
                  fun _ => by omega⟩
              · split at hlead
                · cases hlead
                  exact ⟨rfl, by omega, by omega, by decide, by decide, fun _ => by omega,
                    fun _ => by decide⟩
                · cases hlead

theorem secondLow_of_lead? {b : UInt8} {lead : Lead} (hlead : lead? b = some lead) :
    0x80 ≤ lead.secondLow.toNat := by
  rcases lead?_cases hlead with h | h | h <;> omega

theorem takeWhile_take_append_ascii {x : UInt8} (hx : x < 0x80) (bytes more : Bytes)
    (count : Nat) :
    ((bytes ++ x :: more).take count).takeWhile isContinuation =
      (bytes.take count).takeWhile isContinuation := by
  induction bytes generalizing count with
  | nil =>
      cases count with
      | zero => rfl
      | succ count =>
          rw [List.nil_append, List.take_succ_cons,
            List.takeWhile_cons_of_neg (by simp [isContinuation_of_ascii hx]), List.take_nil,
            List.takeWhile_nil]
  | cons b rest ih =>
      cases count with
      | zero => rfl
      | succ count =>
          rw [List.cons_append, List.take_succ_cons, List.take_succ_cons, List.takeWhile_cons,
            List.takeWhile_cons, ih]

theorem front_append_ascii {x : UInt8} (hx : x < 0x80) (b : UInt8) (rest more : Bytes) :
    front b (rest ++ x :: more) = front b rest := by
  unfold front
  by_cases hb : b < 0x80
  · rw [if_pos hb, if_pos hb]
  · rw [if_neg hb, if_neg hb]
    cases hlead : lead? b with
    | none => rfl
    | some lead =>
        cases rest with
        | nil =>
            have hlow := secondLow_of_lead? hlead
            have hrange : ¬ (lead.secondLow ≤ x ∧ x ≤ lead.secondHigh) := by
              have hx' : x.toNat < 0x80 := UInt8.lt_iff_toNat_lt.mp hx
              rw [UInt8.le_iff_toNat_le]
              omega
            simp only [List.nil_append, if_neg hrange]
        | cons second others =>
            simp only [List.cons_append, takeWhile_take_append_ascii hx]

theorem front_length_le (b : UInt8) (rest : Bytes) : (front b rest).2 ≤ rest.length := by
  unfold front
  split
  · exact Nat.zero_le _
  · split
    · rename_i lead second others hlead
      have htail := (List.takeWhile_sublist isContinuation
        (l := others.take lead.tail)).length_le
      rw [List.length_take] at htail
      rw [List.length_cons]
      split
      · dsimp only
        split
        · rename_i hlength
          dsimp only
          omega
        · dsimp only
          omega
      · exact Nat.zero_le _
    · exact Nat.zero_le _

theorem pieces_append_ascii {x : UInt8} (hx : x < 0x80) (bytes more : Bytes) :
    pieces (bytes ++ x :: more) = pieces bytes ++ pieces (x :: more) := by
  fun_induction pieces bytes with
  | case1 =>
      rw [List.nil_append, List.nil_append]
  | case2 b rest ih =>
      rw [List.cons_append, pieces, front_append_ascii hx,
        List.drop_append_of_le_length (front_length_le b rest), ih, List.cons_append]

theorem pieces_ascii {x : UInt8} (hx : x < 0x80) (more : Bytes) :
    pieces (x :: more) = .char (Char.ofNat x.toNat) :: pieces more := by
  have hfront : front x more = (.char (Char.ofNat x.toNat), 0) := by
    unfold front
    rw [if_pos hx]
  rw [pieces, hfront, List.drop_zero]

theorem decode_append_ascii {x : UInt8} (hx : x < 0x80) (bytes more : Bytes) :
    decode (bytes ++ x :: more) = decode bytes ++ Char.ofNat x.toNat :: decode more := by
  rw [decode, pieces_append_ascii hx, pieces_ascii hx, List.map_append, List.map_cons]
  rfl

/-!
## Encoding what was decoded
-/

theorem toNat_ofNat {n : Nat} (hn : n.isValidChar) : (Char.ofNat n).val.toNat = n := by
  rw [Char.ofNat, dif_pos hn]
  rfl

theorem ofNat_eq {n : Nat} (b : UInt8) (hn : n = b.toNat) : UInt8.ofNat n = b := by
  rw [hn, UInt8.ofNat_toNat]

theorem codePoint_two {b : UInt8} (second : UInt8) (hhigh : b.toNat < 0xE0) :
    codePoint b [second] = 64 * (b.toNat % 32) + second.toNat % 64 := by
  have hb : b < 0xE0 := UInt8.lt_iff_toNat_lt.mpr hhigh
  simp only [codePoint, leadPayload, if_pos hb, List.foldl_cons, List.foldl_nil]

theorem codePoint_three {b : UInt8} (second third : UInt8) (hlow : 0xE0 ≤ b.toNat)
    (hhigh : b.toNat < 0xF0) :
    codePoint b [second, third] =
      64 * (64 * (b.toNat % 16) + second.toNat % 64) + third.toNat % 64 := by
  have hb : ¬ b < 0xE0 := fun h => absurd (UInt8.lt_iff_toNat_lt.mp h) (Nat.not_lt.mpr hlow)
  have hb' : b < 0xF0 := UInt8.lt_iff_toNat_lt.mpr hhigh
  simp only [codePoint, leadPayload, if_neg hb, if_pos hb', List.foldl_cons, List.foldl_nil]

theorem codePoint_four {b : UInt8} (second third fourth : UInt8) (hlow : 0xF0 ≤ b.toNat) :
    codePoint b [second, third, fourth] =
      64 * (64 * (64 * (b.toNat % 8) + second.toNat % 64) + third.toNat % 64) +
        fourth.toNat % 64 := by
  have hb : ¬ b < 0xE0 := fun h => absurd (UInt8.lt_iff_toNat_lt.mp h)
    (Nat.not_lt.mpr (Nat.le_trans (by decide) hlow))
  have hb' : ¬ b < 0xF0 := fun h => absurd (UInt8.lt_iff_toNat_lt.mp h) (Nat.not_lt.mpr hlow)
  simp only [codePoint, leadPayload, if_neg hb, if_neg hb', List.foldl_cons, List.foldl_nil]

theorem encode_one {b : UInt8} (hb : b < 0x80) :
    String.utf8EncodeChar (Char.ofNat b.toNat) = [b] := by
  have hb' : b.toNat < 0x80 := UInt8.lt_iff_toNat_lt.mp hb
  have hvalue := toNat_ofNat (Or.inl (show b.toNat < 0xD800 by omega))
  unfold String.utf8EncodeChar
  simp only [hvalue]
  rw [if_pos (by omega), ofNat_eq b rfl]

theorem encode_two {b second : UInt8} (hlow : 0xC2 ≤ b.toNat) (hhigh : b.toNat < 0xE0)
    (hsecond : 0x80 ≤ second.toNat ∧ second.toNat ≤ 0xBF) :
    String.utf8EncodeChar (Char.ofNat (codePoint b [second])) = [b, second] := by
  have hcode := codePoint_two second hhigh
  have hvalue := toNat_ofNat (Or.inl (show codePoint b [second] < 0xD800 by omega))
  unfold String.utf8EncodeChar
  simp only [hvalue]
  rw [if_neg (by omega), if_pos (by omega), ofNat_eq b (by omega), ofNat_eq second (by omega)]

theorem encode_three {b second third : UInt8} (hlow : 0xE0 ≤ b.toNat) (hhigh : b.toNat < 0xF0)
    (hsecond : 0x80 ≤ second.toNat ∧ second.toNat ≤ 0xBF)
    (hthird : 0x80 ≤ third.toNat ∧ third.toNat ≤ 0xBF)
    (hlong : b.toNat = 0xE0 → 0xA0 ≤ second.toNat)
    (hsurrogate : b.toNat = 0xED → second.toNat ≤ 0x9F) :
    String.utf8EncodeChar (Char.ofNat (codePoint b [second, third])) = [b, second, third] := by
  have hcode := codePoint_three second third hlow hhigh
  have hvalid : (codePoint b [second, third]).isValidChar := by
    unfold Nat.isValidChar
    omega
  unfold String.utf8EncodeChar
  simp only [toNat_ofNat hvalid]
  rw [if_neg (by omega), if_neg (by omega), if_pos (by omega), ofNat_eq b (by omega),
    ofNat_eq second (by omega), ofNat_eq third (by omega)]

theorem encode_four {b second third fourth : UInt8} (hlow : 0xF0 ≤ b.toNat)
    (hhigh : b.toNat < 0xF5) (hsecond : 0x80 ≤ second.toNat ∧ second.toNat ≤ 0xBF)
    (hthird : 0x80 ≤ third.toNat ∧ third.toNat ≤ 0xBF)
    (hfourth : 0x80 ≤ fourth.toNat ∧ fourth.toNat ≤ 0xBF)
    (hlong : b.toNat = 0xF0 → 0x90 ≤ second.toNat)
    (hlast : b.toNat = 0xF4 → second.toNat ≤ 0x8F) :
    String.utf8EncodeChar (Char.ofNat (codePoint b [second, third, fourth])) =
      [b, second, third, fourth] := by
  have hcode := codePoint_four second third fourth hlow
  have hvalid : (codePoint b [second, third, fourth]).isValidChar := by
    unfold Nat.isValidChar
    omega
  unfold String.utf8EncodeChar
  simp only [toNat_ofNat hvalid]
  rw [if_neg (by omega), if_neg (by omega), if_neg (by omega), ofNat_eq b (by omega),
    ofNat_eq second (by omega), ofNat_eq third (by omega), ofNat_eq fourth (by omega)]

theorem encode_front {b : UInt8} {rest : Bytes} {c : Char} {count : Nat}
    (hfront : front b rest = (.char c, count)) :
    b :: rest.take count = String.utf8EncodeChar c := by
  unfold front at hfront
  split at hfront
  · rename_i hb
    cases hfront
    rw [encode_one hb, List.take_zero]
  · split at hfront
    · rename_i lead second others hlead
      split at hfront
      · rename_i hrange
        dsimp only at hfront
        split at hfront
        · rename_i hlength
          cases hfront
          have hlow := UInt8.le_iff_toNat_le.mp hrange.1
          have hhigh := UInt8.le_iff_toNat_le.mp hrange.2
          have htake : (others.take lead.tail).takeWhile isContinuation =
              others.take lead.tail := by
            refine (List.takeWhile_prefix isContinuation).eq_of_length_le ?_
            rw [hlength, List.length_take]
            exact Nat.min_le_left _ _
          rw [htake] at hlength ⊢
          have htail : ∀ third ∈ others.take lead.tail,
              0x80 ≤ third.toNat ∧ third.toNat ≤ 0xBF := by
            intro third hthird
            rw [← htake] at hthird
            have hall := List.all_takeWhile (p := isContinuation) (l := others.take lead.tail)
            have hcontinues := List.all_eq_true.mp hall third hthird
            simp only [isContinuation, Bool.and_eq_true, decide_eq_true_eq,
              UInt8.le_iff_toNat_le] at hcontinues
            exact hcontinues
          rw [Nat.add_comm, List.take_succ_cons]
          rcases lead?_cases hlead with ⟨htail0, h⟩ | ⟨htail1, h⟩ | ⟨htail2, h⟩
          · rw [htail0, List.take_zero]
            exact (encode_two (by omega) (by omega) (by omega)).symm
          · rw [htail1] at hlength htail ⊢
            obtain ⟨third, hthird⟩ := List.length_eq_one_iff.mp hlength
            rw [hthird] at htail ⊢
            exact (encode_three (by omega) (by omega) (by omega)
              (htail third List.mem_cons_self) (by omega) (by omega)).symm
          · rw [htail2] at hlength htail ⊢
            obtain ⟨third, fourth, htwo⟩ := List.length_eq_two.mp hlength
            rw [htwo] at htail ⊢
            exact (encode_four (by omega) (by omega) (by omega)
              (htail third List.mem_cons_self)
              (htail fourth (List.mem_cons_of_mem _ List.mem_cons_self))
              (by omega) (by omega)).symm
        · cases hfront
      · cases hfront
    · cases hfront

theorem encode_of_decode? {bytes : Bytes} {t : Text} (hdecode : decode? bytes = some t) :
    encode t = bytes := by
  unfold decode? at hdecode
  fun_induction pieces bytes generalizing t with
  | case1 =>
      cases hdecode
      rfl
  | case2 b rest ih =>
      rw [List.mapM_cons] at hdecode
      obtain ⟨c, hc, hrest⟩ := Option.bind_eq_some_iff.mp hdecode
      obtain ⟨others, hothers, ht⟩ := Option.bind_eq_some_iff.mp hrest
      cases ht
      cases hfront : front b rest with
      | mk piece count =>
          rw [hfront] at hc hothers ih
          cases piece with
          | illFormed => cases hc
          | char d =>
              cases hc
              have hencode := ih hothers
              unfold encode at hencode ⊢
              rw [List.flatMap_cons, hencode, ← encode_front hfront, List.cons_append,
                List.take_append_drop]

theorem decode_of_decode? {bytes : Bytes} {t : Text} (hdecode : decode? bytes = some t) :
    decode bytes = t := by
  unfold decode? at hdecode
  unfold decode
  generalize pieces bytes = pieces at hdecode
  induction pieces generalizing t with
  | nil =>
      cases hdecode
      rfl
  | cons piece rest ih =>
      rw [List.mapM_cons] at hdecode
      obtain ⟨c, hc, hrest⟩ := Option.bind_eq_some_iff.mp hdecode
      obtain ⟨others, hothers, ht⟩ := Option.bind_eq_some_iff.mp hrest
      cases ht
      rw [List.map_cons, ih hothers]
      cases piece with
      | char d =>
          cases hc
          rfl
      | illFormed => cases hc

/-!
## Decoding what was encoded
-/

theorem lead?_eq {b : UInt8} (hlow : 0xC2 ≤ b.toNat) (hhigh : b.toNat < 0xF5) :
    lead? b = some
      ⟨if b.toNat = 0xE0 then 0xA0 else if b.toNat = 0xF0 then 0x90 else 0x80,
        if b.toNat = 0xED then 0x9F else if b.toNat = 0xF4 then 0x8F else 0xBF,
        if b.toNat < 0xE0 then 0 else if b.toNat < 0xF0 then 1 else 2⟩ := by
  unfold lead?
  simp only [UInt8.lt_iff_toNat_lt, ← UInt8.toNat_inj, UInt8.reduceToNat]
  grind

/-- A first byte, a second one in its range and the continuation bytes that it promises are a
character, whatever stands behind them. -/
theorem front_of_lead? {b second : UInt8} {lead : Lead} (tail : Bytes)
    (hlow : 0xC2 ≤ b.toNat) (hlead : lead? b = some lead)
    (hsecond : lead.secondLow.toNat ≤ second.toNat ∧ second.toNat ≤ lead.secondHigh.toNat)
    (hlength : tail.length = lead.tail) (htail : tail.all isContinuation = true) (rest : Bytes) :
    front b (second :: (tail ++ rest)) =
      (.char (Char.ofNat (codePoint b (second :: tail))), 1 + lead.tail) := by
  have hb : ¬ b < 0x80 := by
    rw [UInt8.lt_iff_toNat_lt]
    exact Nat.not_lt.mpr (Nat.le_trans (by decide) hlow)
  have hrange : lead.secondLow ≤ second ∧ second ≤ lead.secondHigh :=
    ⟨UInt8.le_iff_toNat_le.mpr hsecond.1, UInt8.le_iff_toNat_le.mpr hsecond.2⟩
  have htaken : ((tail ++ rest).take lead.tail).takeWhile isContinuation = tail := by
    rw [← hlength, List.take_left]
    have hwhole : (tail ++ []).takeWhile isContinuation = tail ++ [].takeWhile isContinuation :=
      List.takeWhile_append_of_pos (List.all_eq_true.mp htail)
    rwa [List.append_nil, List.takeWhile_nil, List.append_nil] at hwhole
  unfold front
  rw [if_neg hb, hlead]
  simp only [if_pos hrange, htaken, hlength, if_true]

theorem toNat_byte {n : Nat} (hn : n < 256) : (UInt8.ofNat n).toNat = n :=
  UInt8.toNat_ofNat_of_lt hn

theorem isContinuation_ofNat {n : Nat} (hlow : 128 ≤ n) (hhigh : n ≤ 191) :
    isContinuation (UInt8.ofNat n) = true := by
  have hn := toNat_byte (show n < 256 by omega)
  simp only [isContinuation, Bool.and_eq_true, decide_eq_true_eq, UInt8.le_iff_toNat_le, hn,
    UInt8.reduceToNat]
  exact ⟨hlow, hhigh⟩

theorem front_two {b second : UInt8} (hlow : 0xC2 ≤ b.toNat) (hhigh : b.toNat < 0xE0)
    (hsecond : 0x80 ≤ second.toNat ∧ second.toNat ≤ 0xBF) (rest : Bytes) :
    front b (second :: rest) =
      (.char (Char.ofNat (64 * (b.toNat % 32) + second.toNat % 64)), 1) := by
  have hlead : lead? b = some ⟨0x80, 0xBF, 0⟩ := by
    rw [lead?_eq hlow (by omega), if_neg (by omega), if_neg (by omega), if_neg (by omega),
      if_neg (by omega), if_pos hhigh]
  rw [← codePoint_two second hhigh]
  exact front_of_lead? [] hlow hlead hsecond rfl rfl rest

theorem front_three {b second third : UInt8} (hlow : 0xE0 ≤ b.toNat) (hhigh : b.toNat < 0xF0)
    (hsecond : 0x80 ≤ second.toNat ∧ second.toNat ≤ 0xBF)
    (hthird : isContinuation third = true) (hlong : b.toNat = 0xE0 → 0xA0 ≤ second.toNat)
    (hsurrogate : b.toNat = 0xED → second.toNat ≤ 0x9F) (rest : Bytes) :
    front b (second :: third :: rest) =
      (.char (Char.ofNat (64 * (64 * (b.toNat % 16) + second.toNat % 64) + third.toNat % 64)),
        2) := by
  have hlead := lead?_eq (b := b) (by omega) (by omega)
  rw [if_neg (show ¬ b.toNat = 0xF0 by omega), if_neg (show ¬ b.toNat = 0xF4 by omega),
    if_neg (show ¬ b.toNat < 0xE0 by omega), if_pos hhigh] at hlead
  have hrange : (if b.toNat = 0xE0 then 0xA0 else 0x80 : UInt8).toNat ≤ second.toNat ∧
      second.toNat ≤ (if b.toNat = 0xED then 0x9F else 0xBF : UInt8).toNat := by
    split <;> split <;> simp only [UInt8.reduceToNat] <;> omega
  rw [← codePoint_three second third hlow hhigh]
  exact front_of_lead? [third] (by omega) hlead hrange rfl (by simp [hthird]) rest

theorem front_four {b second third fourth : UInt8} (hlow : 0xF0 ≤ b.toNat)
    (hhigh : b.toNat < 0xF5) (hsecond : 0x80 ≤ second.toNat ∧ second.toNat ≤ 0xBF)
    (hthird : isContinuation third = true) (hfourth : isContinuation fourth = true)
    (hlong : b.toNat = 0xF0 → 0x90 ≤ second.toNat)
    (hlast : b.toNat = 0xF4 → second.toNat ≤ 0x8F) (rest : Bytes) :
    front b (second :: third :: fourth :: rest) =
      (.char (Char.ofNat (64 * (64 * (64 * (b.toNat % 8) + second.toNat % 64) +
        third.toNat % 64) + fourth.toNat % 64)), 3) := by
  have hlead := lead?_eq (b := b) (by omega) (by omega)
  rw [if_neg (show ¬ b.toNat = 0xE0 by omega), if_neg (show ¬ b.toNat = 0xED by omega),
    if_neg (show ¬ b.toNat < 0xE0 by omega), if_neg (show ¬ b.toNat < 0xF0 by omega)] at hlead
  have hrange : (if b.toNat = 0xF0 then 0x90 else 0x80 : UInt8).toNat ≤ second.toNat ∧
      second.toNat ≤ (if b.toNat = 0xF4 then 0x8F else 0xBF : UInt8).toNat := by
    split <;> split <;> simp only [UInt8.reduceToNat] <;> omega
  rw [← codePoint_four second third fourth hlow]
  exact front_of_lead? [third, fourth] (by omega) hlead hrange rfl
    (by simp [hthird, hfourth]) rest

theorem front_encode (c : Char) :
    ∃ b others, String.utf8EncodeChar c = b :: others ∧
      ∀ rest, front b (others ++ rest) = (.char c, others.length) := by
  have hvalid : c.val.toNat < 0xD800 ∨ 0xDFFF < c.val.toNat ∧ c.val.toNat < 0x110000 := c.valid
  have hchar : Char.ofNat c.val.toNat = c := Char.ofNat_toNat c
  by_cases hone : c.val.toNat ≤ 127
  · refine ⟨UInt8.ofNat c.val.toNat, [], if_pos hone, fun rest => ?_⟩
    have hb : (UInt8.ofNat c.val.toNat).toNat = c.val.toNat := toNat_byte (by omega)
    have hlt : UInt8.ofNat c.val.toNat < 0x80 := by
      rw [UInt8.lt_iff_toNat_lt, hb]
      exact Nat.lt_succ_of_le hone
    unfold front
    rw [if_pos hlt, hb, hchar]
    rfl
  have hlast := toNat_byte (show c.val.toNat % 64 + 128 < 256 by omega)
  have hcontinues (n : Nat) : isContinuation (UInt8.ofNat (n % 64 + 128)) = true :=
    isContinuation_ofNat (by omega) (by omega)
  by_cases htwo : c.val.toNat ≤ 2047
  · have hb := toNat_byte (show c.val.toNat / 64 % 32 + 192 < 256 by omega)
    refine ⟨_, _, (if_neg hone).trans (if_pos htwo), fun rest => ?_⟩
    refine (front_two (by omega) (by omega) (by omega) rest).trans ?_
    rw [hb, hlast, show 64 * ((c.val.toNat / 64 % 32 + 192) % 32) + (c.val.toNat % 64 + 128) % 64 =
      c.val.toNat by omega, hchar]
    rfl
  have hmiddle := toNat_byte (show c.val.toNat / 64 % 64 + 128 < 256 by omega)
  by_cases hthree : c.val.toNat ≤ 65535
  · have hb := toNat_byte (show c.val.toNat / 4096 % 16 + 224 < 256 by omega)
    refine ⟨_, _, (if_neg hone).trans ((if_neg htwo).trans (if_pos hthree)), fun rest => ?_⟩
    refine (front_three (by omega) (by omega) (by omega) (hcontinues _) (by omega) (by omega)
      rest).trans ?_
    rw [hb, hmiddle, hlast, show 64 * (64 * ((c.val.toNat / 4096 % 16 + 224) % 16) +
      (c.val.toNat / 64 % 64 + 128) % 64) + (c.val.toNat % 64 + 128) % 64 = c.val.toNat by omega,
      hchar]
    rfl
  · have hb := toNat_byte (show c.val.toNat / 262144 % 8 + 240 < 256 by omega)
    have hsecond := toNat_byte (show c.val.toNat / 4096 % 64 + 128 < 256 by omega)
    refine ⟨_, _, (if_neg hone).trans ((if_neg htwo).trans (if_neg hthree)), fun rest => ?_⟩
    refine (front_four (by omega) (by omega) (by omega) (hcontinues _) (hcontinues _) (by omega)
      (by omega) rest).trans ?_
    rw [hb, hsecond, hmiddle, hlast, show 64 * (64 * (64 * ((c.val.toNat / 262144 % 8 + 240) % 8) +
      (c.val.toNat / 4096 % 64 + 128) % 64) + (c.val.toNat / 64 % 64 + 128) % 64) +
      (c.val.toNat % 64 + 128) % 64 = c.val.toNat by omega, hchar]
    rfl

@[simp] theorem pieces_encode (t : Text) : pieces (encode t) = t.map .char := by
  induction t with
  | nil =>
      rw [encode, List.flatMap_nil, pieces]
      rfl
  | cons c rest ih =>
      obtain ⟨b, others, hencode, hfront⟩ := front_encode c
      have hwhole : encode (c :: rest) = b :: (others ++ encode rest) := by
        rw [encode, List.flatMap_cons, hencode]
        rfl
      rw [hwhole, pieces, hfront, List.drop_left, ih]
      rfl

@[simp] theorem decode?_encode (t : Text) : decode? (encode t) = some t := by
  rw [decode?, pieces_encode]
  induction t with
  | nil =>
      rfl
  | cons c rest ih =>
      rw [List.map_cons, List.mapM_cons, ih]
      rfl

theorem encode_ne_nil {t : Text} (ht : t ≠ []) : encode t ≠ [] := by
  intro hnil
  have hdecode := decode?_encode t
  have hempty : decode? [] = some [] := decode?_encode []
  rw [hnil, hempty] at hdecode
  exact ht (Option.some.inj hdecode).symm

theorem zero_mem_encode {t : Text} (ht : 0 ∈ encode t) : Char.ofNat 0 ∈ t := by
  obtain ⟨front, rest, hbytes⟩ := List.append_of_mem ht
  have hpieces : t.map Piece.char =
      pieces front ++ .char (Char.ofNat 0) :: pieces rest := by
    rw [← pieces_encode, hbytes, pieces_append_ascii (by decide), pieces_ascii (by decide)]
    rfl
  have hmem : Piece.char (Char.ofNat 0) ∈ t.map Piece.char := by
    rw [hpieces]
    exact List.mem_append_right _ List.mem_cons_self
  obtain ⟨c, hc, heq⟩ := List.mem_map.mp hmem
  rw [← Piece.char.inj heq]
  exact hc

end Utf8

end Imprint
