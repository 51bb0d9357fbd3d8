import Imprint.Proofs.Path
import Imprint.Proofs.Text.Utf8

/-!
# Shown bytes

What is shown of a byte string is its lenient reading.  It has the same ASCII
characters at the same places, and written down again it is nowhere shorter, so
a path that is shown keeps its pieces, each shown for itself.
-/

namespace Imprint

namespace Utf8

def shown (bytes : Bytes) : Bytes :=
  encode (decode bytes)

def Piece.shown : Piece → Bytes
  | .char c => String.utf8EncodeChar c
  | .illFormed => [0xEF, 0xBF, 0xBD]

theorem shown_eq (bytes : Bytes) : shown bytes = (pieces bytes).flatMap Piece.shown := by
  unfold shown encode decode
  rw [List.flatMap_map]
  refine List.flatMap_congr fun piece _ => ?_
  cases piece with
  | char c => rfl
  | illFormed => decide

theorem shown_append_ascii {x : UInt8} (hx : x < 0x80) (bytes more : Bytes) :
    shown (bytes ++ x :: more) = shown bytes ++ x :: shown more := by
  rw [shown_eq, pieces_append_ascii hx, pieces_ascii hx, List.flatMap_append, List.flatMap_cons,
    ← shown_eq, ← shown_eq, Piece.shown, encode_one hx]
  rfl

theorem front_illFormed {b : UInt8} {rest : Bytes} {count : Nat}
    (hfront : front b rest = (.illFormed, count)) : count ≤ 2 := by
  unfold front at hfront
  split at hfront
  · cases hfront
  · split at hfront
    · rename_i lead second others hlead
      have htail := (List.takeWhile_sublist isContinuation (l := others.take lead.tail)).length_le
      rw [List.length_take] at htail
      split at hfront
      · dsimp only at hfront
        split at hfront
        · cases hfront
        · rename_i hlength
          cases hfront
          rcases lead?_cases hlead with h | h | h <;> omega
      · cases hfront
        exact Nat.zero_le 2
    · cases hfront
      exact Nat.zero_le 2

theorem length_le_length_shown (bytes : Bytes) : bytes.length ≤ (shown bytes).length := by
  rw [shown_eq]
  fun_induction pieces bytes with
  | case1 => exact Nat.zero_le _
  | case2 b rest ih =>
      have htake : rest.length ≤ (front b rest).2 + (rest.drop (front b rest).2).length := by
        rw [List.length_drop]
        omega
      have hpiece : (front b rest).2 + 1 ≤ (front b rest).1.shown.length := by
        cases hfront : front b rest with
        | mk piece count =>
            cases piece with
            | char c =>
                have hlength := front_length_le b rest
                rw [hfront] at hlength
                have hshown : (Piece.char c).shown.length = count + 1 := by
                  rw [Piece.shown, ← encode_front hfront, List.length_cons, List.length_take,
                    Nat.min_eq_left hlength]
                exact Nat.le_of_eq hshown.symm
            | illFormed =>
                exact Nat.succ_le_succ (front_illFormed hfront)
      rw [List.flatMap_cons, List.length_append, List.length_cons]
      omega

theorem mem_of_mem_shown {x : UInt8} (hx : x < 0x80) {bytes : Bytes} (hmem : x ∈ shown bytes) :
    x ∈ bytes := by
  rw [shown_eq] at hmem
  fun_induction pieces bytes with
  | case1 => exact hmem
  | case2 b rest ih =>
      rw [List.flatMap_cons, List.mem_append] at hmem
      rcases hmem with hpiece | hrest
      · cases hfront : front b rest with
        | mk piece count =>
            rw [hfront] at hpiece
            cases piece with
            | char c =>
                rw [Piece.shown, ← encode_front hfront] at hpiece
                exact (List.cons_sublist_cons.mpr (List.take_sublist count rest)).subset hpiece
            | illFormed =>
                simp only [Piece.shown, List.mem_cons, List.not_mem_nil, or_false] at hpiece
                rcases hpiece with rfl | rfl | rfl <;> exact absurd hx (by decide)
      · exact List.mem_cons_of_mem b (List.mem_of_mem_drop (ih hrest))

theorem mem_of_mem_decode {x : UInt8} (hx : x < 0x80) {bytes : Bytes}
    (hmem : Char.ofNat x.toNat ∈ decode bytes) : x ∈ bytes := by
  refine mem_of_mem_shown hx (List.mem_flatMap.mpr ⟨_, hmem, ?_⟩)
  rw [encode_one hx]
  exact List.mem_singleton_self x

theorem cutAt_decode {x : UInt8} (hx : x < 0x80) (bytes : Bytes) :
    cutAt (Char.ofNat x.toNat) (decode bytes) = (cutAt x bytes).map decode :=
  cutAt_map (decode_append_ascii hx) (fun _ hnone hmem => hnone (mem_of_mem_decode hx hmem)) bytes

/-!
## What is shown as it is
-/

theorem illFormed_not_mem_pieces {bytes : Bytes} (hmark : 0xEF ∉ shown bytes) :
    .illFormed ∉ pieces bytes := by
  intro hmem
  rw [shown_eq] at hmark
  exact hmark (List.mem_flatMap.mpr ⟨_, hmem, List.mem_cons_self⟩)

theorem isSome_decode?_of_pieces {bytes : Bytes} (hpieces : .illFormed ∉ pieces bytes) :
    (decode? bytes).isSome = true := by
  unfold decode?
  generalize pieces bytes = pieces at hpieces
  induction pieces with
  | nil =>
      rfl
  | cons piece rest ih =>
      obtain ⟨t, hrest⟩ := Option.isSome_iff_exists.mp
        (ih fun hmem => hpieces (List.mem_cons_of_mem piece hmem))
      cases piece with
      | char c =>
          rw [List.mapM_cons, hrest]
          rfl
      | illFormed =>
          exact absurd List.mem_cons_self hpieces

theorem shown_eq_self_iff {bytes : Bytes} :
    shown bytes = bytes ↔ (decode? bytes).isSome = true := by
  constructor
  · intro hshown
    rw [← hshown, shown, decode?_encode]
    rfl
  · intro hdecode
    obtain ⟨t, ht⟩ := Option.isSome_iff_exists.mp hdecode
    rw [shown, decode_of_decode? ht, encode_of_decode? ht]

def isAscii (bytes : Bytes) : Bool :=
  bytes.all (· < 0x80)

theorem lt_of_isAscii {bytes : Bytes} (hascii : isAscii bytes = true) {x : UInt8} (hx : x ∈ bytes) :
    x < 0x80 :=
  of_decide_eq_true (List.all_eq_true.mp hascii x hx)

theorem shown_of_isAscii {plain : Bytes} (hplain : isAscii plain = true) : shown plain = plain := by
  induction plain with
  | nil =>
      rw [shown_eq, pieces]
      rfl
  | cons x rest ih =>
      obtain ⟨hx, hrest⟩ := Bool.and_eq_true_iff.mp hplain
      have hshown := shown_append_ascii (of_decide_eq_true hx) [] rest
      rw [ih hrest, shown_eq [], pieces] at hshown
      exact hshown

theorem shown_eq_iff {bytes plain : Bytes} (hplain : isAscii plain = true) :
    shown bytes = plain ↔ bytes = plain := by
  constructor
  · intro hshown
    have hmark : 0xEF ∉ shown bytes := by
      intro hmem
      rw [hshown] at hmem
      exact absurd (lt_of_isAscii hplain hmem) (by decide)
    have hself : shown bytes = bytes :=
      shown_eq_self_iff.mpr (isSome_decode?_of_pieces (illFormed_not_mem_pieces hmark))
    rw [← hself, hshown]
  · rintro rfl
    exact shown_of_isAscii hplain

end Utf8

namespace Path

theorem slash_not_mem_shown {piece : Bytes} (hpiece : slash ∉ piece) :
    slash ∉ Utf8.shown piece :=
  fun hmem => hpiece (Utf8.mem_of_mem_shown (by decide) hmem)

@[simp] theorem pieces_ofText_display (p : Path) :
    (ofText p.display).pieces = p.pieces.map Utf8.shown :=
  cutAt_map (Utf8.shown_append_ascii (by decide)) (fun _ => slash_not_mem_shown) p.bytes

@[simp] theorem counts_shown (piece : Bytes) : counts (Utf8.shown piece) = counts piece := by
  have hempty : Utf8.shown piece = [] ↔ piece = [] :=
    Utf8.shown_eq_iff (by decide)
  have hdot : Utf8.shown piece = [dot] ↔ piece = [dot] :=
    Utf8.shown_eq_iff (by decide)
  unfold counts componentOf?
  by_cases hnone : piece = [] ∨ piece = [dot]
  · rw [if_pos hnone, if_pos (by rwa [hempty, hdot])]
  · rw [if_neg hnone, if_neg (by rwa [hempty, hdot])]
    split <;> split <;> rfl

@[simp] theorem counted_ofText_display (p : Path) :
    (ofText p.display).counted = p.counted.map Utf8.shown := by
  unfold counted
  rw [pieces_ofText_display, List.filter_map]
  congr 2
  exact funext counts_shown

@[simp] theorem fileName?_ofText_display (p : Path) :
    (ofText p.display).fileName? = p.fileName?.map Utf8.shown := by
  have hdots (piece : Bytes) : Utf8.shown piece = [dot, dot] ↔ piece = [dot, dot] :=
    Utf8.shown_eq_iff (by decide)
  rw [fileName?_eq, fileName?_eq, counted_ofText_display, List.getLast?_map]
  cases p.counted.getLast? with
  | none =>
      rfl
  | some piece =>
      by_cases hparent : piece = [dot, dot]
      · simp [Option.filter, hparent, (hdots _).mpr rfl]
      · simp [Option.filter, hparent, hdots]

end Path

end Imprint
