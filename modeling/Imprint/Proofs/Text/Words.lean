import Imprint.Proofs.Text.Lines
import Mathlib.Data.List.DropRight

/-!
# Words

A blank parts the words before it from those behind it, and characters that are
not blank make one word.  So the last word of a text is what stands behind its
last blank, where the text does not end in blanks.
-/

namespace Imprint

namespace Text

/-!
## Words at the front
-/

theorem words_cons_blank {c : Char} (hc : isBlank c = true) (t : Text) :
    words (c :: t) = words t := by
  rw [words.eq_def]
  exact if_pos hc

theorem words_cons_unblank {c : Char} (hc : isBlank c = false) (t : Text) :
    words (c :: t) = match t, words t with
      | d :: _, word :: others =>
          if isBlank d then [c] :: word :: others else (c :: word) :: others
      | _, others => [c] :: others := by
  rw [words.eq_def]
  exact if_neg (by simp [hc])

theorem words_singleton {c : Char} (hc : isBlank c = false) : words [c] = [[c]] := by
  rw [words_cons_unblank hc]
  rfl

theorem words_cons_before_blank {c d : Char} (hc : isBlank c = false) (hd : isBlank d = true)
    (t : Text) : words (c :: d :: t) = [c] :: words (d :: t) := by
  rw [words_cons_unblank hc]
  cases words (d :: t) with
  | nil => rfl
  | cons word others => exact if_pos hd

theorem words_ne_nil {c : Char} (hc : isBlank c = false) (t : Text) : words (c :: t) ≠ [] := by
  rw [words_cons_unblank hc]
  split
  · split
    · exact List.cons_ne_nil _ _
    · exact List.cons_ne_nil _ _
  · exact List.cons_ne_nil _ _

theorem words_cons_before_word {c d : Char} (hc : isBlank c = false) (hd : isBlank d = false)
    {t word : Text} {others : List Text} (hwords : words (d :: t) = word :: others) :
    words (c :: d :: t) = (c :: word) :: others := by
  rw [words_cons_unblank hc, hwords]
  exact if_neg (by simp [hd])

/-!
## Words and blanks
-/

theorem words_append_blank {c : Char} (hc : isBlank c = true) (front t : Text) :
    words (front ++ c :: t) = words front ++ words t := by
  induction front with
  | nil => exact words_cons_blank hc t
  | cons a front ih =>
      rw [List.cons_append]
      cases ha : isBlank a with
      | true => rw [words_cons_blank ha, words_cons_blank ha, ih]
      | false =>
          cases front with
          | nil =>
              rw [List.nil_append, words_cons_before_blank ha hc, words_cons_blank hc,
                words_singleton ha]
              rfl
          | cons d front =>
              rw [List.cons_append] at ih ⊢
              cases hd : isBlank d with
              | true =>
                  rw [words_cons_before_blank ha hd, words_cons_before_blank ha hd, ih]
                  rfl
              | false =>
                  obtain ⟨word, others, hwords⟩ :=
                    List.exists_cons_of_ne_nil (words_ne_nil hd front)
                  rw [hwords, List.cons_append] at ih
                  rw [words_cons_before_word ha hd ih, words_cons_before_word ha hd hwords]
                  rfl

theorem words_of_unblank {word : Text} (hne : word ≠ [])
    (hword : ∀ c ∈ word, isBlank c = false) : words word = [word] := by
  induction word with
  | nil => exact absurd rfl hne
  | cons c rest ih =>
      have hc := hword c List.mem_cons_self
      cases rest with
      | nil => exact words_singleton hc
      | cons d rest =>
          have hrest := ih (List.cons_ne_nil d rest) fun e he =>
            hword e (List.mem_cons_of_mem c he)
          have hd := hword d (List.mem_cons_of_mem c List.mem_cons_self)
          exact words_cons_before_word hc hd hrest

theorem getLast?_words_append {c : Char} (hc : isBlank c = true) (front : Text) {word : Text}
    (hne : word ≠ []) (hword : ∀ d ∈ word, isBlank d = false) :
    (words (front ++ c :: word)).getLast? = some word := by
  rw [words_append_blank hc, words_of_unblank hne hword, List.getLast?_concat]

/-!
## Ends of text
-/

theorem last_of_rdropWhile {p : Char → Bool} {t front : Text} {c : Char}
    (hdrop : t.rdropWhile p = front ++ [c]) : p c = false := by
  have hne : t.rdropWhile p ≠ [] := by
    simp [hdrop]
  have hlast := List.rdropWhile_last_not p t hne
  simpa [hdrop] using hlast

theorem isBlank_of_trim_eq {t front : Text} {c : Char} (htrim : t.trim = front ++ [c]) :
    isBlank c = false :=
  last_of_rdropWhile (t := t.trimLeft) htrim

theorem exists_last_blank {t : Text} (hblank : ∃ c ∈ t, isBlank c = true) :
    ∃ front c word, t = front ++ c :: word ∧ isBlank c = true ∧
      ∀ d ∈ word, isBlank d = false := by
  let unblank (c : Char) : Bool := !isBlank c
  have hne : t.rdropWhile unblank ≠ [] := by
    intro hnone
    obtain ⟨c, hc, hcblank⟩ := hblank
    have hunblank := List.rdropWhile_eq_nil_iff.mp hnone c hc
    simp [unblank, hcblank] at hunblank
  refine ⟨(t.rdropWhile unblank).dropLast, (t.rdropWhile unblank).getLast hne,
    t.rtakeWhile unblank, ?_, ?_, ?_⟩
  · rw [List.append_cons, List.dropLast_append_getLast, List.rdropWhile_append_rtakeWhile]
  · simpa [unblank] using List.rdropWhile_last_not unblank t hne
  · intro d hd
    simpa [unblank] using List.mem_rtakeWhile_imp hd

end Text

end Imprint
