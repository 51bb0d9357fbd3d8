import Imprint.Proofs.Path
import Imprint.Text.Lines

/-!
# Lines and newlines

No line holds a newline.  Lines that were joined are cut apart again at the
newlines, and any text is joined again from the pieces that it is cut into.
-/

namespace Imprint

namespace Text

/-!
## What lines hold
-/

theorem trim_sublist (t : Text) : t.trim.Sublist t := by
  have hright : ∀ u : Text, (trimRight u).Sublist u := by
    intro u
    have hdrop := List.dropWhile_sublist isBlank (l := u.reverse)
    have hreverse := hdrop.reverse
    rwa [List.reverse_reverse] at hreverse
  exact (hright _).trans (List.dropWhile_sublist isBlank)

theorem newline_not_mem_endedLine {reversed : Text} (hreversed : '\n' ∉ reversed) :
    '\n' ∉ endedLine reversed := by
  unfold endedLine
  split
  · intro hmem
    exact hreversed (List.mem_cons_of_mem _ (List.mem_reverse.mp hmem))
  · intro hmem
    exact hreversed (List.mem_reverse.mp hmem)

theorem newline_not_mem_linesFrom {reversed : Text} (hreversed : '\n' ∉ reversed) (t : Text) :
    ∀ line ∈ linesFrom reversed t, '\n' ∉ line := by
  induction t generalizing reversed with
  | nil =>
      intro line hline
      rw [linesFrom] at hline
      split at hline
      · cases hline
      · rw [List.mem_singleton.mp hline]
        intro hmem
        exact hreversed (List.mem_reverse.mp hmem)
  | cons c rest ih =>
      intro line hline
      rw [linesFrom] at hline
      split at hline
      · rcases List.mem_cons.mp hline with rfl | hrest
        · exact newline_not_mem_endedLine hreversed
        · exact ih List.not_mem_nil line hrest
      · rename_i hc
        refine ih ?_ line hline
        intro hmem
        rcases List.mem_cons.mp hmem with heq | hold
        · exact hc heq.symm
        · exact hreversed hold

theorem newline_not_mem_lines {t line : Text} (hline : line ∈ t.lines) : '\n' ∉ line :=
  newline_not_mem_linesFrom List.not_mem_nil t line hline

theorem newline_not_mem_trimmedLines {t line : Text} (hline : line ∈ t.trimmedLines) :
    '\n' ∉ line := by
  obtain ⟨whole, hwhole, rfl⟩ := List.mem_map.mp hline
  intro hmem
  exact newline_not_mem_lines hwhole ((trim_sublist whole).subset hmem)

/-!
## Joining and cutting
-/

theorem cutAt_joinLines {lines : List Text} (hne : lines ≠ [])
    (hlines : ∀ line ∈ lines, '\n' ∉ line) : cutAt '\n' (joinLines lines) = lines := by
  induction lines with
  | nil =>
      exact absurd rfl hne
  | cons line rest ih =>
      have hline := cutAt_of_not_mem (hlines line List.mem_cons_self)
      cases rest with
      | nil =>
          exact hline
      | cons next others =>
          have hrest := ih (List.cons_ne_nil next others) fun other hother =>
            hlines other (List.mem_cons_of_mem line hother)
          rw [joinLines, cutAt_append, hline, hrest]
          rfl

@[simp] theorem joinLines_cutAt (t : Text) : joinLines (cutAt '\n' t) = t := by
  have hjoin : ∀ (piece : Text) (others : List Text),
      joinLines (piece :: others) = piece ++ others.flatMap ('\n' :: ·) := by
    intro piece others
    induction others generalizing piece with
    | nil =>
        simp [joinLines]
    | cons next rest ih =>
        rw [joinLines, ih, List.flatMap_cons]
        rfl
  cases hpieces : cutAt '\n' t with
  | nil =>
      exact absurd hpieces (cutAt_ne_nil t)
  | cons piece others =>
      rw [hjoin]
      exact (eq_flatMap_of_cutAt hpieces).symm

/-!
## Lines that end in newlines
-/

theorem linesFrom_append {line : Text} (hline : '\n' ∉ line) (reversed rest : Text) :
    linesFrom reversed (line ++ rest) = linesFrom (line.reverse ++ reversed) rest := by
  induction line generalizing reversed with
  | nil =>
      rfl
  | cons c others ih =>
      have hc : c ≠ '\n' := by
        intro heq
        exact hline (heq ▸ List.mem_cons_self)
      have hothers : '\n' ∉ others := by
        intro hmem
        exact hline (List.mem_cons_of_mem c hmem)
      rw [List.cons_append, linesFrom, if_neg hc, ih hothers, List.reverse_cons,
        List.append_assoc]
      rfl

/-- Whether a text ends in a carriage return, which belongs to the end of its line. -/
def endsInReturn (t : Text) : Bool :=
  t.getLast? == some '\r'

theorem endsInReturn_append (front : Text) {t : Text} (ht : t ≠ []) :
    (front ++ t).endsInReturn = t.endsInReturn := by
  unfold endsInReturn
  rw [List.getLast?_append, List.getLast?_eq_some_getLast ht, Option.some_or]

theorem endsInReturn_append_of_false {front t : Text} (hfront : front.endsInReturn = false)
    (ht : t.endsInReturn = false) : (front ++ t).endsInReturn = false := by
  by_cases hempty : t = []
  · rw [hempty, List.append_nil, hfront]
  · rw [endsInReturn_append front hempty, ht]

def withoutReturn (line : Text) : Text :=
  endedLine line.reverse

theorem withoutReturn_eq {line : Text} (hline : line.endsInReturn = false) :
    withoutReturn line = line := by
  unfold withoutReturn endedLine
  split
  · rename_i reversed heq
    rw [endsInReturn, ← List.head?_reverse, heq] at hline
    cases hline
  · exact List.reverse_reverse line

theorem lines_append_newline {line : Text} (hline : '\n' ∉ line) (rest : Text) :
    lines (line ++ '\n' :: rest) = withoutReturn line :: lines rest := by
  unfold lines
  rw [linesFrom_append hline, List.append_nil, linesFrom, if_pos rfl]
  rfl

theorem lines_ended {ended : List Text}
    (hlines : ∀ line ∈ ended, '\n' ∉ line ∧ '\r' ∉ line) :
    lines (ended.flatMap (· ++ ['\n'])) = ended := by
  induction ended with
  | nil =>
      rfl
  | cons line rest ih =>
      have hrest := ih fun other hother => hlines other (List.mem_cons_of_mem line hother)
      obtain ⟨hnewline, hreturn⟩ := hlines line List.mem_cons_self
      have hlast : line.endsInReturn = false := by
        rw [endsInReturn, beq_eq_false_iff_ne]
        exact fun hlast => hreturn (List.mem_of_getLast? hlast)
      rw [List.flatMap_cons, List.append_assoc, List.singleton_append,
        lines_append_newline hnewline, withoutReturn_eq hlast, hrest]

/-- Lines that were joined are read again, each but the last without the carriage return at its
end, and the last only if it is not empty. -/
theorem lines_joinLines {ended : List Text} {last : Text} (hended : ∀ line ∈ ended, '\n' ∉ line)
    (hlast : '\n' ∉ last) :
    lines (joinLines (ended ++ [last])) =
      ended.map withoutReturn ++ if last = [] then [] else [last] := by
  induction ended with
  | nil =>
      have hlines := linesFrom_append hlast [] []
      rw [List.append_nil, List.append_nil, linesFrom, List.reverse_reverse] at hlines
      simp only [List.reverse_eq_nil_iff] at hlines
      exact hlines
  | cons line rest ih =>
      have hrest := ih fun other hother => hended other (List.mem_cons_of_mem line hother)
      have hjoin : joinLines (line :: (rest ++ [last])) =
          line ++ '\n' :: joinLines (rest ++ [last]) := by
        cases rest with
        | nil =>
            rfl
        | cons next others =>
            rfl
      rw [List.cons_append, hjoin, lines_append_newline (hended line List.mem_cons_self), hrest]
      rfl

/-- The lines of a text are its pieces between newlines, each but the last without the carriage
return at its end, and the last only if it is not empty. -/
theorem lines_of_cutAt {t last : Text} {ended : List Text}
    (hpieces : cutAt '\n' t = ended ++ [last]) :
    t.lines = ended.map withoutReturn ++ if last = [] then [] else [last] := by
  have hlines : ∀ line ∈ ended ++ [last], '\n' ∉ line := fun line hline =>
    not_mem_of_mem_cutAt (hpieces ▸ hline)
  have hjoin := joinLines_cutAt t
  rw [hpieces] at hjoin
  rw [← hjoin]
  exact lines_joinLines (fun line hline => hlines line (List.mem_append_left _ hline))
    (hlines last (List.mem_append_right _ List.mem_cons_self))

/-!
## Trimming
-/

theorem isBlank_of_getLast?_trim {t : Text} {c : Char} (hc : t.trim.getLast? = some c) :
    isBlank c = false := by
  unfold trim trimRight at hc
  rw [List.getLast?_reverse] at hc
  have hhead := List.head?_dropWhile_not isBlank (trimLeft t).reverse
  rw [hc] at hhead
  exact hhead

@[simp] theorem endsInReturn_trim (t : Text) : t.trim.endsInReturn = false := by
  rw [endsInReturn, beq_eq_false_iff_ne]
  intro hlast
  exact absurd (isBlank_of_getLast?_trim hlast) (by decide)

theorem trimRight_prefix (t : Text) : t.trimRight <+: t := by
  have hsuffix := List.dropWhile_suffix isBlank (l := t.reverse)
  have hprefix := List.reverse_prefix.mpr hsuffix
  rwa [List.reverse_reverse] at hprefix

theorem trimRight_append {c : Char} (hc : isBlank c = false) (front t : Text) :
    trimRight (front ++ c :: t) = front ++ c :: trimRight t := by
  have hreverse : (front ++ c :: t).reverse = t.reverse ++ c :: front.reverse := by
    simp
  have hstop : (c :: front.reverse).dropWhile isBlank = c :: front.reverse :=
    List.dropWhile_cons_of_neg (by simp [hc])
  unfold trimRight
  rw [hreverse, List.dropWhile_append, hstop]
  split
  · rename_i hempty
    rw [List.isEmpty_iff.mp hempty]
    simp
  · simp

theorem trim_cons_blank {c : Char} (hc : isBlank c = true) (t : Text) : trim (c :: t) = trim t := by
  rw [trim, trimLeft, List.dropWhile_cons_of_pos hc, trim, trimLeft]

theorem trimRight_concat_blank {c : Char} (hc : isBlank c = true) (t : Text) :
    trimRight (t ++ [c]) = trimRight t := by
  rw [trimRight, List.reverse_concat, List.dropWhile_cons_of_pos hc, trimRight]

theorem trim_concat_blank {c : Char} (hc : isBlank c = true) (t : Text) :
    trim (t ++ [c]) = trim t := by
  have hleft : trimLeft [c] = [] := List.dropWhile_cons_of_pos hc
  unfold trim
  rw [trimLeft, List.dropWhile_append, ← trimLeft, ← trimLeft, hleft]
  split
  · rename_i hempty
    rw [List.isEmpty_iff.mp hempty]
  · exact trimRight_concat_blank hc _

@[simp] theorem trim_withoutReturn (line : Text) : (withoutReturn line).trim = line.trim := by
  unfold withoutReturn endedLine
  split
  · rename_i reversed heq
    have hline : line = reversed.reverse ++ ['\r'] := by
      rw [← List.reverse_cons, ← heq, List.reverse_reverse]
    rw [hline, trim_concat_blank (by decide)]
  · rw [List.reverse_reverse]

theorem exists_blanks_trim (t : Text) :
    ∃ front back, t = front ++ t.trim ++ back ∧ (∀ c ∈ front, isBlank c = true) ∧
      ∀ c ∈ back, isBlank c = true := by
  refine ⟨t.takeWhile isBlank, (t.trimLeft.reverse.takeWhile isBlank).reverse, ?_, ?_, ?_⟩
  · have hright : t.trimLeft = t.trim ++ (t.trimLeft.reverse.takeWhile isBlank).reverse := by
      rw [trim, trimRight, ← List.reverse_append, List.takeWhile_append_dropWhile,
        List.reverse_reverse]
    rw [List.append_assoc, ← hright, trimLeft, List.takeWhile_append_dropWhile]
  · exact List.all_eq_true.mp List.all_takeWhile
  · exact fun c hc => List.all_eq_true.mp List.all_takeWhile c (List.mem_reverse.mp hc)

end Text

end Imprint
