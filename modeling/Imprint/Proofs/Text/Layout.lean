import Imprint.Proofs.Text.Lines
import Mathlib.Logic.Relation

/-!
# Layout

Layout is what stands around the contents of a text: blanks at both ends of its
lines, blank lines, and how its lines and the text itself end.  Changes of layout
bring each text into a normal form, and no change of layout leads to another one.
So two texts differ in layout alone just when they have one normal form.
-/

namespace Imprint

namespace Text

/-- The lines of a text without the blanks at their ends, and without the blank ones. -/
def contentLines (t : Text) : List Text :=
  t.trimmedLines.filter (· ≠ [])

/-- A text with nothing around the contents of its lines but newlines between them. -/
def normalForm (t : Text) : Text :=
  joinLines t.contentLines

def LineBegins (above : Text) : Prop :=
  above = [] ∨ above.getLast? = some '\n'

def LineEnds (below : Text) : Prop :=
  below = [] ∨ below.head? = some '\n'

/-- One change of layout, by which something is added: a blank at the beginning or at the end of a
line, a blank line, or a newline at the end. -/
inductive Relaid : Text → Text → Prop
  | indent {above : Text} {c : Char} (habove : LineBegins above) (hc : isBlank c = true)
      (hline : c ≠ '\n') (below : Text) : Relaid (above ++ below) (above ++ c :: below)
  | pad {below : Text} {c : Char} (hbelow : LineEnds below) (hc : isBlank c = true)
      (hline : c ≠ '\n') (above : Text) : Relaid (above ++ below) (above ++ c :: below)
  | blankLine {above : Text} (habove : LineBegins above) (below : Text) :
      Relaid (above ++ below) (above ++ '\n' :: below)
  | finalNewline (t : Text) : Relaid t (t ++ ['\n'])

/-- Texts that differ in layout alone: changes of layout, made and taken back, lead from one to the
other. -/
def SameLayout : Text → Text → Prop :=
  Relation.EqvGen Relaid

/-- The text with a carriage return put before each newline. -/
def addReturns : Text → Text
  | [] => []
  | c :: rest => if c = '\n' then '\r' :: '\n' :: addReturns rest else c :: addReturns rest

/-- The text without the carriage returns that stand right before newlines. -/
def dropReturns : Text → Text
  | [] => []
  | '\r' :: '\n' :: rest => '\n' :: dropReturns rest
  | c :: rest => c :: dropReturns rest

/-!
## Lines with contents
-/

/-- Carriage returns and an empty last line make no difference to the lines with contents, which
are read off the pieces between newlines. -/
theorem contentLines_eq (t : Text) :
    t.contentLines = ((cutAt '\n' t).map trim).filter (· ≠ []) := by
  rcases List.eq_nil_or_concat (cutAt '\n' t) with hnone | ⟨ended, last, hpieces⟩
  · exact absurd hnone (cutAt_ne_nil t)
  · rw [List.concat_eq_append] at hpieces
    have htrim : (ended.map withoutReturn).map trim = ended.map trim := by
      rw [List.map_map]
      exact List.map_congr_left fun line _ => trim_withoutReturn line
    rw [contentLines, trimmedLines, lines_of_cutAt hpieces, hpieces, List.map_append, htrim,
      List.map_append, List.filter_append, List.filter_append]
    congr 1
    split
    · rename_i hlast
      rw [hlast]
      rfl
    · rfl

theorem contentLines_append (first second : Text) :
    contentLines (first ++ '\n' :: second) = first.contentLines ++ second.contentLines := by
  rw [contentLines_eq, contentLines_eq first, contentLines_eq second, cutAt_append,
    List.map_append, List.filter_append]

theorem contentLines_cons_blank {c : Char} (hc : isBlank c = true) (t : Text) :
    contentLines (c :: t) = t.contentLines := by
  by_cases hline : c = '\n'
  · rw [hline]
    exact contentLines_append [] t
  · rw [contentLines_eq, contentLines_eq t]
    cases hpieces : cutAt '\n' t with
    | nil => exact absurd hpieces (cutAt_ne_nil t)
    | cons piece others =>
        rw [cutAt_cons_of_ne hline hpieces, List.map_cons, List.map_cons, trim_cons_blank hc]

theorem contentLines_concat_blank {c : Char} (hc : isBlank c = true) (t : Text) :
    contentLines (t ++ [c]) = t.contentLines := by
  by_cases hline : c = '\n'
  · rw [hline, contentLines_append t []]
    exact List.append_nil _
  · have hlast : ∀ line : Text, '\n' ∉ line →
        contentLines (line ++ [c]) = contentLines line := by
      intro line hnone
      have hnone' : '\n' ∉ line ++ [c] := by
        simpa [hnone] using Ne.symm hline
      rw [contentLines_eq, contentLines_eq line, cutAt_of_not_mem hnone, cutAt_of_not_mem hnone',
        List.map_singleton, List.map_singleton, trim_concat_blank hc]
    by_cases hmem : '\n' ∈ t
    · obtain ⟨line, above, hreverse, hnone⟩ :=
        List.eq_append_cons_of_mem (List.mem_reverse.mpr hmem)
      have ht : t = above.reverse ++ '\n' :: line.reverse := by
        rw [← List.reverse_reverse t, hreverse]
        simp
      rw [ht, List.append_assoc, List.cons_append, contentLines_append, contentLines_append,
        hlast _ fun h => hnone (List.mem_reverse.mp h)]
    · exact hlast t hmem

theorem Relaid.contentLines {t u : Text} (hrelaid : Relaid t u) :
    t.contentLines = u.contentLines := by
  have hbegins : ∀ {above : Text} {c : Char}, LineBegins above → isBlank c = true →
      ∀ below, Text.contentLines (above ++ below) = Text.contentLines (above ++ c :: below) := by
    rintro above c (rfl | hlast) hc below
    · exact (contentLines_cons_blank hc below).symm
    · obtain ⟨front, rfl⟩ := List.getLast?_eq_some_iff.mp hlast
      rw [List.append_assoc, List.append_assoc]
      refine (contentLines_append front below).trans ?_
      rw [← contentLines_cons_blank hc below]
      exact (contentLines_append front (c :: below)).symm
  cases hrelaid with
  | indent habove hc _ below => exact hbegins habove hc below
  | pad hbelow hc _ above =>
      rcases hbelow with rfl | hhead
      · rw [List.append_nil]
        exact (contentLines_concat_blank hc above).symm
      · obtain ⟨behind, rfl⟩ := List.head?_eq_some_iff.mp hhead
        rw [contentLines_append, ← contentLines_concat_blank hc above, ← contentLines_append,
          List.append_assoc]
        rfl
  | blankLine habove below => exact hbegins habove (by decide) below
  | finalNewline t => exact (contentLines_concat_blank (by decide) t).symm

theorem lineBegins_concat (front : Text) : LineBegins (front ++ ['\n']) := by
  right
  rw [List.getLast?_concat]

namespace SameLayout

theorem contentLines {t u : Text} (hsame : SameLayout t u) : t.contentLines = u.contentLines := by
  induction hsame with
  | rel t u hrelaid => exact hrelaid.contentLines
  | refl t => rfl
  | symm t u _ ih => exact ih.symm
  | trans t u v _ _ htu huv => exact htu.trans huv

/-!
## Changes of layout
-/

theorem refl (t : Text) : SameLayout t t :=
  Relation.EqvGen.refl t

theorem symm {t u : Text} (hsame : SameLayout t u) : SameLayout u t :=
  Relation.EqvGen.symm t u hsame

theorem trans {t u v : Text} (htu : SameLayout t u) (huv : SameLayout u v) : SameLayout t v :=
  Relation.EqvGen.trans t u v htu huv

theorem of_relaid {t u : Text} (hrelaid : Relaid t u) : SameLayout t u :=
  Relation.EqvGen.rel t u hrelaid

theorem indent {above : Text} (habove : LineBegins above) {blanks : Text}
    (hblanks : ∀ c ∈ blanks, isBlank c = true) (hline : '\n' ∉ blanks) (below : Text) :
    SameLayout (above ++ below) (above ++ (blanks ++ below)) := by
  induction blanks with
  | nil => exact refl _
  | cons c rest ih =>
      have hrest := ih (fun d hd => hblanks d (List.mem_cons_of_mem c hd))
        fun hmem => hline (List.mem_cons_of_mem c hmem)
      refine hrest.trans (of_relaid (.indent habove (hblanks c List.mem_cons_self) ?_ _))
      exact fun heq => hline (heq ▸ List.mem_cons_self)

theorem pad {below : Text} (hbelow : LineEnds below) {blanks : Text}
    (hblanks : ∀ c ∈ blanks, isBlank c = true) (hline : '\n' ∉ blanks) (above : Text) :
    SameLayout (above ++ below) (above ++ (blanks ++ below)) := by
  induction blanks generalizing above with
  | nil => exact refl _
  | cons c rest ih =>
      have hrest := ih (fun d hd => hblanks d (List.mem_cons_of_mem c hd))
        (fun hmem => hline (List.mem_cons_of_mem c hmem)) (above ++ [c])
      rw [List.append_assoc, List.append_assoc] at hrest
      refine (of_relaid (.pad hbelow (hblanks c List.mem_cons_self) ?_ above)).trans hrest
      exact fun heq => hline (heq ▸ List.mem_cons_self)

theorem trim {above below line : Text} (habove : LineBegins above) (hbelow : LineEnds below)
    (hline : '\n' ∉ line) :
    SameLayout (above ++ (line ++ below)) (above ++ (line.trim ++ below)) := by
  obtain ⟨front, back, hwhole, hfront, hback⟩ := exists_blanks_trim line
  have hnone : '\n' ∉ front ++ line.trim ++ back := hwhole ▸ hline
  rw [List.mem_append, List.mem_append, not_or, not_or] at hnone
  have hpad := pad hbelow hback hnone.2 (above ++ line.trim)
  have hindent := indent habove hfront hnone.1.1 (line.trim ++ (back ++ below))
  rw [List.append_assoc, List.append_assoc] at hpad
  have hboth := hpad.trans hindent
  rw [← List.append_assoc line.trim, ← List.append_assoc front, ← List.append_assoc front,
    ← hwhole] at hboth
  exact hboth.symm

/-!
## Normal forms
-/

theorem trim_ended {above : Text} (habove : LineBegins above) {lines : List Text}
    (hlines : ∀ line ∈ lines, '\n' ∉ line) :
    SameLayout (above ++ lines.flatMap (· ++ ['\n']))
      (above ++ ((lines.map Text.trim).filter (· ≠ [])).flatMap (· ++ ['\n'])) := by
  induction lines generalizing above with
  | nil => exact refl _
  | cons line rest ih =>
      have hrest := fun other hother => hlines other (List.mem_cons_of_mem line hother)
      have hends : LineEnds ('\n' :: rest.flatMap (· ++ ['\n'])) := Or.inr rfl
      have htrim := trim habove hends (hlines line List.mem_cons_self)
      rw [List.flatMap_cons, List.append_assoc, List.map_cons]
      refine htrim.trans ?_
      by_cases hblank : line.trim = []
      · rw [hblank, List.filter_cons_of_neg (by simp)]
        exact (of_relaid (.blankLine habove _)).symm.trans (ih habove hrest)
      · rw [List.filter_cons_of_pos (by simpa using hblank), List.flatMap_cons]
        have hbehind := ih (lineBegins_concat (above ++ line.trim)) hrest
        simpa only [List.append_assoc, List.singleton_append] using hbehind

end SameLayout

theorem joinLines_concat_newline {lines : List Text} (hne : lines ≠ []) :
    joinLines lines ++ ['\n'] = lines.flatMap (· ++ ['\n']) := by
  induction lines with
  | nil => exact absurd rfl hne
  | cons line rest ih =>
      cases rest with
      | nil => simp [joinLines]
      | cons next others =>
          rw [joinLines, List.flatMap_cons, ← ih (List.cons_ne_nil next others)]
          simp

theorem sameLayout_normalForm (t : Text) : SameLayout t t.normalForm := by
  have hended := SameLayout.trim_ended (Or.inl rfl) fun line (hline : line ∈ cutAt '\n' t) =>
    not_mem_of_mem_cutAt hline
  rw [← joinLines_concat_newline (cutAt_ne_nil t), joinLines_cutAt, ← contentLines_eq] at hended
  refine (SameLayout.of_relaid (.finalNewline t)).trans (hended.trans ?_)
  by_cases hnone : t.contentLines = []
  · rw [normalForm, hnone]
    exact .refl []
  · rw [← joinLines_concat_newline hnone]
    exact (SameLayout.of_relaid (.finalNewline _)).symm

theorem sameLayout_iff {t u : Text} : SameLayout t u ↔ t.normalForm = u.normalForm := by
  constructor
  · intro hsame
    rw [normalForm, normalForm, hsame.contentLines]
  · intro hnormal
    have hu := (sameLayout_normalForm u).symm
    rw [← hnormal] at hu
    exact (sameLayout_normalForm t).trans hu

/-!
## Line ends
-/

theorem sameLayout_addReturns (t : Text) : SameLayout t t.addReturns := by
  have hbehind : ∀ above : Text, SameLayout (above ++ t) (above ++ t.addReturns) := by
    induction t with
    | nil => exact fun above => .refl _
    | cons c rest ih =>
        intro above
        have hrest := ih (above ++ [c])
        rw [List.append_assoc, List.append_assoc] at hrest
        refine hrest.trans ?_
        rw [addReturns]
        split
        · rename_i hc
          rw [hc]
          exact .of_relaid (.pad (Or.inr rfl) (by decide) (by decide) above)
        · exact .refl _
  exact hbehind []

theorem sameLayout_dropReturns (t : Text) : SameLayout t t.dropReturns := by
  have hbehind : ∀ above : Text, SameLayout (above ++ t) (above ++ t.dropReturns) := by
    induction t using dropReturns.induct with
    | case1 => exact fun above => .refl _
    | case2 rest ih =>
        intro above
        have hrest := ih (above ++ ['\n'])
        rw [List.append_assoc, List.append_assoc] at hrest
        rw [dropReturns]
        refine .trans (.symm (.of_relaid ?_)) hrest
        exact .pad (Or.inr rfl) (by decide) (by decide) above
    | case3 c rest hreturn ih =>
        intro above
        have hrest := ih (above ++ [c])
        rw [List.append_assoc, List.append_assoc] at hrest
        rw [dropReturns]
        · exact hrest
        · exact hreturn
  exact hbehind []

end Text

end Imprint
