import Imprint.Proofs.Dump.Reading
import Imprint.Proofs.Text.Fields

/-!
# The grammar of dump rows

A row is five groups of eight digits with single spaces between them, and then
nothing, or two blanks and more and anything on the same line.  Its words stand
at the index of the first group and the three indices behind it; what follows the
groups is of no account.
-/

namespace Imprint

namespace DumpRow

/-!
## Parts of a row
-/

/-- What may follow the groups of a row: nothing, or at least two blanks and a text without
newlines. -/
def IsTail (t : Text) : Prop :=
  t = [] ∨ ∃ space rest, t = space ++ rest ∧ 2 ≤ space.length ∧
    (∀ c ∈ space, Text.isBlank c = true) ∧ '\n' ∉ rest

/-- The parts of a row. -/
structure Parts where
  group : Fin 5 → Text
  tail : Text
  isWord_group : ∀ place, (group place).IsWord
  isTail_tail : IsTail tail

/-- The sum of two numbers of 32 bits, where it does not run over. -/
def sum? (a b : BitVec 32) : Option (BitVec 32) :=
  if a.toNat + b.toNat < 0x100000000 then some (a + b) else none

namespace Parts

def line (parts : Parts) : Text :=
  [' '].intercalate (List.ofFn parts.group) ++ parts.tail

def bare (parts : Parts) : Parts :=
  { parts with tail := [], isTail_tail := Or.inl rfl }

/-- The word of the parts at a place, where its numbers and its index are checked. -/
def word? (parts : Parts) (place : Fin 4) : Option DataWord := do
  let address ← (parts.group 0).number?
  let word ← sum? (address >>> 2) (BitVec.ofNat 32 place)
  let value ← (parts.group place.succ).number?
  some { word, value }

def words? (parts : Parts) : Option (List DataWord) :=
  (List.finRange 4).mapM parts.word?

def row (parts : Parts) : DumpRow where
  start := BitVec.ofNat 32 (parts.group 0).hexValue >>> 2
  first := BitVec.ofNat 32 (parts.group 1).hexValue
  second := BitVec.ofNat 32 (parts.group 2).hexValue
  third := BitVec.ofNat 32 (parts.group 3).hexValue
  fourth := BitVec.ofNat 32 (parts.group 4).hexValue

theorem toNat_start (parts : Parts) : parts.row.start.toNat = (parts.group 0).hexValue / 4 :=
  toNat_wordIndex (parts.isWord_group 0).hexValue_lt

theorem index_lt (parts : Parts) (place : Fin 4) :
    parts.row.start.toNat + (place : Nat) < 0x100000000 := by
  have hstart := parts.toNat_start
  have hlt := (parts.isWord_group 0).hexValue_lt
  have hplace := place.isLt
  omega

def wordAt (parts : Parts) (place : Fin 4) : DataWord where
  word := parts.row.start + BitVec.ofNat 32 place
  value := BitVec.ofNat 32 (parts.group place.succ).hexValue

theorem words_row (parts : Parts) : parts.row.words = (List.finRange 4).map parts.wordAt := by
  have hplaces : List.finRange 4 = [0, 1, 2, 3] := by
    decide
  have hfirst : parts.wordAt 0 = ⟨parts.row.start, parts.row.first⟩ := by
    show (⟨parts.row.start + 0#32, _⟩ : DataWord) = _
    rw [BitVec.add_zero]
    rfl
  rw [hplaces, List.map_cons, hfirst]
  rfl

@[simp] theorem word?_eq (parts : Parts) (place : Fin 4) :
    parts.word? place = some (parts.wordAt place) := by
  have hplace : (BitVec.ofNat 32 place).toNat = place := by
    rw [BitVec.toNat_ofNat]
    have hlt := place.isLt
    omega
  have hsum : sum? parts.row.start (BitVec.ofNat 32 place) =
      some (parts.row.start + BitVec.ofNat 32 place) := by
    refine if_pos ?_
    rw [hplace]
    exact parts.index_lt place
  unfold word?
  rw [(parts.isWord_group 0).number?_eq, (parts.isWord_group place.succ).number?_eq]
  show (sum? parts.row.start (BitVec.ofNat 32 place)).bind _ = _
  rw [hsum]
  rfl

@[simp] theorem words?_eq (parts : Parts) : parts.words? = some parts.row.words := by
  have hwords : parts.word? = fun place => pure (parts.wordAt place) := funext parts.word?_eq
  rw [words?, hwords, List.mapM_pure, words_row]
  rfl

theorem toNat_wordAt (parts : Parts) (place : Fin 4) :
    (parts.wordAt place).word.toNat = (parts.group 0).hexValue / 4 + place := by
  rw [wordAt, toNat_add_index (parts.index_lt place), toNat_start]

theorem values_row (parts : Parts) :
    parts.row.words.map (fun w => (w.word.toNat, w.value.toNat)) =
      (List.finRange 4).map fun place : Fin 4 =>
        ((parts.group 0).hexValue / 4 + place, (parts.group place.succ).hexValue) := by
  rw [words_row, List.map_map]
  refine List.map_congr_left fun place _ => ?_
  rw [Function.comp_apply, toNat_wordAt]
  exact congrArg _ (parts.isWord_group place.succ).toNat

end Parts

/-!
## Reading rows
-/

theorem column?_eq_some_iff {t digits rest : Text} :
    column? t = some (digits, rest) ↔ digits.IsWord ∧ t = ' ' :: (digits ++ rest) := by
  unfold column?
  simp only [Option.bind_eq_bind, Option.bind_eq_some_iff, Text.eightDigits?_eq_some_iff]
  constructor
  · rintro ⟨behind, hspace, hword, rfl⟩
    exact ⟨hword, Text.eq_append_of_after? hspace⟩
  · rintro ⟨hword, rfl⟩
    exact ⟨_, Text.after?_append [' '] _, hword, rfl⟩

theorem columns?_eq_some_iff {count : Nat} {t rest : Text} {values : List Text} :
    columns? count t = some (values, rest) ↔ values.length = count ∧
      (∀ digits ∈ values, digits.IsWord) ∧ t = values.flatMap (' ' :: ·) ++ rest := by
  induction count generalizing t values with
  | zero =>
      rw [columns?, List.length_eq_zero_iff]
      constructor
      · intro ht
        cases ht
        exact ⟨rfl, by simp, rfl⟩
      · rintro ⟨rfl, -, rfl⟩
        rfl
  | succ count ih =>
      simp only [columns?, Option.bind_eq_bind, Option.bind_eq_some_iff]
      constructor
      · rintro ⟨⟨digits, behind⟩, hcolumn, ⟨others, last⟩, hothers, heq⟩
        cases heq
        obtain ⟨hdigits, rfl⟩ := column?_eq_some_iff.mp hcolumn
        obtain ⟨hlength, hwords, hbehind⟩ := ih.mp hothers
        refine ⟨by rw [List.length_cons, hlength], ?_, ?_⟩
        · intro word hword
          rcases List.mem_cons.mp hword with rfl | hword
          · exact hdigits
          · exact hwords word hword
        · dsimp only at hbehind
          rw [hbehind, List.flatMap_cons, List.append_assoc]
          rfl
      · rintro ⟨hlength, hwords, rfl⟩
        cases values with
        | nil =>
            cases hlength
        | cons digits others =>
            have hothers := ih.mpr ⟨Nat.succ.inj hlength,
              fun word hword => hwords word (List.mem_cons_of_mem _ hword), rfl⟩
            refine ⟨(digits, others.flatMap (' ' :: ·) ++ rest), ?_, (others, rest), hothers, rfl⟩
            refine column?_eq_some_iff.mpr ⟨hwords digits List.mem_cons_self, ?_⟩
            rw [List.flatMap_cons, List.append_assoc]
            rfl

theorem IsTail.endsRow {t : Text} (htail : IsTail t) : DumpRow.endsRow t = true := by
  rcases htail with rfl | ⟨space, rest, rfl, hlength, hblank, hnewline⟩
  · rfl
  · rcases space with _ | ⟨c, _ | ⟨d, more⟩⟩
    · cases hlength
    · exact absurd hlength (Nat.not_succ_le_self 1)
    · have hc := hblank c (by simp)
      have hd := hblank d (by simp)
      have hmore : ∀ e ∈ more, Text.isBlank e = true := fun e he =>
        hblank e (List.mem_cons_of_mem _ (List.mem_cons_of_mem _ he))
      have hcontains : (Text.trimLeft (more ++ rest)).contains '\n' = false := by
        rw [Text.trimLeft_append hmore, ← Bool.not_eq_true, List.contains_iff_mem]
        exact Text.newline_not_mem_trimLeft hnewline
      simp only [List.cons_append, DumpRow.endsRow, hc, hd, hcontains]
      rfl

theorem isTail_of_endsRow {t : Text} (hends : endsRow t = true) : IsTail t := by
  rcases t with _ | ⟨c, _ | ⟨d, behind⟩⟩
  · exact Or.inl rfl
  · cases hends
  · simp only [endsRow, Bool.and_eq_true, Bool.not_eq_true'] at hends
    obtain ⟨⟨hc, hd⟩, hcontains⟩ := hends
    refine Or.inr ⟨c :: d :: behind.takeWhile Text.isBlank, Text.trimLeft behind, ?_, by simp,
      ?_, ?_⟩
    · rw [Text.trimLeft, List.cons_append, List.cons_append, List.takeWhile_append_dropWhile]
    · intro e he
      simp only [List.mem_cons] at he
      rcases he with rfl | rfl | he
      · exact hc
      · exact hd
      · exact List.mem_takeWhile_imp he
    · rwa [← Bool.not_eq_true, List.contains_iff_mem] at hcontains

namespace Parts

def values (parts : Parts) : List Text :=
  [parts.group 1, parts.group 2, parts.group 3, parts.group 4]

theorem isWord_values (parts : Parts) : ∀ digits ∈ parts.values, digits.IsWord := by
  simp [values, parts.isWord_group]

theorem line_eq (parts : Parts) :
    parts.line = parts.group 0 ++ (parts.values.flatMap (' ' :: ·) ++ parts.tail) := by
  have hgroups : List.ofFn parts.group =
      [parts.group 0, parts.group 1, parts.group 2, parts.group 3, parts.group 4] := rfl
  unfold line
  rw [hgroups]
  simp [values, List.intercalate, List.intersperse]

theorem exists_of_values {address tail : Text} {values : List Text} (haddress : address.IsWord)
    (hlength : values.length = 4) (hwords : ∀ digits ∈ values, digits.IsWord)
    (htail : IsTail tail) :
    ∃ parts : Parts, parts.group 0 = address ∧ parts.values = values ∧ parts.tail = tail := by
  obtain ⟨a, b, c, d, rfl⟩ := List.length_eq_four.mp hlength
  have hgroup : ∀ place, (![address, a, b, c, d] place).IsWord := by
    intro place
    fin_cases place
    · exact haddress
    · exact hwords a (by simp)
    · exact hwords b (by simp)
    · exact hwords c (by simp)
    · exact hwords d (by simp)
  exact ⟨⟨![address, a, b, c, d], tail, hgroup, htail⟩, rfl, rfl, rfl⟩

end Parts

@[simp] theorem read?_line (parts : Parts) : read? parts.line = some parts.row := by
  have haddress := Text.eightDigits?_eq_some_iff.mpr ⟨parts.isWord_group 0, parts.line_eq⟩
  have hcolumns : columns? 4 (parts.values.flatMap (' ' :: ·) ++ parts.tail) =
      some (parts.values, parts.tail) :=
    columns?_eq_some_iff.mpr ⟨rfl, parts.isWord_values, rfl⟩
  rw [read?_eq, haddress, Option.bind_some, hcolumns, Option.bind_some]
  exact if_pos parts.isTail_tail.endsRow

theorem exists_parts_of_read? {line : Text} {r : DumpRow} (hread : read? line = some r) :
    ∃ parts : Parts, parts.line = line := by
  rw [read?_eq, Option.bind_eq_some_iff] at hread
  obtain ⟨⟨address, behind⟩, hfront, hread⟩ := hread
  obtain ⟨⟨values, tail⟩, hcolumns, hread⟩ := Option.bind_eq_some_iff.mp hread
  obtain ⟨haddress, rfl⟩ := Text.eightDigits?_eq_some_iff.mp hfront
  obtain ⟨hlength, hwords, hbehind⟩ := columns?_eq_some_iff.mp hcolumns
  dsimp only at hbehind hread
  have htail : IsTail tail := by
    by_contra hno
    have hends := mt isTail_of_endsRow hno
    obtain ⟨a, b, c, d, rfl⟩ := List.length_eq_four.mp hlength
    unfold ofColumns? at hread
    simp only [List.map_cons, List.map_nil, if_neg hends] at hread
    cases hread
  obtain ⟨parts, rfl, rfl, rfl⟩ := Parts.exists_of_values haddress hlength hwords htail
  exact ⟨parts, by rw [Parts.line_eq, hbehind]⟩

/-- A line is read as a row exactly when it is made up of the parts of one.  Its numbers and
indices fit into 32 bits, its words stand at the index of the first group and the three behind it
with the values of the other groups, and what follows the groups changes nothing. -/
theorem row_grammar :
    (∀ line, (∃ r, read? line = some r) ↔ ∃ parts : Parts, parts.line = line) ∧
      ∀ parts : Parts, ∃ r, read? parts.line = some r ∧ parts.words? = some r.words ∧
        r.words.map (fun w => (w.word.toNat, w.value.toNat)) =
          (List.finRange 4).map (fun place : Fin 4 =>
            ((parts.group 0).hexValue / 4 + place, (parts.group place.succ).hexValue)) ∧
        read? parts.bare.line = some r := by
  refine ⟨fun line => ⟨?_, ?_⟩, fun parts => ?_⟩
  · rintro ⟨r, hread⟩
    exact exists_parts_of_read? hread
  · rintro ⟨parts, rfl⟩
    exact ⟨_, read?_line parts⟩
  · exact ⟨parts.row, read?_line parts, parts.words?_eq, parts.values_row, read?_line parts.bare⟩

/-- A row near the end of 32 bits, with a newline between its groups and what follows them. -/
def lastRow : Parts where
  group := !["FFFFFFF7".toList, "00000001".toList, "0000000a".toList, "deadBEEF".toList,
    "ffffffff".toList]
  tail := " \n00000005".toList
  isWord_group := by decide
  isTail_tail := isTail_of_endsRow (by decide)

/-- The row is read, with words beyond 30 bits; with a single space behind its groups there is no
row. -/
theorem row_grammar_last :
    (∃ r, read? lastRow.line = some r ∧ r.words.map (fun w => (w.word.toNat, w.value.toNat)) =
        [(0x3FFFFFFD, 1), (0x3FFFFFFE, 0xA), (0x3FFFFFFF, 0xDEADBEEF), (0x40000000, 0xFFFFFFFF)] ∧
          read? lastRow.bare.line = some r) ∧
      ¬ ∃ parts : Parts, parts.line = lastRow.bare.line ++ " 00000005".toList := by
  obtain ⟨hgroups, hparts⟩ := row_grammar
  refine ⟨?_, ?_⟩
  · obtain ⟨r, hread, -, hvalues, hbare⟩ := hparts lastRow
    exact ⟨r, hread, hvalues.trans (by decide), hbare⟩
  · rw [← hgroups]
    rintro ⟨r, hread⟩
    have hnone : read? (lastRow.bare.line ++ " 00000005".toList) = none := by
      decide
    rw [hnone] at hread
    cases hread

end DumpRow

end Imprint
