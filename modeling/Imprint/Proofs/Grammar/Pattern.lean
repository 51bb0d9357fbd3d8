import Imprint.Proofs.Grammar.DumpRow
import Imprint.Proofs.Grammar.Instruction
import Imprint.Proofs.Regex.Matching
import Imprint.Regex.Rich

/-!
# The patterns of lines

Instruction lines and rows are described by regular expressions.  Each matches
the lines that are made up of the right parts, its groups match those parts, and
converting what the groups matched is what reading the line comes to.
-/

namespace Imprint

namespace Regex

/-!
## Matches of simple expressions
-/

variable {before t after : Text} {groups : Groups}

namespace Matching

theorem then_append {first second : Matching} {u v : Text} (groups₁ : Groups) {groups₂ : Groups}
    (hfirst : first before u (v ++ after) groups₁)
    (hsecond : second (before ++ u) v after groups₂) :
    first.Then second before (u ++ v) after (groups₁ ++ groups₂) :=
  ⟨u, v, groups₁, groups₂, rfl, rfl, hfirst, hsecond⟩

@[simp] theorem then_nothing_iff {m : Matching} :
    m.Then .Nothing before t after groups ↔ m before t after groups := by
  constructor
  · intro h
    rcases h with ⟨u, v, groups₁, groups₂, rfl, rfl, hm, rfl, rfl⟩
    rw [List.append_nil, List.append_nil]
    exact hm
  · intro hm
    rw [← List.append_nil t, ← List.append_nil groups]
    exact then_append groups hm ⟨rfl, rfl⟩

end Matching

theorem matches_ofList_cons (r : Regex) (rs : List Regex) :
    (ofList (r :: rs)).Matches = r.Matches.Then (ofList rs).Matches :=
  rfl

@[simp] theorem matches_ofList_singleton_iff {r : Regex} :
    (ofList [r]).Matches before t after groups ↔ r.Matches before t after groups :=
  Matching.then_nothing_iff

@[simp] theorem matches_textStart_iff :
    (anchor .textStart).Matches before t after groups ↔ before = [] ∧ t = [] ∧ groups = [] := by
  simp [Matches, Anchor.holds]

@[simp] theorem matches_textEnd_iff :
    (anchor .textEnd).Matches before t after groups ↔ after = [] ∧ t = [] ∧ groups = [] := by
  simp [Matches, Anchor.holds, Anchor.holds.after]

theorem has_iff {ranges : List (Nat × Nat)} {c : Char} :
    (CharSet.mk ranges false).has c = true ↔
      ∃ range ∈ ranges, range.1 ≤ c.toNat ∧ c.toNat ≤ range.2 := by
  simp [CharSet.has, CharSet.hasPoint]

theorem has_negated_iff {ranges : List (Nat × Nat)} {c : Char} :
    (CharSet.mk ranges true).has c = true ↔ (CharSet.mk ranges false).has c = false := by
  simp [CharSet.has, CharSet.hasPoint]

theorem has_single_iff {c d : Char} : (CharSet.single c).has d = true ↔ d = c := by
  rw [CharSet.single, has_iff, ← Char.toNat_inj]
  simp only [List.mem_singleton, exists_eq_left]
  omega

@[simp] theorem matches_single_iff {c : Char} :
    (one (.single c)).Matches before t after groups ↔ t = [c] ∧ groups = [] := by
  simp [Matches, has_single_iff]

theorem times_one_iff {set : CharSet} {count : Nat} :
    (one set).Matches.Times count before t after groups ↔
      t.length = count ∧ (∀ c ∈ t, set.has c = true) ∧ groups = [] := by
  induction count generalizing before t groups with
  | zero =>
      rw [Matching.Times, Matching.Nothing, List.length_eq_zero_iff]
      constructor
      · intro h
        rcases h with ⟨rfl, rfl⟩
        simp
      · intro h
        rcases h with ⟨rfl, -, rfl⟩
        exact ⟨rfl, rfl⟩
  | succ count ih =>
      constructor
      · intro h
        rcases h with ⟨_, v, _, groups₂, rfl, rfl, ⟨c, hc, rfl, rfl⟩, hv⟩
        rcases ih.mp hv with ⟨rfl, hothers, rfl⟩
        refine ⟨by simp, fun d hd => ?_, rfl⟩
        rcases List.mem_cons.mp hd with rfl | hd
        · exact hc
        · exact hothers d hd
      · intro h
        rcases h with ⟨hlength, hall, rfl⟩
        rcases List.exists_cons_of_length_eq_add_one hlength with ⟨c, v, rfl⟩
        refine ⟨[c], v, [], [], rfl, rfl, ⟨c, hall c List.mem_cons_self, rfl, rfl⟩, ih.mpr ?_⟩
        exact ⟨Nat.succ.inj hlength, fun d hd => hall d (List.mem_cons_of_mem c hd), rfl⟩

@[simp] theorem matches_repeated_one_iff {set : CharSet} {least : Nat} {most : Option Nat}
    {greedy : Bool} :
    (repeated (one set) least most greedy).Matches before t after groups ↔
      least ≤ t.length ∧ (∀ bound ∈ most, t.length ≤ bound) ∧ (∀ c ∈ t, set.has c = true) ∧
        groups = [] := by
  constructor
  · intro h
    rcases h with ⟨count, hleast, hmost, htimes⟩
    rcases times_one_iff.mp htimes with ⟨rfl, hall, rfl⟩
    exact ⟨hleast, hmost, hall, rfl⟩
  · intro h
    rcases h with ⟨hleast, hmost, hall, rfl⟩
    exact ⟨t.length, hleast, hmost, times_one_iff.mpr ⟨rfl, hall, rfl⟩⟩

theorem matches_optional_iff {body : Regex} {greedy : Bool} :
    (repeated body 0 (some 1) greedy).Matches before t after groups ↔
      (t = [] ∧ groups = []) ∨ body.Matches before t after groups := by
  constructor
  · intro h
    rcases h with ⟨count, -, hcount, htimes⟩
    rcases Nat.le_one_iff_eq_zero_or_eq_one.mp (hcount 1 rfl) with rfl | rfl
    · exact Or.inl htimes
    · exact Or.inr (Matching.then_nothing_iff.mp htimes)
  · intro h
    rcases h with hempty | hbody
    · exact ⟨0, le_rfl, by simp, hempty⟩
    · exact ⟨1, Nat.zero_le 1, by simp, Matching.then_nothing_iff.mpr hbody⟩

/-!
## Pieces of the patterns
-/

def hexDigitSet : CharSet :=
  ⟨[(0x30, 0x39), (0x41, 0x46), (0x61, 0x66)], false⟩

@[simp] theorem has_hexDigitSet (c : Char) : hexDigitSet.has c = Text.isHexDigit c := by
  rw [Bool.eq_iff_iff, hexDigitSet, has_iff, Text.isHexDigit_iff]
  simp only [List.mem_cons, List.not_mem_nil, or_false, exists_eq_or_imp,
    exists_eq_left]
  omega

@[simp] theorem has_blankSet (c : Char) : Character.blankSet.has c = Text.isBlank c :=
  Bool.bne_false _

theorem has_allBut_newline_iff (c : Char) :
    (CharSet.allBut ['\n']).has c = true ↔ c ≠ '\n' := by
  have hsingle : CharSet.mk (['\n'].map fun d => (d.toNat, d.toNat)) false = .single '\n' := rfl
  rw [CharSet.allBut, has_negated_iff, hsingle, ← Bool.not_eq_true, has_single_iff]

def wordGroup (index : Nat) : Regex :=
  .group index (.ofList [.repeated (.one hexDigitSet) 8 (some 8) true])

@[simp] theorem matches_wordGroup_iff {index : Nat} :
    (wordGroup index).Matches before t after groups ↔ t.IsWord ∧ groups = [(index, t)] := by
  constructor
  · intro h
    rcases h with ⟨inner, rfl, hinner⟩
    rw [matches_ofList_singleton_iff, matches_repeated_one_iff] at hinner
    simp only [has_hexDigitSet] at hinner
    rcases hinner with ⟨hleast, hmost, hdigits, rfl⟩
    exact ⟨⟨le_antisymm (hmost 8 rfl) hleast, hdigits⟩, rfl⟩
  · intro h
    rcases h with ⟨hword, rfl⟩
    refine ⟨[], rfl, ?_⟩
    rw [matches_ofList_singleton_iff, matches_repeated_one_iff]
    simp only [has_hexDigitSet]
    exact ⟨hword.length.ge, by simp [hword.length], hword.digits, trivial⟩

def blanks (least : Nat) : Regex :=
  .repeated (.one Character.blankSet) least none true

@[simp] theorem matches_blanks_iff {least : Nat} :
    (blanks least).Matches before t after groups ↔
      least ≤ t.length ∧ (∀ c ∈ t, Text.isBlank c = true) ∧ groups = [] := by
  simp [blanks, matches_repeated_one_iff, has_blankSet]

def rest : Regex :=
  .repeated (.one (.allBut ['\n'])) 0 none true

@[simp] theorem matches_rest_iff :
    rest.Matches before t after groups ↔ '\n' ∉ t ∧ groups = [] := by
  simp only [rest, matches_repeated_one_iff, has_allBut_newline_iff]
  constructor
  · intro h
    rcases h with ⟨-, -, hall, rfl⟩
    exact ⟨fun hmem => hall '\n' hmem rfl, rfl⟩
  · intro h
    rcases h with ⟨hnone, rfl⟩
    exact ⟨Nat.zero_le _, by simp, fun c hc hnewline => hnone (hnewline ▸ hc), rfl⟩

end Regex

/-!
## Instruction lines
-/

namespace Instruction

open Regex

/-- An address and a colon, blanks, an encoding, blanks, and the rest of the line. -/
def pattern : Regex :=
  .ofList [.anchor .textStart, wordGroup 1, .one (.single ':'), blanks 1, wordGroup 2, blanks 1,
    .group 3 (.ofList [rest]), .anchor .textEnd]

theorem read_pattern :
    Rich.read? {} "^([0-9a-fA-F]\x7b8\x7d):\\s+([0-9a-fA-F]\x7b8\x7d)\\s+(.*)$".toList =
      some pattern := by
  decide +kernel

/-- What an instruction line says by the groups of the pattern, where each number is checked. -/
def ofGroups? (groups : Groups) : Option Instruction := do
  let address ← (← groups.lookup 1).number?
  let bits ← (← groups.lookup 2).number?
  some { word := address >>> 2, bits, comment := commentFrom (← groups.lookup 3) }

namespace Parts

def groups (parts : Parts) : Groups :=
  [(1, parts.address), (2, parts.encoding), (3, parts.rest)]

@[simp] theorem ofGroups?_groups (parts : Parts) : ofGroups? parts.groups = parts.instruction? :=
  rfl

end Parts

theorem matches_pattern_iff {before t after : Text} {groups : Groups} :
    pattern.Matches before t after groups ↔ before = [] ∧ after = [] ∧
      ∃ parts : Parts, parts.line = t ∧ parts.groups = groups := by
  constructor
  · intro h
    rcases h with
      ⟨_, _, _, _, rfl, rfl, hstart, address, _, _, _, rfl, rfl, haddress,
      _, _, _, _, rfl, rfl, hcolon, gap, _, _, _, rfl, rfl, hgap,
      encoding, _, _, _, rfl, rfl, hencoding, space, _, _, _, rfl, rfl, hspace,
      behind, _, _, _, rfl, rfl, ⟨_, rfl, hbehind⟩, hfinish⟩
    rcases matches_textStart_iff.mp hstart with ⟨rfl, rfl, rfl⟩
    rcases matches_wordGroup_iff.mp haddress with ⟨hisAddress, rfl⟩
    rcases matches_single_iff.mp hcolon with ⟨rfl, rfl⟩
    rcases matches_blanks_iff.mp hgap with ⟨hgapLength, hgapBlank, rfl⟩
    rcases matches_wordGroup_iff.mp hencoding with ⟨hisEncoding, rfl⟩
    rcases matches_blanks_iff.mp hspace with ⟨hspaceLength, hspaceBlank, rfl⟩
    rcases matches_rest_iff.mp (matches_ofList_singleton_iff.mp hbehind) with ⟨hsingle, rfl⟩
    rcases matches_textEnd_iff.mp (matches_ofList_singleton_iff.mp hfinish) with ⟨rfl, rfl, rfl⟩
    refine ⟨rfl, rfl, ⟨address, gap, encoding, space, behind, hisAddress,
      ⟨List.ne_nil_of_length_pos hgapLength, hgapBlank⟩, hisEncoding,
      ⟨List.ne_nil_of_length_pos hspaceLength, hspaceBlank⟩, hsingle⟩, ?_, rfl⟩
    simp [Parts.line]
  · intro h
    rcases h with ⟨rfl, rfl, parts, rfl, rfl⟩
    have hgap := parts.isBlanks_gap
    have hspace := parts.isBlanks_space
    have hline : parts.line = [] ++ (parts.address ++ ([':'] ++ (parts.gap ++ (parts.encoding ++
        (parts.space ++ (parts.rest ++ [])))))) := by
      simp [Parts.line]
    rw [hline]
    exact Matching.then_append [] (matches_textStart_iff.mpr ⟨rfl, rfl, rfl⟩) <|
      Matching.then_append [(1, parts.address)]
        (matches_wordGroup_iff.mpr ⟨parts.isWord_address, rfl⟩) <|
      Matching.then_append [] (matches_single_iff.mpr ⟨rfl, rfl⟩) <|
      Matching.then_append []
        (matches_blanks_iff.mpr ⟨List.length_pos_of_ne_nil hgap.ne_nil, hgap.blank, rfl⟩) <|
      Matching.then_append [(2, parts.encoding)]
        (matches_wordGroup_iff.mpr ⟨parts.isWord_encoding, rfl⟩) <|
      Matching.then_append []
        (matches_blanks_iff.mpr ⟨List.length_pos_of_ne_nil hspace.ne_nil, hspace.blank, rfl⟩) <|
      Matching.then_append [(3, parts.rest)]
        ⟨[], rfl, matches_ofList_singleton_iff.mpr (matches_rest_iff.mpr ⟨parts.single_rest, rfl⟩)⟩
        (matches_ofList_singleton_iff.mpr (matches_textEnd_iff.mpr ⟨rfl, rfl, rfl⟩))

theorem regular_pattern : pattern.Regular := by
  simp [pattern, ofList, wordGroup, blanks, rest, Regular]

/-- A line is read as what the groups say that the pattern matches in it. -/
theorem read?_eq_some_iff {line : Text} {i : Instruction} :
    read? line = some i ↔
      ∃ groups, pattern.Matches [] line [] groups ∧ ofGroups? groups = some i := by
  constructor
  · intro hread
    rcases exists_parts_of_read? hread with ⟨parts, rfl⟩
    rw [read?_line] at hread
    refine ⟨parts.groups, matches_pattern_iff.mpr ⟨rfl, rfl, parts, rfl, rfl⟩, ?_⟩
    rw [parts.ofGroups?_groups, parts.instruction?_eq, hread]
  · intro h
    rcases h with ⟨groups, hmatches, hgroups⟩
    rcases matches_pattern_iff.mp hmatches with ⟨-, -, parts, rfl, rfl⟩
    rw [parts.ofGroups?_groups, parts.instruction?_eq] at hgroups
    rw [read?_line, hgroups]

theorem occursIn_pattern (line : Text) : pattern.occursIn line = (read? line).isSome := by
  rw [Bool.eq_iff_iff, Option.isSome_iff_exists, occursIn_iff_of_whole regular_pattern]
  · constructor
    · intro h
      rcases h with ⟨groups, hmatches⟩
      rcases matches_pattern_iff.mp hmatches with ⟨-, -, parts, rfl, -⟩
      exact ⟨_, read?_line parts⟩
    · intro h
      rcases h with ⟨i, hread⟩
      rcases read?_eq_some_iff.mp hread with ⟨groups, hmatches, -⟩
      exact ⟨groups, hmatches⟩
  · intro before t after groups hmatches
    rcases matches_pattern_iff.mp hmatches with ⟨hbefore, hafter, -⟩
    exact ⟨hbefore, hafter⟩

end Instruction

/-!
## Rows
-/

namespace DumpRow

open Regex

def columnPattern (index : Nat) : List Regex :=
  [.one (.single ' '), wordGroup index]

def tailPattern : List Regex :=
  [.repeated (.ofList [blanks 2, rest]) 0 (some 1) true, .anchor .textEnd]

/-- Five groups of digits with single spaces between them, and what may follow them. -/
def pattern : Regex :=
  .ofList (.anchor .textStart :: wordGroup 1 ::
    ([2, 3, 4, 5].flatMap columnPattern ++ tailPattern))

theorem read_pattern :
    Rich.read? {} ("^([0-9a-fA-F]\x7b8\x7d) ([0-9a-fA-F]\x7b8\x7d) ".toList ++
      "([0-9a-fA-F]\x7b8\x7d) ([0-9a-fA-F]\x7b8\x7d) ([0-9a-fA-F]\x7b8\x7d)".toList ++
        "(?:\\s\x7b2,\x7d.*)?$".toList) = some pattern := by
  decide +kernel

theorem regular_pattern : pattern.Regular := by
  simp [pattern, columnPattern, tailPattern, ofList, wordGroup, blanks, rest, Regular]

theorem matches_columns_iff {before t after : Text} {groups : Groups} {indices : List Nat}
    {rs : List Regex} :
    (Regex.ofList (indices.flatMap columnPattern ++ rs)).Matches before t after groups ↔
      ∃ values tail others, values.length = indices.length ∧
        (∀ digits ∈ values, Text.IsWord digits) ∧ t = values.flatMap (' ' :: ·) ++ tail ∧
          groups = indices.zip values ++ others ∧
            (Regex.ofList rs).Matches (before ++ values.flatMap (' ' :: ·)) tail after others := by
  induction indices generalizing before t groups with
  | nil =>
      constructor
      · exact fun hmatches => ⟨[], t, groups, rfl, by simp, rfl, rfl, by simpa using hmatches⟩
      · intro h
        rcases h with ⟨values, tail, others, hlength, -, rfl, rfl, hmatches⟩
        rcases List.length_eq_zero_iff.mp hlength with rfl
        simpa using hmatches
  | cons index indices ih =>
      rw [List.flatMap_cons, List.append_assoc]
      constructor
      · intro h
        rcases h with
          ⟨_, _, _, _, rfl, rfl, hspace, digits, _, _, _, rfl, rfl, hdigits, hothers⟩
        rcases matches_single_iff.mp hspace with ⟨rfl, rfl⟩
        rcases matches_wordGroup_iff.mp hdigits with ⟨hisWord, rfl⟩
        rcases ih.mp hothers with ⟨values, tail, others, hlength, hwords, rfl, rfl, hmatches⟩
        refine ⟨digits :: values, tail, others, by simp [hlength],
          List.forall_mem_cons.mpr ⟨hisWord, hwords⟩, by simp, by simp, ?_⟩
        simpa using hmatches
      · intro h
        rcases h with ⟨values, tail, others, hlength, hwords, rfl, rfl, hmatches⟩
        rcases List.exists_cons_of_length_eq_add_one hlength with ⟨digits, values, rfl⟩
        rcases List.forall_mem_cons.mp hwords with ⟨hisWord, hwords⟩
        have hmatches : (Regex.ofList rs).Matches
            (before ++ [' '] ++ digits ++ values.flatMap (' ' :: ·)) tail after others := by
          simpa using hmatches
        have hothers := ih.mpr
          ⟨values, tail, others, Nat.succ.inj hlength, hwords, rfl, rfl, hmatches⟩
        have hcolumns := Matching.then_append [] (matches_single_iff.mpr ⟨rfl, rfl⟩)
          (Matching.then_append [(index, digits)] (matches_wordGroup_iff.mpr ⟨hisWord, rfl⟩)
            hothers)
        simpa [columnPattern, matches_ofList_cons] using hcolumns

theorem matches_tail_iff {before t after : Text} {groups : Groups} :
    (Regex.ofList tailPattern).Matches before t after groups ↔
      after = [] ∧ IsTail t ∧ groups = [] := by
  rw [tailPattern, matches_ofList_cons]
  constructor
  · intro h
    rcases h with ⟨u, v, _, _, rfl, rfl, htail, hfinish⟩
    rcases matches_textEnd_iff.mp (matches_ofList_singleton_iff.mp hfinish) with ⟨rfl, rfl, rfl⟩
    rw [List.append_nil, List.append_nil]
    rcases matches_optional_iff.mp htail with ⟨rfl, rfl⟩ |
      ⟨space, behind, _, _, rfl, rfl, hspace, hbehind⟩
    · exact ⟨rfl, Or.inl rfl, rfl⟩
    · rcases matches_blanks_iff.mp hspace with ⟨hlength, hblank, rfl⟩
      rcases matches_rest_iff.mp (matches_ofList_singleton_iff.mp hbehind) with ⟨hnewline, rfl⟩
      exact ⟨rfl, Or.inr ⟨space, behind, rfl, hlength, hblank, hnewline⟩, rfl⟩
  · intro h
    rcases h with ⟨rfl, htail, rfl⟩
    rw [← List.append_nil t]
    refine Matching.then_append [] (matches_optional_iff.mpr ?_)
      (matches_ofList_singleton_iff.mpr (matches_textEnd_iff.mpr ⟨rfl, rfl, rfl⟩))
    rcases htail with rfl | ⟨space, behind, rfl, hlength, hblank, hnewline⟩
    · exact Or.inl ⟨rfl, rfl⟩
    · exact Or.inr (Matching.then_append [] (matches_blanks_iff.mpr ⟨hlength, hblank, rfl⟩)
        (matches_ofList_singleton_iff.mpr (matches_rest_iff.mpr ⟨hnewline, rfl⟩)))

namespace Parts

def groups (parts : Parts) : Groups :=
  [1, 2, 3, 4, 5].zip (List.ofFn parts.group)

theorem groups_eq (parts : Parts) :
    parts.groups = (1, parts.group 0) :: [2, 3, 4, 5].zip parts.values :=
  rfl

@[simp] theorem lookup_groups (parts : Parts) (place : Fin 5) :
    parts.groups.lookup ((place : Nat) + 1) = some (parts.group place) := by
  fin_cases place <;> rfl

end Parts

theorem matches_pattern_iff {before t after : Text} {groups : Groups} :
    pattern.Matches before t after groups ↔ before = [] ∧ after = [] ∧
      ∃ parts : Parts, parts.line = t ∧ parts.groups = groups := by
  constructor
  · intro h
    rcases h with
      ⟨_, _, _, _, rfl, rfl, hstart, address, _, _, _, rfl, rfl, haddress, hcolumns⟩
    rcases matches_textStart_iff.mp hstart with ⟨rfl, rfl, rfl⟩
    rcases matches_wordGroup_iff.mp haddress with ⟨hisAddress, rfl⟩
    rcases matches_columns_iff.mp hcolumns with ⟨values, tail, _, hlength, hwords, rfl, rfl, htail⟩
    rcases matches_tail_iff.mp htail with ⟨rfl, hisTail, rfl⟩
    rcases Parts.exists_of_values hisAddress hlength hwords hisTail with ⟨parts, rfl, rfl, rfl⟩
    exact ⟨rfl, rfl, parts, by simp [Parts.line_eq], by simp [Parts.groups_eq]⟩
  · intro h
    rcases h with ⟨rfl, rfl, parts, rfl, rfl⟩
    have hcolumns : (Regex.ofList ([2, 3, 4, 5].flatMap columnPattern ++ tailPattern)).Matches
        ([] ++ [] ++ parts.group 0) (parts.values.flatMap (' ' :: ·) ++ parts.tail) []
        ([2, 3, 4, 5].zip parts.values ++ []) :=
      matches_columns_iff.mpr ⟨parts.values, parts.tail, [], rfl, parts.isWord_values, rfl, rfl,
        matches_tail_iff.mpr ⟨rfl, parts.isTail_tail, rfl⟩⟩
    have hpattern := Matching.then_append [] (matches_textStart_iff.mpr ⟨rfl, rfl, rfl⟩)
      (Matching.then_append [(1, parts.group 0)]
        (matches_wordGroup_iff.mpr ⟨parts.isWord_group 0, rfl⟩) hcolumns)
    simpa [pattern, matches_ofList_cons, Parts.line_eq, Parts.groups_eq] using hpattern

/-- What a row says by the groups of the pattern, where each number and index is checked. -/
def wordsOf? (groups : Groups) : Option (List DataWord) := do
  let start := (← (← groups.lookup 1).number?) >>> 2
  (List.finRange 4).mapM fun place : Fin 4 => do
    let word ← sum? start (BitVec.ofNat 32 place)
    let value ← (← groups.lookup ((place : Nat) + 2)).number?
    some { word, value }

theorem Parts.wordsOf?_groups (parts : Parts) : wordsOf? parts.groups = parts.words? := by
  have hstart : parts.groups.lookup 1 = some (parts.group 0) := parts.lookup_groups 0
  have hvalue : ∀ place : Fin 4,
      parts.groups.lookup ((place : Nat) + 2) = some (parts.group place.succ) :=
    fun place => parts.lookup_groups place.succ
  unfold wordsOf? words? word?
  simp only [hstart, hvalue, (parts.isWord_group 0).number?_eq, Option.bind_eq_bind,
    Option.bind_some]

/-- The words of a line are what the groups say that the pattern matches in it. -/
theorem words_read?_eq_some_iff {line : Text} {words : List DataWord} :
    (read? line).map DumpRow.words = some words ↔
      ∃ groups, pattern.Matches [] line [] groups ∧ wordsOf? groups = some words := by
  constructor
  · intro hread
    rcases Option.map_eq_some_iff.mp hread with ⟨r, hr, rfl⟩
    rcases exists_parts_of_read? hr with ⟨parts, rfl⟩
    rw [read?_line] at hr
    cases hr
    refine ⟨parts.groups, matches_pattern_iff.mpr ⟨rfl, rfl, parts, rfl, rfl⟩, ?_⟩
    rw [parts.wordsOf?_groups, parts.words?_eq]
  · intro h
    rcases h with ⟨groups, hmatches, hgroups⟩
    rcases matches_pattern_iff.mp hmatches with ⟨-, -, parts, rfl, rfl⟩
    rw [parts.wordsOf?_groups, parts.words?_eq] at hgroups
    rw [read?_line, Option.map_some, hgroups]

theorem occursIn_pattern (line : Text) : pattern.occursIn line = (read? line).isSome := by
  rw [Bool.eq_iff_iff, Option.isSome_iff_exists, occursIn_iff_of_whole regular_pattern]
  · constructor
    · intro h
      rcases h with ⟨groups, hmatches⟩
      rcases matches_pattern_iff.mp hmatches with ⟨-, -, parts, rfl, -⟩
      exact ⟨_, read?_line parts⟩
    · intro h
      rcases h with ⟨r, hread⟩
      rcases exists_parts_of_read? hread with ⟨parts, rfl⟩
      exact ⟨_, matches_pattern_iff.mpr ⟨rfl, rfl, parts, rfl, rfl⟩⟩
  · intro before t after groups hmatches
    rcases matches_pattern_iff.mp hmatches with ⟨hbefore, hafter, -⟩
    exact ⟨hbefore, hafter⟩

end DumpRow

end Imprint
