import Imprint.Path

/-!
# Pieces of paths

A path is its pieces with slashes between them.  An entry of a directory adds
one piece to those of the directory, and the components that are left when the
last ones are dropped spell a path out of bytes of the whole one, in order.
-/

namespace Imprint

/-!
## Cutting
-/

section

variable {α : Type} [DecidableEq α] {separator : α}

theorem cutAt_ne_nil (l : List α) : cutAt separator l ≠ [] := by
  cases l with
  | nil =>
      simp [cutAt]
  | cons x rest =>
      unfold cutAt
      split
      · simp
      · split <;> simp

@[simp] theorem cutAt_separator (l : List α) :
    cutAt separator (separator :: l) = [] :: cutAt separator l := by
  simp [cutAt]

theorem cutAt_cons_of_ne {x : α} (hx : x ≠ separator) {l piece : List α}
    {others : List (List α)} (hl : cutAt separator l = piece :: others) :
    cutAt separator (x :: l) = (x :: piece) :: others := by
  simp [cutAt, hx, hl]

theorem cutAt_append (first second : List α) :
    cutAt separator (first ++ separator :: second) =
      cutAt separator first ++ cutAt separator second := by
  induction first with
  | nil =>
      exact cutAt_separator second
  | cons x rest ih =>
      by_cases hx : x = separator
      · subst hx
        rw [List.cons_append, cutAt_separator, cutAt_separator, ih, List.cons_append]
      · cases hrest : cutAt separator rest with
        | nil =>
            exact absurd hrest (cutAt_ne_nil rest)
        | cons piece others =>
            rw [hrest, List.cons_append] at ih
            rw [List.cons_append, cutAt_cons_of_ne hx ih, cutAt_cons_of_ne hx hrest,
              List.cons_append]

theorem cutAt_of_not_mem {l : List α} (hl : separator ∉ l) : cutAt separator l = [l] := by
  induction l with
  | nil =>
      rfl
  | cons x rest ih =>
      have hx : x ≠ separator := fun h => hl (by simp [h])
      have hrest : separator ∉ rest := fun h => hl (List.mem_cons_of_mem _ h)
      exact cutAt_cons_of_ne hx (ih hrest)

theorem not_mem_of_mem_cutAt {l piece : List α} (hpiece : piece ∈ cutAt separator l) :
    separator ∉ piece := by
  induction l generalizing piece with
  | nil =>
      simp only [cutAt, List.mem_singleton] at hpiece
      simp [hpiece]
  | cons x rest ih =>
      by_cases hx : x = separator
      · subst hx
        rw [cutAt_separator] at hpiece
        rcases List.mem_cons.mp hpiece with rfl | hrest
        · simp
        · exact ih hrest
      · cases hrest : cutAt separator rest with
        | nil =>
            exact absurd hrest (cutAt_ne_nil rest)
        | cons first others =>
            rw [hrest] at ih
            rw [cutAt_cons_of_ne hx hrest] at hpiece
            rcases List.mem_cons.mp hpiece with rfl | hothers
            · intro hmem
              rcases List.mem_cons.mp hmem with heq | hfirst
              · exact hx heq.symm
              · exact ih List.mem_cons_self hfirst
            · exact ih (List.mem_cons_of_mem _ hothers)

@[simp] theorem length_cutAt (l : List α) : (cutAt separator l).length = l.count separator + 1 := by
  induction l with
  | nil =>
      rfl
  | cons x rest ih =>
      by_cases hx : x = separator
      · subst hx
        rw [cutAt_separator, List.length_cons, ih, List.count_cons_self]
      · cases hrest : cutAt separator rest with
        | nil =>
            exact absurd hrest (cutAt_ne_nil rest)
        | cons piece others =>
            rw [hrest] at ih
            rw [cutAt_cons_of_ne hx hrest, List.count_cons_of_ne hx, ← ih]
            rfl

theorem eq_flatMap_of_cutAt {l piece : List α} {others : List (List α)}
    (hl : cutAt separator l = piece :: others) :
    l = piece ++ others.flatMap (separator :: ·) := by
  induction l generalizing piece others with
  | nil =>
      cases hl
      rfl
  | cons x rest ih =>
      by_cases hx : x = separator
      · subst hx
        rw [cutAt_separator] at hl
        injection hl with hpiece hothers
        cases hrest : cutAt x rest with
        | nil =>
            exact absurd hrest (cutAt_ne_nil rest)
        | cons first more =>
            rw [← hpiece, ← hothers, hrest, ih hrest]
            simp
      · cases hrest : cutAt separator rest with
        | nil =>
            exact absurd hrest (cutAt_ne_nil rest)
        | cons first more =>
            rw [cutAt_cons_of_ne hx hrest] at hl
            injection hl with hpiece hothers
            rw [← hpiece, ← hothers, ih hrest]
            rfl

theorem cutAt_map {β : Type} [DecidableEq β] {other : β} {f : List α → List β}
    (hparts : ∀ first second, f (first ++ separator :: second) = f first ++ other :: f second)
    (hpiece : ∀ piece, separator ∉ piece → other ∉ f piece) (l : List α) :
    cutAt other (f l) = (cutAt separator l).map f := by
  induction hlength : l.length using Nat.strongRecOn generalizing l with
  | ind length ih =>
      by_cases hmem : separator ∈ l
      · obtain ⟨piece, rest, rfl, hnone⟩ := List.eq_append_cons_of_mem hmem
        have hrest : rest.length < length := by
          rw [← hlength, List.length_append, List.length_cons]
          omega
        rw [hparts, cutAt_append, cutAt_append, cutAt_of_not_mem (hpiece piece hnone),
          cutAt_of_not_mem hnone, ih rest.length hrest rest rfl]
        rfl
      · rw [cutAt_of_not_mem hmem, cutAt_of_not_mem (hpiece l hmem)]
        rfl

end

namespace Path

/-!
## Entries of a directory
-/

theorem pieces_ne_nil (p : Path) : p.pieces ≠ [] :=
  cutAt_ne_nil p.bytes

theorem not_mem_of_mem_pieces {p : Path} {piece : Bytes} (hpiece : piece ∈ p.pieces) :
    slash ∉ piece :=
  not_mem_of_mem_cutAt hpiece

/-- The pieces of an entry's path: its name behind the pieces of the directory, less an
empty piece at their end. -/
theorem pieces_child (dir : Path) {name : Bytes} (hname : slash ∉ name) :
    (dir.bytes = [] ∧ (dir.child name).pieces = [name]) ∨
      (∃ front, dir.pieces = front ++ [[]] ∧ (dir.child name).pieces = front ++ [name]) ∨
      (dir.child name).pieces = dir.pieces ++ [name] := by
  have hpieces := cutAt_of_not_mem hname
  by_cases hempty : dir.bytes = []
  · left
    refine ⟨hempty, ?_⟩
    simp [child, pieces, hempty, hpieces]
  · right
    by_cases hlast : dir.bytes.getLast? = some slash
    · left
      obtain ⟨front, hfront⟩ := List.getLast?_eq_some_iff.mp hlast
      refine ⟨cutAt slash front, ?_, ?_⟩
      · rw [pieces, hfront, cutAt_append]
        rfl
      · have hbytes : (dir.child name).bytes = front ++ slash :: name := by
          simp [child, hfront]
        rw [pieces, hbytes, cutAt_append, hpieces]
    · right
      have hbytes : (dir.child name).bytes = dir.bytes ++ slash :: name := by
        simp [child, hempty, hlast]
      rw [pieces, hbytes, cutAt_append, hpieces, pieces]

theorem isAbsolute_child {dir : Path} {name : Bytes} (hname : slash ∉ name) :
    (dir.child name).isAbsolute = dir.isAbsolute := by
  cases hdir : dir.bytes with
  | nil =>
      cases name with
      | nil =>
          simp [child, isAbsolute, hdir]
      | cons b rest =>
          have hb : b ≠ slash := fun h => hname (by simp [h])
          simp [child, isAbsolute, hdir, hb]
  | cons b rest =>
      unfold child
      split <;> simp [isAbsolute, hdir]

theorem child_injective {dir : Path} {name other : Bytes}
    (heq : dir.child name = dir.child other) : name = other := by
  unfold child at heq
  split at heq
  · simpa using heq
  · simpa using heq

theorem prefix_child (dir : Path) (name : Bytes) : dir.bytes <+: (dir.child name).bytes := by
  unfold child
  split
  · exact List.prefix_append _ _
  · exact List.prefix_append _ _

theorem bytes_child_sublist (dir : Path) (name : Bytes) :
    (dir.child name).bytes.Sublist (dir.bytes ++ slash :: name) := by
  unfold child
  split
  · exact List.Sublist.append_left (List.sublist_cons_self slash name) dir.bytes
  · exact List.Sublist.refl _

theorem length_le_child (dir : Path) (name : Bytes) :
    dir.bytes.length + name.length ≤ (dir.child name).bytes.length := by
  unfold child
  split
  · simp
  · simp

theorem bytes_child_of_trailing {dir : Path} {name : Bytes}
    (hdir : dir.bytes = [] ∨ dir.bytes.getLast? = some slash) :
    (dir.child name).bytes = dir.bytes ++ name := by
  rw [child, if_pos hdir]

theorem bytes_child_cases (dir : Path) (name : Bytes) :
    (dir.child name).bytes = name ∨
      ∃ front, (dir.child name).bytes = front ++ slash :: name := by
  unfold child
  split
  · rename_i hdir
    rcases hdir with hempty | hlast
    · left
      rw [hempty, List.nil_append]
    · right
      obtain ⟨front, hfront⟩ := List.getLast?_eq_some_iff.mp hlast
      refine ⟨front, ?_⟩
      rw [hfront, List.append_assoc]
      rfl
  · exact Or.inr ⟨dir.bytes, rfl⟩

theorem origin_child (dir : Path) {name : Bytes} (hslash : slash ∉ name) (hdot : name ≠ [dot]) :
    (dir.child name).origin = dir.origin := by
  have hhead : (dir.child name).pieces.head? = some [dot] ↔ dir.pieces.head? = some [dot] := by
    rcases pieces_child dir hslash with ⟨hempty, hchild⟩ | ⟨front, hdir, hchild⟩ | hchild
    · have hdir : dir.pieces = [[]] := by simp [pieces, hempty, cutAt]
      simp [hchild, hdir, hdot]
    · cases front with
      | nil => simp [hdir, hchild, hdot]
      | cons piece front => simp [hdir, hchild]
    · cases hpieces : dir.pieces with
      | nil => exact absurd hpieces (pieces_ne_nil dir)
      | cons piece others => simp [hchild, hpieces]
  rw [origin, origin, isAbsolute_child hslash]
  simp only [hhead]

theorem components_child (dir : Path) {name : Bytes} {component : Component} (hslash : slash ∉ name)
    (hname : componentOf? name = some component) :
    (dir.child name).components = dir.components ++ [component] := by
  have hdot : name ≠ [dot] := by
    rintro rfl
    cases hname
  have hpieces : (dir.child name).pieces.filterMap componentOf? =
      dir.pieces.filterMap componentOf? ++ [component] := by
    rcases pieces_child dir hslash with ⟨hempty, hchild⟩ | ⟨front, hdir, hchild⟩ | hchild
    · have hdir : dir.pieces = [[]] := by simp [pieces, hempty, cutAt]
      rw [hchild, hdir, List.filterMap_cons_some hname]
      rfl
    · rw [hdir, hchild, List.filterMap_append, List.filterMap_append,
        List.filterMap_cons_some hname]
      simp [componentOf?]
    · rw [hchild, List.filterMap_append, List.filterMap_cons_some hname]
      rfl
  rw [components, components, origin_child dir hslash hdot, hpieces, List.append_assoc]

/-!
## Ancestors
-/

def descend (start : Path) (names : List Bytes) : Path :=
  names.foldl child start

theorem prefix_descend (start : Path) (names : List Bytes) :
    start.bytes <+: (start.descend names).bytes := by
  induction names generalizing start with
  | nil =>
      exact List.prefix_rfl
  | cons name rest ih =>
      exact (prefix_child start name).trans (ih (start.child name))

theorem prefix_descend_append (start : Path) (names others : List Bytes) :
    (start.descend names).bytes <+: (start.descend (names ++ others)).bytes := by
  rw [descend, descend, List.foldl_append]
  exact prefix_descend _ others

theorem isAbsolute_descend {start : Path} {names : List Bytes}
    (hnames : ∀ name ∈ names, slash ∉ name) :
    (start.descend names).isAbsolute = start.isAbsolute := by
  induction names generalizing start with
  | nil =>
      rfl
  | cons name rest ih =>
      have hrest := fun other hother => hnames other (List.mem_cons_of_mem _ hother)
      rw [descend, List.foldl_cons, ← descend, ih hrest,
        isAbsolute_child (hnames name List.mem_cons_self)]

def counts (piece : Bytes) : Bool :=
  (componentOf? piece).isSome

def counted (p : Path) : List Bytes :=
  p.pieces.filter counts

def start (p : Path) : Path :=
  ofComponents p.origin

theorem slash_not_mem_counted {p : Path} {piece : Bytes} (hpiece : piece ∈ p.counted) :
    slash ∉ piece :=
  not_mem_of_mem_pieces (List.mem_filter.mp hpiece).1

theorem ne_nil_of_counts {piece : Bytes} (hpiece : counts piece = true) : piece ≠ [] := by
  rintro rfl
  cases hpiece

theorem origin_cases (p : Path) : p.origin = [.root] ∨ p.origin = [.here] ∨ p.origin = [] := by
  unfold origin
  split
  · exact Or.inl rfl
  · split
    · exact Or.inr (Or.inl rfl)
    · exact Or.inr (Or.inr rfl)

def Component.ofPiece (piece : Bytes) : Component :=
  if piece = [dot, dot] then .parent else .name piece

theorem componentOf?_of_counts {piece : Bytes} (hpiece : counts piece = true) :
    componentOf? piece = some (Component.ofPiece piece) := by
  by_cases hnone : piece = [] ∨ piece = [dot]
  · simp [counts, componentOf?, hnone] at hpiece
  · rw [componentOf?, if_neg hnone, Component.ofPiece]
    split <;> rfl

theorem components_eq (p : Path) :
    p.components = p.origin ++ p.counted.map Component.ofPiece := by
  rw [components, counted]
  congr 1
  induction p.pieces with
  | nil =>
      rfl
  | cons piece rest ih =>
      by_cases hcounts : counts piece = true
      · rw [List.filterMap_cons_some (componentOf?_of_counts hcounts),
          List.filter_cons_of_pos hcounts, List.map_cons, ih]
      · have hpiece : componentOf? piece = none := by simpa [counts] using hcounts
        rw [List.filterMap_cons_none hpiece, List.filter_cons_of_neg hcounts, ih]

theorem ofComponents_concat (components : List Component) (piece : Bytes) :
    ofComponents (components ++ [Component.ofPiece piece]) =
      (ofComponents components).child piece := by
  rw [ofComponents, List.foldl_append, ← ofComponents, List.foldl_cons, List.foldl_nil]
  by_cases hparent : piece = [dot, dot]
  · rw [hparent]
    rfl
  · rw [Component.ofPiece, if_neg hparent]

theorem ofComponents_append (components : List Component) (names : List Bytes) :
    ofComponents (components ++ names.map Component.ofPiece) =
      (ofComponents components).descend names := by
  induction names generalizing components with
  | nil =>
      rw [List.map_nil, List.append_nil]
      rfl
  | cons name rest ih =>
      rw [List.map_cons, List.append_cons, ih, ofComponents_concat]
      rfl

@[simp] theorem components_start (p : Path) : p.start.components = p.origin := by
  unfold start
  rcases origin_cases p with horigin | horigin | horigin <;> rw [horigin] <;> rfl

theorem components_descend (start : Path) {names : List Bytes}
    (hnames : ∀ name ∈ names, slash ∉ name ∧ counts name = true) :
    (start.descend names).components = start.components ++ names.map Component.ofPiece := by
  induction names generalizing start with
  | nil =>
      rw [List.map_nil, List.append_nil]
      rfl
  | cons name rest ih =>
      obtain ⟨hslash, hcounts⟩ := hnames name List.mem_cons_self
      have hrest := ih (start.child name) fun other hother =>
        hnames other (List.mem_cons_of_mem name hother)
      rw [descend, List.foldl_cons, ← descend, hrest,
        components_child start hslash (componentOf?_of_counts hcounts), List.map_cons,
        List.append_assoc]
      rfl

theorem components_ofComponents (p : Path) :
    (ofComponents p.components).components = p.components := by
  have hcounted : ∀ name ∈ p.counted, slash ∉ name ∧ counts name = true := fun name hname =>
    ⟨slash_not_mem_counted hname, (List.mem_filter.mp hname).2⟩
  rw [components_eq p, ofComponents_append, ← start, components_descend _ hcounted,
    components_start]

theorem ofComponents_take {p : Path} {count : Nat} (hcount : p.origin.length ≤ count) :
    ofComponents (p.components.take count) =
      p.start.descend (p.counted.take (count - p.origin.length)) := by
  rw [components_eq, List.take_append, List.take_of_length_le hcount, ← List.map_take,
    ofComponents_append, start]

theorem descend_sublist (start : Path) (pieces : List Bytes) :
    (start.descend (pieces.filter counts)).bytes.Sublist
      (start.bytes ++ pieces.flatMap (slash :: ·)) := by
  induction pieces generalizing start with
  | nil =>
      rw [List.flatMap_nil, List.append_nil]
      exact List.Sublist.refl _
  | cons piece rest ih =>
      rw [List.flatMap_cons, ← List.append_assoc]
      by_cases hpiece : counts piece = true
      · rw [List.filter_cons_of_pos hpiece]
        exact (ih (start.child piece)).trans
          ((bytes_child_sublist start piece).append_right _)
      · rw [List.filter_cons_of_neg hpiece]
        exact (ih start).trans ((List.sublist_append_left _ _).append_right _)

theorem descend_sublist_of_trailing {start : Path}
    (hstart : start.bytes = [] ∨ start.bytes.getLast? = some slash)
    (piece : Bytes) (others : List Bytes) :
    (start.descend ((piece :: others).filter counts)).bytes.Sublist
      (start.bytes ++ (piece ++ others.flatMap (slash :: ·))) := by
  induction others generalizing piece with
  | nil =>
      by_cases hpiece : counts piece = true
      · rw [List.filter_cons_of_pos hpiece, List.filter_nil, List.flatMap_nil, List.append_nil,
          ← bytes_child_of_trailing hstart]
        exact List.Sublist.refl _
      · rw [List.filter_cons_of_neg hpiece]
        exact List.sublist_append_left _ _
  | cons next others ih =>
      by_cases hpiece : counts piece = true
      · rw [List.filter_cons_of_pos hpiece, ← List.append_assoc,
          ← bytes_child_of_trailing hstart]
        exact descend_sublist (start.child piece) (next :: others)
      · rw [List.filter_cons_of_neg hpiece, List.flatMap_cons, List.cons_append]
        refine (ih next).trans (List.Sublist.append_left ?_ start.bytes)
        exact (List.sublist_cons_self slash _).trans (List.sublist_append_right piece _)

theorem start_cases (p : Path) :
    (p.isAbsolute = true ∧ p.origin.length = 1 ∧ p.start.bytes = [slash] ∧
        p.pieces.head? = some []) ∨
      (p.isAbsolute = false ∧ p.origin.length = 1 ∧ p.start.bytes = [dot] ∧
        p.pieces.head? = some [dot]) ∨
      (p.isAbsolute = false ∧ p.origin.length = 0 ∧ p.start.bytes = []) := by
  by_cases habsolute : p.isAbsolute = true
  · left
    have horigin : p.origin = [.root] := by rw [origin, if_pos habsolute]
    refine ⟨habsolute, by rw [horigin]; rfl, by rw [start, horigin]; rfl, ?_⟩
    cases hbytes : p.bytes with
    | nil =>
        simp [isAbsolute, hbytes] at habsolute
    | cons b rest =>
        have hb : b = slash := by simpa [isAbsolute, hbytes] using habsolute
        rw [pieces, hbytes, hb, cutAt_separator]
        rfl
  · right
    have hrelative : p.isAbsolute = false := by simpa using habsolute
    by_cases hdot : p.pieces.head? = some [dot]
    · left
      have horigin : p.origin = [.here] := by rw [origin, if_neg habsolute, if_pos hdot]
      exact ⟨hrelative, by rw [horigin]; rfl, by rw [start, horigin]; rfl, hdot⟩
    · right
      have horigin : p.origin = [] := by rw [origin, if_neg habsolute, if_neg hdot]
      exact ⟨hrelative, by rw [horigin]; rfl, by rw [start, horigin]; rfl⟩

theorem length_origin_le (p : Path) : p.origin.length ≤ 1 := by
  rcases start_cases p with ⟨-, horigin, -⟩ | ⟨-, horigin, -⟩ | ⟨-, horigin, -⟩
  · exact Nat.le_of_eq horigin
  · exact Nat.le_of_eq horigin
  · rw [horigin]
    exact Nat.zero_le 1

@[simp] theorem isAbsolute_start (p : Path) : p.start.isAbsolute = p.isAbsolute := by
  rcases start_cases p with ⟨habsolute, -, hstart, -⟩ | ⟨hrelative, -, hstart, -⟩ |
    ⟨hrelative, -, hstart⟩
  · rw [habsolute, isAbsolute, hstart]
    rfl
  · rw [hrelative, isAbsolute, hstart]
    rfl
  · rw [hrelative, isAbsolute, hstart]
    rfl

theorem descend_counted_sublist (p : Path) :
    (p.start.descend p.counted).bytes.Sublist p.bytes := by
  rw [counted]
  cases hpieces : p.pieces with
  | nil =>
      exact absurd hpieces (pieces_ne_nil p)
  | cons piece others =>
      have hbytes := eq_flatMap_of_cutAt hpieces
      rcases start_cases p with ⟨habsolute, -, hstart, hhead⟩ | ⟨-, -, hstart, hhead⟩ |
        ⟨-, -, hstart⟩
      · rw [hpieces] at hhead
        cases hhead
        rw [List.filter_cons_of_neg (by simp [counts, componentOf?]), hbytes, List.nil_append]
        cases others with
        | nil =>
            rw [isAbsolute, hbytes] at habsolute
            cases habsolute
        | cons next others =>
            have hlast : p.start.bytes.getLast? = some slash := by
              rw [hstart]
              rfl
            have hsublist := descend_sublist_of_trailing (Or.inr hlast) next others
            rw [hstart] at hsublist
            exact hsublist
      · rw [hpieces] at hhead
        cases hhead
        have hsublist := descend_sublist p.start others
        rw [hstart, ← hbytes] at hsublist
        rw [List.filter_cons_of_neg (by simp [counts, componentOf?])]
        exact hsublist
      · have hsublist := descend_sublist_of_trailing (Or.inl hstart) piece others
        rw [hstart, List.nil_append, ← hbytes] at hsublist
        exact hsublist

theorem descend_take_sublist (p : Path) (count : Nat) :
    (p.start.descend (p.counted.take count)).bytes.Sublist p.bytes := by
  have hbegins := prefix_descend_append p.start (p.counted.take count) (p.counted.drop count)
  rw [List.take_append_drop] at hbegins
  exact hbegins.sublist.trans (descend_counted_sublist p)

theorem descend_take_ne_nil {p : Path} {count : Nat} (hcount : 0 < count)
    (hlength : count ≤ p.components.length) :
    (p.start.descend (p.counted.take (count - p.origin.length))).bytes ≠ [] := by
  intro hempty
  have hbegins := prefix_descend p.start (p.counted.take (count - p.origin.length))
  rw [hempty, List.prefix_nil] at hbegins
  rcases start_cases p with ⟨-, -, hstart, -⟩ | ⟨-, -, hstart, -⟩ | ⟨-, horigin, hstart⟩
  · rw [hstart] at hbegins
    cases hbegins
  · rw [hstart] at hbegins
    cases hbegins
  · rw [components_eq, List.length_append, List.length_map, horigin, Nat.zero_add] at hlength
    rw [horigin, Nat.sub_zero] at hempty
    cases hcounted : p.counted with
    | nil =>
        rw [hcounted] at hlength
        exact absurd hlength (Nat.not_le.mpr hcount)
    | cons piece rest =>
        have hpiece : counts piece = true :=
          (List.mem_filter.mp (show piece ∈ p.counted by simp [hcounted])).2
        obtain ⟨before, rfl⟩ := Nat.exists_eq_succ_of_ne_zero (Nat.ne_of_gt hcount)
        have hfirst := prefix_descend (p.start.child piece) (rest.take before)
        rw [hcounted, List.take_succ_cons] at hempty
        rw [show (p.start.child piece).descend (rest.take before) =
          p.start.descend (piece :: rest.take before) from rfl, hempty, List.prefix_nil,
          bytes_child_of_trailing (Or.inl hstart), hstart, List.nil_append] at hfirst
        exact ne_nil_of_counts hpiece hfirst

/-!
## File names
-/

theorem slash_not_mem_fileName? {p : Path} {name : Bytes} (hname : p.fileName? = some name) :
    slash ∉ name := by
  unfold fileName? at hname
  split at hname
  · rename_i bytes hlast
    cases hname
    have hmem := List.mem_of_getLast? hlast
    rw [components_eq, List.mem_append] at hmem
    rcases hmem with hfirst | hcounted
    · rcases origin_cases p with horigin | horigin | horigin
      · simp [horigin] at hfirst
      · simp [horigin] at hfirst
      · simp [horigin] at hfirst
    · obtain ⟨piece, hpiece, hcomponent⟩ := List.mem_map.mp hcounted
      unfold Component.ofPiece at hcomponent
      split at hcomponent
      · cases hcomponent
      · cases hcomponent
        exact slash_not_mem_counted hpiece
  · cases hname

theorem fileName?_eq (p : Path) :
    p.fileName? = p.counted.getLast?.filter fun piece => decide (piece ≠ [dot, dot]) := by
  unfold fileName?
  rw [components_eq, List.getLast?_append, List.getLast?_map]
  cases p.counted.getLast? with
  | none =>
      rcases origin_cases p with horigin | horigin | horigin <;> rw [horigin] <;> rfl
  | some piece =>
      by_cases hparent : piece = [dot, dot]
      · rw [hparent]
        rfl
      · simp [Component.ofPiece, Option.filter, hparent]

theorem fileName?_of_pieces {p : Path} (front : List Bytes) {name : Bytes}
    (hpieces : p.pieces = front ++ [name]) (hname : componentOf? name = some (.name name)) :
    p.fileName? = some name := by
  unfold fileName? components
  rw [hpieces, List.filterMap_append, List.filterMap_cons_some hname, List.filterMap_nil,
    ← List.append_assoc, List.getLast?_concat]

/-!
## Order
-/

@[simp] theorem Component.lt_irrefl (c : Component) : c.lt c = false := by
  simp [Component.lt]

@[simp] theorem lex_append (front first second : List Component) :
    (front ++ first).lex (front ++ second) Component.lt = first.lex second Component.lt := by
  induction front with
  | nil => rfl
  | cons c front ih => simp [Component.lt_irrefl, ih]

theorem le_child_iff (dir : Path) {name other : Bytes} (hslash : slash ∉ name)
    (hname : componentOf? name = some (.name name)) (hslash' : slash ∉ other)
    (hother : componentOf? other = some (.name other)) :
    le (dir.child name) (dir.child other) = true ↔ name ≤ other := by
  have hlt : (Component.name other).lt (Component.name name) = true ↔ other < name :=
    decide_eq_true_iff
  rw [le, components_child dir hslash hname, components_child dir hslash' hother, lex_append,
    ← List.not_lt, ← hlt]
  simp [List.lex]

end Path

end Imprint
