import Imprint.Proofs.Store.Reach

/-!
# Making directories again

Without symbolic links, a path that leads to a directory has all its ancestors lead to
directories, and a directory can only be made where the path that it lies in
leads to one.  So making directories settles the matter: made again, they are
there or refused as before, and nothing more is added.
-/

namespace Imprint

/-!
## Moves of ancestors
-/

namespace Step

@[simp] theorem isMove_ofPiece (piece : Bytes) : (ofPiece piece).isMove = Path.counts piece := by
  unfold ofPiece Path.counts Path.componentOf?
  by_cases hempty : piece = []
  · simp [hempty, isMove]
  · by_cases hdot : piece = [Path.dot]
    · simp [hdot, isMove]
    · by_cases hdots : piece = [Path.dot, Path.dot]
      · simp [hdots, isMove]
      · simp [hempty, hdot, hdots, isMove]

end Step

namespace Path

theorem moves_eq (p : Path) : p.moves = p.counted.map Step.ofPiece := by
  rw [moves, steps, counted, List.filter_map]
  congr 2
  funext piece
  exact Step.isMove_ofPiece piece

theorem moves_child (dir : Path) {name : Bytes} (hslash : slash ∉ name)
    (hname : counts name = true) :
    (dir.child name).moves = dir.moves ++ [Step.ofPiece name] := by
  rw [moves_eq, moves_eq, counted, counted]
  rcases pieces_child dir hslash with ⟨hempty, hchild⟩ | ⟨front, hdir, hchild⟩ | hchild
  · have hdir : dir.pieces = [[]] := by simp [pieces, hempty, cutAt]
    rw [hdir, hchild, List.filter_cons_of_pos hname]
    rfl
  · rw [hdir, hchild, List.filter_append, List.filter_append, List.filter_cons_of_pos hname,
      List.map_append, List.map_append]
    simp [counts, componentOf?]
  · rw [hchild, List.filter_append, List.filter_cons_of_pos hname, List.map_append]
    rfl

theorem moves_descend {start : Path} {names : List Bytes}
    (hnames : ∀ name ∈ names, slash ∉ name ∧ counts name = true) :
    (start.descend names).moves = start.moves ++ names.map Step.ofPiece := by
  induction names generalizing start with
  | nil =>
      rw [List.map_nil, List.append_nil]
      rfl
  | cons name rest ih =>
      have hrest := fun other hother => hnames other (List.mem_cons_of_mem _ hother)
      obtain ⟨hslash, hname⟩ := hnames name List.mem_cons_self
      rw [descend, List.foldl_cons, ← descend, ih hrest, moves_child _ hslash hname,
        List.append_assoc]
      rfl

@[simp] theorem moves_start (p : Path) : p.start.moves = [] := by
  rcases start_cases p with ⟨-, -, hstart, -⟩ | ⟨-, -, hstart, -⟩ | ⟨-, -, hstart⟩
  · rw [moves, steps, pieces, hstart]
    rfl
  · rw [moves, steps, pieces, hstart]
    rfl
  · rw [moves, steps, pieces, hstart]
    rfl

theorem moves_take (p : Path) (count : Nat) :
    (p.start.descend (p.counted.take count)).moves = p.moves.take count := by
  have hnames : ∀ name ∈ p.counted.take count, slash ∉ name ∧ counts name = true := by
    intro name hname
    have hmem := List.mem_of_mem_take hname
    exact ⟨slash_not_mem_counted hmem, (List.mem_filter.mp hmem).2⟩
  rw [moves_descend hnames, moves_start, List.nil_append, moves_eq, List.map_take]

end Path

namespace Store

/-!
## Nested paths
-/

/-- The first path leads to the directory in which the second one asks for an entry. -/
structure Encloses (outer p : Path) : Prop where
  walkable : Walkable outer
  isAbsolute : outer.isAbsolute = p.isAbsolute
  moves : outer.moves = p.moves.dropLast

def Nested : Path → List Path → Prop
  | _, [] => True
  | p, outer :: rest => Encloses outer p ∧ Nested outer rest

theorem walkable_ancestor {p : Path} (hp : Walkable p) {count : Nat} (hcount : 0 < count)
    (hlength : count ≤ p.components.length) :
    Walkable (Path.ofComponents (p.components.take count)) := by
  obtain ⟨hzero, -, hmax⟩ := hp
  have horigin : p.origin.length ≤ count := Nat.le_trans p.length_origin_le hcount
  rw [Path.ofComponents_take horigin]
  have hsublist := Path.descend_take_sublist p (count - p.origin.length)
  exact ⟨fun hmem => hzero (hsublist.subset hmem), Path.descend_take_ne_nil hcount hlength,
    Nat.le_trans hsublist.length_le hmax⟩

theorem moves_ancestor (p : Path) {count : Nat} (hcount : 0 < count) :
    (Path.ofComponents (p.components.take count)).isAbsolute = p.isAbsolute ∧
      (Path.ofComponents (p.components.take count)).moves =
        p.moves.take (count - p.origin.length) := by
  have horigin : p.origin.length ≤ count := Nat.le_trans p.length_origin_le hcount
  rw [Path.ofComponents_take horigin, Path.moves_take]
  refine ⟨?_, rfl⟩
  rw [Path.isAbsolute_descend, Path.isAbsolute_start]
  intro name hname
  exact Path.slash_not_mem_counted (List.mem_of_mem_take hname)

theorem length_components (p : Path) :
    p.components.length = p.origin.length + p.moves.length := by
  rw [Path.components_eq, Path.moves_eq, List.length_append, List.length_map, List.length_map]

theorem encloses_ancestor {p q : Path} (hp : Walkable p) {count : Nat} (hcount : 0 < count)
    (hlength : count < p.components.length) (habsolute : q.isAbsolute = p.isAbsolute)
    (hmoves : q.moves = p.moves.take (count + 1 - p.origin.length)) :
    Encloses (Path.ofComponents (p.components.take count)) q := by
  obtain ⟨habsolute', hmoves'⟩ := moves_ancestor p hcount
  refine
    { walkable := walkable_ancestor hp hcount (Nat.le_of_lt hlength)
      isAbsolute := habsolute'.trans habsolute.symm
      moves := ?_ }
  rw [hmoves', hmoves]
  have horigin := p.length_origin_le
  have hcomponents := length_components p
  rw [List.dropLast_eq_take, List.length_take, List.take_take]
  congr 1
  omega

theorem nested_ancestors {p : Path} (hp : Walkable p) : Nested p p.ancestors := by
  unfold Path.ancestors
  have hnested : ∀ count, count < p.components.length → ∀ q : Path,
      q.isAbsolute = p.isAbsolute →
      q.moves = p.moves.take (count + 1 - p.origin.length) →
      Nested q ((List.range count).reverse.map fun count =>
        Path.ofComponents (p.components.take (count + 1))) := by
    intro count
    induction count with
    | zero =>
        intro _ _ _ _
        trivial
    | succ count ih =>
        intro hlength q habsolute hmoves
        rw [List.range_succ, List.reverse_append, List.reverse_singleton, List.singleton_append,
          List.map_cons]
        obtain ⟨habsolute', hmoves'⟩ := moves_ancestor p (Nat.succ_pos count)
        constructor
        · exact encloses_ancestor hp (Nat.succ_pos count) hlength habsolute hmoves
        · exact ih (Nat.lt_of_succ_lt hlength) _ habsolute' hmoves'
  have hcomponents := length_components p
  by_cases hnone : p.components.length = 0
  · rw [hnone]
    trivial
  · refine hnested (p.components.length - 1) (by omega) p rfl ?_
    rw [List.take_of_length_le (by omega)]

/-!
## Directories that are there
-/

@[simp] theorem moves_withoutTrailingSlashes (p : Path) :
    (withoutTrailingSlashes p).moves = p.moves := by
  obtain ⟨count, hsteps⟩ := steps_withoutTrailingSlashes p
  have hslashes : (List.replicate count Step.slash).filter Step.isMove = [] := by
    rw [List.filter_replicate]
    rfl
  rw [Path.moves, Path.moves, hsteps, List.filter_append, hslashes, List.append_nil]

theorem walkable_withoutTrailingSlashes {p : Path} (hp : Walkable p) :
    Walkable (withoutTrailingSlashes p) := by
  obtain ⟨hzero, hempty, hlength⟩ := hp
  obtain ⟨count, hbytes⟩ := bytes_withoutTrailingSlashes p
  refine ⟨?_, ?_, ?_⟩
  · intro hmem
    apply hzero
    rw [hbytes]
    exact List.mem_append_left _ hmem
  · unfold withoutTrailingSlashes
    split
    · exact hempty
    · rename_i kept hkept
      simpa using hkept
  · rw [hbytes, List.length_append] at hlength
    omega

theorem origin_withoutTrailingSlashes (s : Store) {p : Path} (hp : Walkable p) :
    s.origin (withoutTrailingSlashes p) = s.origin p := by
  obtain ⟨-, hempty, -⟩ := walkable_withoutTrailingSlashes hp
  rw [origin, origin, isAbsolute_withoutTrailingSlashes hempty]

theorem makeDirectory_of_isDirectory {s : Store} (hdirect : s.Direct) {p : Path}
    (hdir : s.isDirectory p = true) : s.makeDirectory p = .error .alreadyExists := by
  obtain ⟨hp, o, hadvance⟩ := (isDirectory_iff_advance hdirect).mp hdir
  have hkept : s.advance (s.origin (withoutTrailingSlashes p))
      (withoutTrailingSlashes p).steps = some o := by
    rw [origin_withoutTrailingSlashes s hp, ← advance_filter_isMove, ← Path.moves,
      moves_withoutTrailingSlashes, hadvance]
  have hlength : ¬ (0 ∉ p.bytes ∧ Path.maxLength < p.bytes.length) :=
    fun hlong => absurd hp.2.2 (Nat.not_le.mpr hlong.2)
  rw [makeDirectory, locateDirectory, if_neg hlength,
    locate_of_advance (by simp) (walkable_withoutTrailingSlashes hp) hkept]

theorem ensureDirectories_of_isDirectory {s : Store} (hdirect : s.Direct) {p : Path}
    (hdir : s.isDirectory p = true) (outer : List Path) :
    s.ensureDirectories (p :: outer) = (.ok (), s) := by
  rw [ensureDirectories, makeDirectory_of_isDirectory hdirect hdir]
  simp only [hdir, if_true]

theorem Encloses.isDirectory {s : Store} (hdirect : s.Direct) {outer p : Path}
    (hencloses : Encloses outer p) (hdir : s.isDirectory p = true) :
    s.isDirectory outer = true := by
  obtain ⟨-, o, hadvance⟩ := (isDirectory_iff_advance hdirect).mp hdir
  rw [isDirectory_iff_advance hdirect, hencloses.moves, origin, hencloses.isAbsolute]
  exact ⟨hencloses.walkable, advance_of_beginning (List.dropLast_prefix p.moves) hadvance⟩

theorem Encloses.isDirectory_of_makeDirectory {s made : Store} (hdirect : s.Direct)
    {outer p : Path} (hencloses : Encloses outer p) (hmake : s.makeDirectory p = .ok made) :
    s.isDirectory outer = true := by
  unfold makeDirectory at hmake
  split at hmake
  · cases hmake
  · cases hmake
  · rename_i dir name hlocate
    obtain ⟨hp, hkept⟩ := locateDirectory_ok hlocate
    obtain ⟨jump, hjump⟩ := walk_eq_walkWith s .kept maxLinks
    have hwalk := walk_of_locate hkept
    rw [hjump] at hwalk
    obtain ⟨front, hmoves, hadvance⟩ := moves_of_walkWith hdirect hwalk
    rw [← Path.moves, moves_withoutTrailingSlashes] at hmoves
    rw [origin_withoutTrailingSlashes s hp] at hadvance
    rw [isDirectory_iff_advance hdirect, hencloses.moves, hmoves, List.dropLast_concat, origin,
      hencloses.isAbsolute]
    exact ⟨hencloses.walkable, dir, hadvance⟩

/-!
## Making directories a second time
-/

theorem ensureDirectories_error_cases {s made : Store} {p : Path} {outer : List Path}
    {cause : Cause} (herror : s.ensureDirectories (p :: outer) = (.error cause, made)) :
    (∃ inner, s.ensureDirectories outer = (.error inner, made)) ∨
      made.makeDirectory p = .error cause ∧ made.isDirectory p = false ∧
        (cause = .notFound → s.ensureDirectories outer = (.ok (), made)) := by
  rw [ensureDirectories] at herror
  split at herror
  · cases herror
  · split at herror
    · rename_i inner made' houter
      cases herror
      exact Or.inl ⟨_, houter⟩
    · rename_i made' houter
      split at herror
      · cases herror
      · rename_i cause' hmake
        split at herror
        · cases herror
        · rename_i hdir
          cases herror
          exact Or.inr ⟨hmake, by simpa using hdir, fun _ => houter⟩
  · rename_i cause' hcause hmake
    split at herror
    · cases herror
    · rename_i hdir
      cases herror
      refine Or.inr ⟨hmake, by simpa using hdir, ?_⟩
      rintro rfl
      exact absurd rfl hcause

theorem ensureDirectories_of_refused {s : Store} {p : Path} {outer : List Path} {cause : Cause}
    (hmake : s.makeDirectory p = .error cause) (hdir : s.isDirectory p = false)
    (houter : cause = .notFound → s.ensureDirectories outer = (.ok (), s)) :
    s.ensureDirectories (p :: outer) = (.error cause, s) := by
  by_cases hcause : cause = .notFound
  · subst hcause
    rw [ensureDirectories, hmake]
    simp only [houter rfl, hmake, hdir, Bool.false_eq_true, if_false]
  · rw [ensureDirectories, hmake]
    cases cause with
    | notFound => exact absurd rfl hcause
    | _ => simp only [hdir, Bool.false_eq_true, if_false]

theorem ensureDirectories_of_refused_outer {s : Store} (hdirect : s.Direct) {p q : Path}
    {rest : List Path} {cause : Cause} (hencloses : Encloses q p)
    (houter : s.ensureDirectories (q :: rest) = (.error cause, s)) :
    ∃ again, s.ensureDirectories (p :: q :: rest) = (.error again, s) := by
  have hq : ¬ s.isDirectory q = true := by
    intro hdir
    rw [ensureDirectories_of_isDirectory hdirect hdir] at houter
    cases houter
  have hp : s.isDirectory p = false := by
    cases hdir : s.isDirectory p with
    | false => rfl
    | true => exact absurd (hencloses.isDirectory hdirect hdir) hq
  cases hmake : s.makeDirectory p with
  | ok made => exact absurd (hencloses.isDirectory_of_makeDirectory hdirect hmake) hq
  | error refusal =>
      by_cases hrefusal : refusal = .notFound
      · refine ⟨cause, ?_⟩
        rw [ensureDirectories, hmake, hrefusal]
        simp only [houter]
      · exact ⟨refusal, ensureDirectories_of_refused hmake hp fun h => absurd h hrefusal⟩

/-- Directories that could not all be made cannot be made later either, and those that were
made are not made again. -/
theorem ensureDirectories_error {s made : Store} {p : Path} {outer : List Path} {cause : Cause}
    (hdirect : s.Direct) (hnested : Nested p outer)
    (herror : s.ensureDirectories (p :: outer) = (.error cause, made)) :
    ∃ again, made.ensureDirectories (p :: outer) = (.error again, made) := by
  have hmade : made.Direct := by
    have hadds := ensureDirectories_adds s (p :: outer)
    rw [herror] at hadds
    exact hadds.direct hdirect
  induction outer generalizing p cause with
  | nil =>
      rcases ensureDirectories_error_cases herror with ⟨inner, hinner⟩ | ⟨hmake, hdir, -⟩
      · cases hinner
      · exact ⟨cause, ensureDirectories_of_refused hmake hdir fun _ => rfl⟩
  | cons q rest ih =>
      obtain ⟨hencloses, hrest⟩ := hnested
      rcases ensureDirectories_error_cases herror with ⟨inner, hinner⟩ | ⟨hmake, hdir, houter⟩
      · obtain ⟨again, hagain⟩ := ih hrest hinner
        exact ensureDirectories_of_refused_outer hmade hencloses hagain
      · refine ⟨cause, ensureDirectories_of_refused hmake hdir fun hcause => ?_⟩
        exact ensureDirectories_of_isDirectory hmade
          (isDirectory_of_ensureDirectories (houter hcause)) rest

theorem makeDirectory_of_not_walkable {p : Path} (hp : ¬ Walkable p) (hempty : p.bytes ≠ []) :
    ∃ cause, cause ≠ .notFound ∧ ∀ s : Store, s.makeDirectory p = .error cause ∧
      s.isDirectory p = false := by
  have hdir : ∀ s : Store, s.isDirectory p = false := by
    intro s
    obtain ⟨cause, hcause⟩ := locate_of_not_walkable hp
    rw [isDirectory, entry, hcause]
  by_cases hzero : 0 ∈ p.bytes
  · refine ⟨.nulInPath, by simp, fun s => ⟨?_, hdir s⟩⟩
    have hzero' : 0 ∈ (withoutTrailingSlashes p).bytes := by
      obtain ⟨count, hbytes⟩ := bytes_withoutTrailingSlashes p
      rw [hbytes] at hzero
      rcases List.mem_append.mp hzero with hkept | hslash
      · exact hkept
      · exact absurd (List.mem_replicate.mp hslash).2 (by decide)
    rw [makeDirectory, locateDirectory, if_neg fun hlong => hlong.1 hzero, locate, if_pos hzero']
  · refine ⟨.nameTooLong, by simp, fun s => ⟨?_, hdir s⟩⟩
    have hlength : Path.maxLength < p.bytes.length :=
      Nat.lt_of_not_le fun hle => hp ⟨hzero, hempty, hle⟩
    rw [makeDirectory, locateDirectory, if_pos ⟨hzero, hlength⟩]

theorem makeDirectories_of_leads {s : Store} (hdirect : s.Direct) {p : Path} {o : Location}
    (hleads : s.Leads p o) : s.makeDirectories p = (.ok (), s) := by
  rw [makeDirectories]
  rcases hleads with ⟨hempty, -⟩ | ⟨hlocate, hdir⟩
  · rw [if_pos hempty]
  · rw [if_neg (walkable_of_locate hlocate).2.1]
    exact ensureDirectories_of_isDirectory hdirect (isDirectory_iff.mpr ⟨o, hlocate, hdir⟩) _

theorem makeDirectories_error {s made : Store} (hdirect : s.Direct) {p : Path} {cause : Cause}
    (herror : s.makeDirectories p = (.error cause, made)) :
    ∃ again, made.makeDirectories p = (.error again, made) := by
  unfold makeDirectories at herror ⊢
  split at herror
  · cases herror
  · rename_i hempty
    rw [if_neg hempty]
    by_cases hp : Walkable p
    · exact ensureDirectories_error hdirect (nested_ancestors hp) herror
    · obtain ⟨refusal, hrefusal, hrefused⟩ := makeDirectory_of_not_walkable hp hempty
      have hall : ∀ t : Store, t.ensureDirectories (p :: p.ancestors) = (.error refusal, t) :=
        fun t => ensureDirectories_of_refused (hrefused t).1 (hrefused t).2
          fun h => absurd h hrefusal
      exact ⟨refusal, hall made⟩

end Store

end Imprint
