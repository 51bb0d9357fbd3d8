import Imprint.Proofs.Batch.Course
import Mathlib.Data.List.Nodup

/-!
# Discovered binaries

Without symbolic links, what is discovered in a directory are its files whose names are
text without a dot, each once.  A model is written under a name with a dot, so no
model takes the place of a discovered binary, and models of different binaries
have different names.
-/

namespace Imprint

namespace Store

/-!
## Names in a directory
-/

theorem mem_namesIn {s : Store} {dir : Location} {name : Name} :
    name ∈ s.namesIn dir ↔ name :: dir ∈ s.entries.map Prod.fst := by
  unfold namesIn
  rw [List.mem_filterMap, List.mem_map]
  constructor
  · rintro ⟨e, he, hname⟩
    refine ⟨e, he, ?_⟩
    split at hname
    · cases hname
    · rename_i first place hfst
      split at hname
      · rename_i hplace
        cases hname
        rw [hfst, hplace]
      · cases hname
  · rintro ⟨e, he, hfst⟩
    exact ⟨e, he, by simp [hfst]⟩

theorem at?_of_mem_namesIn {s : Store} {dir : Location} {name : Name}
    (hname : name ∈ s.namesIn dir) : ∃ e, s.at? (name :: dir) = some e := by
  have hmem := mem_namesIn.mp hname
  cases hat : s.at? (name :: dir) with
  | some e => exact ⟨e, rfl⟩
  | none =>
      obtain ⟨e, he, hfst⟩ := List.mem_map.mp hmem
      have hlookup : s.entries.lookup (name :: dir) = none := hat
      have hne := List.lookup_eq_none_iff.mp hlookup e he
      rw [hfst] at hne
      simp at hne

theorem mem_namesIn_iff {s : Store} {dir : Location} {name : Name} :
    name ∈ s.namesIn dir ↔ ∃ e, s.at? (name :: dir) = some e := by
  refine ⟨at?_of_mem_namesIn, ?_⟩
  rintro ⟨e, he⟩
  obtain ⟨front, back, hentries, -⟩ := List.lookup_eq_some_iff.mp (show
    s.entries.lookup (name :: dir) = some e from he)
  rw [mem_namesIn, hentries]
  simp

theorem nodup_namesIn (s : Store) (dir : Location) : (s.namesIn dir).Nodup := by
  have hplaces := List.pairwise_map.mp s.places_nodup
  refine List.pairwise_filterMap.mpr (hplaces.imp ?_)
  intro first second hne one hone other hother heq
  apply hne
  split at hone
  · cases hone
  · rename_i name place hfirst
    split at hone
    · rename_i hplace
      split at hother
      · cases hother
      · rename_i name' place' hsecond
        split at hother
        · rename_i hplace'
          cases hone
          cases hother
          rw [hfirst, hsecond, hplace, hplace', heq]
        · cases hother
    · cases hone

theorem valid_of_mem_namesIn {s : Store} {dir : Location} {name : Name}
    (hname : name ∈ s.namesIn dir) : name.Valid := by
  obtain ⟨e, he⟩ := at?_of_mem_namesIn hname
  exact (rooted_of_at? he).1

theorem namesIn_of_list {s : Store} {p : Path} {names : List Name} (hlist : s.list p = .ok names) :
    ∃ o, s.locate .followed p = .ok (.found o) ∧ s.at? o = some .directory ∧
      names = s.namesIn o := by
  unfold list at hlist
  split at hlist
  · cases hlist
  · cases hlist
  · rename_i o hlocate
    split at hlist
    · rename_i hdir
      cases hlist
      exact ⟨o, hlocate, hdir, rfl⟩
    · cases hlist

theorem list_of_locate {s : Store} {p : Path} {o : Location}
    (hlocate : s.locate .followed p = .ok (.found o)) (hdir : s.at? o = some .directory) :
    s.list p = .ok (s.namesIn o) := by
  simp only [list, hlocate, if_pos hdir]

end Store

/-!
## What is discovered
-/

/-- A name that a directory lists as a binary: text without a dot, under which a file stands
unless its path leads nowhere. -/
structure Discovered (s : Store) (dir : Path) (o : Location) (name : Name) : Prop where
  valid : name.Valid
  undotted : ∃ t, Utf8.decode? name = some t ∧ '.' ∉ t
  stands : (∃ contents executable, s.at? (name :: o) = some (.file contents executable)) ∨
    ¬ Store.Walkable (dir.child name)

/-- A name is the encoding of a text that begins with the stem and has no dot. -/
def Name.Matches (name : Name) (stem : Text) : Prop :=
  ∃ t, Utf8.encode t = name ∧ stem <+: t ∧ '.' ∉ t

def Name.le (name other : Name) : Bool :=
  decide (name ≤ other)

namespace Batch

theorem isCandidate_iff {stem : Text} {name : Name} :
    isCandidate stem name = true ↔
      ∃ t, Utf8.decode? name = some t ∧ (Text.after? stem t).isSome = true ∧ '.' ∉ t := by
  unfold isCandidate
  cases hdecode : Utf8.decode? name with
  | none => simp
  | some t => simp

theorem isCandidate_iff_matches {stem : Text} {name : Name} :
    isCandidate stem name = true ↔ name.Matches stem := by
  rw [isCandidate_iff]
  constructor
  · rintro ⟨t, hdecode, hafter, hdot⟩
    obtain ⟨rest, hrest⟩ := Option.isSome_iff_exists.mp hafter
    exact ⟨t, Utf8.encode_of_decode? hdecode, ⟨rest, (Text.eq_append_of_after? hrest).symm⟩, hdot⟩
  · rintro ⟨t, rfl, ⟨rest, rfl⟩, hdot⟩
    exact ⟨stem ++ rest, Utf8.decode?_encode _, by rw [Text.after?_append]; rfl, hdot⟩

theorem dot_mem_modelName {binary : Path} {t : Text}
    (hdecode : Utf8.decode? (modelName binary) = some t) : '.' ∈ t := by
  have hshown := Utf8.decode_of_decode? hdecode
  rw [modelName, encode_modelExtension, Utf8.decode_append_ascii (by decide)] at hshown
  rw [← hshown]
  exact List.mem_append_right _ List.mem_cons_self

theorem isCandidate_modelName (stem : Text) (binary : Path) :
    isCandidate stem (modelName binary) = false := by
  cases hcandidate : isCandidate stem (modelName binary) with
  | false => rfl
  | true =>
      obtain ⟨t, hdecode, -, hdot⟩ := isCandidate_iff.mp hcandidate
      exact absurd (dot_mem_modelName hdecode) hdot

/-- The names of a directory that are candidates and lead to no directory. -/
def selected (s : Store) (dir : Path) (stem : Text) (names : List Name) : List Name :=
  names.filter fun name => isCandidate stem name && !s.isDirectory (dir.child name)

theorem mem_selected {s : Store} {dir : Path} {stem : Text} {names : List Name} {name : Name} :
    name ∈ selected s dir stem names ↔
      name ∈ names ∧ isCandidate stem name = true ∧ s.isDirectory (dir.child name) = false := by
  simp [selected]

theorem discover_eq {s : Store} {dir : Path} {names : List Name} (hlist : s.list dir = .ok names)
    (stem : Text) :
    discover s dir stem =
      .ok (((selected s dir stem names).mergeSort Name.le).map dir.child) := by
  obtain ⟨o, -, -, rfl⟩ := Store.namesIn_of_list hlist
  have hvalid : ∀ name ∈ selected s dir stem (s.namesIn o), name.Valid :=
    fun name hname => Store.valid_of_mem_namesIn (mem_selected.mp hname).1
  have hfound : (((s.namesIn o).filter (isCandidate stem)).map dir.child).filter
      (fun p => !s.isDirectory p) = (selected s dir stem (s.namesIn o)).map dir.child := by
    rw [List.filter_map, List.filter_filter]
    congr 1
    refine List.filter_congr fun name _ => ?_
    exact Bool.and_comm _ _
  unfold discover
  rw [hlist]
  dsimp only
  rw [hfound, List.map_mergeSort]
  intro name hname other hother
  rw [Bool.eq_iff_iff, Path.le_child_iff dir (hvalid name hname).plain.1
    (componentOf?_of_valid (hvalid name hname)) (hvalid other hother).plain.1
    (componentOf?_of_valid (hvalid other hother)), Name.le, decide_eq_true_iff]

theorem nodup_selected (s : Store) (dir : Path) (stem : Text) (o : Location) :
    (selected s dir stem (s.namesIn o)).Nodup :=
  (s.nodup_namesIn o).filter _

theorem list_of_discover {s : Store} {dir : Path} {stem : Text} {binaries : List Path}
    (hdiscover : discover s dir stem = .ok binaries) :
    ∃ o, s.locate .followed dir = .ok (.found o) ∧ s.at? o = some .directory ∧
      s.list dir = .ok (s.namesIn o) := by
  cases hlist : s.list dir with
  | error cause =>
      rw [discover, hlist] at hdiscover
      cases hdiscover
  | ok names =>
      obtain ⟨o, hlocate, hdir, rfl⟩ := Store.namesIn_of_list hlist
      exact ⟨o, hlocate, hdir, rfl⟩

theorem mem_of_discover {s : Store} {dir : Path} {stem : Text} {names : List Name}
    {binaries : List Path} (hlist : s.list dir = .ok names)
    (hdiscover : discover s dir stem = .ok binaries) {binary : Path} :
    binary ∈ binaries ↔ ∃ name ∈ selected s dir stem names, dir.child name = binary := by
  rw [discover_eq hlist] at hdiscover
  cases hdiscover
  simp only [List.mem_map, List.mem_mergeSort]

theorem discover_of_sorted {s : Store} {dir : Path} {stem : Text} {names found : List Name}
    (hlist : s.list dir = .ok names) (hselected : selected s dir stem names = found)
    (hsorted : found.Pairwise fun name other => Name.le name other = true) :
    discover s dir stem = .ok (found.map dir.child) := by
  rw [discover_eq hlist, hselected, List.mergeSort_of_pairwise hsorted]

theorem sorted_mergeSort (names : List Name) :
    (names.mergeSort Name.le).Pairwise fun name other => Name.le name other = true := by
  refine List.pairwise_mergeSort ?_ ?_ names
  · intro a b c hab hbc
    unfold Name.le at hab hbc ⊢
    rw [decide_eq_true_iff] at hab hbc ⊢
    exact List.le_trans hab hbc
  · intro a b
    unfold Name.le
    rw [Bool.or_eq_true, decide_eq_true_iff, decide_eq_true_iff]
    exact List.le_total a b

theorem mergeSort_congr {names others : List Name} (hperm : names.Perm others) :
    names.mergeSort Name.le = others.mergeSort Name.le := by
  refine List.Perm.eq_of_pairwise ?_ (sorted_mergeSort names) (sorted_mergeSort others) ?_
  · intro a b _ _ hab hba
    unfold Name.le at hab hba
    rw [decide_eq_true_iff] at hab hba
    exact List.le_antisymm hab hba
  · exact ((List.mergeSort_perm _ _).trans hperm).trans (List.mergeSort_perm _ _).symm

theorem ascending_mergeSort {names : List Name} (hnodup : names.Nodup) :
    (names.mergeSort Name.le).Pairwise (· < ·) := by
  have hnodup' : (names.mergeSort Name.le).Nodup :=
    (List.mergeSort_perm _ _).nodup_iff.mpr hnodup
  refine ((sorted_mergeSort names).and hnodup').imp ?_
  rintro name other ⟨hle, hne⟩
  rw [Name.le, decide_eq_true_iff] at hle
  exact Std.lt_of_le_of_ne hle hne

theorem discover_congr {s t : Store} {dir : Path} {stem : Text} {o : Location}
    (hs : s.list dir = .ok (s.namesIn o)) (ht : t.list dir = .ok (t.namesIn o))
    (hmem : ∀ name, name ∈ selected t dir stem (t.namesIn o) ↔
      name ∈ selected s dir stem (s.namesIn o)) :
    discover t dir stem = discover s dir stem := by
  have hperm := (List.perm_ext_iff_of_nodup (nodup_selected t dir stem o)
    (nodup_selected s dir stem o)).mpr hmem
  rw [discover_eq hs, discover_eq ht, mergeSort_congr hperm]

/-- Without symbolic links, selected are the candidates under which something stands that is no
directory, or one whose path is too long to be looked at. -/
theorem mem_selected_iff {s : Store} (hdirect : s.Direct) {dir : Path} {stem : Text}
    {o : Location} (hlocate : s.locate .followed dir = .ok (.found o))
    (hdir : s.at? o = some .directory) {name : Name} :
    name ∈ selected s dir stem (s.namesIn o) ↔ isCandidate stem name = true ∧
      ∃ e, s.at? (name :: o) = some e ∧
        (e = .directory → Path.maxLength < (dir.child name).bytes.length) := by
  have hzero := (Store.walkable_of_locate hlocate).1
  rw [mem_selected, Store.mem_namesIn_iff]
  constructor
  · rintro ⟨⟨e, he⟩, hcandidate, hnotDirectory⟩
    have hvalid := (Store.rooted_of_at? he).1
    refine ⟨hcandidate, e, he, ?_⟩
    rintro rfl
    refine Nat.lt_of_not_le fun hlength => ?_
    have hdirectory := (Store.isDirectory_child hdirect (Or.inr ⟨hlocate, hdir⟩) hvalid.plain).mpr
      ⟨(Store.walkable_child_iff hzero hvalid).mpr hlength, he⟩
    rw [hnotDirectory] at hdirectory
    cases hdirectory
  · rintro ⟨hcandidate, e, he, hlength⟩
    have hvalid := (Store.rooted_of_at? he).1
    refine ⟨⟨e, he⟩, hcandidate, ?_⟩
    rw [← Bool.not_eq_true, Store.isDirectory_child hdirect (Or.inr ⟨hlocate, hdir⟩) hvalid.plain]
    rintro ⟨hwalkable, hdirectory⟩
    rw [he] at hdirectory
    exact absurd hwalkable.2.2 (Nat.not_le.mpr (hlength (Option.some.inj hdirectory)))

theorem discovered_of_discover {s : Store} (hdirect : s.Direct) {dir : Path} {stem : Text}
    {binaries : List Path} (hdiscover : discover s dir stem = .ok binaries) :
    ∃ o, s.Leads dir o ∧ binaries.Nodup ∧
      ∀ binary ∈ binaries, ∃ name, binary = dir.child name ∧ Discovered s dir o name := by
  obtain ⟨o, hlocate, hdir, hlist⟩ := list_of_discover hdiscover
  refine ⟨o, Or.inr ⟨hlocate, hdir⟩, ?_, ?_⟩
  · rw [discover_eq hlist] at hdiscover
    cases hdiscover
    refine List.Nodup.map (fun _ _ heq => Path.child_injective heq) ?_
    exact (List.mergeSort_perm _ _).nodup_iff.mpr (nodup_selected s dir stem o)
  · intro binary hbinary
    obtain ⟨name, hname, rfl⟩ := (mem_of_discover hlist hdiscover).mp hbinary
    obtain ⟨hcandidate, e, he, hlength⟩ := (mem_selected_iff hdirect hlocate hdir).mp hname
    obtain ⟨t, hdecode, -, hdot⟩ := isCandidate_iff.mp hcandidate
    refine ⟨name, rfl, (Store.rooted_of_at? he).1, ⟨t, hdecode, hdot⟩, ?_⟩
    cases e with
    | file contents executable => exact Or.inl ⟨contents, executable, he⟩
    | link target => exact absurd he (hdirect _ target)
    | directory =>
        right
        exact fun hwalkable => absurd hwalkable.2.2 (Nat.not_le.mpr (hlength rfl))

end Batch

namespace Discovered

variable {s : Store} {dir : Path} {o : Location} {name : Name}

theorem modelName_eq (hdiscovered : Discovered s dir o name) :
    modelName (Path.ofText (dir.child name).display) =
      name ++ [Path.dot, 0x75, 0x63, 0x6C] := by
  obtain ⟨t, hdecode, -⟩ := hdiscovered.undotted
  rw [modelName, fileName?_display_child hdiscovered.valid hdecode, encode_modelExtension,
    Option.getD_some]

theorem ne_modelName (hdiscovered : Discovered s dir o name) (binary : Path) :
    name ≠ modelName binary := by
  rintro rfl
  obtain ⟨t, hdecode, hdot⟩ := hdiscovered.undotted
  exact hdot (Batch.dot_mem_modelName hdecode)

theorem modelName_injective {other : Name} (hdiscovered : Discovered s dir o name)
    (hother : Discovered s dir o other)
    (heq : modelName (Path.ofText (dir.child name).display) =
      modelName (Path.ofText (dir.child other).display)) : name = other := by
  rw [hdiscovered.modelName_eq, hother.modelName_eq] at heq
  exact List.append_cancel_right heq

theorem read_congr (hdiscovered : Discovered s dir o name) {t : Store} (hs : s.Direct)
    (ht : t.Direct) (hsdir : s.Leads dir o) (htdir : t.Leads dir o)
    (hkept : ∀ contents executable, s.at? (name :: o) = some (.file contents executable) →
      t.at? (name :: o) = some (.file contents executable)) :
    t.read (dir.child name) = s.read (dir.child name) := by
  rcases hdiscovered.stands with ⟨contents, executable, hfile⟩ | hunwalkable
  · refine Store.read_child_congr hs ht hsdir htdir hdiscovered.valid.plain ?_
    rw [hfile, hkept contents executable hfile]
  · obtain ⟨cause, hcause⟩ := Store.locate_of_not_walkable hunwalkable
    rw [Store.read, Store.read, Store.entry, Store.entry, hcause, hcause]

end Discovered

end Imprint
