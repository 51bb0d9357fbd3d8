import Imprint.Proofs.Batch.Repetition
import Imprint.Proofs.Store.Links
import Imprint.Proofs.Store.Resemblance

/-!
# Selected entries

Discovered are the entries of a directory whose names match and whose paths do
not lead to directories, each once, in the order of their names, however the
entries are listed.  An entry that is a directory is among them when its path does
not lead to it: when the path is too long, or the links on its way are too many.
No entry is hidden by permissions, of which a store keeps none for directories.
-/

namespace Imprint

/-!
## Entries of a directory
-/

/-- An entry of a directory is a directory, or one comes to a directory by the links that begin
with it. -/
def Store.Enters (s : Store) (o : Location) (name : Name) : Prop :=
  ∃ links place, s.Resolves links o [.name name] place ∧ s.at? place = some .directory

namespace Batch

/-- An entry of the directory has a name that matches, and is no directory. -/
structure Eligible (s : Store) (o : Location) (stem : Text) (name : Name) : Prop where
  stands : ∃ e, s.at? (name :: o) = some e
  matching : name.Matches stem
  notDirectory : ¬ s.Enters o name

/-- Some entry of the directory has a name that matches and is a directory, but its path is too
long, or there are too many links on the way, of which so many lead to the directory. -/
def Overlooks (s : Store) (dir : Path) (o : Location) (links : Nat) (stem : Text) : Prop :=
  ∃ (name : Name) (more : Nat) (place : Location),
    name.Matches stem ∧ s.Resolves more o [.name name] place ∧ s.at? place = some .directory ∧
      (Path.maxLength < (dir.child name).bytes.length ∨ Store.maxLinks < links + more)

/-- Each entry with a name that matches resolves to something, its path is not too long, and there
are not too many links on the way, of which so many lead to the directory. -/
def Accessible (s : Store) (dir : Path) (o : Location) (links : Nat) (stem : Text) : Prop :=
  ∀ name ∈ s.namesIn o, name.Matches stem →
    (dir.child name).bytes.length ≤ Path.maxLength ∧
      ∃ more place, links + more ≤ Store.maxLinks ∧ s.Resolves more o [.name name] place

end Batch

namespace Store

variable {s : Store} {o : Location} {name : Name}

theorem Resolves.stands_first {links : Nat} {place : Location} {rest : List Step}
    (hresolves : s.Resolves links o (.name name :: rest) place) :
    ∃ e, s.at? (name :: o) = some e := by
  cases hresolves with
  | directory hdir _ => exact ⟨_, hdir⟩
  | file hfile => exact ⟨_, hfile⟩
  | link hlink _ => exact ⟨_, hlink⟩

theorem Enters.mem_namesIn (henters : s.Enters o name) : name ∈ s.namesIn o := by
  obtain ⟨links, place, hresolves, -⟩ := henters
  exact mem_namesIn_iff.mpr hresolves.stands_first

theorem reaches_directory_child_iff {dir : Path} (hdir : s.Reaches dir o)
    (ho : s.at? o = some .directory) (hname : name.Valid) :
    (∃ place, s.Reaches (dir.child name) place ∧ s.at? place = some .directory) ↔
      s.Enters o name ∧ ∃ place, s.Reaches (dir.child name) place := by
  obtain ⟨⟨hzero, -, -⟩, links, -, hresolves⟩ := hdir
  constructor
  · rintro ⟨place, hplace, hdirectory⟩
    obtain ⟨-, more, -, hmore⟩ := (reaches_child_iff hzero hresolves ho hname).mp hplace
    exact ⟨⟨more, place, hmore, hdirectory⟩, place, hplace⟩
  · rintro ⟨⟨links', place', hlinks', hdirectory⟩, place, hplace⟩
    obtain ⟨-, more, -, hmore⟩ := (reaches_child_iff hzero hresolves ho hname).mp hplace
    obtain ⟨-, rfl⟩ := hmore.unique hlinks'
    exact ⟨_, hplace, hdirectory⟩

end Store

namespace Batch

/-!
## What is selected
-/

section

variable {s : Store} {dir : Path} {o : Location} {links : Nat} {stem : Text}
  (hzero : 0 ∉ dir.bytes) (hdir : s.Resolves links (s.origin dir) dir.steps o)
  (ho : s.at? o = some .directory)

include hzero hdir ho

theorem overlooks_iff :
    Overlooks s dir o links stem ↔ ∃ name : Name, name.Matches stem ∧ s.Enters o name ∧
      ¬ ∃ place, s.Reaches (dir.child name) place := by
  constructor
  · rintro ⟨name, more, place, hmatches, hmore, hplace, hfar⟩
    obtain ⟨e, he⟩ := hmore.stands_first
    refine ⟨name, hmatches, ⟨more, place, hmore, hplace⟩, ?_⟩
    rintro ⟨other, hother⟩
    obtain ⟨hlength, more', hlinks, hmore'⟩ :=
      (Store.reaches_child_iff hzero hdir ho (Store.rooted_of_at? he).1).mp hother
    obtain ⟨rfl, -⟩ := hmore.unique hmore'
    rcases hfar with hlong | hmany
    · exact absurd hlength (Nat.not_le.mpr hlong)
    · exact absurd hlinks (Nat.not_le.mpr hmany)
  · rintro ⟨name, hmatches, ⟨more, place, hmore, hplace⟩, hnowhere⟩
    obtain ⟨e, he⟩ := hmore.stands_first
    refine ⟨name, more, place, hmatches, hmore, hplace, ?_⟩
    rcases Nat.lt_or_ge Path.maxLength (dir.child name).bytes.length with hlong | hlength
    · exact Or.inl hlong
    · refine Or.inr (Nat.lt_of_not_le fun hlinks => hnowhere ⟨place, ?_⟩)
      exact (Store.reaches_child_iff hzero hdir ho (Store.rooted_of_at? he).1).mpr
        ⟨hlength, more, hlinks, hmore⟩

theorem accessible_iff :
    Accessible s dir o links stem ↔
      ∀ name ∈ s.namesIn o, name.Matches stem → ∃ place, s.Reaches (dir.child name) place := by
  refine forall_congr' fun name => forall_congr' fun hname => forall_congr' fun _ => ?_
  have hchild : ∀ place, s.Reaches (dir.child name) place ↔
      (dir.child name).bytes.length ≤ Path.maxLength ∧
        ∃ more, links + more ≤ Store.maxLinks ∧ s.Resolves more o [.name name] place :=
    fun _ => Store.reaches_child_iff hzero hdir ho (Store.valid_of_mem_namesIn hname)
  constructor
  · rintro ⟨hlength, more, place, hlinks, hmore⟩
    exact ⟨place, (hchild place).mpr ⟨hlength, more, hlinks, hmore⟩⟩
  · rintro ⟨place, hplace⟩
    obtain ⟨hlength, more, hlinks, hmore⟩ := (hchild place).mp hplace
    exact ⟨hlength, more, place, hlinks, hmore⟩

theorem not_overlooks_of_accessible (haccessible : Accessible s dir o links stem) :
    ¬ Overlooks s dir o links stem := by
  rw [overlooks_iff hzero hdir ho]
  rintro ⟨name, hmatches, henters, hnowhere⟩
  exact hnowhere ((accessible_iff hzero hdir ho).mp haccessible name henters.mem_namesIn hmatches)

end

theorem mem_selected_iff_reaches {s : Store} {dir : Path} {stem : Text} {o : Location}
    {name : Name} :
    name ∈ selected s dir stem (s.namesIn o) ↔
      (∃ e, s.at? (name :: o) = some e) ∧ name.Matches stem ∧
        ¬ ∃ place, s.Reaches (dir.child name) place ∧ s.at? place = some .directory := by
  rw [mem_selected, Store.mem_namesIn_iff, isCandidate_iff_matches, ← Bool.not_eq_true,
    Store.isDirectory_iff_reaches]

theorem selected_eligible_iff {s : Store} {dir : Path} {o : Location} {links : Nat} {stem : Text}
    (hdir : s.Reaches dir o) (hlinks : s.Resolves links (s.origin dir) dir.steps o)
    (ho : s.at? o = some .directory) :
    (∀ name, name ∈ selected s dir stem (s.namesIn o) ↔ Eligible s o stem name) ↔
      ¬ Overlooks s dir o links stem := by
  rw [overlooks_iff hdir.1.1 hlinks ho]
  constructor
  · rintro hall ⟨name, hmatches, henters, hnowhere⟩
    refine ((hall name).mp (mem_selected_iff_reaches.mpr ⟨?_, hmatches, ?_⟩)).notDirectory henters
    · exact Store.mem_namesIn_iff.mp henters.mem_namesIn
    · rintro ⟨place, hplace, -⟩
      exact hnowhere ⟨place, hplace⟩
  · intro hnone name
    rw [mem_selected_iff_reaches]
    constructor
    · rintro ⟨⟨e, he⟩, hmatches, hnotDirectory⟩
      refine ⟨⟨e, he⟩, hmatches, fun henters => ?_⟩
      rw [Store.reaches_directory_child_iff hdir ho (Store.rooted_of_at? he).1] at hnotDirectory
      exact hnone ⟨name, hmatches, henters, fun hplace => hnotDirectory ⟨henters, hplace⟩⟩
    · rintro ⟨⟨e, he⟩, hmatches, hnotDirectory⟩
      refine ⟨⟨e, he⟩, hmatches, ?_⟩
      rw [Store.reaches_directory_child_iff hdir ho (Store.rooted_of_at? he).1]
      exact fun henters => hnotDirectory henters.1

theorem discover_rearranged {s t : Store} (hrearranges : s.Rearranges t) (dir : Path)
    (stem : Text) : discover t dir stem = discover s dir stem := by
  rcases hrearranges.list dir with ⟨cause, hs, ht⟩ | ⟨o, hs, ht⟩
  · rw [discover, discover, hs, ht]
  · refine discover_congr hs ht fun name => ?_
    rw [mem_selected, mem_selected, hrearranges.resembles.isDirectory,
      (hrearranges.namesIn o).mem_iff]

/-- A directory of binaries in which nearly everything stands that may be listed: two files and a
directory with links to them, a name with a dot, and a name that is no text. -/
def variedStore : Store :=
  let dir : Location := [Utf8.encode "in".toList]
  let entries : List (Name × Entry) := [
    (Utf8.encode "p-link".toList, .link (.ofText "p-one".toList)),
    (Utf8.encode "p-one".toList, .file bareImage false),
    (Utf8.encode "p-dir".toList, .directory),
    (Utf8.encode "p-enter".toList, .link (.ofText "../in/p-dir".toList)),
    (Utf8.encode "p-one.dump".toList, .file [] false),
    (Utf8.encode "p-".toList ++ [0xFF], .file [] false),
    (Utf8.encode "q-two".toList, .file [] false)]
  entries.foldl (fun s e => s.put (e.1 :: dir) e.2) (Store.empty.put dir .directory)

theorem locate_varied : variedStore.locate .followed (.ofText "in".toList) =
    .ok (.found [Utf8.encode "in".toList]) := by
  decide +kernel

theorem discover_varied : discover variedStore (.ofText "in".toList) "p-".toList =
    .ok [.ofText "in/p-link".toList, .ofText "in/p-one".toList] := by
  have hselected : selected variedStore (.ofText "in".toList) "p-".toList
      (variedStore.namesIn [Utf8.encode "in".toList]) =
        [Utf8.encode "p-link".toList, Utf8.encode "p-one".toList] := by
    decide +kernel
  exact discover_of_sorted (Store.list_of_locate locate_varied (by decide +kernel)) hselected
    (by decide +kernel)

theorem accessible_varied {links : Nat}
    (hlinks : variedStore.Resolves links (variedStore.origin (.ofText "in".toList))
      (Path.ofText "in".toList).steps [Utf8.encode "in".toList]) :
    Accessible variedStore (.ofText "in".toList) [Utf8.encode "in".toList] links "p-".toList := by
  have hall : ∀ name ∈ variedStore.namesIn [Utf8.encode "in".toList],
      ∃ place ∈ variedStore.entries.map Prod.fst,
        variedStore.locate .followed ((Path.ofText "in".toList).child name) =
          .ok (.found place) := by
    decide +kernel
  refine (accessible_iff (by decide) hlinks (by decide +kernel)).mpr fun name hname _ => ?_
  obtain ⟨place, -, hplace⟩ := hall name hname
  exact ⟨place, Store.locate_iff_reaches.mp hplace⟩

/-- What is discovered in a directory: paths of its entries in ascending order of the names, each
once, the same in whatever order the entries are listed.  They are those of the entries whose
names match and whose paths do not lead to directories; so they are those of the entries whose
names match and that are no directories just when no directory is overlooked. -/
theorem discover_eligible {s : Store} {dir : Path} {o : Location} (stem : Text)
    (hlocate : s.locate .followed dir = .ok (.found o)) (ho : s.at? o = some .directory) :
    ∃ (names : List Name) (links : Nat), s.Resolves links (s.origin dir) dir.steps o ∧
      discover s dir stem = .ok (names.map dir.child) ∧
      names.Pairwise (· < ·) ∧ (names.map dir.child).Nodup ∧
      (∀ t, s.Rearranges t → discover t dir stem = .ok (names.map dir.child)) ∧
      (∀ name, name ∈ names ↔ (∃ e, s.at? (name :: o) = some e) ∧ name.Matches stem ∧
        ¬ ∃ place, s.Reaches (dir.child name) place ∧ s.at? place = some .directory) ∧
      ((∀ name, name ∈ names ↔ Eligible s o stem name) ↔ ¬ Overlooks s dir o links stem) := by
  have hnames := discover_eq (Store.list_of_locate hlocate ho) stem
  have hsorted := ascending_mergeSort (nodup_selected s dir stem o)
  have hreaches := Store.locate_iff_reaches.mp hlocate
  obtain ⟨links, -, hlinks⟩ := hreaches.2
  refine ⟨_, links, hlinks, hnames, hsorted, ?_, ?_, ?_, ?_⟩
  · refine List.Nodup.map (fun _ _ heq => Path.child_injective heq) ?_
    exact (List.mergeSort_perm _ _).nodup_iff.mpr (nodup_selected s dir stem o)
  · intro t hrearranges
    exact (discover_rearranged hrearranges dir stem).trans hnames
  · intro name
    rw [List.mem_mergeSort]
    exact mem_selected_iff_reaches
  · simp only [List.mem_mergeSort]
    exact selected_eligible_iff hreaches hlinks ho

/-- Of the varied directory, the file and the link to it are discovered, and these are the eligible
entries. -/
theorem discover_eligible_varied :
    discover variedStore (.ofText "in".toList) "p-".toList =
        .ok [.ofText "in/p-link".toList, .ofText "in/p-one".toList] ∧
      ∀ name : Name, name ∈ [Utf8.encode "p-link".toList, Utf8.encode "p-one".toList] ↔
        Eligible variedStore [Utf8.encode "in".toList] "p-".toList name := by
  have hdir : variedStore.at? [Utf8.encode "in".toList] = some .directory := by
    decide +kernel
  obtain ⟨names, links, hlinks, hnames, -, -, -, -, heligible⟩ :=
    discover_eligible "p-".toList locate_varied hdir
  have hsame : names.map (Path.ofText "in".toList).child =
      [Utf8.encode "p-link".toList, Utf8.encode "p-one".toList].map
        (Path.ofText "in".toList).child :=
    Except.ok.inj (hnames.symm.trans discover_varied)
  rw [List.map_injective_iff.mpr (fun _ _ heq => Path.child_injective heq) hsame] at heligible
  exact ⟨discover_varied, heligible.mpr
    (not_overlooks_of_accessible (by decide) hlinks hdir (accessible_varied hlinks))⟩

/-!
## An overlooked directory
-/

def hollowStore : Store :=
  Store.empty.put [Utf8.encode "generated".toList] .directory

/-- In the working directory, which is spelled out by many dots, the directory is discovered as a
binary, though it is none. -/
theorem discover_eligible_dotted :
    hollowStore.locate .followed (dots 2044) = .ok (.found []) ∧
      hollowStore.at? [Utf8.encode "generated".toList] = some .directory ∧
      discover hollowStore (dots 2044) [] =
        .ok [(dots 2044).child (Utf8.encode "generated".toList)] ∧
      ¬ Eligible hollowStore [] [] (Utf8.encode "generated".toList) := by
  have hlocate : hollowStore.locate .followed (dots 2044) = .ok (.found []) :=
    leads_dotted rfl
  have hdir : hollowStore.at? [Utf8.encode "generated".toList] = some .directory := by
    decide +kernel
  have henters : hollowStore.Enters [] (Utf8.encode "generated".toList) :=
    ⟨0, _, .directory hdir (.done _), hdir⟩
  have hlong : Path.maxLength <
      ((dots 2044).child (Utf8.encode "generated".toList)).bytes.length := by
    have hlength := Path.length_le_child (dots 2044) (Utf8.encode "generated".toList)
    rw [length_dots] at hlength
    exact Nat.lt_of_lt_of_le (by decide) hlength
  have hselected : selected hollowStore (dots 2044) [] (hollowStore.namesIn []) =
      [Utf8.encode "generated".toList] := by
    have hnames : hollowStore.namesIn [] = [Utf8.encode "generated".toList] := by
      decide +kernel
    have hmem : Utf8.encode "generated".toList ∈
        selected hollowStore (dots 2044) [] (hollowStore.namesIn []) := by
      refine mem_selected_iff_reaches.mpr ⟨⟨_, hdir⟩, ⟨_, rfl, ⟨_, rfl⟩, by decide⟩, ?_⟩
      rintro ⟨place, ⟨⟨-, -, hlength⟩, -⟩, -⟩
      exact absurd hlength (Nat.not_le.mpr hlong)
    rw [hnames] at hmem ⊢
    exact List.filter_cons_of_pos (List.mem_filter.mp hmem).2
  refine ⟨hlocate, hdir, ?_, fun heligible => heligible.notDirectory henters⟩
  exact discover_of_sorted (Store.list_of_locate hlocate rfl) hselected
    (List.pairwise_singleton _ _)

end Batch

end Imprint
