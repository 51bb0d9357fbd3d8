import Imprint.Store.Files

/-!
# Growth of stores

Writing files and making directories only lets a store grow: what stood at a
location stands there still, but for the contents of files.  A walk that ended
somewhere ends there in every store that has grown out of the first.
-/

namespace Imprint

/-- Entries that differ at most in the contents of a file. -/
inductive Entry.Alike : Entry → Entry → Prop
  | directory : Alike .directory .directory
  | file (old new : Bytes) (executable : Bool) :
      Alike (.file old executable) (.file new executable)
  | link (target : Path) : Alike (.link target) (.link target)

namespace Entry

theorem Alike.refl (e : Entry) : e.Alike e := by
  cases e with
  | directory =>
      exact .directory
  | file contents executable =>
      exact .file contents contents executable
  | link target =>
      exact .link target

theorem Alike.trans {e f g : Entry} (hef : e.Alike f) (hfg : f.Alike g) : e.Alike g := by
  cases hef with
  | directory =>
      exact hfg
  | file old new executable =>
      cases hfg with
      | file _ newer _ =>
          exact .file old newer executable
  | link target =>
      exact hfg

theorem alike_directory {e : Entry} (h : Entry.directory.Alike e) : e = .directory := by
  cases h
  rfl

theorem alike_link {target : Path} {e : Entry} (h : (Entry.link target).Alike e) :
    e = .link target := by
  cases h
  rfl

end Entry

/-- The location that a walk ends at, whether an entry stands there or not. -/
def Spot.location : Spot → Location
  | found location => location
  | vacant dir name => name :: dir

namespace Store

/-- Everything in the first store is in the second, but for the contents of files, and the files
with several names have the same in both. -/
structure Grows (s t : Store) : Prop where
  workingDirectory : t.workingDirectory = s.workingDirectory
  number? : ∀ location, t.number? location = s.number? location
  entries : ∀ location e, s.at? location = some e →
    ∃ f, t.at? location = some f ∧ e.Alike f

namespace Grows

theorem refl (s : Store) : s.Grows s where
  workingDirectory := rfl
  number? _ := rfl
  entries _ e he := ⟨e, he, Entry.Alike.refl e⟩

theorem trans {s t u : Store} (hst : s.Grows t) (htu : t.Grows u) : s.Grows u where
  workingDirectory := htu.workingDirectory.trans hst.workingDirectory
  number? location := (htu.number? location).trans (hst.number? location)
  entries location e he := by
    obtain ⟨f, hf, hef⟩ := hst.entries location e he
    obtain ⟨g, hg, hfg⟩ := htu.entries location f hf
    exact ⟨g, hg, hef.trans hfg⟩

theorem directory {s t : Store} (hgrows : s.Grows t) {location : Location}
    (hdir : s.at? location = some .directory) : t.at? location = some .directory := by
  obtain ⟨e, he, halike⟩ := hgrows.entries location _ hdir
  rw [he, Entry.alike_directory halike]

theorem link {s t : Store} (hgrows : s.Grows t) {location : Location} {target : Path}
    (hlink : s.at? location = some (.link target)) :
    t.at? location = some (.link target) := by
  obtain ⟨e, he, halike⟩ := hgrows.entries location _ hlink
  rw [he, Entry.alike_link halike]

theorem file {s t : Store} (hgrows : s.Grows t) {location : Location} {contents : Bytes}
    {executable : Bool} (hfile : s.at? location = some (.file contents executable)) :
    ∃ new, t.at? location = some (.file new executable) := by
  obtain ⟨e, he, halike⟩ := hgrows.entries location _ hfile
  cases halike with
  | file _ new _ =>
      exact ⟨new, he⟩

theorem sameFile_iff {s t : Store} (hgrows : s.Grows t) (place other : Location) :
    t.SameFile place other ↔ s.SameFile place other := by
  unfold SameFile
  rw [hgrows.number? place, hgrows.number? other]

theorem unshared {s t : Store} (hgrows : s.Grows t) (hunshared : s.Unshared) : t.Unshared :=
  fun place other hsame => hunshared place other ((hgrows.sameFile_iff place other).mp hsame)

end Grows

/-!
## What stands in a store
-/

@[simp] theorem at?_root (s : Store) : s.at? [] = some .directory := rfl

theorem rooted_of_at? {s : Store} {name : Name} {dir : Location} {e : Entry}
    (he : s.at? (name :: dir) = some e) :
    name.Valid ∧ s.at? dir = some .directory := by
  have hmem : name :: dir ∈ s.entries.map Prod.fst := by
    have hlookup : s.entries.lookup (name :: dir) = some e := he
    obtain ⟨front, back, hsplit, _⟩ := List.lookup_eq_some_iff.mp hlookup
    rw [hsplit]
    simp
  obtain ⟨other, place, heq, hvalid, hdir⟩ := s.rooted _ hmem
  cases heq
  exact ⟨hvalid, hdir⟩

theorem at?_of_mem {s : Store} {place : Location} {e : Entry} (he : (place, e) ∈ s.entries) :
    s.at? place = some e := by
  obtain ⟨name, dir, rfl, -⟩ := s.rooted place (List.mem_map_of_mem he)
  exact (Located.lookup_eq_some_iff_mem s.places_nodup).mpr he

theorem at?_tail {s : Store} {here : Location} (hhere : s.at? here = some .directory) :
    s.at? here.tail = some .directory := by
  cases here with
  | nil =>
      exact hhere
  | cons name dir =>
      exact (rooted_of_at? hhere).2

theorem accepts_vacant {s : Store} {dir : Location} {name : Name} (hvalid : name.Valid)
    (hdir : s.at? dir = some .directory) (hnone : s.at? (name :: dir) = none) :
    s.Accepts (name :: dir) :=
  ⟨⟨name, dir, rfl, hvalid, hdir⟩, by simp [hnone]⟩

@[simp] theorem workingDirectory_put (s : Store) (location : Location) (e : Entry) :
    (s.put location e).workingDirectory = s.workingDirectory := by
  unfold put
  split <;> rfl

theorem number?_put {s : Store} {location : Location} (haccepts : s.Accepts location) (e : Entry)
    (place : Location) :
    (s.put location e).number? place = if place = location then none else s.number? place := by
  rw [put, dif_pos haccepts]
  exact Located.lookup_erase location place s.numbers

theorem number?_of_vacant {s : Store} {location : Location} (hnone : s.at? location = none) :
    s.number? location = none := by
  cases hnumber : s.number? location with
  | none => rfl
  | some number =>
      obtain ⟨contents, executable, hfile, -⟩ :=
        s.numbered location location number hnumber hnumber
      exact absurd (hnone.symm.trans hfile) (by simp)

theorem grows_put {s : Store} {location : Location} {e : Entry} (haccepts : s.Accepts location)
    (hnone : s.at? location = none) : s.Grows (s.put location e) where
  workingDirectory := workingDirectory_put s location e
  number? place := by
    rw [number?_put haccepts]
    by_cases hplace : place = location
    · rw [if_pos hplace, hplace, number?_of_vacant hnone]
    · rw [if_neg hplace]
  entries place f hf := by
    rw [at?_put haccepts]
    by_cases hplace : place = location
    · rw [hplace, hnone] at hf
      cases hf
    · exact ⟨f, by simp [hplace, hf], Entry.Alike.refl f⟩

theorem grows_overwrite {s : Store} {location : Location} {old : Bytes}
    {executable : Bool} (hfile : s.at? location = some (.file old executable)) (contents : Bytes) :
    s.Grows (s.overwrite location contents executable) where
  workingDirectory := workingDirectory_overwrite s location contents executable
  number? := number?_overwrite s location contents executable
  entries place f hf := by
    rw [at?_overwrite ⟨old, executable, hfile⟩]
    by_cases hsame : s.SameFile place location
    · rw [hsame.at?_eq.trans hfile] at hf
      cases hf
      exact ⟨_, if_pos hsame, .file old contents executable⟩
    · exact ⟨f, by rw [if_neg hsame, hf], Entry.Alike.refl f⟩

theorem overwrite_same {s : Store} {location : Location} {contents : Bytes} {executable : Bool}
    (hfile : s.at? location = some (.file contents executable)) :
    s.overwrite location contents executable = s := by
  have hentries : s.overwritten location (.file contents executable) = s.entries.map id := by
    refine List.map_congr_left fun ⟨place, e⟩ he => ?_
    by_cases hsame : s.SameFile place location
    · have hplace := (at?_of_mem he).symm.trans (hsame.at?_eq.trans hfile)
      rw [if_pos (decide_eq_true hsame), Option.some.inj hplace, id]
    · rw [if_neg (by simpa using hsame), id]
  rw [List.map_id] at hentries
  unfold overwrite
  split
  · exact Store.ext hentries rfl rfl
  · rfl

theorem direct_empty : empty.Direct := by
  intro location target hlink
  cases location with
  | nil => cases hlink
  | cons name dir => cases hlink

theorem direct_put {s : Store} (hdirect : s.Direct) {location : Location} {e : Entry}
    (he : ∀ target, e ≠ .link target) : (s.put location e).Direct := by
  intro place target
  by_cases haccepts : s.Accepts location
  · rw [at?_put haccepts]
    by_cases hplace : place = location
    · simpa [hplace] using he target
    · simpa [hplace] using hdirect place target
  · rw [put, dif_neg haccepts]
    exact hdirect place target

theorem direct_share {s : Store} (hdirect : s.Direct) {source target : Location}
    (hsource : s.HoldsFile source) (htarget : s.Accepts target) :
    (s.share source target).Direct := by
  intro place path
  rw [at?_share hsource htarget]
  split
  · exact hdirect source path
  · exact hdirect place path

theorem linkFree_empty : empty.LinkFree where
  direct := direct_empty
  unshared place other hsame := by
    rcases hsame with heq | ⟨hnumber, -⟩
    · exact heq
    · exact absurd rfl hnumber

theorem linkFree_put {s : Store} (hfree : s.LinkFree) {location : Location} {e : Entry}
    (he : ∀ target, e ≠ .link target) : (s.put location e).LinkFree := by
  by_cases haccepts : s.Accepts location
  · refine ⟨direct_put hfree.direct he, fun place other hsame => ?_⟩
    unfold SameFile at hsame
    rw [number?_put haccepts, number?_put haccepts] at hsame
    refine hfree.unshared place other (hsame.imp_right fun ⟨hnumber, heq⟩ => ?_)
    grind
  · rw [put, dif_neg haccepts]
    exact hfree

/-!
## Walks
-/

/-- A walk that ends somewhere ends at an entry, or at a free and valid name of a
directory. -/
def Stands (s : Store) : Spot → Prop
  | .found location => ∃ e, s.at? location = some e
  | .vacant dir name =>
      name.Valid ∧ s.at? dir = some .directory ∧ s.at? (name :: dir) = none

theorem stands_walkWith {s : Store} {ending : Ending}
    {jump : Location → List Step → Except Cause Spot}
    (hjump : ∀ here steps spot, s.at? here = some .directory → jump here steps = .ok spot →
      s.Stands spot)
    {here : Location} {steps : List Step} {spot : Spot}
    (hhere : s.at? here = some .directory)
    (hwalk : s.walkWith ending jump here steps = .ok spot) : s.Stands spot := by
  fun_induction walkWith s ending jump here steps with
  | case1 here =>
      cases hwalk
      exact ⟨_, hhere⟩
  | case2 here rest ih => exact ih hhere hwalk
  | case3 here rest ih => exact ih hhere hwalk
  | case4 here rest ih => exact ih (at?_tail hhere) hwalk
  | case5 => cases hwalk
  | case6 here name hvalid hnone _ =>
      cases hwalk
      exact ⟨hvalid, hhere, hnone⟩
  | case7 => cases hwalk
  | case8 here name rest _ hvalid hdir ih => exact ih hdir hwalk
  | case9 here name hvalid contents executable hfile _ =>
      cases hwalk
      exact ⟨_, hfile⟩
  | case10 => cases hwalk
  | case11 here name rest _ hvalid target hlink _ =>
      cases hwalk
      exact ⟨_, hlink⟩
  | case12 here name rest _ hvalid target hlink _ =>
      refine hjump _ _ _ ?_ hwalk
      split
      · exact s.at?_root
      · exact hhere
  | case13 => cases hwalk

theorem stands_walk {s : Store} {ending : Ending} {links : Nat} {spot : Spot}
    {here : Location} {steps : List Step} (hhere : s.at? here = some .directory)
    (hwalk : s.walk ending links here steps = .ok spot) : s.Stands spot := by
  induction links generalizing here steps spot with
  | zero =>
      refine stands_walkWith ?_ hhere hwalk
      intro _ _ _ _ hjump
      cases hjump
  | succ links ih =>
      refine stands_walkWith ?_ hhere hwalk
      intro _ _ _ hthere hjump
      exact ih hthere hjump

def origin (s : Store) (p : Path) : Location :=
  if p.isAbsolute then [] else s.workingDirectory

@[simp] theorem at?_origin (s : Store) (p : Path) : s.at? (s.origin p) = some .directory := by
  unfold origin
  split
  · exact s.at?_root
  · exact s.working_directory

def Walkable (p : Path) : Prop :=
  0 ∉ p.bytes ∧ p.bytes ≠ [] ∧ p.bytes.length ≤ Path.maxLength

theorem locate_of_walkable {s : Store} {ending : Ending} {p : Path} (hp : Walkable p) :
    s.locate ending p = s.walk ending maxLinks (s.origin p) p.steps := by
  obtain ⟨hzero, hempty, hlength⟩ := hp
  rw [locate, if_neg hzero, if_neg hempty, if_neg (Nat.not_lt.mpr hlength)]
  rfl

theorem walkable_of_locate {s : Store} {ending : Ending} {p : Path} {spot : Spot}
    (hlocate : s.locate ending p = .ok spot) : Walkable p := by
  unfold locate at hlocate
  split at hlocate
  · cases hlocate
  · split at hlocate
    · cases hlocate
    · split at hlocate
      · cases hlocate
      · exact ⟨‹_›, ‹_›, by omega⟩

theorem walk_of_locate {s : Store} {ending : Ending} {p : Path} {spot : Spot}
    (hlocate : s.locate ending p = .ok spot) :
    s.walk ending maxLinks (s.origin p) p.steps = .ok spot := by
  rw [← locate_of_walkable (walkable_of_locate hlocate)]
  exact hlocate

theorem stands_locate {s : Store} {ending : Ending} {p : Path} {spot : Spot}
    (hlocate : s.locate ending p = .ok spot) : s.Stands spot :=
  stands_walk (s.at?_origin p) (walk_of_locate hlocate)

/-!
## Walks in a store that has grown
-/

def Occupied (t : Store) (spot : Spot) : Prop :=
  ∃ e, t.at? spot.location = some e ∧ ∀ target, e ≠ .link target

theorem occupied_of_directory {t : Store} {spot : Spot}
    (hdir : t.at? spot.location = some .directory) : t.Occupied spot :=
  ⟨_, hdir, by simp⟩

theorem occupied_of_file {t : Store} {spot : Spot} {contents : Bytes} {executable : Bool}
    (hfile : t.at? spot.location = some (.file contents executable)) : t.Occupied spot :=
  ⟨_, hfile, by simp⟩

/-- A walk that ended at a spot finds it in every store that has grown out of the first and
holds something there. -/
theorem walkWith_grows {s t : Store} (hgrows : s.Grows t) {ending : Ending} {spot : Spot}
    (hspot : t.Occupied spot) {jump jump' : Location → List Step → Except Cause Spot}
    (hjump : ∀ here steps, s.at? here = some .directory → jump here steps = .ok spot →
      jump' here steps = .ok (.found spot.location))
    {here : Location} {steps : List Step} (hhere : s.at? here = some .directory)
    (hwalk : s.walkWith ending jump here steps = .ok spot) :
    t.walkWith .followed jump' here steps = .ok (.found spot.location) := by
  fun_induction walkWith s ending jump here steps with
  | case1 here =>
      cases hwalk
      rfl
  | case2 here rest ih => exact ih hhere hwalk
  | case3 here rest ih => exact ih hhere hwalk
  | case4 here rest ih => exact ih (at?_tail hhere) hwalk
  | case5 => cases hwalk
  | case6 here name hvalid hnone _ =>
      cases hwalk
      obtain ⟨e, he, hlink⟩ := hspot
      have he' : t.at? (name :: here) = some e := he
      cases e with
      | directory => simp [walkWith, hvalid, he', Spot.location]
      | file contents executable => simp [walkWith, hvalid, he', Spot.location]
      | link target => exact absurd rfl (hlink target)
  | case7 => cases hwalk
  | case8 here name rest _ hvalid hdir ih =>
      have hdir' := hgrows.directory hdir
      simpa [walkWith, hvalid, hdir'] using ih hdir hwalk
  | case9 here name hvalid contents executable hfile _ =>
      cases hwalk
      obtain ⟨new, hnew⟩ := hgrows.file hfile
      simp [walkWith, hvalid, hnew, Spot.location]
  | case10 => cases hwalk
  | case11 here name rest _ hvalid target hlink _ =>
      cases hwalk
      obtain ⟨e, he, hne⟩ := hspot
      have he' : t.at? (name :: here) = some e := he
      rw [hgrows.link hlink] at he'
      cases he'
      exact absurd rfl (hne target)
  | case12 here name rest _ hvalid target hlink _ =>
      have hlink' := hgrows.link hlink
      have hthere : s.at? (if target.isAbsolute then [] else here) = some .directory := by
        split
        · exact s.at?_root
        · exact hhere
      simpa [walkWith, hvalid, hlink'] using hjump _ _ hthere hwalk
  | case13 => cases hwalk

theorem walk_grows {s t : Store} (hgrows : s.Grows t) {ending : Ending} {spot : Spot}
    (hspot : t.Occupied spot) {links : Nat} {here : Location} {steps : List Step}
    (hhere : s.at? here = some .directory)
    (hwalk : s.walk ending links here steps = .ok spot) :
    t.walk .followed links here steps = .ok (.found spot.location) := by
  induction links generalizing here steps with
  | zero =>
      refine walkWith_grows hgrows hspot ?_ hhere hwalk
      intro _ _ _ hjump
      cases hjump
  | succ links ih =>
      refine walkWith_grows hgrows hspot ?_ hhere hwalk
      intro _ _ hthere hjump
      exact ih hthere hjump

theorem origin_grows {s t : Store} (hgrows : s.Grows t) (p : Path) : t.origin p = s.origin p := by
  rw [origin, origin, hgrows.workingDirectory]

theorem locate_grows {s t : Store} (hgrows : s.Grows t) {ending : Ending} {p : Path}
    {spot : Spot} (hlocate : s.locate ending p = .ok spot) (hspot : t.Occupied spot) :
    t.locate .followed p = .ok (.found spot.location) := by
  rw [locate_of_walkable (walkable_of_locate hlocate), origin_grows hgrows]
  exact walk_grows hgrows hspot (s.at?_origin p) (walk_of_locate hlocate)

theorem locate_directory_grows {s t : Store} (hgrows : s.Grows t) {ending : Ending} {p : Path}
    {o : Location} (hlocate : s.locate ending p = .ok (.found o))
    (hdir : s.at? o = some .directory) :
    t.locate .followed p = .ok (.found o) ∧ t.at? o = some .directory := by
  have hdir' := hgrows.directory hdir
  exact ⟨locate_grows hgrows hlocate (occupied_of_directory hdir'), hdir'⟩

end Store

end Imprint
