import Imprint.Proofs.Path
import Imprint.Proofs.Store.Growth

/-!
# Writing files and making directories

A write changes one file under all its names, and the path leads to it
afterwards.  Making directories adds directories at free locations and touches
nothing else, whether it succeeds or not.
-/

namespace Imprint

namespace Store

/-!
## Reading
-/

theorem entry_of_locate {s : Store} {p : Path} {location : Location} {e : Entry}
    (hlocate : s.locate .followed p = .ok (.found location)) (he : s.at? location = some e) :
    s.entry p = .ok e := by
  simp only [entry, hlocate, he]

theorem read_of_locate {s : Store} {p : Path} {location : Location} {contents : Bytes}
    {executable : Bool} (hlocate : s.locate .followed p = .ok (.found location))
    (hfile : s.at? location = some (.file contents executable)) :
    s.read p = .ok contents := by
  simp only [read, entry_of_locate hlocate hfile]

theorem locate_of_read {s : Store} {p : Path} {contents : Bytes} (hread : s.read p = .ok contents) :
    ∃ location executable, s.locate .followed p = .ok (.found location) ∧
      s.at? location = some (.file contents executable) := by
  unfold read entry at hread
  split at hread
  · cases hread
  · rename_i hentry
    cases hread
    split at hentry
    · cases hentry
    · cases hentry
    · rename_i location hlocate
      split at hentry
      · rename_i hfile
        cases hentry
        exact ⟨location, _, hlocate, hfile⟩
      · cases hentry
  · cases hread
  · cases hread

theorem isDirectory_iff {s : Store} {p : Path} :
    s.isDirectory p = true ↔
      ∃ location, s.locate .followed p = .ok (.found location) ∧
        s.at? location = some .directory := by
  constructor
  · intro hdir
    unfold isDirectory entry at hdir
    split at hdir
    · rename_i hentry
      split at hentry
      · cases hentry
      · cases hentry
      · rename_i location hlocate
        split at hentry
        · rename_i e he
          cases hentry
          exact ⟨location, hlocate, he⟩
        · cases hentry
    · cases hdir
  · rintro ⟨location, hlocate, hdir⟩
    simp only [isDirectory, entry_of_locate hlocate hdir]

theorem leadToOne_iff {s : Store} {p other : Path} :
    s.leadToOne p other = true ↔
      ∃ location place, s.locate .followed p = .ok (.found location) ∧
        s.locate .followed other = .ok (.found place) ∧ s.SameFile location place := by
  unfold leadToOne
  split
  · rename_i location place hlocate hlocate'
    rw [hlocate, hlocate']
    simp
  · rename_i hnone
    simp only [Bool.false_eq_true, false_iff]
    rintro ⟨location, place, hlocate, hlocate', -⟩
    exact hnone location place hlocate hlocate'

theorem read_of_leadToOne {s : Store} {p other : Path} (hone : s.leadToOne p other = true) :
    s.read p = s.read other := by
  obtain ⟨location, place, hlocate, hlocate', hsame⟩ := leadToOne_iff.mp hone
  simp only [read, entry, hlocate, hlocate', hsame.at?_eq]

/-!
## Writing a file
-/

/-- A store is another one after a file was written at a location, which a path leads to. -/
structure Wrote (s : Store) (p : Path) (contents : Bytes) (t : Store)
    (location : Location) : Prop where
  grows : s.Grows t
  holds : ∃ executable, t.at? location = some (.file contents executable)
  leads : t.locate .followed p = .ok (.found location)
  elsewhere : ∀ place, ¬ s.SameFile place location → t.at? place = s.at? place
  free : s.at? location = none ∨ ∃ old executable, s.at? location = some (.file old executable)

theorem wrote_vacant {s : Store} {p : Path} {contents : Bytes} {dir : Location} {name : Name}
    (hlocate : s.locate .writable p = .ok (.vacant dir name)) :
    s.Wrote p contents (s.put (name :: dir) (.file contents false)) (name :: dir) := by
  obtain ⟨hvalid, hdir, hnone⟩ := stands_locate hlocate
  have haccepts := accepts_vacant hvalid hdir hnone
  have hput := at?_put haccepts (.file contents false)
  have hgrows : s.Grows (s.put (name :: dir) (.file contents false)) := grows_put haccepts hnone
  have hholds := hput (name :: dir)
  rw [if_pos rfl] at hholds
  exact
    { grows := hgrows
      holds := ⟨false, hholds⟩
      leads := locate_grows hgrows hlocate (occupied_of_file hholds)
      elsewhere := fun place hplace => by
        rw [hput, if_neg fun heq => hplace (Or.inl heq)]
      free := Or.inl hnone }

theorem wrote_found {s : Store} {p : Path} {old contents : Bytes} {executable : Bool}
    {location : Location} (hlocate : s.locate .writable p = .ok (.found location))
    (hfile : s.at? location = some (.file old executable)) :
    s.Wrote p contents (s.overwrite location contents executable) location := by
  have hoverwrite := at?_overwrite ⟨old, executable, hfile⟩ contents executable
  have hgrows := grows_overwrite hfile contents
  have hholds := hoverwrite location
  rw [if_pos (SameFile.refl s location)] at hholds
  exact
    { grows := hgrows
      holds := ⟨executable, hholds⟩
      leads := locate_grows hgrows hlocate (occupied_of_file hholds)
      elsewhere := fun place hplace => by rw [hoverwrite, if_neg hplace]
      free := Or.inr ⟨old, executable, hfile⟩ }

theorem wrote_of_write {s t : Store} {p : Path} {contents : Bytes}
    (hwrite : s.write p contents = .ok t) : ∃ location, s.Wrote p contents t location := by
  unfold write at hwrite
  split at hwrite
  · cases hwrite
  · rename_i hlocate
    cases hwrite
    exact ⟨_, wrote_vacant hlocate⟩
  · rename_i location hlocate
    split at hwrite
    · rename_i hfile
      cases hwrite
      exact ⟨_, wrote_found hlocate hfile⟩
    · cases hwrite

theorem Wrote.read {s t : Store} {p : Path} {contents : Bytes} {location : Location}
    (hwrote : s.Wrote p contents t location) : t.read p = .ok contents := by
  obtain ⟨executable, hfile⟩ := hwrote.holds
  exact read_of_locate hwrote.leads hfile

theorem Wrote.at?_of_sameFile {s t : Store} {p : Path} {contents : Bytes}
    {location place : Location} (hwrote : s.Wrote p contents t location)
    (hsame : s.SameFile place location) : t.at? place = t.at? location :=
  ((hwrote.grows.sameFile_iff place location).mpr hsame).at?_eq

theorem Wrote.at?_of_ne {s t : Store} {p : Path} {contents : Bytes} {location place : Location}
    (hwrote : s.Wrote p contents t location) (hunshared : s.Unshared) (hne : place ≠ location) :
    t.at? place = s.at? place :=
  hwrote.elsewhere place fun hsame => hne (hunshared place location hsame)

theorem Wrote.direct {s t : Store} {p : Path} {contents : Bytes} {location : Location}
    (hwrote : s.Wrote p contents t location) (hdirect : s.Direct) : t.Direct := by
  intro place target hlink
  by_cases hsame : s.SameFile place location
  · obtain ⟨executable, hfile⟩ := hwrote.holds
    rw [hwrote.at?_of_sameFile hsame, hfile] at hlink
    cases hlink
  · rw [hwrote.elsewhere place hsame] at hlink
    exact hdirect place target hlink

theorem Wrote.linkFree {s t : Store} {p : Path} {contents : Bytes} {location : Location}
    (hwrote : s.Wrote p contents t location) (hfree : s.LinkFree) : t.LinkFree :=
  ⟨hwrote.direct hfree.direct, hwrote.grows.unshared hfree.unshared⟩

/-!
## Making directories
-/

/-- The second store has directories that the first has not, and is the same otherwise. -/
structure AddsDirectories (s t : Store) : Prop where
  workingDirectory : t.workingDirectory = s.workingDirectory
  number? : ∀ location, t.number? location = s.number? location
  entries : ∀ location, t.at? location = s.at? location ∨
    s.at? location = none ∧ t.at? location = some .directory

namespace AddsDirectories

variable {s t : Store}

theorem refl (s : Store) : s.AddsDirectories s where
  workingDirectory := rfl
  number? _ := rfl
  entries _ := Or.inl rfl

theorem entry (hadds : s.AddsDirectories t) {location : Location} {e : Entry}
    (he : s.at? location = some e) : t.at? location = some e := by
  rcases hadds.entries location with hsame | ⟨hnone, _⟩
  · rw [hsame, he]
  · rw [he] at hnone
    cases hnone

theorem grows (hadds : s.AddsDirectories t) : s.Grows t where
  workingDirectory := hadds.workingDirectory
  number? := hadds.number?
  entries _ e he := ⟨e, hadds.entry he, Entry.Alike.refl e⟩

theorem direct (hadds : s.AddsDirectories t) (hdirect : s.Direct) : t.Direct := by
  intro location target hlink
  rcases hadds.entries location with hsame | ⟨_, hdir⟩
  · exact hdirect location target (hsame ▸ hlink)
  · rw [hdir] at hlink
    cases hlink

theorem linkFree (hadds : s.AddsDirectories t) (hfree : s.LinkFree) : t.LinkFree :=
  ⟨hadds.direct hfree.direct, hadds.grows.unshared hfree.unshared⟩

end AddsDirectories

/-- The second store has directories that the first has not, each led to by one of the paths,
and is the same otherwise. -/
structure Prepares (s : Store) (paths : List Path) (t : Store) : Prop where
  workingDirectory : t.workingDirectory = s.workingDirectory
  number? : ∀ place, t.number? place = s.number? place
  entries : ∀ place, t.at? place = s.at? place ∨
    s.at? place = none ∧ t.at? place = some .directory ∧
      ∃ path ∈ paths, t.locate .followed path = .ok (.found place)

namespace Prepares

variable {s t u : Store} {paths : List Path}

theorem refl (s : Store) (paths : List Path) : s.Prepares paths s where
  workingDirectory := rfl
  number? _ := rfl
  entries _ := Or.inl rfl

theorem adds (hprepares : s.Prepares paths t) : s.AddsDirectories t where
  workingDirectory := hprepares.workingDirectory
  number? := hprepares.number?
  entries place := (hprepares.entries place).imp_right fun h => ⟨h.1, h.2.1⟩

theorem mono {more : List Path} (hprepares : s.Prepares paths t) (hmore : paths ⊆ more) :
    s.Prepares more t where
  workingDirectory := hprepares.workingDirectory
  number? := hprepares.number?
  entries place := by
    rcases hprepares.entries place with hsame | ⟨hnone, hdir, path, hpath, hlocate⟩
    · exact Or.inl hsame
    · exact Or.inr ⟨hnone, hdir, path, hmore hpath, hlocate⟩

theorem trans (hst : s.Prepares paths t) (htu : t.Prepares paths u) : s.Prepares paths u where
  workingDirectory := htu.workingDirectory.trans hst.workingDirectory
  number? place := (htu.number? place).trans (hst.number? place)
  entries place := by
    rcases hst.entries place with hsame | ⟨hnone, hdir, path, hpath, hlocate⟩
    · rw [← hsame]
      exact htu.entries place
    · have hdir' := htu.adds.entry hdir
      exact Or.inr ⟨hnone, hdir', path, hpath,
        locate_grows htu.adds.grows hlocate (occupied_of_directory hdir')⟩

end Prepares

theorem walkWith_slashes {s : Store} {jump jump' : Location → List Step → Except Cause Spot}
    {o : Location} {count : Nat} (ho : s.at? o = some .directory)
    (hjump : ∀ here steps, jump here steps = .ok (.found o) →
      jump' here (steps ++ List.replicate count .slash) = .ok (.found o))
    {here : Location} {steps : List Step}
    (hwalk : s.walkWith .followed jump here steps = .ok (.found o)) :
    s.walkWith .followed jump' here (steps ++ List.replicate count .slash) =
      .ok (.found o) := by
  fun_induction walkWith s .followed jump here steps with
  | case1 here =>
      cases hwalk
      rw [List.nil_append]
      clear hjump
      induction count with
      | zero => rfl
      | succ count ih => exact ih
  | case2 here rest ih => exact ih hwalk
  | case3 here rest ih => exact ih hwalk
  | case4 here rest ih => exact ih hwalk
  | case5 here name rest hending => simp at hending
  | case6 => cases hwalk
  | case7 => cases hwalk
  | case8 here name rest _ hvalid hdir ih =>
      simpa [walkWith, hvalid, hdir] using ih hwalk
  | case9 here name hvalid contents executable hfile _ =>
      cases hwalk
      rw [hfile] at ho
      cases ho
  | case10 => cases hwalk
  | case11 here name rest _ hvalid target hlink hkept => simp at hkept
  | case12 here name rest _ hvalid target hlink _ =>
      simpa [walkWith, hvalid, hlink] using hjump _ _ hwalk
  | case13 => cases hwalk

theorem walk_slashes {s : Store} {o : Location} {count : Nat}
    (ho : s.at? o = some .directory) {links : Nat} {here : Location} {steps : List Step}
    (hwalk : s.walk .followed links here steps = .ok (.found o)) :
    s.walk .followed links here (steps ++ List.replicate count .slash) = .ok (.found o) := by
  induction links generalizing here steps with
  | zero =>
      refine walkWith_slashes ho ?_ hwalk
      intro _ _ hjump
      cases hjump
  | succ links ih =>
      refine walkWith_slashes ho ?_ hwalk
      intro _ _ hjump
      exact ih hjump

theorem bytes_withoutTrailingSlashes (p : Path) :
    ∃ count, p.bytes = (withoutTrailingSlashes p).bytes ++ List.replicate count Path.slash := by
  cases hkept : p.bytes.reverse.dropWhile (· = Path.slash) with
  | nil =>
      exact ⟨0, by simp [withoutTrailingSlashes, hkept]⟩
  | cons b kept =>
      have hsplit := List.takeWhile_append_dropWhile (p := (· = Path.slash)) (l := p.bytes.reverse)
      have hslashes : p.bytes.reverse.takeWhile (· = Path.slash) =
          List.replicate (p.bytes.reverse.takeWhile (· = Path.slash)).length Path.slash := by
        refine List.eq_replicate_of_mem fun c hc => ?_
        have hall := List.all_takeWhile (p := (· = Path.slash)) (l := p.bytes.reverse)
        simpa using List.all_eq_true.mp hall c hc
      refine ⟨(p.bytes.reverse.takeWhile (· = Path.slash)).length, ?_⟩
      rw [hslashes, hkept] at hsplit
      have hreverse := congrArg List.reverse hsplit
      rw [List.reverse_append, List.reverse_replicate, List.reverse_reverse] at hreverse
      simp only [withoutTrailingSlashes, hkept]
      exact hreverse.symm

theorem pieces_slashes (bytes : Bytes) (count : Nat) :
    cutAt Path.slash (bytes ++ List.replicate count Path.slash) =
      cutAt Path.slash bytes ++ List.replicate count [] := by
  induction count with
  | zero =>
      simp
  | succ count ih =>
      rw [List.replicate_succ', List.replicate_succ', ← List.append_assoc, cutAt_append, ih,
        List.append_assoc]
      rfl

theorem steps_withoutTrailingSlashes (p : Path) :
    ∃ count, p.steps = (withoutTrailingSlashes p).steps ++ List.replicate count .slash := by
  obtain ⟨count, hbytes⟩ := bytes_withoutTrailingSlashes p
  refine ⟨count, ?_⟩
  unfold Path.steps Path.pieces
  rw [hbytes, pieces_slashes, List.map_append, List.map_replicate]
  rfl

theorem isAbsolute_withoutTrailingSlashes {p : Path} (hp : (withoutTrailingSlashes p).bytes ≠ []) :
    (withoutTrailingSlashes p).isAbsolute = p.isAbsolute := by
  obtain ⟨count, hbytes⟩ := bytes_withoutTrailingSlashes p
  cases hkept : (withoutTrailingSlashes p).bytes with
  | nil =>
      exact absurd hkept hp
  | cons b rest =>
      simp [Path.isAbsolute, hbytes, hkept]

theorem locateDirectory_ok {s : Store} {p : Path} {spot : Spot}
    (hlocate : s.locateDirectory p = .ok spot) :
    Walkable p ∧ s.locate .kept (withoutTrailingSlashes p) = .ok spot := by
  unfold locateDirectory at hlocate
  split at hlocate
  · cases hlocate
  · rename_i hlength
    obtain ⟨count, hbytes⟩ := bytes_withoutTrailingSlashes p
    obtain ⟨hzero, hempty, _⟩ := walkable_of_locate hlocate
    have hzero' : 0 ∉ p.bytes := by
      rw [hbytes]
      intro hmem
      rcases List.mem_append.mp hmem with hkept | hslash
      · exact hzero hkept
      · have := (List.mem_replicate.mp hslash).2
        exact absurd this (by decide)
    refine ⟨⟨hzero', ?_, ?_⟩, hlocate⟩
    · intro hnil
      rw [hnil] at hbytes
      exact hempty (List.append_eq_nil_iff.mp hbytes.symm).1
    · exact Nat.le_of_not_lt fun hlt => hlength ⟨hzero', hlt⟩

theorem locate_slashes {s : Store} {p : Path} {o : Location} (hp : Walkable p)
    (ho : s.at? o = some .directory)
    (hlocate : s.locate .followed (withoutTrailingSlashes p) = .ok (.found o)) :
    s.locate .followed p = .ok (.found o) := by
  obtain ⟨count, hsteps⟩ := steps_withoutTrailingSlashes p
  obtain ⟨-, hempty, -⟩ := walkable_of_locate hlocate
  have hwalk := walk_of_locate hlocate
  rw [origin, isAbsolute_withoutTrailingSlashes hempty] at hwalk
  rw [locate_of_walkable hp, hsteps]
  exact walk_slashes ho hwalk

theorem makeDirectory_ok {s t : Store} {p : Path} (hmake : s.makeDirectory p = .ok t) :
    s.Prepares [p] t ∧ t.isDirectory p = true := by
  unfold makeDirectory at hmake
  split at hmake
  · cases hmake
  · cases hmake
  · rename_i dir name hlocate
    cases hmake
    obtain ⟨hp, hkept⟩ := locateDirectory_ok hlocate
    obtain ⟨hvalid, hdir, hnone⟩ := stands_locate hkept
    have haccepts := accepts_vacant hvalid hdir hnone
    have hput := at?_put haccepts .directory
    have hgrows : s.Grows (s.put (name :: dir) .directory) := grows_put haccepts hnone
    have hmade : (s.put (name :: dir) .directory).at? (name :: dir) = some .directory := by
      simp [hput]
    have hleads := locate_slashes hp hmade
      (locate_grows hgrows hkept (occupied_of_directory hmade))
    refine ⟨?_, isDirectory_iff.mpr ⟨name :: dir, hleads, hmade⟩⟩
    exact
      { workingDirectory := hgrows.workingDirectory
        number? := hgrows.number?
        entries := fun place => by
          by_cases hplace : place = name :: dir
          · right
            subst hplace
            exact ⟨hnone, hmade, p, List.mem_cons_self, hleads⟩
          · left
            simp [hput, hplace] }

theorem ensureDirectories_prepares (s : Store) (paths : List Path) :
    s.Prepares paths (s.ensureDirectories paths).2 := by
  have hhead : ∀ (p : Path) (outer : List Path), [p] ⊆ p :: outer := by
    simp
  fun_induction ensureDirectories s paths with
  | case1 => exact Prepares.refl s []
  | case2 p outer made hmake => exact (makeDirectory_ok hmake).1.mono (hhead p outer)
  | case3 p outer hmake cause made houter ih =>
      rw [houter] at ih
      exact ih.mono (List.subset_cons_self p outer)
  | case4 p outer hmake made houter done hdone ih =>
      rw [houter] at ih
      exact (ih.mono (List.subset_cons_self p outer)).trans
        ((makeDirectory_ok hdone).1.mono (hhead p outer))
  | case5 p outer hmake made houter cause hcause hdir ih =>
      rw [houter] at ih
      exact ih.mono (List.subset_cons_self p outer)
  | case6 p outer hmake made houter cause hcause hdir ih =>
      rw [houter] at ih
      exact ih.mono (List.subset_cons_self p outer)
  | case7 => exact Prepares.refl s _
  | case8 => exact Prepares.refl s _

theorem ensureDirectories_adds (s : Store) (paths : List Path) :
    s.AddsDirectories (s.ensureDirectories paths).2 :=
  (ensureDirectories_prepares s paths).adds

theorem makeDirectories_prepares (s : Store) (p : Path) :
    s.Prepares (p :: p.ancestors) (s.makeDirectories p).2 := by
  unfold makeDirectories
  split
  · exact Prepares.refl s _
  · exact ensureDirectories_prepares s _

theorem makeDirectories_adds (s : Store) (p : Path) :
    s.AddsDirectories (s.makeDirectories p).2 :=
  (makeDirectories_prepares s p).adds

theorem isDirectory_of_ensureDirectories {s t : Store} {p : Path} {outer : List Path}
    (hok : s.ensureDirectories (p :: outer) = (.ok (), t)) : t.isDirectory p = true := by
  rw [ensureDirectories] at hok
  split at hok
  · rename_i made hmake
    cases hok
    exact (makeDirectory_ok hmake).2
  · split at hok
    · cases hok
    · split at hok
      · rename_i done hdone
        cases hok
        exact (makeDirectory_ok hdone).2
      · split at hok
        · rename_i hdir
          cases hok
          exact hdir
        · cases hok
  · split at hok
    · rename_i hdir
      cases hok
      exact hdir
    · cases hok

/-- A path leads to a directory as the place for new entries; the empty path leads to the
working directory. -/
def Leads (s : Store) (p : Path) (o : Location) : Prop :=
  p.bytes = [] ∧ o = s.workingDirectory ∨
    s.locate .followed p = .ok (.found o) ∧ s.at? o = some .directory

theorem Leads.directory {s : Store} {p : Path} {o : Location} (hleads : s.Leads p o) :
    s.at? o = some .directory := by
  rcases hleads with ⟨_, rfl⟩ | ⟨_, hdir⟩
  · exact s.working_directory
  · exact hdir

theorem Leads.grows {s t : Store} {p : Path} {o : Location} (hleads : s.Leads p o)
    (hgrows : s.Grows t) : t.Leads p o := by
  rcases hleads with ⟨hempty, rfl⟩ | ⟨hlocate, hdir⟩
  · exact Or.inl ⟨hempty, hgrows.workingDirectory.symm⟩
  · have hdir' := hgrows.directory hdir
    exact Or.inr ⟨locate_grows hgrows hlocate (occupied_of_directory hdir'), hdir'⟩

theorem Leads.unique {s : Store} {p : Path} {o o' : Location} (hleads : s.Leads p o)
    (hleads' : s.Leads p o') : o = o' := by
  rcases hleads with ⟨hempty, rfl⟩ | ⟨hlocate, -⟩
  · rcases hleads' with ⟨-, rfl⟩ | ⟨hlocate', -⟩
    · rfl
    · exact absurd hempty (walkable_of_locate hlocate').2.1
  · rcases hleads' with ⟨hempty, rfl⟩ | ⟨hlocate', -⟩
    · exact absurd hempty (walkable_of_locate hlocate).2.1
    · rw [hlocate] at hlocate'
      cases hlocate'
      rfl

theorem leads_of_makeDirectories {s t : Store} {p : Path}
    (hok : s.makeDirectories p = (.ok (), t)) : ∃ o, t.Leads p o := by
  unfold makeDirectories at hok
  split at hok
  · rename_i hempty
    exact ⟨t.workingDirectory, Or.inl ⟨hempty, rfl⟩⟩
  · obtain ⟨o, hlocate, hdir⟩ := isDirectory_iff.mp (isDirectory_of_ensureDirectories hok)
    exact ⟨o, Or.inr ⟨hlocate, hdir⟩⟩

end Store

end Imprint
