import Imprint.Proofs.Generation
import Imprint.Proofs.Text.Shown

/-!
# Processing a binary

Processing a binary is all or nothing on the files.  Where the binary cannot be
inspected or no model can be made of it, nothing is written.  A model that cannot
be saved leaves at most directories on the way to its place, and one that is
saved is the only file that is new or changed.  That file may have further names:
where the binary is one of them, it is replaced by its own model.
-/

namespace Imprint

namespace Store

/-- The second store has a file with the contents at a location that the path leads to, which
was free or held a file, and the same at all its other names.  It has directories that the first
has not, each led to by one of the directory paths, and is the same otherwise. -/
structure Saved (s : Store) (dirs : List Path) (path : Path) (contents : Bytes) (t : Store)
    (location : Location) : Prop where
  workingDirectory : t.workingDirectory = s.workingDirectory
  number? : ∀ place, t.number? place = s.number? place
  leads : t.locate .followed path = .ok (.found location)
  holds : ∃ executable, t.at? location = some (.file contents executable)
  replaced : s.at? location = none ∨ ∃ old executable, s.at? location = some (.file old executable)
  names : ∀ place, s.SameFile place location → t.at? place = t.at? location
  elsewhere : ∀ place, ¬ s.SameFile place location → t.at? place = s.at? place ∨
    s.at? place = none ∧ t.at? place = some .directory ∧
      ∃ dir ∈ dirs, t.locate .followed dir = .ok (.found place)

namespace Saved

variable {s made t : Store} {dirs : List Path} {path : Path} {contents : Bytes}
  {location : Location}

theorem of_wrote (hprepares : s.Prepares dirs made)
    (hwrote : made.Wrote path contents t location) : s.Saved dirs path contents t location where
  workingDirectory := hwrote.grows.workingDirectory.trans hprepares.workingDirectory
  number? place := (hwrote.grows.number? place).trans (hprepares.number? place)
  leads := hwrote.leads
  holds := hwrote.holds
  replaced := by
    rcases hprepares.entries location with hsame | ⟨hnone, -⟩
    · rw [← hsame]
      exact hwrote.free
    · exact Or.inl hnone
  names place hsame :=
    hwrote.at?_of_sameFile ((hprepares.adds.grows.sameFile_iff place location).mpr hsame)
  elsewhere place hplace := by
    rw [hwrote.elsewhere place (mt (hprepares.adds.grows.sameFile_iff place location).mp hplace)]
    rcases hprepares.entries place with hsame | ⟨hnone, hdir, dir, hmem, hlocate⟩
    · exact Or.inl hsame
    · right
      have hgrown := hwrote.grows.directory hdir
      exact ⟨hnone, hdir, dir, hmem,
        locate_grows hwrote.grows hlocate (occupied_of_directory hgrown)⟩

theorem read (hsaved : s.Saved dirs path contents t location) : t.read path = .ok contents := by
  obtain ⟨executable, hfile⟩ := hsaved.holds
  exact read_of_locate hsaved.leads hfile

theorem read_other (hsaved : s.Saved dirs path contents t location) (hgrows : s.Grows t)
    {other : Path} {place : Location} {old : Bytes} {executable : Bool}
    (hlocate : s.locate .followed other = .ok (.found place))
    (hold : s.at? place = some (.file old executable)) :
    t.read other = .ok (if s.SameFile place location then contents else old) := by
  obtain ⟨new, hnew⟩ := hgrows.file hold
  have hlocate := locate_grows hgrows hlocate (occupied_of_file hnew)
  by_cases hsame : s.SameFile place location
  · obtain ⟨mode, hfile⟩ := hsaved.holds
    rw [if_pos hsame]
    exact read_of_locate hlocate ((hsaved.names place hsame).trans hfile)
  · rw [if_neg hsame]
    rcases hsaved.elsewhere place hsame with hkept | ⟨hnone, -⟩
    · exact read_of_locate hlocate (hkept.trans hold)
    · rw [hold] at hnone
      cases hnone

end Saved

end Store

/-!
## Saving the model of a binary
-/

theorem prepares_of_save {m : Model} {out : Path} {s t : Store} {failure : Failure}
    (hsave : m.save out s = (.error failure, t)) :
    s.Prepares (out :: out.ancestors) t ∧ ∃ path cause, failure = .io path cause ∧
      (path = out ∨ path = outputPath out (Path.ofText m.source)) := by
  have hprepares := s.makeDirectories_prepares out
  unfold Model.save at hsave
  split at hsave
  · rename_i cause made hmake
    cases hsave
    rw [hmake] at hprepares
    exact ⟨hprepares, out, cause, rfl, Or.inl rfl⟩
  · rename_i made hmake
    rw [hmake] at hprepares
    dsimp only at hsave
    split at hsave
    · rename_i cause hwrite
      cases hsave
      exact ⟨hprepares, _, cause, rfl, Or.inr rfl⟩
    · cases hsave

/-- A model that is saved is the only file that is new or changed, and without symbolic links it
stands under its own name. -/
theorem saved_of_save {m : Model} {out path : Path} {s t : Store}
    (hsave : m.save out s = (.ok path, t)) :
    path = outputPath out (Path.ofText m.source) ∧
      ∃ location, s.Saved (out :: out.ancestors) path (Utf8.encode m.render) t location ∧
        s.Grows t ∧ (s.Direct → ∃ o, location = modelName (Path.ofText m.source) :: o) := by
  obtain ⟨hpath, made, location, hmake, hwrote⟩ := wrote_of_save hsave
  have hprepares := s.makeDirectories_prepares out
  rw [hmake] at hprepares
  refine ⟨hpath, location, .of_wrote hprepares hwrote,
    hprepares.adds.grows.trans hwrote.grows, fun hdirect => ?_⟩
  obtain ⟨o, hleads⟩ := Store.leads_of_makeDirectories hmake
  rw [hpath, outputPath_eq] at hwrote
  exact ⟨o, hwrote.location_child (hprepares.adds.direct hdirect) hleads (plain_modelName _)⟩

theorem ne_modelName_of_pieces {binary : Path} {front : List Bytes} {name : Name}
    (hpieces : binary.pieces = front ++ [name]) :
    name ≠ modelName (Path.ofText binary.display) := by
  have hshown : (Path.ofText binary.display).pieces =
      front.map Utf8.shown ++ [Utf8.shown name] := by
    rw [Path.pieces_ofText_display, hpieces, List.map_append]
    rfl
  have hlength := Utf8.length_le_length_shown name
  intro heq
  by_cases hcomponent : Path.componentOf? (Utf8.shown name) = some (.name (Utf8.shown name))
  · have hname := congrArg List.length heq
    rw [modelName, Path.fileName?_of_pieces _ hshown hcomponent, encode_modelExtension,
      Option.getD_some, List.length_append] at hname
    simp only [List.length_cons, List.length_nil] at hname
    omega
  · have hdots : (Utf8.shown name).length ≤ 2 := by
      unfold Path.componentOf? at hcomponent
      split at hcomponent
      · rename_i hnone
        rcases hnone with hempty | hdot
        · simp [hempty]
        · simp [hdot]
      · split at hcomponent
        · rename_i hparent
          simp [hparent]
        · exact absurd rfl hcomponent
    have hname := congrArg List.length heq
    rw [modelName, encode_modelExtension, List.length_append] at hname
    simp only [List.length_cons, List.length_nil] at hname
    omega

theorem found_of_read_of_ne {s : Store} (hdirect : s.Direct) {other : Path} {name : Name}
    {contents : Bytes} (hread : s.read other = .ok contents)
    (hne : ∀ front last, other.pieces = front ++ [last] → last ≠ name) (o : Location) :
    ∃ place executable, s.locate .followed other = .ok (.found place) ∧
      s.at? place = some (.file contents executable) ∧ place ≠ name :: o := by
  obtain ⟨front, last, dir, executable, hpieces, hlocate, hfile⟩ :=
    Store.name_of_read hdirect hread
  refine ⟨_, executable, hlocate, hfile, fun heq => ?_⟩
  exact hne front last hpieces (List.cons.inj heq).1

theorem read_of_save_of_ne {m : Model} {out path other : Path} {s t : Store} {contents : Bytes}
    (hfree : s.LinkFree) (hsave : m.save out s = (.ok path, t))
    (hread : s.read other = .ok contents)
    (hne : ∀ front name, other.pieces = front ++ [name] → name ≠ modelName (Path.ofText m.source)) :
    t.read other = .ok contents := by
  obtain ⟨-, location, hsaved, hgrows, hplace⟩ := saved_of_save hsave
  obtain ⟨o, rfl⟩ := hplace hfree.direct
  obtain ⟨place, executable, hlocate, hfile, hplace⟩ :=
    found_of_read_of_ne hfree.direct hread hne o
  rw [hsaved.read_other hgrows hlocate hfile,
    if_neg fun hsame => hplace (hfree.unshared place _ hsame)]

/-!
## All or nothing
-/

theorem process_cases (d : Disassembler) (out binary : Path) (p : Progress) :
    (∃ failure, inspect p.store binary = .error failure ∧
      (process d out binary p).1 = .error failure ∧
      (process d out binary p).2.store = p.store) ∨
    ∃ image, inspect p.store binary = .ok image ∧
      ((∃ failure, (generate d binary p).1 = .error failure ∧
          (process d out binary p).1 = .error failure ∧
          (process d out binary p).2.store = (generate d binary p).2.store) ∨
        ∃ m, (generate d binary p).1 = .ok m ∧ m.save out (generate d binary p).2.store =
          ((process d out binary p).1, (process d out binary p).2.store)) := by
  have hprocess := process_eq d out binary p
  cases hinspect : inspect p.store binary with
  | error failure =>
      rw [hinspect] at hprocess
      exact Or.inl ⟨failure, rfl, Prod.mk.inj hprocess⟩
  | ok image =>
      rw [hinspect] at hprocess
      refine Or.inr ⟨image, rfl, ?_⟩
      cases hgenerate : (generate d binary p).1 with
      | error failure =>
          rw [hgenerate] at hprocess
          exact Or.inl ⟨failure, rfl, Prod.mk.inj hprocess⟩
      | ok m =>
          rw [hgenerate] at hprocess
          exact Or.inr ⟨m, rfl, hprocess.symm⟩

section

variable {d : Disassembler} {out binary path : Path} {p : Progress}

theorem save_of_process (hok : (process d out binary p).1 = .ok path) :
    (∃ image, inspect p.store binary = .ok image) ∧ ∃ m, (generate d binary p).1 = .ok m ∧
      m.save out (generate d binary p).2.store = (.ok path, (process d out binary p).2.store) := by
  rcases process_cases d out binary p with
    ⟨failure, -, hfails, -⟩ | ⟨image, hinspect, ⟨failure, -, hfails, -⟩ | ⟨m, hgenerate, hsave⟩⟩
  · rw [hok] at hfails
    cases hfails
  · rw [hok] at hfails
    cases hfails
  · rw [hok] at hsave
    exact ⟨⟨image, hinspect⟩, m, hgenerate, hsave⟩

theorem path_of_process (hok : (process d out binary p).1 = .ok path) :
    path = savedPath out binary := by
  obtain ⟨-, m, hgenerate, hsave⟩ := save_of_process hok
  obtain ⟨hpath, -⟩ := saved_of_save hsave
  rw [hpath, source_of_generate hgenerate, savedPath]

end

theorem store_generate_of_readOnly {d : Disassembler} (hreadOnly : d.ReadOnly) (binary : Path)
    (p : Progress) : (generate d binary p).2.store = p.store :=
  follows_generate Job.passage_store
    (fun pass => Job.follows_ask_store hreadOnly pass binary) p

theorem adds_of_process {d : Disassembler} (hreadOnly : d.ReadOnly) {out binary : Path}
    {p : Progress} {failure : Failure} (hfails : (process d out binary p).1 = .error failure) :
    p.store.AddsDirectories (process d out binary p).2.store := by
  have hstore := store_generate_of_readOnly hreadOnly binary p
  rcases process_cases d out binary p with
    ⟨_, -, -, hleft⟩ | ⟨_, -, ⟨_, -, -, hleft⟩ | ⟨m, -, hsave⟩⟩
  · rw [hleft]
    exact .refl p.store
  · rw [hleft, hstore]
    exact .refl p.store
  · rw [hfails, hstore] at hsave
    exact (prepares_of_save hsave).1.adds

/-- Processing a binary fails with what inspecting it or making its model fails with, and then
writes nothing.  A failure to save the model leaves directories on the way to the output
directory at most.  A success leaves such directories and one file, the model, under all names
that the file has; every other file is kept.  The binary itself is another entry than that of the
model, so without further names it still reads as before.  All this is relative to the files as
the disassembler leaves them, which are those at first when it only reads. -/
theorem process_allOrNothing (d : Disassembler) (out binary : Path) (p : Progress) :
    (d.ReadOnly → (generate d binary p).2.store = p.store) ∧
      (∀ failure, inspect p.store binary = .error failure →
        (process d out binary p).1 = .error failure ∧
          (process d out binary p).2.store = p.store) ∧
      (∀ image failure, inspect p.store binary = .ok image →
        (generate d binary p).1 = .error failure →
          (process d out binary p).1 = .error failure ∧
            (process d out binary p).2.store = (generate d binary p).2.store) ∧
      (∀ image m failure, inspect p.store binary = .ok image → (generate d binary p).1 = .ok m →
        (process d out binary p).1 = .error failure →
          (∃ path cause, failure = .io path cause ∧
              (path = out ∨ path = savedPath out binary)) ∧
            (generate d binary p).2.store.Prepares (out :: out.ancestors)
              (process d out binary p).2.store) ∧
      ∀ path, (process d out binary p).1 = .ok path →
        path = savedPath out binary ∧ (∃ image, inspect p.store binary = .ok image) ∧
          ∃ m location, (generate d binary p).1 = .ok m ∧
            (generate d binary p).2.store.Saved (out :: out.ancestors) path
              (Utf8.encode m.render) (process d out binary p).2.store location ∧
            (process d out binary p).2.store.read path = .ok (Utf8.encode m.render) ∧
            (∀ other place old executable,
              (generate d binary p).2.store.locate .followed other = .ok (.found place) →
              (generate d binary p).2.store.at? place = some (.file old executable) →
                (process d out binary p).2.store.read other =
                  .ok (if (generate d binary p).2.store.SameFile place location
                    then Utf8.encode m.render else old)) ∧
            ((generate d binary p).2.store.Direct → ∀ contents,
              (generate d binary p).2.store.read binary = .ok contents →
                ∃ place executable,
                  (generate d binary p).2.store.locate .followed binary = .ok (.found place) ∧
                  (generate d binary p).2.store.at? place = some (.file contents executable) ∧
                  place ≠ location) ∧
            ((generate d binary p).2.store.LinkFree → ∀ contents,
              (generate d binary p).2.store.read binary = .ok contents →
                (process d out binary p).2.store.read binary = .ok contents) := by
  have hprocess := process_eq d out binary p
  refine ⟨fun hreadOnly => store_generate_of_readOnly hreadOnly binary p, ?_, ?_, ?_, ?_⟩
  · intro failure hinspect
    rw [hinspect] at hprocess
    exact Prod.mk.inj hprocess
  · intro image failure hinspect hgenerate
    rw [hinspect, hgenerate] at hprocess
    exact Prod.mk.inj hprocess
  · intro image m failure hinspect hgenerate hfails
    rw [hinspect, hgenerate, hfails] at hprocess
    obtain ⟨hprepares, path, cause, hfailure, hpath⟩ := prepares_of_save hprocess.symm
    rw [source_of_generate hgenerate] at hpath
    exact ⟨⟨path, cause, hfailure, hpath⟩, hprepares⟩
  · intro path hok
    obtain ⟨hinspect, m, hgenerate, hsave⟩ := save_of_process hok
    have hname : ∀ front name, binary.pieces = front ++ [name] →
        name ≠ modelName (Path.ofText m.source) := by
      rw [source_of_generate hgenerate]
      exact fun front name => ne_modelName_of_pieces
    obtain ⟨-, location, hsaved, hgrows, hplace⟩ := saved_of_save hsave
    refine ⟨path_of_process hok, hinspect, m, location, hgenerate, hsaved, hsaved.read, ?_, ?_, ?_⟩
    · intro other place old executable hlocate hold
      exact hsaved.read_other hgrows hlocate hold
    · intro hdirect contents hread
      obtain ⟨o, rfl⟩ := hplace hdirect
      exact found_of_read_of_ne hdirect hread hname o
    · intro hfree contents hread
      exact read_of_save_of_ne hfree hsave hread hname

/-- An image, and a further name of it at the path of its model. -/
def sharedStore : Store :=
  let binary : Location := [Utf8.encode "a".toList]
  let out : Location := [Utf8.encode "out".toList]
  ((Store.empty.put binary (.file bareImage false)).put out .directory).share binary
    (Utf8.encode "a.ucl".toList :: out)

/-- There is no symbolic link, and yet the image is replaced by its model. -/
theorem process_allOrNothing_shared :
    sharedStore.Direct ∧
      (process (.ofReplies fun _ => .ok []) (.ofText "out".toList) (.ofText "a".toList)
        { store := sharedStore }).1 = .ok (.ofText "out/a.ucl".toList) ∧
      sharedStore.read (.ofText "a".toList) = .ok bareImage ∧
      ∃ m, (generate (.ofReplies fun _ => .ok []) (.ofText "a".toList)
          { store := sharedStore }).1 = .ok m ∧
        (process (.ofReplies fun _ => .ok []) (.ofText "out".toList) (.ofText "a".toList)
          { store := sharedStore }).2.store.read (.ofText "a".toList) =
            .ok (Utf8.encode m.render) ∧
        Utf8.encode m.render ≠ bareImage := by
  refine ⟨?_, by decide +kernel, by decide +kernel, _, rfl, by decide +kernel, by decide +kernel⟩
  exact Store.direct_share
    (Store.direct_put (Store.direct_put Store.direct_empty (by simp)) (by simp))
    (by decide +kernel) (by decide +kernel)

def loneStore : Store :=
  Store.empty.put [Utf8.encode "a".toList] (.file bareImage false)

theorem linkFree_loneStore : loneStore.LinkFree :=
  Store.linkFree_put Store.linkFree_empty (by simp)

/-- Processes the image with a disassembler that lists nothing. -/
def processLone (out : Path) : Except Failure Path × Progress :=
  process (.ofReplies fun _ => .ok []) out (.ofText "a".toList) { store := loneStore }

/-- Two directories are made for the model of the image; below the image itself, none can be. -/
theorem process_allOrNothing_lone :
    (∃ m location, loneStore.Saved
        (.ofText "b/c".toList :: (Path.ofText "b/c".toList).ancestors) (.ofText "b/c/a.ucl".toList)
        (Utf8.encode (Model.render m)) (processLone (.ofText "b/c".toList)).2.store location) ∧
      (processLone (.ofText "b/c".toList)).2.store.read (.ofText "a".toList) = .ok bareImage ∧
      loneStore.Prepares (.ofText "a/c".toList :: (Path.ofText "a/c".toList).ancestors)
        (processLone (.ofText "a/c".toList)).2.store ∧
      ∃ failure, inspect loneStore (.ofText "c".toList) = .error failure ∧
        (process (.ofReplies fun _ => .ok []) (.ofText "b".toList) (.ofText "c".toList)
          { store := loneStore }).2.store = loneStore := by
  have hreadOnly := (Disassembler.steady_ofReplies fun _ => .ok []).readOnly
  obtain ⟨hleft, -, -, -, hsaves⟩ := process_allOrNothing (.ofReplies fun _ => .ok [])
    (.ofText "b/c".toList) (.ofText "a".toList) { store := loneStore }
  obtain ⟨-, -, -, hrefused, -⟩ := process_allOrNothing (.ofReplies fun _ => .ok [])
    (.ofText "a/c".toList) (.ofText "a".toList) { store := loneStore }
  obtain ⟨-, hmissing, -⟩ := process_allOrNothing (.ofReplies fun _ => .ok [])
    (.ofText "b".toList) (.ofText "c".toList) { store := loneStore }
  have hok : (processLone (.ofText "b/c".toList)).1 = .ok (.ofText "b/c/a.ucl".toList) := by
    decide +kernel
  obtain ⟨-, -, m, location, -, hsaved, -, -, -, hkept⟩ := hsaves _ hok
  rw [hleft hreadOnly] at hsaved hkept
  refine ⟨⟨m, location, hsaved⟩, hkept linkFree_loneStore bareImage (by decide +kernel), ?_, ?_⟩
  · have hfails : (processLone (.ofText "a/c".toList)).1 =
        .error (.io (.ofText "a/c".toList) .notDirectory) := by
      decide +kernel
    have hinspect : ∃ image, inspect loneStore (.ofText "a".toList) = .ok image :=
      ⟨_, rfl⟩
    obtain ⟨image, hinspect⟩ := hinspect
    have hprepares := (hrefused image _ _ hinspect rfl hfails).2
    rw [store_generate_of_readOnly hreadOnly] at hprepares
    exact hprepares
  · exact ⟨_, rfl, (hmissing _ rfl).2⟩

end Imprint
