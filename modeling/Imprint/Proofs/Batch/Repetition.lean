import Imprint.Proofs.Batch.Isolation
import Imprint.Proofs.Batch.Ledger
import Imprint.Proofs.Batch.Settled

/-!
# Repetition of a batch

A batch of discovered binaries that is run a second time does for each binary
what it did before and changes nothing, as long as it discovers the same
binaries.  It does unless the first run has made a directory among them whose
path is too long to be told from the path of a file.
-/

namespace Imprint

/-!
## Directories of binaries
-/

/-- The binaries are files of a directory, and nothing is a link. -/
structure Stocked (dir : Path) (o : Location) (binaries : List Path) (s : Store) : Prop where
  linkFree : s.LinkFree
  leads : s.Leads dir o
  discovered : ∀ binary ∈ binaries, ∃ name, binary = dir.child name ∧ Discovered s dir o name

namespace Stocked

variable {dir : Path} {o : Location} {binaries : List Path} {s t : Store}

theorem kept (hstocked : Stocked dir o binaries s) (hyields : s.Yields t) {name : Name}
    (hname : Discovered s dir o name) {contents : Bytes} {executable : Bool}
    (hfile : s.at? (name :: o) = some (.file contents executable)) :
    t.at? (name :: o) = some (.file contents executable) := by
  rcases hyields.at?_of_candidate hstocked.linkFree hname.ne_modelName with hsame | ⟨hnone, -⟩
  · exact hsame.trans hfile
  · rw [hfile] at hnone
    cases hnone

theorem yields (hstocked : Stocked dir o binaries s) (hyields : s.Yields t) :
    Stocked dir o binaries t where
  linkFree := hyields.linkFree hstocked.linkFree
  leads := hstocked.leads.grows hyields.grows
  discovered binary hbinary := by
    obtain ⟨name, hchild, hname⟩ := hstocked.discovered binary hbinary
    refine ⟨name, hchild, hname.valid, hname.undotted, ?_⟩
    refine hname.stands.imp_left ?_
    rintro ⟨contents, executable, hfile⟩
    exact ⟨contents, executable, hstocked.kept hyields hname hfile⟩

theorem read (hstocked : Stocked dir o binaries s) (hyields : s.Yields t) {binary : Path}
    (hbinary : binary ∈ binaries) : t.read binary = s.read binary := by
  obtain ⟨name, rfl, hname⟩ := hstocked.discovered binary hbinary
  exact hname.read_congr hstocked.linkFree.direct (hyields.linkFree hstocked.linkFree).direct
    hstocked.leads (hstocked.leads.grows hyields.grows)
      fun _ _ hfile => hstocked.kept hyields hname hfile

theorem ne_modelName (hstocked : Stocked dir o binaries s) {binary other : Path}
    (hbinary : binary ∈ binaries) (hother : other ∈ binaries) (hne : binary ≠ other) :
    modelName (Path.ofText binary.display) ≠ modelName (Path.ofText other.display) := by
  obtain ⟨name, rfl, hname⟩ := hstocked.discovered binary hbinary
  obtain ⟨name', rfl, hname'⟩ := hstocked.discovered other hother
  intro heq
  rw [hname.modelName_injective hname' heq] at hne
  exact hne rfl

end Stocked

namespace Batch

/-!
## The same binaries again
-/

theorem passage_yields : Job.Passage fun p q => p.store.Yields q.store where
  report p _ := .of_adds (.refl p.store)
  trans := Store.Yields.trans

section

variable {d : Disassembler} (hsteady : d.Steady)

include hsteady

theorem attempt_of_process (first : Progress) {out binary : Path} {p q : Progress}
    {result : Except Failure Path} (hprocess : process d out binary p = (result, q)) :
    attempt (generate d binary first).1 out binary p.store = (result, q.store) := by
  have hattempt := process_eq_attempt hsteady out binary p first
  rw [hprocess] at hattempt
  exact hattempt.symm

theorem follows_process_yields (out binary : Path) :
    (process d out binary).Follows fun p q => p.store.Yields q.store :=
  fun p => yields_of_attempt (attempt_of_process hsteady p rfl)

theorem yields_processAll (b : Batch) (binaries : List Path) (summary : Summary) (p : Progress) :
    p.store.Yields (processAll d b binaries summary p).2.store :=
  follows_processAll passage_yields
    (fun binary _ => follows_process_yields hsteady b.outputDir binary) summary p

variable (first : Progress) {b : Batch} {dir : Path} {o : Location} {all : List Path}

theorem settled_processAll {binary : Path} (hbinary : binary ∈ all) {others : List Path}
    (hothers : ∀ other ∈ others, other ∈ all ∧ binary ≠ other) {result : Except Failure Path}
    (summary : Summary) {p : Progress} (hstocked : Stocked dir o all p.store)
    (hsettled : Settled (generate d binary first).1 b.outputDir binary p.store result) :
    Settled (generate d binary first).1 b.outputDir binary
      (processAll d b others summary p).2.store result := by
  have hpassage : Job.Passage fun p q =>
      Stocked dir o all p.store →
        Settled (generate d binary first).1 b.outputDir binary p.store result →
          Stocked dir o all q.store ∧
            Settled (generate d binary first).1 b.outputDir binary q.store result :=
    { report := fun _ _ hstocked hsettled => ⟨hstocked, hsettled⟩
      trans := fun hpq hqr hstocked hsettled =>
        hqr (hpq hstocked hsettled).1 (hpq hstocked hsettled).2 }
  refine (follows_processAll hpassage ?_ summary p hstocked hsettled).2
  intro other hother p hstocked hsettled
  obtain ⟨hmem, hne⟩ := hothers other hother
  have hyields := follows_process_yields hsteady b.outputDir other p
  refine ⟨hstocked.yields hyields, ?_⟩
  exact hsettled.attempt hstocked.linkFree (fun m hm => source_of_generate hm)
    (attempt_of_process hsteady first rfl) (hstocked.read hyields hbinary)
    (hstocked.ne_modelName hbinary hmem hne)

theorem settled_of_process {binary : Path} (hbinary : binary ∈ all) {p q : Progress}
    {result : Except Failure Path} (hstocked : Stocked dir o all p.store)
    (hprocess : process d b.outputDir binary p = (result, q)) :
    Stocked dir o all q.store ∧
      Settled (generate d binary first).1 b.outputDir binary q.store result := by
  have hattempt := attempt_of_process hsteady first hprocess
  have hyields := yields_of_attempt hattempt
  exact ⟨hstocked.yields hyields, settled_of_attempt (fun m hm => source_of_generate hm)
    hstocked.linkFree hattempt (hstocked.read hyields hbinary)⟩

theorem process_again {out binary : Path} {p : Progress} {result : Except Failure Path}
    (hfree : p.store.LinkFree)
    (hsettled : Settled (generate d binary first).1 out binary p.store result) :
    ∃ again q, process d out binary p = (again, q) ∧ q.store = p.store ∧
      SameResult result again := by
  obtain ⟨again, hagain, hsame⟩ := hsettled.again (fun m hm => source_of_generate hm) hfree
  have hattempt : attempt (generate d binary first).1 out binary p.store =
      ((process d out binary p).1, (process d out binary p).2.store) :=
    attempt_of_process hsteady first rfl
  rw [hagain] at hattempt
  obtain ⟨hresult, hleft⟩ := Prod.mk.inj hattempt
  exact ⟨again, _, Prod.ext hresult.symm rfl, hleft.symm, hsame⟩

end

theorem processAll_again {d : Disassembler} (hsteady : d.Steady) {b : Batch} {dir : Path}
    {o : Location} {all binaries : List Path} (hsub : binaries ⊆ all) (hnodup : binaries.Nodup)
    {summary : Summary} {p q : Progress} {result : Except Failure Summary}
    (hstocked : Stocked dir o all p.store)
    (hall : processAll d b binaries summary p = (result, q)) (p' : Progress)
    (hstore : p'.store = q.store) :
    ∃ again q', processAll d b binaries summary p' = (again, q') ∧ q'.store = q.store ∧
      SameResult result again := by
  induction binaries generalizing summary p p' with
  | nil =>
      cases hall
      exact ⟨_, p', rfl, hstore, .ok summary⟩
  | cons binary rest ih =>
      obtain ⟨hfresh, hnodupRest⟩ := List.nodup_cons.mp hnodup
      have hbinary : binary ∈ all := hsub List.mem_cons_self
      have hsubRest : rest ⊆ all := fun other hother => hsub (List.mem_cons_of_mem binary hother)
      have hothers : ∀ other ∈ rest, other ∈ all ∧ binary ≠ other :=
        fun other hother => ⟨hsubRest hother, fun heq => hfresh (heq ▸ hother)⟩
      cases hone : process d b.outputDir binary p with
      | mk one r =>
          obtain ⟨hstockedRest, hsettled⟩ := settled_of_process hsteady p hbinary hstocked hone
          have hagain : ∀ summary r', r'.store = r.store →
              processAll d b rest summary r' = (result, q) →
              ∃ again u, process d b.outputDir binary p' = (again, u) ∧
                u.store = q.store ∧ SameResult one again := by
            intro summary r' hleft hrest
            have hyields := yields_processAll hsteady b rest summary r'
            have hlast := settled_processAll hsteady p hbinary hothers summary (p := r')
              (hleft ▸ hstockedRest) (hleft ▸ hsettled)
            rw [hrest, hleft] at hyields
            rw [hrest] at hlast
            rw [← hstore] at hlast hyields ⊢
            exact process_again hsteady p (hyields.linkFree hstockedRest.linkFree) hlast
          cases one with
          | ok path =>
              rw [processAll_of_ok hone] at hall
              obtain ⟨again, u, hprocess, hleft, hsame⟩ := hagain _ r rfl hall
              cases hsame
              rw [processAll_of_ok hprocess]
              exact ih hsubRest hnodupRest hstockedRest hall u hleft
          | error failure =>
              rw [processAll_of_error hone] at hall
              by_cases hkeep : b.keepGoing = true
              · rw [if_pos hkeep] at hall
                obtain ⟨again, u, hprocess, hleft, hsame⟩ :=
                  hagain _ { r with events := r.events ++ [.failed binary failure] } rfl hall
                cases hsame
                rw [processAll_of_error hprocess, if_pos hkeep]
                exact ih hsubRest hnodupRest
                  (p := { r with events := r.events ++ [.failed binary failure] })
                  hstockedRest hall _ hleft
              · rw [if_neg hkeep] at hall
                cases hall
                obtain ⟨again, u, hprocess, hleft, hsame⟩ := process_again hsteady p
                  (by rw [hstore]; exact hstockedRest.linkFree) (by rw [hstore]; exact hsettled)
                cases hsame with
                | error halike =>
                    rw [processAll_of_error hprocess, if_neg hkeep]
                    exact ⟨_, u, rfl, hleft.trans hstore, .error halike⟩

/-!
## The same binaries discovered
-/

/-- A directory is new among the binaries, has the name of a candidate, and its path is too
long to be looked at. -/
def HidesDirectory (b : Batch) (s t : Store) : Prop :=
  ∃ name o, s.Leads b.inputDir o ∧ s.at? (name :: o) = none ∧
    t.at? (name :: o) = some .directory ∧ isCandidate b.stem name = true ∧
      Path.maxLength < (b.inputDir.child name).bytes.length

theorem not_hidesDirectory_of_short {b : Batch} {s t : Store}
    (hshort : b.inputDir.bytes.length + (Name.maxLength + 1) ≤ Path.maxLength) :
    ¬ b.HidesDirectory s t := by
  rintro ⟨name, o, -, -, hdir, -, hlong⟩
  obtain ⟨-, -, -, -, -, hlength⟩ := (Store.rooted_of_at? hdir).1
  have hbytes := (Path.bytes_child_sublist b.inputDir name).length_le
  rw [List.length_append, List.length_cons] at hbytes
  omega

/-- After models and directories were added, the names are selected that were selected before,
and those of hidden directories. -/
theorem mem_selected_again {s t : Store} (hfree : s.LinkFree) (hyields : s.Yields t) {dir : Path}
    {stem : Text} {o : Location} (hlocate : s.locate .followed dir = .ok (.found o))
    (hdir : s.at? o = some .directory) {name : Name} :
    name ∈ selected t dir stem (t.namesIn o) ↔ name ∈ selected s dir stem (s.namesIn o) ∨
      s.at? (name :: o) = none ∧ t.at? (name :: o) = some .directory ∧
        isCandidate stem name = true ∧ Path.maxLength < (dir.child name).bytes.length := by
  obtain ⟨hlocate', hdir'⟩ := Store.locate_directory_grows hyields.grows hlocate hdir
  rw [mem_selected_iff (hyields.linkFree hfree).direct hlocate' hdir',
    mem_selected_iff hfree.direct hlocate hdir]
  have hentry : isCandidate stem name = true → t.at? (name :: o) = s.at? (name :: o) ∨
      s.at? (name :: o) = none ∧ t.at? (name :: o) = some .directory := by
    intro hcandidate
    refine hyields.at?_of_candidate hfree ?_
    rintro binary rfl
    rw [isCandidate_modelName] at hcandidate
    cases hcandidate
  constructor
  · rintro ⟨hcandidate, e, he, hlength⟩
    rcases hentry hcandidate with hsame | ⟨hnone, hnew⟩
    · exact Or.inl ⟨hcandidate, e, hsame.symm.trans he, hlength⟩
    · rw [hnew] at he
      exact Or.inr ⟨hnone, hnew, hcandidate, hlength (Option.some.inj he).symm⟩
  · rintro (⟨hcandidate, e, he, hlength⟩ | ⟨-, hnew, hcandidate, hlength⟩)
    · rcases hentry hcandidate with hsame | ⟨hnone, -⟩
      · exact ⟨hcandidate, e, hsame.trans he, hlength⟩
      · rw [he] at hnone
        cases hnone
    · exact ⟨hcandidate, .directory, hnew, fun _ => hlength⟩

theorem discover_again_iff {b : Batch} {s t : Store} (hfree : s.LinkFree) (hyields : s.Yields t)
    {binaries : List Path} (hdiscover : discover s b.inputDir b.stem = .ok binaries) :
    discover t b.inputDir b.stem = discover s b.inputDir b.stem ↔ ¬ b.HidesDirectory s t := by
  obtain ⟨o, hlocate, hdir, hlist⟩ := list_of_discover hdiscover
  obtain ⟨hlocate', hdir'⟩ := Store.locate_directory_grows hyields.grows hlocate hdir
  have hlist' := Store.list_of_locate hlocate' hdir'
  constructor
  · rintro hsame ⟨name, o', hleads, hnone, hnew, hcandidate, hlong⟩
    cases hleads.unique (Or.inr ⟨hlocate, hdir⟩)
    have hselected := (mem_selected_again hfree hyields hlocate hdir).mpr
      (Or.inr ⟨hnone, hnew, hcandidate, hlong⟩)
    have hmem := (mem_of_discover hlist' (hsame.trans hdiscover)).mpr ⟨name, hselected, rfl⟩
    obtain ⟨name', hname', heq⟩ := (mem_of_discover hlist hdiscover).mp hmem
    cases Path.child_injective heq
    obtain ⟨e, he⟩ := Store.at?_of_mem_namesIn (mem_selected.mp hname').1
    rw [hnone] at he
    cases he
  · intro hnone
    refine discover_congr hlist hlist' fun name => ?_
    rw [mem_selected_again hfree hyields hlocate hdir]
    refine ⟨fun hmem => ?_, Or.inl⟩
    rcases hmem with hmem | ⟨hfree, hnew, hcandidate, hlong⟩
    · exact hmem
    · exact absurd ⟨name, o, Or.inr ⟨hlocate, hdir⟩, hfree, hnew, hcandidate, hlong⟩ hnone

theorem subset_of_discover_again {s t : Store} (hfree : s.LinkFree) (hyields : s.Yields t)
    {dir : Path} {stem : Text} {binaries again : List Path}
    (hdiscover : discover s dir stem = .ok binaries) (hagain : discover t dir stem = .ok again) :
    binaries ⊆ again := by
  obtain ⟨o, hlocate, hdir, hlist⟩ := list_of_discover hdiscover
  obtain ⟨hlocate', hdir'⟩ := Store.locate_directory_grows hyields.grows hlocate hdir
  intro binary hbinary
  obtain ⟨name, hname, rfl⟩ := (mem_of_discover hlist hdiscover).mp hbinary
  refine (mem_of_discover (Store.list_of_locate hlocate' hdir') hagain).mpr ⟨name, ?_, rfl⟩
  exact (mem_selected_again hfree hyields hlocate hdir).mpr (Or.inl hname)

/-- A run that succeeds or fails with a summary ends in the same way when its binaries fare
the same: only failures that name a path can have another cause. -/
theorem concluded_again {ended again : Except Failure Summary} (hsame : SameResult ended again)
    (hresult : (∃ summary, concluded ended = .ok summary) ∨
      ∃ summary, concluded ended = .error (.batch summary)) :
    concluded again = concluded ended := by
  cases hsame with
  | ok summary => rfl
  | error halike =>
      cases halike with
      | refl failure => rfl
      | io path cause again =>
          rcases hresult with ⟨summary, hsummary⟩ | ⟨summary, hsummary⟩
          · cases hsummary
          · cases hsummary

/-- A batch of discovered binaries has succeeded or failed with a summary, over files without
links.  Run again from the files that it left, it discovers the same binaries, ends in the same
way and changes nothing, just when no directory is hidden among the binaries. -/
theorem run_again {d : Disassembler} {b : Batch} {p q : Progress}
    {result : Except Failure Summary} (hsteady : d.Steady) (hfree : p.store.LinkFree)
    (hfiles : b.files = []) (hrun : run d b p = (result, q))
    (hresult : (∃ summary, result = .ok summary) ∨ ∃ summary, result = .error (.batch summary)) :
    (discover q.store b.inputDir b.stem = discover p.store b.inputDir b.stem ∧
        ∀ p' : Progress, p'.store = q.store →
          (run d b p').1 = result ∧ (run d b p').2.store = q.store) ↔
      ¬ b.HidesDirectory p.store q.store := by
  have hbinaries := binaries_eq_discover hfiles
  cases hdiscover : discover p.store b.inputDir b.stem with
  | error failure =>
      have hnone := (hbinaries p.store).trans hdiscover
      obtain ⟨cause, rfl⟩ := io_of_binaries hnone
      rw [run_apply, hnone] at hrun
      cases hrun
      rcases hresult with ⟨summary, hsummary⟩ | ⟨summary, hsummary⟩
      · cases hsummary
      · cases hsummary
  | ok found =>
      obtain ⟨o, hleads, hnodup, hdiscovered⟩ := discovered_of_discover hfree.direct hdiscover
      obtain ⟨start, hstart, -, hruns⟩ := run_of_binaries ((hbinaries p.store).trans hdiscover)
      rw [hruns] at hrun
      cases hall : processAll d b found {} start with
      | mk ended last =>
          rw [hall] at hrun
          cases hrun
          have hyields := yields_processAll hsteady b found {} start
          rw [hall, hstart] at hyields
          rw [← hdiscover, ← discover_again_iff hfree hyields hdiscover]
          refine ⟨And.left, fun hsame => ⟨hsame, fun p' hp' => ?_⟩⟩
          rw [hdiscover, ← hp', ← hbinaries] at hsame
          obtain ⟨start', hstart', -, hruns'⟩ := run_of_binaries hsame
          have hstocked : Stocked b.inputDir o found start.store := by
            rw [hstart]
            exact ⟨hfree, hleads, hdiscovered⟩
          obtain ⟨again, last', hagain, hstore, hresults⟩ := processAll_again hsteady
            (List.Subset.refl found) hnodup hstocked hall start' (hstart'.trans hp')
          rw [hruns', hagain]
          exact ⟨concluded_again hresults hresult, hstore⟩

theorem steady_silent : silent.Steady :=
  Disassembler.steady_ofReplies _

/-- The batch of two files, one of them no image, with its models in a directory among them. -/
def nestedBatch : Batch :=
  { pairBatch with outputDir := .ofText "in/models".toList }

/-- Run again, the batch fails with the same summary and changes nothing. -/
theorem run_again_nested :
    ∃ summary q, run silent nestedBatch { store := pairStore } = (.error (.batch summary), q) ∧
      summary.written = [.ofText "in/models/a.ucl".toList] ∧
      summary.failed = [.ofText "in/b".toList] ∧
      (run silent nestedBatch { store := q.store }).1 = .error (.batch summary) ∧
      (run silent nestedBatch { store := q.store }).2.store = q.store := by
  have hbinaries : nestedBatch.binaries pairStore =
      .ok [.ofText "in/a".toList, .ofText "in/b".toList] := discover_pairStore
  have hall : (processAll silent nestedBatch [.ofText "in/a".toList, .ofText "in/b".toList] {}
      { store := pairStore, events := [.selected 2] }).1 =
        .ok { written := [.ofText "in/models/a.ucl".toList]
              failed := [.ofText "in/b".toList] } := by
    decide +kernel
  have hrun := run_eq (d := silent) (p := { store := pairStore }) hbinaries (Prod.ext hall rfl)
  rw [if_neg (by simp)] at hrun
  obtain ⟨-, hagain⟩ := (run_again steady_silent linkFree_pairStore rfl hrun
    (Or.inr ⟨_, rfl⟩)).mpr (not_hidesDirectory_of_short (by decide +kernel))
  obtain ⟨hresult, hstore⟩ := hagain { store := _ } rfl
  exact ⟨_, _, hrun, rfl, rfl, hresult, hstore⟩

/-!
## A hidden directory
-/

def dots (count : Nat) : Path :=
  ⟨(List.replicate count [Path.dot, Path.slash]).flatten⟩

theorem pieces_dots (count : Nat) :
    (dots count).pieces = List.replicate count [Path.dot] ++ [[]] := by
  induction count with
  | zero => rfl
  | succ count ih =>
      have hbytes : (dots (count + 1)).bytes = [Path.dot] ++ Path.slash :: (dots count).bytes := rfl
      rw [Path.pieces] at ih ⊢
      rw [hbytes, cutAt_append, ih]
      rfl

theorem length_dots (count : Nat) : (dots count).bytes.length = 2 * count := by
  simp [dots, Nat.mul_comm]

theorem walkable_dots {count : Nat} (hpos : 0 < count) (hlength : 2 * count ≤ Path.maxLength) :
    Store.Walkable (dots count) := by
  refine ⟨fun hmem => ?_, fun hempty => ?_, ?_⟩
  · obtain ⟨piece, hpiece, hzero⟩ := List.mem_flatten.mp hmem
    rw [(List.mem_replicate.mp hpiece).2] at hzero
    exact absurd hzero (by decide)
  · have hzero := length_dots count
    rw [hempty, List.length_nil] at hzero
    omega
  · rw [length_dots]
    exact hlength

theorem locate_dots {count : Nat} (hpos : 0 < count) (hlength : 2 * count ≤ Path.maxLength)
    (s : Store) : s.locate .followed (dots count) = .ok (.found s.workingDirectory) := by
  have hsteps : (dots count).steps = List.replicate count .stay ++ [.slash] := by
    rw [Path.steps, pieces_dots, List.map_append, List.map_replicate]
    rfl
  have horigin : s.origin (dots count) = s.workingDirectory := by
    obtain ⟨before, rfl⟩ := Nat.exists_eq_succ_of_ne_zero (Nat.ne_of_gt hpos)
    rfl
  have hadvance : ∀ count, s.advance s.workingDirectory
      (List.replicate count .stay ++ [.slash]) = some s.workingDirectory := by
    intro count
    induction count with
    | zero => rfl
    | succ count ih => exact ih
  refine Store.locate_of_advance (by simp) (walkable_dots hpos hlength) ?_
  rw [horigin, hsteps]
  exact hadvance count

/-- A batch of everything in the working directory, which is spelled out by many dots. -/
def dottedBatch : Batch where
  inputDir := dots 2044
  outputDir := .ofText "generated".toList
  stem := []

theorem leads_dotted {s : Store} (hroot : s.workingDirectory = []) :
    s.locate .followed dottedBatch.inputDir = .ok (.found []) := by
  rw [← hroot]
  exact locate_dots (by decide) (by decide) s

/-- The image in the working directory, by its spelled out path. -/
def dottedImage : Path :=
  dottedBatch.inputDir.child (Utf8.encode "a".toList)

theorem at?_loneStore : loneStore.at? [Utf8.encode "a".toList] = some (.file bareImage false) := by
  decide +kernel

theorem read_dottedImage : loneStore.read dottedImage = .ok bareImage := by
  have hvalid := (Store.rooted_of_at? at?_loneStore).1
  have hwalkable : Store.Walkable dottedImage := by
    refine (Store.walkable_child_iff (walkable_dots (by decide) (by decide)).1 hvalid).mpr ?_
    have hbytes := (Path.bytes_child_sublist (dots 2044) (Utf8.encode "a".toList)).length_le
    rw [List.length_append, length_dots] at hbytes
    exact Nat.le_trans hbytes (by decide)
  refine Store.read_of_locate ?_ at?_loneStore
  rw [dottedImage, Store.locate_child linkFree_loneStore.direct
    (Or.inr ⟨leads_dotted rfl, rfl⟩) hvalid.plain hwalkable, Store.arrive_of_at? at?_loneStore]

theorem discover_dotted : discover loneStore dottedBatch.inputDir dottedBatch.stem =
    .ok [dottedImage] := by
  have hlist : loneStore.list dottedBatch.inputDir = .ok (loneStore.namesIn []) :=
    Store.list_of_locate (leads_dotted rfl) rfl
  have hnames : loneStore.namesIn [] = [Utf8.encode "a".toList] := by
    decide +kernel
  have hcandidate : isCandidate dottedBatch.stem (Utf8.encode "a".toList) = true := by
    decide +kernel
  have hselected : Utf8.encode "a".toList ∈
      selected loneStore dottedBatch.inputDir dottedBatch.stem (loneStore.namesIn []) :=
    (mem_selected_iff linkFree_loneStore.direct (leads_dotted rfl) rfl).mpr
      ⟨hcandidate, _, at?_loneStore, by simp⟩
  have hall : selected loneStore dottedBatch.inputDir dottedBatch.stem (loneStore.namesIn []) =
      [Utf8.encode "a".toList] := by
    obtain ⟨-, -, hnotDirectory⟩ := mem_selected.mp hselected
    rw [hnames]
    refine List.filter_cons_of_pos ?_
    rw [hcandidate, hnotDirectory]
    rfl
  exact discover_of_sorted hlist hall (List.pairwise_singleton _ _)

theorem imageOf_bareImage (binary : Path) : ∃ image, imageOf binary bareImage = .ok image :=
  ⟨_, rfl⟩

theorem generate_silent (binary : Path) (p : Progress) :
    ∃ m, (generate silent binary p).1 = .ok m :=
  ⟨_, rfl⟩

theorem process_dottedImage {p : Progress} (hp : p.store = loneStore) :
    ∃ q, process silent dottedBatch.outputDir dottedImage p =
        (.ok (.ofText "generated/a.ucl".toList), q) ∧
      q.store.at? [Utf8.encode "generated".toList] = some .directory := by
  obtain ⟨image, himage⟩ := imageOf_bareImage dottedImage
  obtain ⟨m, hmodel⟩ := generate_silent dottedImage p
  have hmake : loneStore.makeDirectories dottedBatch.outputDir =
      (.ok (), (loneStore.makeDirectories dottedBatch.outputDir).2) :=
    Prod.ext (by decide +kernel) rfl
  have hmade : (loneStore.makeDirectories dottedBatch.outputDir).2.at?
      [Utf8.encode "generated".toList] = some .directory := by
    decide +kernel
  have hvacant : (loneStore.makeDirectories dottedBatch.outputDir).2.locate .writable
      (.ofText "generated/a.ucl".toList) =
        .ok (.vacant [Utf8.encode "generated".toList] (Utf8.encode "a.ucl".toList)) := by
    decide +kernel
  have hpath : outputPath dottedBatch.outputDir (Path.ofText m.source) =
      .ofText "generated/a.ucl".toList := by
    have hvalid := (Store.rooted_of_at? at?_loneStore).1
    have hdecode : Utf8.decode? (Utf8.encode "a".toList) = some "a".toList := by
      decide +kernel
    rw [source_of_generate hmodel, outputPath_eq, modelName, dottedImage,
      fileName?_display_child hvalid hdecode]
    decide +kernel
  have hwrite : ∃ t, (loneStore.makeDirectories dottedBatch.outputDir).2.write
      (.ofText "generated/a.ucl".toList) (Utf8.encode m.render) = .ok t := by
    rw [Store.write, hvacant]
    exact ⟨_, rfl⟩
  obtain ⟨t, hwrite⟩ := hwrite
  have hsave : m.save dottedBatch.outputDir loneStore =
      (.ok (.ofText "generated/a.ucl".toList), t) := by
    rw [Model.save, hmake]
    dsimp only
    rw [hpath, hwrite]
  have hinspect : inspect p.store dottedImage = .ok image := by
    rw [hp, inspect_of_read read_dottedImage, himage]
  have hattempt := process_eq_attempt steady_silent dottedBatch.outputDir dottedImage p p
  rw [hmodel, attempt_of_inspect hinspect, hp, hsave] at hattempt
  obtain ⟨location, hwrote⟩ := Store.wrote_of_write hwrite
  cases hprocess : process silent dottedBatch.outputDir dottedImage p with
  | mk result q =>
      rw [hprocess] at hattempt
      obtain ⟨rfl, hstore⟩ := Prod.mk.inj hattempt
      refine ⟨q, rfl, ?_⟩
      rw [← hstore] at hwrote
      exact hwrote.grows.directory hmade

/-- The directory of the models is hidden among the inputs, and the second run takes it for one
of them. -/
theorem run_again_dotted :
    ∃ summary q, run silent dottedBatch { store := loneStore } = (.ok summary, q) ∧
      discover q.store dottedBatch.inputDir dottedBatch.stem ≠
        discover loneStore dottedBatch.inputDir dottedBatch.stem ∧
      (run silent dottedBatch { store := q.store }).1 ≠ .ok summary := by
  have hbinaries := (binaries_eq_discover (b := dottedBatch) rfl loneStore).trans discover_dotted
  obtain ⟨start, hstart, -, hruns⟩ := run_of_binaries (p := { store := loneStore }) hbinaries
  obtain ⟨q, hprocess, hmade⟩ := process_dottedImage hstart
  have hall : processAll silent dottedBatch [dottedImage] {} start =
      (.ok { written := [.ofText "generated/a.ucl".toList] }, q) := by
    rw [processAll_of_ok hprocess]
    rfl
  have hyields := yields_processAll steady_silent dottedBatch [dottedImage] {} start
  rw [hall, hstart] at hyields
  have hnone : loneStore.at? [Utf8.encode "generated".toList] = none := by
    decide +kernel
  have hcandidate : isCandidate dottedBatch.stem (Utf8.encode "generated".toList) = true := by
    decide +kernel
  have hlong : Path.maxLength <
      (dottedBatch.inputDir.child (Utf8.encode "generated".toList)).bytes.length := by
    have hlength := Path.length_le_child (dots 2044) (Utf8.encode "generated".toList)
    rw [length_dots] at hlength
    exact Nat.lt_of_lt_of_le (by decide) hlength
  have hdiffers : discover q.store dottedBatch.inputDir dottedBatch.stem ≠
      discover loneStore dottedBatch.inputDir dottedBatch.stem := by
    intro hsame
    exact (discover_again_iff linkFree_loneStore hyields discover_dotted).mp hsame
      ⟨_, [], Or.inr ⟨leads_dotted rfl, rfl⟩, hnone, hmade, hcandidate, hlong⟩
  refine ⟨{ written := [.ofText "generated/a.ucl".toList] }, q, ?_, hdiffers, ?_⟩
  · rw [hruns, hall]
    rfl
  · intro hagain
    cases hrun : run silent dottedBatch { store := q.store } with
    | mk result u =>
        rw [hrun] at hagain
        cases hagain
        obtain ⟨found, hfound, hall', hfailed⟩ := processAll_of_run hrun
        rw [binaries_eq_discover rfl] at hfound
        have hlength := congrArg List.length (written_of_processAll hall' hfailed)
        rw [List.nil_append, List.length_map] at hlength
        obtain ⟨binary, rfl⟩ := List.length_eq_one_iff.mp hlength.symm
        have himage := subset_of_discover_again linkFree_loneStore hyields discover_dotted hfound
          List.mem_cons_self
        rw [← List.mem_singleton.mp himage] at hfound
        exact hdiffers (hfound.trans discover_dotted.symm)

end Batch

end Imprint
