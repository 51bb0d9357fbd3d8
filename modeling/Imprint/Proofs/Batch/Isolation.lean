import Imprint.Proofs.Batch.Stage
import Mathlib.Data.List.Nodup

/-!
# Isolation of the binaries of a batch

A batch that looks for its binaries in a directory and goes on after failures
does for each binary what processing it alone would do: the same ones fail, the
same models are written, and nothing that was there before is changed but what
stood at the places of the models.
-/

namespace Imprint

namespace Batch

/-!
## The run of a batch through its stages
-/

section

variable {d : Disassembler} {b : Batch} {o : Location} (first : Progress)

def alone (d : Disassembler) (b : Batch) (first : Progress) (binary : Path) :
    Except Failure Path :=
  (process d b.outputDir binary first).1

def modelOf (d : Disassembler) (first : Progress) (binary : Path) : Except Failure Model :=
  (generate d binary first).1

theorem process_stage (hsteady : d.Steady)
    (hstart : Stage first.store b.outputDir o (modelOf d first) [] first.store)
    {done : List Path} {p : Progress}
    (hstage : Stage first.store b.outputDir o (modelOf d first) done p.store) {binary : Path}
    (hread : p.store.read binary = first.store.read binary)
    (hfresh : outputPlace o binary ∉ done.map (outputPlace o)) :
    (∃ failure failure' q, alone d b first binary = .error failure ∧
        process d b.outputDir binary p = (.error failure', q) ∧
          Stage first.store b.outputDir o (modelOf d first) done q.store) ∨
      (∃ q, alone d b first binary = .ok (savedPath b.outputDir binary) ∧
        process d b.outputDir binary p = (.ok (savedPath b.outputDir binary), q) ∧
          Stage first.store b.outputDir o (modelOf d first) (done ++ [binary]) q.store) := by
  have hhere := process_eq_attempt hsteady b.outputDir binary p first
  have halone := congrArg Prod.fst (process_eq_attempt hsteady b.outputDir binary first first)
  have hcases := hstart.attempt hstage hread (fun m hm => source_of_generate hm) hfresh
  unfold modelOf at hcases
  cases hprocess : process d b.outputDir binary p with
  | mk result q =>
      rw [hprocess] at hhere
      rw [← hhere] at hcases
      rcases hcases with ⟨⟨failure, hfails⟩, ⟨failure', hfails'⟩, hnext⟩ |
        ⟨hsaves, hsaves', hnext⟩
      · left
        exact ⟨failure, failure', q, halone.trans hfails, congrArg (·, q) hfails', hnext⟩
      · right
        exact ⟨q, halone.trans hsaves, congrArg (·, q) hsaves', hnext⟩

/-- Each binary of a batch that keeps going fares as it would alone, and what the run leaves is
the stage of those that succeeded. -/
theorem processAll_stage (hsteady : d.Steady) (hkeep : b.keepGoing = true)
    (hstart : Stage first.store b.outputDir o (modelOf d first) [] first.store)
    {binaries done : List Path}
    (hread : ∀ binary ∈ binaries, ∀ done t,
      Stage first.store b.outputDir o (modelOf d first) done t →
        t.read binary = first.store.read binary)
    (hplaces : ((done ++ binaries).map (outputPlace o)).Nodup) (summary : Summary)
    {p : Progress} (hstage : Stage first.store b.outputDir o (modelOf d first) done p.store) :
    ∃ q, processAll d b binaries summary p =
        (.ok { written := summary.written ++
                  binaries.filterMap fun binary => (alone d b first binary).toOption
               failed := summary.failed ++
                  binaries.filter fun binary => !(alone d b first binary).isOk }, q) ∧
      Stage first.store b.outputDir o (modelOf d first)
        (done ++ binaries.filter fun binary => (alone d b first binary).isOk) q.store := by
  induction binaries generalizing done summary p with
  | nil =>
      refine ⟨p, ?_, ?_⟩
      · rw [processAll, Job.pure_apply]
        simp
      · simpa using hstage
  | cons binary rest ih =>
      have hreadRest := fun other hother => hread other (List.mem_cons_of_mem binary hother)
      have hfresh : outputPlace o binary ∉ done.map (outputPlace o) := by
        rw [List.map_append, List.map_cons] at hplaces
        intro hmem
        exact (List.nodup_append.mp hplaces).2.2 _ hmem _ List.mem_cons_self rfl
      unfold processAll
      rcases process_stage first hsteady hstart hstage
        (hread binary List.mem_cons_self done p.store hstage) hfresh with
        ⟨failure, failure', q, halone, hprocess, hnext⟩ | ⟨q, halone, hprocess, hnext⟩
      · have hrest : ((done ++ rest).map (outputPlace o)).Nodup :=
          hplaces.sublist (List.Sublist.map _
            (List.Sublist.append_left (List.sublist_cons_self binary rest) done))
        obtain ⟨r, hall, hlast⟩ := ih hreadRest hrest
          { summary with failed := summary.failed ++ [binary] }
          (p := { q with events := q.events ++ [.failed binary failure'] }) hnext
        refine ⟨r, ?_, ?_⟩
        · simp only [hprocess, hkeep, if_true]
          rw [hall]
          simp [halone, Except.toOption, Except.isOk, Except.toBool]
        · simpa [halone, Except.isOk, Except.toBool] using hlast
      · have hrest : ((done ++ [binary] ++ rest).map (outputPlace o)).Nodup := by
          simpa using hplaces
        obtain ⟨r, hall, hlast⟩ := ih hreadRest hrest
          { summary with written := summary.written ++ [savedPath b.outputDir binary] } hnext
        refine ⟨r, ?_, ?_⟩
        · simp only [hprocess]
          rw [hall]
          simp [halone, Except.toOption, Except.isOk, Except.toBool]
        · simpa [halone, Except.isOk, Except.toBool] using hlast

theorem holds_of_alone (hsteady : d.Steady) {binary path : Path}
    (halone : alone d b first binary = .ok path) :
    path = savedPath b.outputDir binary ∧ ∃ m, modelOf d first binary = .ok m ∧
      (process d b.outputDir binary first).2.store.read path = .ok (Utf8.encode m.render) := by
  have heq := process_eq_attempt hsteady b.outputDir binary first first
  have hattempt : attempt (generate d binary first).1 b.outputDir binary first.store =
      (.ok path, (process d b.outputDir binary first).2.store) := by
    rw [← heq]
    exact congrArg (·, _) halone
  obtain ⟨m, hmodel, hsave⟩ := save_of_attempt hattempt
  obtain ⟨hpath, made, location, -, hwrote⟩ := wrote_of_save hsave
  rw [source_of_generate hmodel] at hpath
  exact ⟨hpath, m, hmodel, hwrote.read⟩

theorem filterMap_alone (hsteady : d.Steady) (binaries : List Path) :
    (binaries.filterMap fun binary => (alone d b first binary).toOption) =
      (binaries.filter fun binary => (alone d b first binary).isOk).map
        (savedPath b.outputDir) := by
  induction binaries with
  | nil =>
      rfl
  | cons binary rest ih =>
      cases halone : alone d b first binary with
      | error failure =>
          rw [List.filterMap_cons_none (by rw [halone]; rfl),
            List.filter_cons_of_neg (by rw [halone]; exact Bool.false_ne_true), ih]
      | ok path =>
          have hpath := (holds_of_alone first hsteady halone).1
          rw [List.filterMap_cons_some (b := path) (by rw [halone]; rfl),
            List.filter_cons_of_pos (by rw [halone]; rfl), List.map_cons, ih, hpath]

end

/-!
## Batches of discovered binaries
-/

section

variable {s : Store} {dir out : Path} {o place : Location} {binaries : List Path}
  (hdiscovered : ∀ binary ∈ binaries, ∃ name, binary = dir.child name ∧ Discovered s dir o name)

include hdiscovered

theorem modelName_inj_on :
    ∀ binary ∈ binaries, ∀ other ∈ binaries,
      modelName (Path.ofText binary.display) = modelName (Path.ofText other.display) →
        binary = other := by
  intro binary hbinary other hother heq
  obtain ⟨name, rfl, hname⟩ := hdiscovered binary hbinary
  obtain ⟨name', rfl, hname'⟩ := hdiscovered other hother
  rw [hname.modelName_injective hname' heq]

theorem nodup_outputPlaces (hnodup : binaries.Nodup) :
    (binaries.map (outputPlace place)).Nodup := by
  refine List.Nodup.map_on ?_ hnodup
  intro binary hbinary other hother heq
  exact modelName_inj_on hdiscovered binary hbinary other hother (List.cons.inj heq).1

theorem nodup_savedPaths (hnodup : binaries.Nodup) : (binaries.map (savedPath out)).Nodup := by
  refine List.Nodup.map_on ?_ hnodup
  intro binary hbinary other hother heq
  exact modelName_inj_on hdiscovered binary hbinary other hother (Path.child_injective heq)

theorem read_of_stage (hdirect : s.Direct) (hleads : s.Leads dir o)
    {outcome : Path → Except Failure Model} {binary : Path} (hbinary : binary ∈ binaries)
    {done : List Path} {t : Store} (hstage : Stage s out place outcome done t) :
    t.read binary = s.read binary := by
  obtain ⟨name, rfl, hname⟩ := hdiscovered binary hbinary
  refine hname.read_congr hdirect hstage.linkFree.direct hleads (hleads.grows hstage.grows) ?_
  intro contents executable hfile
  refine hstage.kept _ contents executable ?_ hfile
  intro hmem
  obtain ⟨other, -, heq⟩ := List.mem_map.mp hmem
  exact hname.ne_modelName _ (List.cons.inj heq).1.symm

end

theorem exists_place (s : Store) (out : Path) :
    ∃ o, (s.makeDirectories out).1.isOk = true → (s.makeDirectories out).2.Leads out o := by
  cases hmake : s.makeDirectories out with
  | mk result made =>
      cases result with
      | error cause => exact ⟨[], fun hok => by cases hok⟩
      | ok =>
          obtain ⟨o, hleads⟩ := Store.leads_of_makeDirectories hmake
          exact ⟨o, fun _ => hleads⟩

/-- A batch without explicit files that keeps going, over files without links: its summary
parts the discovered binaries into those that fail and those that succeed alone, each model
is what it would be alone, and no other file changes. -/
theorem run_isolated {d : Disassembler} {b : Batch} {p : Progress} {binaries : List Path}
    (hsteady : d.Steady) (hfree : p.store.LinkFree) (hfiles : b.files = [])
    (hkeep : b.keepGoing = true)
    (hdiscover : discover p.store b.inputDir b.stem = .ok binaries) :
    ∃ summary q,
      run d b p =
        (if summary.failed = [] then .ok summary else .error (.batch summary), q) ∧
      summary.failed =
        (binaries.filter fun binary => !(process d b.outputDir binary p).1.isOk) ∧
      summary.written =
        (binaries.filterMap fun binary => (process d b.outputDir binary p).1.toOption) ∧
      summary.total = binaries.length ∧
      summary.written.Nodup ∧
      (∀ binary ∈ binaries, ∀ path, (process d b.outputDir binary p).1 = .ok path →
        ∃ m, (generate d binary p).1 = .ok m ∧
          (process d b.outputDir binary p).2.store.read path = .ok (Utf8.encode m.render) ∧
          q.store.read path = .ok (Utf8.encode m.render)) ∧
      (∀ location contents executable,
        p.store.at? location = some (.file contents executable) →
          (∀ path ∈ summary.written,
            q.store.locate .followed path ≠ .ok (.found location)) →
            q.store.at? location = some (.file contents executable)) ∧
      ∀ binary ∈ binaries, q.store.read binary = p.store.read binary := by
  obtain ⟨dir, hleads, hnodup, hdiscovered⟩ := discovered_of_discover hfree.direct hdiscover
  obtain ⟨o, hplace⟩ := exists_place p.store b.outputDir
  have hstart : Stage p.store b.outputDir o (modelOf d p) [] p.store :=
    Stage.start hfree hplace
  have hreads : ∀ binary ∈ binaries, ∀ done t,
      Stage p.store b.outputDir o (modelOf d p) done t →
        t.read binary = p.store.read binary :=
    fun binary hbinary done t hstage =>
      read_of_stage hdiscovered hfree.direct hleads hbinary hstage
  have hplaces : (([] ++ binaries).map (outputPlace o)).Nodup :=
    nodup_outputPlaces hdiscovered hnodup
  obtain ⟨q, hall, hstage⟩ := processAll_stage p hsteady hkeep hstart hreads hplaces {}
    (p := { p with events := p.events ++ [.selected binaries.length] }) hstart
  have hbinaries := (binaries_eq_discover hfiles p.store).trans hdiscover
  have hwritten := filterMap_alone (b := b) p hsteady binaries
  rw [List.nil_append] at hstage hall
  refine ⟨_, q, run_eq hbinaries hall, rfl, rfl, ?_, ?_, ?_, ?_, ?_⟩
  · dsimp only [Summary.total]
    rw [List.nil_append, hwritten, List.length_map]
    exact (List.length_eq_length_filter_add _).symm
  · dsimp only
    rw [hwritten]
    exact (nodup_savedPaths hdiscovered hnodup).sublist (List.Sublist.map _ List.filter_sublist)
  · intro binary hbinary path halone
    obtain ⟨rfl, m, hmodel, hread⟩ := holds_of_alone p hsteady halone
    have hmem : binary ∈ binaries.filter fun binary => (alone d b p binary).isOk := by
      rw [List.mem_filter]
      exact ⟨hbinary, by rw [alone, halone]; rfl⟩
    obtain ⟨m', executable, hmodel', hholds, hlocate⟩ := hstage.written binary hmem
    rw [hmodel] at hmodel'
    cases hmodel'
    exact ⟨m, hmodel, hread, Store.read_of_locate hlocate hholds⟩
  · intro location contents executable hfile hothers
    refine hstage.kept location contents executable ?_ hfile
    intro hmem
    obtain ⟨binary, hbinary, rfl⟩ := List.mem_map.mp hmem
    obtain ⟨m, executable, hmodel, hholds, hlocate⟩ := hstage.written binary hbinary
    refine hothers (savedPath b.outputDir binary) ?_ hlocate
    dsimp only
    rw [hwritten]
    exact List.mem_map_of_mem hbinary
  · intro binary hbinary
    exact hreads binary hbinary _ _ hstage

def pairStore : Store :=
  let dir : Location := [Utf8.encode "in".toList]
  ((Store.empty.put dir .directory).put (Utf8.encode "a".toList :: dir) (.file bareImage false)).put
    (Utf8.encode "b".toList :: dir) (.file [] false)

def pairBatch : Batch where
  inputDir := .ofText "in".toList
  outputDir := .ofText "out".toList
  stem := []
  keepGoing := true

theorem linkFree_pairStore : pairStore.LinkFree := by
  unfold pairStore
  exact Store.linkFree_put (Store.linkFree_put
    (Store.linkFree_put Store.linkFree_empty (by simp)) (by simp)) (by simp)

theorem discover_pairStore :
    discover pairStore pairBatch.inputDir pairBatch.stem =
      .ok [.ofText "in/a".toList, .ofText "in/b".toList] := by
  have hlist : pairStore.list pairBatch.inputDir =
      .ok [Utf8.encode "a".toList, Utf8.encode "b".toList] := by
    decide +kernel
  have hselected : selected pairStore pairBatch.inputDir pairBatch.stem
      [Utf8.encode "a".toList, Utf8.encode "b".toList] =
        [Utf8.encode "a".toList, Utf8.encode "b".toList] := by
    decide +kernel
  exact discover_of_sorted hlist hselected (by decide +kernel)

/-- Of the two files, the image has its model written and the empty one fails. -/
theorem run_isolated_pair :
    ∃ summary q,
      run (.ofReplies fun _ => .ok []) pairBatch { store := pairStore } =
        (.error (.batch summary), q) ∧
      summary.failed = [.ofText "in/b".toList] ∧
      summary.written = [.ofText "out/a.ucl".toList] ∧
      q.store.read (.ofText "in/a".toList) = .ok bareImage := by
  obtain ⟨summary, q, hrun, hfailed, hwritten, -, -, -, -, hreads⟩ :=
    run_isolated (d := .ofReplies fun _ => .ok []) (b := pairBatch)
      (p := { store := pairStore }) (Disassembler.steady_ofReplies _) linkFree_pairStore rfl rfl
      discover_pairStore
  have hfailed' : summary.failed = [.ofText "in/b".toList] := by
    rw [hfailed]
    decide +kernel
  have hwritten' : summary.written = [.ofText "out/a.ucl".toList] := by
    rw [hwritten]
    decide +kernel
  have hread : q.store.read (.ofText "in/a".toList) = .ok bareImage := by
    rw [hreads _ List.mem_cons_self]
    decide +kernel
  refine ⟨summary, q, ?_, hfailed', hwritten', hread⟩
  rw [hrun, if_neg (by rw [hfailed']; simp)]

end Batch

end Imprint
