import Imprint.Proofs.Batch.Course

/-!
# Explicit binaries of a batch

A batch with explicit files that succeeds has written one model for each of them,
in order, but two models may go to one file.  A ledger says whose model stands
there in the end: every path that was written leads to the model of some binary
whose path leads to that file too.
-/

namespace Imprint

/-- The files after the models of some binaries were written: each of their paths leads to the
model of one of them. -/
structure Ledger (s : Store) (out : Path) (outcome : Path → Except Failure Model)
    (done : List Path) (t : Store) : Prop where
  linkFree : s.LinkFree → t.LinkFree
  leads : done ≠ [] → ∃ o, t.Leads out o
  last : ∀ binary ∈ done, ∃ location place, ∃ winner ∈ done, ∃ m executable,
    t.locate .followed (savedPath out binary) = .ok (.found location) ∧
      t.locate .followed (savedPath out winner) = .ok (.found place) ∧
        t.SameFile location place ∧ outcome winner = .ok m ∧
          t.at? location = some (.file (Utf8.encode m.render) executable)

namespace Ledger

variable {s t : Store} {out : Path} {outcome : Path → Except Failure Model} {done : List Path}

theorem start (s : Store) : Ledger s out outcome [] s where
  linkFree hfree := hfree
  leads hne := absurd rfl hne
  last _ hmem := absurd hmem List.not_mem_nil

theorem save (hledger : Ledger s out outcome done t) {u : Store} {binary path : Path} {m : Model}
    (hmodel : outcome binary = .ok m) (hsource : m.source = binary.display)
    (hsave : m.save out t = (.ok path, u)) :
    path = savedPath out binary ∧ Ledger s out outcome (done ++ [binary]) u := by
  obtain ⟨hpath, made, place, hmake, hwrote⟩ := wrote_of_save hsave
  rw [hsource] at hpath
  cases hpath
  have hadds := t.makeDirectories_adds out
  rw [hmake] at hadds
  obtain ⟨o, hleads⟩ := Store.leads_of_makeDirectories hmake
  obtain ⟨executable, hholds⟩ := hwrote.holds
  refine ⟨rfl, ?_⟩
  refine
    { linkFree := fun hfree => hwrote.linkFree (hadds.linkFree (hledger.linkFree hfree))
      leads := fun _ => ⟨o, hleads.grows hwrote.grows⟩
      last := ?_ }
  intro other hother
  rcases List.mem_append.mp hother with hdone | hnew
  · obtain ⟨location, spot, winner, hwinner, m', executable', hleadsTo, hwins, hone, hwon, hat⟩ :=
      hledger.last other hdone
    have hgrows := hadds.grows.trans hwrote.grows
    obtain ⟨new, hnew⟩ := hgrows.file hat
    have hleads' := Store.locate_grows hgrows hleadsTo (Store.occupied_of_file hnew)
    by_cases hsame : made.SameFile location place
    · refine ⟨location, place, binary, List.mem_append_right _ List.mem_cons_self, m, executable,
        hleads', hwrote.leads, (hwrote.grows.sameFile_iff location place).mpr hsame, hmodel, ?_⟩
      rw [hwrote.at?_of_sameFile hsame, hholds]
    · have hone' := (hgrows.sameFile_iff location spot).mpr hone
      have hkept : u.at? location = some (.file (Utf8.encode m'.render) executable') := by
        rw [hwrote.elsewhere location hsame, hadds.entry hat]
      exact ⟨location, spot, winner, List.mem_append_left _ hwinner, m', executable', hleads',
        Store.locate_grows hgrows hwins (Store.occupied_of_file (hone'.symm.at?_eq.trans hkept)),
        hone', hwon, hkept⟩
  · cases List.mem_singleton.mp hnew
    exact ⟨place, place, binary, List.mem_append_right _ List.mem_cons_self, m, executable,
      hwrote.leads, hwrote.leads, .refl u place, hmodel, hholds⟩

theorem adds (hledger : Ledger s out outcome done t) {u : Store} (hadds : t.AddsDirectories u) :
    Ledger s out outcome done u where
  linkFree hfree := hadds.linkFree (hledger.linkFree hfree)
  leads hne := by
    obtain ⟨o, hleads⟩ := hledger.leads hne
    exact ⟨o, hleads.grows hadds.grows⟩
  last binary hbinary := by
    obtain ⟨location, place, winner, hwinner, m, executable, hleadsTo, hwins, hone, hwon, hat⟩ :=
      hledger.last binary hbinary
    have hkept := hadds.entry hat
    have hwon' := hadds.entry (hone.symm.at?_eq.trans hat)
    exact ⟨location, place, winner, hwinner, m, executable,
      Store.locate_grows hadds.grows hleadsTo (Store.occupied_of_file hkept),
      Store.locate_grows hadds.grows hwins (Store.occupied_of_file hwon'),
      (hadds.grows.sameFile_iff location place).mpr hone, hwon, hkept⟩

theorem read (hledger : Ledger s out outcome done t) {binary : Path} (hbinary : binary ∈ done) :
    ∃ winner ∈ done, ∃ m, outcome winner = .ok m ∧
      t.leadToOne (savedPath out winner) (savedPath out binary) = true ∧
        t.read (savedPath out binary) = .ok (Utf8.encode m.render) := by
  obtain ⟨location, place, winner, hwinner, m, executable, hleadsTo, hwins, hone, hwon, hat⟩ :=
    hledger.last binary hbinary
  exact ⟨winner, hwinner, m, hwon,
    Store.leadToOne_iff.mpr ⟨place, location, hwins, hleadsTo, hone.symm⟩,
    Store.read_of_locate hleadsTo hat⟩

theorem leadToOne_self (hledger : Ledger s out outcome done t) {binary : Path}
    (hbinary : binary ∈ done) :
    t.leadToOne (savedPath out binary) (savedPath out binary) = true := by
  obtain ⟨location, -, -, -, -, -, hleadsTo, -⟩ := hledger.last binary hbinary
  exact Store.leadToOne_iff.mpr ⟨location, location, hleadsTo, hleadsTo, .refl t location⟩

theorem savedPath_eq_of_leadToOne (hledger : Ledger s out outcome done t) (hfree : s.LinkFree)
    {binary other : Path} (hbinary : binary ∈ done)
    (hone : t.leadToOne (savedPath out binary) (savedPath out other) = true) :
    savedPath out binary = savedPath out other := by
  have hfree := hledger.linkFree hfree
  obtain ⟨o, hleads⟩ := hledger.leads (List.ne_nil_of_mem hbinary)
  obtain ⟨location, place, hbinaryLeads, hotherLeads, hsame⟩ := Store.leadToOne_iff.mp hone
  have hbinaryPlace := Store.location_child hfree.direct hleads
    (plain_modelName (Path.ofText binary.display)) hbinaryLeads
  have hotherPlace := Store.location_child hfree.direct hleads
    (plain_modelName (Path.ofText other.display)) hotherLeads
  cases hfree.unshared location place hsame
  rw [hbinaryPlace] at hotherPlace
  unfold savedPath
  rw [outputPath_eq, outputPath_eq, (List.cons.inj hotherPlace).1]

end Ledger

namespace Batch

/-!
## The run of a batch through its ledger
-/

theorem processAll_ledger {d : Disassembler} {b : Batch} (hsteady : d.Steady) (first : Progress)
    {binaries : List Path} {summary summary' : Summary} {p q : Progress}
    (hall : processAll d b binaries summary p = (.ok summary', q)) (hnone : summary'.failed = [])
    (hstore : p.store = first.store) :
    (∀ binary ∈ binaries, ∃ m, (generate d binary first).1 = .ok m) ∧
      Ledger first.store b.outputDir (fun binary => (generate d binary first).1) binaries
        q.store := by
  have hstart : Ledger first.store b.outputDir (fun binary => (generate d binary first).1) []
      p.store := by
    rw [hstore]
    exact Ledger.start first.store
  refine processAll_induction (fun done r =>
    (∀ binary ∈ done, ∃ m, (generate d binary first).1 = .ok m) ∧
      Ledger first.store b.outputDir (fun binary => (generate d binary first).1) done r.store)
    ?_ [] hall hnone ⟨by simp, hstart⟩
  rintro done binary path r u ⟨hmodels, hledger⟩ hprocess
  have hattempt := process_eq_attempt hsteady b.outputDir binary r first
  rw [hprocess] at hattempt
  obtain ⟨m, hmodel, hsave⟩ := save_of_attempt hattempt.symm
  obtain ⟨-, hnext⟩ := hledger.save hmodel (source_of_generate hmodel) hsave
  refine ⟨fun other hother => ?_, hnext⟩
  rcases List.mem_append.mp hother with hdone | hnew
  · exact hmodels other hdone
  · rw [List.mem_singleton.mp hnew]
    exact ⟨m, hmodel⟩

/-- A batch with explicit files that succeeds has made a model for each and written it under
the path of the output directory and the file's name.  Every model is there in the end exactly
when those that share a file are the same; without links, sharing a file is having the same
path. -/
theorem run_explicit {d : Disassembler} {b : Batch} {p q : Progress} {summary : Summary}
    (hsteady : d.Steady) (hfiles : b.files ≠ []) (hrun : run d b p = (.ok summary, q)) :
    summary.written = b.files.map (savedPath b.outputDir) ∧
      (∀ binary ∈ b.files, ∃ m, (generate d binary p).1 = .ok m) ∧
      ((∀ binary ∈ b.files, ∀ m, (generate d binary p).1 = .ok m →
          q.store.read (savedPath b.outputDir binary) = .ok (Utf8.encode m.render)) ↔
        ∀ binary ∈ b.files, ∀ other ∈ b.files,
          q.store.leadToOne (savedPath b.outputDir binary) (savedPath b.outputDir other) = true →
          ∀ m m', (generate d binary p).1 = .ok m → (generate d other p).1 = .ok m' →
            Utf8.encode m.render = Utf8.encode m'.render) ∧
      (p.store.LinkFree → ∀ binary ∈ b.files, ∀ other ∈ b.files,
        (q.store.leadToOne (savedPath b.outputDir binary) (savedPath b.outputDir other) = true ↔
          savedPath b.outputDir binary = savedPath b.outputDir other)) := by
  obtain ⟨binaries, hbinaries, hall, hnone⟩ := processAll_of_run hrun
  rw [Batch.binaries, if_neg hfiles] at hbinaries
  cases hbinaries
  have hwritten := written_of_processAll hall hnone
  obtain ⟨hmodels, hledger⟩ := processAll_ledger hsteady p hall hnone rfl
  refine ⟨hwritten, hmodels, ?_, ?_⟩
  · constructor
    · intro hread binary hbinary other hother hone m m' hm hm'
      have hsame := Store.read_of_leadToOne hone
      rw [hread binary hbinary m hm, hread other hother m' hm'] at hsame
      exact Except.ok.inj hsame
    · intro hagree binary hbinary m hm
      obtain ⟨winner, hwinner, m', hm', hone, hread⟩ := hledger.read hbinary
      rw [hread, hagree winner hwinner binary hbinary hone m' m hm' hm]
  · intro hfree binary hbinary other hother
    constructor
    · exact hledger.savedPath_eq_of_leadToOne hfree hbinary
    · intro hpath
      rw [hpath]
      exact hledger.leadToOne_self hother

def namesakeStore : Store :=
  let image : Entry := .file bareImage false
  let first : Location := [Utf8.encode "a".toList]
  let second : Location := [Utf8.encode "b".toList]
  ((((Store.empty.put first .directory).put (Utf8.encode "x".toList :: first) image).put
    (Utf8.encode "y".toList :: first) image).put second .directory).put
      (Utf8.encode "x".toList :: second) image

def silent : Disassembler :=
  .ofReplies fun _ => .ok []

def runOver (files : List Path) : Except Failure Summary × Progress :=
  run silent { outputDir := .ofText "out".toList, files := files } { store := namesakeStore }

/-- Images with different names keep their models. -/
theorem run_explicit_names :
    (runOver [.ofText "a/x".toList, .ofText "a/y".toList]).1 =
        .ok { written := [.ofText "out/x.ucl".toList, .ofText "out/y.ucl".toList] } ∧
      ∀ binary ∈ [Path.ofText "a/x".toList, Path.ofText "a/y".toList],
        ∀ m, (generate silent binary { store := namesakeStore }).1 = .ok m →
          (runOver [.ofText "a/x".toList, .ofText "a/y".toList]).2.store.read
            (savedPath (.ofText "out".toList) binary) = .ok (Utf8.encode m.render) := by
  have hresult : (runOver [.ofText "a/x".toList, .ofText "a/y".toList]).1 =
      .ok { written := [.ofText "out/x.ucl".toList, .ofText "out/y.ucl".toList] } := by
    decide +kernel
  have hplaces : ∀ binary ∈ [Path.ofText "a/x".toList, Path.ofText "a/y".toList],
      ∀ other ∈ [Path.ofText "a/x".toList, Path.ofText "a/y".toList],
        (runOver [.ofText "a/x".toList, .ofText "a/y".toList]).2.store.leadToOne
          (savedPath (.ofText "out".toList) binary) (savedPath (.ofText "out".toList) other) =
            true → binary = other := by
    decide +kernel
  have hrun : runOver [.ofText "a/x".toList, .ofText "a/y".toList] =
      (.ok { written := [.ofText "out/x.ucl".toList, .ofText "out/y.ucl".toList] },
        (runOver [.ofText "a/x".toList, .ofText "a/y".toList]).2) :=
    Prod.ext hresult rfl
  refine ⟨hresult, ?_⟩
  refine (run_explicit (Disassembler.steady_ofReplies _) (by simp) hrun).2.2.1.mpr ?_
  intro binary hbinary other hother hone m m' hm hm'
  cases hplaces binary hbinary other hother hone
  rw [hm] at hm'
  cases hm'
  rfl

/-- Of two images with one name, the model of the first is lost though the run succeeds. -/
theorem run_explicit_namesakes :
    [Path.ofText "a/x".toList, Path.ofText "b/x".toList].Nodup ∧
      (∀ binary ∈ [Path.ofText "a/x".toList, Path.ofText "b/x".toList],
        (namesakeStore.read binary).isOk = true) ∧
      (runOver [.ofText "a/x".toList, .ofText "b/x".toList]).1 =
        .ok { written := [.ofText "out/x.ucl".toList, .ofText "out/x.ucl".toList] } ∧
      ∃ m, (generate silent (.ofText "a/x".toList) { store := namesakeStore }).1 = .ok m ∧
        (runOver [.ofText "a/x".toList, .ofText "b/x".toList]).2.store.read
          (.ofText "out/x.ucl".toList) ≠ .ok (Utf8.encode m.render) := by
  refine ⟨by decide +kernel, by decide +kernel, by decide +kernel, _, rfl, ?_⟩
  decide +kernel

end Batch

end Imprint
