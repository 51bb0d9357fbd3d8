import Imprint.Proofs.Batch.Ledger

/-!
# Failure policies

A batch that ends at its first failure does what the same batch does that keeps
going, up to and with the binary that fails first: the same calls, the same
files, the same models.  Where nothing fails there is no difference at all.
-/

namespace Imprint

/-- A place is a name of a file that the path of the model of one of the binaries leads to. -/
def NamesModel (out : Path) (done : List Path) (t : Store) (place : Location) : Prop :=
  ∃ binary ∈ done, ∃ location, t.locate .followed (savedPath out binary) = .ok (.found location) ∧
    t.SameFile place location ∧ t.HoldsFile place

/-- Every place is as it was, has become a directory, or is a name of a model that was written. -/
def Confined (s : Store) (out : Path) (done : List Path) (t : Store) : Prop :=
  ∀ place, t.at? place = s.at? place ∨ s.at? place = none ∧ t.at? place = some .directory ∨
    NamesModel out done t place

namespace Confined

variable {s t u : Store} {out binary path : Path} {done : List Path}

theorem start (s : Store) (out : Path) : Confined s out [] s :=
  fun _ => Or.inl rfl

theorem step (hconfined : Confined s out done t) (hgrows : t.Grows u) {place : Location}
    (hplace : u.at? place = t.at? place ∨ t.at? place = none ∧ u.at? place = some .directory) :
    u.at? place = s.at? place ∨ s.at? place = none ∧ u.at? place = some .directory ∨
      NamesModel out done u place := by
  rcases hplace with hsame | ⟨hnone, hdir⟩
  · rcases hconfined place with hfirst | ⟨hnone, hdir⟩ |
      ⟨other, hother, location, hlocate, hone, contents, mode, hfile⟩
    · exact Or.inl (hsame.trans hfirst)
    · exact Or.inr (Or.inl ⟨hnone, hsame.trans hdir⟩)
    · have hone' := (hgrows.sameFile_iff place location).mpr hone
      have hkept := hsame.trans hfile
      have hlocate' := Store.locate_grows hgrows hlocate
        (Store.occupied_of_file (hone'.symm.at?_eq.trans hkept))
      exact Or.inr (Or.inr ⟨other, hother, location, hlocate', hone', contents, mode, hkept⟩)
  · rcases hconfined place with
      hfirst | ⟨-, hmade⟩ | ⟨other, -, location, -, -, contents, mode, hfile⟩
    · exact Or.inr (Or.inl ⟨hfirst.symm.trans hnone, hdir⟩)
    · rw [hnone] at hmade
      cases hmade
    · rw [hnone] at hfile
      cases hfile

theorem adds (hconfined : Confined s out done t) (hadds : t.AddsDirectories u) :
    Confined s out done u :=
  fun place => hconfined.step hadds.grows (hadds.entries place)

theorem save {m : Model} (hconfined : Confined s out done t) (hsource : m.source = binary.display)
    (hsave : m.save out t = (.ok path, u)) : Confined s out (done ++ [binary]) u := by
  obtain ⟨hpath, location, hsaved, hgrows, -⟩ := saved_of_save hsave
  rw [hsource] at hpath
  intro place
  by_cases hplace : t.SameFile place location
  · obtain ⟨executable, hholds⟩ := hsaved.holds
    have hleads := hsaved.leads
    rw [hpath] at hleads
    have hmem : binary ∈ done ++ [binary] := List.mem_append_right _ List.mem_cons_self
    exact Or.inr (Or.inr ⟨binary, hmem, location, hleads,
      (hgrows.sameFile_iff place location).mpr hplace, _, _,
      (hsaved.names place hplace).trans hholds⟩)
  · have helse : u.at? place = t.at? place ∨ t.at? place = none ∧ u.at? place = some .directory :=
      (hsaved.elsewhere place hplace).imp_right fun hnew => ⟨hnew.1, hnew.2.1⟩
    rcases hconfined.step hgrows helse with hfirst | hnew | ⟨other, hother, hnames⟩
    · exact Or.inl hfirst
    · exact Or.inr (Or.inl hnew)
    · exact Or.inr (Or.inr ⟨other, List.mem_append_left _ hother, hnames⟩)

end Confined

namespace Batch

theorem processAll_confined {d : Disassembler} {b : Batch} (hsteady : d.Steady)
    {binaries : List Path} {summary summary' : Summary} {s : Store} {p q : Progress}
    (hall : processAll d b binaries summary p = (.ok summary', q)) (hnone : summary'.failed = [])
    (hstore : p.store = s) : Confined s b.outputDir binaries q.store := by
  refine processAll_induction (fun done r => Confined s b.outputDir done r.store)
    ?_ [] hall hnone ?_
  · intro done binary path r u hconfined hprocess
    have hattempt := process_eq_attempt hsteady b.outputDir binary r r
    rw [hprocess] at hattempt
    obtain ⟨m, hmodel, hsave⟩ := save_of_attempt hattempt.symm
    exact hconfined.save (source_of_generate hmodel) hsave
  · rw [hstore]
    exact Confined.start s b.outputDir

theorem calls_processAll (d : Disassembler) (b : Batch) (binaries : List Path)
    (summary : Summary) (p : Progress) :
    p.calls <+: (processAll d b binaries summary p).2.calls := by
  refine follows_processAll Job.passage_calls (fun binary _ => ?_) summary p
  exact follows_process Job.passage_calls
    (fun pass => Job.follows_ask_calls d pass binary) fun _ _ => List.prefix_rfl

section

variable {d : Disassembler} {b : Batch} {p q r t : Progress} {before after : List Path}
  {first : Path} {failure : Failure}

theorem run_keepGoing_of_failure (hkeep : b.keepGoing = true)
    (hbinaries : b.binaries p.store = .ok (before ++ first :: after))
    (hbefore : processAll d b before {}
        { p with events := p.events ++ [.selected (before ++ first :: after).length] } =
      (.ok { written := before.map (savedPath b.outputDir) }, r))
    (hfirst : process d b.outputDir first r = (.error failure, t)) :
    ∃ summary q rest, run d b p = (.error (.batch summary), q) ∧ summary.failed = first :: rest ∧
      processAll d b after
        { written := before.map (savedPath b.outputDir), failed := [first] }
        { t with events := t.events ++ [.failed first failure] } = (.ok summary, q) := by
  obtain ⟨summary, q, hafter⟩ := processAll_of_keepGoing (d := d) hkeep after
    { written := before.map (savedPath b.outputDir), failed := [first] }
    { t with events := t.events ++ [.failed first failure] }
  obtain ⟨rest, hfailed⟩ := (prefix_of_processAll hafter).2
  have hall : processAll d b (before ++ first :: after) {}
      { p with events := p.events ++ [.selected (before ++ first :: after).length] } =
        (.ok summary, q) := by
    rw [processAll_append, Job.bind_apply, hbefore]
    dsimp only
    rw [processAll_of_error hfirst, if_pos hkeep]
    exact hafter
  refine ⟨summary, q, rest, ?_, hfailed.symm, hafter⟩
  rw [run_eq hbinaries hall, if_neg]
  rw [← hfailed]
  exact List.cons_ne_nil first rest

theorem run_of_failure (hkeep : b.keepGoing = false)
    (hbinaries : b.binaries p.store = .ok (before ++ first :: after))
    (hbefore : processAll d b before {}
        { p with events := p.events ++ [.selected (before ++ first :: after).length] } =
      (.ok { written := before.map (savedPath b.outputDir) }, r))
    (hfirst : process d b.outputDir first r = (.error failure, t)) :
    run d b p = (.error failure, t) := by
  rw [run_apply, hbinaries]
  dsimp only
  rw [processAll_append, Job.bind_apply, hbefore]
  dsimp only
  rw [processAll_of_error hfirst, if_neg (by rw [hkeep]; exact Bool.false_ne_true)]

theorem confined_of_failure (hsteady : d.Steady) {summary : Summary}
    (hbefore : processAll d b before {} p = (.ok summary, r)) (hnone : summary.failed = [])
    (hfirst : process d b.outputDir first r = (.error failure, t)) (start : Progress)
    (hstart : p.store = start.store) :
    Ledger start.store b.outputDir (fun binary => (generate d binary start).1) before t.store ∧
      Confined start.store b.outputDir before t.store := by
  have hadds := adds_of_process hsteady.readOnly (congrArg Prod.fst hfirst)
  rw [hfirst] at hadds
  exact ⟨(processAll_ledger hsteady start hbefore hnone hstart).2.adds hadds,
    (processAll_confined hsteady hbefore hnone hstart).adds hadds⟩

end

/-- The same batch under both policies, from the same files.  Where no binaries are found, both
fail alike.  Where the batch that keeps going succeeds, the other does exactly the same.  Where
it fails with its summary, the other one ends with the failure of the first binary that failed,
and leaves what the first run had left right then: the calls up to there, and the models of the
binaries before. -/
theorem run_policies {d : Disassembler} (hsteady : d.Steady) (b : Batch) (p : Progress) :
    (∀ failure, b.binaries p.store = .error failure →
      ∀ keep, run d { b with keepGoing := keep } p = (.error failure, p)) ∧
    (∀ summary q, run d { b with keepGoing := true } p = (.ok summary, q) →
      run d { b with keepGoing := false } p = (.ok summary, q)) ∧
    ∀ summary q, run d { b with keepGoing := true } p = (.error (.batch summary), q) →
      ∃ before first after rest r failure t,
        b.binaries p.store = .ok (before ++ first :: after) ∧
        summary.failed = first :: rest ∧
        processAll d { b with keepGoing := true } before {}
            { p with events := p.events ++ [.selected (before ++ first :: after).length] } =
          (.ok { written := before.map (savedPath b.outputDir) }, r) ∧
        process d b.outputDir first r = (.error failure, t) ∧
        processAll d { b with keepGoing := true } after
            { written := before.map (savedPath b.outputDir), failed := [first] }
            { t with events := t.events ++ [.failed first failure] } = (.ok summary, q) ∧
        run d { b with keepGoing := false } p = (.error failure, t) ∧
        t.calls <+: q.calls ∧
        before.map (savedPath b.outputDir) <+: summary.written ∧
        Ledger p.store b.outputDir (fun binary => (generate d binary p).1) before t.store ∧
        Confined p.store b.outputDir before t.store := by
  have hfound : ∀ keep, binaries { b with keepGoing := keep } p.store = b.binaries p.store :=
    fun _ => rfl
  have hnone : ∀ failure, b.binaries p.store = .error failure →
      ∀ keep, run d { b with keepGoing := keep } p = (.error failure, p) := by
    intro failure hbinaries keep
    rw [run_apply, hfound, hbinaries]
  refine ⟨hnone, ?_⟩
  cases hbinaries : b.binaries p.store with
  | error failure =>
      obtain ⟨cause, rfl⟩ := io_of_binaries hbinaries
      have hrun := hnone _ hbinaries true
      constructor
      · intro summary q hok
        rw [hrun] at hok
        cases hok
      · intro summary q hfails
        rw [hrun] at hfails
        cases hfails
  | ok found =>
      rcases processAll_cases d b found {}
        { p with events := p.events ++ [.selected found.length] } with
        ⟨u, hall⟩ | ⟨before, first, after, r, failure, t, rfl, hbefore, hfirst⟩
      · have hruns : ∀ keep, run d { b with keepGoing := keep } p =
            (.ok { written := found.map (savedPath b.outputDir) }, u) :=
          fun keep => run_eq ((hfound keep).trans hbinaries) (hall keep)
        constructor
        · intro summary q hok
          rw [hruns] at hok ⊢
          exact hok
        · intro summary q hfails
          rw [hruns] at hfails
          cases hfails
      · obtain ⟨summary, q, rest, hrun, hfailed, hafter⟩ :=
          run_keepGoing_of_failure (b := { b with keepGoing := true }) rfl hbinaries
            (hbefore true) hfirst
        constructor
        · intro summary' q' hok
          rw [hrun] at hok
          cases hok
        · intro summary' q' hfails
          rw [hrun] at hfails
          cases hfails
          have hcalls := calls_processAll d { b with keepGoing := true } after
            { written := before.map (savedPath b.outputDir), failed := [first] }
            { t with events := t.events ++ [.failed first failure] }
          rw [hafter] at hcalls
          obtain ⟨hledger, hconfined⟩ :=
            confined_of_failure (b := { b with keepGoing := true }) hsteady (hbefore true) rfl
              hfirst p rfl
          exact ⟨before, first, after, rest, r, failure, t, rfl, hfailed, hbefore true, hfirst,
            hafter, run_of_failure (b := { b with keepGoing := false }) rfl hbinaries
              (hbefore false) hfirst, hcalls, (prefix_of_processAll hafter).1, hledger, hconfined⟩

/-- A directory among images, with the failure policy still open. -/
def mixedBatch : Batch where
  outputDir := .ofText "out".toList
  files := [.ofText "a/x".toList, .ofText "b".toList, .ofText "a/y".toList]

/-- The directory fails: the batch that ends there has written the model before it, and the one
that keeps going also that behind it. -/
theorem run_policies_mixed :
    ∃ summary q failure t,
      run silent { mixedBatch with keepGoing := true } { store := namesakeStore } =
          (.error (.batch summary), q) ∧
        summary.written = [.ofText "out/x.ucl".toList, .ofText "out/y.ucl".toList] ∧
        run silent { mixedBatch with keepGoing := false } { store := namesakeStore } =
          (.error failure, t) ∧
        t.calls <+: q.calls ∧ t.calls.length = 1 ∧ q.calls.length = 2 := by
  have hresult : (run silent { mixedBatch with keepGoing := true } { store := namesakeStore }).1 =
      .error (.batch
        { written := [.ofText "out/x.ucl".toList, .ofText "out/y.ucl".toList]
          failed := [.ofText "b".toList] }) := by
    decide +kernel
  have hcalls : (run silent { mixedBatch with keepGoing := true }
      { store := namesakeStore }).2.calls.length = 2 := by
    decide +kernel
  have hcalls' : (run silent { mixedBatch with keepGoing := false }
      { store := namesakeStore }).2.calls.length = 1 := by
    decide +kernel
  obtain ⟨before, first, after, rest, r, failure, t, -, -, -, -, -, hstops, hprefix, -, -, -⟩ :=
    (run_policies (Disassembler.steady_ofReplies _) mixedBatch { store := namesakeStore }).2.2
      _ _ (Prod.ext hresult rfl)
  have hlength : t.calls.length = 1 :=
    (congrArg (fun stopped => stopped.2.calls.length) hstops).symm.trans hcalls'
  exact ⟨_, _, failure, t, Prod.ext hresult rfl, rfl, hstops, hprefix, hlength, hcalls⟩

end Batch

end Imprint
