import Imprint.Batch
import Imprint.Proofs.Processing

/-!
# The course of a batch

A batch finds its binaries, processes one after the other, and ends.  Processing
two lists of binaries is processing one and then the other, and summaries only
grow.  Up to the first failure it makes no difference whether the batch keeps
going.
-/

namespace Imprint

namespace Batch

/-!
## Runs
-/

theorem binaries_eq_discover {b : Batch} (hfiles : b.files = []) (store : Store) :
    b.binaries store = discover store b.inputDir b.stem := by
  rw [binaries, if_pos hfiles]

theorem io_of_binaries {b : Batch} {store : Store} {failure : Failure}
    (hbinaries : b.binaries store = .error failure) : ∃ cause, failure = .io b.inputDir cause := by
  unfold binaries discover at hbinaries
  split at hbinaries
  · split at hbinaries
    · rename_i cause hlist
      cases hbinaries
      exact ⟨cause, rfl⟩
    · cases hbinaries
  · cases hbinaries

/-- A run finds its binaries and processes them; processed to the end, it fails just when some
of them failed. -/
theorem run_apply (d : Disassembler) (b : Batch) (p : Progress) :
    run d b p =
      match b.binaries p.store with
      | .error failure => (.error failure, p)
      | .ok binaries =>
          match processAll d b binaries {}
              { p with events := p.events ++ [.selected binaries.length] } with
          | (.error failure, q) => (.error failure, q)
          | (.ok summary, q) =>
              (if summary.failed = [] then .ok summary else .error (.batch summary), q) := by
  simp only [run, Job.look_bind, Job.report_bind]
  cases b.binaries p.store with
  | error failure => rfl
  | ok binaries =>
      simp only [Job.bind_apply]
      split
      · rename_i summary q hall
        rw [hall]
        dsimp only
        split <;> rfl
      · rename_i failure q hall
        rw [hall]

def concluded : Except Failure Summary → Except Failure Summary
  | .error failure => .error failure
  | .ok summary => if summary.failed = [] then .ok summary else .error (.batch summary)

theorem run_of_binaries {b : Batch} {p : Progress} {binaries : List Path}
    (hbinaries : b.binaries p.store = .ok binaries) :
    ∃ start, start.store = p.store ∧ start.calls = p.calls ∧ ∀ d, run d b p =
      (concluded (processAll d b binaries {} start).1, (processAll d b binaries {} start).2) := by
  refine ⟨{ p with events := p.events ++ [.selected binaries.length] }, rfl, rfl, fun d => ?_⟩
  rw [run_apply, hbinaries]
  dsimp only
  split
  · rename_i hall
    rw [hall]
    rfl
  · rename_i hall
    rw [hall]
    rfl

theorem run_eq {d : Disassembler} {b : Batch} {p q : Progress} {binaries : List Path}
    {summary : Summary} (hbinaries : b.binaries p.store = .ok binaries)
    (hall : processAll d b binaries {}
      { p with events := p.events ++ [.selected binaries.length] } = (.ok summary, q)) :
    run d b p = (if summary.failed = [] then .ok summary else .error (.batch summary), q) := by
  rw [run_apply, hbinaries]
  dsimp only
  rw [hall]

theorem processAll_of_run {d : Disassembler} {b : Batch} {p q : Progress} {summary : Summary}
    (hrun : run d b p = (.ok summary, q)) :
    ∃ binaries, b.binaries p.store = .ok binaries ∧
      processAll d b binaries {}
        { p with events := p.events ++ [.selected binaries.length] } = (.ok summary, q) ∧
      summary.failed = [] := by
  rw [run_apply] at hrun
  cases hbinaries : b.binaries p.store with
  | error failure =>
      rw [hbinaries] at hrun
      cases hrun
  | ok binaries =>
      rw [hbinaries] at hrun
      dsimp only at hrun
      split at hrun
      · cases hrun
      · rename_i summary' r hall
        split at hrun
        · rename_i hnone
          cases hrun
          exact ⟨binaries, rfl, hall, hnone⟩
        · cases hrun

/-!
## One binary after the other
-/

section

variable {d : Disassembler} {b : Batch} {binary path : Path} {p q : Progress}
  {failure : Failure}

theorem processAll_of_ok (hone : process d b.outputDir binary p = (.ok path, q))
    (rest : List Path) (summary : Summary) :
    processAll d b (binary :: rest) summary p =
      processAll d b rest { summary with written := summary.written ++ [path] } q := by
  rw [processAll]
  simp only [hone]

theorem processAll_of_error (hone : process d b.outputDir binary p = (.error failure, q))
    (rest : List Path) (summary : Summary) :
    processAll d b (binary :: rest) summary p =
      if b.keepGoing then
        processAll d b rest { summary with failed := summary.failed ++ [binary] }
          { q with events := q.events ++ [.failed binary failure] }
      else
        (.error failure, q) := by
  rw [processAll]
  simp only [hone]

end

theorem processAll_append (d : Disassembler) (b : Batch) (first rest : List Path)
    (summary : Summary) :
    processAll d b (first ++ rest) summary =
      processAll d b first summary >>= processAll d b rest := by
  funext p
  rw [Job.bind_apply]
  induction first generalizing summary p with
  | nil => rfl
  | cons binary first ih =>
      cases hone : process d b.outputDir binary p with
      | mk result q =>
          cases result with
          | ok path =>
              rw [List.cons_append, processAll_of_ok hone, processAll_of_ok hone, ih]
          | error failure =>
              rw [List.cons_append, processAll_of_error hone, processAll_of_error hone]
              split
              · exact ih _ _
              · rfl

theorem prefix_of_processAll {d : Disassembler} {b : Batch} {binaries : List Path}
    {summary summary' : Summary} {p q : Progress}
    (hall : processAll d b binaries summary p = (.ok summary', q)) :
    summary.written <+: summary'.written ∧ summary.failed <+: summary'.failed := by
  induction binaries generalizing summary p with
  | nil =>
      cases hall
      exact ⟨List.prefix_rfl, List.prefix_rfl⟩
  | cons binary rest ih =>
      cases hone : process d b.outputDir binary p with
      | mk result r =>
          cases result with
          | ok path =>
              rw [processAll_of_ok hone] at hall
              obtain ⟨hwritten, hfailed⟩ := ih hall
              exact ⟨(List.prefix_append _ _).trans hwritten, hfailed⟩
          | error failure =>
              rw [processAll_of_error hone] at hall
              split at hall
              · obtain ⟨hwritten, hfailed⟩ := ih hall
                exact ⟨hwritten, (List.prefix_append _ _).trans hfailed⟩
              · cases hall

theorem follows_processAll {R : Progress → Progress → Prop} (hpassage : Job.Passage R)
    {d : Disassembler} {b : Batch} {binaries : List Path}
    (hprocess : ∀ binary ∈ binaries, (process d b.outputDir binary).Follows R)
    (summary : Summary) : (processAll d b binaries summary).Follows R := by
  induction binaries generalizing summary with
  | nil => exact Job.follows_pure hpassage summary
  | cons binary rest ih =>
      have hrest := ih fun other hother => hprocess other (List.mem_cons_of_mem binary hother)
      intro p
      have hfirst := hprocess binary List.mem_cons_self p
      cases hone : process d b.outputDir binary p with
      | mk result q =>
          rw [hone] at hfirst
          cases result with
          | ok path =>
              rw [processAll_of_ok hone]
              exact hpassage.trans hfirst (hrest _ q)
          | error failure =>
              rw [processAll_of_error hone]
              split
              · exact hpassage.trans hfirst (hpassage.trans (hpassage.report q _) (hrest _ _))
              · exact hfirst

theorem written_of_processAll {d : Disassembler} {b : Batch} {binaries : List Path}
    {summary summary' : Summary} {p q : Progress}
    (hall : processAll d b binaries summary p = (.ok summary', q)) (hnone : summary'.failed = []) :
    summary'.written = summary.written ++ binaries.map (savedPath b.outputDir) := by
  induction binaries generalizing summary p with
  | nil =>
      cases hall
      simp
  | cons binary rest ih =>
      cases hone : process d b.outputDir binary p with
      | mk result r =>
          cases result with
          | ok path =>
              have hpath := path_of_process (congrArg Prod.fst hone)
              rw [processAll_of_ok hone] at hall
              rw [ih hall, hpath, List.append_assoc]
              rfl
          | error failure =>
              rw [processAll_of_error hone] at hall
              split at hall
              · have hfailed := (prefix_of_processAll hall).2
                rw [hnone] at hfailed
                simp at hfailed
              · cases hall

theorem processAll_induction {d : Disassembler} {b : Batch}
    (motive : List Path → Progress → Prop)
    (hstep : ∀ done binary path p q, motive done p →
      process d b.outputDir binary p = (.ok path, q) → motive (done ++ [binary]) q)
    (done : List Path) {binaries : List Path} {summary summary' : Summary} {p q : Progress}
    (hall : processAll d b binaries summary p = (.ok summary', q)) (hnone : summary'.failed = [])
    (hstart : motive done p) : motive (done ++ binaries) q := by
  induction binaries generalizing done summary p with
  | nil =>
      cases hall
      rwa [List.append_nil]
  | cons binary rest ih =>
      cases hone : process d b.outputDir binary p with
      | mk result r =>
          cases result with
          | ok path =>
              rw [processAll_of_ok hone] at hall
              have hrest := ih (done ++ [binary]) hall (hstep done binary path p r hstart hone)
              rwa [List.append_assoc] at hrest
          | error failure =>
              rw [processAll_of_error hone] at hall
              split at hall
              · have hfailed := (prefix_of_processAll hall).2
                rw [hnone] at hfailed
                simp at hfailed
              · cases hall

theorem processAll_of_keepGoing {d : Disassembler} {b : Batch} (hkeep : b.keepGoing = true)
    (binaries : List Path) (summary : Summary) (p : Progress) :
    ∃ summary' q, processAll d b binaries summary p = (.ok summary', q) := by
  induction binaries generalizing summary p with
  | nil => exact ⟨summary, p, rfl⟩
  | cons binary rest ih =>
      cases hone : process d b.outputDir binary p with
      | mk result q =>
          cases result with
          | ok path =>
              rw [processAll_of_ok hone]
              exact ih _ q
          | error failure =>
              rw [processAll_of_error hone, if_pos hkeep]
              exact ih _ _

/-!
## The first failure
-/

/-- Either all binaries succeed, or there is a first one that fails.  Up to there it makes no
difference whether the batch keeps going. -/
theorem processAll_cases (d : Disassembler) (b : Batch) (binaries : List Path)
    (summary : Summary) (p : Progress) :
    (∃ q, ∀ keep, processAll d { b with keepGoing := keep } binaries summary p =
      (.ok { summary with
        written := summary.written ++ binaries.map (savedPath b.outputDir) }, q)) ∨
    ∃ before first after r failure t, binaries = before ++ first :: after ∧
      (∀ keep, processAll d { b with keepGoing := keep } before summary p =
        (.ok { summary with
          written := summary.written ++ before.map (savedPath b.outputDir) }, r)) ∧
      process d b.outputDir first r = (.error failure, t) := by
  have hnone : ∀ (summary : Summary) (p : Progress) (keep : Bool),
      processAll d { b with keepGoing := keep } [] summary p =
        (.ok { summary with
          written := summary.written ++ [].map (savedPath b.outputDir) }, p) := by
    intro summary p keep
    rw [List.map_nil, List.append_nil]
    rfl
  induction binaries generalizing summary p with
  | nil => exact Or.inl ⟨p, hnone summary p⟩
  | cons binary rest ih =>
      cases hone : process d b.outputDir binary p with
      | mk result q =>
          cases result with
          | error failure =>
              exact Or.inr ⟨[], binary, rest, p, failure, q, rfl, hnone summary p, hone⟩
          | ok path =>
              have hpath : path = savedPath b.outputDir binary :=
                path_of_process (congrArg Prod.fst hone)
              have hstep := fun keep others =>
                processAll_of_ok (b := { b with keepGoing := keep }) hone others summary
              rw [hpath] at hstep
              rcases ih { summary with
                written := summary.written ++ [savedPath b.outputDir binary] } q with
                ⟨u, hall⟩ | ⟨before, first, after, r, failure, t, rfl, hbefore, hfirst⟩
              · left
                refine ⟨u, fun keep => ?_⟩
                rw [hstep, hall, List.append_assoc]
                rfl
              · right
                refine ⟨binary :: before, first, after, r, failure, t, rfl, fun keep => ?_, hfirst⟩
                rw [hstep, hbefore, List.append_assoc]
                rfl

end Batch

end Imprint
