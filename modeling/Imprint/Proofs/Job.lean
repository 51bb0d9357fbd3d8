import Imprint.Job

/-!
# Properties of jobs

What holds of a job because it holds of the jobs that it is put together from:
what it gives where it begins in related states, what it gives when it succeeds,
and what it leaves in any case.
-/

namespace Imprint

namespace Job

/-!
## Jobs begun twice
-/

/-- A job that gives one result where it begins in related states, and leaves related states. -/
def Respects (R : Progress → Progress → Prop) (job : Job α) : Prop :=
  ∀ p q, R p q → (job p).1 = (job q).1 ∧ R (job p).2 (job q).2

/-- A relation of two states to which their reports do not matter. -/
def Unreported (R : Progress → Progress → Prop) : Prop :=
  ∀ p q events events', R p q → R { p with events := events } { q with events := events' }

section

variable {R : Progress → Progress → Prop}

theorem respects_pure (a : α) : (pure a : Job α).Respects R :=
  fun _ _ halike => ⟨rfl, halike⟩

theorem respects_report (hunreported : Unreported R) (events : List Event) :
    (report events).Respects R :=
  fun p q halike => ⟨rfl, hunreported p q _ _ halike⟩

theorem respects_bind {job : Job α} {next : α → Job β} (hjob : job.Respects R)
    (hnext : ∀ a, (next a).Respects R) : (job >>= next).Respects R := by
  intro p q halike
  obtain ⟨hresult, hafter⟩ := hjob p q halike
  rw [bind_apply, bind_apply]
  cases hp : job p with
  | mk first r =>
  cases hq : job q with
  | mk second t =>
      rw [hp, hq] at hresult hafter
      cases hresult
      cases first with
      | error failure => exact ⟨rfl, hafter⟩
      | ok a => exact hnext a r t hafter

end

theorem respects_ask {R : Progress → Progress → Prop} {d : Disassembler} (hsteady : d.Steady)
    (hunreported : Unreported R)
    (hcall : ∀ p q call, R p q →
      R { p with calls := p.calls ++ [call] } { q with calls := q.calls ++ [call] })
    (pass : Pass) (binary : Path) : (ask d pass binary).Respects R := by
  obtain ⟨reply, hreply⟩ := hsteady
  intro p q halike
  unfold ask
  dsimp only
  rw [hreply, hreply]
  exact ⟨rfl, hunreported _ _ _ _ (hcall p q ⟨pass, binary⟩ halike)⟩

/-- A job whose result, files and calls do not depend on what was reported before. -/
def IgnoresEvents (job : Job α) : Prop :=
  ∀ p q : Progress, p.store = q.store ∧ p.calls = q.calls →
    (job p).1 = (job q).1 ∧ (job p).2.store = (job q).2.store ∧ (job p).2.calls = (job q).2.calls

theorem unreported_eq : Unreported fun p q => p.store = q.store ∧ p.calls = q.calls :=
  fun _ _ _ _ halike => halike

theorem ignoresEvents_ask (d : Disassembler) (pass : Pass) (binary : Path) :
    (ask d pass binary).IgnoresEvents := by
  rintro p q ⟨hstore, hcalls⟩
  unfold ask
  rw [hstore, hcalls]
  exact ⟨rfl, rfl, rfl⟩

/-!
## What jobs give
-/

theorem result_bind_pure (job : Job α) (f : α → β) (p : Progress) :
    ((job >>= fun a => pure (f a)) p).1 = (job p).1.map f := by
  rw [bind_apply]
  cases job p with
  | mk result q =>
      cases result with
      | error failure => rfl
      | ok a => rfl

def Gives (job : Job α) (holds : α → Prop) : Prop :=
  ∀ p a, (job p).1 = .ok a → holds a

theorem gives_pure {a : α} {holds : α → Prop} (ha : holds a) : (pure a : Job α).Gives holds := by
  intro p b hb
  cases hb
  exact ha

theorem gives_bind {job : Job α} {next : α → Job β} {holds : β → Prop}
    (hnext : ∀ a, (next a).Gives holds) : (job >>= next).Gives holds := by
  intro p b hb
  rw [bind_apply] at hb
  split at hb
  · exact hnext _ _ b hb
  · cases hb

/-!
## What jobs leave
-/

/-- A relation between what stood before and what stands after, which reports keep to and
which can be chained. -/
structure Passage (R : Progress → Progress → Prop) : Prop where
  report : ∀ p events, R p { p with events := events }
  trans : ∀ {p q r}, R p q → R q r → R p r

/-- A job that leaves what a relation allows, whether it succeeds or not. -/
def Follows (R : Progress → Progress → Prop) (job : Job α) : Prop :=
  ∀ p, R p (job p).2

theorem passage_store : Passage fun p q => q.store = p.store where
  report _ _ := rfl
  trans hpq hqr := hqr.trans hpq

theorem passage_calls : Passage fun p q => p.calls <+: q.calls where
  report _ _ := List.prefix_rfl
  trans := List.IsPrefix.trans

section

variable {R : Progress → Progress → Prop} (hpassage : Passage R)

include hpassage

theorem follows_pure (a : α) : (pure a : Job α).Follows R :=
  fun p => hpassage.report p p.events

theorem follows_report (events : List Event) : (report events).Follows R :=
  fun p => hpassage.report p _

theorem follows_look (view : Store → Except Failure α) : (look view).Follows R :=
  fun p => hpassage.report p p.events

theorem follows_bind {job : Job α} {next : α → Job β} (hjob : job.Follows R)
    (hnext : ∀ a, (next a).Follows R) : (job >>= next).Follows R := by
  intro p
  have hfirst := hjob p
  rw [bind_apply]
  cases hp : job p with
  | mk first q =>
      rw [hp] at hfirst
      cases first with
      | error failure => exact hfirst
      | ok a => exact hpassage.trans hfirst (hnext a q)

end

theorem follows_ask_store {d : Disassembler} (hreadOnly : d.ReadOnly) (pass : Pass)
    (binary : Path) : (ask d pass binary).Follows fun p q => q.store = p.store :=
  fun p => hreadOnly p.calls p.store ⟨pass, binary⟩

theorem follows_ask_calls (d : Disassembler) (pass : Pass) (binary : Path) :
    (ask d pass binary).Follows fun p q => p.calls <+: q.calls :=
  fun p => List.prefix_append p.calls _

/-!
## Jobs that do not look at the files
-/

/-- A job that always gives the same result and leaves the files as they are. -/
def Constant (job : Job α) : Prop :=
  ∃ result, ∀ p, (job p).1 = result ∧ (job p).2.store = p.store

theorem constant_of_respects {job : Job α} (hresult : job.Respects fun _ _ => True)
    (hstore : job.Follows fun p q => q.store = p.store) : job.Constant :=
  ⟨(job { store := .empty }).1, fun p => ⟨(hresult p _ trivial).1, hstore p⟩⟩

theorem Constant.congr {job : Job α} (hjob : job.Constant) (p q : Progress) :
    (job p).1 = (job q).1 := by
  obtain ⟨result, hresult⟩ := hjob
  rw [(hresult p).1, (hresult q).1]

theorem Constant.store {job : Job α} (hjob : job.Constant) (p : Progress) :
    (job p).2.store = p.store := by
  obtain ⟨result, hresult⟩ := hjob
  exact (hresult p).2

end Job

end Imprint
