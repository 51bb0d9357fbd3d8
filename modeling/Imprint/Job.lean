import Imprint.Disassembler

/-!
# Jobs

A job works on files, asks a disassembler, and reports events.  It ends with a
result or a failure, and what it did up to there stands either way.
-/

namespace Imprint

/-- What stands while a job works: the files, the calls made, and the events reported. -/
structure Progress where
  store : Store
  calls : List Call := []
  events : List Event := []

def Job (α : Type) : Type :=
  Progress → Except Failure α × Progress

namespace Job

instance : Monad Job where
  pure a := fun p => (.ok a, p)
  bind job next := fun p =>
    match job p with
    | (.ok a, q) => next a q
    | (.error failure, q) => (.error failure, q)

@[simp] theorem pure_apply (a : α) (p : Progress) : (pure a : Job α) p = (.ok a, p) := rfl

@[simp low] theorem bind_apply (job : Job α) (next : α → Job β) (p : Progress) :
    (job >>= next) p =
      match job p with
      | (.ok a, q) => next a q
      | (.error failure, q) => (.error failure, q) := rfl

def report (events : List Event) : Job Unit := fun p =>
  (.ok (), { p with events := p.events ++ events })

def look (view : Store → Except Failure α) : Job α := fun p =>
  (view p.store, p)

def change (work : Store → Except Failure α × Store) : Job α := fun p =>
  ((work p.store).1, { p with store := (work p.store).2 })

def ask (d : Disassembler) (pass : Pass) (binary : Path) : Job Text := fun p =>
  let call : Call := ⟨pass, binary⟩
  let reply := d.answer p.calls p.store call
  (reply.1,
    { store := reply.2, calls := p.calls ++ [call], events := p.events ++ d.announce call })

@[simp] theorem report_bind (events : List Event) (next : Unit → Job β) (p : Progress) :
    (report events >>= next) p = next () { p with events := p.events ++ events } := rfl

@[simp] theorem look_bind (view : Store → Except Failure α) (next : α → Job β) (p : Progress) :
    (look view >>= next) p =
      match view p.store with
      | .ok a => next a p
      | .error failure => (.error failure, p) := by
  cases hview : view p.store <;> simp only [bind_apply, look, hview]

@[simp] theorem change_bind (work : Store → Except Failure α × Store) (next : α → Job β)
    (p : Progress) :
    (change work >>= next) p =
      match work p.store with
      | (.ok a, t) => next a { p with store := t }
      | (.error failure, t) => (.error failure, { p with store := t }) := by
  rcases hwork : work p.store with ⟨result, t⟩
  cases result <;> simp only [bind_apply, change, hwork]

@[simp] theorem ask_bind (d : Disassembler) (pass : Pass) (binary : Path) (next : Text → Job β)
    (p : Progress) :
    (ask d pass binary >>= next) p =
      match d.answer p.calls p.store ⟨pass, binary⟩ with
      | (.ok reply, t) =>
          next reply
            { store := t
              calls := p.calls ++ [⟨pass, binary⟩]
              events := p.events ++ d.announce ⟨pass, binary⟩ }
      | (.error failure, t) =>
          (.error failure,
            { store := t
              calls := p.calls ++ [⟨pass, binary⟩]
              events := p.events ++ d.announce ⟨pass, binary⟩ }) := by
  rcases hanswer : d.answer p.calls p.store ⟨pass, binary⟩ with ⟨result, t⟩
  cases result <;> simp only [bind_apply, ask, hanswer]

end Job

end Imprint
