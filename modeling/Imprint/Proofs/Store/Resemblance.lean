import Imprint.Store.Files

/-!
# Stores that look alike

What a path leads to depends on where the directories, links and files of a store
stand, and neither on what the files hold nor on the order in which entries are
listed.
-/

namespace Imprint

namespace Store

/-- The same directories and links stand in both stores, and files in the same places, whatever
they hold. -/
structure Resembles (s t : Store) : Prop where
  workingDirectory : t.workingDirectory = s.workingDirectory
  at? (place : Location) : t.at? place = s.at? place ∨
    ∃ old new executable, s.at? place = some (.file old executable) ∧
      t.at? place = some (.file new executable)

namespace Resembles

variable {s t : Store}

theorem directory_iff (hresembles : s.Resembles t) (place : Location) :
    t.at? place = some .directory ↔ s.at? place = some .directory := by
  rcases hresembles.at? place with heq | ⟨old, new, executable, hs, ht⟩
  · rw [heq]
  · simp [hs, ht]

theorem walkWith (hresembles : s.Resembles t) (ending : Ending)
    (jump : Location → List Step → Except Cause Spot) (here : Location) (steps : List Step) :
    t.walkWith ending jump here steps = s.walkWith ending jump here steps := by
  induction steps generalizing here with
  | nil => rfl
  | cons step rest ih =>
      cases step with
      | slash => exact ih here
      | stay => exact ih here
      | up => exact ih here.tail
      | name name =>
          rw [Store.walkWith, Store.walkWith]
          rcases hresembles.at? (name :: here) with heq | ⟨old, new, executable, hs, ht⟩
          · rw [heq, ih]
          · rw [hs, ht]

theorem walk (hresembles : s.Resembles t) (ending : Ending) (links : Nat) :
    t.walk ending links = s.walk ending links := by
  induction links with
  | zero =>
      funext here steps
      exact hresembles.walkWith ending _ here steps
  | succ links ih =>
      funext here steps
      rw [Store.walk, Store.walk, ih]
      exact hresembles.walkWith ending _ here steps

theorem locate (hresembles : s.Resembles t) (ending : Ending) (p : Path) :
    t.locate ending p = s.locate ending p := by
  rw [Store.locate, Store.locate, hresembles.walk, hresembles.workingDirectory]

theorem isDirectory (hresembles : s.Resembles t) (p : Path) :
    t.isDirectory p = s.isDirectory p := by
  unfold Store.isDirectory Store.entry
  rw [hresembles.locate]
  cases s.locate .followed p with
  | error cause => rfl
  | ok spot =>
      cases spot with
      | vacant dir name => rfl
      | found place =>
          rcases hresembles.at? place with heq | ⟨old, new, executable, hs, ht⟩
          · simp only [heq]
          · simp only [hs, ht]

end Resembles

end Store

/-!
## Other orders of listing
-/

namespace Entries

theorem at?_perm {entries others : Entries} (hperm : others.Perm entries)
    (hnodup : (entries.map Prod.fst).Nodup) (place : Location) :
    others.at? place = entries.at? place := by
  have hnodup' : (others.map Prod.fst).Nodup := (hperm.map Prod.fst).nodup_iff.mpr hnodup
  cases place with
  | nil => rfl
  | cons name dir =>
      refine Option.ext fun e => ?_
      rw [Entries.at?, Entries.at?, Located.lookup_eq_some_iff_mem hnodup',
        Located.lookup_eq_some_iff_mem hnodup]
      exact hperm.mem_iff

end Entries

namespace Store

/-- The same entries, in another order of listing. -/
structure Rearranges (s t : Store) : Prop where
  workingDirectory : t.workingDirectory = s.workingDirectory
  entries : t.entries.Perm s.entries

namespace Rearranges

variable {s t : Store}

theorem at? (hrearranges : s.Rearranges t) (place : Location) : t.at? place = s.at? place :=
  Entries.at?_perm hrearranges.entries s.places_nodup place

theorem resembles (hrearranges : s.Rearranges t) : s.Resembles t where
  workingDirectory := hrearranges.workingDirectory
  at? place := Or.inl (hrearranges.at? place)

theorem namesIn (hrearranges : s.Rearranges t) (dir : Location) :
    (t.namesIn dir).Perm (s.namesIn dir) :=
  hrearranges.entries.filterMap _

theorem list (hrearranges : s.Rearranges t) (p : Path) :
    (∃ cause, s.list p = .error cause ∧ t.list p = .error cause) ∨
      ∃ o, s.list p = .ok (s.namesIn o) ∧ t.list p = .ok (t.namesIn o) := by
  unfold Store.list
  rw [hrearranges.resembles.locate]
  cases s.locate .followed p with
  | error cause => exact Or.inl ⟨cause, rfl, rfl⟩
  | ok spot =>
      cases spot with
      | vacant dir name => exact Or.inl ⟨.notFound, rfl, rfl⟩
      | found o =>
          dsimp only
          rw [hrearranges.at? o]
          by_cases hdir : s.at? o = some .directory
          · rw [if_pos hdir, if_pos hdir]
            exact Or.inr ⟨o, rfl, rfl⟩
          · rw [if_neg hdir, if_neg hdir]
            exact Or.inl ⟨.notDirectory, rfl, rfl⟩

end Rearranges

end Store

end Imprint
