import Imprint.Proofs.Batch.Discovery

/-!
# Settled binaries

Once a binary has been processed, processing it again comes to the same and
leaves the files as they are: directories that were refused are refused again,
those that were made are there, and a model is written over itself.  Processing
other binaries of the directory does not unsettle it.
-/

namespace Imprint

/-!
## What attempts yield
-/

/-- The second store has grown out of the first by directories at free places and by models
under their names. -/
structure Store.Yields (s t : Store) : Prop where
  grows : s.Grows t
  linkFree : s.LinkFree → t.LinkFree
  entries : s.LinkFree → ∀ place, t.at? place = s.at? place ∨
    s.at? place = none ∧ t.at? place = some .directory ∨
    ∃ binary o contents executable, place = modelName binary :: o ∧
      t.at? place = some (.file contents executable)

namespace Store.Yields

variable {s t u : Store}

theorem of_adds (hadds : s.AddsDirectories t) : s.Yields t where
  grows := hadds.grows
  linkFree := hadds.linkFree
  entries _ place := (hadds.entries place).imp_right Or.inl

theorem trans (hst : s.Yields t) (htu : t.Yields u) : s.Yields u where
  grows := hst.grows.trans htu.grows
  linkFree hfree := htu.linkFree (hst.linkFree hfree)
  entries hfree place := by
    rcases htu.entries (hst.linkFree hfree) place with hsame | ⟨hnone, hdir⟩ | hmodel
    · rw [hsame]
      exact hst.entries hfree place
    · rcases hst.entries hfree place with hsame' | ⟨-, hdir'⟩ | ⟨_, _, _, _, -, hfile⟩
      · exact Or.inr (Or.inl ⟨hsame'.symm.trans hnone, hdir⟩)
      · rw [hnone] at hdir'
        cases hdir'
      · rw [hnone] at hfile
        cases hfile
    · exact Or.inr (Or.inr hmodel)

theorem at?_of_candidate (hyields : s.Yields t) (hfree : s.LinkFree) {name : Name} {o : Location}
    (hname : ∀ binary, name ≠ modelName binary) :
    t.at? (name :: o) = s.at? (name :: o) ∨
      s.at? (name :: o) = none ∧ t.at? (name :: o) = some .directory := by
  rcases hyields.entries hfree (name :: o) with hsame | hnew | ⟨binary, o', _, _, heq, -⟩
  · exact Or.inl hsame
  · exact Or.inr hnew
  · exact absurd (List.cons.inj heq).1 (hname binary)

end Store.Yields

theorem yields_of_save {m : Model} {out : Path} {s t : Store} {result : Except Failure Path}
    (hsave : m.save out s = (result, t)) : s.Yields t := by
  cases result with
  | error failure => exact .of_adds (prepares_of_save hsave).1.adds
  | ok path =>
      obtain ⟨-, made, location, hmake, hwrote⟩ := wrote_of_save hsave
      obtain ⟨-, location', hsaved, hgrows, hplace⟩ := saved_of_save hsave
      have hadds := s.makeDirectories_adds out
      rw [hmake] at hadds
      refine
        { grows := hgrows
          linkFree := fun hfree => hwrote.linkFree (hadds.linkFree hfree)
          entries := fun hfree place => ?_ }
      obtain ⟨o, rfl⟩ := hplace hfree.direct
      by_cases heq : place = modelName (Path.ofText m.source) :: o
      · obtain ⟨executable, hfile⟩ := hsaved.holds
        rw [heq]
        exact Or.inr (Or.inr ⟨_, o, _, executable, rfl, hfile⟩)
      · rcases hsaved.elsewhere place fun hsame => heq (hfree.unshared _ _ hsame) with
          hsame | ⟨hnone, hdir, -⟩
        · exact Or.inl hsame
        · exact Or.inr (Or.inl ⟨hnone, hdir⟩)

theorem yields_of_attempt {outcome : Except Failure Model} {out binary : Path} {s t : Store}
    {result : Except Failure Path} (hattempt : attempt outcome out binary s = (result, t)) :
    s.Yields t := by
  unfold attempt at hattempt
  split at hattempt
  · cases hattempt
    exact .of_adds (.refl _)
  · split at hattempt
    · cases hattempt
      exact .of_adds (.refl _)
    · exact yields_of_save hattempt

/-!
## Settled binaries
-/

/-- Processing a binary again comes to the same result, but for the cause of a refusal, and to
the same files: one case for each way in which an attempt ends. -/
inductive Settled (outcome : Except Failure Model) (out binary : Path) (t : Store) :
    Except Failure Path → Prop
  | uninspected {failure : Failure} (hinspect : inspect t binary = .error failure) :
      Settled outcome out binary t (.error failure)
  | unmade {image : Elf.Image} {failure : Failure} (hinspect : inspect t binary = .ok image)
      (houtcome : outcome = .error failure) : Settled outcome out binary t (.error failure)
  | refused {image : Elf.Image} {m : Model} {again : Cause} (cause : Cause)
      (hinspect : inspect t binary = .ok image) (houtcome : outcome = .ok m)
      (hmake : t.makeDirectories out = (.error again, t)) :
      Settled outcome out binary t (.error (.io out cause))
  | unwritten {image : Elf.Image} {m : Model} {o : Location} {again : Cause} (cause : Cause)
      (hinspect : inspect t binary = .ok image) (houtcome : outcome = .ok m)
      (hleads : t.Leads out o)
      (hwrite : t.write (savedPath out binary) (Utf8.encode m.render) = .error again) :
      Settled outcome out binary t (.error (.io (savedPath out binary) cause))
  | saved {image : Elf.Image} {m : Model} {o : Location}
      (hinspect : inspect t binary = .ok image) (houtcome : outcome = .ok m)
      (hleads : t.Leads out o)
      (hwrite : t.write (savedPath out binary) (Utf8.encode m.render) = .ok t) :
      Settled outcome out binary t (.ok (savedPath out binary))

/-- Failures that differ at most in why the system refused something. -/
inductive Failure.Alike : Failure → Failure → Prop
  | refl (failure : Failure) : Alike failure failure
  | io (path : Path) (cause again : Cause) : Alike (.io path cause) (.io path again)

/-- Results that are the same, or failures that are alike. -/
inductive SameResult {α : Type} : Except Failure α → Except Failure α → Prop
  | ok (a : α) : SameResult (.ok a) (.ok a)
  | error {failure again : Failure} (halike : failure.Alike again) :
      SameResult (.error failure) (.error again)

theorem settled_of_save {outcome : Except Failure Model} {out binary : Path} {s t : Store}
    {result : Except Failure Path} {image : Elf.Image} {m : Model} (hfree : s.LinkFree)
    (hinspect : inspect t binary = .ok image) (houtcome : outcome = .ok m)
    (hsource : m.source = binary.display) (hsave : m.save out s = (result, t)) :
    Settled outcome out binary t result := by
  cases hmake : s.makeDirectories out with
  | mk made u =>
      cases made with
      | error cause =>
          obtain ⟨again, hagain⟩ := Store.makeDirectories_error hfree.direct hmake
          rw [save_of_refused hmake] at hsave
          cases hsave
          exact .refused cause hinspect houtcome hagain
      | ok =>
          have hadds := s.makeDirectories_adds out
          rw [hmake] at hadds
          have hmade := hadds.linkFree hfree
          obtain ⟨o, hleads⟩ := Store.leads_of_makeDirectories hmake
          rw [Model.save, hmake, hsource] at hsave
          dsimp only at hsave
          split at hsave
          · rename_i cause hwrite
            cases hsave
            exact .unwritten cause hinspect houtcome hleads hwrite
          · rename_i written hwrite
            cases hsave
            obtain ⟨location, hwrote⟩ := Store.wrote_of_write hwrite
            obtain ⟨executable, hholds⟩ := hwrote.holds
            have hplain := plain_modelName (Path.ofText binary.display)
            rw [hwrote.location_child hmade.direct hleads hplain] at hholds
            have hleads' := hleads.grows hwrote.grows
            refine .saved hinspect houtcome hleads' ?_
            exact Store.write_child_same (hwrote.direct hmade.direct) hleads' hplain
              (Store.walkable_of_locate hwrote.leads) hholds

section

variable {outcome : Except Failure Model} {out binary : Path} {s t : Store}
  {result : Except Failure Path}
  (hsource : ∀ m, outcome = .ok m → m.source = binary.display)

include hsource

theorem settled_of_attempt (hfree : s.LinkFree)
    (hattempt : attempt outcome out binary s = (result, t))
    (hread : t.read binary = s.read binary) : Settled outcome out binary t result := by
  have hinspect : inspect t binary = inspect s binary := by
    rw [inspect, inspect, hread]
  unfold attempt at hattempt
  cases himage : inspect s binary with
  | error failure =>
      rw [himage] at hattempt hinspect
      cases hattempt
      exact .uninspected hinspect
  | ok image =>
      rw [himage] at hattempt hinspect
      cases houtcome : outcome with
      | error failure =>
          rw [houtcome] at hattempt
          cases hattempt
          exact .unmade hinspect rfl
      | ok m =>
          rw [houtcome] at hattempt
          exact settled_of_save hfree hinspect rfl (hsource m houtcome) hattempt

theorem Settled.again (hsettled : Settled outcome out binary t result) (hfree : t.LinkFree) :
    ∃ again, attempt outcome out binary t = (again, t) ∧ SameResult result again := by
  cases hsettled with
  | uninspected hinspect =>
      refine ⟨_, ?_, .error (.refl _)⟩
      unfold Imprint.attempt
      rw [hinspect]
  | unmade hinspect houtcome =>
      refine ⟨_, ?_, .error (.refl _)⟩
      unfold Imprint.attempt
      rw [hinspect, houtcome]
  | refused cause hinspect houtcome hmake =>
      rename_i image m refusal
      refine ⟨.error (.io out refusal), ?_, .error (.io out cause refusal)⟩
      unfold Imprint.attempt
      rw [hinspect, houtcome]
      exact save_of_refused hmake
  | unwritten cause hinspect houtcome hleads hwrite =>
      rename_i image m o refusal
      refine ⟨.error (.io (savedPath out binary) refusal), ?_, .error (.io _ cause refusal)⟩
      unfold Imprint.attempt
      rw [hinspect, houtcome]
      dsimp only
      rw [Model.save, Store.makeDirectories_of_leads hfree.direct hleads, hsource m houtcome]
      dsimp only
      rw [← savedPath, hwrite]
  | saved hinspect houtcome hleads hwrite =>
      rename_i image m o
      refine ⟨_, ?_, .ok _⟩
      unfold Imprint.attempt
      rw [hinspect, houtcome]
      dsimp only
      rw [Model.save, Store.makeDirectories_of_leads hfree.direct hleads, hsource m houtcome]
      dsimp only
      rw [← savedPath, hwrite]

end

theorem wrote_of_attempt {outcome : Except Failure Model} {out binary : Path} {s t : Store}
    {result : Except Failure Path} {o : Location} (hfree : s.LinkFree) (hleads : s.Leads out o)
    (hsource : ∀ m, outcome = .ok m → m.source = binary.display)
    (hattempt : attempt outcome out binary s = (result, t)) :
    t = s ∨ ∃ contents,
      s.Wrote (savedPath out binary) contents t (modelName (Path.ofText binary.display) :: o) := by
  unfold attempt at hattempt
  split at hattempt
  · cases hattempt
    exact Or.inl rfl
  · split at hattempt
    · cases hattempt
      exact Or.inl rfl
    · rename_i m
      rw [Model.save, Store.makeDirectories_of_leads hfree.direct hleads, hsource m rfl] at hattempt
      dsimp only at hattempt
      split at hattempt
      · cases hattempt
        exact Or.inl rfl
      · rename_i written hwrite
        cases hattempt
        obtain ⟨location, hwrote⟩ := Store.wrote_of_write hwrite
        have hplace := hwrote.location_child hfree.direct hleads (plain_modelName _)
        rw [hplace] at hwrote
        exact Or.inr ⟨_, hwrote⟩

theorem eq_of_attempt {outcome : Except Failure Model} {out binary : Path} {s t : Store}
    {result : Except Failure Path} {cause : Cause}
    (hmake : s.makeDirectories out = (.error cause, s))
    (hattempt : attempt outcome out binary s = (result, t)) : t = s := by
  unfold attempt at hattempt
  split at hattempt
  · cases hattempt
    rfl
  · split at hattempt
    · cases hattempt
      rfl
    · rw [save_of_refused hmake] at hattempt
      cases hattempt
      rfl

theorem Settled.attempt {outcome outcome' : Except Failure Model} {out binary other : Path}
    {s t : Store} {result result' : Except Failure Path}
    (hsettled : Settled outcome out binary s result) (hfree : s.LinkFree)
    (hsource : ∀ m, outcome' = .ok m → m.source = other.display)
    (hattempt : Imprint.attempt outcome' out other s = (result', t))
    (hread : t.read binary = s.read binary)
    (hname : modelName (Path.ofText binary.display) ≠ modelName (Path.ofText other.display)) :
    Settled outcome out binary t result := by
  have hsame : inspect t binary = inspect s binary := by
    rw [inspect, inspect, hread]
  cases hsettled with
  | uninspected hinspect => exact .uninspected (hsame.trans hinspect)
  | unmade hinspect houtcome => exact .unmade (hsame.trans hinspect) houtcome
  | refused cause hinspect houtcome hmake =>
      rw [eq_of_attempt hmake hattempt]
      exact .refused cause hinspect houtcome hmake
  | unwritten cause hinspect houtcome hleads hwrite =>
      rcases wrote_of_attempt hfree hleads hsource hattempt with rfl | ⟨contents, hwrote⟩
      · exact .unwritten cause hinspect houtcome hleads hwrite
      · rename_i image m o refusal
        have hne : modelName (Path.ofText binary.display) :: o ≠
            modelName (Path.ofText other.display) :: o :=
          fun heq => hname (List.cons.inj heq).1
        have hkept := hwrote.at?_of_ne hfree.unshared hne
        have hleads' := hleads.grows hwrote.grows
        have hcongr := Store.write_child_congr hfree.direct (hwrote.direct hfree.direct) hleads
          hleads' (plain_modelName _) hkept (Utf8.encode m.render)
        rw [← outputPath_eq, ← savedPath, hwrite] at hcongr
        cases hwrite' : t.write (savedPath out binary) (Utf8.encode m.render) with
        | ok u =>
            rw [hwrite'] at hcongr
            cases hcongr
        | error again =>
            exact .unwritten cause (hsame.trans hinspect) houtcome hleads' hwrite'
  | saved hinspect houtcome hleads hwrite =>
      rcases wrote_of_attempt hfree hleads hsource hattempt with rfl | ⟨contents, hwrote⟩
      · exact .saved hinspect houtcome hleads hwrite
      · rename_i image m o
        have hne : modelName (Path.ofText binary.display) :: o ≠
            modelName (Path.ofText other.display) :: o :=
          fun heq => hname (List.cons.inj heq).1
        have hkept := hwrote.at?_of_ne hfree.unshared hne
        have hplain := plain_modelName (Path.ofText binary.display)
        obtain ⟨location, hheld⟩ := Store.wrote_of_write hwrite
        obtain ⟨executable, hholds⟩ := hheld.holds
        have hplace : location = modelName (Path.ofText binary.display) :: o :=
          hheld.location_child hfree.direct hleads hplain
        rw [hplace, ← hkept] at hholds
        have hleads' := hleads.grows hwrote.grows
        refine .saved (hsame.trans hinspect) houtcome hleads' ?_
        exact Store.write_child_same (hwrote.direct hfree.direct) hleads' hplain
          (Store.walkable_of_locate hheld.leads) hholds

end Imprint
