import Imprint.Proofs.Batch.Discovery

/-!
# Stages of a batch

A stage is what the files are like when some binaries of a batch have been
processed: as they were at first, but for the models that were written and for
directories on the way to them.  In a stage, a further binary fares as it would
have fared at first, and what it leaves is a stage again.
-/

namespace Imprint

def outputPlace (o : Location) (binary : Path) : Location :=
  modelName (Path.ofText binary.display) :: o

/-- The files after the models of some binaries were written at `o`, to which `out` leads once
its directories are made. -/
structure Stage (s : Store) (out : Path) (o : Location) (outcome : Path → Except Failure Model)
    (done : List Path) (t : Store) : Prop where
  grows : s.Grows t
  linkFree : t.LinkFree
  kept : ∀ place contents executable, place ∉ done.map (outputPlace o) →
    s.at? place = some (.file contents executable) →
      t.at? place = some (.file contents executable)
  ready : (t.makeDirectories out).1.isOk = (s.makeDirectories out).1.isOk
  settled : ∀ place, place ∉ done.map (outputPlace o) →
    (t.makeDirectories out).2.at? place = (s.makeDirectories out).2.at? place
  leads : (s.makeDirectories out).1.isOk = true → (t.makeDirectories out).2.Leads out o
  written : ∀ binary ∈ done, ∃ m executable, outcome binary = .ok m ∧
    t.at? (outputPlace o binary) = some (.file (Utf8.encode m.render) executable) ∧
      t.locate .followed (savedPath out binary) = .ok (.found (outputPlace o binary))

namespace Stage

variable {s t : Store} {out : Path} {o : Location} {outcome : Path → Except Failure Model}
  {done : List Path}

theorem start (hfree : s.LinkFree)
    (hleads : (s.makeDirectories out).1.isOk = true → (s.makeDirectories out).2.Leads out o) :
    Stage s out o outcome [] s where
  grows := Store.Grows.refl s
  linkFree := hfree
  kept _ _ _ _ hfile := hfile
  ready := rfl
  settled _ _ := rfl
  leads := hleads
  written _ hmem := absurd hmem List.not_mem_nil

theorem makeDirectories_again {made : Store} {result : Except Cause Unit} (hdirect : t.Direct)
    (hmake : t.makeDirectories out = (result, made)) :
    (made.makeDirectories out).1.isOk = result.isOk ∧ (made.makeDirectories out).2 = made := by
  have hmade : made.Direct := by
    have hadds := t.makeDirectories_adds out
    rw [hmake] at hadds
    exact hadds.direct hdirect
  cases result with
  | error cause =>
      obtain ⟨again, hagain⟩ := Store.makeDirectories_error hdirect hmake
      rw [hagain]
      exact ⟨rfl, rfl⟩
  | ok =>
      obtain ⟨place, hleads⟩ := Store.leads_of_makeDirectories hmake
      rw [Store.makeDirectories_of_leads hmade hleads]
      exact ⟨rfl, rfl⟩

theorem make (hstage : Stage s out o outcome done t) {made : Store} {result : Except Cause Unit}
    (hmake : t.makeDirectories out = (result, made)) : Stage s out o outcome done made := by
  have hadds := t.makeDirectories_adds out
  obtain ⟨hready, hsettled⟩ := makeDirectories_again hstage.linkFree.direct hmake
  have hstageReady := hstage.ready
  have hstageSettled := hstage.settled
  have hstageLeads := hstage.leads
  rw [hmake] at hadds hstageReady hstageSettled hstageLeads
  exact
    { grows := hstage.grows.trans hadds.grows
      linkFree := hadds.linkFree hstage.linkFree
      kept := fun place contents executable hplace hfile =>
        hadds.entry (hstage.kept place contents executable hplace hfile)
      ready := hready.trans hstageReady
      settled := fun place hplace => by
        rw [hsettled]
        exact hstageSettled place hplace
      leads := fun hok => by
        rw [hsettled]
        exact hstageLeads hok
      written := fun binary hbinary => by
        obtain ⟨m, executable, hmodel, hholds, hlocate⟩ := hstage.written binary hbinary
        have hheld := hadds.entry hholds
        exact ⟨m, executable, hmodel, hheld,
          Store.locate_grows hadds.grows hlocate (Store.occupied_of_file hheld)⟩ }

theorem write (hstage : Stage s out o outcome done t) {u : Store} {binary : Path} {m : Model}
    (hok : (s.makeDirectories out).1.isOk = true) (hleads : t.Leads out o)
    (hfresh : outputPlace o binary ∉ done.map (outputPlace o)) (hmodel : outcome binary = .ok m)
    (hwrote : t.Wrote (savedPath out binary) (Utf8.encode m.render) u (outputPlace o binary)) :
    Stage s out o outcome (done ++ [binary]) u := by
  have hfree := hwrote.linkFree hstage.linkFree
  have hleads' := hleads.grows hwrote.grows
  have hmake := Store.makeDirectories_of_leads hfree.direct hleads'
  have hmake' := Store.makeDirectories_of_leads hstage.linkFree.direct hleads
  have hstageSettled := hstage.settled
  rw [hmake'] at hstageSettled
  have hplaces : ∀ place, place ∉ (done ++ [binary]).map (outputPlace o) →
      place ∉ done.map (outputPlace o) ∧ place ≠ outputPlace o binary := by
    intro place hplace
    rw [List.map_append, List.mem_append, not_or] at hplace
    exact ⟨hplace.1, fun heq => hplace.2 (by simp [heq])⟩
  refine
    { grows := hstage.grows.trans hwrote.grows
      linkFree := hfree
      kept := ?_
      ready := ?_
      settled := ?_
      leads := fun _ => by rw [hmake]; exact hleads'
      written := ?_ }
  · intro place contents executable hplace hfile
    obtain ⟨hdone, hne⟩ := hplaces place hplace
    rw [hwrote.at?_of_ne hstage.linkFree.unshared hne]
    exact hstage.kept place contents executable hdone hfile
  · rw [hmake, hok]
    rfl
  · intro place hplace
    obtain ⟨hdone, hne⟩ := hplaces place hplace
    rw [hmake, hwrote.at?_of_ne hstage.linkFree.unshared hne]
    exact hstageSettled place hdone
  · intro other hother
    rcases List.mem_append.mp hother with hdone | hnew
    · obtain ⟨m', executable, hmodel', hholds, hlocate⟩ := hstage.written other hdone
      have hne : outputPlace o other ≠ outputPlace o binary := by
        intro heq
        exact hfresh (heq ▸ List.mem_map_of_mem hdone)
      have hheld : u.at? (outputPlace o other) =
          some (.file (Utf8.encode m'.render) executable) := by
        rw [hwrote.at?_of_ne hstage.linkFree.unshared hne, hholds]
      exact ⟨m', executable, hmodel', hheld,
        Store.locate_grows hwrote.grows hlocate (Store.occupied_of_file hheld)⟩
    · cases List.mem_singleton.mp hnew
      obtain ⟨executable, hholds⟩ := hwrote.holds
      exact ⟨m, executable, hmodel, hholds, hwrote.leads⟩

/-!
## One more binary
-/

theorem save (hstart : Stage s out o outcome [] s) (hstage : Stage s out o outcome done t)
    {binary : Path} {m : Model} (hmodel : outcome binary = .ok m)
    (hsource : m.source = binary.display)
    (hfresh : outputPlace o binary ∉ done.map (outputPlace o)) :
    ((∃ failure, (m.save out s).1 = .error failure) ∧
        (∃ failure, (m.save out t).1 = .error failure) ∧
          Stage s out o outcome done (m.save out t).2) ∨
      ((m.save out s).1 = .ok (savedPath out binary) ∧
        (m.save out t).1 = .ok (savedPath out binary) ∧
          Stage s out o outcome (done ++ [binary]) (m.save out t).2) := by
  have hready := hstage.ready
  cases hs : s.makeDirectories out with
  | mk first sMade =>
  cases ht : t.makeDirectories out with
  | mk second tMade =>
      rw [hs, ht] at hready
      have hmade := hstage.make ht
      cases first with
      | error cause =>
          cases second with
          | ok => cases hready
          | error again =>
              left
              rw [save_of_refused hs, save_of_refused ht]
              exact ⟨⟨_, rfl⟩, ⟨_, rfl⟩, hmade⟩
      | ok =>
          cases second with
          | error again => cases hready
          | ok =>
              have hok : (s.makeDirectories out).1.isOk = true := by
                rw [hs]
                rfl
              have hsLeads := hstart.leads hok
              have htLeads := hstage.leads hok
              have hat := hstage.settled _ hfresh
              rw [hs] at hsLeads hat
              rw [ht] at htLeads hat
              have hplain := plain_modelName (Path.ofText m.source)
              rw [outputPlace, ← hsource] at hat
              have hcongr := Store.write_child_congr (hstart.make hs).linkFree.direct
                hmade.linkFree.direct hsLeads htLeads hplain hat (Utf8.encode m.render)
              rw [← outputPath_eq] at hcongr
              have hpath : outputPath out (Path.ofText m.source) = savedPath out binary := by
                rw [hsource, savedPath]
              rcases save_cases hs with ⟨hsWrite, failure, hsSave⟩ | ⟨v, hsWrite, hsSave⟩
              · rcases save_cases ht with ⟨-, failure', htSave⟩ | ⟨u, htWrite, -⟩
                · left
                  rw [hsSave, htSave]
                  exact ⟨⟨_, rfl⟩, ⟨_, rfl⟩, hmade⟩
                · rw [hsWrite, htWrite] at hcongr
                  cases hcongr
              · rcases save_cases ht with ⟨htWrite, -⟩ | ⟨u, htWrite, htSave⟩
                · rw [hsWrite, htWrite] at hcongr
                  cases hcongr
                · right
                  rw [hsSave, htSave, hpath]
                  refine ⟨rfl, rfl, ?_⟩
                  obtain ⟨location, hwrote⟩ := Store.wrote_of_write htWrite
                  have hlocation := hwrote.location_child hmade.linkFree.direct htLeads hplain
                  rw [hlocation, hpath, hsource] at hwrote
                  exact hmade.write hok htLeads hfresh hmodel hwrote

theorem attempt (hstart : Stage s out o outcome [] s) (hstage : Stage s out o outcome done t)
    {binary : Path} (hread : t.read binary = s.read binary)
    (hsource : ∀ m, outcome binary = .ok m → m.source = binary.display)
    (hfresh : outputPlace o binary ∉ done.map (outputPlace o)) :
    ((∃ failure, (Imprint.attempt (outcome binary) out binary s).1 = .error failure) ∧
        (∃ failure, (Imprint.attempt (outcome binary) out binary t).1 = .error failure) ∧
          Stage s out o outcome done (Imprint.attempt (outcome binary) out binary t).2) ∨
      ((Imprint.attempt (outcome binary) out binary s).1 = .ok (savedPath out binary) ∧
        (Imprint.attempt (outcome binary) out binary t).1 = .ok (savedPath out binary) ∧
          Stage s out o outcome (done ++ [binary])
            (Imprint.attempt (outcome binary) out binary t).2) := by
  have hinspect : inspect t binary = inspect s binary := by
    rw [inspect, inspect, hread]
  unfold Imprint.attempt
  rw [hinspect]
  cases inspect s binary with
  | error failure => exact Or.inl ⟨⟨_, rfl⟩, ⟨_, rfl⟩, hstage⟩
  | ok image =>
      cases hmodel : outcome binary with
      | error failure => exact Or.inl ⟨⟨_, rfl⟩, ⟨_, rfl⟩, hstage⟩
      | ok m => exact hstart.save hstage hmodel (hsource m hmodel) hfresh

end Stage

end Imprint
