import Imprint.Proofs.Batch.Regularity
import Imprint.Proofs.Naming

/-!
# Paths without a file name

A path without a file name goes up behind every name in it.  Whatever links are on its way, it
leads to a directory if it leads anywhere, so it cannot be read and its model is never made.  A
model that is saved thus has a name before its ending, and the file that holds it is the entry of
that name, unless a link stands there.
-/

namespace Imprint

/-!
## Steps that end by going up
-/

/-- The last step that leads somewhere else, if there is one, is not to a name. -/
def Step.Returns (steps : List Step) : Prop :=
  ∀ name, (steps.filter isMove).getLast? ≠ some (.name name)

namespace Step

theorem Returns.of_cons {step : Step} {steps : List Step} (hreturns : Returns (step :: steps)) :
    Returns steps := by
  intro name hlast
  refine hreturns name ?_
  cases hmove : step.isMove with
  | false =>
      rw [List.filter_cons_of_neg (by simp [hmove]), hlast]
  | true =>
      rw [List.filter_cons_of_pos hmove, List.getLast?_cons, hlast]
      rfl

/-- Behind a name there is a step that goes up, so whatever stands in the place of the name, the
steps end by going up. -/
theorem Returns.append {name : Name} {steps : List Step} (hreturns : Returns (.name name :: steps))
    (front : List Step) : Returns (front ++ steps) := by
  intro other hlast
  rw [List.filter_append, List.getLast?_append] at hlast
  cases hsteps : (steps.filter isMove).getLast? with
  | none =>
      refine hreturns name ?_
      rw [List.filter_cons_of_pos rfl, List.getLast?_cons, hsteps]
      rfl
  | some step =>
      rw [hsteps] at hlast
      cases hlast
      exact hreturns.of_cons other hsteps

theorem ofPiece_of_counts {piece : Bytes} (hpiece : Path.counts piece = true) :
    ofPiece piece = if piece = [Path.dot, Path.dot] then .up else .name piece := by
  by_cases hnone : piece = [] ∨ piece = [Path.dot]
  · simp [Path.counts, Path.componentOf?, hnone] at hpiece
  · rw [ofPiece, if_neg fun hempty => hnone (Or.inl hempty),
      if_neg fun hdot => hnone (Or.inr hdot)]

end Step

theorem Path.returns_steps_iff {p : Path} : Step.Returns p.steps ↔ p.fileName? = none := by
  show (∀ name, p.moves.getLast? ≠ some (.name name)) ↔ _
  rw [moves_eq, List.getLast?_map, fileName?_eq]
  cases hlast : p.counted.getLast? with
  | none =>
      simp
  | some piece =>
      have hcounts := (List.mem_filter.mp (List.mem_of_getLast? hlast)).2
      rw [Option.map_some, Step.ofPiece_of_counts hcounts]
      by_cases hparent : piece = [dot, dot]
      · simp [Option.filter, hparent]
      · simp [Option.filter, hparent]

example : ∀ t ∈ ["", "/", ".", "..", "a/..", "a/../."],
    (Path.ofText t.toList).fileName? = none := by
  decide

/-!
## Nothing to read
-/

namespace Store

theorem Resolves.directory_of_returns {s : Store} {links : Nat} {here place : Location}
    {steps : List Step} (hresolves : s.Resolves links here steps place)
    (hhere : s.at? here = some .directory) (hreturns : Step.Returns steps) :
    s.at? place = some .directory := by
  induction hresolves with
  | done here => exact hhere
  | slash _ ih => exact ih hhere hreturns.of_cons
  | stay _ ih => exact ih hhere hreturns.of_cons
  | up _ ih => exact ih (at?_tail hhere) hreturns.of_cons
  | directory hdir _ ih => exact ih hdir hreturns.of_cons
  | file hfile => exact absurd rfl (hreturns _)
  | link hlink _ ih =>
      refine ih ?_ (hreturns.append _)
      split
      · exact at?_root _
      · exact hhere

theorem not_isFile_of_nameless {s : Store} {p : Path} (hname : p.fileName? = none) :
    ¬ s.IsFile p := by
  rintro ⟨place, contents, executable, ⟨-, links, -, hresolves⟩, hfile⟩
  rw [hresolves.directory_of_returns (s.at?_origin p) (Path.returns_steps_iff.mpr hname)] at hfile
  cases hfile

/-!
## Where a model is written
-/

theorem Leads.resolves {s : Store} {dir : Path} {o : Location} (hleads : s.Leads dir o) :
    ∃ links, s.Resolves links (s.origin dir) dir.steps o := by
  rcases hleads with ⟨hempty, rfl⟩ | ⟨hlocate, -⟩
  · refine ⟨0, ?_⟩
    simp only [origin, Path.isAbsolute, Path.steps, Path.pieces, hempty, cutAt]
    exact .slash (.done _)
  · obtain ⟨-, links, -, hresolves⟩ := locate_iff_reaches.mp hlocate
    exact ⟨links, hresolves⟩

theorem Leads.entry_or_link {s : Store} {dir : Path} {name : Name} {o location : Location}
    (hleads : s.Leads dir o) (hname : name.Plain) (hreaches : s.Reaches (dir.child name) location)
    {contents : Bytes} {executable : Bool}
    (hfile : s.at? location = some (.file contents executable)) :
    location = name :: o ∨ ∃ target, s.at? (name :: o) = some (.link target) := by
  obtain ⟨links, hresolves⟩ := hleads.resolves
  obtain ⟨-, total, -, htotal⟩ := hreaches
  obtain ⟨more, -, hmore⟩ := (resolves_child_iff hresolves hleads.directory hname).mp htotal
  cases hmore with
  | directory hdir hrest =>
      cases hrest
      exact Or.inl rfl
  | file _ => exact Or.inl rfl
  | link hlink _ => exact Or.inr ⟨_, hlink⟩

theorem Saved.link {s t : Store} {dirs : List Path} {path target : Path} {contents : Bytes}
    {location place : Location} (hsaved : s.Saved dirs path contents t location)
    (hlink : t.at? place = some (.link target)) : s.at? place = some (.link target) := by
  have hplace : ¬ s.SameFile place location := by
    intro hsame
    obtain ⟨executable, hfile⟩ := hsaved.holds
    rw [hsaved.names place hsame, hfile] at hlink
    cases hlink
  rcases hsaved.elsewhere place hplace with hsame | ⟨-, hdir, -⟩
  · rw [← hsame, hlink]
  · rw [hdir] at hlink
    cases hlink

end Store

theorem place_of_save {m : Model} {out path : Path} {s t : Store}
    (hsave : m.save out s = (.ok path, t)) :
    ∃ o location, t.Leads out o ∧
      s.Saved (out :: out.ancestors) path (Utf8.encode m.render) t location ∧
        (location = modelName (Path.ofText m.source) :: o ∨
          ∃ target, s.at? (modelName (Path.ofText m.source) :: o) = some (.link target)) := by
  obtain ⟨hpath, made, location, hmake, hwrote⟩ := wrote_of_save hsave
  have hprepares := s.makeDirectories_prepares out
  rw [hmake] at hprepares
  have hsaved := Store.Saved.of_wrote hprepares hwrote
  obtain ⟨o, hmade⟩ := Store.leads_of_makeDirectories hmake
  have hleads := hmade.grows hwrote.grows
  obtain ⟨executable, hfile⟩ := hsaved.holds
  have hreaches := Store.locate_iff_reaches.mp hsaved.leads
  rw [hpath, outputPath_eq] at hreaches
  refine ⟨o, location, hleads, hsaved, ?_⟩
  exact (hleads.entry_or_link (plain_modelName _) hreaches hfile).imp_right fun ⟨target, hlink⟩ =>
    ⟨target, hsaved.link hlink⟩

/-!
## Processing
-/

/-- A binary without a file name is refused as it is read, before the disassembler is asked and
before anything is written. -/
theorem process_of_nameless (d : Disassembler) (out : Path) {binary : Path}
    (hname : binary.fileName? = none) (p : Progress) :
    ∃ cause, inspect p.store binary = .error (.io binary cause) ∧
      process d out binary p =
        (.error (.io binary cause), { p with events := p.events ++ [.parsing binary] }) := by
  obtain ⟨cause, hinspect⟩ := inspect_io_iff.mpr (Store.not_isFile_of_nameless (s := p.store) hname)
  exact ⟨cause, hinspect, by simp [process, hinspect]⟩

/-- A binary without a file name is refused as it is read.  So where a model was saved, the path
that it names its binary by has a file name, and that name stands before the ending of the path
that it was saved under.  The one file that is new or changed is the entry of that name in the
output directory, unless a link stands there. -/
theorem process_nameless :
    (∀ (d : Disassembler) (out binary : Path) (p : Progress), binary.fileName? = none →
      ∃ cause, inspect p.store binary = .error (.io binary cause) ∧
        process d out binary p =
          (.error (.io binary cause), { p with events := p.events ++ [.parsing binary] })) ∧
      ∀ (d : Disassembler) (out binary path : Path) (p : Progress),
        (process d out binary p).1 = .ok path →
          ∃ name, (Path.ofText binary.display).fileName? = some name ∧ name ≠ [] ∧
            path = out.child (name ++ Utf8.encode ".ucl".toList) ∧
            ∃ m o location, (process d out binary p).2.store.Leads out o ∧
              (generate d binary p).2.store.Saved (out :: out.ancestors) path
                (Utf8.encode (Model.render m)) (process d out binary p).2.store location ∧
              (location = (name ++ Utf8.encode ".ucl".toList) :: o ∨
                ∃ target, (generate d binary p).2.store.at?
                  ((name ++ Utf8.encode ".ucl".toList) :: o) = some (.link target)) := by
  refine ⟨fun d out binary p hname => process_of_nameless d out hname p, ?_⟩
  intro d out binary path p hok
  obtain ⟨⟨image, hinspect⟩, m, hgenerate, hsave⟩ := save_of_process hok
  have hsource := source_of_generate hgenerate
  cases hname : binary.fileName? with
  | none =>
      obtain ⟨cause, hrefused, -⟩ := process_of_nameless d out hname p
      rw [hinspect] at hrefused
      cases hrefused
  | some whole =>
      have hshown : (Path.ofText binary.display).fileName? = some (Utf8.shown whole) := by
        rw [Path.fileName?_ofText_display, hname, Option.map_some]
      obtain ⟨o, location, hleads, hsaved, hplace⟩ := place_of_save hsave
      have hpath := path_of_process hok
      rw [hsource] at hplace
      have hmodel : modelName (Path.ofText binary.display) =
          Utf8.shown whole ++ Utf8.encode ".ucl".toList := by
        rw [modelName, hshown]
        rfl
      rw [hmodel] at hplace
      refine ⟨Utf8.shown whole, hshown, Path.ne_nil_of_fileName? hshown, ?_, m, o, location, hleads,
        hsaved, hplace⟩
      rw [hpath, savedPath, outputPath_eq, hmodel]

def aliasStore : Store :=
  (Store.empty.put [Utf8.encode "a".toList] .directory).put [Utf8.encode "b".toList]
    (.link (.ofText "a".toList))

/-- Going up behind a link is no file, and the model of a lone image is saved under its name. -/
theorem process_nameless_alias :
    (∃ cause, process (.ofReplies fun _ => .ok []) (.ofText "out".toList) (.ofText "b/..".toList)
        { store := aliasStore } = (.error (.io (.ofText "b/..".toList) cause),
          { store := aliasStore, events := [.parsing (.ofText "b/..".toList)] })) ∧
      (processLone (.ofText "out".toList)).1 = .ok (.ofText "out/a.ucl".toList) ∧
      ∃ m o location, loneStore.Saved
          (.ofText "out".toList :: (Path.ofText "out".toList).ancestors)
          (.ofText "out/a.ucl".toList) (Utf8.encode (Model.render m))
          (processLone (.ofText "out".toList)).2.store location ∧
        location = Utf8.encode "a.ucl".toList :: o := by
  obtain ⟨hnameless, hnamed⟩ := process_nameless
  have hok : (processLone (.ofText "out".toList)).1 = .ok (.ofText "out/a.ucl".toList) := by
    decide +kernel
  obtain ⟨cause, -, hprocess⟩ := hnameless (.ofReplies fun _ => .ok []) (.ofText "out".toList)
    (.ofText "b/..".toList) { store := aliasStore } (by decide)
  obtain ⟨name, hname, -, -, m, o, location, -, hsaved, hplace⟩ := hnamed _ _ _ _ _ hok
  have hreadOnly := (Disassembler.steady_ofReplies fun _ => .ok []).readOnly
  rw [store_generate_of_readOnly hreadOnly] at hsaved hplace
  refine ⟨⟨cause, hprocess⟩, hok, m, o, location, hsaved, ?_⟩
  rcases hplace with hentry | ⟨target, hlink⟩
  · have hletter : (Path.ofText (Path.ofText "a".toList).display).fileName? =
        some (Utf8.encode "a".toList) := by
      decide +kernel
    obtain rfl := Option.some.inj (hletter.symm.trans hname)
    exact hentry
  · exact absurd hlink (linkFree_loneStore.direct _ target)

def linkedStore : Store :=
  let out : Location := [Utf8.encode "out".toList]
  ((Store.empty.put [Utf8.encode "a".toList] (.file bareImage false)).put out .directory).put
    (Utf8.encode "a.ucl".toList :: out) (.link (.ofText ".ucl".toList))

/-- The model of the image is saved under its name, but the link leads to a name that is nothing
but the ending, and there it is written. -/
theorem process_nameless_linked :
    linkedStore.at? [Utf8.encode ".ucl".toList, Utf8.encode "out".toList] = none ∧
      (process (.ofReplies fun _ => .ok []) (.ofText "out".toList) (.ofText "a".toList)
        { store := linkedStore }).1 = .ok (.ofText "out/a.ucl".toList) ∧
      ∃ m, (generate (.ofReplies fun _ => .ok []) (.ofText "a".toList)
          { store := linkedStore }).1 = .ok m ∧
        (process (.ofReplies fun _ => .ok []) (.ofText "out".toList) (.ofText "a".toList)
          { store := linkedStore }).2.store.at?
            [Utf8.encode ".ucl".toList, Utf8.encode "out".toList] =
          some (.file (Utf8.encode m.render) false) := by
  refine ⟨by decide +kernel, by decide +kernel, _, rfl, ?_⟩
  decide +kernel

end Imprint
