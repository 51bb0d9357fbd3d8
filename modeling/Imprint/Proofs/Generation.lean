import Imprint.Generation
import Imprint.Proofs.Job
import Imprint.Proofs.Store.Directories
import Imprint.Proofs.Text.Utf8

/-!
# Making and saving models

With a steady disassembler the model of a binary is one and the same whenever it
is made, so processing a binary is a function of the files.  A model that was
saved is found under its path, and nothing else has changed but for directories.
-/

namespace Imprint

/-!
## Making models
-/

section

variable {R : Progress → Progress → Prop} {d : Disassembler} {binary : Path}
  (hunreported : Job.Unreported R) (hask : ∀ pass, (Job.ask d pass binary).Respects R)

include hunreported hask

theorem respects_dataStatements : (dataStatements d binary).Respects R := by
  refine Job.respects_bind (hask .data) fun dump => ?_
  refine Job.respects_bind (Job.respects_report hunreported _) fun _ => ?_
  exact Job.respects_bind (Job.respects_report hunreported _) fun _ => Job.respects_pure _

theorem respects_generate : (generate d binary).Respects R := by
  refine Job.respects_bind (hask .code) fun answer => ?_
  refine Job.respects_bind (Job.respects_report hunreported _) fun _ => ?_
  dsimp only
  split
  · exact Job.respects_bind (respects_dataStatements hunreported hask) fun _ =>
      Job.respects_pure _
  · exact Job.respects_bind (Job.respects_pure []) fun _ => Job.respects_pure _

end

theorem ignoresEvents_generate (d : Disassembler) (binary : Path) :
    (generate d binary).IgnoresEvents :=
  respects_generate Job.unreported_eq fun pass => Job.ignoresEvents_ask d pass binary

section

variable {R : Progress → Progress → Prop} {d : Disassembler} {binary : Path}
  (hpassage : Job.Passage R) (hask : ∀ pass, (Job.ask d pass binary).Follows R)

include hpassage hask

theorem follows_dataStatements : (dataStatements d binary).Follows R := by
  refine Job.follows_bind hpassage (hask .data) fun dump => ?_
  refine Job.follows_bind hpassage (Job.follows_report hpassage _) fun _ => ?_
  exact Job.follows_bind hpassage (Job.follows_report hpassage _) fun _ =>
    Job.follows_pure hpassage _

theorem follows_generate : (generate d binary).Follows R := by
  refine Job.follows_bind hpassage (hask .code) fun answer => ?_
  refine Job.follows_bind hpassage (Job.follows_report hpassage _) fun _ => ?_
  dsimp only
  split
  · exact Job.follows_bind hpassage (follows_dataStatements hpassage hask) fun _ =>
      Job.follows_pure hpassage _
  · exact Job.follows_bind hpassage (Job.follows_pure hpassage []) fun _ =>
      Job.follows_pure hpassage _

theorem follows_process {out : Path}
    (hsave : ∀ (m : Model) p, R p { p with store := (m.save out p.store).2 }) :
    (process d out binary).Follows R := by
  refine Job.follows_bind hpassage (Job.follows_report hpassage _) fun _ => ?_
  refine Job.follows_bind hpassage (Job.follows_look hpassage _) fun image => ?_
  refine Job.follows_bind hpassage (Job.follows_report hpassage _) fun _ => ?_
  refine Job.follows_bind hpassage (follows_generate hpassage hask) fun m => ?_
  refine Job.follows_bind hpassage (hsave m) fun path => ?_
  exact Job.follows_bind hpassage (Job.follows_report hpassage _) fun _ =>
    Job.follows_pure hpassage _

end

theorem constant_generate {d : Disassembler} (hsteady : d.Steady) (binary : Path) :
    (generate d binary).Constant := by
  have hresult : (generate d binary).Respects fun _ _ => True :=
    respects_generate (fun _ _ _ _ halike => halike) fun pass =>
      Job.respects_ask hsteady (fun _ _ _ _ halike => halike) (fun _ _ _ halike => halike) pass
        binary
  exact Job.constant_of_respects hresult (follows_generate Job.passage_store fun pass =>
    Job.follows_ask_store hsteady.readOnly pass binary)

theorem source_of_generate {d : Disassembler} {binary : Path} {p : Progress} {m : Model}
    (hgenerate : (generate d binary p).1 = .ok m) : m.source = binary.display := by
  have hgives : (generate d binary).Gives fun m => m.source = binary.display := by
    refine Job.gives_bind fun answer => Job.gives_bind fun _ => ?_
    dsimp only
    split
    · exact Job.gives_bind fun _ => Job.gives_pure rfl
    · exact Job.gives_bind fun _ => Job.gives_pure rfl
  exact hgives p m hgenerate

/-- What processing a binary comes to, given what making its model gives: the file is
inspected, and the model is saved. -/
def attempt (outcome : Except Failure Model) (out binary : Path) (store : Store) :
    Except Failure Path × Store :=
  match inspect store binary with
  | .error failure => (.error failure, store)
  | .ok _ =>
      match outcome with
      | .error failure => (.error failure, store)
      | .ok m => m.save out store

theorem inspect_of_read {s : Store} {binary : Path} {contents : Bytes}
    (hread : s.read binary = .ok contents) : inspect s binary = imageOf binary contents := by
  rw [inspect, hread]

theorem attempt_of_inspect {m : Model} {out binary : Path} {s : Store} {image : Elf.Image}
    (hinspect : inspect s binary = .ok image) :
    attempt (.ok m) out binary s = m.save out s := by
  unfold attempt
  rw [hinspect]

theorem process_of_inspect {d : Disassembler} {out binary : Path} {p : Progress}
    {image : Elf.Image} (hinspect : inspect p.store binary = .ok image) :
    process d out binary p = (generate d binary >>= fun m => m.writeTo out)
      { p with events := p.events ++ [.parsing binary] ++ [.inspected image] } := by
  simp [process, hinspect]

/-- Processing a binary: its file is inspected, its model is made, and the model is saved in
the files as the disassembler left them. -/
theorem process_eq (d : Disassembler) (out binary : Path) (p : Progress) :
    ((process d out binary p).1, (process d out binary p).2.store) =
      match inspect p.store binary with
      | .error failure => (.error failure, p.store)
      | .ok _ =>
          match (generate d binary p).1 with
          | .error failure => (.error failure, (generate d binary p).2.store)
          | .ok m => m.save out (generate d binary p).2.store := by
  cases hinspect : inspect p.store binary with
  | error failure =>
      simp [process, hinspect]
  | ok image =>
      obtain ⟨hresult, hstore, -⟩ := ignoresEvents_generate d binary
        { p with events := p.events ++ [.parsing binary] ++ [.inspected image] } p ⟨rfl, rfl⟩
      rw [process_of_inspect hinspect, Job.bind_apply]
      dsimp only
      rw [← hresult, ← hstore]
      generalize generate d binary _ = made
      obtain ⟨result, r⟩ := made
      cases result with
      | error failure => rfl
      | ok m =>
          rcases hsave : m.save out r.store with ⟨saved, written⟩
          cases saved <;> simp [Model.writeTo, hsave]

theorem process_eq_attempt {d : Disassembler} (hsteady : d.Steady) (out binary : Path)
    (p q : Progress) :
    ((process d out binary p).1, (process d out binary p).2.store) =
      attempt (generate d binary q).1 out binary p.store := by
  have hconstant := constant_generate hsteady binary
  rw [process_eq, hconstant.congr p q, hconstant.store p]
  rfl

/-- The header of an image for the processors that the models are about, without sections. -/
def bareImage : Bytes :=
  [0x7F, 0x45, 0x4C, 0x46, 1, 1, 1, 0, 0, 0, 0, 0, 0, 0, 0, 0, 2, 0, 243, 0, 1, 0, 0, 0] ++
    List.replicate 16 0 ++ [52] ++ List.replicate 11 0

/-!
## Names of models
-/

def modelName (binary : Path) : Name :=
  binary.fileName?.getD [] ++ Utf8.encode ('.' :: modelExtension)

theorem outputPath_eq (dir binary : Path) :
    outputPath dir binary = dir.child (modelName binary) := rfl

def savedPath (out binary : Path) : Path :=
  outputPath out (Path.ofText binary.display)

theorem encode_modelExtension :
    Utf8.encode ('.' :: modelExtension) = [Path.dot, 0x75, 0x63, 0x6C] := by
  unfold modelExtension
  decide

theorem plain_modelName (binary : Path) : (modelName binary).Plain := by
  have hextension := encode_modelExtension
  constructor
  · unfold modelName
    rw [hextension, List.mem_append, not_or]
    constructor
    · cases hname : binary.fileName? with
      | none => simp
      | some name => exact Path.slash_not_mem_fileName? hname
    · decide
  · unfold modelName Step.ofPiece
    rw [hextension]
    have hlength : ∀ short : Bytes, short.length < 4 →
        binary.fileName?.getD [] ++ [Path.dot, 0x75, 0x63, 0x6C] ≠ short := by
      intro short hshort heq
      rw [← heq, List.length_append] at hshort
      exact absurd hshort (by simp)
    rw [if_neg (hlength [] (by decide)), if_neg (hlength [Path.dot] (by decide)),
      if_neg (hlength [Path.dot, Path.dot] (by decide))]

theorem Name.Plain.componentOf? {name : Name} (hname : name.Plain) :
    Path.componentOf? name = some (.name name) := by
  obtain ⟨-, hpiece⟩ := hname
  unfold Step.ofPiece at hpiece
  split at hpiece
  · cases hpiece
  · rename_i hempty
    split at hpiece
    · cases hpiece
    · rename_i hdot
      split at hpiece
      · cases hpiece
      · rename_i hdots
        rw [Path.componentOf?, if_neg (not_or.mpr ⟨hempty, hdot⟩), if_neg hdots]

theorem componentOf?_of_valid {name : Name} (hvalid : name.Valid) :
    Path.componentOf? name = some (.name name) :=
  hvalid.plain.componentOf?

theorem fileName?_display_child {dir : Path} {name : Name} {t : Text} (hvalid : name.Valid)
    (hdecode : Utf8.decode? name = some t) :
    (Path.ofText (dir.child name).display).fileName? = some name := by
  have hencode : Utf8.encode (Utf8.decode name) = name := by
    rw [Utf8.decode_of_decode? hdecode, Utf8.encode_of_decode? hdecode]
  have hpieces := cutAt_of_not_mem hvalid.plain.1
  have hcomponent := componentOf?_of_valid hvalid
  rcases Path.bytes_child_cases dir name with hbytes | ⟨front, hbytes⟩
  · refine Path.fileName?_of_pieces [] ?_ hcomponent
    rw [Path.pieces, Path.ofText, Path.display, hbytes, hencode, hpieces, List.nil_append]
  · refine Path.fileName?_of_pieces (cutAt Path.slash (Utf8.encode (Utf8.decode front)))
      ?_ hcomponent
    have hslash : Path.slash < 0x80 := by decide
    have hshown : Utf8.encode (Utf8.decode (front ++ Path.slash :: name)) =
        Utf8.encode (Utf8.decode front) ++ Path.slash :: name := by
      rw [Utf8.decode_append_ascii hslash]
      unfold Utf8.encode at hencode ⊢
      rw [List.flatMap_append, List.flatMap_cons, hencode]
      rfl
    rw [Path.pieces, Path.ofText, Path.display, hbytes, hshown, cutAt_append, hpieces]

/-!
## Saving models
-/

theorem save_of_refused {m : Model} {out : Path} {s made : Store} {cause : Cause}
    (hmake : s.makeDirectories out = (.error cause, made)) :
    m.save out s = (.error (.io out cause), made) := by
  rw [Model.save, hmake]

theorem save_cases {m : Model} {out : Path} {s made : Store}
    (hmake : s.makeDirectories out = (.ok (), made)) :
    ((made.write (outputPath out (Path.ofText m.source)) (Utf8.encode m.render)).isOk = false ∧
        ∃ failure, m.save out s = (.error failure, made)) ∨
      ∃ t, made.write (outputPath out (Path.ofText m.source)) (Utf8.encode m.render) = .ok t ∧
        m.save out s = (.ok (outputPath out (Path.ofText m.source)), t) := by
  rw [Model.save, hmake]
  dsimp only
  cases made.write (outputPath out (Path.ofText m.source)) (Utf8.encode m.render) with
  | error cause => exact Or.inl ⟨rfl, _, rfl⟩
  | ok t => exact Or.inr ⟨t, rfl, rfl⟩

theorem wrote_of_save {m : Model} {out path : Path} {s t : Store}
    (hsave : m.save out s = (.ok path, t)) :
    path = outputPath out (Path.ofText m.source) ∧
      ∃ made location, s.makeDirectories out = (.ok (), made) ∧
        made.Wrote path (Utf8.encode m.render) t location := by
  cases hmake : s.makeDirectories out with
  | mk result made =>
      cases result with
      | error cause =>
          rw [save_of_refused hmake] at hsave
          cases hsave
      | ok =>
          rcases save_cases hmake with ⟨-, failure, hfails⟩ | ⟨u, hwrite, hsaves⟩
          · rw [hfails] at hsave
            cases hsave
          · rw [hsaves] at hsave
            cases hsave
            obtain ⟨location, hwrote⟩ := Store.wrote_of_write hwrite
            exact ⟨rfl, made, location, rfl, hwrote⟩

theorem save_of_attempt {outcome : Except Failure Model} {out binary path : Path} {s t : Store}
    (hattempt : attempt outcome out binary s = (.ok path, t)) :
    ∃ m, outcome = .ok m ∧ m.save out s = (.ok path, t) := by
  unfold attempt at hattempt
  split at hattempt
  · cases hattempt
  · split at hattempt
    · cases hattempt
    · rename_i m
      exact ⟨m, rfl, hattempt⟩

end Imprint
