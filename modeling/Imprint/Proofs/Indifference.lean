import Imprint.Proofs.Elf.Draft
import Imprint.Proofs.Processing
import Imprint.Proofs.Shape
import Imprint.Proofs.Store.Variation

/-!
# Binaries that are accepted

An image is inspected and then forgotten: what is in it decides whether a binary
is accepted, and nothing else.  Processing a binary where its file holds one
accepted image or another gives the same result, asks for the same passes, and
leaves files that are the same but for that one.
-/

namespace Imprint

/-!
## Runs that stand abreast
-/

/-- In two runs the files are the same but for one, and the same was asked for since they began
with the calls of their own. -/
structure Abreast (location : Location) (own own' : List Call) (p q : Progress) : Prop where
  store : p.store.SameBut location q.store
  calls : ∃ asked, p.calls = own ++ asked ∧ q.calls = own' ++ asked

section

variable {location : Location} {own own' : List Call}

theorem unreported_abreast : Job.Unreported (Abreast location own own') :=
  fun _ _ _ _ habreast => ⟨habreast.store, habreast.calls⟩

theorem asked_abreast (p q : Progress) (call : Call) (habreast : Abreast location own own' p q) :
    Abreast location own own' { p with calls := p.calls ++ [call] }
      { q with calls := q.calls ++ [call] } := by
  obtain ⟨hsame, asked, hp, hq⟩ := habreast
  refine ⟨hsame, asked ++ [call], ?_, ?_⟩
  · rw [hp, List.append_assoc]
  · rw [hq, List.append_assoc]

theorem agree_save {s t : Store} (hsame : s.SameBut location t) (m : Model) (out : Path) :
    Store.Agree location (m.save out s) (m.save out t) := by
  have hmake := hsame.makeDirectories out
  unfold Model.save
  generalize s.makeDirectories out = first at hmake ⊢
  generalize t.makeDirectories out = second at hmake ⊢
  obtain ⟨result, made⟩ := first
  obtain ⟨result', made'⟩ := second
  obtain ⟨rfl, hmade⟩ := hmake
  cases result with
  | error cause => exact ⟨rfl, hmade⟩
  | ok =>
      have hwrite := hmade.write (outputPath out (Path.ofText m.source)) (Utf8.encode m.render)
      dsimp only at hwrite ⊢
      generalize made.write _ _ = first at hwrite ⊢
      generalize made'.write _ _ = second at hwrite ⊢
      cases hwrite with
      | refused cause => exact ⟨rfl, hmade⟩
      | done hdone => exact ⟨rfl, hdone⟩

theorem respects_writeTo (m : Model) (out : Path) :
    (m.writeTo out).Respects (Abreast location own own') := by
  have hsave : (Job.change (m.save out)).Respects (Abreast location own own') := by
    rintro p q ⟨hsame, hcalls⟩
    obtain ⟨hresult, hstore⟩ := agree_save hsame m out
    exact ⟨hresult, hstore, hcalls⟩
  refine Job.respects_bind hsave fun path => ?_
  exact Job.respects_bind (Job.respects_report unreported_abreast _) fun _ =>
    Job.respects_pure path

end

/-!
## Images that are exchanged
-/

/-- With a steady disassembler, what is in an image decides no more than whether the binary is
accepted.  Where the same file holds two images that both are, the results and the calls are the
same, and the files are the same after it but for that one.  A model that is written is the one
that the disassembler's answers give for the path of the binary, whatever files there are. -/
theorem process_indifferent {d : Disassembler} (hsteady : d.Steady) (out : Path) {binary : Path}
    {p q : Progress} {location : Location} (hsame : p.store.SameBut location q.store)
    {image image' : Elf.Image} (hinspect : inspect p.store binary = .ok image)
    (hinspect' : inspect q.store binary = .ok image') :
    (process d out binary p).1 = (process d out binary q).1 ∧
      (∃ asked, (process d out binary p).2.calls = p.calls ++ asked ∧
        (process d out binary q).2.calls = q.calls ++ asked) ∧
      (process d out binary p).2.store.SameBut location (process d out binary q).2.store ∧
      ∀ path, (process d out binary p).1 = .ok path →
        ∃ m, (∀ r, (generate d binary r).1 = .ok m) ∧
          (process d out binary p).2.store.read path = .ok (Utf8.encode m.render) ∧
          (process d out binary q).2.store.read path = .ok (Utf8.encode m.render) := by
  have hrest : (generate d binary >>= fun m => m.writeTo out).Respects
      (Abreast location p.calls q.calls) :=
    Job.respects_bind (respects_generate unreported_abreast fun pass =>
      Job.respects_ask hsteady unreported_abreast asked_abreast pass binary) fun m =>
        respects_writeTo m out
  have hbegin : Abreast location p.calls q.calls p q := ⟨hsame, [], by simp, by simp⟩
  have hruns : (process d out binary p).1 = (process d out binary q).1 ∧
      Abreast location p.calls q.calls (process d out binary p).2
        (process d out binary q).2 := by
    rw [process_of_inspect hinspect, process_of_inspect hinspect']
    exact hrest _ _ (unreported_abreast p q _ _ hbegin)
  obtain ⟨hresult, hstore, hcalls⟩ := hruns
  refine ⟨hresult, hcalls, hstore, fun path hok => ?_⟩
  have hconstant := constant_generate hsteady binary
  obtain ⟨-, m, hgenerate, hsave⟩ := save_of_process hok
  obtain ⟨-, m', hgenerate', hsave'⟩ := save_of_process (hresult.symm.trans hok)
  have hmodel : ∀ r, (generate d binary r).1 = .ok m := fun r =>
    (hconstant.congr r p).trans hgenerate
  cases (hmodel q).symm.trans hgenerate'
  obtain ⟨-, o, hsaved, -⟩ := saved_of_save hsave
  obtain ⟨-, o', hsaved', -⟩ := saved_of_save hsave'
  exact ⟨m, hmodel, hsaved.read, hsaved'.read⟩

def storeOf (image : Bytes) : Store :=
  Store.empty.put [Utf8.encode "a".toList] (.file image false)

/-- Two images that have nothing in common but the machine are exchanged, and the same model is
written. -/
theorem process_indifferent_far :
    ∃ near far : Elf.Image, ∃ m : Model,
      inspect (storeOf (Elf.Draft.loneData 243 (by decide)).bytes) (.ofText "a".toList) =
          .ok near ∧
        inspect (storeOf Elf.Draft.farData.bytes) (.ofText "a".toList) = .ok far ∧
        near.entry ≠ far.entry ∧ near.is64 ≠ far.is64 ∧ near.sections ≠ far.sections ∧
        near.hasData ≠ far.hasData ∧
        (process mimic (.ofText "b".toList) (.ofText "a".toList)
          { store := storeOf (Elf.Draft.loneData 243 (by decide)).bytes }).2.store.read
            (.ofText "b/a.ucl".toList) = .ok (Utf8.encode m.render) ∧
        (process mimic (.ofText "b".toList) (.ofText "a".toList)
          { store := storeOf Elf.Draft.farData.bytes }).2.store.read
            (.ofText "b/a.ucl".toList) = .ok (Utf8.encode m.render) := by
  have hsteady : mimic.Steady := Disassembler.steady_ofReplies _
  have hsame : (storeOf (Elf.Draft.loneData 243 (by decide)).bytes).SameBut
      [Utf8.encode "a".toList] (storeOf Elf.Draft.farData.bytes) :=
    ⟨rfl, rfl, .file _ _ _ .nil⟩
  have hnear : inspect (storeOf (Elf.Draft.loneData 243 (by decide)).bytes)
      (.ofText "a".toList) = .ok ⟨243, 0x80000000, false,
        [⟨".shstrtab".toList, 0, 17⟩, ⟨".data".toList, 0x80002000, 16⟩]⟩ := by
    decide +kernel
  have hfar : inspect (storeOf Elf.Draft.farData.bytes) (.ofText "a".toList) =
      .ok ⟨243, 0xFFFFFFFFFFFFFFFF, true, [⟨".shstrtab".toList, 0, 26⟩,
        ⟨".données".toList, 0xFFFFFFFFFFFFFFFF, 0xFFFFFFFFFFFFFFFF⟩]⟩ := by
    decide +kernel
  obtain ⟨-, -, -, hwritten⟩ := process_indifferent hsteady (.ofText "b".toList)
    (p := { store := storeOf (Elf.Draft.loneData 243 (by decide)).bytes })
    (q := { store := storeOf Elf.Draft.farData.bytes }) hsame hnear hfar
  obtain ⟨m, -, hread, hread'⟩ := hwritten (.ofText "b/a.ucl".toList) (by decide +kernel)
  exact ⟨_, _, m, hnear, hfar, by decide, by decide, by decide, by decide +kernel, hread, hread'⟩

end Imprint
