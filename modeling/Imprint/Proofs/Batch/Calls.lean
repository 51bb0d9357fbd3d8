import Imprint.Proofs.Batch.Course
import Imprint.Proofs.Shape

/-!
# The calls of a batch

Binaries have their turns in a batch, one after the other.  A turn asks for
nothing where the binary is refused, for the code where it is accepted, and
right after that for the data where the listing of the code announces data.  The
calls of a run are those of its turns, in order.
-/

namespace Imprint

instance (listing : Text) : Decidable (Listing.AnnouncesData listing) :=
  decidable_of_iff _ Listing.hasData_read

/-!
## The calls for one binary
-/

def modelCalls (d : Disassembler) (binary : Path) (p : Progress) : List Call :=
  match (codeReply d binary p).1 with
  | .error _ => [⟨.code, binary⟩]
  | .ok listing =>
      if Listing.AnnouncesData listing then [⟨.code, binary⟩, ⟨.data, binary⟩]
      else [⟨.code, binary⟩]

/-- A binary whose turn came, and what stood right then. -/
structure Turn where
  binary : Path
  before : Progress

namespace Turn

def asked (d : Disassembler) (t : Turn) : List Call :=
  match inspect t.before.store t.binary with
  | .error _ => []
  | .ok _ => modelCalls d t.binary t.before

def result (d : Disassembler) (out : Path) (t : Turn) : Except Failure Path :=
  (process d out t.binary t.before).1

end Turn

theorem calls_generate (d : Disassembler) (binary : Path) (p : Progress) :
    (generate d binary p).2.calls = p.calls ++ modelCalls d binary p := by
  unfold generate modelCalls codeReply
  rcases hcode : d.answer p.calls p.store ⟨.code, binary⟩ with ⟨code, left⟩
  cases code with
  | error failure =>
      simp [hcode]
  | ok listing =>
      by_cases hdata : Listing.AnnouncesData listing
      · rcases hreply : d.answer (p.calls ++ [⟨.code, binary⟩]) left ⟨.data, binary⟩ with
          ⟨data, last⟩
        cases data <;>
          simp [hcode, Listing.hasData_read.mpr hdata, hdata, dataStatements, hreply]
      · simp [hcode, mt Listing.hasData_read.mp hdata, hdata]

theorem calls_writeTo (m : Model) (out : Path) (p : Progress) :
    (m.writeTo out p).2.calls = p.calls := by
  have hpassage : Job.Passage fun p q => q.calls = p.calls :=
    { report := fun _ _ => rfl
      trans := fun hpq hqr => hqr.trans hpq }
  have hsave : (Job.change (m.save out)).Follows fun p q => q.calls = p.calls :=
    fun _ => rfl
  have hfollows : (m.writeTo out).Follows fun p q => q.calls = p.calls := by
    refine Job.follows_bind hpassage hsave fun path => ?_
    exact Job.follows_bind hpassage (Job.follows_report hpassage _) fun _ =>
      Job.follows_pure hpassage _
  exact hfollows p

theorem calls_process (d : Disassembler) (out binary : Path) (p : Progress) :
    (process d out binary p).2.calls = p.calls ++ Turn.asked d ⟨binary, p⟩ := by
  simp only [process, Turn.asked, Job.report_bind, Job.look_bind]
  cases inspect p.store binary with
  | error failure =>
      exact (List.append_nil _).symm
  | ok image =>
      simp only [Job.bind_apply]
      have hcalls := calls_generate d binary
        { p with events := p.events ++ [.parsing binary] ++ [.inspected image] }
      generalize generate d binary _ = made at hcalls ⊢
      obtain ⟨result, q⟩ := made
      cases result with
      | error failure => exact hcalls
      | ok m => exact (calls_writeTo m out q).trans hcalls

/-- A call for data is the second and last call of a turn: its binary was accepted, and the
listing that was asked for right before announced data. -/
theorem Turn.asked_data {d : Disassembler} {t : Turn} {front back : List Call} {binary : Path}
    (hasked : t.asked d = front ++ ⟨.data, binary⟩ :: back) :
    front = [⟨.code, binary⟩] ∧ back = [] ∧ t.binary = binary ∧
      ∃ listing, (codeReply d t.binary t.before).1 = .ok listing ∧
        Listing.AnnouncesData listing := by
  have hlone : [(⟨.code, t.binary⟩ : Call)] ≠ front ++ ⟨.data, binary⟩ :: back := by
    intro heq
    have hmem : (⟨.data, binary⟩ : Call) ∈ [(⟨.code, t.binary⟩ : Call)] := by
      rw [heq]
      exact List.mem_append_right front List.mem_cons_self
    cases List.mem_singleton.mp hmem
  unfold asked modelCalls at hasked
  split at hasked
  · exact absurd hasked.symm (List.append_ne_nil_of_right_ne_nil _ (List.cons_ne_nil _ _))
  · split at hasked
    · exact absurd hasked hlone
    · rename_i listing hcode
      split at hasked
      · rename_i hdata
        cases front with
        | nil =>
            cases hasked
        | cons first others =>
            obtain ⟨rfl, hrest⟩ := List.cons.inj hasked
            cases others with
            | nil =>
                cases hrest
                exact ⟨rfl, rfl, rfl, listing, hcode, hdata⟩
            | cons second more =>
                obtain ⟨-, hnil⟩ := List.cons.inj hrest
                exact absurd hnil.symm
                  (List.append_ne_nil_of_right_ne_nil _ (List.cons_ne_nil _ _))
      · exact absurd hasked hlone

theorem Turn.accepted_of_asked {d : Disassembler} {t : Turn} {call : Call}
    (hcall : call ∈ t.asked d) :
    call.binary = t.binary ∧ ∃ image, inspect t.before.store t.binary = .ok image := by
  unfold asked at hcall
  split at hcall
  · cases hcall
  · rename_i image hinspect
    refine ⟨?_, image, hinspect⟩
    unfold modelCalls at hcall
    split at hcall
    · rw [List.mem_singleton.mp hcall]
    · split at hcall
      · rcases List.mem_cons.mp hcall with rfl | hdata
        · rfl
        · rw [List.mem_singleton.mp hdata]
      · rw [List.mem_singleton.mp hcall]

namespace Batch

/-!
## Turns
-/

/-- Turns that follow one another: each begins with the files and calls that the one before
has left. -/
inductive Turns (d : Disassembler) (out : Path) : Progress → List Turn → Progress → Prop
  | done {p q : Progress} (hsame : q.store = p.store ∧ q.calls = p.calls) : Turns d out p [] q
  | next {p q : Progress} {t : Turn} {others : List Turn}
      (hsame : t.before.store = p.store ∧ t.before.calls = p.calls)
      (hothers : Turns d out (process d out t.binary t.before).2 others q) :
      Turns d out p (t :: others) q

/-- The binaries that have their turns: all of them, or, where the batch ends at a failure, those
up to the first one that fails. -/
def Attended (d : Disassembler) (b : Batch) (binaries : List Path) (turns : List Turn) : Prop :=
  if b.keepGoing then
    turns.map Turn.binary = binaries
  else
    (turns.map Turn.binary = binaries ∧
        ∀ t ∈ turns, (t.result d b.outputDir).isOk = true) ∨
      ∃ front last rest, turns = front ++ [last] ∧
        binaries = front.map Turn.binary ++ last.binary :: rest ∧
        (∀ t ∈ front, (t.result d b.outputDir).isOk = true) ∧
        (last.result d b.outputDir).isOk = false

theorem Turns.congr_start {d : Disassembler} {out : Path} {p p' q : Progress}
    {turns : List Turn} (hturns : Turns d out p turns q)
    (hsame : p.store = p'.store ∧ p.calls = p'.calls) : Turns d out p' turns q := by
  cases hturns with
  | done hq =>
      exact .done ⟨hq.1.trans hsame.1, hq.2.trans hsame.2⟩
  | next hbefore hothers =>
      exact .next ⟨hbefore.1.trans hsame.1, hbefore.2.trans hsame.2⟩ hothers

theorem Turns.calls {d : Disassembler} {out : Path} {p q : Progress} {turns : List Turn}
    (hturns : Turns d out p turns q) : q.calls = p.calls ++ turns.flatMap (Turn.asked d) := by
  induction hturns with
  | done hsame =>
      rw [hsame.2, List.flatMap_nil, List.append_nil]
  | next hsame hothers ih =>
      rw [ih, calls_process, hsame.2, List.flatMap_cons, List.append_assoc]

theorem attended_nil (d : Disassembler) (b : Batch) : Attended d b [] [] := by
  unfold Attended
  split
  · rfl
  · exact Or.inl ⟨rfl, fun t ht => absurd ht List.not_mem_nil⟩

theorem Attended.cons_ok {d : Disassembler} {b : Batch} {binaries : List Path} {t : Turn}
    {turns : List Turn} (hattended : Attended d b binaries turns)
    (hok : (t.result d b.outputDir).isOk = true) :
    Attended d b (t.binary :: binaries) (t :: turns) := by
  unfold Attended at hattended ⊢
  by_cases hkeep : b.keepGoing = true
  · rw [if_pos hkeep] at hattended ⊢
    rw [List.map_cons, hattended]
  · rw [if_neg hkeep] at hattended ⊢
    rcases hattended with ⟨hall, hsucceed⟩ | ⟨front, last, rest, rfl, rfl, hsucceed, hfails⟩
    · left
      refine ⟨by rw [List.map_cons, hall], ?_⟩
      intro other hother
      rcases List.mem_cons.mp hother with rfl | hother
      · exact hok
      · exact hsucceed other hother
    · right
      refine ⟨t :: front, last, rest, rfl, rfl, ?_, hfails⟩
      intro other hother
      rcases List.mem_cons.mp hother with rfl | hother
      · exact hok
      · exact hsucceed other hother

theorem turns_of_processAll (d : Disassembler) (b : Batch) (binaries : List Path)
    (summary : Summary) (p : Progress) :
    ∃ turns, Turns d b.outputDir p turns (processAll d b binaries summary p).2 ∧
      Attended d b binaries turns := by
  induction binaries generalizing summary p with
  | nil =>
      exact ⟨[], .done ⟨rfl, rfl⟩, attended_nil d b⟩
  | cons binary rest ih =>
      cases hone : process d b.outputDir binary p with
      | mk result q =>
          cases result with
          | ok path =>
              rw [processAll_of_ok hone]
              obtain ⟨turns, hturns, hattended⟩ :=
                ih { summary with written := summary.written ++ [path] } q
              refine ⟨⟨binary, p⟩ :: turns, .next ⟨rfl, rfl⟩ ?_, hattended.cons_ok ?_⟩
              · rw [hone]
                exact hturns
              · rw [Turn.result, hone]
                rfl
          | error failure =>
              rw [processAll_of_error hone]
              by_cases hkeep : b.keepGoing = true
              · rw [if_pos hkeep]
                obtain ⟨turns, hturns, hattended⟩ :=
                  ih { summary with failed := summary.failed ++ [binary] }
                    { q with events := q.events ++ [.failed binary failure] }
                refine ⟨⟨binary, p⟩ :: turns, .next ⟨rfl, rfl⟩ ?_, ?_⟩
                · rw [hone]
                  exact hturns.congr_start ⟨rfl, rfl⟩
                · unfold Attended at hattended ⊢
                  rw [if_pos hkeep] at hattended ⊢
                  rw [List.map_cons, hattended]
              · rw [if_neg hkeep]
                refine ⟨[⟨binary, p⟩], .next ⟨rfl, rfl⟩ (.done ?_), ?_⟩
                · rw [hone]
                  exact ⟨rfl, rfl⟩
                · unfold Attended
                  rw [if_neg hkeep]
                  right
                  refine ⟨[], ⟨binary, p⟩, rest, rfl, rfl, ?_, ?_⟩
                  · intro t ht
                    cases ht
                  · rw [Turn.result, hone]
                    rfl

/-- In the calls of turns, a call for data is the last one of some turn, right behind the call
for the code of the same binary, and the listing of that code announced data. -/
theorem data_follows_code {d : Disassembler} {turns : List Turn} {front back : List Call}
    {binary : Path}
    (hcalls : turns.flatMap (Turn.asked d) = front ++ ⟨.data, binary⟩ :: back) :
    ∃ earlier t later, turns = earlier ++ t :: later ∧ t.binary = binary ∧
      front = earlier.flatMap (Turn.asked d) ++ [⟨.code, binary⟩] ∧
      back = later.flatMap (Turn.asked d) ∧
      ∃ listing, (codeReply d t.binary t.before).1 = .ok listing ∧
        Listing.AnnouncesData listing := by
  induction turns generalizing front with
  | nil =>
      exact absurd hcalls.symm (List.append_ne_nil_of_right_ne_nil _ (List.cons_ne_nil _ _))
  | cons t others ih =>
      rw [List.flatMap_cons] at hcalls
      rcases List.append_eq_append_iff.mp hcalls with
        ⟨further, rfl, hothers⟩ | ⟨inner, hasked, hback⟩
      · obtain ⟨earlier, turn, later, rfl, hbinary, rfl, hlater, hlisting⟩ := ih hothers
        refine ⟨t :: earlier, turn, later, rfl, hbinary, ?_, hlater, hlisting⟩
        rw [List.flatMap_cons, List.append_assoc]
      · cases inner with
        | nil =>
            have hbehind : others.flatMap (Turn.asked d) = [] ++ ⟨.data, binary⟩ :: back :=
              hback.symm
            obtain ⟨earlier, turn, later, -, -, hnil, -⟩ := ih hbehind
            exact absurd hnil.symm
              (List.append_ne_nil_of_right_ne_nil _ (List.cons_ne_nil _ _))
        | cons call more =>
            obtain ⟨rfl, hmore⟩ := List.cons.inj hback
            obtain ⟨hfront, rfl, hbinary, hlisting⟩ := Turn.asked_data hasked
            exact ⟨[], t, others, rfl, hbinary, hfront, hmore, hlisting⟩

/-- The calls of a run.  Where no binaries are found there are none.  Else the binaries have
their turns, all of them or those up to the first failure, and the calls are those of the
turns in order.  So whatever is asked for is about a binary that was accepted when its turn
came, and data is asked for right after the code of the same binary, where its listing
announced data. -/
theorem run_calls (d : Disassembler) (b : Batch) (p : Progress) :
    (∀ failure, b.binaries p.store = .error failure → (run d b p).2.calls = p.calls) ∧
      ∀ binaries, b.binaries p.store = .ok binaries →
        ∃ turns, Turns d b.outputDir p turns (run d b p).2 ∧ Attended d b binaries turns ∧
          (run d b p).2.calls = p.calls ++ turns.flatMap (Turn.asked d) ∧
          (∀ call ∈ turns.flatMap (Turn.asked d), ∃ t ∈ turns, t.binary = call.binary ∧
            ∃ image, inspect t.before.store t.binary = .ok image) ∧
          ∀ front back binary,
            turns.flatMap (Turn.asked d) = front ++ ⟨.data, binary⟩ :: back →
              ∃ earlier t later, turns = earlier ++ t :: later ∧ t.binary = binary ∧
                front = earlier.flatMap (Turn.asked d) ++ [⟨.code, binary⟩] ∧
                back = later.flatMap (Turn.asked d) ∧
                ∃ listing, (codeReply d t.binary t.before).1 = .ok listing ∧
                  Listing.AnnouncesData listing := by
  constructor
  · intro failure hbinaries
    rw [run_apply, hbinaries]
  · intro binaries hbinaries
    obtain ⟨start, hstore, hcalls, hrun⟩ := run_of_binaries hbinaries
    obtain ⟨turns, hturns, hattended⟩ := turns_of_processAll d b binaries {} start
    have hfrom := hturns.congr_start ⟨hstore, hcalls⟩
    rw [hrun]
    refine ⟨turns, hfrom, hattended, hfrom.calls, ?_, ?_⟩
    · intro call hcall
      obtain ⟨t, ht, hasked⟩ := List.mem_flatMap.mp hcall
      obtain ⟨hbinary, haccepted⟩ := Turn.accepted_of_asked hasked
      exact ⟨t, ht, hbinary.symm, haccepted⟩
    · intro front back binary hsplit
      exact data_follows_code hsplit

/-- A batch of a missing binary and an image, with the failure policy still open. -/
def haltingBatch : Batch where
  outputDir := .ofText "out".toList
  files := [.ofText "b".toList, .ofText "a".toList]

/-- The missing binary is not asked about; where the batch goes on, the code of the image is
asked for and then its data. -/
theorem run_calls_halting :
    (∃ turns, Attended mimic { haltingBatch with keepGoing := true } haltingBatch.files turns ∧
        (run mimic { haltingBatch with keepGoing := true } { store := loneStore }).2.calls =
          turns.flatMap (Turn.asked mimic) ∧
        turns.flatMap (Turn.asked mimic) =
          [⟨.code, .ofText "a".toList⟩, ⟨.data, .ofText "a".toList⟩]) ∧
      ∃ turns, Attended mimic { haltingBatch with keepGoing := false } haltingBatch.files turns ∧
        turns.flatMap (Turn.asked mimic) = [] := by
  have hcalls : ∀ keep, (run mimic { haltingBatch with keepGoing := keep }
      { store := loneStore }).2.calls =
        if keep then [⟨.code, .ofText "a".toList⟩, ⟨.data, .ofText "a".toList⟩] else [] := by
    decide +kernel
  have hbinaries : ∀ keep, binaries { haltingBatch with keepGoing := keep } loneStore =
      .ok haltingBatch.files := fun _ => rfl
  constructor
  · obtain ⟨turns, -, hattended, hasked, -⟩ :=
      (run_calls mimic { haltingBatch with keepGoing := true } { store := loneStore }).2 _
        (hbinaries true)
    rw [List.nil_append] at hasked
    exact ⟨turns, hattended, hasked, hasked.symm.trans (hcalls true)⟩
  · obtain ⟨turns, -, hattended, hasked, -⟩ :=
      (run_calls mimic { haltingBatch with keepGoing := false } { store := loneStore }).2 _
        (hbinaries false)
    rw [List.nil_append] at hasked
    exact ⟨turns, hattended, hasked.symm.trans (hcalls false)⟩

end Batch

end Imprint
