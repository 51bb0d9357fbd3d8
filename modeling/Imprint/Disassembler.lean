import Imprint.Event
import Imprint.Store.Files

/-!
# Disassemblers

A disassembler is asked for the two passes over a binary.  Its answers may
depend on the files that are there and on what it was asked before, and it may
change the files when it is asked.
-/

namespace Imprint

/-- The two passes over a binary: its listed code, and its dumped data. -/
inductive Pass where
  | code
  | data
deriving DecidableEq

/-- A question to a disassembler. -/
structure Call where
  pass : Pass
  binary : Path
deriving DecidableEq

/-- A source of listings and dumps: its answer to a call, given the calls before it
and the files, the files after it, and what it reports when it is called. -/
structure Disassembler where
  answer : List Call → Store → Call → Except Failure Text × Store
  announce : Call → List Event := fun _ => []

namespace Disassembler

def ReadOnly (d : Disassembler) : Prop :=
  ∀ earlier store call, (d.answer earlier store call).2 = store

/-- A disassembler whose answers depend on the call alone, and that leaves the files as
they are. -/
def Steady (d : Disassembler) : Prop :=
  ∃ reply : Call → Except Failure Text, ∀ earlier store call,
    d.answer earlier store call = (reply call, store)

theorem Steady.readOnly {d : Disassembler} (h : d.Steady) : d.ReadOnly := by
  obtain ⟨reply, h⟩ := h
  intro earlier store call
  rw [h]

/-- The disassembler that gives fixed answers and reports nothing. -/
def ofReplies (reply : Call → Except Failure Text) : Disassembler where
  answer _ store call := (reply call, store)

theorem steady_ofReplies (reply : Call → Except Failure Text) :
    (ofReplies reply).Steady :=
  ⟨reply, fun _ _ _ => rfl⟩

end Disassembler

end Imprint
