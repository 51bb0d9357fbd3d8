import Imprint.Cause
import Imprint.Elf.Image

/-!
# Failures

Why a binary has no model, or a batch is not complete, and how that is worded.
-/

namespace Imprint

/-- How a program ended: by itself with a status, or by a signal. -/
inductive ExitStatus where
  | exited (code : UInt8)
  | signaled (signal : Nat) (coreDumped : Bool)
deriving DecidableEq

namespace ExitStatus

/-- The name of a signal in brackets, after a space; signals without a name have none. -/
def signalName (signal : Nat) : Text :=
  match signalNames.lookup signal with
  | some name => " (".toList ++ name.toList ++ ")".toList
  | none => []
where
  signalNames : List (Nat × String) :=
    [(1, "SIGHUP"), (2, "SIGINT"), (3, "SIGQUIT"), (4, "SIGILL"), (5, "SIGTRAP"),
      (6, "SIGABRT"), (7, "SIGBUS"), (8, "SIGFPE"), (9, "SIGKILL"), (10, "SIGUSR1"),
      (11, "SIGSEGV"), (12, "SIGUSR2"), (13, "SIGPIPE"), (14, "SIGALRM"),
      (15, "SIGTERM"), (16, "SIGSTKFLT"), (17, "SIGCHLD"), (18, "SIGCONT"),
      (19, "SIGSTOP"), (20, "SIGTSTP"), (21, "SIGTTIN"), (22, "SIGTTOU"),
      (23, "SIGURG"), (24, "SIGXCPU"), (25, "SIGXFSZ"), (26, "SIGVTALRM"),
      (27, "SIGPROF"), (28, "SIGWINCH"), (29, "SIGIO"), (30, "SIGPWR"), (31, "SIGSYS")]

def describe : ExitStatus → Text
  | exited code => "exit status: ".toList ++ Radix.decimal.numeral code.toNat
  | signaled signal coreDumped =>
      "signal: ".toList ++ Radix.decimal.numeral signal ++ signalName signal ++
        if coreDumped then " (core dumped)".toList else []

def succeeded : ExitStatus → Bool
  | exited code => code == 0
  | signaled .. => false

end ExitStatus

/-- The outcome of a batch: the models written and the binaries that failed, both in
the order in which they were processed. -/
structure Summary where
  written : List Path := []
  failed : List Path := []
deriving DecidableEq

namespace Summary

def total (s : Summary) : Nat :=
  s.written.length + s.failed.length

end Summary

/-- Why there is no model, or not every model. -/
inductive Failure where
  | toolNotFound (program : Text) (cause : Cause)
  | toolFailed (program : Text) (path : Path) (status : ExitStatus) (stderr : Text)
  | io (path : Path) (cause : Cause)
  | invalidImage (path : Path) (fault : Elf.Fault)
  | otherMachine (path : Path) (machine : Nat)
  | batch (summary : Summary)
deriving DecidableEq

namespace Failure

def message : Failure → Text
  | toolNotFound program _ => "disassembler `".toList ++ program ++ "` not found".toList
  | toolFailed program path status stderr =>
      "`".toList ++ program ++ "` failed on ".toList ++ path.display ++ " (".toList ++
        status.describe ++ "): ".toList ++ stderr
  | io path _ => "I/O error on ".toList ++ path.display
  | invalidImage path _ => "invalid ELF file ".toList ++ path.display
  | otherMachine path machine =>
      path.display ++ " is not a RISC-V binary (e_machine=0x".toList ++
        Radix.lowerHex.numeral machine ++ ")".toList
  | batch summary =>
      Radix.decimal.numeral summary.failed.length ++ " of ".toList ++
        Radix.decimal.numeral summary.total ++ " binaries failed".toList

/-- The wording of what caused a failure, where something else did. -/
def cause? : Failure → Option Text
  | toolNotFound _ cause => some cause.message
  | io _ cause => some cause.message
  | invalidImage _ fault => fault.describe?
  | toolFailed .. => none
  | otherMachine .. => none
  | batch _ => none

def chain (f : Failure) : List Text :=
  f.message :: f.cause?.toList

end Failure

end Imprint
