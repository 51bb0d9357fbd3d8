import Imprint.Numeral
import Imprint.Text.Lines

/-!
# Verification models

A model pins a program into the memory of a processor, steps the processor,
and checks that the test ends by an environment call with result zero.  It is
a fixed frame around the statements on the initial memory and the bound.
-/

namespace Imprint

def generatorName : Text :=
  "riscv2ucl 0.1.0".toList

/-- A model made from one binary: where it comes from, what made it, how many
steps are checked, and the statements on the initial memory, in order. -/
structure Model where
  source : Text
  generator : Text := generatorName
  bound : Nat
  init : List Text
deriving DecidableEq

namespace Model

def headline (m : Model) : Text :=
  "// AUTOGENERATED FROM ".toList ++ m.source ++ " BY ".toList ++ m.generator

def opening : List Text :=
  ["module main \x7b".toList,
    "    type * = common.*;".toList,
    "    define * = common.*;".toList,
    "    type * = instructions.*;".toList,
    "    const * = cpu.*;".toList,
    [],
    "    var imem : mem_t;".toList,
    [],
    "    instance cpu_0 : cpu (imem : (imem));".toList,
    [],
    "    init \x7b".toList]

def indented (statement : Text) : Text :=
  "        ".toList ++ statement

def boundLine (bound : Nat) : Text :=
  "        vobj = bmc(".toList ++ Radix.decimal.numeral bound ++ ");".toList

def closing (bound : Nat) : List Text :=
  ["    \x7d".toList,
    [],
    "    next \x7b".toList,
    "        next (cpu_0);".toList,
    "        if (cpu_0.exception.cause != X_NONE) \x7b".toList,
    "            // All tests are ended with an ECALL invocation".toList,
    "            assert (cpu_0.exception.cause == X_ECALL);".toList,
    "            assert (cpu_0.regfile[registers.a0] == 0bv32);".toList,
    "        \x7d".toList,
    "    \x7d".toList,
    [],
    "    property[LTL] eventually_exits: G(F(cpu_0.exception.cause == X_ECALL));".toList,
    [],
    "    control \x7b".toList,
    boundLine bound,
    "        check;".toList,
    "        print_results;".toList,
    "        vobj.print_cex(cpu_0.pc, cpu_0.exception, cpu_0.regfile);".toList,
    "    \x7d".toList,
    "\x7d".toList]

/-- The frame and the statements, line by line as they are written. -/
def lines (m : Model) : List Text :=
  m.headline :: opening ++ m.init.map indented ++ closing m.bound

def render (m : Model) : Text :=
  Text.joinLines m.lines

end Model

end Imprint
