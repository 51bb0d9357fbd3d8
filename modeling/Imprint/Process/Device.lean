import Imprint.Text.Basic

/-!
# Devices

A device has a path but is no file of a store.  What is written to one is gone; one
reads as empty, and one as zeros.
-/

namespace Imprint

inductive Device where
  | empty
  | zeros
deriving DecidableEq

namespace Device

def ofPath? (path : Text) : Option Device :=
  if path = "/dev/null".toList then some empty
  else if path = "/dev/zero".toList then some zeros
  else none

def supply : Nat := 1000000

def contents : Device → Text
  | empty => []
  | zeros => List.replicate supply '\x00'

def isCharacterDevice (path : Text) : Bool :=
  ["null", "zero", "full", "random", "urandom", "tty"].any fun name =>
    path == "/dev/".toList ++ name.toList

end Device

end Imprint
