import Imprint.Script.Interpreter
import Imprint.Utility.Blocks
import Imprint.Utility.Columns
import Imprint.Utility.Count
import Imprint.Utility.Directory
import Imprint.Utility.Edit
import Imprint.Utility.Files
import Imprint.Utility.Find
import Imprint.Utility.Formula
import Imprint.Utility.Launch
import Imprint.Utility.Layout
import Imprint.Utility.Names
import Imprint.Utility.Octets
import Imprint.Utility.Order
import Imprint.Utility.Output
import Imprint.Utility.Rules
import Imprint.Utility.Search
import Imprint.Utility.Times
import Imprint.Utility.Translation

/-!
# The table of utilities

Which utilities there are, by their names.
-/

namespace Imprint

namespace Utility

def ofName? (name : String) : Option Utility :=
  match name with
  | "[" | "test" => some test
  | "awk" | "mawk" => some awk
  | "basename" => some basename
  | "cat" => some cat
  | "cksum" => some cksum
  | "cp" => some cp
  | "dash" | "sh" | "bash" => some Script.interpret
  | "cut" => some cut
  | "dd" => some dd
  | "dirname" => some dirname
  | "echo" => some echo
  | "egrep" | "fgrep" | "grep" => some grep
  | "env" => some env
  | "expr" => some expr
  | "false" => some fun _ _ => return 1
  | "find" => some find
  | "fold" => some fold
  | "head" => some head
  | "ln" => some ln
  | "ls" => some ls
  | "mkdir" => some mkdir
  | "mv" => some mv
  | "od" => some od
  | "paste" => some paste
  | "printf" => some printf
  | "pwd" => some pwd
  | "rm" => some rm
  | "rmdir" => some rmdir
  | "sed" => some sed
  | "seq" => some seq
  | "sleep" => some sleep
  | "sort" => some sort
  | "tail" => some tail
  | "tee" => some tee
  | "touch" => some touch
  | "tr" => some tr
  | "true" => some fun _ _ => return 0
  | "uniq" => some uniq
  | "wc" => some wc
  | _ => none

end Utility

end Imprint
