import Imprint.Numeral
import Imprint.Text.Unprinted

/-!
# Quoted text

Text shown between double quotes, with a backslash before what would end or
garble it.
-/

namespace Imprint

namespace Text

/-- A character inside quotes: quotes and backslashes are escaped, the usual
controls have letters, and what does not show is given by its code point. -/
def quotedChar (c : Char) : Text :=
  if c = '\x00' then "\\0".toList
  else if c = '\t' then "\\t".toList
  else if c = '\r' then "\\r".toList
  else if c = '\n' then "\\n".toList
  else if c = '"' then "\\\"".toList
  else if c = '\\' then "\\\\".toList
  else if isUnprinted c then
    "\\u\x7b".toList ++ Radix.lowerHex.numeral c.toNat ++ "\x7d".toList
  else [c]

def quoted (t : Text) : Text :=
  '"' :: t.flatMap quotedChar ++ ['"']

end Text

end Imprint
