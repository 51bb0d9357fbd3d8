import Imprint.Text.Basic

/-!
# Lines

Text is cut into lines at newlines.  A carriage return right before a newline
belongs to the line end, a lone one belongs to its line, and nothing follows a
final newline.
-/

namespace Imprint

namespace Text

/-- The line whose characters are given last first and that a newline ends. -/
def endedLine : Text → Text
  | '\r' :: reversed => reversed.reverse
  | reversed => reversed.reverse

/-- The lines of a text whose first line begins with `reversed`, last character first. -/
def linesFrom (reversed : Text) : Text → List Text
  | [] => if reversed = [] then [] else [reversed.reverse]
  | c :: rest =>
      if c = '\n' then
        endedLine reversed :: linesFrom [] rest
      else
        linesFrom (c :: reversed) rest

def lines (t : Text) : List Text :=
  linesFrom [] t

def trimmedLines (t : Text) : List Text :=
  t.lines.map trim

def joinLines : List Text → Text
  | [] => []
  | [line] => line
  | line :: next :: rest => line ++ '\n' :: joinLines (next :: rest)

end Text

end Imprint
