import Imprint.Text.Basic

/-!
# Records

A text is a sequence of records, each of which ends with a separator; the last one
may lack it.  Where no separator is told, it is cut into pieces of a size.
-/

namespace Imprint

namespace Text

def recordsFrom (separator : Char) (reversed : Text) : Text → List Text
  | [] => if reversed = [] then [] else [reversed.reverse]
  | c :: rest =>
      if c = separator then
        (c :: reversed).reverse :: recordsFrom separator [] rest
      else
        recordsFrom separator (c :: reversed) rest

def records (separator : Char) (t : Text) : List Text :=
  recordsFrom separator [] t

def withoutEnd (separator : Char) (record : Text) : Text :=
  if record.getLast? = some separator then record.dropLast else record

def bareRecords (separator : Char) (t : Text) : List Text :=
  (records separator t).map (withoutEnd separator)

end Text

def piecesFrom (size : Nat) : (count : Nat) → List α → List (List α)
  | 0, _ => []
  | _, [] => []
  | count + 1, items => items.take size :: piecesFrom size count (items.drop size)

def inPieces (size : Nat) (items : List α) : List (List α) :=
  piecesFrom size items.length items

end Imprint
