import Imprint.Store.Files

/-!
# Trees of entries

A directory is moved, or taken away, with everything in it.  Files keep their other
names.
-/

namespace Imprint

namespace Store

def isWithin (outer location : Location) : Bool :=
  outer.length ≤ location.length && location.drop (location.length - outer.length) == outer

/-- The entries at a location and below it, those of a directory behind it. -/
def treeAt (s : Store) (location : Location) : Entries :=
  let own := match s.at? location with
    | some entry => [(location, entry)]
    | none => []
  let below := s.entries.filter fun e => isWithin location e.1 && e.1 != location
  own ++ below.mergeSort fun a b => decide (a.1.length ≤ b.1.length)

def removeTree (s : Store) (location : Location) : Store :=
  (s.treeAt location).reverse.foldl
    (fun s e => if e.2 = .directory then s.removeDirectory e.1 else s.remove e.1) s

/-- Gives an entry a second place: a file a further name, and other entries a copy. -/
def extend (s : Store) (source target : Location) : Store :=
  match s.at? source with
  | some (.file ..) => s.share source target
  | some entry => s.put target entry
  | none => s

def extendTree (s : Store) (source target : Location) : Store :=
  (s.treeAt source).foldl
    (fun s e => s.extend e.1 (e.1.take (e.1.length - source.length) ++ target)) s

def moveTree (s : Store) (source target : Location) : Store :=
  (s.extendTree source target).removeTree source

end Store

end Imprint
