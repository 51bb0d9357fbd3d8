import Imprint.Text.Utf8

/-!
# Paths

A path is a byte string whose pieces are parted by slashes.  Read by its
components, empty pieces and inner dots do not count; a component is the root,
a leading dot, a step to the parent, or a name.
-/

namespace Imprint

/-- Cuts a list at every `separator`; there is always one piece more than separators. -/
def cutAt [DecidableEq α] (separator : α) : List α → List (List α)
  | [] => [[]]
  | x :: rest =>
      if x = separator then
        [] :: cutAt separator rest
      else
        match cutAt separator rest with
        | [] => [[x]]
        | piece :: others => (x :: piece) :: others

/-- A path as it was written. -/
structure Path where
  bytes : Bytes
deriving DecidableEq

namespace Path

def slash : UInt8 := 0x2F

def dot : UInt8 := 0x2E

/-- One step of a path read by its components. -/
inductive Component where
  | root
  | here
  | parent
  | name (bytes : Bytes)
deriving DecidableEq

def ofText (t : Text) : Path :=
  ⟨Utf8.encode t⟩

/-- The path as text, each ill-formed piece shown by a replacement character. -/
def display (p : Path) : Text :=
  Utf8.decode p.bytes

def isAbsolute (p : Path) : Bool :=
  p.bytes.head? == some slash

def pieces (p : Path) : List Bytes :=
  cutAt slash p.bytes

def componentOf? (piece : Bytes) : Option Component :=
  if piece = [] ∨ piece = [dot] then none
  else if piece = [dot, dot] then some .parent
  else some (.name piece)

def origin (p : Path) : List Component :=
  if p.isAbsolute then [.root]
  else if p.pieces.head? = some [dot] then [.here]
  else []

def components (p : Path) : List Component :=
  p.origin ++ p.pieces.filterMap componentOf?

/-- The name at the end of a path, if its last component is a name. -/
def fileName? (p : Path) : Option Bytes :=
  match p.components.getLast? with
  | some (.name bytes) => some bytes
  | _ => none

/-- The path of the entry `name` inside `dir`: a slash parts them unless `dir` is
empty or ends in one. -/
def child (dir : Path) (name : Bytes) : Path :=
  if dir.bytes = [] ∨ dir.bytes.getLast? = some slash then
    ⟨dir.bytes ++ name⟩
  else
    ⟨dir.bytes ++ slash :: name⟩

def ofComponents (components : List Component) : Path :=
  components.foldl
    (fun path component =>
      match component with
      | .root => ⟨[slash]⟩
      | .here => path.child [dot]
      | .parent => path.child [dot, dot]
      | .name bytes => path.child bytes)
    ⟨[]⟩

/-- The proper beginnings of a path by components, the longest first, without the
empty one. -/
def ancestors (p : Path) : List Path :=
  (List.range (p.components.length - 1)).reverse.map fun count =>
    ofComponents (p.components.take (count + 1))

def Component.rank : Component → Nat
  | root => 0
  | here => 1
  | parent => 2
  | name _ => 3

def Component.content : Component → Bytes
  | name bytes => bytes
  | _ => []

def Component.lt (a b : Component) : Bool :=
  a.rank < b.rank || (a.rank == b.rank && decide (a.content < b.content))

/-- Paths are ordered by their components, the first difference deciding. -/
def le (p q : Path) : Bool :=
  !(q.components.lex p.components Component.lt)

end Path

end Imprint
