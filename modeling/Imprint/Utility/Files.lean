import Imprint.Store.Tree
import Imprint.Utility.Names

/-!
# Utilities that change files

The utilities that copy, move, link, write and delete files, and make directories.
-/

namespace Imprint

namespace Utility

open Imprint.Task

def standing (s : Store) (ending : Ending) (path : Text) : Except Cause (Location × Entry) := do
  if (Device.ofPath? path).isSome then
    return ([], .file [] false)
  match ← s.locate ending (Path.ofBytes path) with
  | .vacant .. => throw .notFound
  | .found location =>
      match s.at? location with
      | some entry => return (location, entry)
      | none => throw .notFound

def inDirectory (dir name : Text) : Text :=
  if dir.getLast? = some '/' then dir ++ name else dir ++ '/' :: name

def both (first : Text) (between : String) (second : Text) : Text :=
  Text.inShellQuotes first ++ between.toList ++ Text.inShellQuotes second

def cannot (action : String) (path : Text) (cause : Cause) : Task Bool := do
  complain ("cannot ".toList ++ action.toList ++ ' ' :: Text.inShellQuotes path ++ ": ".toList ++
    cause.wording)
  return false

def destinations (given : List Given) (operands : List Text) : Task (List (Text × Text)) := do
  let s ← store
  let into (dir : Text) (sources : List Text) : List (Text × Text) :=
    sources.map fun source => (source, inDirectory dir (lastPiece source))
  let place := (if has given "target-directory" then "target directory " else "target ").toList
  let wanted (dir : Text) (sources : List Text) : Task (List (Text × Text)) := do
    match s.entry (Path.ofBytes dir) with
    | .ok .directory => return into dir sources
    | .ok _ => fail 1 (place ++ Text.inShellQuotes dir ++ ": Not a directory".toList)
    | .error cause => fail 1 (place ++ Text.inShellQuotes dir ++ ": ".toList ++ cause.wording)
  match value? given "target-directory", operands with
  | _, [] => misuse 1 "missing file operand".toList
  | some dir, sources => wanted dir sources
  | none, [source] => misuse 1 ("missing destination file operand after ".toList ++ Text.inShellQuotes source)
  | none, [source, target] =>
      if has given "no-target-directory" || !s.isDirectory (Path.ofBytes target) then
        return [(source, target)]
      else
        return into target [source]
  | none, operands => wanted (operands.getLast?.getD []) operands.dropLast

/-- Whether the file of a path was changed after that of another, or there is no other. -/
def isNewer (source target : Text) : Task Bool := do
  let files := (← get).files
  match files.changedAt? (Path.ofBytes source), files.changedAt? (Path.ofBytes target) with
  | some a, some b => return b < a
  | _, _ => return true

def copyTime (source target : Text) : Task Unit :=
  modify fun p =>
    match p.files.changedAt? (Path.ofBytes source), p.files.store.locate .followed (Path.ofBytes target) with
    | some time, .ok (.found location) => { p with files := p.files.stamp location time }
    | _, _ => p

structure Copying where
  recursive : Bool
  keepsLinks : Bool
  keepsTimes : Bool
  updates : Bool
  spares : Bool
  tells : Bool
  asLink : Bool
  asName : Bool

/-- Copies what a path leads to.  What is in a directory is copied with it, up to a depth. -/
def copy (c : Copying) : (depth : Nat) → (source target : Text) → Task Bool
  | 0, _, _ => return false
  | depth + 1, source, target => do
      let s ← store
      let shown := Text.inShellQuotes
      match standing s (if c.keepsLinks then .kept else .followed) source with
      | .error cause => cannot "stat" source cause
      | .ok (place, entry) =>
          if entry = .directory ∧ !c.recursive then
            complain ("-r not specified; omitting directory ".toList ++ shown source)
            return false
          let old := standing s .followed target
          let refuse (t : Text) : Task Bool := do
            complain t
            return false
          let tell : Task Unit := do
            if c.tells then
              out (both source " -> " target ++ ['\n'])
          match old with
          | .ok (oldPlace, oldEntry) =>
              if s.SameFile oldPlace place ∧ place ≠ [] then
                if c.asName then
                  return true
                return ← refuse (both source " and " target ++ " are the same file".toList)
              if entry = .directory ∧ oldEntry ≠ .directory then
                return ← refuse ("cannot overwrite non-directory ".toList ++
                  both target " with directory " source)
              if entry ≠ .directory ∧ oldEntry = .directory then
                return ← refuse ("cannot overwrite directory ".toList ++ shown target ++
                  " with non-directory".toList)
              if c.spares ∧ entry ≠ .directory then
                return true
              if c.updates && entry ≠ .directory && !(← isNewer source target) then
                return true
          | .error _ => pure ()
          match entry with
          | .file contents executable =>
              if old.toOption.isNone && (standing s .kept target).toOption.isSome then
                return ← refuse ("not writing through dangling symlink ".toList ++ shown target)
              if c.asName then
                let cannotShare (cause : Cause) : Task Bool :=
                  refuse ("cannot create hard link ".toList ++ both target " to " source ++
                    ": ".toList ++ cause.wording)
                match s.locate .kept (Path.ofBytes target) with
                | .ok (.vacant dir name) =>
                    modify fun p => { p with files := p.files.share place (name :: dir) }
                    tell
                    return true
                | .ok (.found _) => return ← cannotShare .alreadyExists
                | .error cause => return ← cannotShare cause
              let created : Except Cause Store :=
                if c.asLink then s.makeLink (Path.ofBytes target) (Path.ofBytes source)
                else
                  match s.write (Path.ofBytes target) contents with
                  | .error cause => .error cause
                  | .ok written =>
                      if executable && old.toOption.isNone then
                        written.makeExecutable (Path.ofBytes target)
                      else
                        .ok written
              match created with
              | .ok s =>
                  setStore s
                  if c.keepsTimes then
                    copyTime source target
                  tell
                  return true
              | .error cause =>
                  let cause := if target.getLast? = some '/' then Cause.notDirectory else cause
                  cannot (if c.asLink then "create symbolic link" else "create regular file") target cause
          | .link path =>
              let s := match standing s .kept target with
                | .ok (place, .file ..) | .ok (place, .link _) => s.remove place
                | _ => s
              match s.makeLink (Path.ofBytes target) path with
              | .ok s =>
                  setStore s
                  tell
                  return true
              | .error cause => cannot "create symbolic link" target cause
          | .directory =>
              let made ← if old.toOption.isSome then pure (.ok ()) else do
                let made ← change fun s => s.makeDirectory (Path.ofBytes target)
                tell
                pure made
              match made with
              | .error cause => cannot "create directory" target cause
              | .ok () =>
                  let isInside := match standing (← store) .followed target with
                    | .ok (new, _) => Store.isWithin place new
                    | .error _ => false
                  if isInside then
                    return ← refuse ("cannot copy a directory, ".toList ++
                      both source ", into itself, " target)
                  let names := (s.list (Path.ofBytes source)).toOption.getD []
                  let mut isDone := true
                  for name in names do
                    let name := Text.ofBytes name
                    unless ← copy { c with keepsLinks := true } depth (inDirectory source name)
                        (inDirectory target name) do
                      isDone := false
                  return isDone

def maxNesting : Nat := 1000

def cp : Utility := fun _ arguments => do
  let forms :=
    [flag 'a' "archive", ⟨none, "attributes-only", .never⟩, flag 'b' "backup", flag 'd' "",
      flag 'f' "force", flag 'i' "interactive", flag 'H' "", flag 'l' "link", flag 'L' "dereference",
      flag 'n' "no-clobber", flag 'P' "no-dereference", flag 'p' "", ⟨none, "preserve", .joined⟩,
      flag 'R' "recursive", flag 'r' "", flag 's' "symbolic-link",
      valued 't' "target-directory", flag 'T' "no-target-directory", flag 'u' "update",
      flag 'v' "verbose", flag 'x' "one-file-system", valued 'S' "suffix", flag 'Z' ""]
  let (given, operands) ← options forms arguments 1
  let pairs ← destinations given operands
  let recursive := has given "recursive" || has given "r" || has given "archive"
  let linking := ["no-dereference", "d", "archive"].any (has given)
  let following := has given "dereference" || has given "H"
  let c : Copying :=
    { recursive := recursive
      keepsLinks := (linking || recursive) && !following
      keepsTimes := ["archive", "p", "preserve"].any (has given)
      updates := has given "update"
      spares := has given "no-clobber"
      tells := has given "verbose"
      asLink := has given "symbolic-link"
      asName := has given "link" }
  if c.spares then
    complain "warning: behavior of -n is non-portable and may change in future; use --update=none instead".toList
  let mut status := 0
  for (source, target) in pairs do
    unless ← copy c maxNesting source target do
      status := 1
  return status

def move (spares tells : Bool) (source target : Text) : Task Bool := do
  let s ← store
  let shown := Text.inShellQuotes
  let refuse (t : Text) : Task Bool := do
    complain t
    return false
  match standing s .kept (Text.ofBytes (Store.withoutTrailingSlashes (Path.ofBytes source)).bytes) with
  | .error cause => cannot "stat" source cause
  | .ok (place, entry) =>
      let isDirectory := entry == .directory
      let path := if isDirectory then Store.withoutTrailingSlashes (Path.ofBytes target) else Path.ofBytes target
      let cannotMove (cause : Cause) : Task Bool :=
        refuse ("cannot move ".toList ++ both source " to " target ++ ": ".toList ++ cause.wording)
      let go (new : Location) : Task Bool := do
        if Store.isWithin place new then
          return ← refuse ("cannot move ".toList ++ both source " to a subdirectory of itself, " target)
        modify fun p => { p with files := p.files.moveStore place new (s.moveTree place new) }
        if tells then
          out ("renamed ".toList ++ both source " -> " target ++ ['\n'])
        return true
      match s.locate .kept path with
      | .error cause =>
          cannotMove (if target.getLast? = some '/' && cause == .notFound then .notDirectory else cause)
      | .ok (.vacant dir name) => go (name :: dir)
      | .ok (.found new) =>
          let oldIsDirectory := s.at? new == some .directory
          if s.SameFile new place then
            refuse (both source " and " target ++ " are the same file".toList)
          else if spares then
            refuse ("not replacing ".toList ++ shown target)
          else if isDirectory && !oldIsDirectory then
            refuse ("cannot overwrite non-directory ".toList ++ both target " with directory " source)
          else if !isDirectory && oldIsDirectory then
            refuse ("cannot overwrite directory ".toList ++ shown target ++ " with non-directory".toList)
          else if oldIsDirectory && !(s.namesIn new).isEmpty && !Store.isWithin place new then
            refuse ("cannot overwrite ".toList ++ shown target ++ ": Directory not empty".toList)
          else
            go new

def mv : Utility := fun _ arguments => do
  let forms :=
    [flag 'b' "backup", flag 'f' "force", flag 'i' "interactive", flag 'n' "no-clobber",
      valued 't' "target-directory", flag 'T' "no-target-directory", flag 'u' "update",
      flag 'v' "verbose", valued 'S' "suffix", flag 'Z' "context"]
  let (given, operands) ← options forms arguments 1
  let pairs ← destinations given operands
  let mut status := 0
  for (source, target) in pairs do
    if has given "update" && !(← isNewer source target) then
      continue
    unless ← move (has given "no-clobber") (has given "verbose") source target do
      status := 1
  return status

structure Deleting where
  recursive : Bool
  forced : Bool
  empties : Bool
  tells : Bool

def delete (d : Deleting) : (depth : Nat) → Text → Task Bool
  | 0, _ => return false
  | depth + 1, path => do
      let s ← store
      let tell (what : String) : Task Unit := do
        if d.tells then
          out (what.toList ++ Text.inShellQuotes path ++ ['\n'])
      match standing s .kept path with
      | .error cause =>
          if d.forced && (cause == .notFound || cause == .notDirectory) then return true
          else cannot "remove" path cause
      | .ok (_, .directory) =>
          if d.recursive then
            let names := (s.list (Path.ofBytes path)).toOption.getD []
            let mut isDone := true
            for name in names do
              unless ← delete d depth (inDirectory path (Text.ofBytes name)) do
                isDone := false
            if !isDone then
              return false
          else if !d.empties then
            return ← cannot "remove" path .isDirectory
          match ← change fun s => s.deleteDirectory (Path.ofBytes path) with
          | .ok () =>
              tell "removed directory "
              return true
          | .error cause => cannot "remove" path cause
      | .ok _ =>
          match ← change fun s => s.delete (Path.ofBytes path) with
          | .ok () =>
              tell "removed "
              return true
          | .error cause => cannot "remove" path cause

def rm : Utility := fun _ arguments => do
  let forms :=
    [flag 'd' "dir", flag 'f' "force", flag 'i' "", flag 'I' "", flag 'r' "recursive", flag 'R' "",
      flag 'v' "verbose", ⟨none, "one-file-system", .never⟩, ⟨none, "no-preserve-root", .never⟩,
      ⟨none, "preserve-root", .joined⟩]
  let ((given, operands), fault) := readOptions { forms := forms } none arguments
  if let some complaint := fault then
    complain complaint.text
    let s ← store
    let meant := arguments.find? fun t =>
      t.head? == some '-' && t != ['-'] && (standing s .kept t).toOption.isSome
    if let some t := meant then
      err ("Try '".toList ++ (← get).name ++ " ./".toList ++ Text.asShellWord t ++
        "' to remove the file ".toList ++ Text.inShellQuotes t ++ ".\n".toList)
    seeHelp 1
  let d : Deleting :=
    { recursive := has given "recursive" || has given "R"
      forced := has given "force"
      empties := has given "dir"
      tells := has given "verbose" }
  if operands.isEmpty then
    if d.forced then return 0
    misuse 1 "missing operand".toList
  forAll operands fun path => do
    let piece := lastPiece path
    if d.recursive && (piece == ['.'] || piece == ['.', '.']) then
      complain ("refusing to remove '.' or '..' directory: skipping ".toList ++ Text.inShellQuotes path)
      return false
    else
      delete d maxNesting path

def makeDirectory (onTheWay tells : Bool) (path : Text) : Task Bool := do
  let make (path : Text) : Task (Except Cause Unit) := do
    match ← change fun s => s.makeDirectory (Path.ofBytes path) with
    | .ok () =>
        if tells then
          out ((← get).name ++ ": created directory ".toList ++ Text.inShellQuotes path ++ ['\n'])
        return .ok ()
    | .error cause => return .error cause
  if onTheWay then
    let pieces := cutAt '/' path
    let fronts := (List.range pieces.length).map fun n => List.intercalate ['/'] (pieces.take (n + 1))
    let steps := fronts.zip pieces
    let last := steps.length
    for ((front, piece), index) in steps.zipIdx do
      unless piece.isEmpty do
        match ← make front with
        | .ok () => pure ()
        | .error cause =>
            let isThere := (← store).isDirectory (Path.ofBytes front)
            unless isThere do
              let isLast := (pieces.drop (index + 1)).all List.isEmpty
              return ← cannot "create directory" front
                (if cause == .alreadyExists && !isLast && index + 1 < last then .notDirectory else cause)
    return true
  else
    match ← make path with
    | .ok () => return true
    | .error cause => cannot "create directory" path cause

def mkdir : Utility := fun _ arguments => do
  let forms := [valued 'm' "mode", flag 'p' "parents", flag 'v' "verbose", flag 'Z' ""]
  let (given, operands) ← options forms arguments 1
  if operands.isEmpty then
    misuse 1 "missing operand".toList
  forAll operands (makeDirectory (has given "parents") (has given "verbose"))

def rmdir : Utility := fun _ arguments => do
  let forms := [flag 'p' "parents", flag 'v' "verbose", ⟨none, "ignore-fail-on-non-empty", .never⟩]
  let (given, operands) ← options forms arguments 1
  if operands.isEmpty then
    misuse 1 "missing operand".toList
  let remove (isOuter : Bool) (path : Text) : Task Bool := do
    if has given "verbose" then
      out ((← get).name ++ ": removing directory, ".toList ++ Text.inShellQuotes path ++ ['\n'])
    let result : Except Text Unit ← if lastPiece path = ['.'] then
        pure (.error "Invalid argument".toList)
      else do
      match ← change fun s => s.deleteDirectory (Path.ofBytes path) with
      | .ok () => pure (.ok ())
      | .error cause =>
          if cause == .notEmpty && has given "ignore-fail-on-non-empty" then pure (.ok ())
          else pure (.error cause.wording)
    match result with
    | .ok () => return true
    | .error t =>
        complain ("failed to remove ".toList ++ (if isOuter then "directory ".toList else []) ++
          Text.inShellQuotes path ++ ": ".toList ++ t)
        return false
  forAll operands fun path => do
    if !(← remove false path) then
      return false
    if has given "parents" then
      let pieces := (cutAt '/' path).filter fun piece => !piece.isEmpty
      let outer := (List.range (pieces.length - 1)).map fun n =>
        List.intercalate ['/'] (pieces.take (pieces.length - 1 - n))
      for dir in outer do
        if !(← remove true dir) then
          return false
    return true

def ln : Utility := fun _ arguments => do
  let forms :=
    [flag 'b' "backup", flag 'f' "force", flag 'i' "interactive", flag 'n' "no-dereference",
      flag 'r' "relative", flag 's' "symbolic", valued 't' "target-directory",
      flag 'T' "no-target-directory", flag 'v' "verbose", flag 'L' "logical", flag 'P' "physical",
      flag 'd' "directory", flag 'F' "", valued 'S' "suffix"]
  let s ← store
  let check (g : Given) : Option Complaint :=
    if g.name = "target-directory" then
      match s.entry (Path.ofBytes g.value) with
      | .ok .directory => none
      | .ok _ => some (.plain ("target ".toList ++ Text.inShellQuotes g.value ++
          " is not a directory".toList))
      | .error cause => some (.plain ("failed to access ".toList ++ Text.inShellQuotes g.value ++
          ": ".toList ++ cause.wording))
    else
      none
  let (given, operands) ← optionsBy { forms := forms, check := check } arguments 1
  let symbolic := has given "symbolic"
  let leadsInto (path : Text) : Bool :=
    s.isDirectory (Path.ofBytes path) && !has given "no-target-directory" &&
      !(has given "no-dereference" && match standing s .kept path with
        | .ok (_, .link _) => true
        | _ => false)
  let into (dir : Text) (sources : List Text) : List (Text × Text) :=
    sources.map fun source => (source, inDirectory dir (lastPiece source))
  let pairs ← match value? given "target-directory", operands with
    | _, [] => misuse 1 "missing file operand".toList
    | some dir, sources => pure (into dir sources)
    | none, [source] => pure (into ['.'] [source])
    | none, [source, target] =>
        if leadsInto target then pure (into target [source]) else pure [(source, target)]
    | none, several => do
        let dir := several.getLast?.getD []
        if leadsInto dir then pure (into dir several.dropLast)
        else fail 1 ("target ".toList ++ Text.inShellQuotes dir ++ ": Not a directory".toList)
  let mut status := 0
  for (source, target) in pairs do
    let isDone ← make symbolic (has given "force") source target
    if isDone then
      if has given "verbose" then
        out (both target (if symbolic then " -> " else " => ") source ++ ['\n'])
    else
      status := 1
  return status
where
  make (symbolic force : Bool) (source target : Text) : Task Bool := do
    let s ← store
    let refuse (t : Text) : Task Bool := do
      complain t
      return false
    let entry := standing s .kept source
    let put (entry : Entry) (location : Location) : Task Unit := do
      modify fun p => { p with files := p.files.lose (s.remove location) location }
      setStore (s.put location entry)
    if symbolic then
      place s force "symbolic" target (fun _ => false) (put (.link (Path.ofBytes source)))
    else
      match entry with
      | .error cause =>
          refuse ("failed to access ".toList ++ Text.inShellQuotes source ++ ": ".toList ++ cause.wording)
      | .ok (_, .directory) => refuse (source ++ ": hard link not allowed for directory".toList)
      | .ok (origin, .file ..) =>
          if force && (s.locate .kept (Path.ofBytes target)).toOption == some (.found origin) then
            return ← refuse (both source " and " target ++ " are the same file".toList)
          place s force "hard" target (fun location => s.SameFile origin location) fun location =>
            modify fun p => { p with files := p.files.share origin location }
      | .ok (_, entry) => place s force "hard" target (fun _ => false) (put entry)
  place (s : Store) (force : Bool) (kind : String) (target : Text) (isThere : Location → Bool)
      (create : Location → Task Unit) : Task Bool := do
    let refuse (cause : Cause) : Task Bool := do
      complain ("failed to create ".toList ++ kind.toList ++ " link ".toList ++
        Text.inShellQuotes target ++ ": ".toList ++ cause.wording)
      return false
    match s.locate .kept (Path.ofBytes target) with
    | .error cause => refuse cause
    | .ok (.vacant dir name) =>
        create (name :: dir)
        return true
    | .ok (.found location) =>
        if force && s.at? location != some .directory then
          unless isThere location do
            create location
          return true
        else
          refuse .alreadyExists

def tee : Utility := fun _ arguments => do
  let forms := [flag 'a' "append", flag 'i' "ignore-interrupts", flag 'p' ""]
  let (given, operands) ← options forms arguments 1
  let t ← match ← input with
    | .ok t => pure t
    | .error cause => fail 1 ("read error: ".toList ++ cause.wording)
  let status ← forAll operands fun path => do
    match ← writeFile path (if has given "append" then .appending else .writing) t with
    | .ok () => return true
    | .error cause =>
        refuse path cause
        return false
  out t
  return status

end Utility

end Imprint
