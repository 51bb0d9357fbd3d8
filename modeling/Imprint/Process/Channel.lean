import Imprint.Process.Device
import Imprint.Store.Files

/-!
# Channels

A channel is an open file: what is read from it and written to it goes on where
the last reading or writing ended.  Descriptors that are copies of one another
lead to the same channel.  Characters of texts stand for bytes.
-/

namespace Imprint

def Text.ofBytes (bytes : Bytes) : Text :=
  bytes.map fun b => Char.ofNat b.toNat

def Text.toBytes (t : Text) : Bytes :=
  t.map fun c => UInt8.ofNat c.toNat

def Path.ofBytes (t : Text) : Path :=
  ⟨t.toBytes⟩

/-- An open file: one that is empty and forgets, a text to be read, a collection of
what is written and when, latest first, a file of the store with a place in it, a file that the
store lost, or a directory. -/
inductive Channel where
  | nothing
  | source (rest : Text)
  | sink (chunks : List (Nat × Text))
  | file (location : Location) (offset : Nat) (appends : Bool)
  | lost (contents : Bytes) (offset : Nat) (appends : Bool)
  | directory

/-- How a file is opened: to read it, to write it anew, to write behind its end, or to
read and write it from its start. -/
inductive OpenMode where
  | reading
  | writing
  | appending
  | both
deriving DecidableEq

/-- The files together with those that are open, the time in microseconds, up to which time
programs are followed, and when files were changed where that is known.  The times of files
count from the same moment on, and files that were there before have the time zero. -/
structure OpenFiles where
  store : Store
  channels : Array Channel := #[]
  clock : Nat := 0
  limit : Option Nat := none
  stamps : List (Location × Int) := []

namespace OpenFiles

def add (f : OpenFiles) (c : Channel) : Nat × OpenFiles :=
  (f.channels.size, { f with channels := f.channels.push c })

def setChannel (f : OpenFiles) (id : Nat) (c : Channel) : OpenFiles :=
  { f with channels := f.channels.setIfInBounds id c }

def wait (f : OpenFiles) (time : Nat) : OpenFiles :=
  { f with clock := f.clock + time }

def now (f : OpenFiles) : Int :=
  (f.clock / 4000 * 4000 : Nat)

def stamp (f : OpenFiles) (location : Location) (time : Int) : OpenFiles :=
  { f with stamps := (location, time) :: f.stamps.filter fun e => ¬ f.store.SameFile e.1 location }

def stampOf (f : OpenFiles) (location : Location) : Int :=
  ((f.stamps.find? fun e => f.store.SameFile e.1 location).map Prod.snd).getD 0

def changedAt? (f : OpenFiles) (path : Path) : Option Int :=
  match f.store.locate .followed path with
  | .ok (.found location) => some (f.stampOf location)
  | _ => none

/-- What a channel becomes when the file at a location leaves the store, or when it has another
name there. -/
def Channel.lose (location : Location) (contents : Bytes) (other : Option Location)
    (c : Channel) : Channel :=
  match c with
  | .file place offset appends =>
      if place = location then
        match other with
        | some name => .file name offset appends
        | none => .lost contents offset appends
      else
        .file place offset appends
  | c => c

def otherName? (f : OpenFiles) (after : Store) (location : Location) : Option Location :=
  (after.entries.find? fun e =>
    e.1 ≠ location && f.store.SameFile e.1 location &&
      after.number? e.1 == f.store.number? location).map Prod.fst

/-- Lets the channels of the file at a location keep it, though its name is gone in the store that
comes after. -/
def lose (f : OpenFiles) (after : Store) (location : Location) : OpenFiles :=
  match f.store.at? location with
  | some (.file contents _) =>
      let other := f.otherName? after location
      { f with
        channels := f.channels.map (Channel.lose location contents other)
        stamps := match other with
          | some name => (name, f.stampOf location) :: f.stamps
          | none => f.stamps }
  | _ => f

/-- Puts another store in place of the one that is there.  Channels keep the files that are gone,
and what is new is stamped. -/
def changeStore (f : OpenFiles) (s : Store) : OpenFiles :=
  let gone := f.store.entries.filter fun e => (s.at? e.1).isNone
  let new := s.entries.filter fun e => f.store.at? e.1 ≠ some e.2
  let kept := gone.foldl (fun f e => f.lose s e.1) f
  new.foldl (fun f e => f.stamp e.1 f.now) { kept with store := s }

/-- Gives the file at a location a further name, in place of the entry that stands there. -/
def share (f : OpenFiles) (source target : Location) : OpenFiles :=
  let shared := f.store.share source target
  { f.lose (f.store.remove target) target with store := shared }

def moved (source target location : Location) : Location :=
  if source.length ≤ location.length ∧ location.drop (location.length - source.length) = source then
    location.take (location.length - source.length) ++ target
  else
    location

/-- Puts another store in place of the one that is there, in which something moved.  Channels
and times go with it. -/
def moveStore (f : OpenFiles) (source target : Location) (s : Store) : OpenFiles :=
  let kept := f.lose (f.store.remove target) target
  { kept with
    store := s
    channels := kept.channels.map fun c =>
      match c with
      | .file place offset appends => .file (moved source target place) offset appends
      | c => c
    stamps := (kept.stamps.filter fun e => e.1 ≠ target).map fun e => (moved source target e.1, e.2) }

def unread (f : OpenFiles) (id : Nat) : Except Cause Text :=
  match f.channels[id]? with
  | some (.source rest) => .ok rest
  | some (.file location offset _) =>
      match f.store.at? location with
      | some (.file contents _) => .ok (Text.ofBytes (contents.drop offset))
      | _ => .ok []
  | some (.lost contents offset _) => .ok (Text.ofBytes (contents.drop offset))
  | some .directory => .error .isDirectory
  | some (.sink _) => .error .badDescriptor
  | some .nothing => .ok []
  | none => .error .badDescriptor

def advance (f : OpenFiles) (id count : Nat) : OpenFiles :=
  match f.channels[id]? with
  | some (.source rest) => f.setChannel id (.source (rest.drop count))
  | some (.file location offset appends) => f.setChannel id (.file location (offset + count) appends)
  | some (.lost contents offset appends) => f.setChannel id (.lost contents (offset + count) appends)
  | _ => f

/-- The contents of a file after a text is written at an offset, with zeros between its end
and the offset. -/
def patch (contents : Bytes) (offset : Nat) (t : Bytes) : Bytes :=
  contents.take offset ++ List.replicate (offset - contents.length) 0 ++ t ++
    contents.drop (offset + t.length)

def write (f : OpenFiles) (id : Nat) (t : Text) : OpenFiles :=
  match f.channels[id]? with
  | some (.sink chunks) =>
      if t.isEmpty then f else f.setChannel id (.sink ((f.clock, t) :: chunks))
  | some (.file location offset appends) =>
      match f.store.at? location with
      | some (.file contents executable) =>
          let start := if appends then contents.length else offset
          let written : OpenFiles :=
            { f with store := f.store.overwrite location (patch contents start t.toBytes) executable }
          (written.setChannel id (.file location (start + t.length) appends)).stamp location f.now
      | _ => f
  | some (.lost contents offset appends) =>
      let start := if appends then contents.length else offset
      f.setChannel id (.lost (patch contents start t.toBytes) (start + t.length) appends)
  | _ => f

def collected (f : OpenFiles) (id : Nat) : Text :=
  match f.channels[id]? with
  | some (.sink chunks) =>
      (chunks.reverse.mergeSort fun a b => decide (a.1 ≤ b.1)).flatMap Prod.snd
  | _ => []

def awaitEnd (f : OpenFiles) (id : Nat) : OpenFiles :=
  match f.channels[id]? with
  | some (.sink chunks) => { f with clock := chunks.foldl (fun n c => max n c.1) f.clock }
  | _ => f

def descriptorOf? (path : Text) : Option Nat :=
  if path = "/dev/stdin".toList then some 0
  else if path = "/dev/stdout".toList then some 1
  else if path = "/dev/stderr".toList then some 2
  else
    match Text.after? "/dev/fd/".toList path with
    | some [d] => if d.isDigit then some (d.toNat - '0'.toNat) else none
    | _ => none

def openStored (f : OpenFiles) (mode : OpenMode) (path : Path) :
    Except Cause (Nat × OpenFiles) := do
  let store ← match mode, f.store.entry path with
    | .reading, _ => pure f.store
    | .writing, _ => f.store.write path []
    | _, .ok (.file ..) => pure f.store
    | _, .ok _ => throw .isDirectory
    | _, .error _ => f.store.write path []
  match ← store.locate .followed path with
  | .vacant .. => throw .notFound
  | .found location =>
      let channel := match store.at? location with
        | some (.file ..) => .file location 0 (mode = .appending)
        | _ => .directory
      let opened : OpenFiles := { f with store := store }
      let isNew := store.at? location ≠ f.store.at? location || mode = .writing
      pure ((if isNew then opened.stamp location f.now else opened).add channel)

def openPath (f : OpenFiles) (descriptors : List (Nat × Nat)) (mode : OpenMode) (path : Text) :
    Except Cause (Nat × OpenFiles) :=
  match Device.ofPath? path, descriptorOf? path with
  | some device, _ =>
      .ok (f.add (if mode = .reading then .source device.contents else .nothing))
  | none, some d =>
      match descriptors.lookup d with
      | some id => .ok (id, f)
      | none => .error .notFound
  | none, none => f.openStored mode (Path.ofBytes path)

end OpenFiles

end Imprint
