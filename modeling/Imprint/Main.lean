import Imprint.CommandLine.Run

/-!
# The program

The working directory is loaded as a store, the command line is run on it, and
what it made is written back.  Files that name an interpreter count as
executable, and symbolic links count as what they lead to.  Which names are hard
links of one file cannot be asked for, so each counts as a file of its own.
-/

namespace Imprint

namespace Main

def bytesOfArray (contents : ByteArray) : Bytes :=
  contents.toList

def arrayOfBytes (contents : Bytes) : ByteArray :=
  ByteArray.mk contents.toArray

def isScript (contents : Bytes) : Bool :=
  contents.take 2 == [0x23, 0x21]

/-- The path of a location below the working directory, as the system takes it. -/
def systemPath (location : Location) : String :=
  String.ofList (Utf8.decode (List.intercalate [Path.slash] location.reverse))

partial def load (path : String) (place : Location) (s : Store) : IO Store := do
  let mut s := s
  for entry in ← (← IO.FS.realPath path).readDir do
    let location := Utf8.encode entry.fileName.toList :: place
    let inner := path ++ "/" ++ entry.fileName
    try
      if ← entry.path.isDir then
        s ← load inner location (s.put location .directory)
      else
        let contents := bytesOfArray (← IO.FS.readBinFile inner)
        s := s.put location (.file contents (isScript contents))
    catch _ =>
      s := s.put location (.link ⟨[]⟩)
  return s

def writeBack (before : Store) (location : Location) (entry : Entry) : IO Unit := do
  if before.at? location != some entry then
    match entry with
    | .directory => IO.FS.createDirAll (systemPath location)
    | .file contents _ => IO.FS.writeBinFile (systemPath location) (arrayOfBytes contents)
    | .link _ => pure ()

end Main

end Imprint

def main (arguments : List String) : IO UInt32 := do
  let before ← Imprint.Main.load "." [] Imprint.Store.empty
  let env : Imprint.CommandLine.Environment :=
    { searchPath := ((← IO.getEnv "PATH").map String.toList).getD
        Imprint.Program.defaultSearchPath
      reports := (← IO.getEnv "RUST_LOG").map String.toList }
  let (verdict, after) := Imprint.CommandLine.run env (arguments.map String.toList) before
  for (location, entry) in after.entries do
    Imprint.Main.writeBack before location entry
  (← IO.getStdout).putStr (String.ofList verdict.out)
  (← IO.getStderr).putStr (String.ofList verdict.err)
  return UInt32.ofNat verdict.code
