import Imprint.Utility.Edit.Editor
import Imprint.Utility.Edit.Reader
import Imprint.Utility.Excerpt

/-!
# Editing files

The utility that goes through files with an edit script, and prints them or puts
the result in their places.
-/

namespace Imprint

namespace Utility

open Imprint.Task

def editForms : List OptionForm :=
  [flag 'n' "quiet", flag 'n' "silent", valued 'e' "expression", valued 'f' "file",
    flag 'E' "regexp-extended", ⟨some 'r', "", .never⟩, ⟨some 'i', "in-place", .joined⟩,
    flag 's' "separate", flag 'u' "unbuffered", flag 'z' "null-data", valued 'l' "line-length",
    ⟨none, "posix", .never⟩, ⟨none, "debug", .never⟩, ⟨none, "follow-symlinks", .never⟩,
    ⟨none, "sandbox", .never⟩]

def editUsage : Task α := do
  err ("Usage: ".toList ++ (← get).name ++
    " [OPTION]... \x7bscript-only-if-no-other-script\x7d [input-file]...\n".toList)
  finish 1

/-- A part of a script: its text, and the file that it comes from, if it does. -/
structure ScriptPart where
  text : Text
  file : Option Text := none

def locateMistake : (index : Nat) → (parts : List ScriptPart) → (place : Nat) → Text
  | _, [], _ => []
  | index, part :: rest, place =>
      if place ≤ part.text.length ∨ rest.isEmpty then
        match part.file with
        | none =>
            "-e expression #".toList ++ Radix.decimal.numeral index ++ ", char ".toList ++
              Radix.decimal.numeral place
        | some file =>
            "file ".toList ++ file ++ " line ".toList ++
              Radix.decimal.numeral (((part.text.take place).filter (· = '\n')).length + 1)
      else
        locateMistake (if part.file.isNone then index + 1 else index) rest
          (place - part.text.length - 1)

def editLines (ending : Char) (separate : Bool) : (number : Nat) → List (Text × Text) →
    List Edit.Line
  | _, [] => []
  | number, (file, t) :: rest =>
      let records := Text.records ending t
      let others := editLines ending separate (if separate then 0 else number + records.length) rest
      let count := records.length
      let lines := records.zipIdx.map fun (r : Text × Nat) =>
        ({ number := number + r.2 + 1
           text := Text.withoutEnd ending r.1
           isEnded := r.1.getLast? = some ending
           file := file
           isLast := r.2 + 1 = count && (separate || others.isEmpty) } : Edit.Line)
      lines ++ others

/-- Reads the files to be edited; those that cannot be read are reported, and nothing is read
behind a directory. -/
def readEdited (operands : List Text) : Task (List (Text × Text) × Nat) := do
  let mut read : List (Text × Text) := []
  let mut status := 0
  for operand in operands do
    match ← contents operand with
    | .ok t => read := read ++ [(operand, t)]
    | .error .isDirectory =>
        complain ("read error on ".toList ++ operand ++ ": Is a directory".toList)
        return (read, 4)
    | .error cause =>
        complain ("can't read ".toList ++ operand ++ ": ".toList ++ cause.wording)
        status := 2
  return (read, status)

def saveWritten (e : Edit.Editor) : Task Unit := do
  for (file, sink) in e.files.reverse do
    match ← writeFile file .writing sink.text with
    | .ok () => pure ()
    | .error cause => fail 4 ("couldn't open file ".toList ++ file ++ ": ".toList ++ cause.wording)

def writtenFiles (p : Edit.Program) : List Text :=
  p.commands.toList.filterMap fun c =>
    match c.action with
    | .write file | .writeFirst file => some file
    | .substitute s => s.file
    | _ => none

def sed : Utility := fun _ arguments => do
  let ((given, operands), fault) := readOptions { forms := editForms } none arguments
  let mut parts : List ScriptPart := []
  for g in given do
    if g.name = "expression" then
      parts := parts ++ [{ text := g.value }]
    if g.name = "file" then
      match ← contents g.value with
      | .ok t => parts := parts ++ [{ text := Text.withoutEnd '\n' t, file := some g.value }]
      | .error cause =>
          fail 1 ("couldn't open file ".toList ++ g.value ++ ": ".toList ++ cause.wording)
  if let some complaint := fault then
    complain complaint.text
    editUsage
  let (script, operands) ← match parts, operands with
    | [], [] => editUsage
    | [], t :: rest => pure ([({ text := t } : ScriptPart)], rest)
    | several, operands => pure (several, operands)
  let t := List.intercalate ['\n'] (script.map ScriptPart.text)
  let isExtended := has given "regexp-extended" || has given "r"
  let p ← match Edit.read isExtended t with
    | .ok p => pure p
    | .error m => fail 1 (locateMistake 1 script m.place ++ ": ".toList ++ m.message)
  match p.missingLabel? with
  | some label => fail 4 ("can't find label for jump to \x60".toList ++ label ++ ['\''])
  | none => pure ()
  let ending := if has given "null-data" then '\x00' else '\n'
  let inPlace := has given "in-place"
  let isSilentScript := t.take 3 = "#n\n".toList || t = "#n".toList
  let start : Edit.Editor :=
    { input := []
      isQuiet := has given "quiet" || has given "silent" || isSilentScript
      ending := ending
      width := ((value? given "line-length").bind Text.natural?).getD 70
      files := ((writtenFiles p).filter (· ≠ "/dev/stdout".toList)).eraseDups.map fun f => (f, {}) }
  let edit (files : List (Text × Text)) (e : Edit.Editor) : Task (Nat × Edit.Editor) := do
    let lines := editLines ending (inPlace || has given "separate") 0 files
    return (Edit.cycles (← store) p (2 * lines.length + t.length + 1000) true).run { e with input := lines }
  let (read, readStatus) ← readEdited (orInput operands)
  let mut e := start
  let mut status := 0
  if inPlace then
    for (file, text) in read do
      let (ended, after) ← edit [(file, text)] e
      status := ended
      let suffix := (value? given "in-place").getD []
      unless suffix.isEmpty do
        let _ ← writeFile (file ++ suffix) .writing text
      lose file
      let _ ← writeFile file .writing after.out.text
      e := { after with out := {} }
      if ended ≠ 0 then
        break
  else
    let (ended, after) ← edit read e
    status := ended
    e := after
    out e.out.text
  saveWritten e
  match e.fault with
  | some message => fail 1 ("-e expression #1, char 0: ".toList ++ message)
  | none => return if status = 0 then readStatus else status

end Utility

end Imprint
