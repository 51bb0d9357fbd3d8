import Imprint.Text.Basic

/-!
# Causes

Why the system refused an operation on a file or a program, and the wording of
each reason.
-/

namespace Imprint

/-- Why the system refused an operation. -/
inductive Cause where
  | notPermitted
  | notFound
  | badFormat
  | badDescriptor
  | permissionDenied
  | alreadyExists
  | notDirectory
  | isDirectory
  | nameTooLong
  | notEmpty
  | tooManyLinks
  | nulInPath
  | nulInArgument
  | missingEntity
  | brokenPipe
deriving DecidableEq

namespace Cause

def wording : Cause → Text
  | notPermitted => "Operation not permitted".toList
  | notFound => "No such file or directory".toList
  | badFormat => "Exec format error".toList
  | badDescriptor => "Bad file descriptor".toList
  | permissionDenied => "Permission denied".toList
  | alreadyExists => "File exists".toList
  | notDirectory => "Not a directory".toList
  | isDirectory => "Is a directory".toList
  | nameTooLong => "File name too long".toList
  | notEmpty => "Directory not empty".toList
  | tooManyLinks => "Too many levels of symbolic links".toList
  | nulInPath => "file name contained an unexpected NUL byte".toList
  | nulInArgument => "nul byte found in provided data".toList
  | missingEntity => "entity not found".toList
  | brokenPipe => "broken pipe".toList

/-- The number of a cause, in decimal, where the operating system gives it one. -/
def number? : Cause → Option Text
  | notPermitted => some "1".toList
  | notFound => some "2".toList
  | badFormat => some "8".toList
  | badDescriptor => some "9".toList
  | permissionDenied => some "13".toList
  | alreadyExists => some "17".toList
  | notDirectory => some "20".toList
  | isDirectory => some "21".toList
  | nameTooLong => some "36".toList
  | notEmpty => some "39".toList
  | tooManyLinks => some "40".toList
  | _ => none

/-- The wording of a cause; those the operating system numbers carry the number. -/
def message (c : Cause) : Text :=
  match c.number? with
  | some number => c.wording ++ " (os error ".toList ++ number ++ [')']
  | none => c.wording

end Cause

end Imprint
