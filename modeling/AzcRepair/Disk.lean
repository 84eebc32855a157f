import AzcRepair.Path
import AzcRepair.Procedure

/-!
# The disk

What the program asks of the file system, what it is answered, and how a refusal reads.
-/

namespace AzcRepair

/-- Why the operating system refuses something. The kinds are those that the program can meet,
each with the wording of the system; every other refusal carries its text. -/
inductive OsError where
  | notFound
  | permissionDenied
  | alreadyExists
  | notADirectory
  | isADirectory
  | nameTooLong
  /-- The path has a character of code zero, which the system takes for its end. -/
  | nulByte
  /-- The same in the name, an argument or the directory of a program. -/
  | nulArgument
  /-- The file holds bytes that are not UTF-8. -/
  | notText
  /-- Copying something that is not a regular file. -/
  | notARegularFile
  /-- A refusal with a text of its own. -/
  | other (text : String)
  deriving DecidableEq, Repr, Inhabited

def OsError.message : OsError → String
  | notFound => "No such file or directory (os error 2)"
  | permissionDenied => "Permission denied (os error 13)"
  | alreadyExists => "File exists (os error 17)"
  | notADirectory => "Not a directory (os error 20)"
  | isADirectory => "Is a directory (os error 21)"
  | nameTooLong => "File name too long (os error 36)"
  | nulByte => "file name contained an unexpected NUL byte"
  | nulArgument => "nul byte found in provided data"
  | notText => "stream did not contain valid UTF-8"
  | notARegularFile =>
    "the source path is neither a regular file nor a symlink to a regular file"
  | other text => text

namespace Disk

/-- A request to the file system. -/
inductive Call where
  /-- Is there anything at the path? -/
  | present (path : Path)
  /-- Is there a regular file at the path? -/
  | isFile (path : Path)
  /-- Is there a directory at the path? -/
  | isDirectory (path : Path)
  /-- The names in a directory, in no particular order. -/
  | list (path : Path)
  /-- The text of a file. -/
  | readText (path : Path)
  /-- The bytes of a file. -/
  | readBytes (path : Path)
  /-- Replace the content of a file, which may be new. -/
  | write (path : Path) (text : String)
  /-- Make a directory and every directory above it. -/
  | makeDirectories (path : Path)
  /-- Make a file that must not exist yet. -/
  | createNew (path : Path)
  /-- Fill a file with a compressed archive of a directory, under the name `src`. -/
  | archive (path : Path) (directory : Path)
  /-- Copy a file. -/
  | copy (source target : Path)
  deriving DecidableEq, Repr

@[reducible] def Answer : Call → Type
  | .present _ | .isFile _ | .isDirectory _ => Bool
  | .list _ => Except OsError (List String)
  | .readText _ => Except OsError String
  | .readBytes _ => Except OsError ByteArray
  | .write .. | .makeDirectories _ | .createNew _ | .archive .. | .copy .. => Except OsError Unit

def ask (call : Call) : Procedure Call Answer (Answer call) :=
  Procedure.ask call

end Disk

end AzcRepair
