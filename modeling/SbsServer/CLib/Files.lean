import Mathlib.Logic.Function.Basic

/-!
# Files

Files are contents under paths.  A file is replaced by writing another one and
renaming it: until then the first one is untouched.
-/

namespace CLib

/-- The files that there are, with their contents. -/
abbrev Files (Path Byte : Type) := Path → Option (List Byte)

namespace Files

variable {Path Byte : Type} [DecidableEq Path]

/-- `open` with `O_CREAT` and `O_TRUNC`. -/
def truncate
    (files : Files Path Byte)
    (path : Path) : Files Path Byte :=
  Function.update files path (some [])

/-- `write` at the end of a file that is open. -/
def append
    (files : Files Path Byte)
    (path : Path)
    (bytes : List Byte) : Files Path Byte :=
  Function.update files path (some ((files path).getD [] ++ bytes))

/-- `unlink` -/
def unlink
    (files : Files Path Byte)
    (path : Path) : Files Path Byte :=
  Function.update files path none

/-- `rename` of one file over another. -/
def rename
    (files : Files Path Byte)
    (source target : Path) : Files Path Byte :=
  Function.update (files.unlink source) target (files source)

variable
  {files : Files Path Byte}
  {path other : Path}

@[simp] theorem truncate_of_ne (apart : other ≠ path) :
    files.truncate path other = files other :=
  Function.update_of_ne apart _ _

@[simp] theorem append_of_ne
    (apart : other ≠ path)
    (bytes : List Byte) :
    files.append path bytes other = files other :=
  Function.update_of_ne apart _ _

@[simp] theorem unlink_of_ne (apart : other ≠ path) :
    files.unlink path other = files other :=
  Function.update_of_ne apart _ _

@[simp] theorem append_truncate_self (bytes : List Byte) :
    (files.truncate path).append path bytes path = some bytes := by
  simp [truncate, append]

@[simp] theorem rename_target (source target : Path) :
    files.rename source target target = files source :=
  Function.update_self _ _ _

end Files
end CLib
