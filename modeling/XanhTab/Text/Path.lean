import Mathlib.Data.List.Basic

/-!
# Paths

Unix paths as the standard library takes them apart.  Repeated separators and
components that stand for the directory itself are left out.
-/

namespace XanhTab.Path

inductive Component
  | rootDir
  | curDir
  | parentDir
  | normal (name : List Char)
  deriving DecidableEq, Repr

/-- `Path::is_absolute`. -/
def isAbsolute (path : List Char) : Bool :=
  path.head? == some '/'

/-- A part between separators, unless it is left out. -/
def component (part : List Char) : Option Component :=
  if part = [] ∨ part = ['.'] then none
  else if part = ['.', '.'] then some .parentDir
  else some (.normal part)

/-- What stands before the parts: the root, or a directory that begins a relative path. -/
def start (path : List Char) : List Component :=
  if isAbsolute path then [.rootDir]
  else if (path.splitOn '/').head? = some ['.'] then [.curDir]
  else []

/-- `Path::components`. -/
def components (path : List Char) : List Component :=
  start path ++ (path.splitOn '/').filterMap component

/-- `Path::starts_with`. -/
def startsWith (path base : List Char) : Bool :=
  (components base).isPrefixOf (components path)

/-- `Path::file_name`. -/
def fileName (path : List Char) : Option (List Char) :=
  match (components path).getLast? with
  | some (.normal name) => some name
  | _ => none

/-- What stands before the last dot of a name, if anything does. -/
def stem (name : List Char) : List Char :=
  let before := (name.reverse.dropWhile (· ≠ '.')).tail.reverse
  if before = [] then name else before

/-- `Path::with_extension`, on the name of the file. -/
def withExtension (extension name : List Char) : List Char :=
  stem name ++ '.' :: extension

/-- `Path::file_stem`. -/
def fileStem (path : List Char) : Option (List Char) :=
  (fileName path).map stem

end XanhTab.Path
