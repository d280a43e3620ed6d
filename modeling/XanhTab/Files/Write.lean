import Mathlib.Logic.Function.Basic
import XanhTab.Files.Links

/-!
# Writes to a disk

What the commands of a shell script do to a disk, one entry at a time.  A command
that fails has made some of its writes.
-/

namespace XanhTab.Disk

universe u

variable {C : Type u}

/-- How a command reaches the entry that it writes. -/
inductive Way
  /-- What the path leads to; a link that leads nowhere makes a new file there. -/
  | opened
  /-- What the path leads to; a link that leads nowhere is refused. -/
  | used
  /-- The last name is not followed. -/
  | itself
  /-- What the path leads to is read, and its successor is renamed to the path itself. -/
  | renamed
  /-- The entry of this name in the directory that the path leads to, else the path itself. -/
  | into (name : String)
  deriving DecidableEq, Repr

/-- What is seen decides whether the write fails, and what it leaves. -/
structure Write (C : Type u) where
  path : Path
  way : Way
  result : Option (Entry C) → Option (Option (Entry C))

/-- The writes of a command, which it chooses when it starts. -/
abbrev Command (C : Type u) := Files C → List (Write C)

namespace Write

variable (write : Write C) (files : Files C)

/-- The place that is written. -/
def place : Option Path :=
  match write.way with
  | .opened => resolve files write.path
  | .used =>
      if isLink files write.path && !present files write.path then none
      else resolve files write.path
  | .itself => parentPlace files write.path
  | .renamed => parentPlace files write.path
  | .into name =>
      if isDir files write.path then (resolve files write.path).map (· ++ [name])
      else parentPlace files write.path

/-- The entry that the result depends on. -/
def seen (place : Path) : Option (Entry C) :=
  match write.way with
  | .renamed => find files write.path
  | _ => files place

/-- The system keeps directories, and a new entry needs one. -/
def fits (place : Path) (entry : Option (Entry C)) : Bool :=
  ((files place).all fun old => !old.isDirectory || entry.any Entry.isDirectory) &&
    (entry.isNone || place = [] || (files place.dropLast).any Entry.isDirectory)

def apply : Option (Files C) :=
  match write.place files with
  | none => none
  | some place =>
      match write.result (write.seen files place) with
      | none => none
      | some entry =>
          if fits files place entry then some (Function.update files place entry) else none

end Write

/-! ## Commands -/

/-- The directories above a path, but for the root. -/
def ancestors (path : Path) : List Path :=
  path.dropLast.inits.tail

/-- Who owns new entries unless a command says otherwise. -/
abbrev rootUser : Nat × Nat :=
  (0, 0)

/-- A directory on the way to another one. -/
def makeParent (path : Path) : Write C where
  path := path
  way := .used
  result
    | none => some (some ⟨.directory, 0o755, 0, 0⟩)
    | some entry => if entry.isDirectory then some (some entry) else none

/-- `install -d` at the directory itself. -/
def setDirectory (mode : Nat) (owner : Option (Nat × Nat)) (path : Path) : Write C where
  path := path
  way := .used
  result
    | none => some (some ⟨.directory, mode, (owner.getD rootUser).1, (owner.getD rootUser).2⟩)
    | some entry =>
        if entry.isDirectory then
          let kept := (entry.attributes.owner, entry.attributes.group)
          some (some ⟨.directory, mode, (owner.getD kept).1, (owner.getD kept).2⟩)
        else none

/-- `install -d -m mode [-o owner -g group] path` -/
def installDirectory (mode : Nat) (owner : Option (Nat × Nat)) (path : Path) : List (Write C) :=
  (ancestors path).map makeParent ++ [setDirectory mode owner path]

/-- `install -m mode [-o owner -g group] source path`, for a source of this name. -/
def installFile (mode : Nat) (owner : Nat × Nat) (source : String) (content : C) (path : Path) :
    Write C where
  path := path
  way := .into source
  result
    | none => some (some ⟨.file content, mode, owner.1, owner.2⟩)
    | some entry =>
        if entry.isDirectory then none else some (some ⟨.file content, mode, owner.1, owner.2⟩)

/-- A part of a tree that is copied.  The trees have no links. -/
inductive Item (C : Type u)
  | directory (attributes : Attributes)
  | file (content : C) (attributes : Attributes)

/-- `cp -a` of one part of a tree. -/
def copyItem (path : Path) : Item C → Write C
  | .directory attributes =>
      { path
        way := .itself
        result
          | none => some (some ⟨.directory, attributes⟩)
          | some entry => if entry.isDirectory then some (some ⟨.directory, attributes⟩) else none }
  | .file content attributes =>
      { path
        way := .used
        result
          | none => some (some ⟨.file content, attributes⟩)
          | some entry =>
              if entry.isDirectory then none else some (some ⟨.file content, attributes⟩) }

/-- A tree with the attributes of its root and what lies below, in some order. -/
structure Tree (C : Type u) where
  attributes : Attributes
  items : List (Path × Item C)

/-- `cp -a tree/. path/`; the root gets its attributes last. -/
def copyTree (tree : Tree C) (path : Path) : List (Write C) :=
  (tree.items.map fun (rest, item) => copyItem (path ++ rest) item) ++
    [{ path
       way := .used
       result
         | none => some (some ⟨.directory, tree.attributes⟩)
         | some entry =>
             if entry.isDirectory then some (some ⟨.directory, tree.attributes⟩) else none }]

/-- `chown owner:group path` -/
def chown (owner : Nat × Nat) (path : Path) : Write C where
  path := path
  way := .used
  result := Option.map fun entry =>
    some { entry with attributes := ⟨entry.attributes.mode, owner.1, owner.2⟩ }

/-- `chown -R` at one of the entries that it finds; links are not followed. -/
def chownFound (owner : Nat × Nat) (path : Path) : Write C where
  path := path
  way := .itself
  result := Option.map fun entry =>
    some { entry with attributes := ⟨entry.attributes.mode, owner.1, owner.2⟩ }

/-- `chmod mode path` -/
def chmod (mode : Nat) (path : Path) : Write C where
  path := path
  way := .used
  result := Option.map fun entry =>
    some { entry with attributes := ⟨mode, entry.attributes.owner, entry.attributes.group⟩ }

/-- `sed -i`, which puts an edited copy in the place of the file. -/
def edit (change : C → C) (path : Path) : Write C where
  path := path
  way := .renamed
  result
    | some ⟨.file content, attributes⟩ => some (some ⟨.file (change content), attributes⟩)
    | _ => none

/-- The content of a file, which is made with this mode if it is new. -/
def writeFile (mode : Nat) (content : C) (path : Path) : Write C where
  path := path
  way := .opened
  result
    | none => some (some ⟨.file content, mode, 0, 0⟩)
    | some ⟨.file _, attributes⟩ => some (some ⟨.file content, attributes⟩)
    | some _ => none

/-- A new file in the place of an old one, with the attributes of the old one. -/
def replaceFile (content : C) (path : Path) : Write C where
  path := path
  way := .itself
  result
    | none => some (some ⟨.file content, 0o644, 0, 0⟩)
    | some entry =>
        if entry.isDirectory then none else some (some ⟨.file content, entry.attributes⟩)

/-- `unlink` -/
def removeFile (path : Path) : Write C where
  path := path
  way := .itself
  result := Option.map fun _ => none

/-- A line of `systemd-tmpfiles` for a directory, below the directories above it. -/
def tmpfilesDirectory (mode : Nat) (owner : Nat × Nat) (path : Path) : List (Write C) :=
  (ancestors path).map makeParent ++
    [{ path
       way := .itself
       result
         | none => some (some ⟨.directory, mode, owner.1, owner.2⟩)
         | some entry =>
             if entry.isDirectory then some (some ⟨.directory, mode, owner.1, owner.2⟩)
             else none }]

/-! ## What a write leaves -/

section Apply

variable {write : Write C} {files after : Files C}

theorem Write.apply_eq_some (applied : write.apply files = some after) :
    ∃ place entry, write.place files = some place ∧
      write.result (write.seen files place) = some entry ∧
      fits files place entry = true ∧ after = Function.update files place entry := by
  unfold Write.apply at applied
  cases where? : write.place files with
  | none =>
      rw [where?] at applied
      cases applied
  | some place =>
      rw [where?] at applied
      simp only at applied
      cases result : write.result (write.seen files place) with
      | none =>
          rw [result] at applied
          cases applied
      | some entry =>
          rw [result] at applied
          simp only at applied
          split at applied
          · rename_i fits
            exact ⟨place, entry, rfl, result, fits, (Option.some.inj applied).symm⟩
          · cases applied

theorem Write.fits_directory {place : Path} {entry : Option (Entry C)} {old : Entry C}
    (fits : Write.fits files place entry = true) (there : files place = some old)
    (directory : old.isDirectory = true) : ∃ new, entry = some new ∧ new.isDirectory = true := by
  unfold Write.fits at fits
  rw [Bool.and_eq_true, there, Option.all_some, directory] at fits
  cases entry with
  | none => cases fits.1
  | some new => exact ⟨new, rfl, fits.1⟩

theorem Write.fits_parent {place : Path} {new : Entry C} (fits : Write.fits files place new = true)
    (named : place ≠ []) :
    ∃ parent, files place.dropLast = some parent ∧ parent.isDirectory = true := by
  unfold Write.fits at fits
  rw [Bool.and_eq_true] at fits
  simp only [Option.isNone_some, Bool.false_or, named, decide_false] at fits
  exact (Option.any_eq_true _ _).mp fits.2

/-- A path without links is used where it is. -/
theorem Write.place_of_plain (used : write.way = .used) (plain : Plain files write.path)
    {place : Path} (reached : write.place files = some place) : place = write.path := by
  unfold Write.place at reached
  rw [used] at reached
  simp only at reached
  split at reached
  · cases reached
  · rw [resolve_of_plain plain] at reached
    exact (Option.some.inj reached).symm

theorem mem_installDirectory {mode : Nat} {owner : Option (Nat × Nat)} {path : Path} :
    write ∈ installDirectory mode owner path ↔
      (∃ upper ∈ ancestors path, makeParent upper = write) ∨
        write = setDirectory mode owner path := by
  unfold installDirectory
  rw [List.mem_append, List.mem_map, List.mem_singleton]

theorem prefix_of_mem_ancestors {path upper : Path} (member : upper ∈ ancestors path) :
    upper <+: path :=
  ((List.mem_inits _ _).mp (List.mem_of_mem_tail member)).trans (List.dropLast_prefix path)

/-- A directory on the way is left as it is. -/
theorem makeParent_result {path place : Path} {entry : Option (Entry C)}
    (result : (makeParent path).result (files place) = some entry) :
    ∃ made, entry = some made ∧ made.isDirectory = true ∧
      ∀ old, files place = some old → made = old := by
  unfold makeParent at result
  cases there : files place with
  | none =>
      rw [there] at result
      rw [← Option.some.inj result]
      exact ⟨_, rfl, rfl, fun old found => by cases found⟩
  | some old =>
      rw [there] at result
      simp only at result
      split at result
      · rename_i directory
        rw [← Option.some.inj result]
        exact ⟨old, rfl, directory, fun other found => Option.some.inj found⟩
      · cases result

/-- A directory gets the mode, and keeps its owner. -/
theorem setDirectory_result {mode : Nat} {path place : Path} {entry : Option (Entry C)}
    (result : (setDirectory mode none path).result (files place) = some entry) :
    ∃ made, entry = some made ∧ made.isDirectory = true ∧
      ∀ old, files place = some old →
        made = { old with attributes := ⟨mode, old.attributes.owner, old.attributes.group⟩ } := by
  unfold setDirectory at result
  cases there : files place with
  | none =>
      rw [there] at result
      rw [← Option.some.inj result]
      exact ⟨_, rfl, rfl, fun old found => by cases found⟩
  | some old =>
      rw [there] at result
      simp only at result
      split at result
      · rename_i directory
        rw [← Option.some.inj result]
        refine ⟨_, rfl, rfl, fun other found => ?_⟩
        rw [← Option.some.inj found, Entry.isDirectory_iff.mp directory]
        rfl
      · cases result

end Apply

end XanhTab.Disk
