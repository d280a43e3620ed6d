import Mathlib.Data.List.Infix
import Mathlib.Data.Option.Basic

/-!
# Disks with symbolic links

A disk has an entry at some of its paths, with a mode and an owner.  A command
names a path and works on the entry that the path leads to once its links are
followed.
-/

namespace XanhTab.Disk

universe u

/-- The names that lead to a place from the root. -/
abbrev Path := List String

structure Attributes where
  mode : Nat
  owner : Nat
  group : Nat
  deriving DecidableEq, Repr

inductive Kind (C : Type u)
  | file (content : C)
  | directory
  /-- A symbolic link, with the path from the root that it stands for. -/
  | link (target : Path)
  deriving DecidableEq, Repr

structure Entry (C : Type u) where
  kind : Kind C
  attributes : Attributes
  deriving DecidableEq, Repr

abbrev Files (C : Type u) := Path → Option (Entry C)

variable {C : Type u}

namespace Entry

def isDirectory (entry : Entry C) : Bool :=
  match entry.kind with
  | .directory => true
  | _ => false

def target (entry : Entry C) : Option Path :=
  match entry.kind with
  | .link target => some target
  | _ => none

theorem target_congr {first second : Entry C} (same : first.kind = second.kind) :
    first.target = second.target := by
  unfold target
  rw [same]

theorem isDirectory_iff {entry : Entry C} : entry.isDirectory = true ↔ entry.kind = .directory := by
  rcases entry with ⟨kind, attributes⟩
  cases kind with
  | file content => exact iff_of_false Bool.false_ne_true fun same => by cases same
  | directory => exact iff_of_true rfl rfl
  | link target => exact iff_of_false Bool.false_ne_true fun same => by cases same

theorem target_of_isDirectory {entry : Entry C} (directory : entry.isDirectory = true) :
    entry.target = none := by
  rcases entry with ⟨kind, attributes⟩
  cases kind with
  | file content => cases directory
  | directory => rfl
  | link target => cases directory

end Entry

/-- The files of a machine: the root is a directory, and so is what holds an entry. -/
structure FileSystem (C : Type u) where
  files : Files C
  root : ∃ entry, files [] = some entry ∧ entry.isDirectory = true
  parents : ∀ place name entry, files (place ++ [name]) = some entry →
    ∃ parent, files place = some parent ∧ parent.isDirectory = true

/-! ## Links -/

/-- Where the link at a place leads, if a link is there. -/
def linkAt (files : Files C) (place : Path) : Option Path :=
  (files place).bind Entry.target

/-- The first link on the way, with the names that are left after it. -/
def firstLink (files : Files C) (place : Path) : Path → Option (Path × Path)
  | [] => none
  | name :: rest =>
      match linkAt files (place ++ [name]) with
      | some target => some (target, rest)
      | none => firstLink files (place ++ [name]) rest

/-- The place that a path leads to through fewer links than the bound. -/
def follow (files : Files C) : Nat → Path → Option Path
  | 0, _ => none
  | bound + 1, path =>
      match firstLink files [] path with
      | none => some path
      | some (target, rest) => follow files bound (target ++ rest)

/-- The place that a path leads to; at most forty links are followed. -/
def resolve (files : Files C) (path : Path) : Option Path :=
  follow files 41 path

/-- The place of the last name itself, which is not followed. -/
def parentPlace (files : Files C) (path : Path) : Option Path :=
  match path.getLast? with
  | none => some []
  | some name => (resolve files path.dropLast).map (· ++ [name])

/-- What a path leads to. -/
def find (files : Files C) (path : Path) : Option (Entry C) :=
  (resolve files path).bind files

/-- `-e` -/
def present (files : Files C) (path : Path) : Bool :=
  (find files path).isSome

/-- `-d` -/
def isDir (files : Files C) (path : Path) : Bool :=
  (find files path).any Entry.isDirectory

/-- `-L` -/
def isLink (files : Files C) (path : Path) : Bool :=
  ((parentPlace files path).bind (linkAt files)).isSome

/-! ## Paths without links -/

/-- No link stands on the way. -/
def Plain (files : Files C) (path : Path) : Prop :=
  ∀ part, part <+: path → linkAt files part = none

theorem Plain.of_prefix {files : Files C} {upper path : Path} (plain : Plain files path)
    (above : upper <+: path) : Plain files upper :=
  fun part within => plain part (within.trans above)

/-- What is strictly above a path is its parent or above that. -/
theorem prefix_dropLast {upper path : Path} (above : upper <+: path) (strict : upper ≠ path) :
    upper <+: path.dropLast := by
  rcases List.eq_nil_or_concat path with rfl | ⟨initials, last, rfl⟩
  · exact absurd (List.prefix_nil.mp above) strict
  · rw [List.concat_eq_append] at *
    rw [List.dropLast_concat]
    exact (List.prefix_concat_iff.mp above).resolve_left strict

/-- A path is plain if what is above it is and it is no link itself. -/
theorem plain_of_dropLast {files : Files C} {path : Path} (above : Plain files path.dropLast)
    (last : linkAt files path = none) : Plain files path := by
  intro part within
  rcases List.eq_nil_or_concat path with rfl | ⟨upper, name, rfl⟩
  · rw [List.prefix_nil.mp within]
    exact last
  · rw [List.concat_eq_append] at *
    rw [List.dropLast_concat] at above
    rcases List.prefix_concat_iff.mp within with whole | within
    · rw [whole]
      exact last
    · exact above part within

theorem firstLink_eq_none {files : Files C} {place path : Path} :
    firstLink files place path = none ↔
      ∀ part, part ≠ [] → part <+: path → linkAt files (place ++ part) = none := by
  induction path generalizing place with
  | nil =>
      refine iff_of_true rfl fun part named within => ?_
      exact absurd (List.prefix_nil.mp within) named
  | cons name rest ih =>
      unfold firstLink
      cases link : linkAt files (place ++ [name]) with
      | some target =>
          refine iff_of_false (by simp) fun none => ?_
          have same := none [name] (by simp) (List.prefix_append [name] rest)
          rw [link] at same
          cases same
      | none =>
          refine ih.trans ⟨fun below part named within => ?_, fun below part named within => ?_⟩
          · rcases part with _ | ⟨first, part⟩
            · exact absurd rfl named
            · rcases List.cons_prefix_cons.mp within with ⟨rfl, inner⟩
              rcases part with _ | ⟨second, part⟩
              · exact link
              · simpa using below (second :: part) (by simp) inner
          · simpa using below (name :: part) (by simp) (List.cons_prefix_cons.mpr ⟨rfl, within⟩)

theorem firstLink_eq_some {files : Files C} {place path target rest : Path}
    (first : firstLink files place path = some (target, rest)) :
    ∃ part, path = part ++ rest ∧ part ≠ [] ∧ linkAt files (place ++ part) = some target := by
  induction path generalizing place with
  | nil => cases first
  | cons name names ih =>
      unfold firstLink at first
      cases link : linkAt files (place ++ [name]) with
      | some found =>
          rw [link] at first
          rcases Prod.mk.inj (Option.some.inj first) with ⟨rfl, rfl⟩
          exact ⟨[name], rfl, by simp, link⟩
      | none =>
          rw [link] at first
          rcases ih first with ⟨part, rfl, named, there⟩
          refine ⟨name :: part, rfl, by simp, ?_⟩
          simpa using there

theorem resolve_of_plain {files : Files C} {path : Path} (plain : Plain files path) :
    resolve files path = some path := by
  have none : firstLink files [] path = none :=
    firstLink_eq_none.mpr fun part _ within => plain part within
  unfold resolve follow
  rw [none]

theorem parentPlace_of_plain {files : Files C} {path : Path}
    (plain : Plain files path.dropLast) : parentPlace files path = some path := by
  unfold parentPlace
  rcases List.eq_nil_or_concat path with rfl | ⟨upper, name, rfl⟩
  · rfl
  · rw [List.concat_eq_append] at *
    rw [List.dropLast_concat] at plain
    rw [List.getLast?_concat, List.dropLast_concat, resolve_of_plain plain]
    rfl

theorem find_of_plain {files : Files C} {path : Path} (plain : Plain files path) :
    find files path = files path := by
  unfold find
  rw [resolve_of_plain plain]
  rfl

/-- Below directories without links, the tests of a removal hold of all that is there. -/
theorem tested_of_there {files : Files C} {path : Path} {entry : Entry C}
    (plain : Plain files path.dropLast) (there : files path = some entry) :
    present files path = true ∨ isLink files path = true := by
  cases link : linkAt files path with
  | none =>
      left
      unfold present
      rw [find_of_plain (plain_of_dropLast plain link), there]
      rfl
  | some target =>
      right
      unfold isLink
      rw [parentPlace_of_plain plain, Option.bind_some, link]
      rfl

/-! ## Growth -/

namespace FileSystem

variable (system : FileSystem C)

/-- What is above an entry is a directory. -/
theorem directory_above {upper path : Path} {entry : Entry C} (above : upper <+: path)
    (apart : upper ≠ path) (there : system.files path = some entry) :
    ∃ parent, system.files upper = some parent ∧ parent.isDirectory = true := by
  rcases above with ⟨rest, rfl⟩
  induction rest using List.reverseRecOn generalizing entry with
  | nil => exact absurd (List.append_nil upper).symm apart
  | append_singleton rest name ih =>
      rw [← List.append_assoc] at there
      have parent := system.parents (upper ++ rest) name entry there
      rcases eq_or_ne rest [] with rfl | named
      · rwa [List.append_nil] at parent
      · rcases parent with ⟨parent, there, _⟩
        exact ih (by simpa using named) there

/-- Nothing lies below a place where nothing is. -/
theorem none_below {upper path : Path} (above : upper <+: path)
    (absent : system.files upper = none) : system.files path = none := by
  rcases eq_or_ne upper path with rfl | apart
  · exact absent
  · cases there : system.files path with
    | none => rfl
    | some entry =>
        rcases system.directory_above above apart there with ⟨parent, found, _⟩
        rw [absent] at found
        cases found

end FileSystem

/-- Every entry is still there, perhaps with other attributes. -/
def Extends (later earlier : Files C) : Prop :=
  ∀ place entry, earlier place = some entry →
    ∃ kept, later place = some kept ∧ kept.kind = entry.kind

section Extends

variable {system : FileSystem C} {later : Files C}

theorem Extends.linkAt_eq (grown : Extends later system.files) {place : Path} {entry : Entry C}
    (there : system.files place = some entry) : linkAt later place = entry.target := by
  rcases grown place entry there with ⟨kept, holds, same⟩
  unfold linkAt
  rw [holds]
  exact Entry.target_congr same

theorem Extends.linkAt_above (grown : Extends later system.files) {upper path : Path}
    {entry : Entry C} (above : upper <+: path) (apart : upper ≠ path)
    (there : system.files path = some entry) : linkAt later upper = none := by
  rcases system.directory_above above apart there with ⟨parent, holds, directory⟩
  rw [grown.linkAt_eq holds]
  exact Entry.target_of_isDirectory directory

theorem Extends.firstLink_eq_some (grown : Extends later system.files) {place path : Path}
    {found : Path × Path} (first : firstLink system.files place path = some found) :
    firstLink later place path = some found := by
  induction path generalizing place with
  | nil => cases first
  | cons name rest ih =>
      unfold firstLink at first ⊢
      cases link : linkAt system.files (place ++ [name]) with
      | some target =>
          rw [link] at first
          rcases Option.bind_eq_some_iff.mp link with ⟨entry, there, leads⟩
          rw [grown.linkAt_eq there, leads]
          exact first
      | none =>
          rw [link] at first
          -- The link is further down, so a directory stands here.
          rcases Disk.firstLink_eq_some first with ⟨part, _, named, there⟩
          rcases Option.bind_eq_some_iff.mp there with ⟨entry, there, _⟩
          rw [grown.linkAt_above (List.prefix_append _ part) (by simpa using named) there]
          exact ih first

/-- A path that leads to an entry leads to the same place when more entries are there. -/
theorem Extends.follow_eq (grown : Extends later system.files) {bound : Nat} {path place : Path}
    {entry : Entry C} (leads : follow system.files bound path = some place)
    (there : system.files place = some entry) : follow later bound path = some place := by
  induction bound generalizing path with
  | zero => cases leads
  | succ bound ih =>
      unfold follow at leads ⊢
      cases first : firstLink system.files [] path with
      | some found =>
          rw [first] at leads
          rw [grown.firstLink_eq_some first]
          exact ih leads
      | none =>
          rw [first] at leads
          rcases Option.some.inj leads with rfl
          have same : firstLink later [] path = none := by
            refine firstLink_eq_none.mpr fun part named within => ?_
            rcases eq_or_ne part path with rfl | apart
            · have unlinked := firstLink_eq_none.mp first part named within
              unfold linkAt at unlinked
              rw [List.nil_append, there] at unlinked
              rw [List.nil_append, grown.linkAt_eq there]
              exact unlinked
            · exact grown.linkAt_above within apart there
          rw [same]

theorem Extends.present (grown : Extends later system.files) {path : Path}
    (there : Disk.present system.files path = true) : Disk.present later path = true := by
  rcases Option.isSome_iff_exists.mp there with ⟨entry, found⟩
  rcases Option.bind_eq_some_iff.mp found with ⟨place, leads, there⟩
  rcases grown place entry there with ⟨kept, holds, _⟩
  unfold Disk.present find resolve
  rw [grown.follow_eq leads there, Option.bind_some, holds]
  rfl

end Extends

end XanhTab.Disk
