import XanhTab.Installer.Scope

/-!
# The backup

What the installer has changed before it mutates files, what its backup holds then, and
what its later writes leave of both.
-/

namespace XanhTab.Installer

open Disk

/-! ## The directories above -/

/-- What is above a path that the installer owns, and the root of the backups. -/
def ANCHORS : List Path :=
  (INSTALL_TARGETS ++ RUNTIME_PATHS).map List.dropLast ++ [BACKUP_ROOT]

/-- No link stands at these directories or above them. -/
def Clear (files : Files String) : Prop :=
  ∀ anchor ∈ ANCHORS, Plain files anchor

theorem not_prefix_of_scope {place anchor : Path} (inside : Below SCOPE place)
    (member : anchor ∈ ANCHORS) : ¬ place <+: anchor := by
  have apart : ∀ path ∈ SCOPE, ∀ anchor ∈ ANCHORS, ¬ path <+: anchor := by decide
  rcases inside with ⟨path, listed, start⟩
  exact fun above => apart path listed anchor member (start.trans above)

theorem not_prefix_of_backup {name : String} {rest anchor : Path} (member : anchor ∈ ANCHORS) :
    ¬ BACKUP_ROOT ++ [name] ++ rest <+: anchor := by
  have only : ∀ anchor ∈ ANCHORS, BACKUP_ROOT <+: anchor → anchor = BACKUP_ROOT := by decide
  intro above
  rw [List.append_assoc] at above
  rw [only anchor member ((List.prefix_append _ _).trans above)] at above
  have short := above.length_le
  rw [List.length_append, List.length_append, List.length_singleton] at short
  omega

namespace Clear

variable {files after : Files String}

theorem of_agree (clear : Clear files)
    (same : ∀ anchor ∈ ANCHORS, ∀ part, part <+: anchor → after part = files part) :
    Clear after := by
  intro anchor member part within
  unfold linkAt
  rw [same anchor member part within]
  exact clear anchor member part within

theorem update (clear : Clear files) {place : Path} {entry : Option (Entry String)}
    (harmless : (∀ anchor ∈ ANCHORS, ¬ place <+: anchor) ∨ entry.bind Entry.target = none) :
    Clear (Function.update files place entry) := by
  intro anchor member part within
  unfold linkAt
  by_cases same : part = place
  · subst same
    rw [Function.update_self]
    rcases harmless with apart | unlinked
    · exact absurd within (apart anchor member)
    · exact unlinked
  · rw [Function.update_of_ne same]
    exact clear anchor member part within

theorem above (clear : Clear files) {path : Path} (owned : path ∈ INSTALL_TARGETS ++ RUNTIME_PATHS) :
    Plain files path.dropLast :=
  clear _ (List.mem_append_left _ (List.mem_map_of_mem owned))

theorem backupRoot (clear : Clear files) : Plain files BACKUP_ROOT :=
  clear _ (List.mem_append_right _ (List.mem_singleton_self _))

end Clear

/-! ## Before files are mutated -/

/-- Beside the backups, all is as it was. -/
structure Intact (initial files : Files String) : Prop where
  clear : Clear files
  grown : Extends files initial
  kept : ∀ place entry, ¬ BACKUP_ROOT <+: place → initial place = some entry →
    files place = some entry
  scope : ∀ place, Below SCOPE place → files place = initial place

/-- Nothing has been made in the root of the backups. -/
def Unopened (initial files : Files String) : Prop :=
  ∀ place, BACKUP_ROOT <+: place → BACKUP_ROOT ≠ place → files place = initial place

theorem Intact.refl {files : Files String} (clear : Clear files) : Intact files files where
  clear := clear
  grown := fun _ entry there => ⟨entry, there, rfl⟩
  kept := fun _ _ _ there => there
  scope := fun _ _ => rfl

theorem not_scope_of_prefix {place : Path} (above : place <+: BACKUP_ROOT) :
    ¬ Below SCOPE place :=
  fun inside => not_prefix_of_scope inside (List.mem_append_right _ (List.mem_singleton_self _)) above

/-- One write of `install -d` at the root of the backups. -/
theorem Intact.install {initial files after : Files String} (intact : Intact initial files)
    (unopened : Unopened initial files) {write : Write String}
    (member : write ∈ installDirectory 0o700 none BACKUP_ROOT)
    (applied : write.apply files = some after) : Intact initial after ∧ Unopened initial after := by
  rcases Write.apply_eq_some applied with ⟨place, entry, reached, result, fits, rfl⟩
  have shape : write.path <+: BACKUP_ROOT ∧ place = write.path ∧ ∃ made, entry = some made ∧
      made.isDirectory = true ∧ ∀ old, files place = some old →
        made.kind = old.kind ∧ (place = BACKUP_ROOT ∨ made = old) := by
    rcases mem_installDirectory.mp member with ⟨upper, above, rfl⟩ | rfl
    · have within := prefix_of_mem_ancestors above
      have same := Write.place_of_plain rfl (intact.clear.backupRoot.of_prefix within) reached
      rcases makeParent_result result with ⟨made, written, directory, kept⟩
      refine ⟨within, same, made, written, directory, fun old there => ?_⟩
      rw [kept old there]
      exact ⟨rfl, .inr rfl⟩
    · have same := Write.place_of_plain rfl intact.clear.backupRoot reached
      rcases setDirectory_result result with ⟨made, written, directory, kept⟩
      refine ⟨List.prefix_rfl, same, made, written, directory, fun old there => ?_⟩
      rw [kept old there]
      exact ⟨rfl, .inl same⟩
  rcases shape with ⟨within, rfl, made, rfl, directory, old⟩
  have apart : ∀ other, other ≠ write.path → Function.update files write.path (some made) other =
      files other := fun other different => Function.update_of_ne different _ _
  refine ⟨⟨?_, ?_, ?_, ?_⟩, ?_⟩
  · exact intact.clear.update (.inr (Entry.target_of_isDirectory directory))
  · intro other entry there
    by_cases same : other = write.path
    · subst same
      rcases intact.grown _ entry there with ⟨kept, holds, kind⟩
      rw [Function.update_self]
      exact ⟨made, rfl, (old kept holds).1.trans kind⟩
    · rw [apart other same]
      exact intact.grown other entry there
  · intro other entry outside there
    have holds := intact.kept other entry outside there
    by_cases same : other = write.path
    · subst same
      rw [Function.update_self]
      rcases (old entry holds).2 with root | equal
      · rw [root] at outside
        exact absurd List.prefix_rfl outside
      · rw [equal]
    · rw [apart other same]
      exact holds
  · intro other inside
    rw [apart other fun same => not_scope_of_prefix within (same ▸ inside)]
    exact intact.scope other inside
  · intro other below strict
    have different : other ≠ write.path := by
      rintro rfl
      exact strict (below.eq_of_length_le within.length_le)
    rw [apart other different]
    exact unopened other below strict

/-! ## The backup -/

section Backup

variable (initial : Files String) (name : String)

/-- A target that the installer found is in the backup with what is below and above it,
except for the targets that are left, and all in the backup is as it was found. -/
structure Backup (left : List Path) (files : Files String) : Prop where
  absent : initial (BACKUP_ROOT ++ [name]) = none
  root : files (BACKUP_ROOT ++ [name]) = some ⟨.directory, 0o700, 0, 0⟩
  copies : ∀ target ∈ INSTALL_TARGETS, target ∉ left → present initial target = true →
    ∀ path, path ≠ [] → (path <+: target ∨ target <+: path) →
      files (BACKUP_ROOT ++ [name] ++ path) = initial path
  old : ∀ path entry, path ≠ [] → files (BACKUP_ROOT ++ [name] ++ path) = some entry →
    initial path = some entry

end Backup

section Keeps

variable {initial files after : Files String} {name : String} {left : List Path}

theorem Backup.frame (backup : Backup initial name left files)
    (same : ∀ place, BACKUP_ROOT <+: place → after place = files place) :
    Backup initial name left after where
  absent := backup.absent
  root := by
    rw [same _ (List.prefix_append _ _)]
    exact backup.root
  copies := by
    intro target owned done there path named near
    rw [same _ ((List.prefix_append _ _).trans (List.prefix_append _ _))]
    exact backup.copies target owned done there path named near
  old := by
    intro path entry named
    rw [same _ ((List.prefix_append _ _).trans (List.prefix_append _ _))]
    exact backup.old path entry named

/-- The directory that `mktemp` makes holds nothing. -/
theorem backup_of_made {machine : FileSystem String} (intact : Intact machine.files files)
    (unopened : Unopened machine.files files)
    (made : makeBackupDir files (BACKUP_ROOT ++ [name]) = some after) :
    Intact machine.files after ∧ Backup machine.files name INSTALL_TARGETS after := by
  have plain : Plain files (BACKUP_ROOT ++ [name]).dropLast := by
    rw [List.dropLast_concat]
    exact intact.clear.backupRoot
  unfold makeBackupDir at made
  rw [parentPlace_of_plain plain] at made
  simp only at made
  split at made
  · rename_i free
    have inside := List.prefix_append BACKUP_ROOT [name]
    have apart : ∀ rest, BACKUP_ROOT ≠ BACKUP_ROOT ++ [name] ++ rest := by
      intro rest same
      have lengths := congrArg List.length same
      rw [List.length_append, List.length_append, List.length_singleton] at lengths
      omega
    have absent : machine.files (BACKUP_ROOT ++ [name]) = none := by
      rw [← unopened _ inside (by simp)]
      exact free.1
    rw [← Option.some.inj made]
    refine ⟨⟨?_, ?_, ?_, ?_⟩, absent, Function.update_self _ _ _, ?_, ?_⟩
    · exact intact.clear.update (.inr rfl)
    · intro place entry there
      have different : place ≠ BACKUP_ROOT ++ [name] := by
        rintro rfl
        rw [absent] at there
        cases there
      rw [Function.update_of_ne different]
      exact intact.grown place entry there
    · intro place entry outside there
      have different : place ≠ BACKUP_ROOT ++ [name] := by
        rintro rfl
        exact outside inside
      rw [Function.update_of_ne different]
      exact intact.kept place entry outside there
    · intro place scope
      have different : place ≠ BACKUP_ROOT ++ [name] := by
        rintro rfl
        exact not_backup_of_scope scope inside
      rw [Function.update_of_ne different]
      exact intact.scope place scope
    · intro target owned left
      exact absurd owned left
    · intro path entry named there
      have different : BACKUP_ROOT ++ [name] ++ path ≠ BACKUP_ROOT ++ [name] := by simpa using named
      rw [Function.update_of_ne different,
        unopened _ (inside.trans (List.prefix_append _ _)) (apart path),
        machine.none_below (List.prefix_append _ _) absent] at there
      cases there
  · cases made

/-! ## One target -/

theorem scope_of_target {target : Path} (owned : target ∈ INSTALL_TARGETS) {place : Path}
    (below : target <+: place) : Below SCOPE place :=
  ⟨target, List.mem_append_left _ (List.mem_append_left _ owned), below⟩

/-- What is copied for a target that was there is what was found. -/
theorem source_of_target {machine : FileSystem String} (intact : Intact machine.files files)
    {target : Path} (owned : target ∈ INSTALL_TARGETS) (there : machine.files target ≠ none)
    {path : Path} (near : path <+: target ∨ target <+: path) :
    (source files target path).bind files = machine.files path := by
  have plain := intact.clear.above (List.mem_append_left RUNTIME_PATHS owned)
  unfold source
  by_cases below : target <+: path
  · rw [if_pos below, parentPlace_of_plain plain]
    rcases below with ⟨rest, rfl⟩
    rw [Option.map_some, List.drop_left, Option.bind_some]
    exact intact.scope _ (scope_of_target owned (List.prefix_append _ _))
  · have above := near.resolve_right below
    have strict : path ≠ target := by
      rintro rfl
      exact below List.prefix_rfl
    rcases Option.ne_none_iff_exists'.mp there with ⟨entry, there⟩
    rcases machine.directory_above above strict there with ⟨parent, holds, _⟩
    have outside : ¬ BACKUP_ROOT <+: path := fun within =>
      not_backup_of_scope (scope_of_target owned List.prefix_rfl) (within.trans above)
    rw [if_neg below, resolve_of_plain (plain.of_prefix (prefix_dropLast above strict)),
      Option.bind_some, holds]
    exact intact.kept path parent outside holds

theorem copyParents_of_outside {backup target place : Path} (outside : ¬ backup <+: place) :
    copyParents files backup target place = files place := by
  unfold copyParents
  rw [if_neg fun inside => outside inside.1]

theorem copyParents_inside {backup target path : Path} (named : path ≠ [])
    (near : path <+: target ∨ target <+: path) :
    copyParents files backup target (backup ++ path) =
      ((source files target path).bind files).or (files (backup ++ path)) := by
  unfold copyParents
  simp only [List.drop_left]
  rw [if_pos ⟨List.prefix_append _ _, named, near⟩]
  cases (source files target path).bind files <;> rfl

theorem copyParents_far {backup target path : Path}
    (far : path = [] ∨ ¬ (path <+: target ∨ target <+: path)) :
    copyParents files backup target (backup ++ path) = files (backup ++ path) := by
  unfold copyParents
  simp only [List.drop_left]
  rw [if_neg]
  rintro ⟨_, named, near⟩
  exact far.elim named (· near)

theorem there_of_present {machine : FileSystem String} (intact : Intact machine.files files)
    {target : Path} (owned : target ∈ INSTALL_TARGETS) (there : present files target = true) :
    machine.files target ≠ none := by
  intro absent
  have plain := intact.clear.above (List.mem_append_left RUNTIME_PATHS owned)
  have gone : files target = none := by
    rw [intact.scope target (scope_of_target owned List.prefix_rfl)]
    exact absent
  have unlinked : linkAt files target = none := by
    unfold linkAt
    rw [gone]
    rfl
  unfold present at there
  rw [find_of_plain (plain_of_dropLast plain unlinked), gone] at there
  cases there

theorem Backup.plain (backup : Backup initial name left files) (clear : Clear files) :
    Plain files (BACKUP_ROOT ++ [name]) := by
  refine plain_of_dropLast ?_ ?_
  · rw [List.dropLast_concat]
    exact clear.backupRoot
  · unfold linkAt
    rw [backup.root]
    rfl

/-- What lies outside the backup is not changed by a copy to it. -/
theorem Intact.copyParents {machine : FileSystem String} (intact : Intact machine.files files)
    (absent : machine.files (BACKUP_ROOT ++ [name]) = none) (target : Path) :
    Intact machine.files (copyParents files (BACKUP_ROOT ++ [name]) target) where
  clear := by
    refine intact.clear.of_agree fun anchor member part within => ?_
    refine copyParents_of_outside fun inside => ?_
    have apart : ¬ BACKUP_ROOT ++ [name] ++ [] <+: anchor := not_prefix_of_backup member
    rw [List.append_nil] at apart
    exact apart (inside.trans within)
  grown := by
    intro place entry there
    have outside : ¬ BACKUP_ROOT ++ [name] <+: place := by
      intro inside
      rw [machine.none_below inside absent] at there
      cases there
    rw [copyParents_of_outside outside]
    exact intact.grown place entry there
  kept := by
    intro place entry outside there
    rw [copyParents_of_outside fun inside => outside ((List.prefix_append _ _).trans inside)]
    exact intact.kept place entry outside there
  scope := by
    intro place inside
    rw [copyParents_of_outside fun within =>
      not_backup_of_scope inside ((List.prefix_append _ _).trans within)]
    exact intact.scope place inside

/-- A target that was there is copied. -/
theorem Backup.copyParents {machine : FileSystem String} (intact : Intact machine.files files)
    {target : Path} (backup : Backup machine.files name (target :: left) files)
    (owned : target ∈ INSTALL_TARGETS) (there : machine.files target ≠ none) :
    Backup machine.files name left
      (Installer.copyParents files (BACKUP_ROOT ++ [name]) target) := by
  have inside : ∀ path, path ≠ [] → (path <+: target ∨ target <+: path) →
      Installer.copyParents files (BACKUP_ROOT ++ [name]) target (BACKUP_ROOT ++ [name] ++ path) =
        machine.files path := by
    intro path named near
    rw [copyParents_inside named near, source_of_target intact owned there near]
    cases found : machine.files path with
    | some entry => rfl
    | none =>
        rw [Option.none_or]
        cases held : files (BACKUP_ROOT ++ [name] ++ path) with
        | none => rfl
        | some entry =>
            rw [backup.old path entry named held] at found
            cases found
  refine ⟨backup.absent, ?_, ?_, ?_⟩
  · have far : Installer.copyParents files (BACKUP_ROOT ++ [name]) target
        (BACKUP_ROOT ++ [name] ++ []) = files (BACKUP_ROOT ++ [name] ++ []) :=
      copyParents_far (.inl rfl)
    rw [List.append_nil] at far
    rw [far]
    exact backup.root
  · intro other listed done held path named near
    by_cases close : path <+: target ∨ target <+: path
    · exact inside path named close
    · rw [copyParents_far (.inr close)]
      have different : other ≠ target := by
        rintro rfl
        exact close near
      exact backup.copies other listed (List.not_mem_cons_of_ne_of_not_mem different done) held path
        named near
  · intro path entry named held
    by_cases close : path <+: target ∨ target <+: path
    · rw [inside path named close] at held
      exact held
    · rw [copyParents_far (.inr close)] at held
      exact backup.old path entry named held

/-- One turn of the backup loop. -/
theorem Backup.step {machine : FileSystem String} (intact : Intact machine.files files)
    {target : Path} (backup : Backup machine.files name (target :: left) files)
    (owned : target ∈ INSTALL_TARGETS)
    (copied : backUp (BACKUP_ROOT ++ [name]) files target = some after) :
    Intact machine.files after ∧ Backup machine.files name left after := by
  unfold backUp at copied
  split at copied
  · rename_i tested
    rw [resolve_of_plain (backup.plain intact.clear)] at copied
    rw [← Option.some.inj copied]
    exact ⟨intact.copyParents backup.absent target,
      backup.copyParents intact owned (there_of_present intact owned tested)⟩
  · rename_i tested
    rw [← Option.some.inj copied]
    refine ⟨intact, backup.absent, backup.root, ?_, backup.old⟩
    intro other listed done held
    have different : other ≠ target := by
      rintro rfl
      exact tested (intact.grown.present held)
    exact backup.copies other listed (List.not_mem_cons_of_ne_of_not_mem different done) held

end Keeps

end XanhTab.Installer
