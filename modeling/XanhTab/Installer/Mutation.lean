import XanhTab.Installer.Backup

/-!
# Mutated files

The condition on a run of the installer, and what holds of the disk and of the backup
in the states that such a run reaches.
-/

namespace XanhTab.Installer

open Disk

/-- A target that the installer found lies below. -/
def Covered (initial : Files String) (path : Path) : Prop :=
  ∃ target ∈ INSTALL_TARGETS, path <+: target ∧ present initial target = true

/-- What a step of the installer must meet.  When files begin to be mutated, the root has
the mode and the owner of the backup directory, and no target is a link that leads nowhere.
A write follows no link out of the scope, and a shared directory that was found has the
mode that it is given or is in the backup. -/
def Careful (machine : Machine) (state : State) (_ : Unit) : Prop :=
  match state.stage with
  | .backingUp [] =>
      (∀ entry, machine.disk.files [] = some entry → entry.attributes = ⟨0o700, 0, 0⟩) ∧
        ∀ target ∈ INSTALL_TARGETS, machine.disk.files target ≠ none →
          present machine.disk.files target = true
  | .mutating (write :: _) _ =>
      (∀ place, write.place state.files = some place → Below SCOPE place ∨ place = write.path) ∧
        (write.path ∈ SHARED → ∀ entry, machine.disk.files write.path = some entry →
          entry.attributes.mode = 0o755 ∨ Covered machine.disk.files write.path)
  | _ => True

/-- What holds entries is a directory. -/
def Tidy (files : Files String) (path : Path) : Prop :=
  ∀ place entry, path <+: place → path ≠ place → files place = some entry →
    ∃ holder, files path = some holder ∧ holder.isDirectory = true

/-- What the writes leave of the disk and of the backup. -/
structure Mutated (initial : Files String) (name : String) (files : Files String) : Prop where
  clear : Clear files
  backup : Backup initial name [] files
  kept : ∀ place entry, ¬ Below SCOPE place → ¬ BACKUP_ROOT <+: place →
    initial place = some entry → files place = some entry ∨ Covered initial place
  tidy : ∀ target ∈ INSTALL_TARGETS, Tidy files target

section Mutated

variable {initial files after : Files String} {name : String}

theorem Mutated.of_intact {machine : FileSystem String} (intact : Intact machine.files files)
    (backup : Backup machine.files name [] files) : Mutated machine.files name files where
  clear := intact.clear
  backup := backup
  kept := fun place entry _ outside there => .inl (intact.kept place entry outside there)
  tidy := by
    intro target owned place entry below strict there
    rw [intact.scope place (scope_of_target owned below)] at there
    rw [intact.scope target (scope_of_target owned List.prefix_rfl)]
    exact machine.directory_above below strict there

/-- A write outside the backup that makes no link outside the scope, and changes nothing
there that the backup lacks. -/
theorem Mutated.update (mutated : Mutated initial name files) {place : Path}
    {entry : Option (Entry String)} (fits : Write.fits files place entry = true)
    (outside : ¬ BACKUP_ROOT <+: place)
    (harmless : Below SCOPE place ∨ entry.bind Entry.target = none ∧
      ∀ old, initial place = some old → files place = some old →
        entry = some old ∨ Covered initial place) :
    Mutated initial name (Function.update files place entry) where
  clear := mutated.clear.update (harmless.imp (fun inside anchor => not_prefix_of_scope inside)
    And.left)
  backup := by
    refine mutated.backup.frame fun other inside => Function.update_of_ne ?_ _ _
    rintro rfl
    exact outside inside
  kept := by
    intro other old apart beyond there
    rcases mutated.kept other old apart beyond there with holds | covered
    · by_cases same : other = place
      · subst same
        rw [Function.update_self]
        exact (harmless.resolve_left apart).2 old there holds
      · rw [Function.update_of_ne same]
        exact .inl holds
    · exact .inr covered
  tidy := by
    intro target owned other old below strict there
    have parent : ∃ parent, files target = some parent ∧ parent.isDirectory = true := by
      by_cases same : other = place
      · subst same
        rw [Function.update_self] at there
        subst there
        have named : other ≠ [] := by
          rintro rfl
          exact strict (List.prefix_nil.mp below)
        have above := Write.fits_parent fits named
        by_cases direct : target = other.dropLast
        · rw [direct]
          exact above
        · rcases above with ⟨holder, holds, _⟩
          exact mutated.tidy target owned _ holder (prefix_dropLast below strict) direct holds
      · rw [Function.update_of_ne same] at there
        exact mutated.tidy target owned other old below strict there
    rcases parent with ⟨parent, holds, directory⟩
    by_cases same : target = place
    · subst same
      rw [Function.update_self]
      exact Write.fits_directory fits holds directory
    · rw [Function.update_of_ne same]
      exact ⟨parent, holds, directory⟩

/-- A permitted write that meets the condition. -/
theorem Mutated.apply (mutated : Mutated initial name files) {write : Write String}
    (permitted : Permitted write)
    (follows : ∀ place, write.place files = some place →
      Below SCOPE place ∨ place = write.path)
    (shared : write.path ∈ SHARED → ∀ entry, initial write.path = some entry →
      entry.attributes.mode = 0o755 ∨ Covered initial write.path)
    (applied : write.apply files = some after) : Mutated initial name after := by
  rcases Write.apply_eq_some applied with ⟨place, entry, reached, result, fits, rfl⟩
  by_cases inside : Below SCOPE place
  · exact mutated.update fits (not_backup_of_scope inside) (.inl inside)
  rcases (follows place reached).resolve_left inside with rfl
  cases permitted with
  | scope owned => exact absurd owned inside
  | @parent path apart =>
      rcases makeParent_result result with ⟨made, rfl, directory, same⟩
      refine mutated.update fits apart (.inr ⟨Entry.target_of_isDirectory directory, ?_⟩)
      intro old _ there
      rw [same old there]
      exact .inl rfl
  | @shared path member =>
      have apart : ∀ path ∈ SHARED, ¬ BACKUP_ROOT <+: path := by decide
      rcases setDirectory_result result with ⟨made, rfl, directory, same⟩
      refine mutated.update fits (apart path member)
        (.inr ⟨Entry.target_of_isDirectory directory, ?_⟩)
      intro old found there
      refine (shared member old found).imp_left fun mode => ?_
      rw [same old there, ← mode]

end Mutated

/-! ## Reachable states -/

/-- What holds of a state that a careful run reaches. -/
inductive Holds (installation : Installation) (machine : Machine) : State → Prop
  | stopping {rest : List ServiceUnit} {units : Units} :
      Holds installation machine
        ⟨.stopping rest, machine.disk.files, units, machine.units, none, false⟩
  | preparing {writes : List (Write String)} {files : Files String} {units : Units}
      (intact : Intact machine.disk.files files) (unopened : Unopened machine.disk.files files)
      (member : ∀ write ∈ writes, write ∈ installDirectory 0o700 none BACKUP_ROOT) :
      Holds installation machine ⟨.preparing writes, files, units, machine.units, none, false⟩
  | backingUp {left : List Path} {files : Files String} {units : Units}
      (intact : Intact machine.disk.files files)
      (backup : Backup machine.disk.files installation.backupName left files)
      (owned : ∀ target ∈ left, target ∈ INSTALL_TARGETS) :
      Holds installation machine
        ⟨.backingUp left, files, units, machine.units, some installation.backupDir, false⟩
  | mutating {stage : Stage} {files : Files String} {units : Units}
      (mutated : Mutated machine.disk.files installation.backupName files)
      (root : ∀ entry, machine.disk.files [] = some entry → entry.attributes = ⟨0o700, 0, 0⟩)
      (found : ∀ target ∈ INSTALL_TARGETS, machine.disk.files target ≠ none →
        present machine.disk.files target = true)
      (rest : (∃ operations, stage = .activating operations) ∨ ∃ writes commands,
        stage = .mutating writes commands ∧ (∀ write ∈ writes, Permitted write) ∧
          ∀ command ∈ commands, Confined command) :
      Holds installation machine
        ⟨stage, files, units, machine.units, some installation.backupDir, true⟩

theorem Holds.step {installation : Installation} {machine : Machine} {state next : State}
    (clear : Clear machine.disk.files) (holds : Holds installation machine state)
    (careful : Careful machine state ()) (moved : step installation state () = some next) :
    Holds installation machine next := by
  cases holds with
  | @stopping rest units =>
      cases rest with
      | nil =>
          rw [← Option.some.inj moved]
          exact .preparing (.refl clear) (fun _ _ _ => rfl) fun _ member => member
      | cons unit rest =>
          rw [← Option.some.inj moved]
          exact .stopping
  | @preparing writes files units intact unopened member =>
      cases writes with
      | nil =>
          rcases Option.map_eq_some_iff.mp moved with ⟨after, made, rfl⟩
          have kept := backup_of_made intact unopened made
          exact .backingUp kept.1 kept.2 fun _ owned => owned
      | cons write rest =>
          rcases Option.map_eq_some_iff.mp moved with ⟨after, applied, rfl⟩
          have kept := intact.install unopened (member write List.mem_cons_self) applied
          exact .preparing kept.1 kept.2 fun other listed => member other (List.mem_cons_of_mem _ listed)
  | @backingUp left files units intact backup owned =>
      cases left with
      | nil =>
          rw [← Option.some.inj moved]
          refine .mutating (.of_intact intact backup) careful.1 careful.2 (.inr ⟨_, _, rfl, ?_, ?_⟩)
          · exact List.forall_mem_nil _
          · exact confined_mutate installation
      | cons target left =>
          rcases Option.map_eq_some_iff.mp moved with ⟨after, copied, rfl⟩
          have kept := backup.step intact (owned target List.mem_cons_self) copied
          exact .backingUp kept.1 kept.2 fun other listed => owned other (List.mem_cons_of_mem _ listed)
  | @mutating stage files units mutated root found rest =>
      rcases rest with ⟨operations, rfl⟩ | ⟨writes, commands, rfl, permitted, confined⟩
      · cases operations with
        | nil => cases moved
        | cons operation rest =>
            rw [← Option.some.inj moved]
            exact .mutating mutated root found (.inl ⟨rest, rfl⟩)
      · cases writes with
        | cons write writes =>
            rcases Option.map_eq_some_iff.mp moved with ⟨after, applied, rfl⟩
            have kept := mutated.apply (permitted write List.mem_cons_self) careful.1 careful.2 applied
            refine .mutating kept root found (.inr ⟨_, _, rfl, ?_, confined⟩)
            exact fun other listed => permitted other (List.mem_cons_of_mem _ listed)
        | nil =>
            cases commands with
            | nil =>
                rw [← Option.some.inj moved]
                exact .mutating mutated root found (.inl ⟨_, rfl⟩)
            | cons command commands =>
                rw [← Option.some.inj moved]
                refine .mutating mutated root found (.inr ⟨_, _, rfl, ?_, ?_⟩)
                · exact confined command List.mem_cons_self files
                · exact fun other listed => confined other (List.mem_cons_of_mem _ listed)

theorem holds_of_reachable {installation : Installation} {machine : Machine} {state : State}
    (clear : Clear machine.disk.files)
    (reachable : Transition.ReachableUnder (step installation) (Careful machine) (start machine)
      state) : Holds installation machine state := by
  refine reachable.invariant .stopping fun state label next holds careful moved => ?_
  exact holds.step clear careful moved

/-! ## Before files are mutated -/

/-- Files are mutated from here on. -/
def Stage.begun : Stage → Bool
  | .mutating _ _ => true
  | .activating _ => true
  | _ => false

/-- Until files are mutated, every step meets the condition. -/
theorem careful_of_step {installation : Installation} {machine : Machine} {state next : State}
    (moved : step installation state () = some next) (early : next.stage.begun = false) :
    state.stage.begun = false ∧ Careful machine state () := by
  rcases state with ⟨stage, files, units, previous, backupDir, mutated⟩
  cases stage with
  | stopping left => exact ⟨rfl, trivial⟩
  | preparing writes => exact ⟨rfl, trivial⟩
  | backingUp left =>
      cases left with
      | nil =>
          rcases Option.some.inj moved with rfl
          cases early
      | cons target left => exact ⟨rfl, trivial⟩
  | mutating writes commands =>
      cases writes with
      | cons write writes =>
          rcases Option.map_eq_some_iff.mp moved with ⟨after, _, rfl⟩
          cases early
      | nil =>
          cases commands with
          | nil =>
              rcases Option.some.inj moved with rfl
              cases early
          | cons command commands =>
              rcases Option.some.inj moved with rfl
              cases early
  | activating operations =>
      cases operations with
      | nil => cases moved
      | cons operation rest =>
          rcases Option.some.inj moved with rfl
          cases early

theorem careful_of_reachable {installation : Installation} {machine : Machine} {state : State}
    (reachable : Transition.Reachable (step installation) (start machine) state)
    (early : state.stage.begun = false) :
    Transition.ReachableUnder (step installation) (Careful machine) (start machine) state := by
  induction reachable with
  | refl => exact .refl
  | @tail middle _ _ _ _ moved ih =>
      have before : middle.stage.begun = false ∧ Careful machine middle () :=
        careful_of_step moved early
      exact (ih before.1).tail before.2 moved

/-- Nothing but the mark changes when files begin to be mutated. -/
theorem mutated_of_step {installation : Installation} {state next : State}
    (ended : state.stage = .backingUp []) (moved : step installation state () = some next) :
    next.files = state.files ∧ next.filesMutated = true ∧ next.backupDir = state.backupDir ∧
      next.previous = state.previous := by
  unfold step at moved
  rw [ended] at moved
  rw [← Option.some.inj moved]
  exact ⟨rfl, rfl, rfl, rfl⟩

/-- What is found when the backup has ended, in whatever way it was reached. -/
theorem intact_of_backedUp {installation : Installation} {machine : Machine} {state : State}
    (clear : Clear machine.disk.files)
    (reachable : Transition.Reachable (step installation) (start machine) state)
    (ended : state.stage = .backingUp []) :
    Intact machine.disk.files state.files ∧
      Backup machine.disk.files installation.backupName [] state.files ∧
      state.backupDir = some installation.backupDir ∧ state.previous = machine.units := by
  have early : state.stage.begun = false := by
    rw [ended]
    rfl
  cases holds_of_reachable clear (careful_of_reachable reachable early) with
  | stopping => cases ended
  | preparing _ _ _ => cases ended
  | backingUp intact backup _ =>
      cases ended
      exact ⟨intact, backup, rfl, rfl⟩
  | mutating _ _ _ rest =>
      cases ended
      rcases rest with ⟨operations, same⟩ | ⟨writes, commands, same, _⟩
      · cases same
      · cases same

end XanhTab.Installer
