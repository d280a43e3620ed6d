import XanhTab.Data.Association
import XanhTab.Installer.Mutation

/-!
# The rollback

What `rollback_install` restores.  Its copy of the backup onto the root gives the root
the mode of the backup directory, so the machine is restored on a condition.
-/

namespace XanhTab.Installer

open Disk

/-! ## Units -/

theorem restoreUnit_eq (previous units : Units) (unit : ServiceUnit) :
    restoreUnit previous units unit = Function.update units unit (previous unit) := by
  unfold restoreUnit disableUnit stopUnit setEnabled setActive
  rcases held : units unit with ⟨enabled, active⟩
  rcases wanted : previous unit with ⟨enabled', active'⟩
  cases enabled <;> cases active <;> cases enabled' <;> cases active' <;> simp [held]

/-- Whatever the units did since, they get back what was captured. -/
theorem restoreUnits_eq (previous units : Units) : restoreUnits previous units = previous := by
  have each : restoreUnit previous = fun units unit => Function.update units unit (previous unit) :=
    funext fun units => funext fun unit => restoreUnit_eq previous units unit
  funext unit
  unfold restoreUnits
  rw [each]
  cases unit <;> rfl

/-! ## Removal -/

section Removal

variable {files after : Files String} {path target place : Path}

/-- Nothing is new. -/
def Shrinks (after files : Files String) : Prop :=
  ∀ place, after place = files place ∨ after place = none

theorem Shrinks.plain (shrinks : Shrinks after files) (plain : Plain files path) :
    Plain after path := by
  intro part within
  unfold linkAt
  rcases shrinks part with same | gone
  · rw [same]
    exact plain part within
  · rw [gone]
    rfl

theorem clearRuntime_shrinks (files : Files String) (path : Path) :
    Shrinks (clearRuntime files path) files := by
  intro place
  unfold clearRuntime
  cases parentPlace files path with
  | none => exact .inl rfl
  | some cleared =>
      simp only
      split
      · by_cases same : place = cleared
        · rw [same, Function.update_self]
          exact .inr rfl
        · rw [Function.update_of_ne same]
          exact .inl rfl
      · split
        · beta_reduce
          split
          · exact .inr rfl
          · exact .inl rfl
        · exact .inl rfl

theorem clearRuntime_of_outside (plain : Plain files path.dropLast) (outside : ¬ path <+: place) :
    clearRuntime files path place = files place := by
  unfold clearRuntime
  rw [parentPlace_of_plain plain]
  simp only
  split
  · refine Function.update_of_ne ?_ _ _
    rintro rfl
    exact outside List.prefix_rfl
  · split
    · exact if_neg fun inside => outside inside.1
    · rfl

theorem clearRuntimes {paths : List Path} {files : Files String}
    (plain : ∀ path ∈ paths, Plain files path.dropLast) :
    Shrinks (paths.foldl clearRuntime files) files ∧
      ∀ place, ¬ Below paths place → paths.foldl clearRuntime files place = files place := by
  induction paths generalizing files with
  | nil => exact ⟨fun _ => .inl rfl, fun _ _ => rfl⟩
  | cons path rest ih =>
      have shrinks := clearRuntime_shrinks files path
      have later := ih fun other listed =>
        shrinks.plain (plain other (List.mem_cons_of_mem _ listed))
      refine ⟨fun place => ?_, fun place outside => ?_⟩
      · rcases later.1 place with same | gone
        · rw [List.foldl_cons, same]
          exact shrinks place
        · exact .inr gone
      · rw [List.foldl_cons, later.2 place fun ⟨other, listed, below⟩ =>
          outside ⟨other, List.mem_cons_of_mem _ listed, below⟩]
        exact clearRuntime_of_outside (plain path List.mem_cons_self) fun below =>
          outside ⟨path, List.mem_cons_self, below⟩

theorem removeTarget_eq (plain : Plain files target.dropLast) (tidy : Tidy files target)
    (place : Path) :
    removeTarget files target place = if target <+: place then none else files place := by
  unfold removeTarget
  rw [parentPlace_of_plain plain]
  simp only
  split
  · rfl
  · rename_i untested
    split
    · rename_i below
      cases there : files place with
      | none => rfl
      | some entry =>
          have held : ∃ holder, files target = some holder := by
            by_cases same : target = place
            · exact ⟨entry, same ▸ there⟩
            · rcases tidy place entry below same there with ⟨holder, holds, _⟩
              exact ⟨holder, holds⟩
          rcases held with ⟨holder, holds⟩
          refine absurd ?_ untested
          rcases tested_of_there plain holds with tested | tested
          · rw [tested, Bool.or_true, Bool.true_or]
          · rw [tested, Bool.or_true]
    · rfl

theorem removeTargets {targets : List Path} {files : Files String}
    (plain : ∀ target ∈ targets, Plain files target.dropLast)
    (tidy : ∀ target ∈ targets, Tidy files target) (place : Path) :
    targets.foldl removeTarget files place = if Below targets place then none else files place := by
  induction targets generalizing files with
  | nil =>
      rw [if_neg]
      · rfl
      · rintro ⟨target, listed, _⟩
        cases listed
  | cons target rest ih =>
      have value := removeTarget_eq (plain target List.mem_cons_self) (tidy target List.mem_cons_self)
      have shrinks : Shrinks (removeTarget files target) files := by
        intro place
        rw [value]
        split
        · exact .inr rfl
        · exact .inl rfl
      have still : ∀ other ∈ rest, Tidy (removeTarget files target) other := by
        intro other listed inside entry below strict there
        rw [value] at there
        split at there
        · cases there
        · rename_i apart
          rw [value, if_neg fun above => apart (above.trans below)]
          exact tidy other (List.mem_cons_of_mem _ listed) inside entry below strict there
      rw [List.foldl_cons, ih (fun other listed =>
        shrinks.plain (plain other (List.mem_cons_of_mem _ listed))) still, value]
      by_cases first : target <+: place
      · have below : Below (target :: rest) place := ⟨target, List.mem_cons_self, first⟩
        rw [if_pos first, if_pos below, ite_self]
      · rw [if_neg first]
        refine if_congr ?_ rfl rfl
        constructor
        · rintro ⟨other, listed, below⟩
          exact ⟨other, List.mem_cons_of_mem _ listed, below⟩
        · rintro ⟨other, listed, below⟩
          rcases List.mem_cons.mp listed with rfl | listed
          · exact absurd below first
          · exact ⟨other, listed, below⟩

end Removal

/-! ## Restoration -/

/-- What the rollback leaves as it is by design: the runtime directories, the account
database and the backups. -/
def EXEMPT : List Path :=
  RUNTIME_PATHS ++ ACCOUNT_FILES ++ [BACKUP_ROOT]

/-- The installed targets are as they were found, whatever else was found is unchanged but
for what is exempt, and so are the units. -/
structure Restored (machine : Machine) (after : State) : Prop where
  targets : ∀ place, Below INSTALL_TARGETS place → after.files place = machine.disk.files place
  others : ∀ place entry, ¬ Below EXEMPT place → machine.disk.files place = some entry →
    after.files place = some entry
  units : after.units = machine.units

theorem scope_of_targets {place : Path} (inside : Below INSTALL_TARGETS place) :
    Below SCOPE place := by
  rcases inside with ⟨target, owned, below⟩
  exact scope_of_target owned below

theorem not_runtime_of_targets {place : Path} (inside : Below INSTALL_TARGETS place) :
    ¬ Below RUNTIME_PATHS place := by
  have apart : ∀ target ∈ INSTALL_TARGETS, ∀ path ∈ RUNTIME_PATHS,
      ¬ target <+: path ∧ ¬ path <+: target := by decide
  rcases inside with ⟨target, owned, below⟩
  rintro ⟨path, listed, above⟩
  rcases List.prefix_or_prefix_of_prefix below above with within | within
  · exact (apart target owned path listed).1 within
  · exact (apart target owned path listed).2 within

theorem not_exempt {place : Path} (apart : ¬ Below EXEMPT place) :
    ¬ Below RUNTIME_PATHS place ∧ ¬ Below ACCOUNT_FILES place ∧ ¬ BACKUP_ROOT <+: place := by
  refine ⟨?_, ?_, fun below => apart ⟨BACKUP_ROOT, ?_, below⟩⟩
  · rintro ⟨path, listed, below⟩
    exact apart ⟨path, List.mem_append_left _ (List.mem_append_left _ listed), below⟩
  · rintro ⟨path, listed, below⟩
    exact apart ⟨path, List.mem_append_left _ (List.mem_append_right _ listed), below⟩
  · exact List.mem_append_right _ (List.mem_singleton_self _)

theorem not_scope {place : Path} (owned : ¬ Below INSTALL_TARGETS place)
    (apart : ¬ Below EXEMPT place) : ¬ Below SCOPE place := by
  rintro ⟨path, listed, below⟩
  rcases List.mem_append.mp listed with product | account
  · rcases List.mem_append.mp product with target | runtime
    · exact owned ⟨path, target, below⟩
    · exact (not_exempt apart).1 ⟨path, runtime, below⟩
  · exact (not_exempt apart).2.1 ⟨path, account, below⟩

theorem Clear.runtime {files : Files String} (clear : Clear files) :
    ∀ path ∈ RUNTIME_PATHS, Plain files path.dropLast :=
  fun _ listed => clear.above (List.mem_append_right _ listed)

section Restored

variable {machine : Machine} {state after : State}

/-- Before files are mutated, only the runtime directories are cleared. -/
theorem restored_of_intact (intact : Intact machine.disk.files state.files)
    (captured : state.previous = machine.units) (unmutated : state.filesMutated = false)
    (rolled : RollsBack state after) : Restored machine after := by
  have cleared := (clearRuntimes intact.clear.runtime).2
  have files : ∀ place, ¬ Below RUNTIME_PATHS place → after.files place = state.files place := by
    intro place outside
    rw [rolled.result]
    unfold rollback backupPlace removed
    rw [unmutated]
    exact cleared place outside
  refine ⟨fun place inside => ?_, fun place entry apart there => ?_, ?_⟩
  · rw [files place (not_runtime_of_targets inside)]
    exact intact.scope place (scope_of_targets inside)
  · rw [files place (not_exempt apart).1]
    exact intact.kept place entry (not_exempt apart).2.2 there
  · rw [rolled.result]
    exact (restoreUnits_eq _ _).trans captured

/-- The files that are left when the targets have been removed. -/
theorem removed_eq {name : String} (mutated : Mutated machine.disk.files name state.files)
    (begun : state.filesMutated = true) :
    Shrinks (removed state) state.files ∧
      ∀ place, ¬ Below RUNTIME_PATHS place →
        removed state place = if Below INSTALL_TARGETS place then none else state.files place := by
  have cleared := clearRuntimes mutated.clear.runtime
  have plain : ∀ target ∈ INSTALL_TARGETS,
      Plain (RUNTIME_PATHS.foldl clearRuntime state.files) target.dropLast := fun target owned =>
    cleared.1.plain (mutated.clear.above (List.mem_append_left _ owned))
  have same : ∀ target ∈ INSTALL_TARGETS, ∀ place, target <+: place →
      RUNTIME_PATHS.foldl clearRuntime state.files place = state.files place :=
    fun target owned place below => cleared.2 place (not_runtime_of_targets ⟨target, owned, below⟩)
  have tidy : ∀ target ∈ INSTALL_TARGETS,
      Tidy (RUNTIME_PATHS.foldl clearRuntime state.files) target := by
    intro target owned place entry below strict there
    rw [same target owned place below] at there
    rw [same target owned target List.prefix_rfl]
    exact mutated.tidy target owned place entry below strict there
  have value : ∀ place, removed state place =
      if Below INSTALL_TARGETS place then none
      else RUNTIME_PATHS.foldl clearRuntime state.files place := by
    intro place
    unfold removed
    rw [begun]
    exact removeTargets plain tidy place
  refine ⟨fun place => ?_, fun place outside => ?_⟩
  · rw [value]
    split
    · exact .inr rfl
    · exact cleared.1 place
  · rw [value, cleared.2 place outside]

/-- The backup is still there when the targets have been removed. -/
theorem removed_backup {name : String} (mutated : Mutated machine.disk.files name state.files)
    (begun : state.filesMutated = true) (rest : Path) :
    removed state (BACKUP_ROOT ++ [name] ++ rest) = state.files (BACKUP_ROOT ++ [name] ++ rest) := by
  have inside : BACKUP_ROOT <+: BACKUP_ROOT ++ [name] ++ rest :=
    (List.prefix_append _ _).trans (List.prefix_append _ _)
  have apart : ∀ path ∈ RUNTIME_PATHS, path ∈ SCOPE := by decide
  rw [(removed_eq mutated begun).2,
    if_neg fun below => not_backup_of_scope (scope_of_targets below) inside]
  rintro ⟨path, listed, below⟩
  exact not_backup_of_scope ⟨path, apart path listed, below⟩ inside

theorem backupPlace_eq {name : String} (mutated : Mutated machine.disk.files name state.files)
    (begun : state.filesMutated = true) (known : state.backupDir = some (BACKUP_ROOT ++ [name])) :
    backupPlace state = some (BACKUP_ROOT ++ [name]) := by
  have plain := (removed_eq mutated begun).1.plain (mutated.backup.plain mutated.clear)
  have root := removed_backup mutated begun []
  rw [List.append_nil, mutated.backup.root] at root
  unfold backupPlace isDir
  rw [begun, known, if_pos rfl, Option.bind_some, find_of_plain plain, root]
  exact resolve_of_plain plain

/-- The backup is copied onto the root. -/
theorem rollback_files {name : String} (mutated : Mutated machine.disk.files name state.files)
    (begun : state.filesMutated = true) (known : state.backupDir = some (BACKUP_ROOT ++ [name]))
    (place : Path) :
    (rollback state).files place =
      (state.files (BACKUP_ROOT ++ [name] ++ place)).or (removed state place) := by
  unfold rollback
  rw [backupPlace_eq mutated begun known]
  show copyBack (removed state) (BACKUP_ROOT ++ [name]) place = _
  unfold copyBack
  rw [removed_backup mutated begun]
  cases state.files (BACKUP_ROOT ++ [name] ++ place) <;> rfl

/-- Once files are mutated, the targets come back from the backup. -/
theorem targets_of_mutated {name : String} (mutated : Mutated machine.disk.files name state.files)
    (found : ∀ target ∈ INSTALL_TARGETS, machine.disk.files target ≠ none →
      present machine.disk.files target = true)
    (begun : state.filesMutated = true) (known : state.backupDir = some (BACKUP_ROOT ++ [name]))
    {place : Path} (inside : Below INSTALL_TARGETS place) :
    (rollback state).files place = machine.disk.files place := by
  have named : place ≠ [] := by
    rintro rfl
    revert inside
    decide
  rw [rollback_files mutated begun known,
    (removed_eq mutated begun).2 place (not_runtime_of_targets inside), if_pos inside,
    Option.or_none]
  cases there : machine.disk.files place with
  | none =>
      cases held : state.files (BACKUP_ROOT ++ [name] ++ place) with
      | none => rfl
      | some entry =>
          rw [mutated.backup.old place entry named held] at there
          cases there
  | some entry =>
      rcases inside with ⟨target, owned, below⟩
      have tested := found target owned fun absent => by
        rw [machine.disk.none_below below absent] at there
        cases there
      rw [mutated.backup.copies target owned List.not_mem_nil tested place named (.inr below)]
      exact there

/-- What is beside the targets was kept, or comes back from the backup. -/
theorem others_of_mutated {name : String} (mutated : Mutated machine.disk.files name state.files)
    (root : ∀ entry, machine.disk.files [] = some entry → entry.attributes = ⟨0o700, 0, 0⟩)
    (begun : state.filesMutated = true) (known : state.backupDir = some (BACKUP_ROOT ++ [name]))
    {place : Path} {entry : Entry String} (owned : ¬ Below INSTALL_TARGETS place)
    (apart : ¬ Below EXEMPT place) (there : machine.disk.files place = some entry) :
    (rollback state).files place = some entry := by
  rw [rollback_files mutated begun known]
  by_cases top : place = []
  · subst top
    rw [List.append_nil, mutated.backup.root, Option.some_or]
    rcases machine.disk.root with ⟨first, holds, directory⟩
    rw [there] at holds
    rcases Option.some.inj holds with rfl
    rcases entry with ⟨kind, attributes⟩
    rw [← root _ there, ← Entry.isDirectory_iff.mp directory]
  · cases held : state.files (BACKUP_ROOT ++ [name] ++ place) with
    | some other =>
        rw [mutated.backup.old place other top held] at there
        exact there
    | none =>
        rw [Option.none_or, (removed_eq mutated begun).2 place (not_exempt apart).1, if_neg owned]
        rcases mutated.kept place entry (not_scope owned apart) (not_exempt apart).2.2 there with
          same | ⟨target, listed, above, tested⟩
        · exact same
        · rw [mutated.backup.copies target listed List.not_mem_nil tested place top (.inl above)]
            at held
          rw [held] at there
          cases there

theorem restored_of_mutated {name : String} (mutated : Mutated machine.disk.files name state.files)
    (root : ∀ entry, machine.disk.files [] = some entry → entry.attributes = ⟨0o700, 0, 0⟩)
    (found : ∀ target ∈ INSTALL_TARGETS, machine.disk.files target ≠ none →
      present machine.disk.files target = true)
    (captured : state.previous = machine.units) (begun : state.filesMutated = true)
    (known : state.backupDir = some (BACKUP_ROOT ++ [name])) (rolled : RollsBack state after) :
    Restored machine after := by
  rw [rolled.result]
  refine ⟨fun place inside => ?_, fun place entry apart there => ?_, ?_⟩
  · exact targets_of_mutated mutated found begun known inside
  · by_cases inside : Below INSTALL_TARGETS place
    · rw [targets_of_mutated mutated found begun known inside]
      exact there
    · exact others_of_mutated mutated root begun known inside apart there
  · exact (restoreUnits_eq _ _).trans captured

/-- The copy of the backup fails at no place where what was found is still of its kind. -/
theorem rollsBack_rollback {name : String} (mutated : Mutated machine.disk.files name state.files)
    (begun : state.filesMutated = true) (known : state.backupDir = some (BACKUP_ROOT ++ [name]))
    (kinds : ∀ place old entry, ¬ Below INSTALL_TARGETS place →
      machine.disk.files place = some old → state.files place = some entry →
        entry.isDirectory = old.isDirectory) : RollsBack state (rollback state) := by
  refine ⟨fun path found place new entry stored there => ?_, rfl⟩
  rw [backupPlace_eq mutated begun known] at found
  rw [← Option.some.inj found, removed_backup mutated begun] at stored
  have held : state.files place = some entry := by
    rcases (removed_eq mutated begun).1 place with same | gone
    · exact same.symm.trans there
    · rw [gone] at there
      cases there
  have outside : ¬ Below INSTALL_TARGETS place := by
    intro owned
    rw [(removed_eq mutated begun).2 place (not_runtime_of_targets owned), if_pos owned] at there
    cases there
  by_cases top : place = []
  · subst top
    rcases machine.disk.root with ⟨first, holds, directory⟩
    rw [List.append_nil, mutated.backup.root] at stored
    rw [kinds [] first entry outside holds held, directory, ← Option.some.inj stored]
    rfl
  · exact (kinds place new entry outside (mutated.backup.old place new top stored) held).symm

/-- What a run that begins to mutate files leaves of the disk and of the backup. -/
theorem mutated_of_reached {installation : Installation} (clear : Clear machine.disk.files)
    (reached : Transition.ReachableUnder (step installation) (Careful machine) (start machine)
      state)
    (begun : state.filesMutated = true) :
    Mutated machine.disk.files installation.backupName state.files ∧
      state.backupDir = some installation.backupDir := by
  cases holds_of_reachable clear reached with
  | stopping => cases begun
  | preparing _ _ _ => cases begun
  | backingUp _ _ _ => cases begun
  | mutating mutated _ _ _ => exact ⟨mutated, rfl⟩

/-- A run whose steps all meet the condition can be rolled back wherever it stops. -/
theorem restored_of_careful (installation : Installation) (machine : Machine)
    (clear : Clear machine.disk.files) {state after : State}
    (reached : Transition.ReachableUnder (step installation) (Careful machine) (start machine)
      state)
    (rolled : RollsBack state after) : Restored machine after := by
  cases holds_of_reachable clear reached with
  | stopping => exact restored_of_intact (.refl clear) rfl rfl rolled
  | preparing intact _ _ => exact restored_of_intact intact rfl rfl rolled
  | backingUp intact _ _ => exact restored_of_intact intact rfl rfl rolled
  | mutating mutated root found _ =>
      exact restored_of_mutated mutated root found rfl rfl rfl rolled

end Restored

/-! ## The root -/

/-- The root gets the mode and the owner of the backup directory as soon as files may be
mutated, so the condition on it is necessary. -/
theorem root_of_restored {installation : Installation} {machine : Machine}
    (clear : Clear machine.disk.files) {state next after : State}
    (reachable : Transition.Reachable (step installation) (start machine) state)
    (ended : state.stage = .backingUp []) (moved : step installation state () = some next)
    (rolled : RollsBack next after) (restored : Restored machine after) :
    ∀ entry, machine.disk.files [] = some entry → entry.attributes = ⟨0o700, 0, 0⟩ := by
  rcases intact_of_backedUp clear reachable ended with ⟨intact, backup, known, _⟩
  intro entry there
  have kept := restored.others [] entry (by decide) there
  rcases mutated_of_step ended moved with ⟨same, begun, unset, _⟩
  have mutated : Mutated machine.disk.files installation.backupName next.files := by
    rw [same]
    exact .of_intact intact backup
  rw [rolled.result, rollback_files mutated begun (unset.trans known), List.append_nil,
    mutated.backup.root, Option.some_or] at kept
  rw [← Option.some.inj kept]

/-! ## A machine with nothing but its root -/

namespace Sample

def bareMachine (attributes : Attributes) : Machine where
  disk :=
    { files := fun place => if place = [] then some ⟨.directory, attributes⟩ else none
      root := ⟨_, if_pos rfl, rfl⟩
      parents := fun place name entry there => by
        rw [if_neg (by simp)] at there
        cases there }
  units := fun _ => ⟨false, false⟩

def freshInstallation : Installation where
  repair := false
  network := "direct"
  proxyEndpoint := none
  release := fun _ => ""
  web := ⟨⟨0o755, 0, 0⟩, []⟩
  plugins := ⟨⟨0o755, 0, 0⟩, []⟩
  configName := "xanhtab.production.toml"
  config := ""
  publicConfig := none
  publicHosts := none
  secrets := none
  backupName := "install-20260101T000000Z.aB3dE6"
  xanhtab := (990, 990)
  browser := (988, 990)
  accounts := fun _ => none
  found := []
  serverKey := "key"
  serverCertificate := "certificate"
  blocklist := [(.output, some "blocklist")]

theorem bareMachine_files (attributes : Attributes) (place : Path) :
    (bareMachine attributes).disk.files place =
      if place = [] then some ⟨.directory, attributes⟩ else none :=
  rfl

theorem bareMachine_root (attributes : Attributes) :
    (bareMachine attributes).disk.files [] = some ⟨.directory, attributes⟩ :=
  rfl

theorem clear_bareMachine (attributes : Attributes) :
    Clear (bareMachine attributes).disk.files := by
  intro anchor _ part _
  unfold linkAt
  rw [bareMachine_files]
  split
  · rfl
  · rfl

/-- The installation reaches the end of its backup on a machine with nothing to back up. -/
theorem reaches_backedUp (attributes : Attributes) :
    ∃ state, Transition.Reachable (step freshInstallation) (start (bareMachine attributes)) state ∧
      state.stage = .backingUp [] := by
  have done : (Transition.run (step freshInstallation) (start (bareMachine attributes))
      (List.replicate 23 ())).map State.stage = some (.backingUp []) := rfl
  rcases Option.map_eq_some_iff.mp done with ⟨state, run, ended⟩
  exact ⟨state, Transition.reachable_of_run run, ended⟩

/-- Files begin to be mutated, and the rollback of that state succeeds. -/
theorem rollsBack_bareMachine (attributes : Attributes) :
    ∃ state next, Transition.Reachable (step freshInstallation) (start (bareMachine attributes))
        state ∧
      state.stage = .backingUp [] ∧ step freshInstallation state () = some next ∧
      RollsBack next (rollback next) := by
  rcases reaches_backedUp attributes with ⟨state, reachable, ended⟩
  rcases intact_of_backedUp (clear_bareMachine attributes) reachable ended with
    ⟨intact, backup, known, _⟩
  have moved : step freshInstallation state () = some { state with
      stage := .mutating [] (mutate freshInstallation), filesMutated := true } := by
    unfold step
    rw [ended]
  rcases mutated_of_step ended moved with ⟨same, begun, unset, _⟩
  refine ⟨state, _, reachable, ended, moved, ?_⟩
  have mutated := Mutated.of_intact intact backup
  rw [← same] at mutated
  refine rollsBack_rollback mutated begun (unset.trans known) fun place old entry _ there held => ?_
  rw [bareMachine_files] at there
  rcases Option.ite_none_right_eq_some.mp there with ⟨top, root⟩
  subst top
  rw [same, intact.kept [] _ (by decide) (bareMachine_root attributes)] at held
  rw [← Option.some.inj held, ← Option.some.inj root]

end Sample

/-- On a machine whose root anyone may read, a rollback that succeeds shuts the root. -/
theorem not_restored_of_open :
    ¬ ∀ (installation : Installation) (machine : Machine) (state after : State),
      Transition.Reachable (step installation) (start machine) state → RollsBack state after →
        Restored machine after := by
  intro claim
  rcases Sample.rollsBack_bareMachine ⟨0o755, 0, 0⟩ with ⟨state, next, reachable, ended, moved, rolled⟩
  have restored := claim _ _ next _ (reachable.tail trivial moved) rolled
  have root := root_of_restored (Sample.clear_bareMachine _) reachable ended moved rolled restored _
    (Sample.bareMachine_root _)
  revert root
  decide

/-! ## A machine in use -/

namespace Sample

/-- The root is shut, and a program and a configuration have been installed before. -/
def usedEntries : List (Path × Entry String) :=
  [([], ⟨.directory, 0o700, 0, 0⟩),
    (["usr"], ⟨.directory, 0o755, 0, 0⟩),
    (["usr", "local"], ⟨.directory, 0o755, 0, 0⟩),
    (["usr", "local", "bin"], ⟨.directory, 0o755, 0, 0⟩),
    (["usr", "local", "bin", "xanhtabd"], ⟨.file "previous program", 0o755, 0, 0⟩),
    (["etc"], ⟨.directory, 0o755, 0, 0⟩),
    (["etc", "hostname"], ⟨.file "box", 0o644, 0, 0⟩),
    (["etc", "xanhtab"], ⟨.directory, 0o755, 0, 0⟩),
    (["etc", "xanhtab", "xanhtab.toml"], ⟨.file "previous settings", 0o640, 0, 990⟩)]

/-- All units run on it. -/
def usedMachine : Machine where
  disk :=
    { files := fun place => usedEntries.lookup place
      root := ⟨_, rfl, rfl⟩
      parents := fun place name entry there => by
        have held : ∀ entry ∈ usedEntries, entry.1 ≠ [] →
            (usedEntries.lookup entry.1.dropLast).any Entry.isDirectory = true := by decide +kernel
        have found := held _ (Association.mem_of_lookup there) (by simp)
        rw [List.dropLast_concat, Option.any_eq_true] at found
        exact found }
  units := fun _ => ⟨true, true⟩

theorem mem_of_usedMachine {place : Path} {entry : Entry String}
    (there : usedMachine.disk.files place = some entry) : (place, entry) ∈ usedEntries :=
  Association.mem_of_lookup there

theorem clear_usedMachine : Clear usedMachine.disk.files := by
  have plain : ∀ entry ∈ usedEntries, entry.2.target = none := by decide +kernel
  intro anchor _ part _
  unfold linkAt
  cases there : usedMachine.disk.files part with
  | none => rfl
  | some entry => exact plain _ (mem_of_usedMachine there)

/-- The condition, with the mode for every shared directory. -/
def staysCareful (state : State) (_ : Unit) : Bool :=
  match state.stage with
  | .backingUp [] =>
      ((usedMachine.disk.files []).all fun entry => entry.attributes = ⟨0o700, 0, 0⟩) &&
        INSTALL_TARGETS.all fun target =>
          (usedMachine.disk.files target).isNone || present usedMachine.disk.files target
  | .mutating (write :: _) _ =>
      ((write.place state.files).all fun place => Below SCOPE place || place = write.path) &&
        (!SHARED.contains write.path ||
          (usedMachine.disk.files write.path).all fun entry => entry.attributes.mode = 0o755)
  | _ => true

theorem careful_of_staysCareful (state : State) (label : Unit)
    (stays : staysCareful state label = true) : Careful usedMachine state label := by
  unfold staysCareful at stays
  unfold Careful
  split
  · rename_i ended
    rw [ended] at stays
    simp only [Bool.and_eq_true, Option.all_eq_true, List.all_eq_true, decide_eq_true_eq,
      Bool.or_eq_true, Option.isNone_iff_eq_none] at stays
    exact ⟨stays.1, fun target owned there => (stays.2 target owned).resolve_left there⟩
  · rename_i write _ _ writing
    rw [writing] at stays
    simp only [Bool.and_eq_true, Option.all_eq_true, Bool.or_eq_true, decide_eq_true_eq,
      Bool.not_eq_true', List.contains_eq_mem, decide_eq_false_iff_not] at stays
    exact ⟨stays.1, fun shared entry there =>
      Or.inl (stays.2.resolve_left (not_not_intro shared) entry there)⟩
  · trivial

/-- The program has been replaced, and what is no target is still of its kind. -/
def isReplaced (state : State) : Bool :=
  state.filesMutated &&
    state.files ["usr", "local", "bin", "xanhtabd"] = some ⟨.file "", 0o755, 0, 0⟩ &&
      usedEntries.all fun (place, old) => Below INSTALL_TARGETS place ||
        (state.files place).all fun entry => entry.isDirectory == old.isDirectory

end Sample

/-- On a machine in use whose root is shut, an installation stops after a hundred steps, when
it has replaced the program, and the rollback restores the machine. -/
theorem restored_of_shut :
    ∃ state after, state.filesMutated = true ∧
      state.files ["usr", "local", "bin", "xanhtabd"] = some ⟨.file "", 0o755, 0, 0⟩ ∧
      RollsBack state after ∧ Restored Sample.usedMachine after := by
  have done : (Transition.run (Transition.guarded (step Sample.freshInstallation)
      Sample.staysCareful) (start Sample.usedMachine) (List.replicate 100 ())).any
        Sample.isReplaced = true := by
    decide +kernel
  rcases (Option.any_eq_true _ _).mp done with ⟨state, executed, replaced⟩
  simp only [Sample.isReplaced, Bool.and_eq_true, decide_eq_true_eq, List.all_eq_true,
    Bool.or_eq_true, Option.all_eq_true, beq_iff_eq] at replaced
  rcases replaced with ⟨⟨begun, program⟩, kinds⟩
  have reached := Transition.reachableUnder_of_run Sample.careful_of_staysCareful executed
  rcases mutated_of_reached Sample.clear_usedMachine reached begun with ⟨mutated, known⟩
  have rolled : RollsBack state (rollback state) := by
    refine rollsBack_rollback mutated begun known fun place old entry outside there held => ?_
    have kept := kinds _ (Sample.mem_of_usedMachine there)
    exact kept.resolve_left outside entry held
  exact ⟨state, rollback state, begun, program, rolled,
    restored_of_careful _ _ Sample.clear_usedMachine reached rolled⟩

end XanhTab.Installer
