import XanhTab.Installer.Script

/-!
# What the installer writes

Once files are mutated, every write names a path that the rollback removes or leaves
alone by design, makes a missing directory, or sets the mode of a shared directory.
-/

namespace XanhTab.Installer

open Disk

/-- One of the paths, or below one of them. -/
def Below (paths : List Path) (place : Path) : Prop :=
  ∃ path ∈ paths, path <+: place

instance (paths : List Path) (place : Path) : Decidable (Below paths place) :=
  inferInstanceAs (Decidable (∃ path ∈ paths, path <+: place))

/-- What the installer owns, and the account database. -/
def SCOPE : List Path :=
  INSTALL_TARGETS ++ RUNTIME_PATHS ++ ACCOUNT_FILES

/-- The directories outside that `install -d -m 0755` names. -/
def SHARED : List Path :=
  [["usr", "local", "bin"], ["usr", "local", "libexec"], ["etc", "systemd", "system"],
    ["usr", "lib", "tmpfiles.d"], ["usr", "lib", "sysusers.d"]]

theorem Below.append {paths : List Path} {place : Path} (below : Below paths place) (rest : Path) :
    Below paths (place ++ rest) := by
  rcases below with ⟨path, member, start⟩
  exact ⟨path, member, start.trans (List.prefix_append place rest)⟩

/-- The writes that the installer may make once files are mutated. -/
inductive Permitted : Write String → Prop
  | scope {write : Write String} (inside : Below SCOPE write.path) : Permitted write
  | parent {path : Path} (apart : ¬ BACKUP_ROOT <+: path) : Permitted (makeParent path)
  | shared {path : Path} (member : path ∈ SHARED) : Permitted (setDirectory 0o755 none path)

/-- All writes of a command are permitted, in whatever state it starts. -/
def Confined (command : Command String) : Prop :=
  ∀ files, ∀ write ∈ command files, Permitted write

theorem permitted_ancestors {path : Path} (apart : ¬ BACKUP_ROOT <+: path) :
    ∀ write ∈ (ancestors path).map makeParent, Permitted write := by
  intro write member
  rcases List.mem_map.mp member with ⟨upper, above, rfl⟩
  exact .parent fun within => apart (within.trans (prefix_of_mem_ancestors above))

/-- Nothing in the scope is in the backup. -/
theorem not_backup_of_scope {place : Path} (inside : Below SCOPE place) :
    ¬ BACKUP_ROOT <+: place := by
  rcases inside with ⟨path, member, start⟩
  intro within
  have apart : ∀ path ∈ SCOPE, ¬ path <+: BACKUP_ROOT ∧ ¬ BACKUP_ROOT <+: path := by decide
  rcases List.prefix_or_prefix_of_prefix start within with above | above
  · exact (apart path member).1 above
  · exact (apart path member).2 above

theorem permitted_installDirectory {mode : Nat} {owner : Option (Nat × Nat)} {path : Path}
    (inside : Below SCOPE path) :
    ∀ write ∈ installDirectory mode owner path, Permitted write := by
  intro write member
  rcases List.mem_append.mp member with parent | last
  · exact permitted_ancestors (not_backup_of_scope inside) write parent
  · rw [List.mem_singleton.mp last]
    exact .scope inside

theorem permitted_installShared {path : Path} (shared : path ∈ SHARED) :
    ∀ write ∈ installDirectory 0o755 none path, Permitted write := by
  have apart : ∀ path ∈ SHARED, ¬ BACKUP_ROOT <+: path := by decide
  intro write member
  rcases List.mem_append.mp member with parent | last
  · exact permitted_ancestors (apart path shared) write parent
  · rw [List.mem_singleton.mp last]
    exact .shared shared

theorem permitted_tmpfilesDirectory {mode : Nat} {owner : Nat × Nat} {path : Path}
    (inside : Below SCOPE path) :
    ∀ write ∈ tmpfilesDirectory mode owner path, Permitted write := by
  intro write member
  rcases List.mem_append.mp member with parent | last
  · exact permitted_ancestors (not_backup_of_scope inside) write parent
  · rw [List.mem_singleton.mp last]
    exact .scope inside

theorem permitted_copyTree {tree : Disk.Tree String} {path : Path} (inside : Below SCOPE path) :
    ∀ write ∈ copyTree tree path, Permitted write := by
  intro write member
  rcases List.mem_append.mp member with part | last
  · rcases List.mem_map.mp part with ⟨⟨rest, item⟩, _, rfl⟩
    cases item with
    | directory attributes => exact .scope (inside.append rest)
    | file content attributes => exact .scope (inside.append rest)
  · rw [List.mem_singleton.mp last]
    exact .scope inside

/-! ## The commands -/

theorem confined_one {write : Write String} (inside : Below SCOPE write.path) :
    Confined fun _ => [write] := by
  intro files other member
  rw [List.mem_singleton.mp member]
  exact .scope inside

theorem confined_option {A : Type} {value : Option A} {write : A → Write String}
    (inside : ∀ value, Below SCOPE (write value).path) :
    Confined fun _ => value.toList.map write := by
  intro files other member
  rcases List.mem_map.mp member with ⟨value, _, rfl⟩
  exact .scope (inside value)

theorem confined_unless {skip : Files String → Bool} {write : Write String}
    (inside : Below SCOPE write.path) :
    Confined fun files => if skip files then [] else [write] := by
  intro files other member
  beta_reduce at member
  split at member
  · cases member
  · rw [List.mem_singleton.mp member]
    exact .scope inside

section Commands

variable (installation : Installation)

theorem confined_directories :
    Confined fun _ => DIRECTORIES.flatMap (installDirectory 0o755 none) := by
  have each : ∀ path ∈ DIRECTORIES, path ∈ SHARED ∨ Below SCOPE path := by decide
  intro files write member
  rcases List.mem_flatMap.mp member with ⟨path, listed, within⟩
  rcases each path listed with shared | inside
  · exact permitted_installShared shared write within
  · exact permitted_installDirectory inside write within

theorem confined_installProgram {name : String}
    (inside : Below SCOPE ["usr", "local", "libexec", name]) :
    Confined fun _ => [installProgram installation name] :=
  confined_one inside

theorem confined_installUnit {name : String}
    (inside : Below SCOPE ["etc", "systemd", "system", name]) :
    Confined fun _ => [installUnit installation name] :=
  confined_one inside

theorem confined_installFiles : ∀ command ∈ installFiles installation, Confined command := by
  have daemon : Below SCOPE ["usr", "local", "bin", "xanhtabd"] := by decide
  have tmpfiles : Below SCOPE ["usr", "lib", "tmpfiles.d", "xanhtab.conf"] := by decide
  have sysusers : Below SCOPE ["usr", "lib", "sysusers.d", "xanhtab.conf"] := by decide
  unfold installFiles
  simp only [List.forall_mem_cons]
  refine ⟨confined_directories, confined_one daemon, ?_, ?_, ?_, ?_, ?_, ?_, ?_, ?_, ?_, ?_,
    confined_one tmpfiles, confined_one sysusers, List.forall_mem_nil _⟩
  · exact confined_installProgram installation (by decide)
  · exact confined_installProgram installation (by decide)
  · exact confined_installProgram installation (by decide)
  · exact confined_installProgram installation (by decide)
  · exact confined_installProgram installation (by decide)
  · exact fun _ => permitted_copyTree (by decide)
  · exact fun _ => permitted_copyTree (by decide)
  · exact confined_installUnit installation (by decide)
  · exact confined_installUnit installation (by decide)
  · exact confined_installUnit installation (by decide)

theorem confined_createAccounts : Confined (createAccounts installation) := by
  have each : ∀ path ∈ ACCOUNT_FILES, Below SCOPE path := by decide
  intro files write member
  rcases List.mem_filterMap.mp member with ⟨path, listed, written⟩
  rcases Option.map_eq_some_iff.mp written with ⟨content, _, rfl⟩
  exact .scope (each path listed)

theorem confined_installConfig : ∀ command ∈ installConfig installation, Confined command := by
  have config : Below SCOPE CONFIG := by decide
  have hosts : Below SCOPE HOSTS := by decide
  unfold installConfig
  simp only [List.forall_mem_cons]
  exact ⟨confined_unless config, confined_one config, confined_one config, confined_one config,
    confined_unless hosts, List.forall_mem_nil _⟩

theorem confined_installState : ∀ command ∈ installState installation, Confined command := by
  have state : Below SCOPE STATE := by decide
  unfold installState
  simp only [List.forall_mem_cons]
  exact ⟨fun _ => permitted_installDirectory state,
    confined_one (state.append ["blocklist-metadata.json"]), List.forall_mem_nil _⟩

theorem confined_installPublicConfig :
    ∀ command ∈ installPublicConfig installation, Confined command := by
  have remote : Below SCOPE REMOTE := by decide
  have hosts : Below SCOPE HOSTS := by decide
  unfold installPublicConfig
  cases installation.publicConfig with
  | none => exact List.forall_mem_nil _
  | some tree =>
      simp only [List.forall_mem_cons]
      refine ⟨fun _ => permitted_installDirectory remote, fun _ => permitted_copyTree remote,
        fun files write member => ?_, confined_option fun content => hosts, List.forall_mem_nil _⟩
      rcases List.mem_map.mp member with ⟨rest, _, rfl⟩
      exact .scope (remote.append rest)

theorem confined_installSecrets : ∀ command ∈ installSecrets installation, Confined command := by
  have secret : Below SCOPE SECRETS := by decide
  unfold installSecrets
  cases installation.secrets with
  | none => exact List.forall_mem_nil _
  | some secrets =>
      simp only [List.forall_mem_cons]
      exact ⟨fun _ => permitted_installDirectory secret,
        confined_option fun content => secret.append ["wg0.conf"],
        confined_option fun content => secret.append ["proxy-url"],
        confined_option fun content => secret.append ["stun.json"],
        confined_option fun content => secret.append ["turn.json"], List.forall_mem_nil _⟩

theorem confined_createDirectories : Confined (createDirectories installation) := by
  intro files write member
  unfold createDirectories at member
  simp only [List.mem_append] at member
  rcases member with ((run | session) | state) | secrets
  · exact permitted_tmpfilesDirectory (by decide) write run
  · exact permitted_tmpfilesDirectory (by decide) write session
  · exact permitted_tmpfilesDirectory (by decide) write state
  · exact permitted_tmpfilesDirectory (by decide) write secrets

theorem confined_pinNetwork : ∀ command ∈ pinNetwork installation, Confined command := by
  have config : Below SCOPE CONFIG := by decide
  unfold pinNetwork
  simp only [List.forall_mem_cons]
  exact ⟨confined_one config, confined_option fun endpoint => config, List.forall_mem_nil _⟩

theorem confined_ensureTls : ∀ command ∈ ensureTls installation, Confined command := by
  have tls : Below SCOPE TLS := by decide
  have certificate := tls.append ["server.crt"]
  have key := tls.append ["server.key"]
  unfold ensureTls
  simp only [List.forall_mem_cons]
  refine ⟨fun _ => permitted_installDirectory tls, fun files write member => ?_,
    fun files write member => ?_, confined_one certificate, confined_one key,
    List.forall_mem_nil _⟩
  · beta_reduce at member
    split at member
    · cases member
    · rcases List.mem_cons.mp member with rfl | member
      · exact .scope key
      · rw [List.mem_singleton.mp member]
        exact .scope certificate
  · rcases List.mem_cons.mp member with rfl | member
    · exact .scope certificate
    · rw [List.mem_singleton.mp member]
      exact .scope key

theorem confined_compileBlocklist :
    ∀ command ∈ compileBlocklist installation, Confined command := by
  have state : Below SCOPE STATE := by decide
  unfold compileBlocklist
  simp only [List.forall_mem_cons]
  refine ⟨fun files write member => ?_, confined_one (state.append ["blocklist.fst"]),
    confined_one (state.append ["blocklist.fst"]), List.forall_mem_nil _⟩
  rcases List.mem_map.mp member with ⟨⟨file, content⟩, _, rfl⟩
  cases content with
  | none => exact .scope (state.append [file.name])
  | some content => exact .scope (state.append [file.name])

theorem confined_mutate : ∀ command ∈ mutate installation, Confined command := by
  intro command member
  unfold mutate at member
  simp only [List.mem_append, List.mem_cons] at member
  rcases member with (((((((files | rfl | config) | state) | public') | secrets) | (rfl | network)) |
    tls) | blocklist)
  · exact confined_installFiles installation command files
  · exact confined_createAccounts installation
  · exact confined_installConfig installation command config
  · exact confined_installState installation command state
  · exact confined_installPublicConfig installation command public'
  · exact confined_installSecrets installation command secrets
  · exact confined_createDirectories installation
  · exact confined_pinNetwork installation command network
  · exact confined_ensureTls installation command tls
  · exact confined_compileBlocklist installation command blocklist

end Commands

end XanhTab.Installer
