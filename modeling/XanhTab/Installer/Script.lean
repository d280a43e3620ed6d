import XanhTab.Files.Write
import XanhTab.Transition.Core

/-!
# The installer

`install_release` and `activate_and_healthcheck` of `install.sh` on a disk and three
units, from the moment where `MUTATION_STARTED` is set, and `rollback_install`.  The
installer moves by one write, one backup or one unit operation at a time, and any of
its commands may fail in any state that it reaches.
-/

namespace XanhTab.Installer

open Disk

/-! ## Paths -/

def BACKUP_ROOT : Path :=
  ["var", "backups", "xanhtab"]

def INSTALL_TARGETS : List Path :=
  [["usr", "local", "bin", "xanhtabd"],
    ["usr", "local", "libexec", "xanhtab-browser"],
    ["usr", "local", "libexec", "xanhtab-netd"],
    ["usr", "local", "libexec", "xanhtab-blocklist"],
    ["usr", "local", "libexec", "xanhtab-validate-blocklist-release"],
    ["usr", "local", "libexec", "xanhtab-x1-burn-audit"],
    ["usr", "share", "xanhtab"],
    ["usr", "lib", "xanhtab"],
    ["etc", "xanhtab"],
    ["var", "lib", "xanhtab"],
    ["etc", "systemd", "system", "xanhtabd.service"],
    ["etc", "systemd", "system", "xanhtab-browser.service"],
    ["etc", "systemd", "system", "xanhtab-netd.service"],
    ["usr", "lib", "tmpfiles.d", "xanhtab.conf"],
    ["usr", "lib", "sysusers.d", "xanhtab.conf"]]

/-- The two directories that `rollback_install` empties. -/
def RUNTIME_PATHS : List Path :=
  [["run", "xanhtab-session"], ["run", "xanhtab"]]

/-- The files of the account database, with the copies that are kept of them. -/
def ACCOUNT_FILES : List Path :=
  [["etc", "passwd"], ["etc", "group"], ["etc", "shadow"], ["etc", "gshadow"],
    ["etc", "passwd-"], ["etc", "group-"], ["etc", "shadow-"], ["etc", "gshadow-"]]

/-! ## Units -/

inductive ServiceUnit
  | netd
  | browser
  | xanhtabd
  deriving DecidableEq, Repr

structure UnitState where
  enabled : Bool
  active : Bool
  deriving DecidableEq, Repr

abbrev Units := ServiceUnit → UnitState

def SERVICE_UNITS : List ServiceUnit :=
  [.netd, .browser, .xanhtabd]

def STOP_UNITS : List ServiceUnit :=
  [.xanhtabd, .browser, .netd]

def setActive (active : Bool) (units : Units) (unit : ServiceUnit) : Units :=
  Function.update units unit { units unit with active }

def setEnabled (enabled : Bool) (units : Units) (unit : ServiceUnit) : Units :=
  Function.update units unit { units unit with enabled }

/-- Stop a unit that is active. -/
def stopUnit (units : Units) (unit : ServiceUnit) : Units :=
  if (units unit).active then setActive false units unit else units

/-- Disable a unit that is enabled. -/
def disableUnit (units : Units) (unit : ServiceUnit) : Units :=
  if (units unit).enabled then setEnabled false units unit else units

inductive Operation
  | enable (unit : ServiceUnit)
  | start (unit : ServiceUnit)
  deriving DecidableEq, Repr

def operate (units : Units) : Operation → Units
  | .enable unit => setEnabled true units unit
  | .start unit => setActive true units unit

/-- `systemctl enable --now` -/
def activate : List Operation :=
  SERVICE_UNITS.map .enable ++ SERVICE_UNITS.map .start

/-! ## What is installed -/

/-- The files of `prepared-secrets`. -/
structure Secrets where
  wireguard : Option String
  proxyUrl : Option String
  stun : Option String
  turn : Option String

/-- The files that `xanhtab-blocklist` makes and removes on its way to the output. -/
inductive BlocklistFile
  | nested
  | custom
  | merged
  | output
  deriving DecidableEq, Repr

def BlocklistFile.name : BlocklistFile → String
  | .nested => "blocklist.custom.fst.fst.tmp"
  | .custom => "blocklist.custom.fst.tmp"
  | .merged => "blocklist.fst.tmp"
  | .output => "blocklist.fst"

/-- The arguments of the installer, the verified release in its workspace, and what the
programs that it runs answer. -/
structure Installation where
  repair : Bool
  network : String
  proxyEndpoint : Option String
  /-- The content of a file of the release, by its path there. -/
  release : Path → String
  web : Disk.Tree String
  plugins : Disk.Tree String
  /-- The configuration to install, with the name of its file. -/
  configName : String
  config : String
  publicConfig : Option (Disk.Tree String)
  publicHosts : Option String
  secrets : Option Secrets
  /-- The name that `mktemp` completes. -/
  backupName : String
  xanhtab : Nat × Nat
  browser : Nat × Nat
  /-- What `systemd-sysusers` writes to the account database. -/
  accounts : Path → Option String
  /-- What `chown -R` finds below a directory. -/
  found : List Path
  serverKey : String
  serverCertificate : String
  /-- The writes of `xanhtab-blocklist`, in their order; `none` removes the file. -/
  blocklist : List (BlocklistFile × Option String)

namespace Installation

variable (installation : Installation)

/-- `root:xanhtab` -/
def secretOwner : Nat × Nat :=
  (0, installation.xanhtab.2)

/-- `BACKUP_DIR` -/
def backupDir : Path :=
  BACKUP_ROOT ++ [installation.backupName]

end Installation

/-- The lines of a text that begin in this way are replaced. -/
def replaceLines (start line text : String) : String :=
  "\n".intercalate <| (text.splitOn "\n").map fun old => if old.startsWith start then line else old

/-- A line follows the lines of a text that begin in this way. -/
def appendLines (start line text : String) : String :=
  "\n".intercalate <| (text.splitOn "\n").flatMap fun old =>
    if old.startsWith start then [old, line] else [old]

def hasLine (start text : String) : Bool :=
  (text.splitOn "\n").any (String.startsWith · start)

/-- The line `control_uid`, which is put after `netd_socket` where there is none. -/
def pinControl (uid : Nat) (text : String) : String :=
  let line := "control_uid = " ++ toString uid
  if hasLine "control_uid = " text then replaceLines "control_uid = " line text
  else appendLines "netd_socket = " line text

/-- `-f` -/
def isFile (files : Files String) (path : Path) : Bool :=
  match find files path with
  | some ⟨.file _, _⟩ => true
  | _ => false

/-- `-s`, for files. -/
def hasContent (files : Files String) (path : Path) : Bool :=
  match find files path with
  | some ⟨.file content, _⟩ => content ≠ ""
  | _ => false

/-! ## Commands -/

section Commands

variable (installation : Installation)

def CONFIG : Path := ["etc", "xanhtab", "xanhtab.toml"]
def HOSTS : Path := ["etc", "xanhtab", "custom_hosts.txt"]
def STATE : Path := ["var", "lib", "xanhtab"]
def REMOTE : Path := ["var", "lib", "xanhtab", "remote-config"]
def SECRETS : Path := ["etc", "xanhtab", "secrets"]
def TLS : Path := ["etc", "xanhtab", "tls"]

/-- The directories that are made before files are installed. -/
def DIRECTORIES : List Path :=
  [["usr", "local", "bin"], ["usr", "local", "libexec"], ["usr", "share", "xanhtab", "web"],
    ["usr", "lib", "xanhtab", "gstreamer-1.0"], ["etc", "xanhtab"],
    ["etc", "systemd", "system"], ["usr", "lib", "tmpfiles.d"], ["usr", "lib", "sysusers.d"]]

/-- `install -m 0755 $release/libexec/name /usr/local/libexec/name` -/
def installProgram (name : String) : Write String :=
  installFile 0o755 rootUser name (installation.release ["libexec", name])
    ["usr", "local", "libexec", name]

/-- `install -m 0644 $release/systemd/name /etc/systemd/system/name` -/
def installUnit (name : String) : Write String :=
  installFile 0o644 rootUser name (installation.release ["systemd", name])
    ["etc", "systemd", "system", name]

/-- The commands on which the account database and the configuration do not depend. -/
def installFiles : List (Command String) :=
  [fun _ => DIRECTORIES.flatMap (installDirectory 0o755 none),
    fun _ => [installFile 0o755 rootUser "xanhtabd" (installation.release ["bin", "xanhtabd"])
      ["usr", "local", "bin", "xanhtabd"]],
    fun _ => [installProgram installation "xanhtab-browser"],
    fun _ => [installProgram installation "xanhtab-netd"],
    fun _ => [installProgram installation "xanhtab-blocklist"],
    fun _ => [installProgram installation "xanhtab-validate-blocklist-release"],
    fun _ => [installProgram installation "xanhtab-x1-burn-audit"],
    fun _ => copyTree installation.web ["usr", "share", "xanhtab", "web"],
    fun _ => copyTree installation.plugins ["usr", "lib", "xanhtab", "gstreamer-1.0"],
    fun _ => [installUnit installation "xanhtabd.service"],
    fun _ => [installUnit installation "xanhtab-browser.service"],
    fun _ => [installUnit installation "xanhtab-netd.service"],
    fun _ => [installFile 0o644 rootUser "xanhtab-tmpfiles.conf"
      (installation.release ["systemd", "xanhtab-tmpfiles.conf"])
      ["usr", "lib", "tmpfiles.d", "xanhtab.conf"]],
    fun _ => [installFile 0o644 rootUser "xanhtab.sysusers"
      (installation.release ["systemd", "xanhtab.sysusers"])
      ["usr", "lib", "sysusers.d", "xanhtab.conf"]]]

/-- `systemd-sysusers` -/
def createAccounts : Command String :=
  fun _ => ACCOUNT_FILES.filterMap fun path =>
    (installation.accounts path).map fun content => replaceFile content path

/-- The configuration and the hosts file, which a repair keeps. -/
def installConfig : List (Command String) :=
  [fun files =>
      if installation.repair && isFile files CONFIG then []
      else [installFile 0o640 rootUser installation.configName installation.config CONFIG],
    fun _ => [edit (pinControl installation.xanhtab.1) CONFIG],
    fun _ => [edit (replaceLines "browser_uid = "
      ("browser_uid = " ++ toString installation.browser.1)) CONFIG],
    fun _ => [chown installation.secretOwner CONFIG],
    fun files =>
      if installation.repair && isFile files HOSTS then []
      else [installFile 0o640 installation.secretOwner "custom_hosts.txt"
        (installation.release ["config", "custom_hosts.txt"]) HOSTS]]

def installState : List (Command String) :=
  [fun _ => installDirectory 0o750 (some installation.xanhtab) STATE,
    fun _ => [installFile 0o644 installation.xanhtab "blocklist-metadata.json"
      (installation.release ["config", "blocklist-metadata.json"])
      (STATE ++ ["blocklist-metadata.json"])]]

def installPublicConfig : List (Command String) :=
  match installation.publicConfig with
  | none => []
  | some tree =>
      [fun _ => installDirectory 0o750 (some installation.xanhtab) REMOTE,
        fun _ => copyTree tree REMOTE,
        fun _ => installation.found.map fun rest => chownFound installation.xanhtab (REMOTE ++ rest),
        fun _ => installation.publicHosts.toList.map fun content =>
          installFile 0o640 installation.secretOwner "custom_hosts.txt" content HOSTS]

/-- `install_secrets` -/
def installSecrets : List (Command String) :=
  match installation.secrets with
  | none => []
  | some secrets =>
      let install owner mode name content : Write String :=
        installFile mode owner name content (SECRETS ++ [name])
      [fun _ => installDirectory 0o750 (some installation.secretOwner) SECRETS,
        fun _ => secrets.wireguard.toList.map (install rootUser 0o600 "wg0.conf"),
        fun _ => secrets.proxyUrl.toList.map (install installation.secretOwner 0o640 "proxy-url"),
        fun _ => secrets.stun.toList.map (install installation.secretOwner 0o640 "stun.json"),
        fun _ => secrets.turn.toList.map (install installation.secretOwner 0o640 "turn.json")]

/-- `systemd-tmpfiles --create` -/
def createDirectories : Command String :=
  fun _ =>
    tmpfilesDirectory 0o770 installation.xanhtab ["run", "xanhtab"] ++
      tmpfilesDirectory 0o770 (installation.browser.1, installation.xanhtab.2)
        ["run", "xanhtab-session"] ++
      tmpfilesDirectory 0o750 installation.xanhtab STATE ++
      tmpfilesDirectory 0o750 installation.secretOwner SECRETS

def pinNetwork : List (Command String) :=
  [fun _ => [edit (replaceLines "initial_mode = "
      ("initial_mode = \"" ++ installation.network ++ "\"")) CONFIG],
    fun _ => installation.proxyEndpoint.toList.map fun endpoint =>
      edit (replaceLines "proxy_endpoint = " ("proxy_endpoint = \"" ++ endpoint ++ "\"")) CONFIG]

/-- `ensure_tls` -/
def ensureTls : List (Command String) :=
  [fun _ => installDirectory 0o750 (some installation.secretOwner) TLS,
    fun files =>
      if hasContent files (TLS ++ ["server.crt"]) && hasContent files (TLS ++ ["server.key"]) then []
      else
        [writeFile 0o600 installation.serverKey (TLS ++ ["server.key"]),
          writeFile 0o644 installation.serverCertificate (TLS ++ ["server.crt"])],
    fun _ => [chown installation.secretOwner (TLS ++ ["server.crt"]),
      chown installation.secretOwner (TLS ++ ["server.key"])],
    fun _ => [chmod 0o644 (TLS ++ ["server.crt"])],
    fun _ => [chmod 0o640 (TLS ++ ["server.key"])]]

def compileBlocklist : List (Command String) :=
  [fun _ => installation.blocklist.map fun (file, content) =>
      match content with
      | some content => replaceFile content (STATE ++ [file.name])
      | none => removeFile (STATE ++ [file.name]),
    fun _ => [chown installation.xanhtab (STATE ++ ["blocklist.fst"])],
    fun _ => [chmod 0o644 (STATE ++ ["blocklist.fst"])]]

/-- The commands of `install_release` once `FILES_MUTATED` is set. -/
def mutate : List (Command String) :=
  installFiles installation ++ createAccounts installation :: installConfig installation ++
    installState installation ++ installPublicConfig installation ++
    installSecrets installation ++ createDirectories installation :: pinNetwork installation ++
    ensureTls installation ++ compileBlocklist installation

end Commands

/-! ## Backup -/

/-- The place that a path of the backup is copied from.  The links above the target are
followed, the target itself and what is below it are copied as they are. -/
def source (files : Files String) (target path : Path) : Option Path :=
  if target <+: path then
    (parentPlace files target).map (· ++ path.drop target.length)
  else resolve files path

/-- `cp -a --parents target backup`, with the directories above the target. -/
def copyParents (files : Files String) (backup target : Path) : Files String :=
  fun place =>
    let path := place.drop backup.length
    if backup <+: place ∧ path ≠ [] ∧ (path <+: target ∨ target <+: path) then
      match (source files target path).bind files with
      | some entry => some entry
      | none => files place
    else files place

def backUp (backup : Path) (files : Files String) (target : Path) : Option (Files String) :=
  if present files target then
    (resolve files backup).map fun place => copyParents files place target
  else some files

/-- `mktemp -d`; the `chmod 0700` that follows finds this mode. -/
def makeBackupDir (files : Files String) (path : Path) : Option (Files String) :=
  match parentPlace files path with
  | none => none
  | some place =>
      if files place = none ∧ (files place.dropLast).any Entry.isDirectory then
        some (Function.update files place (some ⟨.directory, 0o700, 0, 0⟩))
      else none

/-! ## The installer -/

/-- What is left to do. -/
inductive Stage
  | stopping (units : List ServiceUnit)
  /-- The writes of `install -d -m 0700 "$BACKUP_ROOT"`. -/
  | preparing (writes : List (Write String))
  | backingUp (targets : List Path)
  /-- The writes of the command that runs, and the commands that follow it. -/
  | mutating (writes : List (Write String)) (commands : List (Command String))
  | activating (operations : List Operation)

structure State where
  stage : Stage
  files : Files String
  units : Units
  /-- `PREVIOUS_ENABLED` and `PREVIOUS_ACTIVE`. -/
  previous : Units
  /-- `BACKUP_DIR`, once it is set. -/
  backupDir : Option Path
  filesMutated : Bool

/-- What the installer finds. -/
structure Machine where
  disk : FileSystem String
  units : Units

/-- The state has been captured and `MUTATION_STARTED` is set. -/
def start (machine : Machine) : State where
  stage := .stopping STOP_UNITS
  files := machine.disk.files
  units := machine.units
  previous := machine.units
  backupDir := none
  filesMutated := false

def step (installation : Installation) (state : State) : Unit → Option State :=
  fun _ =>
    match state.stage with
    | .stopping (unit :: rest) =>
        some { state with stage := .stopping rest, units := stopUnit state.units unit }
    | .stopping [] => some { state with stage := .preparing (installDirectory 0o700 none BACKUP_ROOT) }
    | .preparing (write :: rest) =>
        (write.apply state.files).map fun files => { state with stage := .preparing rest, files }
    | .preparing [] =>
        (makeBackupDir state.files installation.backupDir).map fun files =>
          { state with
            stage := .backingUp INSTALL_TARGETS
            files
            backupDir := some installation.backupDir }
    | .backingUp (target :: rest) =>
        (backUp installation.backupDir state.files target).map fun files =>
          { state with stage := .backingUp rest, files }
    | .backingUp [] =>
        some { state with stage := .mutating [] (mutate installation), filesMutated := true }
    | .mutating (write :: rest) commands =>
        (write.apply state.files).map fun files =>
          { state with stage := .mutating rest commands, files }
    | .mutating [] (command :: commands) =>
        some { state with stage := .mutating (command state.files) commands }
    | .mutating [] [] => some { state with stage := .activating activate }
    | .activating (operation :: rest) =>
        some { state with stage := .activating rest, units := operate state.units operation }
    | .activating [] => none

/-! ## Rollback -/

/-- A unit gets back the state that was captured. -/
def restoreUnit (previous units : Units) (unit : ServiceUnit) : Units :=
  let units :=
    if (previous unit).enabled then setEnabled true units unit else disableUnit units unit
  if (previous unit).active then setActive true units unit else stopUnit units unit

/-- The three loops over the units. -/
def restoreUnits (previous units : Units) : Units :=
  SERVICE_UNITS.foldl (restoreUnit previous)
    (SERVICE_UNITS.foldl disableUnit (STOP_UNITS.foldl stopUnit units))

/-- `find -mindepth 1 -delete` in a directory, `rm -f` of a link. -/
def clearRuntime (files : Files String) (path : Path) : Files String :=
  match parentPlace files path with
  | none => files
  | some place =>
      if isLink files path then Function.update files place none
      else if isDir files path then
        fun inside => if place <+: inside ∧ place ≠ inside then none else files inside
      else files

/-- `rm -rf` of what leads to a directory, `rm -f` of what exists otherwise or is a link. -/
def removeTarget (files : Files String) (target : Path) : Files String :=
  match parentPlace files target with
  | none => files
  | some place =>
      if isDir files target || present files target || isLink files target then
        fun inside => if place <+: inside then none else files inside
      else files

/-- The runtime directories have been cleared, and the targets removed. -/
def removed (state : State) : Files String :=
  let cleared := RUNTIME_PATHS.foldl clearRuntime state.files
  if state.filesMutated then INSTALL_TARGETS.foldl removeTarget cleared else cleared

/-- Where the backup is that is copied back, if it is. -/
def backupPlace (state : State) : Option Path :=
  if state.filesMutated then
    state.backupDir.bind fun path =>
      if isDir (removed state) path then resolve (removed state) path else none
  else none

/-- `cp -a "$BACKUP_DIR/." /`: the backup directory stands for the root. -/
def copyBack (files : Files String) (backup : Path) : Files String :=
  fun place =>
    match files (backup ++ place) with
    | some entry => some entry
    | none => files place

/-- `rollback_install`, if each of its commands succeeds. -/
def rollback (state : State) : State :=
  { state with
    files :=
      match backupPlace state with
      | some place => copyBack (removed state) place
      | none => removed state
    units := restoreUnits state.previous state.units }

/-- Each command of the rollback has succeeded: `cp` finds a directory where it copies
one, and none where it copies another file. -/
structure RollsBack (before after : State) : Prop where
  copied : ∀ backup, backupPlace before = some backup → ∀ place new old,
    removed before (backup ++ place) = some new → removed before place = some old →
    new.isDirectory = old.isDirectory
  result : after = rollback before

end XanhTab.Installer
