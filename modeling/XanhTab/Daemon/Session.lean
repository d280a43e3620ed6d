import XanhTab.Daemon.Auth
import XanhTab.Program.Core

/-!
# The session manager

`SessionManager` of `session.rs` and `EventBus::publish` of `events.rs`.  Each
operation is a program whose sections are the critical sections of the session
lock; what a section does is a function of its own.  Every operation that ends
by publishing does so after it has released the lock.
-/

namespace XanhTab

open Program

/-! ## State -/

structure HistoryEntry where
  url : Url
  visitedAt : DateTime
  deriving DecidableEq, Repr

/-- The history is kept from the oldest entry to the newest. -/
structure SessionData where
  snapshot : SessionSnapshot
  controller : Option Uuid := none
  history : List HistoryEntry := []
  lastActivity : Instant
  deriving DecidableEq, Repr

/-- A message that an accepted socket was sent, or a relay that it opened, with
the session as it was when that happened. -/
structure Delivery where
  client : Uuid
  sessionId : Uuid
  content : Option ServerEvent
  current : SessionData
  deriving DecidableEq, Repr

/-- A URL that a start or a navigation was admitted with, and whether the policy
was enabled then. -/
structure Admission where
  url : Url
  enabled : Bool
  deriving DecidableEq, Repr

/-- Everything that the tasks of the daemon share, with the clocks and the
random source.  The events are all those ever published and the admissions all
those ever made, oldest first. -/
structure Daemon where
  session : SessionData
  auth : AuthState := {}
  events : List ServerEvent := []
  deliveries : List Delivery := []
  admissions : List Admission := []
  blocklistHits : Nat := 0
  rng : Rng
  now : Instant := 0
  utc : DateTime := 0

/-- The immutable part of a session manager.  `blocklist` is the set of hosts
that `Blocklist::contains` accepts. -/
structure SessionManager where
  initialEgress : EgressMode := .direct
  initialProfile : StreamProfile := .fullHd30
  initialAutoBurnSeconds : Nat := 1800
  blocklist : String → Bool := fun _ => false

/-- A task of the daemon. -/
abbrev Routine (α : Type) := Program Daemon Call Call.Reply α

namespace Routine

def browserStart (id : Uuid) (url : Url) (profile : StreamProfile) (egress : EgressMode) :
    Routine (Except AppError Unit) :=
  call true (.browserStart id url profile egress) done

def browserStop : Routine (Except AppError Unit) :=
  call true .browserStop done

def browserNavigate (command : NavigationCommand) : Routine (Except AppError Unit) :=
  call true (.browserNavigate command) done

def egressApply (mode : EgressMode) : Routine (Except AppError Unit) :=
  call true (.egressApply mode) done

def egressReset : Routine (Except AppError Unit) :=
  call true .egressReset done

/-- The directory is cleared synchronously. -/
def clearRuntimeDir : Routine (Except String Unit) :=
  call false .clearRuntimeDir done

/-- The pairing file is written synchronously. -/
def writePairingFile (body : String) : Routine (Except String Unit) :=
  call false (.writePairingFile body) done

end Routine

/-- `EventBus::publish`, with the snapshot of a session that was copied under
the lock. -/
def EventBus.publish (event : String) (data : SessionData) (daemon : Daemon) : Daemon :=
  { daemon with
    events := daemon.events ++
      [{ event, publishedAt := daemon.utc, session := data.snapshot
         controller := data.controller }] }

/-- `Uuid::new_v4`. -/
def Daemon.newUuid (daemon : Daemon) : Uuid × Daemon :=
  (daemon.rng.newUuid.1, { daemon with rng := daemon.rng.newUuid.2 })

/-! ## Leases and history -/

def acquireLease (data : SessionData) (client : Uuid) : Except AppError SessionData :=
  if data.controller.any (· ≠ client) then .error .leaseConflict
  else .ok { data with controller := some client }

def ensureLease (data : SessionData) (client : Uuid) : Except AppError Unit :=
  if data.controller = some client then .ok () else .error .leaseConflict

def ensureActiveLease (data : SessionData) (client : Uuid) : Except AppError Unit :=
  match ensureLease data client with
  | .error error => .error error
  | .ok () => if data.snapshot.phase ≠ .active then .error .sessionNotActive else .ok ()

def pushHistory (history : List HistoryEntry) (url : Url) (visitedAt : DateTime) :
    List HistoryEntry :=
  (if history.length = 128 then history.tail else history) ++ [⟨url, visitedAt⟩]

/-! ## What the critical sections write -/

namespace SessionData

/-- The first section of a start, once the lease is held. -/
def begun (data : SessionData) (id : Uuid) (url : Url) (utc : DateTime) (now : Instant) :
    SessionData :=
  { data with
    snapshot :=
      { data.snapshot with
        id := some id
        phase := .starting
        url := some url
        startedAt := some utc
        failure := none
        controllerAttached := true }
    lastActivity := now }

/-- The first section of a burn or a switch. -/
def burning (data : SessionData) : SessionData :=
  { data with snapshot := { data.snapshot with phase := .burning } }

/-- The last section of a successful start. -/
def activated (data : SessionData) (url : Url) (utc : DateTime) : SessionData :=
  { data with
    snapshot := { data.snapshot with phase := .active }
    history := pushHistory data.history url utc }

def failed (data : SessionData) (message : String) : SessionData :=
  { data with snapshot := { data.snapshot with phase := .failed, failure := some message } }

/-- The last section of a successful navigation. -/
def navigated (data : SessionData) (command : NavigationCommand) (utc : DateTime) : SessionData :=
  match command with
  | .navigate url =>
      { data with
        snapshot := { data.snapshot with url := some url }
        history := pushHistory data.history url utc }
  | _ => data

/-- The last section of a successful egress switch. -/
def switched (data : SessionData) (id : Uuid) (mode : EgressMode) (url : Url) (utc : DateTime)
    (now : Instant) : SessionData :=
  { data with
    snapshot :=
      { data.snapshot with
        id := some id, egress := mode, phase := .active, startedAt := some utc }
    history := pushHistory [] url utc
    lastActivity := now }

/-- The last section of a switch that was rolled back. -/
def rolledBack (data : SessionData) (id : Uuid) (mode : EgressMode) (url : Url) (utc : DateTime)
    (now : Instant) : SessionData :=
  { data with
    snapshot :=
      { data.snapshot with
        id := some id, phase := .active, egress := mode, startedAt := some utc, failure := none }
    history := pushHistory [] url utc
    lastActivity := now }

/-- The last section of a switch whose rollback failed. -/
def switchFailed (data : SessionData) (message : String) : SessionData :=
  { data with
    snapshot := { data.snapshot with phase := .failed, failure := some message }
    history := [] }

end SessionData

namespace SessionManager

variable (manager : SessionManager)

def initialSnapshot : SessionSnapshot :=
  { egress := manager.initialEgress
    streamProfile := manager.initialProfile
    autoBurnSeconds := manager.initialAutoBurnSeconds }

/-- `SessionManager::new_with_blocklist`; a burn ends in the same data. -/
def initialData (now : Instant) : SessionData :=
  { snapshot := manager.initialSnapshot, lastActivity := now }

/-- The navigation policy refuses the URL. -/
def blocks (url : Url) : Bool :=
  (url.scheme == "http" || url.scheme == "https") && url.host.any manager.blocklist

/-- `ensure_navigation_allowed`.  A refusal counts as a hit of the blocklist. -/
def ensureNavigationAllowed (url : Url) (enabled : Bool) (daemon : Daemon) :
    Except AppError Unit × Daemon :=
  if enabled && manager.blocks url then
    (.error .navigationBlocked,
      { daemon with blocklistHits := (daemon.blocklistHits + 1) % 2 ^ 64 })
  else (.ok (), daemon)

/-- What an accepted command adds to the admissions. -/
def admitted (enabled : Bool) : NavigationCommand → List Admission
  | .navigate url => [⟨url, enabled⟩]
  | _ => []

/-! ## Shared steps -/

/-- `SessionManager::publish`. -/
def publish (event : String) : Routine Unit := do
  let data ← read (·.session)
  sync fun daemon => ((), EventBus.publish event data daemon)

/-- Change the session under its lock and publish the result after releasing
the lock, as every operation does at its end. -/
def commit (event : String) (update : Daemon → SessionData) : Routine SessionSnapshot := do
  let data ← lock fun daemon => (update daemon, { daemon with session := update daemon })
  sync fun daemon => ((), EventBus.publish event data daemon)
  return data.snapshot

/-- `browser.stop`, noting a failure. -/
def stopBrowser (failures : List String) : Routine (List String) := do
  match ← Routine.browserStop with
  | .ok () => return failures
  | .error error => return failures ++ ["browser stop: " ++ error.display]

/-- `egress.reset`, noting a failure. -/
def resetEgress (failures : List String) : Routine (List String) := do
  match ← Routine.egressReset with
  | .ok () => return failures
  | .error error => return failures ++ ["egress reset: " ++ error.display]

/-- `clear_runtime_dir`, noting a failure. -/
def clearRuntime (failures : List String) : Routine (List String) := do
  match ← Routine.clearRuntimeDir with
  | .ok () => return failures
  | .error error => return failures ++ ["session cleanup: " ++ error]

def fail (message : String) : Routine (Except AppError SessionSnapshot) := do
  let _ ← commit "session.failed" fun daemon => daemon.session.failed message
  return .error (.serviceUnavailable message)

/-! ## Start -/

/-- The first section of `start`. -/
def beginStart (client : Uuid) (url : Url) (daemon : Daemon) :
    Except AppError (Uuid × StreamProfile × EgressMode) × Daemon :=
  if daemon.session.snapshot.phase ≠ .idle ∧ daemon.session.snapshot.phase ≠ .failed then
    (.error .invalidTransition, daemon)
  else
    match manager.ensureNavigationAllowed url daemon.session.snapshot.blocklistEnabled daemon with
    | (.error error, daemon) => (.error error, daemon)
    | (.ok (), daemon) =>
        match acquireLease daemon.session client with
        | .error error => (.error error, daemon)
        | .ok data =>
            (.ok (daemon.rng.newUuid.1, data.snapshot.streamProfile, data.snapshot.egress),
              { daemon with
                rng := daemon.rng.newUuid.2
                admissions := daemon.admissions ++ [⟨url, data.snapshot.blocklistEnabled⟩]
                session := data.begun daemon.rng.newUuid.1 url daemon.utc daemon.now })

def start (client : Uuid) (url : Url) : Routine (Except AppError SessionSnapshot) := do
  match ← lock (manager.beginStart client url) with
  | .error error => return .error error
  | .ok (id, profile, egress) =>
      publish "session.starting"
      match ← Routine.egressApply egress with
      | .error error =>
          let failures ← resetEgress ["egress apply: " ++ error.display]
          let failures ← clearRuntime failures
          fail (String.intercalate "; " failures)
      | .ok () =>
          match ← Routine.browserStart id url profile egress with
          | .error error =>
              let failures ← stopBrowser ["browser start: " ++ error.display]
              let failures ← resetEgress failures
              let failures ← clearRuntime failures
              fail (String.intercalate "; " failures)
          | .ok () =>
              let snapshot ← commit "session.active" fun daemon =>
                daemon.session.activated url daemon.utc
              return .ok snapshot

/-! ## Burn -/

/-- The first section of a burn: an idle session is left as it is. -/
def beginBurn (daemon : Daemon) : Option SessionSnapshot × Daemon :=
  if daemon.session.snapshot.phase = .idle then (some daemon.session.snapshot, daemon)
  else (none, { daemon with session := daemon.session.burning })

/-- `burn_unchecked`, which is also `force_burn`. -/
def forceBurn : Routine (Except AppError SessionSnapshot) := do
  match ← lock beginBurn with
  | some snapshot => return .ok snapshot
  | none =>
      publish "session.burning"
      let failures ← stopBrowser []
      let failures ← resetEgress failures
      let failures ← clearRuntime failures
      if failures = [] then
        let snapshot ← commit "session.idle" fun daemon => manager.initialData daemon.now
        return .ok snapshot
      else
        let message := String.intercalate "; " failures
        let _ ← commit "session.burn_failed" fun daemon =>
          (manager.initialData daemon.now).failed message
        return .error (.serviceUnavailable message)

def burn (client : Uuid) : Routine (Except AppError SessionSnapshot) := do
  match ← read fun daemon => ensureLease daemon.session client with
  | .error error => return .error error
  | .ok () => manager.forceBurn

/-! ## Navigation -/

/-- The first section of `navigate`.  The activity counts even when the policy
refuses the URL. -/
def beginNavigation (client : Uuid) (command : NavigationCommand) (daemon : Daemon) :
    Except AppError Unit × Daemon :=
  match ensureActiveLease daemon.session client with
  | .error error => (.error error, daemon)
  | .ok () =>
      let daemon := { daemon with session := { daemon.session with lastActivity := daemon.now } }
      let allowed :=
        match command with
        | .navigate url =>
            manager.ensureNavigationAllowed url daemon.session.snapshot.blocklistEnabled daemon
        | _ => (.ok (), daemon)
      match allowed with
      | (.error error, daemon) => (.error error, daemon)
      | (.ok (), daemon) =>
          (.ok (),
            { daemon with
              admissions := daemon.admissions ++
                admitted daemon.session.snapshot.blocklistEnabled command })

def navigate (client : Uuid) (command : NavigationCommand) :
    Routine (Except AppError SessionSnapshot) := do
  match ← lock (manager.beginNavigation client command) with
  | .error error => return .error error
  | .ok () =>
      match ← Routine.browserNavigate command with
      | .error error => return .error error
      | .ok () =>
          let snapshot ← commit "session.navigation" fun daemon =>
            daemon.session.navigated command daemon.utc
          return .ok snapshot

/-! ## Settings -/

/-- The section of a settings operation. -/
def change (client : Uuid) (setting : SessionSnapshot → SessionSnapshot) (daemon : Daemon) :
    Except AppError SessionData × Daemon :=
  match ensureActiveLease daemon.session client with
  | .error error => (.error error, daemon)
  | .ok () =>
      let data :=
        { daemon.session with
          snapshot := setting daemon.session.snapshot, lastActivity := daemon.now }
      (.ok data, { daemon with session := data })

/-- A settings operation, which does not take the lifecycle mutex. -/
def changeSetting (client : Uuid) (event : String)
    (setting : SessionSnapshot → SessionSnapshot) :
    Routine (Except AppError SessionSnapshot) := do
  match ← lock (change client setting) with
  | .error error => return .error error
  | .ok data =>
      sync fun daemon => ((), EventBus.publish event data daemon)
      return .ok data.snapshot

def setStreamProfile (client : Uuid) (profile : StreamProfile) :
    Routine (Except AppError SessionSnapshot) :=
  changeSetting client "stream.profile" fun snapshot => { snapshot with streamProfile := profile }

def setBlocklistEnabled (client : Uuid) (enabled : Bool) :
    Routine (Except AppError SessionSnapshot) :=
  changeSetting client "blocklist.setting" fun snapshot =>
    { snapshot with blocklistEnabled := enabled }

def setAutoBurnSeconds (client : Uuid) (seconds : Nat) :
    Routine (Except AppError SessionSnapshot) :=
  if seconds > 86400 then
    return .error (.invalidRequest "auto-burn must be zero or no more than 86400 seconds")
  else
    changeSetting client "auto_burn.setting" fun snapshot =>
      { snapshot with autoBurnSeconds := seconds }

def ensureController (client : Uuid) : Routine (Except AppError Unit) :=
  read fun daemon => ensureActiveLease daemon.session client

/-! ## Egress switch -/

/-- The first section of `switch_egress`. -/
def beginSwitch (client : Uuid) (daemon : Daemon) :
    Except AppError (Url × StreamProfile × EgressMode) × Daemon :=
  match ensureActiveLease daemon.session client with
  | .error error => (.error error, daemon)
  | .ok () =>
      let daemon := { daemon with session := daemon.session.burning }
      let snapshot := daemon.session.snapshot
      match snapshot.url with
      | none => (.error .sessionNotActive, daemon)
      | some url => (.ok (url, snapshot.streamProfile, snapshot.egress), daemon)

/-- `clear_runtime_dir` inside a switch, where its error gets a label. -/
def clearFor (label : String) : Routine (Except AppError Unit) := do
  match ← Routine.clearRuntimeDir with
  | .ok () => return .ok ()
  | .error error => return .error (.serviceUnavailable (label ++ error))

/-- Reset the policy, clear the runtime directory, and start the browser under
the mode; the first failure ends the sequence. -/
def restart (label : String) (id : Uuid) (url : Url) (profile : StreamProfile)
    (mode : EgressMode) : Routine (Except AppError Unit) :=
  Routine.egressReset.andThen fun _ =>
    (clearFor label).andThen fun _ =>
      (Routine.egressApply mode).andThen fun _ =>
        Routine.browserStart id url profile mode

/-- `switch_result`. -/
def switchAttempt (id : Uuid) (url : Url) (profile : StreamProfile) (mode : EgressMode) :
    Routine (Except AppError Unit) :=
  Routine.browserStop.andThen fun _ => restart "session cleanup: " id url profile mode

/-- `rollback_result`, in which a failing stop is ignored. -/
def rollback (id : Uuid) (url : Url) (profile : StreamProfile) (mode : EgressMode) :
    Routine (Except AppError Unit) := do
  let _ ← Routine.browserStop
  restart "rollback cleanup: " id url profile mode

/-- What `switch_egress` does after its attempt has failed. -/
def recover (switchError : AppError) (url : Url) (profile : StreamProfile)
    (previousMode : EgressMode) : Routine (Except AppError SessionSnapshot) := do
  let rollbackId ← sync Daemon.newUuid
  match ← rollback rollbackId url profile previousMode with
  | .error rollbackError =>
      let message := "egress switch failed: " ++ switchError.display ++
        "; rollback failed: " ++ rollbackError.display
      let _ ← commit "egress.failed" fun daemon => daemon.session.switchFailed message
      return .error (.serviceUnavailable message)
  | .ok () =>
      let _ ← commit "egress.rolled_back" fun daemon =>
        daemon.session.rolledBack rollbackId previousMode url daemon.utc daemon.now
      return .error (.serviceUnavailable
        ("egress switch failed and was rolled back: " ++ switchError.display))

def switchEgress (client : Uuid) (mode : EgressMode) :
    Routine (Except AppError SessionSnapshot) := do
  match ← lock (beginSwitch client) with
  | .error error => return .error error
  | .ok (url, profile, previousMode) =>
      publish "egress.switching"
      let newId ← sync Daemon.newUuid
      match ← switchAttempt newId url profile mode with
      | .error switchError => recover switchError url profile previousMode
      | .ok () =>
          let snapshot ← commit "egress.active" fun daemon =>
            daemon.session.switched newId mode url daemon.utc daemon.now
          return .ok snapshot

end SessionManager

end XanhTab
