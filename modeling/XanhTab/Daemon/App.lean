import Mathlib.Data.List.TakeWhile
import XanhTab.Daemon.Session

/-!
# The application state

`AppState` of `lib.rs`.  All its lifecycle operations hold the `lifecycle` mutex
from beginning to end, so their programs leave the mutex out; the pool that runs
them has it.
-/

namespace XanhTab

open Program

/-- The capacity is that of the broadcast channel for events. -/
structure AppState where
  sessions : SessionManager
  auth : AuthManager
  publicBaseUrl : String
  eventCapacity : Nat := 128

namespace AppState

/-- The text that publishes the material of these bytes. -/
def pairingText (app : AppState) (bytes : Bytes32) : String :=
  AuthManager.pairingFileBody ⟨Encoding.urlSafeNoPad bytes, Encoding.groupManualCode bytes⟩
    app.publicBaseUrl

/-- The text opens with a link to the dashboard that carries the secret, and closes
with the manual code, each of them up to the end of its line. -/
structure Publishes (app : AppState) (bytes : Bytes32) (text : String) : Prop where
  link : ∃ base slashes, app.publicBaseUrl.toList = base ++ slashes ∧ (∀ c ∈ slashes, c = '/') ∧
    "PAIRING_URL=".toList ++ base ++ "#pair=".toList ++
      (Encoding.urlSafeNoPad bytes).toList ++ ['\n'] <+: text.toList
  manual : "\nMANUAL_CODE=".toList ++ (Encoding.groupManualCode bytes).toList ++ ['\n'] <:+
    text.toList

/-- The pairing file holds both codes. -/
theorem publishes_pairingText (app : AppState) (bytes : Bytes32) :
    app.Publishes bytes (app.pairingText bytes) where
  link := by
    refine ⟨(app.publicBaseUrl.toList.reverse.dropWhile (· == '/')).reverse,
      (app.publicBaseUrl.toList.reverse.takeWhile (· == '/')).reverse, ?_, ?_, ?_⟩
    · rw [← List.reverse_append, List.takeWhile_append_dropWhile, List.reverse_reverse]
    · intro c member
      have slash := List.mem_takeWhile_imp (List.mem_reverse.mp member)
      simpa using slash
    · refine ⟨"MANUAL_CODE=".toList ++ (Encoding.groupManualCode bytes).toList ++ ['\n'], ?_⟩
      unfold pairingText AuthManager.pairingFileBody
      simp only [String.toList_append, String.toList_ofList, List.append_assoc]
      rfl
  manual := by
    refine ⟨"PAIRING_URL=".toList ++
      (app.publicBaseUrl.toList.reverse.dropWhile (· == '/')).reverse ++ "#pair=".toList ++
        (Encoding.urlSafeNoPad bytes).toList, ?_⟩
    unfold pairingText AuthManager.pairingFileBody
    simp only [String.toList_append, String.toList_ofList, List.append_assoc]
    rfl

end AppState

namespace Daemon

/-- Run a section of the authentication lock. -/
def withAuth {α : Type} (body : AuthState → α × AuthState) (daemon : Daemon) : α × Daemon :=
  ((body daemon.auth).1, { daemon with auth := (body daemon.auth).2 })

/-- Run a section of the authentication lock that draws random bytes. -/
def withAuthAndRng {α : Type} (body : AuthState → Rng → α × AuthState × Rng)
    (daemon : Daemon) : α × Daemon :=
  let after := body daemon.auth daemon.rng
  (after.1, { daemon with auth := after.2.1, rng := after.2.2 })

end Daemon

namespace AppState

variable (app : AppState)

/-! ## Lifecycle operations -/

def validateContext (context : AuthContext) : Routine (Except AppError Unit) :=
  sync fun daemon => daemon.withAuth (AuthManager.validateContext daemon.now context)

def requireSessionId (expectedId : Uuid) : Routine (Except AppError Unit) :=
  read fun daemon =>
    if daemon.session.snapshot.id = some expectedId then .ok () else .error .notFound

def startSession (context : AuthContext) (url : Url) :
    Routine (Except AppError SessionSnapshot) :=
  (validateContext context).andThen fun _ =>
    app.sessions.start context.clientId url

def navigate (context : AuthContext) (expectedId : Uuid) (command : NavigationCommand) :
    Routine (Except AppError SessionSnapshot) :=
  (validateContext context).andThen fun _ =>
    (requireSessionId expectedId).andThen fun _ =>
      app.sessions.navigate context.clientId command

def switchEgress (context : AuthContext) (expectedId : Uuid) (mode : EgressMode) :
    Routine (Except AppError SessionSnapshot) :=
  (validateContext context).andThen fun _ =>
    (requireSessionId expectedId).andThen fun _ =>
      SessionManager.switchEgress context.clientId mode

def rotatePairingMaterial : Routine (Except AppError Unit) := do
  match ← sync fun daemon => daemon.withAuthAndRng AuthManager.rotatePairing with
  | none => return .error .internal
  | some pairing =>
      match ← Routine.writePairingFile
          (AuthManager.pairingFileBody pairing app.publicBaseUrl) with
      | .ok () => return .ok ()
      | .error _ =>
          sync fun daemon =>
            daemon.withAuth fun auth => ((), AuthManager.invalidateUnpublishedPairing auth)
          return .error .internal

/-- Revoke all authentication and rotate the pairing, whatever the result of
the burn was. -/
def revokeAndRotate : Routine (Except AppError Unit) := do
  sync fun daemon => daemon.withAuth fun auth => ((), AuthManager.revokeAll auth)
  app.rotatePairingMaterial

def burnAndRotate (controller : Option Uuid) : Routine (Except AppError SessionSnapshot) := do
  let burnResult ←
    match controller with
    | some client => app.sessions.burn client
    | none => app.sessions.forceBurn
  let pairingResult ← app.revokeAndRotate
  match burnResult, pairingResult with
  | .error error, _ => return .error error
  | .ok _, .error error => return .error error
  | .ok snapshot, .ok () => return .ok snapshot

def burnControllerSession (context : AuthContext) (expectedId : Uuid) :
    Routine (Except AppError SessionSnapshot) :=
  (validateContext context).andThen fun _ =>
    (requireSessionId expectedId).andThen fun _ =>
      app.burnAndRotate (some context.clientId)

/-- `idle_for` is read in a section of its own, after the snapshot. -/
def autoBurnIfDue : Routine (Except AppError Bool) := do
  let snapshot ← read (·.session.snapshot)
  let threshold := Duration.ofSeconds snapshot.autoBurnSeconds
  if snapshot.phase ≠ .active ∨ threshold = 0 then return .ok false
  else
    let idleFor ← read fun daemon => daemon.now - daemon.session.lastActivity
    if idleFor < threshold then return .ok false
    else
      match ← app.burnAndRotate none with
      | .error error => return .error error
      | .ok _ => return .ok true

def recoverExpiredAuth : Routine (Except AppError Bool) := do
  let required ← sync fun daemon =>
    daemon.withAuth (AuthManager.pairingRecoveryRequired daemon.now)
  if required then
    let snapshot ← read (·.session.snapshot)
    let burnResult ←
      if snapshot.phase = .idle then (pure (.ok snapshot) : Routine (Except AppError _))
      else app.sessions.forceBurn
    let pairingResult ← app.revokeAndRotate
    match burnResult, pairingResult with
    | .error error, _ => return .error error
    | .ok _, .error error => return .error error
    | .ok _, .ok () => return .ok true
  else return .ok false

end AppState

end XanhTab
