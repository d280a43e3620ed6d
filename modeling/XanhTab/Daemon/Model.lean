import Mathlib.Algebra.Group.Nat.Defs
import Mathlib.Logic.Basic

/-!
# Daemon data types

The types of `model.rs`, `error.rs` and `events.rs`, together with the calls
that the daemon makes to code outside its memory.  Instants and durations count
nanoseconds on the monotonic clock; wall-clock times are opaque numbers.
-/

namespace XanhTab

/-- Identifiers are stored and compared only. -/
abbrev Uuid := Nat

abbrev Instant := Nat

abbrev Duration := Nat

abbrev DateTime := Nat

def Duration.ofSeconds (seconds : Nat) : Duration :=
  seconds * 1000000000

/-- A parsed URL by its components. -/
structure Url where
  scheme : String
  username : String := ""
  password : Option String := none
  host : Option String := none
  port : Option Nat := none
  path : String := ""
  query : Option String := none
  fragment : Option String := none
  deriving DecidableEq, Repr

inductive SessionPhase
  | idle | starting | active | burning | failed
  deriving DecidableEq, Repr

inductive EgressMode
  | direct | tor | warp | wireGuard | proxy
  deriving DecidableEq, Repr

inductive StreamProfile
  | fullHd30 | hd15 | sd10
  deriving DecidableEq, Repr

structure SessionSnapshot where
  id : Option Uuid := none
  phase : SessionPhase := .idle
  url : Option Url := none
  title : Option String := none
  egress : EgressMode := .direct
  streamProfile : StreamProfile := .fullHd30
  blocklistEnabled : Bool := true
  autoBurnSeconds : Nat := 1800
  controllerAttached : Bool := false
  startedAt : Option DateTime := none
  failure : Option String := none
  deriving DecidableEq, Repr

inductive NavigationCommand
  | navigate (url : Url)
  | back
  | forward
  | reload
  | stop
  deriving DecidableEq, Repr

inductive AppError
  | unauthorized
  | invalidCsrf
  | invalidPairing
  | leaseConflict
  | sessionNotActive
  | invalidTransition
  | notFound
  | navigationBlocked
  | invalidRequest (detail : String)
  | serviceUnavailable (detail : String)
  | dependencyFailure (detail : String)
  | encoderFailure (detail : String)
  | signalingFailure (detail : String)
  | leakTestFailure (detail : String)
  | internal
  deriving DecidableEq, Repr

/-- The text of an error, as failure messages quote it. -/
def AppError.display : AppError → String
  | unauthorized => "authentication required"
  | invalidCsrf => "invalid or expired CSRF token"
  | invalidPairing => "pairing secret is invalid or has already been used"
  | leaseConflict => "control lease is held by another client"
  | sessionNotActive => "session is not active"
  | invalidTransition => "session transition is not allowed from the current state"
  | notFound => "resource not found"
  | navigationBlocked => "navigation blocked by the active session policy"
  | invalidRequest detail => "invalid request: " ++ detail
  | serviceUnavailable detail => "service unavailable: " ++ detail
  | dependencyFailure detail => "dependency unavailable: " ++ detail
  | encoderFailure detail => "encoder unavailable: " ++ detail
  | signalingFailure detail => "signaling unavailable: " ++ detail
  | leakTestFailure detail => "egress leak test failed: " ++ detail
  | internal => "internal error"

/-- A published event.  The holder of the lease at the time of the snapshot is
not part of the message; it is kept for statements about who may see it. -/
structure ServerEvent where
  event : String
  publishedAt : DateTime
  session : SessionSnapshot
  controller : Option Uuid
  deriving DecidableEq, Repr

/-- What the daemon asks of its backends and of the file system. -/
inductive Call
  | browserStart (sessionId : Uuid) (url : Url) (profile : StreamProfile) (egress : EgressMode)
  | browserStop
  | browserNavigate (command : NavigationCommand)
  | egressApply (mode : EgressMode)
  | egressReset
  | clearRuntimeDir
  | writePairingFile (body : String)
  deriving DecidableEq, Repr

/-- Backends fail with an application error, the file system with a text.  The
daemon looks at no other part of an egress response. -/
abbrev Call.Reply : Call → Type
  | .clearRuntimeDir | .writePairingFile _ => Except String Unit
  | _ => Except AppError Unit

end XanhTab
