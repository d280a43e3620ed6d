import XanhTab.Daemon.Socket
import XanhTab.Program.Contract

/-!
# The running service

The pools that run the daemon.  The operations of the service are the lifecycle
operations of the application state, which exclude each other; its tasks are
the requests that do not take the lifecycle mutex, and the sockets.  A second
pool runs the operations of the session manager alone, for arbitrary clients.

Both pools are given a world of backends.  Besides what the world does, time
passes: the monotonic clock advances and the wall clock may be set at will.
-/

namespace XanhTab

open Program Transition

/-- What a finished task returns. -/
inductive Response
  | snapshot (result : Except AppError SessionSnapshot)
  | flag (result : Except AppError Bool)
  | exchanged (result : Except AppError ExchangeResult)
  | context (result : Except AppError AuthContext)
  | ticket (result : Except AppError String)
  | unit (result : Except AppError Unit)

/-- The error that an operation on the session responds with. -/
def Response.refusal : Response → Option AppError
  | snapshot (.error error) => some error
  | _ => none

/-- The snapshot that an operation on the session responds with. -/
def Response.shown : Response → Option SessionSnapshot
  | snapshot (.ok shown) => some shown
  | _ => none

theorem Response.eq_of_refusal {response : Response} {error : AppError}
    (refused : response.refusal = some error) : response = .snapshot (.error error) := by
  unfold refusal at refused
  split at refused
  · rw [Option.some.inj refused]
  · cases refused

theorem Response.eq_of_shown {response : Response} {snapshot : SessionSnapshot}
    (told : response.shown = some snapshot) : response = .snapshot (.ok snapshot) := by
  unfold shown at told
  split at told
  · rw [Option.some.inj told]
  · cases told

/-- A lifecycle operation of the application state. -/
inductive Lifecycle
  | startSession (context : AuthContext) (url : Url)
  | navigate (context : AuthContext) (expectedId : Uuid) (command : NavigationCommand)
  | switchEgress (context : AuthContext) (expectedId : Uuid) (mode : EgressMode)
  | burnControllerSession (context : AuthContext) (expectedId : Uuid)
  | autoBurnIfDue
  | recoverExpiredAuth

/-- An operation of the session manager. -/
inductive SessionOperation
  | start (client : Uuid) (url : Url)
  | burn (client : Uuid)
  | forceBurn
  | navigate (client : Uuid) (command : NavigationCommand)
  | switchEgress (client : Uuid) (mode : EgressMode)

/-- A task that does not take the lifecycle mutex. -/
inductive Request
  | exchangePairing (presented : String)
  | authenticate (sessionToken csrfToken : Option String) (requireCsrf : Bool)
  | issueTicket (context : AuthContext) (purpose : TicketPurpose)
  | consumeTicket (token : String) (purpose : TicketPurpose)
  | ensureController (client : Uuid)
  | setStreamProfile (client : Uuid) (profile : StreamProfile)
  | setBlocklistEnabled (client : Uuid) (enabled : Bool)
  | setAutoBurnSeconds (client : Uuid) (seconds : Nat)
  | eventSocket (id : Uuid) (message : FirstMessage) (turns : List Turn)
  | signalSocket (id : Uuid) (message : FirstMessage) (connects : Except String Unit)

/-- What changes without any task of the daemon. -/
inductive Environment (N : Type)
  | elapse (duration : Duration)
  | setClock (utc : DateTime)
  | world (event : N)

namespace AppState

variable (app : AppState)

def lifecycle : Lifecycle → Routine Response
  | .startSession context url => do return .snapshot (← app.startSession context url)
  | .navigate context id command => do return .snapshot (← app.navigate context id command)
  | .switchEgress context id mode => do return .snapshot (← switchEgress context id mode)
  | .burnControllerSession context id => do
      return .snapshot (← app.burnControllerSession context id)
  | .autoBurnIfDue => do return .flag (← app.autoBurnIfDue)
  | .recoverExpiredAuth => do return .flag (← app.recoverExpiredAuth)

def sessionOperation : SessionOperation → Routine Response
  | .start client url => do return .snapshot (← app.sessions.start client url)
  | .burn client => do return .snapshot (← app.sessions.burn client)
  | .forceBurn => do return .snapshot (← app.sessions.forceBurn)
  | .navigate client command => do return .snapshot (← app.sessions.navigate client command)
  | .switchEgress client mode => do
      return .snapshot (← SessionManager.switchEgress client mode)

def request : Request → Routine Response
  | .exchangePairing presented => do
      return .exchanged (← sync fun daemon => daemon.withAuthAndRng
        (app.auth.exchangePairing daemon.now presented))
  | .authenticate sessionToken csrfToken requireCsrf => do
      return .context (← sync fun daemon => daemon.withAuth
        (AuthManager.authenticate daemon.now sessionToken csrfToken requireCsrf))
  | .issueTicket context purpose => do
      return .ticket (← sync fun daemon => daemon.withAuthAndRng
        (app.auth.issueTicket daemon.now context purpose))
  | .consumeTicket token purpose => do
      return .context (← sync fun daemon => daemon.withAuth
        (AuthManager.consumeTicket daemon.now token purpose))
  | .ensureController client => do return .unit (← SessionManager.ensureController client)
  | .setStreamProfile client profile => do
      return .snapshot (← SessionManager.setStreamProfile client profile)
  | .setBlocklistEnabled client enabled => do
      return .snapshot (← SessionManager.setBlocklistEnabled client enabled)
  | .setAutoBurnSeconds client seconds => do
      return .snapshot (← SessionManager.setAutoBurnSeconds client seconds)
  | .eventSocket id message turns => do return .unit (← app.eventSocket id message turns)
  | .signalSocket id message connects => do return .unit (← signalSocket id message connects)

variable {W O N : Type}

/-- How the clocks and the world change on their own. -/
def environment (world : N → Daemon → W → Option W) :
    Environment N → Daemon → W → Option (Daemon × W)
  | .elapse duration, daemon, state => some ({ daemon with now := daemon.now + duration }, state)
  | .setClock utc, daemon, state => some ({ daemon with utc := utc }, state)
  | .world event, daemon, state => (world event daemon state).map fun after => (daemon, after)

/-- A world that does nothing on its own. -/
def still {W : Type} : Empty → Daemon → W → Option W :=
  fun event => event.elim

/-- The service over a world of backends. -/
def service (answer : Answer Call Call.Reply W O) (world : N → Daemon → W → Option W) :
    Pool Daemon Call Call.Reply Response W O Lifecycle Request (Environment N) where
  answer := answer
  operation := app.lifecycle
  task := app.request
  noise := environment world

/-- The session manager on its own over a world of backends. -/
def sessionService (answer : Answer Call Call.Reply W O) (world : N → Daemon → W → Option W) :
    Pool Daemon Call Call.Reply Response W O SessionOperation Request (Environment N) where
  answer := answer
  operation := app.sessionOperation
  task := app.request
  noise := environment world

/-- The daemon after `main` has published the first pairing, before it serves. -/
structure Booted (daemon : Daemon) : Prop where
  session : daemon.session = app.sessions.initialData daemon.now
  rotated : ∃ rng material,
    AuthManager.rotatePairing {} rng = (some material, daemon.auth, daemon.rng)
  events : daemon.events = []
  deliveries : daemon.deliveries = []
  admissions : daemon.admissions = []

end AppState

/-! ## A small deployment for examples -/

namespace Sample

def app : AppState :=
  { sessions := {}
    auth := ⟨Duration.ofSeconds 600, Duration.ofSeconds 30⟩
    publicBaseUrl := "https://xanhtab.local/" }

/-- The bytes of draw `n` all have the value `n`. -/
def bytes (n : Nat) : Bytes32 :=
  Vector.replicate 32 (UInt8.ofNat n)

/-- A source that runs dry after 256 draws. -/
def rng : Rng :=
  { tape := fun n => if n < 256 then some (bytes n) else none }

def daemon : Daemon :=
  { session := app.sessions.initialData 0
    auth := (AuthManager.rotatePairing {} rng).2.1
    rng := (AuthManager.rotatePairing {} rng).2.2 }

theorem daemon_booted : app.Booted daemon where
  session := rfl
  rotated := ⟨rng, _, rfl⟩
  events := rfl
  deliveries := rfl
  admissions := rfl

def url (host : String) : Url :=
  { scheme := "https", host := some host, path := "/" }

/-- A world in which every call succeeds. -/
def willing : Answer Call Call.Reply Unit Unit
  | .clearRuntimeDir, _, _ | .writePairingFile _, _, _ => some (.ok (), ())
  | .browserStart .., _, _ | .browserStop, _, _ | .browserNavigate _, _, _
  | .egressApply _, _, _ | .egressReset, _, _ => some (.ok (), ())

/-- A world in which every call succeeds or fails as it is told. -/
def told : Answer Call Call.Reply Unit Bool
  | .clearRuntimeDir, success, _ | .writePairingFile _, success, _ =>
      some (if success then .ok () else .error "denied", ())
  | .browserStart .., success, _ | .browserStop, success, _ | .browserNavigate _, success, _
  | .egressApply _, success, _ | .egressReset, success, _ =>
      some (if success then .ok () else .error (.dependencyFailure "told"), ())

abbrev ServiceLabel (O N : Type) := Pool.Label Lifecycle Request (Environment N) O

/-- The first client pairs and starts a session, up to the given step. -/
def openSession {O N : Type} (outcome : O) (steps : Nat) : List (ServiceLabel O N) :=
  [.spawn (.exchangePairing (Encoding.urlSafeNoPad (bytes 0))), .stepTask 0 none,
    .start (.startSession ⟨0, 1⟩ (url "example.com"))] ++
    List.replicate steps (.step (some outcome))

/-- The first client navigates, up to the given step. -/
def navigates {O N : Type} (outcome : O) (command : NavigationCommand) (steps : Nat) :
    List (ServiceLabel O N) :=
  .start (.navigate ⟨0, 1⟩ 1 command) :: List.replicate steps (.step (some outcome))

end Sample

end XanhTab
