import XanhTab.Config.Origin
import XanhTab.Daemon.Endpoints

/-!
# The web service

The handlers of `api.rs` from the request to the response, and `error.rs`.  A
handler that leads to a lifecycle operation is admitted first and then waits for
the lifecycle mutex, before which the state may change.  Routing, the parsing of
bodies, paths and cookies, and the service for static files are left out; what
the extractor for a body made of it is part of the request.
-/

namespace XanhTab

open Program Transition

/-! ## Requests and responses -/

/-- The head of a request, with the value of the cookie `xanhtab_session`. -/
structure RequestHead where
  headers : HeaderMap := []
  session : Option String := none

/-- The header `x-xanhtab-csrf`. -/
def RequestHead.csrf (head : RequestHead) : Option String :=
  head.headers.text "x-xanhtab-csrf"

/-- A request at its route.  A payload is there unless the extractor rejected the
body. -/
inductive HttpRequest
  | publicStatus
  | exchangePairing (payload : Option String)
  | getSession
  | startSession (payload : Option (Option Url))
  | burnSession (id : Uuid)
  | navigate (id : Uuid) (payload : Option NavigationCommand)
  | setEgress (id : Uuid) (payload : Option EgressMode)
  | setStreamProfile (id : Uuid) (payload : Option StreamProfile)
  | setBlocklist (id : Uuid) (payload : Option Bool)
  | setAutoBurn (id : Uuid) (payload : Option Nat)
  | metrics
  | issueTicket (payload : Option TicketPurpose)
  | sessionEvents (id : Uuid) (message : FirstMessage) (turns : List Turn)
  | sessionSignal (id : Uuid) (message : FirstMessage) (connects : Except String Unit)

/-- `Set-Cookie` for the session, which is always for the whole site, HTTP only and
of the same site only. -/
structure SessionCookie where
  value : String
  secure : Bool
  deriving DecidableEq

inductive HttpBody
  | status (pairingAvailable : Bool) (phase : SessionPhase)
  | paired (clientId : Uuid) (csrfToken : String) (expiresInSeconds : Nat)
      (cookie : SessionCookie)
  | session (snapshot : SessionSnapshot) (history : List HistoryEntry)
  | snapshot (snapshot : SessionSnapshot)
  | sampled (profile : StreamProfile) (egress : EgressMode) (blocklistEnabled : Bool)
  | ticket (ticket : String) (expiresInSeconds : Nat)
  | upgraded
  | nothing

/-- What a handler comes to before it takes the lifecycle mutex. -/
inductive HttpOutcome
  | answered (body : HttpBody)
  | admitted (operation : ApiOperation)

abbrev HttpRoutine := Routine (Except AppError HttpOutcome)

namespace AppError

/-- `status_and_code`. -/
def statusAndCode : AppError → Nat × String
  | unauthorized => (401, "AUTH_REQUIRED")
  | invalidCsrf => (403, "CSRF_INVALID")
  | invalidPairing => (401, "PAIRING_INVALID")
  | leaseConflict => (409, "LEASE_CONFLICT")
  | sessionNotActive => (409, "SESSION_INACTIVE")
  | invalidTransition => (409, "SESSION_TRANSITION_INVALID")
  | notFound => (404, "NOT_FOUND")
  | navigationBlocked => (403, "NAVIGATION_BLOCKED")
  | invalidRequest _ => (400, "REQUEST_INVALID")
  | serviceUnavailable _ => (503, "SERVICE_UNAVAILABLE")
  | dependencyFailure _ => (503, "DEPENDENCY_UNAVAILABLE")
  | encoderFailure _ => (503, "ENCODER_UNAVAILABLE")
  | signalingFailure _ => (502, "SIGNALING_UNAVAILABLE")
  | leakTestFailure _ => (502, "LEAK_TEST_FAILED")
  | internal => (500, "INTERNAL_ERROR")

end AppError

/-- How a handler responds with what an operation or a socket has returned. -/
def Response.answer : Response → Except AppError HttpOutcome
  | snapshot result => result.map fun snapshot => .answered (.snapshot snapshot)
  | unit result => result.map fun _ => .answered .upgraded
  | flag result => result.map fun _ => .answered .nothing
  | exchanged result => result.map fun _ => .answered .nothing
  | context result => result.map fun _ => .answered .nothing
  | ticket result => result.map fun _ => .answered .nothing

/-! ## Handlers -/

/-- `parse_json`. -/
def parseJson {α : Type} (payload : Option α) : Except AppError α :=
  match payload with
  | some value => .ok value
  | none => .error (.invalidRequest "malformed JSON body")

namespace AppState

variable (app : AppState) (config : Configuration.Config) (initialUrl : Url) (head : RequestHead)

/-- `validate_origin`. -/
abbrev validateOrigin : Except AppError Unit :=
  XanhTab.validateOrigin config.server.allowedOrigins head.headers

/-- `authenticate`. -/
def authenticate (requireCsrf : Bool) : Routine (Except AppError AuthContext) :=
  Program.andThen (done (if requireCsrf then validateOrigin config head else .ok ())) fun _ =>
    sync fun daemon => daemon.withAuth
      (AuthManager.authenticate daemon.now head.session head.csrf requireCsrf)

/-- The body is parsed before the client is authenticated. -/
def authorized {α β : Type} (payload : Option α)
    (next : α → AuthContext → Routine (Except AppError β)) : Routine (Except AppError β) :=
  Program.andThen (done (parseJson payload)) fun value =>
    (authenticate config head true).andThen (next value)

def admission (operation : ApiOperation) : HttpRoutine :=
  done (.ok (.admitted operation))

/-- `exchange_pairing`. -/
def handleExchange (payload : Option String) : HttpRoutine :=
  Program.andThen (done (parseJson payload)) fun secret =>
    Program.andThen (done (validateOrigin config head)) fun _ =>
      if secret.utf8ByteSize < 40 ∨ secret.utf8ByteSize > 128 then done (.error .invalidPairing)
      else
        Program.andThen
          (sync fun daemon => daemon.withAuthAndRng
            (app.auth.exchangePairing daemon.now secret))
          fun exchange => done (.ok (.answered (.paired exchange.clientId exchange.csrfToken
            exchange.expiresInSeconds ⟨exchange.sessionToken, config.server.secureCookies⟩)))

/-- `issue_ticket`. -/
def handleTicket (payload : Option TicketPurpose) : HttpRoutine :=
  authorized config head payload fun purpose context =>
    (SessionManager.ensureController context.clientId).andThen fun _ =>
      Program.andThen
        (sync fun daemon => daemon.withAuthAndRng
          (app.auth.issueTicket daemon.now context purpose))
        fun ticket => done (.ok (.answered (.ticket ticket config.session.ticketTtlSeconds)))

/-- A handler for a setting. -/
def handleSetting {α : Type} (payload : Option α)
    (next : α → AuthContext → Routine Response) : HttpRoutine :=
  authorized config head payload fun value context => do
    return (← next value context).answer

def handle : HttpRequest → HttpRoutine
  | .publicStatus => do
      let available ← sync fun daemon => (AuthManager.pairingAvailable daemon.auth, daemon)
      let phase ← read (·.session.snapshot.phase)
      return .ok (.answered (.status available phase))
  | .exchangePairing payload => app.handleExchange config head payload
  | .getSession =>
      (authenticate config head false).andThen fun _ => do
        let snapshot ← read (·.session.snapshot)
        let history ← read (·.session.history)
        return .ok (.answered (.session snapshot history))
  | .startSession payload =>
      authorized config head payload fun url context =>
        Program.andThen (done (validateNavigationUrl (url.getD initialUrl))) fun _ =>
          admission (.startSession context url)
  | .burnSession id =>
      (authenticate config head true).andThen fun context => admission (.burnSession context id)
  | .navigate id payload =>
      authorized config head payload fun command context =>
        Program.andThen (done command.validate) fun _ => admission (.navigate context id command)
  | .setEgress id payload =>
      authorized config head payload fun mode context => admission (.setEgress context id mode)
  | .setStreamProfile id payload =>
      handleSetting config head payload fun profile context =>
        apiSetStreamProfile context id profile
  | .setBlocklist id payload =>
      handleSetting config head payload fun enabled context => apiSetBlocklist context id enabled
  | .setAutoBurn id payload =>
      handleSetting config head payload fun seconds context => apiSetAutoBurn context id seconds
  | .metrics =>
      (authenticate config head false).andThen fun _ => do
        let snapshot ← read (·.session.snapshot)
        return .ok (.answered (.sampled snapshot.streamProfile snapshot.egress
          snapshot.blocklistEnabled))
  | .issueTicket payload => app.handleTicket config head payload
  | .sessionEvents id message turns =>
      Program.andThen (done (validateOrigin config head)) fun _ => do
        return (Response.unit (← app.eventSocket id message turns)).answer
  | .sessionSignal id message connects =>
      Program.andThen (done (validateOrigin config head)) fun _ =>
        if config.signaling.enabled then do
          return (Response.unit (← signalSocket id message connects)).answer
        else done (.error (.signalingFailure "signaling relay is disabled"))

variable {W O N : Type}

/-- The handlers before the lifecycle mutex are tasks. -/
def webPool (answer : Answer Call Call.Reply W O) (world : N → Daemon → W → Option W) :
    Pool Daemon Call Call.Reply (Except AppError HttpOutcome) W O ApiOperation
      (RequestHead × HttpRequest) (Environment N) where
  answer := answer
  operation op := do return (← app.api initialUrl op).answer
  task request := app.handle config initialUrl request.1 request.2
  noise := environment world

end AppState

/-! ## The server -/

/-- What happens in a pool of handlers other than that an operation begins. -/
abbrev WebLabel (O N : Type) := Pool.Label Empty (RequestHead × HttpRequest) (Environment N) O

/-- What happens in the server: a handler that has been admitted gets the mutex, the
watchdog does, or something else happens. -/
inductive ServerLabel (O N : Type)
  | enter (index : Nat)
  | watch (expired : Bool)
  | other (label : WebLabel O N)

/-- The label of a pool with operations. -/
def WebLabel.lift {O N : Type} :
    WebLabel O N → Pool.Label ApiOperation (RequestHead × HttpRequest) (Environment N) O
  | .start operation => operation.elim
  | .step outcome => .step outcome
  | .drop outcome => .drop outcome
  | .finish => .finish
  | .spawn task => .spawn task
  | .stepTask index outcome => .stepTask index outcome
  | .dropTask index outcome => .dropTask index outcome
  | .noise event => .noise event

abbrev WebConfiguration (W : Type) :=
  Config Daemon Call Call.Reply (Except AppError HttpOutcome) W

/-- The handlers of the server, its watchdog, and the environment. -/
def AppState.serve (app : AppState) (config : Configuration.Config) (initialUrl : Url)
    {W O N : Type} (answer : Answer Call Call.Reply W O) (world : N → Daemon → W → Option W) :
    Step (WebConfiguration W) (ServerLabel O N)
  | current, .enter index =>
      match current.tasks[index]? with
      | some (.done (.ok (.admitted operation))) =>
          (app.webPool config initialUrl answer world).step
            { current with tasks := current.tasks.eraseIdx index } (.start operation)
      | _ => none
  | current, .watch expired =>
      (app.webPool config initialUrl answer world).step current
        (.start (if expired then .recoverExpiredAuth else .autoBurnIfDue))
  | current, .other label => (app.webPool config initialUrl answer world).step current label.lift

end XanhTab
