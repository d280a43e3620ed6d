import XanhTab.Daemon.Http
import XanhTab.Invariant.Guesses
import XanhTab.Program.Authority

/-!
# What a request takes

Each handler does for a request what it has shown to be entitled to: by the pairing
secret, the cookie of a live session, the token against forgeries beside it, or a
ticket.  A request that shows nothing changes nothing but the record of failed
pairings and what has expired anyway, and is refused.
-/

namespace XanhTab

open Program

/-! ## Credentials -/

/-- What a request may show. -/
inductive Credential
  | nothing
  | secret
  | cookie (context : AuthContext)
  | token (context : AuthContext)
  | ticket (client : Uuid)

/-- The stored session is live and has the token. -/
structure AuthState.Accepts (state : AuthState) (now : Instant) (token : Option String)
    (session : AuthSession) : Prop where
  stored : ∃ text, token = some text ∧ (hash text, session) ∈ state.sessions
  live : now < session.expiresAt
  current : session.generation = state.generation

/-- The stored ticket is live and has the token and the purpose. -/
structure AuthState.Redeems (state : AuthState) (now : Instant) (token : String)
    (purpose : TicketPurpose) (ticket : Ticket) : Prop where
  stored : (hash token, ticket) ∈ state.tickets
  live : now < ticket.expiresAt
  current : ticket.generation = state.generation
  purpose : ticket.purpose = purpose

/-- The token of a ticket that a socket presents, with the purpose it is for. -/
def HttpRequest.ticket : HttpRequest → Option (String × TicketPurpose)
  | .sessionEvents _ message _ =>
      (AppState.presentedTicket message).toOption.map fun token => (token, .events)
  | .sessionSignal _ message _ =>
      (AppState.presentedTicket message).toOption.map fun token => (token, .signaling)
  | _ => none

/-- What the request shows the daemon. -/
def HttpRequest.Shows (config : Configuration.Config) (head : RequestHead) (request : HttpRequest)
    (daemon : Daemon) : Credential → Prop
  | .nothing => True
  | .secret =>
      AppState.validateOrigin config head = .ok () ∧
        ∃ secret, request = .exchangePairing (some secret) ∧
          daemon.auth.Matches secret ∧ ¬ daemon.auth.LockedOut daemon.now
  | .cookie context =>
      ∃ session, daemon.auth.Accepts daemon.now head.session session ∧
        context = ⟨session.clientId, session.generation⟩
  | .token context =>
      AppState.validateOrigin config head = .ok () ∧
        ∃ session, daemon.auth.Accepts daemon.now head.session session ∧
          head.csrf.map hash = some session.csrfHash ∧
          context = ⟨session.clientId, session.generation⟩
  | .ticket client =>
      AppState.validateOrigin config head = .ok () ∧
        ∃ token purpose ticket, request.ticket = some (token, purpose) ∧
          daemon.auth.Redeems daemon.now token purpose ticket ∧ client = ticket.clientId

/-! ## What they are good for -/

/-- Nothing is lost but what is not live, or is the ticket that is presented. -/
structure HttpRequest.Withstands (request : HttpRequest) (before after : Daemon) : Prop where
  rest : ∃ auth, after = { before with auth := auth }
  secret : after.auth.pairingHash = before.auth.pairingHash
  manual : after.auth.manualPairingHash = before.auth.manualPairingHash
  generation : after.auth.generation = before.auth.generation
  sessions : after.auth.sessions.Sublist before.auth.sessions
  tickets : after.auth.tickets.Sublist before.auth.tickets
  keepsSessions : ∀ entry ∈ before.auth.sessions, before.now < entry.2.expiresAt →
    entry.2.generation = before.auth.generation → entry ∈ after.auth.sessions
  keepsTickets : ∀ entry ∈ before.auth.tickets, before.now < entry.2.expiresAt →
    entry.2.generation = before.auth.generation → entry ∈ after.auth.tickets ∨
      ∃ token purpose, request.ticket = some (token, purpose) ∧ entry.1 = hash token

/-- The pairing is used up, for one session at most. -/
structure Pairs (before after : Daemon) : Prop where
  rest : ∃ auth rng, after = { before with auth := auth, rng := rng }
  used : AuthManager.pairingAvailable after.auth = false
  generation : after.auth.generation = before.auth.generation
  sessions : after.auth.sessions = before.auth.sessions ∨ ∃ entry rest,
    after.auth.sessions = entry :: rest ∧ rest.Sublist before.auth.sessions
  tickets : after.auth.tickets = before.auth.tickets

/-- What a client does with its own session: it changes the settings of the session
it controls, which is announced, or is issued a ticket. -/
inductive Manages (client : Uuid) (before : Daemon) : Daemon → Prop
  | setting (snapshot : SessionSnapshot) :
      ensureActiveLease before.session client = .ok () →
      SettingsStep before.session
        { before.session with snapshot := snapshot, lastActivity := before.now } →
      Manages client before
        { before with
          session := { before.session with snapshot := snapshot, lastActivity := before.now } }
  | publish (event : String) (data : SessionData) :
      data.controller = some client → Manages client before (EventBus.publish event data before)
  | issue (auth : AuthState) (rng : Rng) :
      auth.pairingHash = before.auth.pairingHash →
      auth.manualPairingHash = before.auth.manualPairingHash →
      auth.generation = before.auth.generation →
      auth.sessions.Sublist before.auth.sessions →
      (∀ entry ∈ auth.tickets, entry ∈ before.auth.tickets ∨ entry.2.clientId = client) →
      Manages client before { before with auth := auth, rng := rng }

/-- What the credential is good for. -/
def HttpRequest.Allows (request : HttpRequest) : Credential → Daemon → Daemon → Prop
  | .nothing, before, after | .cookie _, before, after => request.Withstands before after
  | .secret, before, after => Pairs before after
  | .token context, before, after => Manages context.clientId before after
  | .ticket client, before, after => ∃ id content, after = before.deliver client id content

/-- The operation is what the request asks for, in the name of the client. -/
inductive HttpRequest.Asks (initialUrl : Url) (context : AuthContext) :
    HttpRequest → ApiOperation → Prop
  | startSession (url : Option Url) : validateNavigationUrl (url.getD initialUrl) = .ok () →
      Asks initialUrl context (.startSession (some url)) (.startSession context url)
  | burnSession (id : Uuid) : Asks initialUrl context (.burnSession id) (.burnSession context id)
  | navigate (id : Uuid) (command : NavigationCommand) : command.validate = .ok () →
      Asks initialUrl context (.navigate id (some command)) (.navigate context id command)
  | setEgress (id : Uuid) (mode : EgressMode) :
      Asks initialUrl context (.setEgress id (some mode)) (.setEgress context id mode)

/-- The credential that a response shows the request to have had. -/
inductive HttpRequest.Entitles (initialUrl : Url) :
    HttpRequest → Credential → Except AppError HttpOutcome → Prop
  | refused (request : HttpRequest) (error : AppError) : error.statusAndCode.1 < 500 →
      Entitles initialUrl request .nothing (.error error)
  | disabled (request : HttpRequest) :
      Entitles initialUrl request .nothing
        (.error (.signalingFailure "signaling relay is disabled"))
  | status (available : Bool) (phase : SessionPhase) :
      Entitles initialUrl .publicStatus .nothing (.ok (.answered (.status available phase)))
  | paired (payload : Option String) (client : Uuid) (csrf : String) (seconds : Nat)
      (cookie : SessionCookie) :
      Entitles initialUrl (.exchangePairing payload) .secret
        (.ok (.answered (.paired client csrf seconds cookie)))
  | session (context : AuthContext) (snapshot : SessionSnapshot) (history : List HistoryEntry) :
      Entitles initialUrl .getSession (.cookie context)
        (.ok (.answered (.session snapshot history)))
  | sampled (context : AuthContext) (profile : StreamProfile) (mode : EgressMode) (enabled : Bool) :
      Entitles initialUrl .metrics (.cookie context)
        (.ok (.answered (.sampled profile mode enabled)))
  | operation (request : HttpRequest) (context : AuthContext) (operation : ApiOperation) :
      request.Asks initialUrl context operation →
      Entitles initialUrl request (.token context) (.ok (.admitted operation))
  | setting (request : HttpRequest) (context : AuthContext) (snapshot : SessionSnapshot) :
      snapshot.phase = .active →
      Entitles initialUrl request (.token context) (.ok (.answered (.snapshot snapshot)))
  | issued (payload : Option TicketPurpose) (context : AuthContext) (ticket : String)
      (seconds : Nat) :
      Entitles initialUrl (.issueTicket payload) (.token context)
        (.ok (.answered (.ticket ticket seconds)))
  | upgraded (request : HttpRequest) (client : Uuid) :
      Entitles initialUrl request (.ticket client) (.ok (.answered .upgraded))
  | failed (request : HttpRequest) (credential : Credential) (error : AppError) :
      credential = .secret ∨ (∃ context, credential = .token context) ∨
        (∃ client, credential = .ticket client) →
      Entitles initialUrl request credential (.error error)

/-- What a request with this head may do. -/
def HttpRequest.authority (config : Configuration.Config) (head : RequestHead)
    (request : HttpRequest) : Authority Daemon Credential where
  shows := request.Shows config head
  allows := request.Allows

/-- A refusal takes nothing. -/
def Credential.Grants {α : Type} (granted : Credential → α → Prop) :
    Credential → Except AppError α → Prop
  | credential, .error error => credential = .nothing ∧ error.statusAndCode.1 < 500
  | credential, .ok value => granted credential value

/-! ## Refusals -/

theorem validateOrigin_error {allowedOrigins : List String} {headers : HeaderMap} {error : AppError}
    (refused : validateOrigin allowedOrigins headers = .error error) : error = .invalidCsrf := by
  unfold validateOrigin at refused
  split at refused
  · split at refused
    · cases refused
    · exact (Except.error.inj refused).symm
  · exact (Except.error.inj refused).symm

theorem ensureActiveLease_error {data : SessionData} {client : Uuid} {error : AppError}
    (refused : ensureActiveLease data client = .error error) :
    error = .leaseConflict ∨ error = .sessionNotActive := by
  unfold ensureActiveLease at refused
  cases held : ensureLease data client with
  | error cause =>
      rw [held] at refused
      unfold ensureLease at held
      split at held
      · cases held
      · exact Or.inl ((Except.error.inj refused).symm.trans (Except.error.inj held).symm)
  | ok _ =>
      rw [held] at refused
      dsimp only at refused
      split at refused
      · exact Or.inr (Except.error.inj refused).symm
      · cases refused

theorem presentedTicket_error {message : FirstMessage} {error : AppError}
    (refused : AppState.presentedTicket message = .error error) : error = .unauthorized := by
  unfold AppState.presentedTicket at refused
  split at refused
  · split at refused
    · exact (Except.error.inj refused).symm
    · cases refused
  · exact (Except.error.inj refused).symm

namespace AuthManager

variable {now : Instant} {state : AuthState}

theorem authenticate_error {sessionToken csrfToken : Option String} {requireCsrf : Bool}
    {error : AppError}
    (refused : (authenticate now sessionToken csrfToken requireCsrf state).1 = .error error) :
    error = .unauthorized ∨ error = .invalidCsrf := by
  unfold authenticate at refused
  cases sessionToken with
  | none => exact Or.inl (Except.error.inj refused).symm
  | some token =>
      dsimp only at refused
      repeat' split at refused
      all_goals
        first
        | exact Or.inl (Except.error.inj refused).symm
        | exact Or.inr (Except.error.inj refused).symm
        | cases refused

theorem consumeTicket_error {token : String} {purpose : TicketPurpose} {error : AppError}
    (refused : (consumeTicket now token purpose state).1 = .error error) :
    error = .unauthorized := by
  unfold consumeTicket at refused
  dsimp only at refused
  repeat' split at refused
  all_goals
    first
    | exact (Except.error.inj refused).symm
    | cases refused

theorem authenticate_swept (sessionToken csrfToken : Option String) (requireCsrf : Bool) :
    state.Swept now (authenticate now sessionToken csrfToken requireCsrf state).2 := by
  unfold authenticate
  cases sessionToken with
  | none => exact Or.inl rfl
  | some token =>
      dsimp only
      repeat' split
      all_goals exact Or.inr rfl

/-- Who is authenticated has the cookie of a live session, and its token where one
is required. -/
theorem accepts_of_authenticate {sessionToken csrfToken : Option String} {requireCsrf : Bool}
    {context : AuthContext}
    (authenticated : (authenticate now sessionToken csrfToken requireCsrf state).1 = .ok context) :
    ∃ session, state.Accepts now sessionToken session ∧
      (requireCsrf = true → csrfToken.map hash = some session.csrfHash) ∧
      context = ⟨session.clientId, session.generation⟩ := by
  have performed : Performed ⟨0, 0⟩ now state { tape := fun _ => none } _ _ _ :=
    .of_authenticate sessionToken csrfToken requireCsrf
  rw [authenticated] at performed
  generalize (authenticate now sessionToken csrfToken requireCsrf state).2 = after at performed
  cases performed with
  | @authenticated token _ _ session stored shown =>
      rcases List.mem_filter.mp stored with ⟨member, live⟩
      simp only [Bool.and_eq_true, decide_eq_true_eq, beq_iff_eq] at live
      refine ⟨session, ⟨⟨token, rfl, member⟩, live.1, live.2⟩, fun required => ?_, rfl⟩
      rcases shown required with ⟨presented, rfl, same⟩
      exact congrArg some same.symm

/-- A ticket is used up when it is presented, whether or not it is accepted. -/
theorem consumeTicket_state (token : String) (purpose : TicketPurpose) :
    (consumeTicket now token purpose state).2 =
      { state with tickets := removeKey (hash token) state.tickets } := by
  have performed : Performed ⟨0, 0⟩ now state { tape := fun _ => none } _ _ _ :=
    .of_consumeTicket token purpose
  generalize (consumeTicket now token purpose state).2 = after at performed
  generalize (consumeTicket now token purpose state).1 = result at performed
  cases performed with
  | unconsumed => rfl
  | consumed => rfl

theorem redeems_of_consumeTicket {token : String} {purpose : TicketPurpose} {context : AuthContext}
    (consumed : (consumeTicket now token purpose state).1 = .ok context) :
    ∃ ticket, state.Redeems now token purpose ticket ∧
      context = ⟨ticket.clientId, ticket.generation⟩ := by
  have performed : Performed ⟨0, 0⟩ now state { tape := fun _ => none } _ _ _ :=
    .of_consumeTicket token purpose
  rw [consumed] at performed
  generalize (consumeTicket now token purpose state).2 = after at performed
  cases performed with
  | @consumed _ _ ticket stored live current intended =>
      exact ⟨ticket, ⟨stored, live, current, intended⟩, rfl⟩

/-- Other than by the secret, and during the lockout, nothing can be paired. -/
theorem exchangePairing_of_refused (manager : AuthManager) {presented : String} (rng : Rng)
    (refused : state.LockedOut now ∨ ¬ state.Matches presented) :
    ∃ failures locked, manager.exchangePairing now presented state rng =
      (.error .invalidPairing, { state with failedPairings := failures, lockedUntil := locked },
        rng) := by
  by_cases lockedOut : state.LockedOut now
  · exact ⟨state.failedPairings, state.lockedUntil,
      exchangePairing_of_lockedOut manager rng lockedOut⟩
  · have passed : ¬ state.lockedUntil.any (· > now) = true := lockedOut
    have mismatched : ¬ (state.pairingHash = some (hash presented) ∨
        state.manualPairingHash = some (hash presented)) := refused.resolve_left lockedOut
    unfold exchangePairing
    rw [if_neg passed, if_neg mismatched]
    dsimp only
    split
    · exact ⟨_, _, rfl⟩
    · exact ⟨_, _, rfl⟩

end AuthManager

/-! ## What the sections do -/

namespace HttpRequest.Withstands

variable (request : HttpRequest) (daemon : Daemon)

theorem refl : request.Withstands daemon daemon where
  rest := ⟨daemon.auth, rfl⟩
  secret := rfl
  manual := rfl
  generation := rfl
  sessions := List.Sublist.refl _
  tickets := List.Sublist.refl _
  keepsSessions _ member _ _ := member
  keepsTickets _ member _ _ := Or.inl member

/-- Only what has expired is swept. -/
theorem of_swept {auth : AuthState} (swept : daemon.auth.Swept daemon.now auth) :
    request.Withstands daemon { daemon with auth := auth } := by
  rcases swept with rfl | rfl
  · exact refl request daemon
  · exact
      { rest := ⟨_, rfl⟩
        secret := rfl
        manual := rfl
        generation := rfl
        sessions := List.filter_sublist
        tickets := List.filter_sublist
        keepsSessions := fun entry member live current =>
          List.mem_filter.mpr ⟨member, by simp [live, current]⟩
        keepsTickets := fun entry member live current =>
          Or.inl (List.mem_filter.mpr ⟨member, by simp [live, current]⟩) }

/-- The record of failed pairings is not among what is kept. -/
theorem of_gate (failures : Nat) (locked : Option Instant) :
    request.Withstands daemon
      { daemon with
        auth := { daemon.auth with failedPairings := failures, lockedUntil := locked } } where
  rest := ⟨_, rfl⟩
  secret := rfl
  manual := rfl
  generation := rfl
  sessions := List.Sublist.refl _
  tickets := List.Sublist.refl _
  keepsSessions _ member _ _ := member
  keepsTickets _ member _ _ := Or.inl member

/-- The ticket that is presented is used up. -/
theorem of_removed {token : String} {purpose : TicketPurpose}
    (presented : request.ticket = some (token, purpose)) :
    request.Withstands daemon
      { daemon with
        auth := { daemon.auth with tickets := removeKey (hash token) daemon.auth.tickets } } where
  rest := ⟨_, rfl⟩
  secret := rfl
  manual := rfl
  generation := rfl
  sessions := List.Sublist.refl _
  tickets := List.filter_sublist
  keepsSessions _ member _ _ := member
  keepsTickets entry member _ _ := by
    by_cases same : entry.1 = hash token
    · exact Or.inr ⟨token, purpose, presented, same⟩
    · exact Or.inl (List.mem_filter.mpr ⟨member, decide_eq_true same⟩)

end HttpRequest.Withstands

/-! ## What the routines may do -/

section Routines

variable {config : Configuration.Config} {head : RequestHead} {request : HttpRequest}
  {held : Credential → Prop}

/-- Reading the memory takes nothing. -/
theorem read_authorized {α : Type} {value : Daemon → α} {entitles : Credential → α → Prop}
    (entitled : ∀ daemon, ∃ credential,
      (held credential ∨ request.Shows config head daemon credential) ∧
        entitles credential (value daemon)) :
    (Program.read value : Routine α).Authorized (request.authority config head) entitles held :=
  .transact (fun daemon => ⟨.nothing, Or.inr trivial, .refl request daemon⟩) entitled

theorem requireSessionId_authorized (id : Uuid) :
    (AppState.requireSessionId id).Authorized (request.authority config head)
      (Credential.Grants fun credential _ => credential = .nothing) held := by
  refine read_authorized fun daemon => ⟨.nothing, Or.inr trivial, ?_⟩
  split
  · exact rfl
  · exact ⟨rfl, by decide⟩

theorem ensureController_authorized (client : Uuid) :
    (SessionManager.ensureController client).Authorized (request.authority config head)
      (Credential.Grants fun credential _ => credential = .nothing) held := by
  refine read_authorized fun daemon => ⟨.nothing, Or.inr trivial, ?_⟩
  cases lease : ensureActiveLease daemon.session client with
  | error error =>
      refine ⟨rfl, ?_⟩
      rcases ensureActiveLease_error lease with rfl | rfl
      · decide
      · decide
  | ok _ => exact rfl

/-! ### Authentication -/

/-- A handler that checks the origin goes on from an allowed one. -/
theorem validateOrigin_authorized {β : Type} {next : Unit → Routine (Except AppError β)}
    {entitles : Credential → Except AppError β → Prop} (free : held .nothing)
    (failed : entitles .nothing (.error .invalidCsrf))
    (second : AppState.validateOrigin config head = .ok () →
      (next ()).Authorized (request.authority config head) entitles held) :
    (Program.andThen (done (AppState.validateOrigin config head)) next).Authorized
      (request.authority config head) entitles held := by
  cases validated : AppState.validateOrigin config head with
  | error error =>
      obtain rfl := validateOrigin_error validated
      exact ⟨.nothing, free, failed⟩
  | ok _ => exact second validated

/-- The credential that authentication takes. -/
def AuthContext.credential (context : AuthContext) (requireCsrf : Bool) : Credential :=
  if requireCsrf then .token context else .cookie context

theorem authenticate_authorized (requireCsrf : Bool) (free : held .nothing) :
    (AppState.authenticate config head requireCsrf).Authorized (request.authority config head)
      (Credential.Grants fun credential context => credential = context.credential requireCsrf)
      held := by
  have section_authorized (origin : requireCsrf = true →
      AppState.validateOrigin config head = .ok ()) :
      (sync fun daemon => daemon.withAuth (AuthManager.authenticate daemon.now head.session
        head.csrf requireCsrf) : Routine (Except AppError AuthContext)).Authorized
        (request.authority config head)
        (Credential.Grants fun credential context => credential = context.credential requireCsrf)
        held := by
    refine .transact (fun daemon => ⟨.nothing, Or.inr trivial, ?_⟩) fun daemon => ?_
    · exact .of_swept request daemon (AuthManager.authenticate_swept _ _ _)
    · cases result : (daemon.withAuth (AuthManager.authenticate daemon.now head.session
          head.csrf requireCsrf)).1 with
      | error error =>
          refine ⟨.nothing, Or.inr trivial, rfl, ?_⟩
          rcases AuthManager.authenticate_error result with rfl | rfl
          · decide
          · decide
      | ok context =>
          refine ⟨context.credential requireCsrf, Or.inr ?_, rfl⟩
          rcases AuthManager.accepts_of_authenticate result with ⟨session, accepts, shown, same⟩
          cases requireCsrf with
          | false => exact ⟨session, accepts, same⟩
          | true => exact ⟨origin rfl, session, accepts, shown rfl, same⟩
  cases requireCsrf with
  | false => exact section_authorized fun impossible => by cases impossible
  | true =>
      exact validateOrigin_authorized free ⟨rfl, by decide⟩ fun validated =>
        section_authorized fun _ => validated

/-- A handler with a body goes on with the token. -/
theorem authorized_authorized {α β : Type} {payload : Option α}
    {next : α → AuthContext → Routine (Except AppError β)}
    {entitles : Credential → Except AppError β → Prop} (free : held .nothing)
    (failed : ∀ error : AppError, error.statusAndCode.1 < 500 → entitles .nothing (.error error))
    (second : ∀ value context, payload = some value →
      (next value context).Authorized (request.authority config head) entitles
        fun other => held other ∨ other = .token context) :
    (AppState.authorized config head payload next).Authorized (request.authority config head)
      entitles held := by
  cases payload with
  | none => exact ⟨.nothing, free, failed _ (by decide)⟩
  | some value =>
      show ((AppState.authenticate config head true).andThen (next value)).Authorized
        (request.authority config head) entitles held
      refine .andThen (authenticate_authorized true free) ?_ ?_
      · rintro _ error ⟨rfl, status⟩
        exact failed error status
      · rintro _ context rfl
        exact second value context rfl

/-! ### Settings and tickets -/

/-- The response to a setting is what an active session shows. -/
def GrantsSetting (context : AuthContext) : Credential → Except AppError SessionSnapshot → Prop :=
  Credential.Grants fun credential snapshot =>
    credential = .token context ∧ snapshot.phase = .active

theorem changeSetting_authorized {context : AuthContext} (event : String)
    (setting : SessionSnapshot → SessionSnapshot) (free : held .nothing)
    (holds : held (.token context))
    (settles : ∀ data activity, data.snapshot.phase = .active →
      SettingsStep data { data with snapshot := setting data.snapshot, lastActivity := activity }) :
    (SessionManager.changeSetting context.clientId event setting).Authorized
      (request.authority config head) (GrantsSetting context) held := by
  have first : (lock (SessionManager.change context.clientId setting) :
      Routine (Except AppError SessionData)).Authorized (request.authority config head)
      (Credential.Grants fun credential data => credential = .token context ∧
        data.controller = some context.clientId ∧ data.snapshot.phase = .active) held := by
    refine .transact (fun daemon => ?_) fun daemon => ?_
    · unfold SessionManager.change
      cases lease : ensureActiveLease daemon.session context.clientId with
      | error error => exact ⟨.nothing, Or.inr trivial, .refl request daemon⟩
      | ok _ =>
          exact ⟨.token context, Or.inl holds, .setting _ lease
            (settles _ _ (ensureActiveLease_eq_ok_iff.mp lease).2)⟩
    · unfold SessionManager.change
      cases lease : ensureActiveLease daemon.session context.clientId with
      | error error =>
          refine ⟨.nothing, Or.inl free, rfl, ?_⟩
          rcases ensureActiveLease_error lease with rfl | rfl
          · decide
          · decide
      | ok _ =>
          rcases ensureActiveLease_eq_ok_iff.mp lease with ⟨controls, active⟩
          refine ⟨.token context, Or.inl holds, rfl, controls, ?_⟩
          exact (settles _ daemon.now active).phase.trans active
  refine .bind first fun credential result granted => ?_
  cases result with
  | error error => exact ⟨credential, Or.inr rfl, granted⟩
  | ok data =>
      rcases granted with ⟨rfl, controls, active⟩
      refine fun daemon => ⟨⟨.token context, Or.inl (Or.inr rfl), .publish event data controls⟩, ?_⟩
      exact ⟨.token context, Or.inl (Or.inr rfl), rfl, active⟩

theorem issueTicket_authorized {manager : AuthManager} {context : AuthContext}
    (purpose : TicketPurpose) (holds : held (.token context)) :
    (sync fun daemon => daemon.withAuthAndRng
      (manager.issueTicket daemon.now context purpose) :
        Routine (Except AppError String)).Authorized (request.authority config head)
      (fun credential _ => credential = .token context) held := by
  refine .transact (fun daemon => ⟨.token context, Or.inl holds, ?_⟩)
    fun daemon => ⟨.token context, Or.inl holds, rfl⟩
  have performed : Performed manager daemon.now daemon.auth daemon.rng _ _ _ :=
    .of_issueTicket context purpose
  show Manages context.clientId daemon (daemon.withAuthAndRng
    (manager.issueTicket daemon.now context purpose)).2
  unfold Daemon.withAuthAndRng
  generalize manager.issueTicket daemon.now context purpose daemon.auth daemon.rng = issued
    at performed
  rcases issued with ⟨result, auth, rng⟩
  cases performed with
  | unissued _ swept =>
      rcases swept with rfl | rfl
      · exact .issue _ _ rfl rfl rfl (List.Sublist.refl _) fun entry member => Or.inl member
      · exact .issue _ _ rfl rfl rfl List.filter_sublist fun entry member =>
          Or.inl (List.mem_of_mem_filter member)
  | issued _ _ _ =>
      refine .issue _ _ rfl rfl rfl List.filter_sublist fun entry member => ?_
      rcases List.mem_cons.mp member with rfl | older
      · exact Or.inr rfl
      · exact Or.inl (List.mem_of_mem_filter (List.mem_of_mem_filter older))

/-! ### Pairing -/

theorem exchangePairing_authorized {manager : AuthManager} {secret : String}
    (origin : AppState.validateOrigin config head = .ok ())
    (presents : request = .exchangePairing (some secret)) :
    (sync fun daemon => daemon.withAuthAndRng (manager.exchangePairing daemon.now secret) :
        Routine (Except AppError ExchangeResult)).Authorized (request.authority config head)
      (fun credential result => credential = .secret ∨
        credential = .nothing ∧ result = .error .invalidPairing) held := by
  have right_or_refused (daemon : Daemon) :
      (¬ daemon.auth.LockedOut daemon.now ∧ daemon.auth.Matches secret) ∨
        (daemon.auth.LockedOut daemon.now ∨ ¬ daemon.auth.Matches secret) := by
    by_cases locked : daemon.auth.LockedOut daemon.now
    · exact Or.inr (Or.inl locked)
    · by_cases right : daemon.auth.Matches secret
      · exact Or.inl ⟨locked, right⟩
      · exact Or.inr (Or.inr right)
  refine .transact (fun daemon => ?_) fun daemon => ?_
  · rcases right_or_refused daemon with ⟨unlocked, right⟩ | refused
    · refine ⟨.secret, Or.inr ⟨origin, secret, presents, right, unlocked⟩, ?_⟩
      have used := (exchangePairing_of_right manager daemon.rng unlocked right).2.1
      have performed : Performed manager daemon.now daemon.auth daemon.rng _ _ _ :=
        .of_exchangePairing secret
      show Pairs daemon (daemon.withAuthAndRng (manager.exchangePairing daemon.now secret)).2
      unfold Daemon.withAuthAndRng
      generalize manager.exchangePairing daemon.now secret daemon.auth daemon.rng = exchanged
        at performed used
      rcases exchanged with ⟨result, auth, rng⟩
      cases performed with
      | refused | lost => exact ⟨⟨_, _, rfl⟩, used, rfl, Or.inl rfl, rfl⟩
      | exchanged =>
          exact ⟨⟨_, _, rfl⟩, used, rfl, Or.inr ⟨_, _, rfl, List.filter_sublist⟩, rfl⟩
    · rcases AuthManager.exchangePairing_of_refused manager daemon.rng refused with
        ⟨failures, locked, equal⟩
      refine ⟨.nothing, Or.inr trivial, ?_⟩
      show request.Withstands daemon
        (daemon.withAuthAndRng (manager.exchangePairing daemon.now secret)).2
      unfold Daemon.withAuthAndRng
      rw [equal]
      exact .of_gate request daemon failures locked
  · rcases right_or_refused daemon with ⟨unlocked, right⟩ | refused
    · exact ⟨.secret, Or.inr ⟨origin, secret, presents, right, unlocked⟩, Or.inl rfl⟩
    · rcases AuthManager.exchangePairing_of_refused manager daemon.rng refused with
        ⟨failures, locked, equal⟩
      exact ⟨.nothing, Or.inr trivial, Or.inr ⟨rfl, congrArg Prod.fst equal⟩⟩

/-! ### Sockets -/

theorem authorizeWebsocket_authorized (id : Uuid) {message : FirstMessage} {purpose : TicketPurpose}
    (origin : AppState.validateOrigin config head = .ok ()) (free : held .nothing)
    (presents : ∀ token, AppState.presentedTicket message = .ok token →
      request.ticket = some (token, purpose)) :
    (AppState.authorizeWebsocket id message purpose).Authorized (request.authority config head)
      (Credential.Grants fun credential client => credential = .ticket client) held := by
  unfold AppState.authorizeWebsocket
  cases presented : AppState.presentedTicket message with
  | error error =>
      obtain rfl := presentedTicket_error presented
      exact ⟨.nothing, free, rfl, by decide⟩
  | ok token =>
      have first : (sync fun daemon => daemon.withAuth
          (AuthManager.consumeTicket daemon.now token purpose) :
            Routine (Except AppError AuthContext)).Authorized (request.authority config head)
          (Credential.Grants fun credential context => credential = .ticket context.clientId)
          held := by
        refine .transact (fun daemon => ⟨.nothing, Or.inr trivial, ?_⟩) fun daemon => ?_
        · show request.Withstands daemon
            (daemon.withAuth (AuthManager.consumeTicket daemon.now token purpose)).2
          unfold Daemon.withAuth
          rw [AuthManager.consumeTicket_state]
          exact .of_removed request daemon (presents token presented)
        · cases result :
              (daemon.withAuth (AuthManager.consumeTicket daemon.now token purpose)).1 with
          | error error =>
              obtain rfl := AuthManager.consumeTicket_error result
              exact ⟨.nothing, Or.inr trivial, rfl, by decide⟩
          | ok context =>
              rcases AuthManager.redeems_of_consumeTicket result with ⟨ticket, redeems, rfl⟩
              exact ⟨.ticket ticket.clientId, Or.inr ⟨origin, token, purpose, ticket,
                presents token presented, redeems, rfl⟩, rfl⟩
      refine .andThen first (fun _ _ refused => refused) ?_
      rintro _ context rfl
      refine .andThen (requireSessionId_authorized id) (fun _ _ refused => refused) ?_
      rintro _ _ rfl
      refine .andThen (ensureController_authorized context.clientId) (fun _ _ refused => refused) ?_
      rintro _ _ rfl
      exact ⟨.ticket context.clientId, Or.inl (Or.inl (Or.inr rfl)), rfl⟩

theorem eventLoop_authorized (app : AppState) {client : Uuid} (id : Uuid) (position : Nat)
    (turns : List Turn) (free : held .nothing) (holds : held (.ticket client)) :
    (app.eventLoop client id position turns).Authorized (request.authority config head)
      (fun credential _ => credential = .nothing) held := by
  induction turns generalizing held position with
  | nil => exact ⟨.nothing, free, rfl⟩
  | cons turn turns ih =>
      cases turn with
      | incoming => exact ih position free holds
      | closed => exact ⟨.nothing, free, rfl⟩
      | event =>
          have first : (sync fun daemon => (daemon.receive app.eventCapacity position, daemon) :
              Routine Received).Authorized (request.authority config head)
              (fun credential _ => credential = .nothing) held :=
            fun daemon => ⟨⟨.nothing, Or.inr trivial, .refl request daemon⟩,
              .nothing, Or.inr trivial, rfl⟩
          refine .bind first fun credential received _ => ?_
          cases received with
          | pending => exact ih position (Or.inl free) (Or.inl holds)
          | lagged oldest => exact ih oldest (Or.inl free) (Or.inl holds)
          | event event =>
              intro daemon
              refine ⟨⟨.ticket client, Or.inl (Or.inl holds), id, some event, rfl⟩, ?_⟩
              split
              · exact ⟨.nothing, Or.inr trivial, rfl⟩
              · exact ih (position + 1) (Or.inr trivial) (Or.inl (Or.inl holds))

theorem eventSocket_authorized (app : AppState) (id : Uuid) {message : FirstMessage}
    (turns : List Turn) (origin : AppState.validateOrigin config head = .ok ())
    (free : held .nothing)
    (presents : ∀ token, AppState.presentedTicket message = .ok token →
      request.ticket = some (token, .events)) :
    (app.eventSocket id message turns).Authorized (request.authority config head)
      (Credential.Grants fun credential _ => ∃ client, credential = .ticket client) held := by
  refine .andThen (requireSessionId_authorized id) (fun _ _ refused => refused) fun _ _ _ => ?_
  refine .andThen (authorizeWebsocket_authorized id origin (Or.inl free) presents)
    (fun _ _ refused => refused) ?_
  rintro _ client rfl
  have looped (position : Nat) (held' : Credential → Prop) (free' : held' .nothing)
      (holds : held' (.ticket client)) :
      (app.eventLoop client id position turns >>= fun _ => done (.ok ()) :
        Routine (Except AppError Unit)).Authorized (request.authority config head)
        (Credential.Grants fun credential _ => ∃ client, credential = .ticket client) held' :=
    .bind (eventLoop_authorized app id position turns free' holds) fun _ _ _ =>
      ⟨.ticket client, Or.inl holds, client, rfl⟩
  -- the receiver is placed, and the first snapshot is read and sent
  refine fun daemon => ⟨⟨.nothing, Or.inr trivial, .refl request daemon⟩, ?_⟩
  refine fun daemon => ⟨⟨.nothing, Or.inr trivial, .refl request daemon⟩, ?_⟩
  refine fun daemon => ⟨⟨.ticket client, Or.inl (Or.inl (Or.inl (Or.inr rfl))), id, _, rfl⟩, ?_⟩
  exact looped _ _ (Or.inr trivial) (Or.inl (Or.inl (Or.inl (Or.inr rfl))))

theorem signalSocket_authorized (id : Uuid) {message : FirstMessage}
    (connects : Except String Unit) (origin : AppState.validateOrigin config head = .ok ())
    (free : held .nothing)
    (presents : ∀ token, AppState.presentedTicket message = .ok token →
      request.ticket = some (token, .signaling)) :
    (AppState.signalSocket id message connects).Authorized (request.authority config head)
      (fun credential result => (∃ client, credential = .ticket client) ∨
        ∃ error, result = .error error ∧ credential = .nothing ∧ error.statusAndCode.1 < 500)
      held := by
  refine .andThen (requireSessionId_authorized id)
    (fun _ error refused => Or.inr ⟨error, rfl, refused⟩) fun _ _ _ => ?_
  refine .andThen (authorizeWebsocket_authorized id origin (Or.inl free) presents)
    (fun _ error refused => Or.inr ⟨error, rfl, refused⟩) ?_
  rintro _ client rfl
  cases connects with
  | error error => exact ⟨.ticket client, Or.inr rfl, Or.inl ⟨client, rfl⟩⟩
  | ok _ =>
      refine fun daemon => ⟨⟨.ticket client, Or.inl (Or.inr rfl), id, none, rfl⟩, ?_⟩
      exact ⟨.ticket client, Or.inl (Or.inr rfl), Or.inl ⟨client, rfl⟩⟩

/-! ### Handlers -/

theorem validateNavigationUrl_error {url : Url} {error : AppError}
    (refused : validateNavigationUrl url = .error error) :
    error = .invalidRequest "only http, https, and xanhtab URLs are allowed" := by
  unfold validateNavigationUrl at refused
  split at refused
  · cases refused
  · exact (Except.error.inj refused).symm

theorem validate_error {command : NavigationCommand} {error : AppError}
    (refused : command.validate = .error error) :
    error = .invalidRequest "only http, https, and xanhtab URLs are allowed" := by
  cases command with
  | navigate url => exact validateNavigationUrl_error refused
  | _ => cases refused

theorem handleExchange_authorized (app : AppState) {initialUrl : Url} {payload : Option String}
    (free : held .nothing) :
    (app.handleExchange config head payload).Authorized
      ((HttpRequest.exchangePairing payload).authority config head)
      ((HttpRequest.exchangePairing payload).Entitles initialUrl) held := by
  unfold AppState.handleExchange
  cases payload with
  | none => exact ⟨.nothing, free, .refused _ _ (by decide)⟩
  | some secret =>
      refine validateOrigin_authorized free (.refused _ _ (by decide)) fun origin => ?_
      split
      · exact ⟨.nothing, free, .refused _ _ (by decide)⟩
      · refine .andThen (exchangePairing_authorized origin rfl) ?_ ?_
        · rintro _ error (rfl | ⟨rfl, same⟩)
          · exact .failed _ _ error (Or.inl rfl)
          · obtain rfl := Except.error.inj same
            exact .refused _ _ (by decide)
        · rintro _ exchange (rfl | ⟨rfl, same⟩)
          · exact ⟨.secret, Or.inr rfl, .paired _ _ _ _ _⟩
          · cases same

theorem handleTicket_authorized (app : AppState) {initialUrl : Url}
    {payload : Option TicketPurpose} (free : held .nothing) :
    (app.handleTicket config head payload).Authorized
      ((HttpRequest.issueTicket payload).authority config head)
      ((HttpRequest.issueTicket payload).Entitles initialUrl) held := by
  refine authorized_authorized free (.refused _) fun purpose context present => ?_
  obtain rfl := present
  refine .andThen (ensureController_authorized context.clientId) ?_ ?_
  · rintro _ error ⟨rfl, status⟩
    exact .refused _ error status
  · rintro _ _ rfl
    refine .andThen (issueTicket_authorized purpose (Or.inl (Or.inr rfl))) ?_ ?_
    · rintro _ error rfl
      exact .failed _ _ error (Or.inr (Or.inl ⟨context, rfl⟩))
    · rintro _ ticket rfl
      exact ⟨.token context, Or.inr rfl, .issued _ context ticket _⟩

theorem setting_authorized {α : Type} {initialUrl : Url} {request : HttpRequest}
    {payload : Option α} {id : Uuid}
    {setting : α → AuthContext → Routine (Except AppError SessionSnapshot)} (free : held .nothing)
    (bounded : ∀ value (context : AuthContext) (held' : Credential → Prop), held' .nothing →
      held' (.token context) → (setting value context).Authorized (request.authority config head)
        (GrantsSetting context) held') :
    (AppState.handleSetting config head payload fun value context =>
      AppState.forSession id (setting value context)).Authorized (request.authority config head)
      (request.Entitles initialUrl) held := by
  refine authorized_authorized free (.refused request) fun value context _ => ?_
  have guarded : ((AppState.requireSessionId id).andThen fun _ => setting value context).Authorized
      (request.authority config head) (GrantsSetting context)
      fun other => held other ∨ other = .token context := by
    refine .andThen (requireSessionId_authorized id) (fun _ _ refused => refused) fun _ _ _ => ?_
    exact bounded value context _ (Or.inl (Or.inl free)) (Or.inl (Or.inr rfl))
  have responded : (AppState.forSession id (setting value context)).Authorized
      (request.authority config head)
      (fun credential response => ∃ result, response = .snapshot result ∧
        GrantsSetting context credential result)
      fun other => held other ∨ other = .token context :=
    .bind guarded fun credential result granted =>
      ⟨credential, Or.inr rfl, result, rfl, granted⟩
  refine .bind responded ?_
  rintro credential _ ⟨result, rfl, granted⟩
  refine ⟨credential, Or.inr rfl, ?_⟩
  cases result with
  | error error =>
      rcases granted with ⟨rfl, status⟩
      exact .refused request error status
  | ok snapshot =>
      rcases granted with ⟨rfl, active⟩
      exact .setting request context snapshot active

theorem handle_authorized (app : AppState) (initialUrl : Url) (request : HttpRequest)
    (free : held .nothing) :
    (app.handle config initialUrl head request).Authorized (request.authority config head)
      (request.Entitles initialUrl) held := by
  have refused : ∀ error : AppError, error.statusAndCode.1 < 500 →
      request.Entitles initialUrl .nothing (.error error) := .refused request
  cases request with
  | publicStatus =>
      refine fun daemon => ⟨⟨.nothing, Or.inr trivial, .refl _ daemon⟩, ?_⟩
      refine fun daemon => ⟨⟨.nothing, Or.inr trivial, .refl _ daemon⟩, ?_⟩
      exact ⟨.nothing, Or.inr trivial, .status _ _⟩
  | exchangePairing payload => exact handleExchange_authorized app free
  | getSession =>
      refine .andThen (authenticate_authorized false free) ?_ ?_
      · rintro _ error ⟨rfl, status⟩
        exact refused error status
      · rintro _ context rfl
        refine fun daemon => ⟨⟨.nothing, Or.inr trivial, .refl _ daemon⟩, ?_⟩
        refine fun daemon => ⟨⟨.nothing, Or.inr trivial, .refl _ daemon⟩, ?_⟩
        exact ⟨.cookie context, Or.inl (Or.inl (Or.inr rfl)), .session context _ _⟩
  | startSession payload =>
      refine authorized_authorized free refused fun url context present => ?_
      obtain rfl := present
      cases validated : validateNavigationUrl (url.getD initialUrl) with
      | error error =>
          obtain rfl := validateNavigationUrl_error validated
          exact ⟨.nothing, Or.inl free, refused _ (by decide)⟩
      | ok _ =>
          exact ⟨.token context, Or.inr rfl, .operation _ _ _ (.startSession url validated)⟩
  | burnSession id =>
      refine .andThen (authenticate_authorized true free) ?_ ?_
      · rintro _ error ⟨rfl, status⟩
        exact refused error status
      · rintro _ context rfl
        exact ⟨.token context, Or.inr rfl, .operation _ _ _ (.burnSession id)⟩
  | navigate id payload =>
      refine authorized_authorized free refused fun command context present => ?_
      obtain rfl := present
      cases validated : command.validate with
      | error error =>
          obtain rfl := validate_error validated
          exact ⟨.nothing, Or.inl free, refused _ (by decide)⟩
      | ok _ =>
          exact ⟨.token context, Or.inr rfl, .operation _ _ _ (.navigate id command validated)⟩
  | setEgress id payload =>
      refine authorized_authorized free refused fun mode context present => ?_
      obtain rfl := present
      exact ⟨.token context, Or.inr rfl, .operation _ _ _ (.setEgress id mode)⟩
  | setStreamProfile id payload =>
      refine setting_authorized free fun profile context held' free' holds => ?_
      exact changeSetting_authorized _ _ free' holds fun _ activity active =>
        .change profile _ _ activity active
  | setBlocklist id payload =>
      refine setting_authorized free fun enabled context held' free' holds => ?_
      exact changeSetting_authorized _ _ free' holds fun _ activity active =>
        .change _ enabled _ activity active
  | setAutoBurn id payload =>
      refine setting_authorized free fun seconds context held' free' holds => ?_
      unfold SessionManager.setAutoBurnSeconds
      split
      · exact ⟨.nothing, free', rfl, by decide⟩
      · exact changeSetting_authorized _ _ free' holds fun _ activity active =>
          .change _ _ seconds activity active
  | metrics =>
      refine .andThen (authenticate_authorized false free) ?_ ?_
      · rintro _ error ⟨rfl, status⟩
        exact refused error status
      · rintro _ context rfl
        refine fun daemon => ⟨⟨.nothing, Or.inr trivial, .refl _ daemon⟩, ?_⟩
        exact ⟨.cookie context, Or.inl (Or.inr rfl), .sampled context _ _ _⟩
  | issueTicket payload => exact handleTicket_authorized app free
  | sessionEvents id message turns =>
      refine validateOrigin_authorized free (refused _ (by decide)) fun origin => ?_
      refine .bind (eventSocket_authorized app id turns origin free fun token presented =>
        by rw [HttpRequest.ticket, presented]; rfl) fun credential result granted => ?_
      refine ⟨credential, Or.inr rfl, ?_⟩
      cases result with
      | error error =>
          rcases granted with ⟨rfl, status⟩
          exact refused error status
      | ok _ =>
          rcases granted with ⟨client, rfl⟩
          exact .upgraded _ client
  | sessionSignal id message connects =>
      refine validateOrigin_authorized free (refused _ (by decide)) fun origin => ?_
      split
      · refine .bind (signalSocket_authorized id connects origin free fun token presented =>
          by rw [HttpRequest.ticket, presented]; rfl) fun credential result granted => ?_
        refine ⟨credential, Or.inr rfl, ?_⟩
        rcases granted with ⟨client, rfl⟩ | ⟨error, rfl, rfl, status⟩
        · cases result with
          | error error => exact .failed _ _ error (Or.inr (Or.inr ⟨client, rfl⟩))
          | ok _ => exact .upgraded _ client
        · exact refused error status
      · exact ⟨.nothing, free, .disabled _⟩

end Routines

end XanhTab
