import XanhTab.Daemon.Model
import XanhTab.Transition.Core

/-!
# The event channel of the web client

What `web/app.js` does to keep a WebSocket open on which the daemon reports the
session that is shown.  A function of the client runs to its end or to an `await`,
so its parts are functions of the page; what the page waits for comes in any
order.  Of a session the channel reads the identifier and the phase only.
-/

namespace XanhTab.Web

structure Shown where
  id : Option Uuid
  phase : SessionPhase
  deriving DecidableEq

inductive ReadyState
  | connecting | opened | closing | closed
  deriving DecidableEq

/-- A socket with the session that its handlers close over. -/
structure EventSocket where
  sessionId : Uuid
  readyState : ReadyState
  deriving DecidableEq

/-- What a message consists of, as far as the handler reads it. -/
inductive Payload
  | authenticated
  | error (code : String)
  | event (name : String) (session : Option Shown)

/-- The `state` of the client, with the sockets that it has created, the requests
for tickets that are under way, the rejections of `connectEvents` that are not
handled yet and the number of calls of `syncAfterPairing` that have not returned.
Of the token there is only whether the client has one.  A timer has the session of
its callback and its delay. -/
structure Page where
  csrf : Bool := false
  session : Option Shown := none
  socket : Option Nat := none
  socketSessionId : Option Uuid := none
  eventsConnectingSessionId : Option Uuid := none
  eventsReconnectTimer : Option (Uuid × Nat) := none
  eventsReconnectAttempts : Nat := 0
  sockets : List EventSocket := []
  tickets : List Uuid := []
  rejections : List Bool := []
  syncing : Nat := 0
  deriving DecidableEq

namespace Page

/-- `state.session?.id` -/
def sessionId (page : Page) : Option Uuid :=
  page.session.bind Shown.id

/-- `state.session?.phase === "active"` -/
def showsActive (page : Page) : Bool :=
  page.session.any fun shown => shown.phase = .active

def setReadyState (index : Nat) (change : ReadyState → ReadyState) (page : Page) : Page :=
  { page with
    sockets := page.sockets.modify index fun socket =>
      { socket with readyState := change socket.readyState } }

/-- `close` of a socket. -/
def ReadyState.afterClose : ReadyState → ReadyState
  | .connecting | .opened | .closing => .closing
  | .closed => .closed

def stopEventChannel (page : Page) : Page :=
  let stopped : Page :=
    { page with
      eventsReconnectTimer := none
      eventsReconnectAttempts := 0
      socket := none
      socketSessionId := none }
  match page.socket with
  | none => stopped
  | some index => stopped.setReadyState index ReadyState.afterClose

def scheduleEventReconnect (sessionId : Uuid) (page : Page) : Page :=
  if page.eventsReconnectTimer.isSome ∨ page.csrf = false ∨ page.sessionId ≠ some sessionId ∨
      page.showsActive = false then page
  else
    { page with
      eventsReconnectTimer := some (sessionId, min (1000 * 2 ^ page.eventsReconnectAttempts) 15000)
      eventsReconnectAttempts := page.eventsReconnectAttempts + 1 }

/-- The socket of the page is connecting or open. -/
def live (page : Page) : Bool :=
  (page.socket.bind (page.sockets[·]?)).any fun socket =>
    socket.readyState = .connecting || socket.readyState = .opened

/-- `connectEvents` up to its request for a ticket. -/
def connectEvents (page : Page) : Page :=
  match page.sessionId with
  | none => page
  | some sessionId =>
      if page.csrf = false ∨ page.eventsConnectingSessionId = some sessionId ∨
          (page.socketSessionId = some sessionId ∧ page.live = true) then page
      else
        let page :=
          if page.socket.isSome ∧ page.socketSessionId ≠ some sessionId then page.stopEventChannel
          else page
        { page with
          eventsConnectingSessionId := some sessionId
          tickets := page.tickets ++ [sessionId] }

/-- `renderSession` up to its call of `connectEvents`.  The channel of another
session is stopped. -/
def display (snapshot : Shown) (page : Page) : Page :=
  let page :=
    if page.sessionId.isSome ∧ page.sessionId ≠ snapshot.id then page.stopEventChannel else page
  { page with session := some snapshot }

def renderSession (snapshot : Shown) (page : Page) : Page :=
  let shown := page.display snapshot
  if snapshot.phase = .active ∧ shown.csrf = true then shown.connectEvents else shown

/-- What is rendered when there is no session. -/
def noSession : Shown where
  id := none
  phase := .idle

def lockAuthentication (page : Page) : Page :=
  let locked := { page with csrf := false }.stopEventChannel
  match locked.session with
  | none => locked.renderSession noSession
  | some shown =>
      if shown.phase = .burning ∨ shown.phase = .idle then locked.renderSession noSession
      else locked.renderSession shown

/-- What `burn` does when its request has succeeded. -/
def burned (page : Page) : Page :=
  ({ page with csrf := false }.stopEventChannel).renderSession noSession

/-- A request for a ticket is over. -/
def endRequest (index : Nat) (sessionId : Uuid) (page : Page) : Page :=
  { page with
    tickets := page.tickets.eraseIdx index
    eventsConnectingSessionId :=
      if page.eventsConnectingSessionId = some sessionId then none
      else page.eventsConnectingSessionId }

/-- The `finally` of `connectEvents`. -/
def finishConnect (index : Nat) (sessionId : Uuid) (page : Page) : Page :=
  let page := page.endRequest index sessionId
  if page.csrf = true ∧ page.sessionId.isSome ∧ page.sessionId ≠ some sessionId ∧
      page.socket = none then page.connectEvents
  else page

/-- `connectEvents` with the ticket that it has requested. -/
def openSocket (sessionId : Uuid) (page : Page) : Page :=
  if page.csrf = false ∨ page.sessionId ≠ some sessionId then page
  else
    { page with
      socket := some page.sockets.length
      socketSessionId := some sessionId
      sockets := page.sockets ++ [⟨sessionId, .connecting⟩] }

/-- `connectEvents` when its request has failed. -/
def failConnect (sessionId : Uuid) (isAuthError : Bool) (page : Page) : Page :=
  if page.csrf = false ∨ page.sessionId ≠ some sessionId then page
  else
    { page.scheduleEventReconnect sessionId with rejections := page.rejections ++ [isAuthError] }

/-- What comes of a request for a ticket: a socket, or an error of some kind. -/
def resume (sessionId : Uuid) (isAuthError : Option Bool) (page : Page) : Page :=
  match isAuthError with
  | none => page.openSocket sessionId
  | some isAuthError => page.failConnect sessionId isAuthError

/-- The handler for messages of a socket. -/
def receive (index : Nat) (sessionId : Uuid) (payload : Payload) (page : Page) : Page :=
  if page.socket ≠ some index ∨ page.socketSessionId ≠ some sessionId ∨
      page.sessionId ≠ some sessionId then page
  else
    match payload with
    | .authenticated => { page with eventsReconnectAttempts := 0 }
    | .error code => if code = "AUTH_REQUIRED" then page.lockAuthentication else page
    | .event name session =>
        if name = "session.idle" ∨ name = "session.burn_failed" then page.lockAuthentication
        else
          match session with
          | none => page
          | some shown => if shown.id = some sessionId then page.renderSession shown else page

/-- The handler for the end of a socket. -/
def lose (index : Nat) (sessionId : Uuid) (page : Page) : Page :=
  if page.socket ≠ some index then page
  else { page with socket := none, socketSessionId := none }.scheduleEventReconnect sessionId

/-- The callback of the timer. -/
def reconnect (sessionId : Uuid) (page : Page) : Page :=
  let rung := { page with eventsReconnectTimer := none }
  if rung.csrf = true ∧ rung.sessionId = some sessionId ∧ rung.showsActive = true then
    rung.connectEvents
  else rung

end Page

/-! ## What may happen to a page -/

/-- One task of the page.  A session is rendered from the response to any request,
and any of them may find that the client is not authenticated any more. -/
inductive PageEvent
  | paired
  | synced (snapshot : Shown)
  | syncRejected
  | syncFailed
  | rendered (snapshot : Shown)
  | rejected
  | burned
  | ticket (index : Nat) (isAuthError : Option Bool)
  | handled (index : Nat)
  | timer
  | opened (index : Nat)
  | message (index : Nat) (payload : Payload)
  | closing (index : Nat)
  | closed (index : Nat)

namespace Page

/-- A call of `syncAfterPairing` returns. -/
def leaveSync (page : Page) : Page :=
  { page with syncing := page.syncing - 1 }

def step : Transition.Step Page PageEvent
  | page, .paired => some { page with csrf := true, syncing := page.syncing + 1 }
  | page, .synced snapshot =>
      if 0 < page.syncing then some (page.leaveSync.renderSession snapshot) else none
  | page, .syncRejected => if 0 < page.syncing then some page.leaveSync.lockAuthentication else none
  | page, .syncFailed =>
      if 0 < page.syncing then some (page.leaveSync.renderSession noSession) else none
  | page, .rendered snapshot => some (page.renderSession snapshot)
  | page, .rejected => some page.lockAuthentication
  | page, .burned => some page.burned
  | page, .ticket index isAuthError =>
      page.tickets[index]?.map fun sessionId =>
        (page.resume sessionId isAuthError).finishConnect index sessionId
  | page, .handled index =>
      page.rejections[index]?.map fun isAuthError =>
        let page := { page with rejections := page.rejections.eraseIdx index }
        if isAuthError then page.lockAuthentication else page
  | page, .timer => page.eventsReconnectTimer.map fun timer => page.reconnect timer.1
  | page, .opened index =>
      page.sockets[index]?.bind fun socket =>
        if socket.readyState = .connecting then
          some (page.setReadyState index fun _ => .opened)
        else none
  | page, .message index payload =>
      page.sockets[index]?.bind fun socket =>
        if socket.readyState = .opened then some (page.receive index socket.sessionId payload)
        else none
  | page, .closing index =>
      page.sockets[index]?.bind fun socket =>
        if socket.readyState = .opened then
          some (page.setReadyState index fun _ => .closing)
        else none
  | page, .closed index =>
      page.sockets[index]?.bind fun socket =>
        if socket.readyState = .closed then none
        else some ((page.setReadyState index fun _ => .closed).lose index socket.sessionId)

end Page

/-! ## Consistency -/

/-- What holds of the channel whenever no task runs, and between the functions of
a task.  Without authentication there is no channel; the socket and the timer
belong to the session that is shown, and the socket has not been closed. -/
structure Consistent (page : Page) : Prop where
  locked : page.csrf = false → page.socket = none ∧ page.eventsReconnectTimer = none
  unset : page.socket = none → page.socketSessionId = none
  socket : ∀ index, page.socket = some index → ∃ sessionId readyState,
    page.sockets[index]? = some ⟨sessionId, readyState⟩ ∧ readyState ≠ .closed ∧
      page.socketSessionId = some sessionId ∧ page.sessionId = some sessionId
  timer : ∀ sessionId delay, page.eventsReconnectTimer = some (sessionId, delay) →
    page.sessionId = some sessionId ∧ 1000 ≤ delay ∧ delay ≤ 15000
  connecting : ∀ sessionId, page.eventsConnectingSessionId = some sessionId →
    sessionId ∈ page.tickets

/-- A page that shows an active session has a socket for it, will try again, is
about to get a ticket for it, or has yet to ask for the session. -/
def Attended (page : Page) : Prop :=
  page.csrf = true → page.showsActive = true → ∀ sessionId, page.sessionId = some sessionId →
    page.socket.isSome = true ∨ page.eventsReconnectTimer.isSome = true ∨
      page.eventsConnectingSessionId = some sessionId ∨ 0 < page.syncing

namespace Page

variable {page : Page}

/-! ### What the functions leave alone -/

/-- After a stop there is neither a socket nor a timer, and nothing else has
changed but the state of the socket. -/
theorem stopEventChannel_eq (page : Page) : ∃ sockets, sockets.length = page.sockets.length ∧
    page.stopEventChannel =
      { page with
        eventsReconnectTimer := none
        eventsReconnectAttempts := 0
        socket := none
        socketSessionId := none
        sockets := sockets } := by
  unfold stopEventChannel
  cases page.socket with
  | none => exact ⟨page.sockets, rfl, rfl⟩
  | some index => exact ⟨_, List.length_modify _ _ _, rfl⟩

theorem scheduleEventReconnect_frame (sessionId : Uuid) (page : Page) :
    (page.scheduleEventReconnect sessionId).csrf = page.csrf ∧
      (page.scheduleEventReconnect sessionId).session = page.session ∧
      (page.scheduleEventReconnect sessionId).tickets = page.tickets := by
  unfold scheduleEventReconnect
  split <;> exact ⟨rfl, rfl, rfl⟩

theorem resume_frame (sessionId : Uuid) (isAuthError : Option Bool) (page : Page) :
    (page.resume sessionId isAuthError).csrf = page.csrf ∧
      (page.resume sessionId isAuthError).session = page.session ∧
      (page.resume sessionId isAuthError).tickets = page.tickets := by
  cases isAuthError with
  | none =>
      unfold resume openSocket
      dsimp only
      split <;> exact ⟨rfl, rfl, rfl⟩
  | some isAuthError =>
      unfold resume failConnect
      dsimp only
      split
      · exact ⟨rfl, rfl, rfl⟩
      · exact page.scheduleEventReconnect_frame sessionId

end Page

namespace Consistent

variable {page : Page}

/-- Without a socket and without a timer there is nothing to be said but of the
request for a ticket. -/
theorem of_stopped (socket : page.socket = none) (unset : page.socketSessionId = none)
    (timer : page.eventsReconnectTimer = none)
    (connecting : ∀ sessionId, page.eventsConnectingSessionId = some sessionId →
      sessionId ∈ page.tickets) : Consistent page where
  locked _ := ⟨socket, timer⟩
  unset _ := unset
  socket index present := by
    rw [socket] at present
    cases present
  timer sessionId delay present := by
    rw [timer] at present
    cases present
  connecting := connecting

theorem stop (connecting : ∀ sessionId, page.eventsConnectingSessionId = some sessionId →
    sessionId ∈ page.tickets) : Consistent page.stopEventChannel := by
  rcases page.stopEventChannel_eq with ⟨sockets, _, equal⟩
  rw [equal]
  exact of_stopped rfl rfl rfl connecting

/-- Of a consistent page `connectEvents` never stops a channel: it does nothing,
or requests a ticket for the session that is shown. -/
theorem connectEvents_cases (consistent : Consistent page) :
    (page.connectEvents = page ∧
      ∀ sessionId, page.csrf = true → page.sessionId = some sessionId →
        page.socket.isSome = true ∨ page.eventsConnectingSessionId = some sessionId) ∨
    ∃ sessionId, page.csrf = true ∧ page.sessionId = some sessionId ∧
      page.connectEvents =
        { page with
          eventsConnectingSessionId := some sessionId
          tickets := page.tickets ++ [sessionId] } := by
  unfold Page.connectEvents
  cases shown : page.sessionId with
  | none =>
      refine Or.inl ⟨rfl, fun sessionId _ shown' => ?_⟩
      cases shown'
  | some sessionId =>
      dsimp only
      split
      · rename_i idle
        refine Or.inl ⟨rfl, fun sessionId' authenticated same => ?_⟩
        obtain rfl := Option.some.inj same
        rcases idle with locked | connecting | ⟨_, live⟩
        · rw [locked] at authenticated
          cases authenticated
        · exact Or.inr connecting
        · left
          unfold Page.live at live
          cases socket : page.socket with
          | none =>
              rw [socket] at live
              cases live
          | some index => rfl
      · rename_i unattended
        rw [not_or] at unattended
        refine Or.inr ⟨sessionId, by simpa using unattended.1, rfl, ?_⟩
        rw [if_neg]
        rintro ⟨present, other⟩
        rcases Option.isSome_iff_exists.mp present with ⟨index, socket⟩
        rcases consistent.socket index socket with ⟨_, _, _, _, belongs, same⟩
        exact other (belongs.trans (same.symm.trans shown))

theorem connectEvents (consistent : Consistent page) : Consistent page.connectEvents := by
  rcases consistent.connectEvents_cases with ⟨equal, _⟩ | ⟨sessionId, _, _, equal⟩
  · rwa [equal]
  · rw [equal]
    refine ⟨consistent.locked, consistent.unset, consistent.socket, consistent.timer, ?_⟩
    intro other connecting
    obtain rfl := Option.some.inj connecting
    exact List.mem_append_right _ List.mem_cons_self

theorem attended_connectEvents (consistent : Consistent page) : Attended page.connectEvents := by
  rcases consistent.connectEvents_cases with ⟨equal, has⟩ | ⟨sessionId, _, shown, equal⟩
  · rw [equal]
    intro authenticated _ sessionId shown
    rcases has sessionId authenticated shown with socket | connecting
    · exact Or.inl socket
    · exact Or.inr (Or.inr (Or.inl connecting))
  · rw [equal]
    intro _ _ other same
    have equal : sessionId = other := Option.some.inj (shown.symm.trans same)
    exact Or.inr (Or.inr (Or.inl (congrArg some equal)))

/-! ### Rendering -/

/-- Another snapshot with the same identifier changes nothing about the channel. -/
theorem show_same (consistent : Consistent page) {snapshot : Shown}
    (same : page.sessionId = snapshot.id) :
    Consistent { page with session := some snapshot } where
  locked := consistent.locked
  unset := consistent.unset
  socket index present := by
    rcases consistent.socket index present with ⟨sessionId, readyState, found, alive, set, shown⟩
    exact ⟨sessionId, readyState, found, alive, set, same.symm.trans shown⟩
  timer sessionId delay present := by
    rcases consistent.timer sessionId delay present with ⟨shown, bounds⟩
    exact ⟨same.symm.trans shown, bounds⟩
  connecting := consistent.connecting

/-- A page without a session has no channel. -/
theorem stopped_of_hidden (consistent : Consistent page) (hidden : page.sessionId = none) :
    page.socket = none ∧ page.eventsReconnectTimer = none := by
  constructor
  · cases socket : page.socket with
    | none => rfl
    | some index =>
        rcases consistent.socket index socket with ⟨_, _, _, _, _, shown⟩
        rw [hidden] at shown
        cases shown
  · cases timer : page.eventsReconnectTimer with
    | none => rfl
    | some entry =>
        have shown := (consistent.timer entry.1 entry.2 timer).1
        rw [hidden] at shown
        cases shown

theorem display (consistent : Consistent page) (snapshot : Shown) :
    Consistent (page.display snapshot) := by
  unfold Page.display
  split
  · rcases page.stopEventChannel_eq with ⟨sockets, _, equal⟩
    rw [equal]
    exact of_stopped rfl rfl rfl consistent.connecting
  · rename_i kept
    cases hidden : page.sessionId with
    | none =>
        rcases consistent.stopped_of_hidden hidden with ⟨socket, timer⟩
        exact of_stopped socket (consistent.unset socket) timer consistent.connecting
    | some sessionId =>
        rw [hidden] at kept
        exact consistent.show_same (hidden.trans (not_and_not_right.mp kept rfl))

theorem renderSession (consistent : Consistent page) (snapshot : Shown) :
    Consistent (page.renderSession snapshot) ∧ Attended (page.renderSession snapshot) := by
  have ready := consistent.display snapshot
  unfold Page.renderSession
  dsimp only
  split
  · exact ⟨ready.connectEvents, ready.attended_connectEvents⟩
  · rename_i inactive
    refine ⟨ready, fun authenticated active => ?_⟩
    exact absurd ⟨of_decide_eq_true active, authenticated⟩ inactive

theorem lockAuthentication (connecting : ∀ sessionId,
    page.eventsConnectingSessionId = some sessionId → sessionId ∈ page.tickets) :
    Consistent page.lockAuthentication ∧ Attended page.lockAuthentication := by
  have locked : Consistent { page with csrf := false }.stopEventChannel := stop connecting
  unfold Page.lockAuthentication
  dsimp only
  split
  · exact locked.renderSession _
  · split
    · exact locked.renderSession _
    · exact locked.renderSession _

/-! ### Requests for tickets -/

theorem scheduleEventReconnect (consistent : Consistent page) (sessionId : Uuid) :
    Consistent (page.scheduleEventReconnect sessionId) := by
  unfold Page.scheduleEventReconnect
  split
  · exact consistent
  · rename_i due
    rw [not_or, not_or, not_or] at due
    refine ⟨fun locked => absurd locked due.2.1, consistent.unset, consistent.socket, ?_,
      consistent.connecting⟩
    rintro other delay scheduled
    obtain ⟨rfl, rfl⟩ := Prod.mk.inj (Option.some.inj scheduled)
    refine ⟨not_not.mp due.2.2.1, Nat.le_min.mpr ⟨?_, by decide⟩, Nat.min_le_right _ _⟩
    exact Nat.le_mul_of_pos_right 1000 (Nat.pow_pos (by decide))

/-- Where a reconnection is due, one is scheduled. -/
theorem isSome_scheduleEventReconnect {sessionId : Uuid} (authenticated : page.csrf = true)
    (shown : page.sessionId = some sessionId) (active : page.showsActive = true) :
    (page.scheduleEventReconnect sessionId).eventsReconnectTimer.isSome = true := by
  unfold Page.scheduleEventReconnect
  split
  · rename_i none
    rcases none with scheduled | locked | other | inactive
    · exact scheduled
    · rw [authenticated] at locked
      cases locked
    · exact absurd shown other
    · rw [active] at inactive
      cases inactive
  · rfl

theorem endRequest (consistent : Consistent page) {index : Nat} {sessionId : Uuid}
    (requested : page.tickets[index]? = some sessionId) :
    Consistent (page.endRequest index sessionId) := by
  refine ⟨consistent.locked, consistent.unset, consistent.socket, consistent.timer, ?_⟩
  intro other connecting
  unfold Page.endRequest at connecting
  dsimp only at connecting
  split at connecting
  · cases connecting
  · rename_i another
    have member := consistent.connecting other connecting
    rcases List.mem_iff_getElem?.mp member with ⟨place, found⟩
    have different : place ≠ index := by
      rintro rfl
      rw [requested] at found
      rw [connecting, Option.some.inj found] at another
      exact another rfl
    exact List.mem_eraseIdx_iff_getElem?.mpr ⟨place, different, found⟩

/-- The end of a request leaves the page attended, given that the session of the
request has got something else to wait for. -/
theorem finishConnect (consistent : Consistent page) {index : Nat} {sessionId : Uuid}
    (requested : page.tickets[index]? = some sessionId)
    (attended : page.csrf = true → page.showsActive = true → page.sessionId = some sessionId →
      page.socket.isSome = true ∨ page.eventsReconnectTimer.isSome = true ∨ 0 < page.syncing) :
    Consistent (page.finishConnect index sessionId) ∧
      Attended (page.finishConnect index sessionId) := by
  have ready := consistent.endRequest requested
  unfold Page.finishConnect
  dsimp only
  split
  · exact ⟨ready.connectEvents, ready.attended_connectEvents⟩
  · rename_i settled
    refine ⟨ready, fun authenticated active other shown => ?_⟩
    by_cases same : page.sessionId = some sessionId
    · rcases attended authenticated active same with socket | timer | syncing
      · exact Or.inl socket
      · exact Or.inr (Or.inl timer)
      · exact Or.inr (Or.inr (Or.inr syncing))
    · left
      cases socket : (page.endRequest index sessionId).socket with
      | some index => rfl
      | none => exact absurd ⟨authenticated, by rw [shown]; rfl, same, socket⟩ settled

theorem openSocket (consistent : Consistent page) (sessionId : Uuid) :
    Consistent (page.openSocket sessionId) := by
  unfold Page.openSocket
  split
  · exact consistent
  · rename_i wanted
    rw [not_or] at wanted
    refine ⟨fun locked => absurd locked wanted.1, fun absent => (nomatch absent), ?_,
      consistent.timer, consistent.connecting⟩
    rintro index present
    obtain rfl := Option.some.inj present
    exact ⟨sessionId, .connecting, List.getElem?_concat_length, by decide, rfl,
      not_not.mp wanted.2⟩

theorem failConnect (consistent : Consistent page) (sessionId : Uuid) (isAuthError : Bool) :
    Consistent (page.failConnect sessionId isAuthError) := by
  unfold Page.failConnect
  split
  · exact consistent
  · have scheduled := consistent.scheduleEventReconnect sessionId
    exact ⟨scheduled.locked, scheduled.unset, scheduled.socket, scheduled.timer,
      scheduled.connecting⟩

theorem resume (consistent : Consistent page) (sessionId : Uuid) (isAuthError : Option Bool) :
    Consistent (page.resume sessionId isAuthError) := by
  cases isAuthError with
  | none => exact consistent.openSocket sessionId
  | some isAuthError => exact consistent.failConnect sessionId isAuthError

/-- A request for the session that is shown leads to a socket or to another try. -/
theorem attended_resume {sessionId : Uuid} (isAuthError : Option Bool)
    (authenticated : page.csrf = true) (active : page.showsActive = true)
    (shown : page.sessionId = some sessionId) :
    (page.resume sessionId isAuthError).socket.isSome = true ∨
      (page.resume sessionId isAuthError).eventsReconnectTimer.isSome = true := by
  have wanted : ¬(page.csrf = false ∨ page.sessionId ≠ some sessionId) := by
    rintro (locked | other)
    · rw [authenticated] at locked
      cases locked
    · exact other shown
  cases isAuthError with
  | none =>
      left
      simp only [Page.resume, Page.openSocket, if_neg wanted]
      rfl
  | some isAuthError =>
      right
      simp only [Page.resume, Page.failConnect, if_neg wanted]
      exact isSome_scheduleEventReconnect authenticated shown active

theorem ticket (consistent : Consistent page) {index : Nat} {sessionId : Uuid}
    (requested : page.tickets[index]? = some sessionId) (isAuthError : Option Bool) :
    Consistent ((page.resume sessionId isAuthError).finishConnect index sessionId) ∧
      Attended ((page.resume sessionId isAuthError).finishConnect index sessionId) := by
  rcases page.resume_frame sessionId isAuthError with ⟨csrf, session, tickets⟩
  refine (consistent.resume sessionId isAuthError).finishConnect (tickets ▸ requested) ?_
  unfold Page.showsActive Page.sessionId
  rw [csrf, session]
  intro authenticated active shown
  exact (attended_resume isAuthError authenticated active shown).imp_right Or.inl

/-! ### Sockets -/

theorem setReadyState (consistent : Consistent page) (index : Nat)
    {change : ReadyState → ReadyState}
    (alive : page.socket = some index → ∀ readyState, change readyState ≠ .closed) :
    Consistent (page.setReadyState index change) := by
  refine ⟨consistent.locked, consistent.unset, ?_, consistent.timer, consistent.connecting⟩
  intro current present
  rcases consistent.socket current present with ⟨sessionId, readyState, found, open_, set, shown⟩
  by_cases same : index = current
  · subst same
    refine ⟨sessionId, change readyState, ?_, alive present readyState, set, shown⟩
    exact (List.getElem?_modify_eq ..).trans (by rw [found]; rfl)
  · exact ⟨sessionId, readyState, (List.getElem?_modify_ne _ _ same).trans found, open_, set, shown⟩

/-- The socket of the page has closed, or another one. -/
theorem lose (consistent : Consistent page) (attends : Attended page) {index : Nat}
    {socket : EventSocket} (found : page.sockets[index]? = some socket) :
    let after := (page.setReadyState index fun _ => .closed).lose index socket.sessionId
    Consistent after ∧ Attended after := by
  unfold Page.lose
  dsimp only
  split
  · rename_i other
    exact ⟨consistent.setReadyState index fun current => absurd current other, attends⟩
  · rename_i current
    have current : page.socket = some index := not_not.mp current
    rcases consistent.socket index current with ⟨sessionId, readyState, found', _, _, shown⟩
    obtain rfl : socket = ⟨sessionId, readyState⟩ := Option.some.inj (found.symm.trans found')
    let lost : Page :=
      { page.setReadyState index fun _ => .closed with socket := none, socketSessionId := none }
    have ready : Consistent lost := by
      refine ⟨fun locked => ⟨rfl, (consistent.locked locked).2⟩, fun _ => rfl,
        fun _ present => (nomatch present), consistent.timer, consistent.connecting⟩
    refine ⟨ready.scheduleEventReconnect sessionId, ?_⟩
    rcases lost.scheduleEventReconnect_frame sessionId with ⟨csrf, session, _⟩
    intro authenticated active other _
    right
    left
    unfold Page.showsActive at active
    rw [session] at active
    exact isSome_scheduleEventReconnect (csrf.symm.trans authenticated) shown active

theorem receive (consistent : Consistent page) (attends : Attended page) (index : Nat)
    (sessionId : Uuid) (payload : Payload) :
    Consistent (page.receive index sessionId payload) ∧
      Attended (page.receive index sessionId payload) := by
  unfold Page.receive
  split
  · exact ⟨consistent, attends⟩
  · cases payload with
    | authenticated =>
        exact ⟨⟨consistent.locked, consistent.unset, consistent.socket, consistent.timer,
          consistent.connecting⟩, attends⟩
    | error code =>
        dsimp only
        split
        · exact lockAuthentication consistent.connecting
        · exact ⟨consistent, attends⟩
    | event name session =>
        dsimp only
        split
        · exact lockAuthentication consistent.connecting
        · cases session with
          | none => exact ⟨consistent, attends⟩
          | some shown =>
              dsimp only
              split
              · exact consistent.renderSession shown
              · exact ⟨consistent, attends⟩

theorem reconnect (consistent : Consistent page) {sessionId : Uuid} {delay : Nat}
    (rings : page.eventsReconnectTimer = some (sessionId, delay)) :
    Consistent (page.reconnect sessionId) ∧ Attended (page.reconnect sessionId) := by
  have ready : Consistent { page with eventsReconnectTimer := none } :=
    ⟨fun locked => ⟨(consistent.locked locked).1, rfl⟩, consistent.unset, consistent.socket,
      fun _ _ scheduled => (nomatch scheduled), consistent.connecting⟩
  have shown := (consistent.timer sessionId delay rings).1
  unfold Page.reconnect
  dsimp only
  split
  · exact ⟨ready.connectEvents, ready.attended_connectEvents⟩
  · rename_i idle
    refine ⟨ready, fun authenticated active other _ => ?_⟩
    exact absurd ⟨authenticated, shown, active⟩ idle

/-! ## Every task keeps the channel -/

theorem leaveSync (consistent : Consistent page) : Consistent page.leaveSync :=
  ⟨consistent.locked, consistent.unset, consistent.socket, consistent.timer, consistent.connecting⟩

/-- A socket that opens, or begins to close, stays the socket of the page. -/
theorem turn (consistent : Consistent page) (attends : Attended page) (index : Nat)
    {readyState : ReadyState} (alive : readyState ≠ .closed) :
    Consistent (page.setReadyState index fun _ => readyState) ∧
      Attended (page.setReadyState index fun _ => readyState) :=
  ⟨consistent.setReadyState index fun _ _ => alive, attends⟩

/-- Whatever the page does next, its channel stays consistent and attended. -/
theorem step {event : PageEvent} {after : Page} (consistent : Consistent page)
    (attends : Attended page) (stepped : page.step event = some after) :
    Consistent after ∧ Attended after := by
  cases event with
  | paired =>
      obtain rfl := Option.some.inj stepped
      refine ⟨⟨fun locked => (nomatch locked), consistent.unset, consistent.socket,
        consistent.timer, consistent.connecting⟩, fun _ _ _ _ => ?_⟩
      exact Or.inr (Or.inr (Or.inr (Nat.succ_pos _)))
  | synced snapshot =>
      obtain ⟨_, equal⟩ := Option.ite_none_right_eq_some.mp stepped
      rw [← Option.some.inj equal]
      exact consistent.leaveSync.renderSession snapshot
  | syncRejected =>
      obtain ⟨_, equal⟩ := Option.ite_none_right_eq_some.mp stepped
      rw [← Option.some.inj equal]
      exact lockAuthentication consistent.connecting
  | syncFailed =>
      obtain ⟨_, equal⟩ := Option.ite_none_right_eq_some.mp stepped
      rw [← Option.some.inj equal]
      exact consistent.leaveSync.renderSession Page.noSession
  | rendered snapshot =>
      obtain rfl := Option.some.inj stepped
      exact consistent.renderSession snapshot
  | rejected =>
      obtain rfl := Option.some.inj stepped
      exact lockAuthentication consistent.connecting
  | burned =>
      obtain rfl := Option.some.inj stepped
      have stopped : Consistent { page with csrf := false }.stopEventChannel :=
        stop consistent.connecting
      exact stopped.renderSession Page.noSession
  | ticket index isAuthError =>
      rcases Option.map_eq_some_iff.mp stepped with ⟨sessionId, requested, rfl⟩
      exact consistent.ticket requested isAuthError
  | handled index =>
      rcases Option.map_eq_some_iff.mp stepped with ⟨isAuthError, _, rfl⟩
      cases isAuthError with
      | true => exact lockAuthentication consistent.connecting
      | false =>
          exact ⟨⟨consistent.locked, consistent.unset, consistent.socket, consistent.timer,
            consistent.connecting⟩, attends⟩
  | timer =>
      rcases Option.map_eq_some_iff.mp stepped with ⟨timer, rings, rfl⟩
      exact consistent.reconnect rings
  | opened index =>
      rcases Option.bind_eq_some_iff.mp stepped with ⟨socket, _, stepped⟩
      obtain ⟨_, equal⟩ := Option.ite_none_right_eq_some.mp stepped
      rw [← Option.some.inj equal]
      exact consistent.turn attends index (by decide)
  | message index payload =>
      rcases Option.bind_eq_some_iff.mp stepped with ⟨socket, _, stepped⟩
      obtain ⟨_, equal⟩ := Option.ite_none_right_eq_some.mp stepped
      rw [← Option.some.inj equal]
      exact consistent.receive attends index socket.sessionId payload
  | closing index =>
      rcases Option.bind_eq_some_iff.mp stepped with ⟨socket, _, stepped⟩
      obtain ⟨_, equal⟩ := Option.ite_none_right_eq_some.mp stepped
      rw [← Option.some.inj equal]
      exact consistent.turn attends index (by decide)
  | closed index =>
      rcases Option.bind_eq_some_iff.mp stepped with ⟨socket, found, stepped⟩
      obtain ⟨_, equal⟩ := Option.ite_none_left_eq_some.mp stepped
      rw [← Option.some.inj equal]
      exact consistent.lose attends found

end Consistent

/-- In every order of events, the client that shows an active session is connected
for it or is going to be. -/
theorem channel_kept_of_reaches {page : Page} (reaches : Transition.Reachable Page.step {} page) :
    Consistent page ∧ Attended page := by
  induction reaches with
  | refl =>
      exact ⟨.of_stopped rfl rfl rfl fun _ absent => (nomatch absent),
        fun unauthenticated => (nomatch unauthenticated)⟩
  | tail _ _ stepped ih => exact ih.1.step ih.2 stepped

namespace Sample

def activeSession (id : Uuid) : Shown where
  id := some id
  phase := .active

/-- The socket of the session is lost, the first try to replace it fails, and the
second one succeeds. -/
def retries : List PageEvent :=
  [.paired, .synced (activeSession 1), .ticket 0 none, .opened 0, .message 0 .authenticated,
    .closed 0, .timer, .ticket 0 (some false), .handled 0, .timer, .ticket 0 none]

end Sample

/-- In between there is no socket, but a timer for two seconds. -/
theorem channel_kept_of_retries :
    ∃ waiting again, Transition.run Page.step {} (Sample.retries.take 9) = some waiting ∧
      waiting.eventsReconnectTimer = some (1, 2000) ∧ Attended waiting ∧
      Transition.run Page.step {} Sample.retries = some again ∧ again.socket = some 1 ∧
      Consistent again := by
  have first : (Transition.run Page.step {} (Sample.retries.take 9)).map
      Page.eventsReconnectTimer = some (some (1, 2000)) := by
    decide
  have second : (Transition.run Page.step {} Sample.retries).map Page.socket = some (some 1) := by
    decide
  rcases Option.map_eq_some_iff.mp first with ⟨waiting, ran, timer⟩
  rcases Option.map_eq_some_iff.mp second with ⟨again, ran', socket⟩
  exact ⟨waiting, again, ran, timer, (channel_kept_of_reaches (Transition.reachable_of_run ran)).2,
    ran', socket, (channel_kept_of_reaches (Transition.reachable_of_run ran')).1⟩

/-! ## Sockets that have been given up -/

/-- The socket exists and is not the one of the page. -/
def Superseded (index : Nat) (page : Page) : Prop :=
  index < page.sockets.length ∧ page.socket ≠ some index

/-- A page takes up no socket that it had before and did not use. -/
def Extends (before after : Page) : Prop :=
  before.sockets.length ≤ after.sockets.length ∧
    ∀ index, after.socket = some index →
      before.socket = some index ∨ before.sockets.length ≤ index

theorem Superseded.extends {index : Nat} {before after : Page} (given_up : Superseded index before)
    (extended : Extends before after) : Superseded index after := by
  refine ⟨Nat.lt_of_lt_of_le given_up.1 extended.1, fun current => ?_⟩
  rcases extended.2 index current with same | new
  · exact given_up.2 same
  · exact Nat.not_lt.mpr new given_up.1

namespace Extends

variable {page before middle after : Page}

theorem of_eq (socket : after.socket = before.socket)
    (sockets : after.sockets.length = before.sockets.length) : Extends before after :=
  ⟨Nat.le_of_eq sockets.symm, fun _ current => Or.inl (socket ▸ current)⟩

theorem trans (first : Extends before middle) (second : Extends middle after) :
    Extends before after := by
  refine ⟨Nat.le_trans first.1 second.1, fun index current => ?_⟩
  rcases second.2 index current with same | new
  · exact first.2 index same
  · exact Or.inr (Nat.le_trans first.1 new)

/-- What is done to a page with the same sockets. -/
theorem of_same (extended : Extends middle after) (socket : middle.socket = before.socket)
    (sockets : middle.sockets = before.sockets) : Extends before after :=
  (of_eq socket (congrArg List.length sockets)).trans extended

theorem of_stopped (socket : after.socket = none)
    (sockets : after.sockets.length = before.sockets.length) : Extends before after := by
  refine ⟨Nat.le_of_eq sockets.symm, fun index current => ?_⟩
  rw [socket] at current
  cases current

theorem stopEventChannel : Extends page page.stopEventChannel := by
  rcases page.stopEventChannel_eq with ⟨sockets, same, equal⟩
  rw [equal]
  exact .of_stopped rfl same

theorem connectEvents : Extends page page.connectEvents := by
  unfold Page.connectEvents
  cases page.sessionId with
  | none => exact .of_eq rfl rfl
  | some sessionId =>
      dsimp only
      split
      · exact .of_eq rfl rfl
      · split
        · exact stopEventChannel.trans (.of_eq rfl rfl)
        · exact .of_eq rfl rfl

theorem renderSession (snapshot : Shown) : Extends page (page.renderSession snapshot) := by
  have displayed : Extends page (page.display snapshot) := by
    unfold Page.display
    split
    · exact stopEventChannel.trans (.of_eq rfl rfl)
    · exact .of_eq rfl rfl
  unfold Page.renderSession
  dsimp only
  split
  · exact displayed.trans connectEvents
  · exact displayed

theorem lockAuthentication : Extends page page.lockAuthentication := by
  have stopped : Extends page { page with csrf := false }.stopEventChannel :=
    of_same stopEventChannel rfl rfl
  unfold Page.lockAuthentication
  dsimp only
  split
  · exact stopped.trans (renderSession _)
  · split
    · exact stopped.trans (renderSession _)
    · exact stopped.trans (renderSession _)

theorem scheduleEventReconnect (sessionId : Uuid) :
    Extends page (page.scheduleEventReconnect sessionId) := by
  unfold Page.scheduleEventReconnect
  split
  · exact .of_eq rfl rfl
  · exact .of_eq rfl rfl

/-- Only a ticket leads to another socket, which is a new one. -/
theorem resume (sessionId : Uuid) (isAuthError : Option Bool) :
    Extends page (page.resume sessionId isAuthError) := by
  cases isAuthError with
  | none =>
      unfold Page.resume Page.openSocket
      dsimp only
      split
      · exact .of_eq rfl rfl
      · refine ⟨?_, fun index current => Or.inr (Nat.le_of_eq (Option.some.inj current))⟩
        rw [List.length_append]
        exact Nat.le_add_right _ _
  | some isAuthError =>
      unfold Page.resume Page.failConnect
      dsimp only
      split
      · exact .of_eq rfl rfl
      · exact (scheduleEventReconnect sessionId).trans (.of_eq rfl rfl)

theorem finishConnect (index : Nat) (sessionId : Uuid) :
    Extends page (page.finishConnect index sessionId) := by
  have ended : Extends page (page.endRequest index sessionId) := .of_eq rfl rfl
  unfold Page.finishConnect
  dsimp only
  split
  · exact ended.trans connectEvents
  · exact ended

theorem setReadyState (index : Nat) (change : ReadyState → ReadyState) :
    Extends page (page.setReadyState index change) :=
  .of_eq rfl (List.length_modify ..)

theorem lose (index : Nat) (sessionId : Uuid) : Extends page (page.lose index sessionId) := by
  unfold Page.lose
  split
  · exact .of_eq rfl rfl
  · have lost : Extends page { page with socket := none, socketSessionId := none } :=
      .of_stopped rfl rfl
    exact lost.trans (scheduleEventReconnect sessionId)

theorem receive (index : Nat) (sessionId : Uuid) (payload : Payload) :
    Extends page (page.receive index sessionId payload) := by
  unfold Page.receive
  split
  · exact .of_eq rfl rfl
  · cases payload with
    | authenticated => exact .of_eq rfl rfl
    | error code =>
        dsimp only
        split
        · exact lockAuthentication
        · exact .of_eq rfl rfl
    | event name session =>
        dsimp only
        split
        · exact lockAuthentication
        · split
          · exact .of_eq rfl rfl
          · split
            · exact renderSession _
            · exact .of_eq rfl rfl

theorem step {event : PageEvent} (stepped : before.step event = some after) :
    Extends before after := by
  cases event with
  | paired =>
      rw [← Option.some.inj stepped]
      exact .of_eq rfl rfl
  | synced snapshot =>
      obtain ⟨_, equal⟩ := Option.ite_none_right_eq_some.mp stepped
      rw [← Option.some.inj equal]
      exact of_same (renderSession snapshot) rfl rfl
  | syncRejected =>
      obtain ⟨_, equal⟩ := Option.ite_none_right_eq_some.mp stepped
      rw [← Option.some.inj equal]
      exact of_same lockAuthentication rfl rfl
  | syncFailed =>
      obtain ⟨_, equal⟩ := Option.ite_none_right_eq_some.mp stepped
      rw [← Option.some.inj equal]
      exact of_same (renderSession Page.noSession) rfl rfl
  | rendered snapshot =>
      rw [← Option.some.inj stepped]
      exact renderSession snapshot
  | rejected =>
      rw [← Option.some.inj stepped]
      exact lockAuthentication
  | burned =>
      rw [← Option.some.inj stepped]
      have stopped : Extends before { before with csrf := false }.stopEventChannel :=
        of_same stopEventChannel rfl rfl
      exact stopped.trans (renderSession Page.noSession)
  | ticket index isAuthError =>
      rcases Option.map_eq_some_iff.mp stepped with ⟨sessionId, _, rfl⟩
      exact (resume sessionId isAuthError).trans (finishConnect index sessionId)
  | handled index =>
      rcases Option.map_eq_some_iff.mp stepped with ⟨isAuthError, _, rfl⟩
      cases isAuthError with
      | true => exact of_same lockAuthentication rfl rfl
      | false => exact .of_eq rfl rfl
  | timer =>
      rcases Option.map_eq_some_iff.mp stepped with ⟨timer, _, rfl⟩
      unfold Page.reconnect
      dsimp only
      split
      · exact of_same connectEvents rfl rfl
      · exact .of_eq rfl rfl
  | opened index =>
      rcases Option.bind_eq_some_iff.mp stepped with ⟨socket, _, stepped⟩
      obtain ⟨_, equal⟩ := Option.ite_none_right_eq_some.mp stepped
      rw [← Option.some.inj equal]
      exact setReadyState index _
  | message index payload =>
      rcases Option.bind_eq_some_iff.mp stepped with ⟨socket, _, stepped⟩
      obtain ⟨_, equal⟩ := Option.ite_none_right_eq_some.mp stepped
      rw [← Option.some.inj equal]
      exact receive index socket.sessionId payload
  | closing index =>
      rcases Option.bind_eq_some_iff.mp stepped with ⟨socket, _, stepped⟩
      obtain ⟨_, equal⟩ := Option.ite_none_right_eq_some.mp stepped
      rw [← Option.some.inj equal]
      exact setReadyState index _
  | closed index =>
      rcases Option.bind_eq_some_iff.mp stepped with ⟨socket, _, stepped⟩
      obtain ⟨_, equal⟩ := Option.ite_none_left_eq_some.mp stepped
      rw [← Option.some.inj equal]
      exact (setReadyState index fun _ => .closed).trans (lose index socket.sessionId)

end Extends

/-- A socket that the page has given up, or that was stopped, never speaks to it
again: whatever happens, what it receives changes nothing, and its end is noted in
its own state alone, so that no other attempt is scheduled for it. -/
theorem inert_of_superseded {page later after : Page} {index : Nat}
    (given_up : Superseded index page) (reaches : Transition.Reachable Page.step page later) :
    (∀ payload, later.step (.message index payload) = some after → after = later) ∧
      (later.step (.closed index) = some after →
        after = later.setReadyState index fun _ => .closed) := by
  have still : Superseded index later := by
    induction reaches with
    | refl => exact given_up
    | tail _ _ stepped ih => exact ih.extends (.step stepped)
  constructor
  · intro payload received
    rcases Option.bind_eq_some_iff.mp received with ⟨socket, _, stepped⟩
    obtain ⟨_, equal⟩ := Option.ite_none_right_eq_some.mp stepped
    rw [← Option.some.inj equal]
    exact if_pos (Or.inl still.2)
  · intro lost
    rcases Option.bind_eq_some_iff.mp lost with ⟨socket, _, stepped⟩
    obtain ⟨_, equal⟩ := Option.ite_none_left_eq_some.mp stepped
    rw [← Option.some.inj equal]
    -- the handler looks at the socket of the page, which the event does not change
    exact if_pos still.2

namespace Sample

/-- Two requests for the same session are under way, because another one has been
shown in between, so that the first socket is replaced while it is open. -/
def doubled : List PageEvent :=
  [.paired, .synced (activeSession 1), .rendered (activeSession 2), .rendered (activeSession 1),
    .ticket 0 none, .opened 0, .ticket 1 none]

end Sample

/-- The first socket reports the end of the session to no effect, and its own end
leaves the second one in its place. -/
theorem inert_of_doubled :
    ∃ page, Transition.run Page.step {} Sample.doubled = some page ∧ page.socket = some 1 ∧
      page.step (.message 0 (.event "session.idle" none)) = some page ∧
        page.step (.closed 0) = some (page.setReadyState 0 fun _ => .closed) := by
  have executed : (Transition.run Page.step {} Sample.doubled).map (fun page =>
      (page.socket, page.sockets.length,
        (page.step (.message 0 (.event "session.idle" none))).isSome,
        (page.step (.closed 0)).isSome)) =
      some (some 1, 2, true, true) := by
    decide
  rcases Option.map_eq_some_iff.mp executed with ⟨page, ran, values⟩
  obtain ⟨socket, values⟩ := Prod.mk.inj values
  obtain ⟨two, values⟩ := Prod.mk.inj values
  obtain ⟨speaks, ends⟩ := Prod.mk.inj values
  rcases Option.isSome_iff_exists.mp speaks with ⟨told, received⟩
  rcases Option.isSome_iff_exists.mp ends with ⟨left, lost⟩
  have given_up : Superseded 0 page := by
    refine ⟨by rw [two]; decide, ?_⟩
    rw [socket]
    decide
  have same : told = page := (inert_of_superseded given_up .refl).1 _ received
  have noted := (inert_of_superseded given_up .refl).2 lost
  exact ⟨page, ran, socket, same ▸ received, noted ▸ lost⟩

end XanhTab.Web
