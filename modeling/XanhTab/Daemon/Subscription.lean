import XanhTab.Daemon.Copies

/-!
# Sockets that have been authorised

What is left of an event socket or a signaling socket once
`authorize_websocket` has succeeded.  An event socket subscribes, takes its first
snapshot, sends it, and goes on to the events; the relay of a signaling socket
is connected and opened.

Up to that point a socket sends nothing and publishes nothing.  A request that is
not a socket may publish a copy of the session.
-/

namespace XanhTab

open Program

/-! ## Event sockets -/

namespace ServerEvent

/-- The loop of an event socket ends when it has sent the event. -/
def Closes (event : ServerEvent) : Prop :=
  event.session.phase = .burning ∨ event.session.phase = .idle

instance (event : ServerEvent) : Decidable event.Closes :=
  inferInstanceAs (Decidable (_ ∨ _))

/-- The event shows a session of the client, or one that nobody controls. -/
def MeantFor (client : Uuid) (event : ServerEvent) : Prop :=
  event.controller = none ∨ event.controller = some client

instance (client : Uuid) (event : ServerEvent) : Decidable (event.MeantFor client) :=
  inferInstanceAs (Decidable (_ ∨ _))

end ServerEvent

/-- The turns after the first that finds an event ready, if there is one. -/
def Turn.remaining : List Turn → Option (List Turn)
  | .event :: turns => some turns
  | .incoming :: turns => remaining turns
  | .closed :: _ | [] => none

namespace AppState

variable (app : AppState)

theorem eventLoop_of_remaining (client id : Uuid) (position : Nat) (turns : List Turn) :
    app.eventLoop client id position turns =
      match Turn.remaining turns with
      | none => return ()
      | some rest => app.eventLoop client id position (.event :: rest) := by
  induction turns with
  | nil => rfl
  | cons turn turns ih =>
      cases turn with
      | incoming => exact ih
      | closed | event => rfl

/-- Go on with the loop, unless it has ended. -/
def goesOn (client id : Uuid) (turns : List Turn) : Option Nat → Routine Response
  | none => return .unit (.ok ())
  | some position => do
      app.eventLoop client id position turns
      return .unit (.ok ())

/-- Send an event. -/
def sends (client id : Uuid) (turns : List Turn) (event : ServerEvent) (next : Option Nat) :
    Routine Response := do
  sync fun daemon => ((), daemon.deliver client id (some event))
  app.goesOn client id turns next

/-- Take the first snapshot. -/
def greets (client id : Uuid) (turns : List Turn) (position : Nat) : Routine Response := do
  let event ← read fun daemon =>
    { event := "session.snapshot", publishedAt := daemon.utc
      session := daemon.session.snapshot, controller := daemon.session.controller }
  app.sends client id turns event (some position)

def subscribes (client id : Uuid) (turns : List Turn) : Routine Response := do
  let position ← sync fun daemon => (daemon.events.length, daemon)
  app.greets client id turns position

/-- What the loop does with what it has found. -/
def turn (client id : Uuid) (turns : List Turn) (position : Nat) : Received → Routine Unit
  | .pending => app.eventLoop client id position turns
  | .lagged oldest => app.eventLoop client id oldest turns
  | .event event => do
      sync fun daemon => ((), daemon.deliver client id (some event))
      if event.Closes then return ()
      else app.eventLoop client id (position + 1) turns

/-- Look for an event. -/
def receives (client id : Uuid) (turns : List Turn) (position : Nat) : Routine Response := do
  app.eventLoop client id position (.event :: turns)
  return .unit (.ok ())

theorem receives_eq (client id : Uuid) (turns : List Turn) (position : Nat) :
    app.receives client id turns position = do
      let received ← sync fun daemon => (daemon.receive app.eventCapacity position, daemon)
      app.turn client id turns position received
      return .unit (.ok ()) := by
  refine congrArg (Program.access false fun daemon => daemon) (funext fun daemon => ?_)
  cases daemon.receive app.eventCapacity position <;> rfl

/-- A socket that has found an event sends it, and closes if it is one to close on. -/
theorem turn_event (client id : Uuid) (turns : List Turn) (position : Nat) (event : ServerEvent) :
    (do
      app.turn client id turns position (.event event)
      return Response.unit (.ok ()) : Routine Response) =
      app.sends client id turns event (if event.Closes then none else some (position + 1)) := by
  by_cases closes : event.Closes
  · simp only [turn, sends, goesOn, if_pos closes]
    rfl
  · simp only [turn, sends, goesOn, if_neg closes]
    rfl

end AppState

/-- What a receiver can find. -/
theorem Daemon.receive_cases (capacity position : Nat) (daemon : Daemon) :
    daemon.receive capacity position = .pending ∨
      (position ≤ daemon.events.length - capacity ∧
        daemon.receive capacity position = .lagged (daemon.events.length - capacity)) ∨
      ∃ event, daemon.events[position]? = some event ∧
        daemon.receive capacity position = .event event := by
  unfold receive
  split
  · exact Or.inr (Or.inl ⟨by omega, rfl⟩)
  · cases daemon.events[position]? with
    | none => exact Or.inl rfl
    | some event => exact Or.inr (Or.inr ⟨event, rfl, rfl⟩)

/-- Where an event socket stands that has been authorised. -/
inductive SocketStage
  | subscribing
  | greeting (position : Nat)
  | sending (event : ServerEvent) (next : Option Nat)
  | receiving (position : Nat)

/-- An event socket that has been authorised for a client. -/
structure Subscriber where
  client : Uuid
  id : Uuid
  turns : List Turn
  stage : SocketStage

namespace Subscriber

/-- The rest of the task of the socket. -/
def program (app : AppState) (subscriber : Subscriber) : Routine Response :=
  match subscriber.stage with
  | .subscribing => app.subscribes subscriber.client subscriber.id subscriber.turns
  | .greeting position => app.greets subscriber.client subscriber.id subscriber.turns position
  | .sending event next => app.sends subscriber.client subscriber.id subscriber.turns event next
  | .receiving position => app.receives subscriber.client subscriber.id subscriber.turns position

/-- The socket has taken its first snapshot. -/
def Greeted (subscriber : Subscriber) : Prop :=
  match subscriber.stage with
  | .subscribing | .greeting _ => False
  | .sending _ _ | .receiving _ => True

/-- The position of the event that the socket will look at next, if it has
subscribed and will look at any. -/
def position (subscriber : Subscriber) : Option Nat :=
  match subscriber.stage with
  | .subscribing => none
  | .greeting position => (Turn.remaining subscriber.turns).map fun _ => position
  | .sending _ next => next.bind fun position =>
      (Turn.remaining subscriber.turns).map fun _ => position
  | .receiving position => some position

end Subscriber

/-- An event that closes the sockets is waiting from the position on. -/
def ClosesFrom (position : Nat) (events : List ServerEvent) : Prop :=
  ∃ event ∈ events.drop position, event.Closes

/-- The socket has taken its first snapshot, and closes before it looks at
anything that has not been published yet. -/
def Subscriber.Leaving (subscriber : Subscriber) (events : List ServerEvent) : Prop :=
  subscriber.Greeted ∧ ∀ position, subscriber.position = some position →
    ClosesFrom position events

/-! ## Signaling sockets -/

/-- The upstream server has answered, and the relay is opened. -/
def AppState.opensRelay (client id : Uuid) : Routine Response := do
  return .unit (← lock fun daemon => (.ok (), daemon.deliver client id none))

/-! ## The way there -/

theorem Program.bind_bind {M C : Type} {ρ : C → Type} {α β γ : Type}
    (program : Program M C ρ α) (rest : α → Program M C ρ β)
    (finish : β → Program M C ρ γ) :
    program >>= rest >>= finish = program >>= fun value => rest value >>= finish := by
  induction program with
  | done value => rfl
  | access awaits update next ih => exact congrArg (access awaits update) (funext ih)
  | call awaits request next ih => exact congrArg (call awaits request) (funext ih)

theorem Program.bind_andThen {M C : Type} {ρ : C → Type} {ε α β γ : Type}
    (program : Program M C ρ (Except ε α)) (rest : α → Program M C ρ (Except ε β))
    (finish : Except ε β → Program M C ρ γ) :
    program.andThen rest >>= finish = program >>= fun result =>
      match result with
      | .ok value => rest value >>= finish
      | .error error => finish (.error error) := by
  unfold andThen
  rw [bind_bind]
  congr 1
  funext result
  cases result <;> rfl

section Seeks

variable (app : AppState)

/-- A socket has just been authorised for the client that controls the session. -/
def Admitted (daemon : Daemon) (program : Routine Response) : Prop :=
  ∃ client id, daemon.session.controller = some client ∧
    ((∃ turns, program = app.subscribes client id turns) ∨
      program = AppState.opensRelay client id)

/-- Every section is mute, until the program ends or a socket has been authorised. -/
def Seeks : Routine Response → Prop
  | .done _ => True
  | .access _ update next => ∀ daemon, Mute daemon (update daemon) ∧
      (Seeks (next daemon) ∨ Admitted app (update daemon) (next daemon))
  | .call _ _ next => ∀ reply, Seeks (next reply)

variable {app} {α : Type}

theorem Seeks.mute {program : Routine α} {rest : α → Routine Response}
    (sections : program.Sections Mute) (later : ∀ value, Seeks app (rest value)) :
    Seeks app (program >>= rest) := by
  induction program with
  | done value => exact later value
  | access awaits update next ih =>
      exact fun daemon => ⟨(sections daemon).1, Or.inl (ih daemon (sections daemon).2)⟩
  | call awaits request next ih => exact fun reply => ih reply (sections reply)

/-- The controller of the session is admitted. -/
theorem Seeks.authorizeWebsocket {id : Uuid} {message : FirstMessage} {purpose : TicketPurpose}
    {rest : Except AppError Uuid → Routine Response}
    (refused : ∀ error, Seeks app (rest (.error error)))
    (admitted : ∀ client daemon, daemon.session.controller = some client →
      Seeks app (rest (.ok client)) ∨ Admitted app daemon (rest (.ok client))) :
    Seeks app (AppState.authorizeWebsocket id message purpose >>= rest) := by
  unfold AppState.authorizeWebsocket
  cases AppState.presentedTicket message with
  | error error => exact refused error
  | ok ticket =>
      dsimp only
      rw [Program.bind_andThen]
      apply Seeks.mute
      · exact Mute.withAuth fun daemon => AuthManager.consumeTicket daemon.now ticket purpose
      · intro consumed
        cases consumed with
        | error error => exact refused error
        | ok context =>
            dsimp only
            rw [Program.bind_andThen]
            apply Seeks.mute (Mute.read _)
            intro found
            cases found with
            | error error => exact refused error
            | ok _ =>
                refine fun daemon => ⟨.refl daemon, ?_⟩
                cases lease : ensureActiveLease daemon.session context.clientId with
                | error error =>
                    simp only [lease]
                    exact Or.inl (refused error)
                | ok _ =>
                    simp only [lease]
                    exact admitted context.clientId daemon
                      (ensureActiveLease_eq_ok_iff.mp lease).1

theorem eventSocket_seeks (id : Uuid) (message : FirstMessage) (turns : List Turn) :
    Seeks app (app.request (.eventSocket id message turns)) := by
  show Seeks app (app.eventSocket id message turns >>= fun result => .done (.unit result))
  unfold AppState.eventSocket
  rw [Program.bind_andThen]
  apply Seeks.mute (Mute.read _)
  intro found
  cases found with
  | error error => trivial
  | ok _ =>
      dsimp only
      rw [Program.bind_andThen]
      apply Seeks.authorizeWebsocket
      · exact fun _ => trivial
      · intro client daemon control
        refine Or.inr ⟨client, id, control, Or.inl ⟨turns, ?_⟩⟩
        simp only [AppState.subscribes, AppState.greets, AppState.sends, AppState.goesOn,
          Program.bind_bind]
        rfl

theorem signalSocket_seeks (id : Uuid) (message : FirstMessage) (connects : Except String Unit) :
    Seeks app (app.request (.signalSocket id message connects)) := by
  show Seeks app (AppState.signalSocket id message connects >>= fun result =>
    .done (.unit result))
  unfold AppState.signalSocket
  rw [Program.bind_andThen]
  apply Seeks.mute (Mute.read _)
  intro found
  cases found with
  | error error => trivial
  | ok _ =>
      dsimp only
      rw [Program.bind_andThen]
      apply Seeks.authorizeWebsocket
      · exact fun _ => trivial
      · intro client daemon control
        cases connects with
        | error error => exact Or.inl trivial
        | ok _ => exact Or.inr ⟨client, id, control, Or.inr rfl⟩

/-- A request that is not a settings operation is mute until it ends or a socket
has been authorised. -/
theorem request_copies_or_seeks (request : Request) :
    Copies (app.request request) ∨ Seeks app (app.request request) := by
  have ends : ∀ {α : Type} {program : Routine α} (respond : α → Response),
      program.Sections Mute → Seeks app (program >>= fun result => .done (respond result)) :=
    fun respond sections => .mute sections fun _ => trivial
  have changes : ∀ {program : Routine (Except AppError SessionSnapshot)}, Candid program →
      Copies (program >>= fun result => .done (Response.snapshot result)) :=
    fun candid => (candid.bind fun _ => .done _).2
  cases request with
  | exchangePairing presented =>
      exact Or.inr (ends .exchanged (Mute.withAuthAndRng fun daemon =>
        app.auth.exchangePairing daemon.now presented))
  | authenticate sessionToken csrfToken requireCsrf =>
      exact Or.inr (ends .context (Mute.withAuth fun daemon =>
        AuthManager.authenticate daemon.now sessionToken csrfToken requireCsrf))
  | issueTicket context purpose =>
      exact Or.inr (ends .ticket (Mute.withAuthAndRng fun daemon =>
        app.auth.issueTicket daemon.now context purpose))
  | consumeTicket token purpose =>
      exact Or.inr (ends .context (Mute.withAuth fun daemon =>
        AuthManager.consumeTicket daemon.now token purpose))
  | ensureController client => exact Or.inr (ends .unit (Mute.read _))
  | setStreamProfile client profile => exact Or.inl (changes (changeSetting_candid _ _ _))
  | setBlocklistEnabled client enabled => exact Or.inl (changes (changeSetting_candid _ _ _))
  | setAutoBurnSeconds client seconds =>
      refine Or.inl (changes ?_)
      unfold SessionManager.setAutoBurnSeconds
      split
      · exact .done _
      · exact changeSetting_candid _ _ _
  | eventSocket id message turns => exact Or.inr (eventSocket_seeks id message turns)
  | signalSocket id message connects => exact Or.inr (signalSocket_seeks id message connects)

end Seeks

end XanhTab
