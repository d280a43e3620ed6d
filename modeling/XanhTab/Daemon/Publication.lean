import XanhTab.Daemon.Lifecycle

/-!
# What the operations publish

Every operation changes the session under its lock and publishes the change
after it has released the lock: a copy that it has taken in the section of the
change, or one that it takes in a section right after it.  `Conducts` says so of
every section of a program, and keeps track of what the program knows.
-/

namespace XanhTab

open Program

/-! ## Publications -/

section Publications

variable {α β : Type}

/-- The program is about to publish a copy of the session. -/
def Publishes (program : Routine α) (data : SessionData) : Prop :=
  ∃ event next, program = .access false (EventBus.publish event data) next

/-- The program is about to copy the session in order to publish it. -/
def Announces (program : Routine α) : Prop :=
  ∃ update next, program = .access true update next ∧
    ∀ daemon, update daemon = daemon ∧ Publishes (next daemon) daemon.session

/-- The program has a change to report. -/
def Owes (program : Routine α) : Prop :=
  (∃ data, Publishes program data) ∨ Announces program

def Silent (program : Routine α) : Prop :=
  ∀ data, ¬ Publishes program data

/-- After a section the program publishes the session as the section has left it,
if it publishes anything, and it does so if the section has changed it. -/
structure Reports (before after : Daemon) (next : Routine α) : Prop where
  truthful : ∀ data, Publishes next data → data.snapshot = after.session.snapshot
  reported : after.session.snapshot = before.session.snapshot ∨ Owes next

instance : Nonempty Daemon :=
  ⟨{ session := { snapshot := {}, lastActivity := 0 }, rng := { tape := fun _ => none } }⟩

theorem snapshot_of_publishes {event : String} {data data' : SessionData}
    {next : Daemon → Routine α}
    (publishes : Publishes (.access false (EventBus.publish event data) next) data') :
    data'.snapshot = data.snapshot := by
  rcases publishes with ⟨event', next', equal⟩
  injection equal with _ same
  have daemon : Daemon := Classical.choice inferInstance
  have last := congrArg (fun publish => (publish daemon).events.getLast?.map ServerEvent.session) same
  simpa [EventBus.publish, eq_comm] using last

namespace Silent

theorem done (result : α) : Silent (.done result) := by
  rintro data ⟨event, next, equal⟩
  cases equal

theorem call {awaits : Bool} {request : Call} {next : request.Reply → Routine α} :
    Silent (.call awaits request next) := by
  rintro data ⟨event, next, equal⟩
  cases equal

/-- A copy is never published under a lock. -/
theorem awaited {update : Daemon → Daemon} {next : Daemon → Routine α} :
    Silent (.access true update next) := by
  rintro data ⟨event, next, equal⟩
  cases equal

/-- The section publishes nothing. -/
theorem of_events {awaits : Bool} {update : Daemon → Daemon} {next : Daemon → Routine α}
    (same : ∀ daemon, (update daemon).events = daemon.events) :
    Silent (.access awaits update next) := by
  rintro data ⟨event, next, equal⟩
  cases equal
  have daemon : Daemon := Classical.choice inferInstance
  have lengths := congrArg List.length (same daemon)
  simp [EventBus.publish] at lengths

theorem bind {program : Routine α} {rest : α → Routine β} (silent : Silent program)
    (later : ∀ value, Silent (rest value)) : Silent (program >>= rest) := by
  cases program with
  | done value => exact later value
  | access awaits update next =>
      rintro data ⟨event, after, equal⟩
      cases equal
      exact silent data ⟨event, next, rfl⟩
  | call awaits request next => exact call

end Silent

theorem Publishes.bind {program : Routine α} {rest : α → Routine β} {data : SessionData}
    (publishes : Publishes program data) : Publishes (program >>= rest) data := by
  rcases publishes with ⟨event, next, rfl⟩
  exact ⟨event, _, rfl⟩

theorem Announces.bind {program : Routine α} {rest : α → Routine β}
    (announces : Announces program) : Announces (program >>= rest) := by
  rcases announces with ⟨update, next, rfl, copies⟩
  exact ⟨update, _, rfl, fun daemon => ⟨(copies daemon).1, (copies daemon).2.bind⟩⟩

theorem Owes.bind {program : Routine α} {rest : α → Routine β} (owes : Owes program) :
    Owes (program >>= rest) := by
  rcases owes with ⟨data, publishes⟩ | announces
  · exact Or.inl ⟨data, publishes.bind⟩
  · exact Or.inr announces.bind

/-- Only the end of a silent program leads to another publication. -/
theorem Publishes.of_bind {program : Routine α} {rest : α → Routine β} {data : SessionData}
    (later : ∀ value, Silent (rest value)) (publishes : Publishes (program >>= rest) data) :
    Publishes program data := by
  cases program with
  | done value => exact absurd publishes (later value data)
  | access awaits update next =>
      rcases publishes with ⟨event, after, equal⟩
      cases equal
      exact ⟨event, next, rfl⟩
  | call awaits request next =>
      rcases publishes with ⟨event, after, equal⟩
      cases equal

theorem Reports.unchanged {before after : Daemon} {next : Routine α}
    (same : after.session.snapshot = before.session.snapshot) (silent : Silent next) :
    Reports before after next :=
  ⟨fun data publishes => absurd publishes (silent data), Or.inl same⟩

theorem Reports.bind {before after : Daemon} {next : Routine α} {rest : α → Routine β}
    (reports : Reports before after next) (later : ∀ value, Silent (rest value)) :
    Reports before after (next >>= rest) where
  truthful data publishes := reports.truthful data (publishes.of_bind later)
  reported := reports.reported.imp_right Owes.bind

end Publications

/-! ## Conduct -/

section Conduct

variable {G α β : Type} (moves : G → Daemon → Daemon → G → Prop)

/-- An active session has a page. -/
def HasPage (daemon : Daemon) : Prop :=
  daemon.session.snapshot.phase = .active → daemon.session.snapshot.url.isSome

/-- Every section either publishes or leaves the events alone, reports its change
and moves what the program knows. -/
def Conducts : G → Routine α → Prop
  | _, .done _ => True
  | known, .access awaits update next =>
      (∃ event data, awaits = false ∧ update = EventBus.publish event data ∧
        ∀ daemon, Silent (next daemon) ∧ Conducts known (next daemon)) ∨
      ∀ daemon, HasPage daemon → (update daemon).events = daemon.events ∧
        Reports daemon (update daemon) (next daemon) ∧
        ∃ known', moves known daemon (update daemon) known' ∧ Conducts known' (next daemon)
  | known, .call _ _ next => ∀ reply, Silent (next reply) ∧ Conducts known (next reply)

/-- A program that conducts itself and does not begin with a publication. -/
def Opens (known : G) (program : Routine α) : Prop :=
  Silent program ∧ Conducts moves known program

/-- The section neither publishes nor touches the session. -/
structure Discreet (before after : Daemon) : Prop where
  events : after.events = before.events
  session : after.session = before.session
  advances : before.rng.Advances after.rng

variable {moves} {known : G} {program : Routine α} {rest : α → Routine β}

namespace Opens

theorem done (result : α) : Opens moves known (.done result) :=
  ⟨.done result, trivial⟩

/-- What follows a program that conducts itself. -/
theorem bind (opens : Opens moves known program)
    (later : ∀ value known', Opens moves known' (rest value)) :
    Opens moves known (program >>= rest) := by
  refine ⟨opens.1.bind fun value => (later value known).1, ?_⟩
  have conducts := opens.2
  clear opens
  induction program generalizing known with
  | done value => exact (later value known).2
  | access awaits update next ih =>
      rcases conducts with ⟨event, data, here, publishes, after⟩ | sections
      · left
        refine ⟨event, data, here, publishes, fun daemon => ⟨?_, ih daemon (after daemon).2⟩⟩
        exact (after daemon).1.bind fun value => (later value known).1
      · right
        intro daemon page
        rcases sections daemon page with ⟨events, reports, known', moved, after⟩
        exact ⟨events, reports.bind fun value => (later value known).1, known', moved,
          ih daemon after⟩
  | call awaits request next ih =>
      intro reply
      refine ⟨?_, ih reply (conducts reply).2⟩
      exact (conducts reply).1.bind fun value => (later value known).1

/-- A section under a lock. -/
theorem lock {body : Daemon → α × Daemon}
    (steps : ∀ daemon, HasPage daemon → (body daemon).2.events = daemon.events ∧
      Reports daemon (body daemon).2 (rest (body daemon).1) ∧
      ∃ known', moves known daemon (body daemon).2 known' ∧
        Conducts moves known' (rest (body daemon).1)) :
    Opens moves known ((.lock body : Routine α) >>= rest) :=
  ⟨.awaited, Or.inr steps⟩

variable (quiet : ∀ {known before after}, after.session = before.session →
  before.rng.Advances after.rng → moves known before after known)
include quiet

/-- Discreet sections come before anything else. -/
theorem discreet (sections : program.Sections Discreet)
    (later : ∀ value, Opens moves known (rest value)) : Opens moves known (program >>= rest) := by
  induction program with
  | done value => exact later value
  | access awaits update next ih =>
      constructor
      · exact .of_events fun daemon => (sections daemon).1.events
      · right
        intro daemon _
        have discreet : Discreet daemon (update daemon) := (sections daemon).1
        have after := ih daemon (sections daemon).2
        refine ⟨discreet.events, .unchanged ?_ after.1, known, ?_, after.2⟩
        · rw [discreet.session]
        · exact quiet discreet.session discreet.advances
  | call awaits request next ih => exact ⟨.call, fun reply => ih reply (sections reply)⟩

/-- The session is copied and published. -/
theorem publish {event : String} {rest : Unit → Routine β}
    (later : Opens moves known (rest ())) :
    Opens moves known (SessionManager.publish event >>= rest) := by
  refine ⟨.awaited, Or.inr fun daemon _ => ⟨rfl, ⟨?_, Or.inl rfl⟩, known, ?_, ?_⟩⟩
  · exact fun data publishes => snapshot_of_publishes publishes
  · exact quiet rfl (.refl _)
  · exact Or.inl ⟨event, daemon.session, rfl, rfl, fun _ => later⟩

end Opens

/-- A section of an entry is followed by an announcement. -/
theorem Reports.announced {before after : Daemon} {event : String} {rest : Unit → Routine β} :
    Reports before after (SessionManager.publish event >>= rest) := by
  constructor
  · intro data publishes
    exact absurd publishes (Silent.awaited data)
  · refine Or.inr (Or.inr ⟨_, _, rfl, fun daemon => ⟨rfl, event, _, rfl⟩⟩)

/-- The session is changed, and a copy is published. -/
theorem Opens.commit {event : String} {update : Daemon → SessionData}
    {rest : SessionSnapshot → Routine β}
    (steps : ∀ daemon, ∃ known',
      moves known daemon { daemon with session := update daemon } known' ∧
        Opens moves known' (rest (update daemon).snapshot)) :
    Opens moves known (SessionManager.commit event update >>= rest) := by
  refine ⟨.awaited, Or.inr fun daemon _ => ?_⟩
  rcases steps daemon with ⟨known', moved, later⟩
  refine ⟨rfl, ⟨?_, Or.inr (Or.inl ⟨update daemon, event, _, rfl⟩)⟩, known', moved, ?_⟩
  · exact fun data publishes => snapshot_of_publishes publishes
  · exact Or.inl ⟨event, update daemon, rfl, rfl, fun _ => later⟩

end Conduct

/-! ## Discreet programs -/

namespace Discreet

variable {α : Type}

theorem refl (daemon : Daemon) : Discreet daemon daemon :=
  ⟨rfl, rfl, .refl _⟩

theorem read {α : Type} (value : Daemon → α) :
    (Program.read value : Routine α).Sections Discreet :=
  Sections.transact fun daemon => refl daemon

theorem withAuth {awaits : Bool} (body : Daemon → AuthState → α × AuthState) :
    (.transact awaits fun daemon => daemon.withAuth (body daemon) : Routine α).Sections
      Discreet :=
  Sections.transact fun _ => ⟨rfl, rfl, .refl _⟩

theorem withAuthAndRng {awaits : Bool} (body : Daemon → AuthState → Rng → α × AuthState × Rng)
    (advances : ∀ daemon : Daemon,
      daemon.rng.Advances (body daemon daemon.auth daemon.rng).2.2) :
    (.transact awaits fun daemon => daemon.withAuthAndRng (body daemon) : Routine α).Sections
      Discreet :=
  Sections.transact fun daemon => ⟨rfl, rfl, advances daemon⟩

theorem revokeAndRotate (app : AppState) : app.revokeAndRotate.Sections Discreet := by
  refine Sections.bind (Sections.transact fun _ => ⟨rfl, rfl, .refl _⟩) fun _ => ?_
  refine Sections.bind (withAuthAndRng _ fun daemon => ?_) fun pairing => ?_
  · exact (LifecycleStep.rotatePairing daemon).advances
  · cases pairing with
    | none => trivial
    | some pairing =>
        refine Sections.bind (Permits.ask _ _) fun reply => ?_
        cases reply with
        | ok _ => trivial
        | error _ =>
            refine Sections.bind (Sections.transact fun _ => ⟨rfl, rfl, .refl _⟩) fun _ => ?_
            trivial

end Discreet

/-! ## The requests -/

namespace Discreet

variable (app : AppState)

theorem authorizeWebsocket (id : Uuid) (message : FirstMessage) (purpose : TicketPurpose) :
    (AppState.authorizeWebsocket id message purpose).Sections Discreet := by
  unfold AppState.authorizeWebsocket
  cases AppState.presentedTicket message with
  | error error => trivial
  | ok ticket =>
      apply Sections.andThen
      · exact withAuth fun daemon => AuthManager.consumeTicket daemon.now ticket purpose
      · intro context
        apply Sections.andThen (read _)
        intro _
        apply Sections.andThen (read _)
        exact fun _ => trivial

theorem deliver {awaits : Bool} {α : Type} (result : α) (client id : Uuid)
    (content : Daemon → Option ServerEvent) :
    (.transact awaits fun daemon => (result, daemon.deliver client id (content daemon)) :
      Routine α).Sections Discreet :=
  Sections.transact fun _ => ⟨rfl, rfl, .refl _⟩

theorem eventLoop (client id : Uuid) (position : Nat) (turns : List Turn) :
    (app.eventLoop client id position turns).Sections Discreet := by
  induction turns generalizing position with
  | nil => trivial
  | cons turn turns ih =>
      cases turn with
      | incoming => exact ih position
      | closed => trivial
      | event =>
          refine Sections.bind (Sections.transact fun daemon => refl daemon) fun received => ?_
          cases received with
          | pending => exact ih position
          | lagged oldest => exact ih oldest
          | event event =>
              refine Sections.bind (deliver _ _ _ fun _ => some event) fun _ => ?_
              split
              · trivial
              · exact ih (position + 1)

theorem eventSocket (id : Uuid) (message : FirstMessage) (turns : List Turn) :
    (app.eventSocket id message turns).Sections Discreet := by
  refine Sections.andThen (read _) fun _ => ?_
  refine Sections.andThen (authorizeWebsocket _ _ _) fun client => ?_
  refine Sections.bind (Sections.transact fun daemon => refl daemon) fun position => ?_
  refine Sections.bind (read _) fun event => ?_
  refine Sections.bind (deliver _ _ _ fun _ => some event) fun _ => ?_
  exact Sections.bind (eventLoop app _ _ _ _) fun _ => trivial

theorem signalSocket (id : Uuid) (message : FirstMessage) (connects : Except String Unit) :
    (AppState.signalSocket id message connects).Sections Discreet := by
  refine Sections.andThen (read _) fun _ => ?_
  refine Sections.andThen (authorizeWebsocket _ _ _) fun client => ?_
  cases connects with
  | error error => trivial
  | ok _ => exact deliver _ _ _ fun _ => none

end Discreet

/-- Nothing is tracked. -/
def Untracked (_ : Unit) (_ _ : Daemon) (_ : Unit) : Prop :=
  True

/-- A settings operation publishes what it has written. -/
theorem changeSetting_opens (client : Uuid) (event : String)
    (setting : SessionSnapshot → SessionSnapshot) :
    Opens Untracked () (SessionManager.changeSetting client event setting) := by
  apply Opens.lock
  intro daemon _
  unfold SessionManager.change
  cases ensureActiveLease daemon.session client with
  | error error => exact ⟨rfl, .unchanged rfl (.done _), (), trivial, trivial⟩
  | ok _ =>
      refine ⟨rfl, ⟨?_, Or.inr (Or.inl ⟨_, event, _, rfl⟩)⟩, (), trivial, ?_⟩
      · exact fun data publishes => snapshot_of_publishes publishes
      · exact Or.inl ⟨event, _, rfl, rfl, fun _ => ⟨.done _, trivial⟩⟩

theorem request_opens (app : AppState) (request : Request) :
    Opens Untracked () (app.request request) := by
  have answered : ∀ {α : Type} {program : Routine α} (respond : α → Response),
      program.Sections Discreet →
      Opens Untracked () (program >>= fun result => .done (respond result)) :=
    fun respond sections =>
      Opens.discreet (fun _ _ => trivial) sections fun result => .done (respond result)
  have changed : ∀ {program : Routine (Except AppError SessionSnapshot)},
      Opens Untracked () program →
      Opens Untracked () (program >>= fun result => .done (Response.snapshot result)) :=
    fun opens => opens.bind fun result _ => .done (Response.snapshot result)
  cases request with
  | exchangePairing presented =>
      apply answered .exchanged
      apply Discreet.withAuthAndRng fun daemon => app.auth.exchangePairing daemon.now presented
      intro daemon
      exact (AuthStep.exchangePairing app.auth _ _ _ _).advances
  | authenticate sessionToken csrfToken requireCsrf =>
      apply answered .context
      exact Discreet.withAuth fun daemon =>
        AuthManager.authenticate daemon.now sessionToken csrfToken requireCsrf
  | issueTicket context purpose =>
      apply answered .ticket
      apply Discreet.withAuthAndRng fun daemon => app.auth.issueTicket daemon.now context purpose
      intro daemon
      exact (AuthStep.issueTicket app.auth _ _ _ _ _).advances
  | consumeTicket token purpose =>
      apply answered .context
      exact Discreet.withAuth fun daemon => AuthManager.consumeTicket daemon.now token purpose
  | ensureController client => exact answered .unit (Discreet.read _)
  | setStreamProfile client profile => exact changed (changeSetting_opens client _ _)
  | setBlocklistEnabled client enabled => exact changed (changeSetting_opens client _ _)
  | setAutoBurnSeconds client seconds =>
      apply changed
      unfold SessionManager.setAutoBurnSeconds
      split
      · exact .done _
      · exact changeSetting_opens client _ _
  | eventSocket id message turns => exact answered .unit (Discreet.eventSocket app id message turns)
  | signalSocket id message connects =>
      exact answered .unit (Discreet.signalSocket id message connects)

/-! ## The lifecycle operations -/

/-- The session has been started and has not ended. -/
def SessionSnapshot.Live (snapshot : SessionSnapshot) : Prop :=
  snapshot.phase = .starting ∨ snapshot.phase = .active

/-- What an operation knows: an identifier that it has drawn for the session, and
that the session is still live. -/
structure Knowledge where
  drawn : Option Uuid
  live : Bool

/-- What a section of an operation does to the session.  A session comes to life
with an identifier that has been drawn for it. -/
inductive Renewal (known : Knowledge) (before after : Daemon) : Knowledge → Prop
  | same : after.session.snapshot = before.session.snapshot →
      before.rng.Advances after.rng → Renewal known before after known
  | keep : after.session.snapshot.id = before.session.snapshot.id →
      ((known.live = true → before.session.snapshot.Live) →
        after.session.snapshot.Live → before.session.snapshot.Live) →
      before.rng.Advances after.rng → Renewal known before after ⟨known.drawn, false⟩
  | draw (id : Uuid) : after.session.snapshot = before.session.snapshot →
      before.rng.Advances after.rng → ¬ before.rng.Taken id → after.rng.Taken id →
      Renewal known before after ⟨some id, known.live⟩
  | start (id : Uuid) : after.session.snapshot.id = some id → after.session.snapshot.Live →
      before.rng.Advances after.rng → ¬ before.rng.Taken id → after.rng.Taken id →
      Renewal known before after ⟨none, true⟩
  | renew (id : Uuid) : known.drawn = some id → after.session.snapshot.id = some id →
      before.rng.Advances after.rng → Renewal known before after ⟨none, false⟩
  | clear : after.session.snapshot.id = none → before.rng.Advances after.rng →
      Renewal known before after ⟨known.drawn, false⟩

section Lifecycle

variable {known : Knowledge}

theorem Renewal.quiet {known : Knowledge} {before after : Daemon}
    (same : after.session = before.session) (advances : before.rng.Advances after.rng) :
    Renewal known before after known :=
  .same (by rw [same]) advances

/-- The session ends, or has ended before. -/
theorem Renewal.ended {known : Knowledge} {before after : Daemon}
    (id : after.session.snapshot.id = before.session.snapshot.id)
    (phase : ¬ after.session.snapshot.Live) (advances : before.rng.Advances after.rng) :
    Renewal known before after ⟨known.drawn, false⟩ :=
  .keep id (fun _ live => absurd live phase) advances

theorem not_live_burning {snapshot : SessionSnapshot} (burning : snapshot.phase = .burning) :
    ¬ snapshot.Live := by
  rintro (starting | active)
  · rw [burning] at starting
    cases starting
  · rw [burning] at active
    cases active

theorem not_live_failed {snapshot : SessionSnapshot} (failed : snapshot.phase = .failed) :
    ¬ snapshot.Live := by
  rintro (starting | active)
  · rw [failed] at starting
    cases starting
  · rw [failed] at active
    cases active

variable (manager : SessionManager)

/-- A program makes its calls before it goes on. -/
theorem Opens.calls {α β : Type} {program : Routine α} {rest : α → Routine β}
    (sections : program.Sections Discreet) (later : ∀ value, Opens Renewal known (rest value)) :
    Opens Renewal known (program >>= rest) :=
  .discreet Renewal.quiet sections later

theorem Opens.announce {β : Type} {event : String} {rest : Unit → Routine β}
    (later : Opens Renewal known (rest ())) :
    Opens Renewal known (SessionManager.publish event >>= rest) :=
  .publish Renewal.quiet later

theorem fail_opens (message : String) : Opens Renewal known (SessionManager.fail message) := by
  apply Opens.commit
  intro daemon
  exact ⟨_, .ended rfl (not_live_failed rfl) (.refl _), .done _⟩

theorem start_opens (client : Uuid) (url : Url) :
    Opens Renewal known (manager.start client url) := by
  apply Opens.lock
  intro daemon _
  have outcome := beginStart_cases manager client url daemon
  generalize manager.beginStart client url daemon = after at outcome
  cases outcome with
  | busy | conflict | blocked =>
      exact ⟨rfl, .unchanged rfl (.done _), known, .same rfl (.refl _), trivial⟩
  | begun =>
      refine ⟨rfl, .announced, ⟨none, true⟩, .start daemon.rng.newUuid.1 rfl (Or.inl rfl)
        (.newUuid _) daemon.rng.not_taken_newUuid daemon.rng.taken_newUuid, ?_⟩
      apply And.right
      apply Opens.announce
      apply Opens.calls (Permits.ask _ _)
      intro applied
      cases applied with
      | error error =>
          apply Opens.calls (Permits.resetEgress _)
          intro failures
          apply Opens.calls (Permits.clearRuntime _)
          exact fun failures => fail_opens _
      | ok _ =>
          apply Opens.calls (Permits.ask _ _)
          intro launched
          cases launched with
          | error error =>
              apply Opens.calls (Permits.stopBrowser _)
              intro failures
              apply Opens.calls (Permits.resetEgress _)
              intro failures
              apply Opens.calls (Permits.clearRuntime _)
              exact fun failures => fail_opens _
          | ok _ =>
              apply Opens.commit
              intro daemon
              exact ⟨_, .keep rfl (fun live _ => live rfl) (.refl _), .done _⟩

theorem forceBurn_opens : Opens Renewal known manager.forceBurn := by
  apply Opens.lock
  intro daemon _
  have outcome := beginBurn_cases daemon
  generalize SessionManager.beginBurn daemon = after at outcome
  cases outcome with
  | idle =>
      exact ⟨rfl, .unchanged rfl (.done _), known, .same rfl (.refl _), trivial⟩
  | burning =>
      refine ⟨rfl, .announced, _, .ended rfl (not_live_burning rfl) (.refl _), ?_⟩
      apply And.right
      apply Opens.announce
      apply Opens.calls (Permits.stopBrowser _)
      intro failures
      apply Opens.calls (Permits.resetEgress _)
      intro failures
      apply Opens.calls (Permits.clearRuntime _)
      intro failures
      dsimp only
      split
      · apply Opens.commit
        exact fun daemon => ⟨_, .clear rfl (.refl _), .done _⟩
      · apply Opens.commit
        exact fun daemon => ⟨_, .clear rfl (.refl _), .done _⟩

theorem burn_opens (client : Uuid) : Opens Renewal known (manager.burn client) := by
  apply Opens.calls (Discreet.read _)
  intro lease
  cases lease with
  | error error => exact .done _
  | ok _ => exact forceBurn_opens manager

theorem navigate_opens (client : Uuid) (command : NavigationCommand) :
    Opens Renewal known (manager.navigate client command) := by
  apply Opens.lock
  intro daemon _
  have outcome := beginNavigation_cases manager client command daemon
  generalize manager.beginNavigation client command daemon = after at outcome
  cases outcome with
  | refused | blocked =>
      exact ⟨rfl, .unchanged rfl (.done _), known, .same rfl (.refl _), trivial⟩
  | begun =>
      refine ⟨rfl, .unchanged rfl .call, known, .same rfl (.refl _), ?_⟩
      apply And.right
      apply Opens.calls (Permits.ask _ _)
      intro reply
      cases reply with
      | error error => exact .done _
      | ok _ =>
          apply Opens.commit
          intro daemon
          refine ⟨_, .keep ?_ ?_ (.refl _), .done _⟩
          · cases command <;> rfl
          · cases command <;> exact fun _ live => live

/-- An identifier is drawn. -/
theorem Opens.draw {β : Type} {rest : Uuid → Routine β}
    (later : ∀ id, Opens Renewal ⟨some id, known.live⟩ (rest id)) :
    Opens Renewal known ((sync Daemon.newUuid : Routine Uuid) >>= rest) := by
  constructor
  · exact .of_events fun _ => rfl
  · right
    intro daemon _
    have drawn : Renewal known daemon daemon.newUuid.2 ⟨some daemon.newUuid.1, known.live⟩ :=
      .draw _ rfl (.newUuid _) daemon.rng.not_taken_newUuid daemon.rng.taken_newUuid
    exact ⟨rfl, .unchanged rfl (later _).1, _, drawn, (later _).2⟩

theorem recover_opens (switchError : AppError) (url : Url) (profile : StreamProfile)
    (previousMode : EgressMode) :
    Opens Renewal known (SessionManager.recover switchError url profile previousMode) := by
  apply Opens.draw
  intro rollbackId
  apply Opens.calls
  · exact Sections.bind (Permits.ask _ _) fun _ => Permits.restart _ _ _ _ _
  · intro rolledBack
    cases rolledBack with
    | error error =>
        apply Opens.commit
        exact fun daemon => ⟨_, .ended rfl (not_live_failed rfl) (.refl _), .done _⟩
    | ok _ =>
        apply Opens.commit
        exact fun daemon => ⟨_, .renew rollbackId rfl rfl (.refl _), .done _⟩

theorem switchEgress_opens (client : Uuid) (mode : EgressMode) :
    Opens Renewal known (SessionManager.switchEgress client mode) := by
  apply Opens.lock
  intro daemon page
  have outcome := beginSwitch_cases client daemon
  generalize SessionManager.beginSwitch client daemon = after at outcome
  cases outcome with
  | refused error _ =>
      exact ⟨rfl, .unchanged rfl (.done _), known, .same rfl (.refl _), trivial⟩
  | absent lease missing =>
      have present := page (ensureActiveLease_eq_ok_iff.mp lease).2
      rw [missing] at present
      cases present
  | begun url lease target =>
      refine ⟨rfl, .announced, _, .ended rfl (not_live_burning rfl) (.refl _), ?_⟩
      apply And.right
      apply Opens.announce
      apply Opens.draw
      intro newId
      apply Opens.calls
      · exact Sections.andThen (Permits.ask _ _) fun _ => Permits.restart _ _ _ _ _
      · intro attempted
        cases attempted with
        | error error => exact recover_opens error _ _ _
        | ok _ =>
            apply Opens.commit
            exact fun daemon => ⟨_, .renew newId rfl rfl (.refl _), .done _⟩

variable (app : AppState)

/-- The burn is followed by the rotation, whatever has come of it. -/
theorem burnAndRotate_opens (controller : Option Uuid) :
    Opens Renewal known (app.burnAndRotate controller) := by
  cases controller with
  | none =>
      apply (forceBurn_opens app.sessions).bind
      intro burnResult known'
      apply Opens.calls (Discreet.revokeAndRotate app)
      intro pairingResult
      cases burnResult <;> cases pairingResult <;> exact .done _
  | some client =>
      apply (burn_opens app.sessions client).bind
      intro burnResult known'
      apply Opens.calls (Discreet.revokeAndRotate app)
      intro pairingResult
      cases burnResult <;> cases pairingResult <;> exact .done _

theorem autoBurnIfDue_opens : Opens Renewal known app.autoBurnIfDue := by
  apply Opens.calls (Discreet.read _)
  intro snapshot
  dsimp only
  split
  · exact .done _
  · apply Opens.calls (Discreet.read _)
    intro idleFor
    split
    · exact .done _
    · apply (burnAndRotate_opens app none).bind
      intro result known'
      cases result <;> exact .done _

theorem recoverExpiredAuth_opens : Opens Renewal known app.recoverExpiredAuth := by
  apply Opens.calls
  · exact Discreet.withAuth fun daemon => AuthManager.pairingRecoveryRequired daemon.now
  · intro required
    cases required with
    | false => exact .done _
    | true =>
        apply Opens.calls (Discreet.read _)
        intro snapshot
        dsimp only
        split
        · apply Opens.calls (Discreet.revokeAndRotate app)
          intro pairingResult
          cases pairingResult <;> exact .done _
        · apply (forceBurn_opens app.sessions).bind
          intro burnResult known'
          apply Opens.calls (Discreet.revokeAndRotate app)
          intro pairingResult
          cases burnResult <;> cases pairingResult <;> exact .done _

/-- A context is validated and the session looked for before anything else. -/
theorem addressed_opens {context : AuthContext} {id : Uuid}
    {program : Routine (Except AppError SessionSnapshot)}
    (opens : Opens Renewal known program) :
    Opens Renewal known ((AppState.validateContext context).andThen fun _ =>
      (AppState.requireSessionId id).andThen fun _ => program) := by
  apply Opens.calls
  · exact Discreet.withAuth fun daemon => AuthManager.validateContext daemon.now context
  · intro validated
    cases validated with
    | error error => exact .done _
    | ok _ =>
        apply Opens.calls (Discreet.read _)
        intro found
        cases found with
        | error error => exact .done _
        | ok _ => exact opens

theorem lifecycle_opens (op : Lifecycle) : Opens Renewal known (app.lifecycle op) := by
  cases op with
  | startSession context url =>
      apply Opens.bind
      · apply Opens.calls
        · exact Discreet.withAuth fun daemon => AuthManager.validateContext daemon.now context
        · intro validated
          cases validated with
          | error error => exact .done _
          | ok _ => exact start_opens app.sessions _ _
      · exact fun _ _ => .done _
  | navigate context id command =>
      exact (addressed_opens (navigate_opens app.sessions _ _)).bind fun _ _ => .done _
  | switchEgress context id mode =>
      exact (addressed_opens (switchEgress_opens _ _)).bind fun _ _ => .done _
  | burnControllerSession context id =>
      exact (addressed_opens (burnAndRotate_opens app _)).bind fun _ _ => .done _
  | autoBurnIfDue => exact (autoBurnIfDue_opens app).bind fun _ _ => .done _
  | recoverExpiredAuth => exact (recoverExpiredAuth_opens app).bind fun _ _ => .done _

end Lifecycle

/-- What is tracked may be forgotten. -/
theorem Opens.untracked {G α : Type} {moves : G → Daemon → Daemon → G → Prop} {known : G}
    {program : Routine α} (opens : Opens moves known program) : Opens Untracked () program := by
  refine ⟨opens.1, ?_⟩
  have conducts := opens.2
  clear opens
  induction program generalizing known with
  | done value => trivial
  | access awaits update next ih =>
      rcases conducts with ⟨event, data, here, publishes, after⟩ | sections
      · exact Or.inl ⟨event, data, here, publishes, fun daemon =>
          ⟨(after daemon).1, ih daemon (after daemon).2⟩⟩
      · right
        intro daemon page
        rcases sections daemon page with ⟨events, reports, known', _, after⟩
        exact ⟨events, reports, (), trivial, ih daemon after⟩
  | call awaits request next ih =>
      exact fun reply => ⟨(conducts reply).1, ih reply (conducts reply).2⟩

end XanhTab
