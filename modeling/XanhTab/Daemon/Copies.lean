import XanhTab.Daemon.Publication

/-!
# Copies of the session

An operation publishes nothing but copies of the session that it has taken in
the section before, and it sends nothing to any socket.  The same holds of a
request that is not a socket.
-/

namespace XanhTab

open Program

/-- The section publishes nothing and sends nothing. -/
structure Mute (before after : Daemon) : Prop where
  events : after.events = before.events
  deliveries : after.deliveries = before.deliveries

section Copies

variable {α β : Type}

/-- If the program is about to publish then it is a copy of the session, as far as
the lease is concerned. -/
def UpToDate (daemon : Daemon) (program : Routine α) : Prop :=
  ∀ data, Publishes program data → data.controller = daemon.session.controller

theorem Silent.upToDate {program : Routine α} (silent : Silent program) (daemon : Daemon) :
    UpToDate daemon program :=
  fun data publishes => absurd publishes (silent data)

theorem controller_of_publishes {event : String} {data data' : SessionData}
    {next : Daemon → Routine α}
    (publishes : Publishes (.access false (EventBus.publish event data) next) data') :
    data'.controller = data.controller := by
  rcases publishes with ⟨event', next', equal⟩
  injection equal with _ same
  have daemon : Daemon := Classical.choice inferInstance
  have last := congrArg (fun publish =>
    (publish daemon).events.getLast?.map ServerEvent.controller) same
  simpa [EventBus.publish, eq_comm] using last

/-- Every section either publishes or is mute, and what the program publishes is
up to date when it is copied. -/
def Copies : Routine α → Prop
  | .done _ => True
  | .access awaits update next =>
      (∃ event data, awaits = false ∧ update = EventBus.publish event data ∧
        ∀ daemon, Silent (next daemon) ∧ Copies (next daemon)) ∨
      ∀ daemon, Mute daemon (update daemon) ∧ UpToDate (update daemon) (next daemon) ∧
        Copies (next daemon)
  | .call _ _ next => ∀ reply, Silent (next reply) ∧ Copies (next reply)

/-- A program that publishes copies only and does not begin with one. -/
def Candid (program : Routine α) : Prop :=
  Silent program ∧ Copies program

namespace Candid

variable {program : Routine α} {rest : α → Routine β}

theorem done (result : α) : Candid (.done result) :=
  ⟨.done result, trivial⟩

theorem bind (candid : Candid program) (later : ∀ value, Candid (rest value)) :
    Candid (program >>= rest) := by
  refine ⟨candid.1.bind fun value => (later value).1, ?_⟩
  have copies := candid.2
  clear candid
  induction program with
  | done value => exact (later value).2
  | access awaits update next ih =>
      rcases copies with ⟨event, data, here, publishes, after⟩ | mute
      · left
        refine ⟨event, data, here, publishes, fun daemon => ⟨?_, ih daemon (after daemon).2⟩⟩
        exact (after daemon).1.bind fun value => (later value).1
      · right
        intro daemon
        rcases mute daemon with ⟨quiet, current, after⟩
        refine ⟨quiet, ?_, ih daemon after⟩
        exact fun data publishes =>
          current data (publishes.of_bind fun value => (later value).1)
  | call awaits request next ih =>
      intro reply
      refine ⟨?_, ih reply (copies reply).2⟩
      exact (copies reply).1.bind fun value => (later value).1

/-- Mute sections come before anything else. -/
theorem mute (sections : program.Sections Mute) (later : ∀ value, Candid (rest value)) :
    Candid (program >>= rest) := by
  induction program with
  | done value => exact later value
  | access awaits update next ih =>
      constructor
      · exact .of_events fun daemon => (sections daemon).1.events
      · right
        intro daemon
        have after := ih daemon (sections daemon).2
        exact ⟨(sections daemon).1, after.1.upToDate _, after.2⟩
  | call awaits request next ih => exact ⟨.call, fun reply => ih reply (sections reply)⟩

/-- A section under a lock. -/
theorem lock {body : Daemon → α × Daemon}
    (steps : ∀ daemon, Mute daemon (body daemon).2 ∧
      UpToDate (body daemon).2 (rest (body daemon).1) ∧ Copies (rest (body daemon).1)) :
    Candid ((.lock body : Routine α) >>= rest) :=
  ⟨.awaited, Or.inr steps⟩

/-- The first section of an operation, which decides how to go on. -/
theorem enter {body : Daemon → α × Daemon}
    (steps : ∀ daemon, Mute daemon (body daemon).2 ∧ Candid (rest (body daemon).1)) :
    Candid ((.lock body : Routine α) >>= rest) :=
  lock fun daemon => ⟨(steps daemon).1, (steps daemon).2.1.upToDate _, (steps daemon).2.2⟩

/-- The session is copied and published. -/
theorem publish {event : String} {rest : Unit → Routine β} (later : Candid (rest ())) :
    Candid (SessionManager.publish event >>= rest) := by
  refine ⟨.awaited, Or.inr fun daemon => ⟨⟨rfl, rfl⟩, ?_, ?_⟩⟩
  · exact fun data publishes => controller_of_publishes publishes
  · exact Or.inl ⟨event, daemon.session, rfl, rfl, fun _ => later⟩

/-- The session is changed, and a copy is published. -/
theorem commit {event : String} {update : Daemon → SessionData}
    {rest : SessionSnapshot → Routine β} (later : ∀ snapshot, Candid (rest snapshot)) :
    Candid (SessionManager.commit event update >>= rest) := by
  refine ⟨.awaited, Or.inr fun daemon => ⟨⟨rfl, rfl⟩, ?_, ?_⟩⟩
  · exact fun data publishes => controller_of_publishes publishes
  · exact Or.inl ⟨event, update daemon, rfl, rfl, fun _ => later _⟩

end Candid

end Copies

/-! ## Mute programs -/

namespace Mute

variable {α : Type}

theorem refl (daemon : Daemon) : Mute daemon daemon :=
  ⟨rfl, rfl⟩

theorem read (value : Daemon → α) : (Program.read value : Routine α).Sections Mute :=
  Sections.transact fun daemon => refl daemon

theorem withAuth {awaits : Bool} (body : Daemon → AuthState → α × AuthState) :
    (.transact awaits fun daemon => daemon.withAuth (body daemon) : Routine α).Sections Mute :=
  Sections.transact fun _ => ⟨rfl, rfl⟩

theorem withAuthAndRng {awaits : Bool}
    (body : Daemon → AuthState → Rng → α × AuthState × Rng) :
    (.transact awaits fun daemon => daemon.withAuthAndRng (body daemon) : Routine α).Sections
      Mute :=
  Sections.transact fun _ => ⟨rfl, rfl⟩

theorem newUuid : (sync Daemon.newUuid : Routine Uuid).Sections Mute :=
  Sections.transact fun _ => ⟨rfl, rfl⟩

theorem revokeAndRotate (app : AppState) : app.revokeAndRotate.Sections Mute := by
  refine Sections.bind (Sections.transact fun _ => ⟨rfl, rfl⟩) fun _ => ?_
  refine Sections.bind (withAuthAndRng _) fun pairing => ?_
  cases pairing with
  | none => trivial
  | some pairing =>
      refine Sections.bind (Permits.ask _ _) fun reply => ?_
      cases reply with
      | ok _ => trivial
      | error _ =>
          refine Sections.bind (Sections.transact fun _ => ⟨rfl, rfl⟩) fun _ => ?_
          trivial

end Mute

/-- A settings operation publishes what it has written. -/
theorem changeSetting_candid (client : Uuid) (event : String)
    (setting : SessionSnapshot → SessionSnapshot) :
    Candid (SessionManager.changeSetting client event setting) := by
  apply Candid.lock
  intro daemon
  unfold SessionManager.change
  cases ensureActiveLease daemon.session client with
  | error error => exact ⟨.refl daemon, (Silent.done _).upToDate _, trivial⟩
  | ok _ =>
      refine ⟨⟨rfl, rfl⟩, ?_, ?_⟩
      · exact fun data publishes => controller_of_publishes publishes
      · exact Or.inl ⟨event, _, rfl, rfl, fun _ => Candid.done _⟩

/-! ## The lifecycle operations -/

section Lifecycle

variable (manager : SessionManager)

theorem fail_candid (message : String) : Candid (SessionManager.fail message) :=
  .commit fun _ => .done _

theorem start_candid (client : Uuid) (url : Url) : Candid (manager.start client url) := by
  apply Candid.enter
  intro daemon
  have outcome := beginStart_cases manager client url daemon
  generalize manager.beginStart client url daemon = after at outcome
  cases outcome with
  | busy | conflict | blocked => exact ⟨⟨rfl, rfl⟩, .done _⟩
  | begun =>
      refine ⟨⟨rfl, rfl⟩, .publish ?_⟩
      apply Candid.mute (Permits.ask _ _)
      intro applied
      cases applied with
      | error error =>
          apply Candid.mute (Permits.resetEgress _)
          intro failures
          exact .mute (Permits.clearRuntime _) fun failures => fail_candid _
      | ok _ =>
          apply Candid.mute (Permits.ask _ _)
          intro launched
          cases launched with
          | error error =>
              apply Candid.mute (Permits.stopBrowser _)
              intro failures
              apply Candid.mute (Permits.resetEgress _)
              intro failures
              exact .mute (Permits.clearRuntime _) fun failures => fail_candid _
          | ok _ => exact .commit fun _ => .done _

theorem forceBurn_candid : Candid manager.forceBurn := by
  apply Candid.enter
  intro daemon
  have outcome := beginBurn_cases daemon
  generalize SessionManager.beginBurn daemon = after at outcome
  cases outcome with
  | idle => exact ⟨⟨rfl, rfl⟩, .done _⟩
  | burning =>
      refine ⟨⟨rfl, rfl⟩, .publish ?_⟩
      apply Candid.mute (Permits.stopBrowser _)
      intro failures
      apply Candid.mute (Permits.resetEgress _)
      intro failures
      apply Candid.mute (Permits.clearRuntime _)
      intro failures
      dsimp only
      split <;> exact .commit fun _ => .done _

theorem burn_candid (client : Uuid) : Candid (manager.burn client) := by
  apply Candid.mute (Mute.read _)
  intro lease
  cases lease with
  | error error => exact .done _
  | ok _ => exact forceBurn_candid manager

theorem navigate_candid (client : Uuid) (command : NavigationCommand) :
    Candid (manager.navigate client command) := by
  apply Candid.enter
  intro daemon
  have outcome := beginNavigation_cases manager client command daemon
  generalize manager.beginNavigation client command daemon = after at outcome
  cases outcome with
  | refused | blocked => exact ⟨⟨rfl, rfl⟩, .done _⟩
  | begun =>
      refine ⟨⟨rfl, rfl⟩, ?_⟩
      apply Candid.mute (Permits.ask _ _)
      intro reply
      cases reply with
      | error error => exact .done _
      | ok _ => exact .commit fun _ => .done _

theorem switchEgress_candid (client : Uuid) (mode : EgressMode) :
    Candid (SessionManager.switchEgress client mode) := by
  apply Candid.enter
  intro daemon
  have outcome := beginSwitch_cases client daemon
  generalize SessionManager.beginSwitch client daemon = after at outcome
  cases outcome with
  | refused | absent => exact ⟨⟨rfl, rfl⟩, .done _⟩
  | begun =>
      refine ⟨⟨rfl, rfl⟩, .publish ?_⟩
      apply Candid.mute Mute.newUuid
      intro newId
      apply Candid.mute
      · exact Sections.andThen (Permits.ask _ _) fun _ => Permits.restart _ _ _ _ _
      · intro attempted
        cases attempted with
        | ok _ => exact .commit fun _ => .done _
        | error error =>
            apply Candid.mute Mute.newUuid
            intro rollbackId
            apply Candid.mute
            · exact Sections.bind (Permits.ask _ _) fun _ => Permits.restart _ _ _ _ _
            · intro rolledBack
              cases rolledBack <;> exact .commit fun _ => .done _

variable (app : AppState)

/-- A burn is followed by the rotation, whatever has come of it. -/
theorem rotated_candid {α : Type} {burn : Routine (Except AppError SessionSnapshot)}
    (candid : Candid burn) (success : SessionSnapshot → α) :
    Candid (do
      let burnResult ← burn
      let pairingResult ← app.revokeAndRotate
      match burnResult, pairingResult with
      | .error error, _ => return Except.error error
      | .ok _, .error error => return Except.error error
      | .ok snapshot, .ok () => return Except.ok (success snapshot)) := by
  apply candid.bind
  intro burnResult
  apply Candid.mute (Mute.revokeAndRotate app)
  intro pairingResult
  cases burnResult <;> cases pairingResult <;> exact .done _

theorem burnAndRotate_candid (controller : Option Uuid) :
    Candid (app.burnAndRotate controller) := by
  cases controller with
  | none => exact rotated_candid app (forceBurn_candid app.sessions) fun snapshot => snapshot
  | some client =>
      exact rotated_candid app (burn_candid app.sessions client) fun snapshot => snapshot

theorem autoBurnIfDue_candid : Candid app.autoBurnIfDue := by
  apply Candid.mute (Mute.read _)
  intro snapshot
  dsimp only
  split
  · exact .done _
  · apply Candid.mute (Mute.read _)
    intro idleFor
    split
    · exact .done _
    · apply (burnAndRotate_candid app none).bind
      intro result
      cases result <;> exact .done _

theorem recoverExpiredAuth_candid : Candid app.recoverExpiredAuth := by
  apply Candid.mute
  · exact Mute.withAuth fun daemon => AuthManager.pairingRecoveryRequired daemon.now
  · intro required
    cases required with
    | false => exact .done _
    | true =>
        apply Candid.mute (Mute.read _)
        intro snapshot
        dsimp only
        split
        · exact rotated_candid app (.done _) fun _ => true
        · exact rotated_candid app (forceBurn_candid app.sessions) fun _ => true

/-- A context is validated and the session looked for before anything else. -/
theorem addressed_candid {context : AuthContext} {id : Uuid}
    {program : Routine (Except AppError SessionSnapshot)} (candid : Candid program) :
    Candid ((AppState.validateContext context).andThen fun _ =>
      (AppState.requireSessionId id).andThen fun _ => program) := by
  apply Candid.mute
  · exact Mute.withAuth fun daemon => AuthManager.validateContext daemon.now context
  · intro validated
    cases validated with
    | error error => exact .done _
    | ok _ =>
        apply Candid.mute (Mute.read _)
        intro found
        cases found with
        | error error => exact .done _
        | ok _ => exact candid

theorem lifecycle_candid (op : Lifecycle) : Candid (app.lifecycle op) := by
  cases op with
  | startSession context url =>
      apply Candid.bind
      · apply Candid.mute
        · exact Mute.withAuth fun daemon => AuthManager.validateContext daemon.now context
        · intro validated
          cases validated with
          | error error => exact .done _
          | ok _ => exact start_candid app.sessions _ _
      · exact fun _ => .done _
  | navigate context id command =>
      exact (addressed_candid (navigate_candid app.sessions _ _)).bind fun _ => .done _
  | switchEgress context id mode =>
      exact (addressed_candid (switchEgress_candid _ _)).bind fun _ => .done _
  | burnControllerSession context id =>
      exact (addressed_candid (burnAndRotate_candid app _)).bind fun _ => .done _
  | autoBurnIfDue => exact (autoBurnIfDue_candid app).bind fun _ => .done _
  | recoverExpiredAuth => exact (recoverExpiredAuth_candid app).bind fun _ => .done _

end Lifecycle

end XanhTab
