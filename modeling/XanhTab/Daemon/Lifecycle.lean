import XanhTab.Daemon.Frame
import XanhTab.Program.Segment

/-!
# What the lifecycle operations can change

A lifecycle operation forgets identities and stores none.  With what the
requests can change this bounds every step of the service.
-/

namespace XanhTab

open Program Contract Transition

/-- A section of a lifecycle operation forgets identities and stores none. -/
structure LifecycleStep (before after : Daemon) : Prop where
  advances : Rng.Advances before.rng after.rng
  sessions : after.auth.sessions ⊆ before.auth.sessions
  tickets : after.auth.tickets ⊆ before.auth.tickets

namespace LifecycleStep

theorem refl (daemon : Daemon) : LifecycleStep daemon daemon :=
  ⟨.refl _, List.Subset.refl _, List.Subset.refl _⟩

theorem of_auth_eq {before after : Daemon} (advances : Rng.Advances before.rng after.rng)
    (auth : after.auth = before.auth) : LifecycleStep before after :=
  ⟨advances, by rw [auth]; exact List.Subset.refl _, by rw [auth]; exact List.Subset.refl _⟩

theorem beginStart (manager : SessionManager) (client : Uuid) (url : Url) (daemon : Daemon) :
    LifecycleStep daemon (manager.beginStart client url daemon).2 := by
  have outcome := beginStart_cases manager client url daemon
  generalize manager.beginStart client url daemon = after at outcome
  cases outcome with
  | busy | conflict => exact .refl daemon
  | blocked => exact .of_auth_eq (.refl _) rfl
  | begun => exact .of_auth_eq (.newUuid _) rfl

theorem beginNavigation (manager : SessionManager) (client : Uuid) (command : NavigationCommand)
    (daemon : Daemon) :
    LifecycleStep daemon (manager.beginNavigation client command daemon).2 := by
  have outcome := beginNavigation_cases manager client command daemon
  generalize manager.beginNavigation client command daemon = after at outcome
  cases outcome with
  | refused => exact .refl daemon
  | blocked | begun => exact .of_auth_eq (.refl _) rfl

theorem rotatePairing (daemon : Daemon) :
    LifecycleStep daemon (daemon.withAuthAndRng AuthManager.rotatePairing).2 := by
  unfold Daemon.withAuthAndRng AuthManager.rotatePairing
  rcases draw : daemon.rng.randomBytes with ⟨_ | raw, rng⟩
  · exact .of_auth_eq (.randomBytes draw) rfl
  · exact ⟨.randomBytes draw, List.nil_subset _, List.nil_subset _⟩

theorem pruneExpired (daemon : Daemon) :
    LifecycleStep daemon { daemon with auth := daemon.auth.pruneExpired daemon.now } :=
  ⟨.refl _, fun _ member => List.mem_of_mem_filter member,
    fun _ member => List.mem_of_mem_filter member⟩

theorem validateContext (context : AuthContext) (daemon : Daemon) :
    LifecycleStep daemon
      (daemon.withAuth (AuthManager.validateContext daemon.now context)).2 := by
  unfold Daemon.withAuth AuthManager.validateContext
  dsimp only
  split <;> exact pruneExpired daemon

end LifecycleStep

/-! ## The sections of the operations -/

/-- A relation that contains the sections of the lifecycle operations, those
apart that accept a URL. -/
structure Permits (related : Daemon → Daemon → Prop) : Prop where
  quiet : ∀ {before after : Daemon}, Rng.Advances before.rng after.rng →
    after.auth = before.auth → after.admissions = before.admissions → related before after
  auth : ∀ {before : Daemon} {auth : AuthState} {rng : Rng},
    LifecycleStep before { before with auth := auth, rng := rng } →
    related before { before with auth := auth, rng := rng }

theorem LifecycleStep.permits : Permits LifecycleStep where
  quiet advances auth _ := .of_auth_eq advances auth
  auth step := step

namespace Permits

variable {related : Daemon → Daemon → Prop}

theorem ask (awaits : Bool) (request : Call) :
    (.ask awaits request : Routine (Call.Reply request)).Sections related :=
  fun _ => trivial

theorem stopBrowser (failures : List String) :
    (SessionManager.stopBrowser failures).Sections related := by
  refine Sections.bind (ask _ _) fun reply => ?_
  cases reply <;> trivial

theorem resetEgress (failures : List String) :
    (SessionManager.resetEgress failures).Sections related := by
  refine Sections.bind (ask _ _) fun reply => ?_
  cases reply <;> trivial

theorem clearRuntime (failures : List String) :
    (SessionManager.clearRuntime failures).Sections related := by
  refine Sections.bind (ask _ _) fun reply => ?_
  cases reply <;> trivial

theorem restart (label : String) (id : Uuid) (url : Url) (profile : StreamProfile)
    (mode : EgressMode) :
    (SessionManager.restart label id url profile mode).Sections related := by
  have clear : (SessionManager.clearFor label).Sections related := by
    refine Sections.bind (ask _ _) fun reply => ?_
    cases reply <;> trivial
  refine Sections.andThen (ask _ _) fun _ => ?_
  refine Sections.andThen clear fun _ => ?_
  exact Sections.andThen (ask _ _) fun _ => ask _ _

variable (permits : Permits related)
include permits

theorem refl (daemon : Daemon) : related daemon daemon :=
  permits.quiet (.refl _) rfl rfl

theorem read {α : Type} (value : Daemon → α) :
    (Program.read value : Routine α).Sections related :=
  Sections.transact fun daemon => permits.refl daemon

theorem publish (event : String) : (SessionManager.publish event).Sections related := by
  apply Sections.bind (permits.read _)
  intro data
  exact Sections.transact fun _ => permits.quiet (.refl _) rfl rfl

theorem commit (event : String) (update : Daemon → SessionData) :
    (SessionManager.commit event update).Sections related := by
  have updated : (lock fun daemon => (update daemon, { daemon with session := update daemon }) :
      Routine SessionData).Sections related :=
    Sections.transact fun _ => permits.quiet (.refl _) rfl rfl
  apply Sections.bind updated
  intro data
  have published : (sync fun daemon => ((), EventBus.publish event data daemon) :
      Routine Unit).Sections related :=
    Sections.transact fun _ => permits.quiet (.refl _) rfl rfl
  exact Sections.bind published fun _ => trivial

theorem fail (message : String) : (SessionManager.fail message).Sections related :=
  Sections.bind (permits.commit _ _) fun _ => trivial

theorem beginBurn (daemon : Daemon) : related daemon (SessionManager.beginBurn daemon).2 := by
  have outcome := beginBurn_cases daemon
  generalize SessionManager.beginBurn daemon = after at outcome
  cases outcome with
  | idle => exact permits.refl daemon
  | burning => exact permits.quiet (.refl _) rfl rfl

theorem beginSwitch (client : Uuid) (daemon : Daemon) :
    related daemon (SessionManager.beginSwitch client daemon).2 := by
  have outcome := beginSwitch_cases client daemon
  generalize SessionManager.beginSwitch client daemon = after at outcome
  cases outcome with
  | refused => exact permits.refl daemon
  | absent | begun => exact permits.quiet (.refl _) rfl rfl

variable (app : AppState) (manager : SessionManager)

theorem start {client : Uuid} {url : Url}
    (enters : ∀ daemon, related daemon (manager.beginStart client url daemon).2) :
    (manager.start client url).Sections related := by
  refine Sections.bind (Sections.transact enters) fun entered => ?_
  cases entered with
  | error error => trivial
  | ok entered =>
      refine Sections.bind (permits.publish _) fun _ => ?_
      refine Sections.bind (ask _ _) fun applied => ?_
      cases applied with
      | error error =>
          refine Sections.bind (resetEgress _) fun _ => ?_
          exact Sections.bind (clearRuntime _) fun _ => permits.fail _
      | ok _ =>
          refine Sections.bind (ask _ _) fun launched => ?_
          cases launched with
          | error error =>
              refine Sections.bind (stopBrowser _) fun _ => ?_
              refine Sections.bind (resetEgress _) fun _ => ?_
              exact Sections.bind (clearRuntime _) fun _ => permits.fail _
          | ok _ => exact Sections.bind (permits.commit _ _) fun _ => trivial

theorem forceBurn : manager.forceBurn.Sections related := by
  refine Sections.bind (Sections.transact permits.beginBurn) fun entered => ?_
  cases entered with
  | some snapshot => trivial
  | none =>
      refine Sections.bind (permits.publish _) fun _ => ?_
      refine Sections.bind (stopBrowser _) fun _ => ?_
      refine Sections.bind (resetEgress _) fun _ => ?_
      refine Sections.bind (clearRuntime _) fun failures => ?_
      dsimp only
      split <;> exact Sections.bind (permits.commit _ _) fun _ => trivial

theorem burn (client : Uuid) : (manager.burn client).Sections related := by
  refine Sections.bind (permits.read _) fun lease => ?_
  cases lease with
  | error error => trivial
  | ok _ => exact permits.forceBurn manager

theorem navigate {client : Uuid} {command : NavigationCommand}
    (enters : ∀ daemon, related daemon (manager.beginNavigation client command daemon).2) :
    (manager.navigate client command).Sections related := by
  refine Sections.bind (Sections.transact enters) fun entered => ?_
  cases entered with
  | error error => trivial
  | ok _ =>
      refine Sections.bind (ask _ _) fun reply => ?_
      cases reply with
      | error error => trivial
      | ok _ => exact Sections.bind (permits.commit _ _) fun _ => trivial

theorem switchEgress (client : Uuid) (mode : EgressMode) :
    (SessionManager.switchEgress client mode).Sections related := by
  have draw : (sync Daemon.newUuid : Routine Uuid).Sections related :=
    Sections.transact fun daemon => permits.quiet (.newUuid _) rfl rfl
  refine Sections.bind (Sections.transact (permits.beginSwitch client)) fun entered => ?_
  cases entered with
  | error error => trivial
  | ok entered =>
      refine Sections.bind (permits.publish _) fun _ => ?_
      refine Sections.bind draw fun id => ?_
      refine Sections.bind (Sections.andThen (ask _ _) fun _ =>
        restart _ _ _ _ _) fun attempted => ?_
      cases attempted with
      | ok _ => exact Sections.bind (permits.commit _ _) fun _ => trivial
      | error error =>
          refine Sections.bind draw fun id => ?_
          refine Sections.bind (Sections.bind (ask _ _) fun _ =>
            restart _ _ _ _ _) fun rolledBack => ?_
          cases rolledBack <;> exact Sections.bind (permits.commit _ _) fun _ => trivial

theorem revokeAndRotate : app.revokeAndRotate.Sections related := by
  refine Sections.bind (Sections.transact fun daemon =>
    permits.auth ⟨.refl _, List.nil_subset _, List.nil_subset _⟩) fun _ => ?_
  refine Sections.bind (Sections.transact fun daemon =>
    permits.auth (LifecycleStep.rotatePairing daemon)) fun pairing => ?_
  cases pairing with
  | none => trivial
  | some pairing =>
      refine Sections.bind (ask _ _) fun reply => ?_
      cases reply with
      | ok _ => trivial
      | error _ =>
          exact Sections.bind (Sections.transact fun daemon =>
            permits.auth ⟨.refl _, List.nil_subset _, List.nil_subset _⟩) fun _ => trivial

theorem burnAndRotate (controller : Option Uuid) :
    (app.burnAndRotate controller).Sections related := by
  cases controller with
  | none =>
      refine Sections.bind (permits.forceBurn _) fun burnResult => ?_
      refine Sections.bind (permits.revokeAndRotate app) fun pairingResult => ?_
      cases burnResult <;> cases pairingResult <;> trivial
  | some client =>
      refine Sections.bind (permits.burn _ client) fun burnResult => ?_
      refine Sections.bind (permits.revokeAndRotate app) fun pairingResult => ?_
      cases burnResult <;> cases pairingResult <;> trivial

theorem validated (context : AuthContext) :
    (AppState.validateContext context).Sections related :=
  Sections.transact fun daemon => permits.auth (LifecycleStep.validateContext context daemon)

theorem addressed {context : AuthContext} {id : Uuid}
    {program : Routine (Except AppError SessionSnapshot)} (bounded : program.Sections related) :
    ((AppState.validateContext context).andThen fun _ =>
      (AppState.requireSessionId id).andThen fun _ => program).Sections related :=
  Sections.andThen (permits.validated context) fun _ =>
    Sections.andThen (permits.read _) fun _ => bounded

theorem autoBurnIfDue : app.autoBurnIfDue.Sections related := by
  refine Sections.bind (permits.read _) fun snapshot => ?_
  dsimp only
  split
  · trivial
  · refine Sections.bind (permits.read _) fun idleFor => ?_
    split
    · trivial
    · refine Sections.bind (permits.burnAndRotate app none) fun result => ?_
      cases result <;> trivial

theorem recoverExpiredAuth : app.recoverExpiredAuth.Sections related := by
  have pruned : (sync fun daemon =>
      daemon.withAuth (AuthManager.pairingRecoveryRequired daemon.now) :
      Routine Bool).Sections related :=
    Sections.transact fun daemon => permits.auth (LifecycleStep.pruneExpired daemon)
  refine Sections.bind pruned fun required => ?_
  cases required with
  | false => trivial
  | true =>
      refine Sections.bind (permits.read _) fun snapshot => ?_
      dsimp only
      split
      · refine Sections.bind trivial fun burnResult => ?_
        refine Sections.bind (permits.revokeAndRotate app) fun pairingResult => ?_
        cases burnResult <;> cases pairingResult <;> trivial
      · refine Sections.bind (permits.forceBurn _) fun burnResult => ?_
        refine Sections.bind (permits.revokeAndRotate app) fun pairingResult => ?_
        cases burnResult <;> cases pairingResult <;> trivial

/-- The sections of a lifecycle operation, once its URL is accepted. -/
theorem lifecycle {op : Lifecycle}
    (starts : ∀ context url, op = .startSession context url → ∀ daemon,
      related daemon (app.sessions.beginStart context.clientId url daemon).2)
    (navigates : ∀ context id command, op = .navigate context id command → ∀ daemon,
      related daemon (app.sessions.beginNavigation context.clientId command daemon).2) :
    (app.lifecycle op).Sections related := by
  cases op with
  | startSession context url =>
      exact Sections.bind (Sections.andThen (permits.validated context) fun _ =>
        permits.start _ (starts context url rfl)) fun _ => trivial
  | navigate context id command =>
      exact Sections.bind (permits.addressed (permits.navigate _ (navigates context id command rfl)))
        fun _ => trivial
  | switchEgress context id mode =>
      exact Sections.bind (permits.addressed (permits.switchEgress _ _)) fun _ => trivial
  | burnControllerSession context id =>
      exact Sections.bind (permits.addressed (permits.burnAndRotate app _)) fun _ => trivial
  | autoBurnIfDue => exact Sections.bind (permits.autoBurnIfDue app) fun _ => trivial
  | recoverExpiredAuth => exact Sections.bind (permits.recoverExpiredAuth app) fun _ => trivial

end Permits

/-! ## Programs that leave the session alone -/

/-- The section leaves the session as it is. -/
def SameSession (before after : Daemon) : Prop :=
  after.session = before.session

namespace SameSession

variable {α : Type}

theorem transact {awaits : Bool} {body : Daemon → α × Daemon}
    (kept : ∀ daemon, (body daemon).2.session = daemon.session) :
    (.transact awaits body : Routine α).Sections SameSession :=
  Sections.transact kept

theorem publish (event : String) : (SessionManager.publish event).Sections SameSession := by
  unfold SessionManager.publish
  apply Sections.bind
  · exact transact fun _ => rfl
  · exact fun _ => transact fun _ => rfl

theorem revokeAndRotate (app : AppState) : app.revokeAndRotate.Sections SameSession := by
  refine Sections.bind (transact fun _ => rfl) fun _ => ?_
  refine Sections.bind (transact fun _ => rfl) fun pairing => ?_
  cases pairing with
  | none => trivial
  | some pairing =>
      refine Sections.bind (Permits.ask _ _) fun reply => ?_
      cases reply with
      | ok _ => trivial
      | error _ =>
          refine Sections.bind (transact fun _ => rfl) fun _ => ?_
          trivial

end SameSession

/-- Every section of every lifecycle operation is a `LifecycleStep`. -/
theorem lifecycle_sections (app : AppState) (op : Lifecycle) :
    (app.lifecycle op).Sections LifecycleStep :=
  LifecycleStep.permits.lifecycle app
    (fun context url _ => .beginStart app.sessions context.clientId url)
    fun context _ command _ => .beginNavigation app.sessions context.clientId command

theorem service_framed (app : AppState) {W O N : Type} (answer : Answer Call Call.Reply W O)
    (world : N → Daemon → W → Option W) :
    (app.service answer world).Framed LifecycleStep RequestStep :=
  ⟨lifecycle_sections app, request_local app⟩

/-- A property of the daemon that no section and no passing of time destroys. -/
structure Persistent (holds : Daemon → Prop) : Prop where
  lifecycle : ∀ before after, holds before → LifecycleStep before after → holds after
  request : ∀ before after, holds before → RequestStep before after → holds after
  clock : ∀ daemon now utc, holds daemon → holds { daemon with now := now, utc := utc }

namespace Persistent

variable {holds : Daemon → Prop} {app : AppState} {W O N : Type}
  {answer : Answer Call Call.Reply W O} {world : N → Daemon → W → Option W}
  {config config' : Config Daemon Call Call.Reply Response W}

theorem keeps (persistent : Persistent holds) :
    (app.service answer world).Keeps LifecycleStep RequestStep holds where
  operation := persistent.lifecycle
  task := persistent.request
  noise event before _ after _ initial changed := by
    cases event with
    | elapse duration | setClock utc =>
        rw [← (Prod.mk.inj (Option.some.inj changed)).1]
        exact persistent.clock _ _ _ initial
    | world event =>
        rcases Option.map_eq_some_iff.mp changed with ⟨_, _, equal⟩
        rw [← (Prod.mk.inj equal).1]
        exact initial

theorem reaches (persistent : Persistent holds) (initial : holds config.memory)
    (framed : config.Framed LifecycleStep RequestStep)
    (reaches : (app.service answer world).Reaches config config') : holds config'.memory :=
  persistent.keeps.reaches (service_framed app answer world) initial framed reaches

end Persistent

theorem advances_persistent (moment : Rng) :
    Persistent fun daemon => Rng.Advances moment daemon.rng where
  lifecycle _ _ initial step := initial.trans step.advances
  request _ _ initial step := initial.trans step.auth.advances
  clock _ _ _ initial := initial

/-! ## Between the steps of an operation -/

/-- What the requests and the environment do to the session and to the stored
identities. -/
structure Foreign (before after : Daemon) : Prop where
  session : SettingsStep before.session after.session
  auth : AuthStep before.now before.rng after.rng before.auth after.auth

theorem Foreign.unchanged {before after : Daemon} (session : after.session = before.session)
    (rng : after.rng = before.rng) (auth : after.auth = before.auth) : Foreign before after where
  session := by
    rw [session]
    exact .same
  auth := by
    rw [rng, auth]
    exact .refl _ _ _

theorem foreign_of_step {app : AppState} {W O N : Type} {answer : Answer Call Call.Reply W O}
    {world : N → Daemon → W → Option W}
    {config config' : Config Daemon Call Call.Reply Response W}
    {label : Pool.Label Lifecycle Request (Environment N) O}
    (framed : config.Framed LifecycleStep RequestStep) (continues : label.Continues)
    (foreign : ¬ label.Own)
    (step : (app.service answer world).step config label = some config') :
    Foreign config.memory config'.memory := by
  have advances := ((service_framed app answer world).step framed step).2
  cases label with
  | step outcome => exact absurd trivial foreign
  | drop outcome | finish => exact continues.elim
  | stepTask index outcome => exact ⟨advances.1.session, advances.1.auth⟩
  | noise event =>
      have kept : config'.memory.session = config.memory.session ∧
          config'.memory.rng = config.memory.rng ∧ config'.memory.auth = config.memory.auth := by
        cases event with
        | elapse duration | setClock utc =>
            rcases Prod.mk.inj (Option.some.inj advances) with ⟨memory, _⟩
            rw [← memory]
            exact ⟨rfl, rfl, rfl⟩
        | world event =>
            rcases Option.map_eq_some_iff.mp advances with ⟨after, _, equal⟩
            rw [← (Prod.mk.inj equal).1]
            exact ⟨rfl, rfl, rfl⟩
      exact .unchanged kept.1 kept.2.1 kept.2.2
  | start op | spawn task | dropTask index outcome =>
      rw [advances.1]
      exact .unchanged rfl rfl rfl

end XanhTab
