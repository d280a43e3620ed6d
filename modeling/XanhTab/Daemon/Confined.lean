import XanhTab.Daemon.Lifecycle
import XanhTab.Program.Within

/-!
# What the session operations keep to

The session manager leaves the authentication state alone and never writes the
pairing file.  What surrounds its operations looks at the stored sessions, and
leaves the pairing alone until it is rotated.
-/

namespace XanhTab

open Program

/-- A call of the session manager. -/
def Call.OfSession : Call → Prop
  | .writePairingFile _ => False
  | _ => True

/-- The section leaves the authentication state as it is. -/
def SameAuth (before after : Daemon) : Prop :=
  after.auth = before.auth

/-- The section leaves the pairing as it is. -/
structure SamePairing (before after : Daemon) : Prop where
  secret : after.auth.pairingHash = before.auth.pairingHash
  manual : after.auth.manualPairingHash = before.auth.manualPairingHash

theorem SamePairing.of_auth_eq {before after : Daemon} (auth : SameAuth before after) :
    SamePairing before after :=
  ⟨congrArg AuthState.pairingHash auth, congrArg AuthState.manualPairingHash auth⟩

/-- A program of the session manager. -/
abbrev Confined {α : Type} (program : Routine α) : Prop :=
  program.Within SameAuth Call.OfSession

namespace Confined

theorem read {α : Type} (value : Daemon → α) : Confined (Program.read value) :=
  Within.transact fun _ => rfl

theorem ask {request : Call} (ofSession : request.OfSession) (awaits : Bool) :
    Confined (.ask awaits request) :=
  Within.ask ofSession

theorem publish (event : String) : Confined (SessionManager.publish event) :=
  Within.bind (read _) fun _ => Within.transact fun _ => rfl

theorem commit (event : String) (update : Daemon → SessionData) :
    Confined (SessionManager.commit event update) := by
  have updated : Confined
      (lock fun daemon => (update daemon, { daemon with session := update daemon })) :=
    Within.transact fun _ => rfl
  refine Within.bind updated fun data => ?_
  have published : Confined
      (sync fun daemon => ((), EventBus.publish event data daemon)) :=
    Within.transact fun _ => rfl
  exact Within.bind published fun _ => trivial

theorem fail (message : String) : Confined (SessionManager.fail message) :=
  Within.bind (commit _ _) fun _ => trivial

theorem stopBrowser (failures : List String) : Confined (SessionManager.stopBrowser failures) := by
  refine Within.bind (ask (by trivial) _) fun reply => ?_
  cases reply <;> trivial

theorem resetEgress (failures : List String) : Confined (SessionManager.resetEgress failures) := by
  refine Within.bind (ask (by trivial) _) fun reply => ?_
  cases reply <;> trivial

theorem clearRuntime (failures : List String) :
    Confined (SessionManager.clearRuntime failures) := by
  refine Within.bind (ask (by trivial) _) fun reply => ?_
  cases reply <;> trivial

theorem restart (label : String) (id : Uuid) (url : Url) (profile : StreamProfile)
    (mode : EgressMode) : Confined (SessionManager.restart label id url profile mode) := by
  have clear : Confined (SessionManager.clearFor label) := by
    refine Within.bind (ask (by trivial) _) fun reply => ?_
    cases reply <;> trivial
  refine Within.andThen (ask (by trivial) _) fun _ => ?_
  refine Within.andThen clear fun _ => ?_
  exact Within.andThen (ask (by trivial) _) fun _ => ask (by trivial) _

/-! ## The first sections -/

theorem beginStart (manager : SessionManager) (client : Uuid) (url : Url) :
    Confined (lock (manager.beginStart client url)) := by
  refine Within.transact fun daemon => ?_
  have outcome := beginStart_cases manager client url daemon
  generalize manager.beginStart client url daemon = after at outcome
  cases outcome <;> rfl

theorem beginBurn : Confined (lock SessionManager.beginBurn) := by
  refine Within.transact fun daemon => ?_
  have outcome := beginBurn_cases daemon
  generalize SessionManager.beginBurn daemon = after at outcome
  cases outcome <;> rfl

theorem beginNavigation (manager : SessionManager) (client : Uuid) (command : NavigationCommand) :
    Confined (lock (manager.beginNavigation client command)) := by
  refine Within.transact fun daemon => ?_
  have outcome := beginNavigation_cases manager client command daemon
  generalize manager.beginNavigation client command daemon = after at outcome
  cases outcome <;> rfl

theorem beginSwitch (client : Uuid) : Confined (lock (SessionManager.beginSwitch client)) := by
  refine Within.transact fun daemon => ?_
  have outcome := beginSwitch_cases client daemon
  generalize SessionManager.beginSwitch client daemon = after at outcome
  cases outcome <;> rfl

/-! ## The operations -/

theorem start (manager : SessionManager) (client : Uuid) (url : Url) :
    Confined (manager.start client url) := by
  refine Within.bind (beginStart manager client url) fun entered => ?_
  cases entered with
  | error error => trivial
  | ok entered =>
      refine Within.bind (publish _) fun _ => ?_
      refine Within.bind (ask (by trivial) _) fun applied => ?_
      cases applied with
      | error error =>
          refine Within.bind (resetEgress _) fun _ => ?_
          exact Within.bind (clearRuntime _) fun _ => fail _
      | ok _ =>
          refine Within.bind (ask (by trivial) _) fun launched => ?_
          cases launched with
          | error error =>
              refine Within.bind (stopBrowser _) fun _ => ?_
              refine Within.bind (resetEgress _) fun _ => ?_
              exact Within.bind (clearRuntime _) fun _ => fail _
          | ok _ => exact Within.bind (commit _ _) fun _ => trivial

theorem forceBurn (manager : SessionManager) : Confined manager.forceBurn := by
  refine Within.bind beginBurn fun entered => ?_
  cases entered with
  | some snapshot => trivial
  | none =>
      refine Within.bind (publish _) fun _ => ?_
      refine Within.bind (stopBrowser _) fun _ => ?_
      refine Within.bind (resetEgress _) fun _ => ?_
      refine Within.bind (clearRuntime _) fun failures => ?_
      dsimp only
      split <;> exact Within.bind (commit _ _) fun _ => trivial

theorem burn (manager : SessionManager) (client : Uuid) : Confined (manager.burn client) := by
  refine Within.bind (read _) fun lease => ?_
  cases lease with
  | error error => trivial
  | ok _ => exact forceBurn manager

theorem navigate (manager : SessionManager) (client : Uuid) (command : NavigationCommand) :
    Confined (manager.navigate client command) := by
  refine Within.bind (beginNavigation manager client command) fun entered => ?_
  cases entered with
  | error error => trivial
  | ok _ =>
      refine Within.bind (ask (by trivial) _) fun reply => ?_
      cases reply with
      | error error => trivial
      | ok _ => exact Within.bind (commit _ _) fun _ => trivial

theorem switchEgress (client : Uuid) (mode : EgressMode) :
    Confined (SessionManager.switchEgress client mode) := by
  have draw : Confined (sync Daemon.newUuid) := Within.transact fun _ => rfl
  refine Within.bind (beginSwitch client) fun entered => ?_
  cases entered with
  | error error => trivial
  | ok entered =>
      refine Within.bind (publish _) fun _ => ?_
      refine Within.bind draw fun id => ?_
      refine Within.bind (Within.andThen (ask (by trivial) _) fun _ => restart _ _ _ _ _)
        fun attempted => ?_
      cases attempted with
      | ok _ => exact Within.bind (commit _ _) fun _ => trivial
      | error error =>
          refine Within.bind draw fun id => ?_
          refine Within.bind (Within.bind (ask (by trivial) _) fun _ => restart _ _ _ _ _)
            fun rolledBack => ?_
          cases rolledBack <;> exact Within.bind (commit _ _) fun _ => trivial

end Confined

/-! ## Around the operations -/

/-- A program that leaves the pairing alone. -/
abbrev Unpaired {α : Type} (program : Routine α) : Prop :=
  program.Within SamePairing Call.OfSession

namespace Unpaired

theorem of_confined {α : Type} {program : Routine α} (confined : Confined program) :
    Unpaired program :=
  Within.mono confined (fun _ _ => .of_auth_eq) fun _ ofSession => ofSession

theorem validateContext (context : AuthContext) : Unpaired (AppState.validateContext context) := by
  refine Within.transact fun daemon => ?_
  unfold Daemon.withAuth AuthManager.validateContext
  dsimp only
  split <;> exact ⟨rfl, rfl⟩

theorem requireSessionId (id : Uuid) : Unpaired (AppState.requireSessionId id) :=
  of_confined (Confined.read _)

/-- The guards of an operation on the session of a client. -/
theorem addressed {context : AuthContext} {id : Uuid}
    {program : Routine (Except AppError SessionSnapshot)} (bounded : Unpaired program) :
    Unpaired ((AppState.validateContext context).andThen fun _ =>
      (AppState.requireSessionId id).andThen fun _ => program) :=
  Within.andThen (validateContext context) fun _ =>
    Within.andThen (requireSessionId id) fun _ => bounded

end Unpaired

end XanhTab
