import XanhTab.Daemon.Service
import XanhTab.Program.Rules

/-!
# Proof outlines of the session operations

An outline of an operation names the assertions between its steps and has the
specification of the step that leads from each to the next.  The order of the
steps is followed here, once; a proof about the session manager supplies the
outlines.
-/

namespace XanhTab

open Program Contract

variable {W O γ : Type} {contract : Contract Daemon Call γ W O}
  {answer : Answer Call Call.Reply W O}

namespace Contract

/-- One assertion for success and one for failure. -/
def Assertion.either {ε α : Type} (success : α → contract.Assertion)
    (failure : ε → contract.Assertion) : Except ε α → contract.Assertion
  | .ok value => success value
  | .error error => failure error

/-- The assertion that holds always. -/
def Assertion.trivial : contract.Assertion :=
  ⟨fun _ _ => True, stable_const True⟩

/-- Publishing an event is within the contract. -/
structure Quiet (contract : Contract Daemon Call γ W O) : Prop extends contract.Total where
  publish : ∀ event data memory world, contract.Good memory world →
    contract.given (EventBus.publish event data memory) world →
    contract.guarantee memory world (EventBus.publish event data memory) world ∧
      contract.always (EventBus.publish event data memory) world

/-- The assertion does not depend on what has been published. -/
def Assertion.Silent (assertion : contract.Assertion) : Prop :=
  ∀ event data memory world, assertion.holds memory world →
    assertion.holds (EventBus.publish event data memory) world

namespace Spec

variable {pre : contract.Assertion}

theorem read {α : Type} {value : Daemon → α} {post : α → contract.Assertion}
    (total : contract.Total)
    (reflexive : ∀ memory world, contract.guarantee memory world memory world)
    (holds : ∀ memory world, contract.Good memory world → pre.holds memory world →
      (post (value memory)).holds memory world) :
    contract.Spec answer pre (.read value : Routine α) post :=
  .transact total fun memory world good satisfied _ _ =>
    ⟨reflexive memory world, good.2, holds memory world good satisfied⟩

/-- What is left of a fact on success and on failure. -/
theorem either {ε α : Type} {program : Routine (Except ε α)}
    {middle success failure : contract.Assertion}
    (spec : contract.Spec answer pre program fun _ => middle)
    (succeeded : ∀ memory world, middle.holds memory world → success.holds memory world)
    (failed : ∀ memory world, middle.holds memory world → failure.holds memory world) :
    contract.Spec answer pre program (.either (fun _ => success) fun _ => failure) := by
  apply relax spec
  intro result memory world _ holds
  cases result with
  | ok _ => exact succeeded memory world holds
  | error _ => exact failed memory world holds

/-- A fact that success and failure leave alone. -/
theorem split {ε α : Type} {program : Routine (Except ε α)} {middle : contract.Assertion}
    (spec : contract.Spec answer pre program fun _ => middle) :
    contract.Spec answer pre program (.either (fun _ => middle) fun _ => middle) :=
  either spec (fun _ _ holds => holds) fun _ _ holds => holds

theorem publishData {event : String} {data : SessionData} (quiet : contract.Quiet)
    (silent : pre.Silent) :
    contract.Spec answer pre
      (sync fun daemon => ((), EventBus.publish event data daemon) : Routine Unit)
      fun _ => pre := by
  apply Spec.transact quiet.toTotal
  intro memory world good satisfied _ given
  have published := quiet.publish event data memory world good given
  exact ⟨published.1, published.2, silent event data memory world satisfied⟩

theorem publish {event : String} (quiet : contract.Quiet)
    (reflexive : ∀ memory world, contract.guarantee memory world memory world)
    (silent : pre.Silent) :
    contract.Spec answer pre (SessionManager.publish event) fun _ => pre := by
  have copied : contract.Spec answer pre (.read (·.session) : Routine SessionData)
      fun _ => pre := read quiet.toTotal reflexive fun _ _ _ satisfied => satisfied
  exact Spec.bind copied fun _ => publishData quiet silent

/-- A commit, from what its update does to one good state. -/
theorem commit {event : String} {update : Daemon → SessionData}
    {post : SessionSnapshot → contract.Assertion} (quiet : contract.Quiet)
    (silent : ∀ snapshot, (post snapshot).Silent)
    (steps : ∀ memory world, contract.Good memory world → pre.holds memory world →
      contract.assume.access memory world { memory with session := update memory } →
      contract.given { memory with session := update memory } world →
      contract.guarantee memory world { memory with session := update memory } world ∧
      contract.always { memory with session := update memory } world ∧
      (post (update memory).snapshot).holds { memory with session := update memory } world) :
    contract.Spec answer pre (SessionManager.commit event update) post := by
  have changed : contract.Spec answer pre
      (lock fun daemon => (update daemon, { daemon with session := update daemon }) :
        Routine SessionData)
      fun data => post data.snapshot := Spec.transact quiet.toTotal steps
  apply Spec.bind changed
  intro data
  apply Spec.bind (publishData quiet (silent data.snapshot))
  exact fun _ => Spec.done fun _ _ _ satisfied => satisfied

end Spec

end Contract

/-! ## Start -/

structure StartOutline (contract : Contract Daemon Call γ W O)
    (answer : Answer Call Call.Reply W O) (manager : SessionManager) (client : Uuid) (url : Url)
    (pre : contract.Assertion) (post : Except AppError SessionSnapshot → contract.Assertion) where
  starting : Uuid → StreamProfile → EgressMode → contract.Assertion
  launching : Uuid → StreamProfile → EgressMode → contract.Assertion
  launched : Uuid → StreamProfile → EgressMode → contract.Assertion
  stopping : contract.Assertion
  resetting : contract.Assertion
  clearing : contract.Assertion
  failing : contract.Assertion
  entry : contract.Spec answer pre (lock (manager.beginStart client url))
    (.either (fun entered => starting entered.1 entered.2.1 entered.2.2) fun error =>
      post (.error error))
  announce : ∀ id profile egress, contract.Spec answer (starting id profile egress)
    (SessionManager.publish "session.starting") fun _ => starting id profile egress
  apply : ∀ id profile egress, contract.Spec answer (starting id profile egress)
    (Routine.egressApply egress) (.either (fun _ => launching id profile egress) fun _ => resetting)
  launch : ∀ id profile egress, contract.Spec answer (launching id profile egress)
    (Routine.browserStart id url profile egress)
    (.either (fun _ => launched id profile egress) fun _ => stopping)
  stop : contract.Spec answer stopping Routine.browserStop fun _ => resetting
  reset : contract.Spec answer resetting Routine.egressReset fun _ => clearing
  clear : contract.Spec answer clearing Routine.clearRuntimeDir fun _ => failing
  fail : ∀ message, contract.Spec answer failing
    (SessionManager.commit "session.failed" fun daemon => daemon.session.failed message)
    fun _ => post (.error (.serviceUnavailable message))
  activate : ∀ id profile egress, contract.Spec answer (launched id profile egress)
    (SessionManager.commit "session.active" fun daemon =>
      daemon.session.activated url daemon.utc)
    fun snapshot => post (.ok snapshot)

namespace StartOutline

variable {manager : SessionManager} {client : Uuid} {url : Url} {pre : contract.Assertion}
  {post : Except AppError SessionSnapshot → contract.Assertion}

/-- The steps after a failure, from the reset on. -/
theorem cleanup (outline : StartOutline contract answer manager client url pre post)
    (failures : List String) :
    contract.Spec answer outline.resetting
      (do
        let failures ← SessionManager.resetEgress failures
        let failures ← SessionManager.clearRuntime failures
        SessionManager.fail (String.intercalate "; " failures)) post := by
  have reset : contract.Spec answer outline.resetting (SessionManager.resetEgress failures)
      fun _ => outline.clearing := by
    apply Spec.bind outline.reset
    intro reply
    cases reply <;> exact Spec.done fun _ _ _ satisfied => satisfied
  have clear : ∀ failures, contract.Spec answer outline.clearing
      (SessionManager.clearRuntime failures) fun _ => outline.failing := by
    intro failures
    apply Spec.bind outline.clear
    intro reply
    cases reply <;> exact Spec.done fun _ _ _ satisfied => satisfied
  apply Spec.bind reset
  intro failures
  apply Spec.bind (clear failures)
  intro failures
  apply Spec.bind (outline.fail _)
  exact fun _ => Spec.done fun _ _ _ satisfied => satisfied

theorem sound (outline : StartOutline contract answer manager client url pre post) :
    contract.Spec answer pre (manager.start client url) post := by
  apply Spec.bind outline.entry
  intro entered
  cases entered with
  | error error => exact Spec.done fun _ _ _ satisfied => satisfied
  | ok entered =>
      rcases entered with ⟨id, profile, egress⟩
      apply Spec.bind (outline.announce id profile egress)
      intro _
      apply Spec.bind (outline.apply id profile egress)
      intro applied
      cases applied with
      | error error => exact outline.cleanup _
      | ok _ =>
          apply Spec.bind (outline.launch id profile egress)
          intro launched
          cases launched with
          | error error =>
              have stop : contract.Spec answer outline.stopping
                  (SessionManager.stopBrowser ["browser start: " ++ error.display])
                  fun _ => outline.resetting := by
                apply Spec.bind outline.stop
                intro reply
                cases reply <;> exact Spec.done fun _ _ _ satisfied => satisfied
              exact Spec.bind stop outline.cleanup
          | ok _ =>
              apply Spec.bind (outline.activate id profile egress)
              exact fun _ => Spec.done fun _ _ _ satisfied => satisfied

end StartOutline

/-! ## Burn -/

structure BurnOutline (contract : Contract Daemon Call γ W O)
    (answer : Answer Call Call.Reply W O) (manager : SessionManager)
    (pre : contract.Assertion) (post : Except AppError SessionSnapshot → contract.Assertion) where
  burning : contract.Assertion
  resetting : List String → contract.Assertion
  clearing : List String → contract.Assertion
  burned : List String → contract.Assertion
  entry : contract.Spec answer pre (lock SessionManager.beginBurn) fun entered =>
    match entered with
    | some snapshot => post (.ok snapshot)
    | none => burning
  announce : contract.Spec answer burning (SessionManager.publish "session.burning")
    fun _ => burning
  stop : contract.Spec answer burning Routine.browserStop
    (.either (fun _ => resetting []) fun error => resetting ["browser stop: " ++ error.display])
  reset : ∀ failures, contract.Spec answer (resetting failures) Routine.egressReset
    (.either (fun _ => clearing failures) fun error =>
      clearing (failures ++ ["egress reset: " ++ error.display]))
  clear : ∀ failures, contract.Spec answer (clearing failures) Routine.clearRuntimeDir
    (.either (fun _ => burned failures) fun error =>
      burned (failures ++ ["session cleanup: " ++ error]))
  idle : contract.Spec answer (burned [])
    (SessionManager.commit "session.idle" fun daemon => manager.initialData daemon.now)
    fun snapshot => post (.ok snapshot)
  fail : ∀ failures, failures ≠ [] → ∀ message, contract.Spec answer (burned failures)
    (SessionManager.commit "session.burn_failed" fun daemon =>
      (manager.initialData daemon.now).failed message)
    fun _ => post (.error (.serviceUnavailable message))

namespace BurnOutline

variable {manager : SessionManager} {pre : contract.Assertion}
  {post : Except AppError SessionSnapshot → contract.Assertion}

theorem sound (outline : BurnOutline contract answer manager pre post) :
    contract.Spec answer pre manager.forceBurn post := by
  have stop : contract.Spec answer outline.burning (SessionManager.stopBrowser [])
      outline.resetting := by
    apply Spec.bind outline.stop
    intro reply
    cases reply <;> exact Spec.done fun _ _ _ satisfied => satisfied
  have reset : ∀ failures, contract.Spec answer (outline.resetting failures)
      (SessionManager.resetEgress failures) outline.clearing := by
    intro failures
    apply Spec.bind (outline.reset failures)
    intro reply
    cases reply <;> exact Spec.done fun _ _ _ satisfied => satisfied
  have clear : ∀ failures, contract.Spec answer (outline.clearing failures)
      (SessionManager.clearRuntime failures) outline.burned := by
    intro failures
    apply Spec.bind (outline.clear failures)
    intro reply
    cases reply <;> exact Spec.done fun _ _ _ satisfied => satisfied
  apply Spec.bind outline.entry
  intro entered
  cases entered with
  | some snapshot => exact Spec.done fun _ _ _ satisfied => satisfied
  | none =>
      apply Spec.bind outline.announce
      intro _
      apply Spec.bind stop
      intro failures
      apply Spec.bind (reset failures)
      intro failures
      apply Spec.bind (clear failures)
      intro failures
      dsimp only
      by_cases clean : failures = []
      · rw [if_pos clean]
        subst clean
        apply Spec.bind outline.idle
        exact fun _ => Spec.done fun _ _ _ satisfied => satisfied
      · rw [if_neg clean]
        apply Spec.bind (outline.fail failures clean _)
        exact fun _ => Spec.done fun _ _ _ satisfied => satisfied

end BurnOutline

/-! ## Navigation -/

structure NavigateOutline (contract : Contract Daemon Call γ W O)
    (answer : Answer Call Call.Reply W O) (manager : SessionManager) (client : Uuid)
    (command : NavigationCommand) (pre : contract.Assertion)
    (post : Except AppError SessionSnapshot → contract.Assertion) where
  navigating : contract.Assertion
  navigated : contract.Assertion
  entry : contract.Spec answer pre (lock (manager.beginNavigation client command))
    (.either (fun _ => navigating) fun error => post (.error error))
  request : contract.Spec answer navigating (Routine.browserNavigate command)
    (.either (fun _ => navigated) fun error => post (.error error))
  commit : contract.Spec answer navigated
    (SessionManager.commit "session.navigation" fun daemon =>
      daemon.session.navigated command daemon.utc)
    fun snapshot => post (.ok snapshot)

theorem NavigateOutline.sound {manager : SessionManager} {client : Uuid}
    {command : NavigationCommand} {pre : contract.Assertion}
    {post : Except AppError SessionSnapshot → contract.Assertion}
    (outline : NavigateOutline contract answer manager client command pre post) :
    contract.Spec answer pre (manager.navigate client command) post := by
  apply Spec.bind outline.entry
  intro entered
  cases entered with
  | error error => exact Spec.done fun _ _ _ satisfied => satisfied
  | ok _ =>
      apply Spec.bind outline.request
      intro reply
      cases reply with
      | error error => exact Spec.done fun _ _ _ satisfied => satisfied
      | ok _ =>
          apply Spec.bind outline.commit
          exact fun _ => Spec.done fun _ _ _ satisfied => satisfied

/-! ## Egress switch -/

/-- An outline of the part that an attempt and a rollback have in common. -/
structure RestartOutline (contract : Contract Daemon Call γ W O)
    (answer : Answer Call Call.Reply W O) (id : Uuid) (url : Url) (profile : StreamProfile)
    (mode : EgressMode) (pre success failure : contract.Assertion) where
  clearing : contract.Assertion
  applying : contract.Assertion
  launching : contract.Assertion
  reset : contract.Spec answer pre Routine.egressReset
    (.either (fun _ => clearing) fun _ => failure)
  clear : contract.Spec answer clearing Routine.clearRuntimeDir
    (.either (fun _ => applying) fun _ => failure)
  apply : contract.Spec answer applying (Routine.egressApply mode)
    (.either (fun _ => launching) fun _ => failure)
  launch : contract.Spec answer launching (Routine.browserStart id url profile mode)
    (.either (fun _ => success) fun _ => failure)

theorem RestartOutline.sound {id : Uuid} {url : Url} {profile : StreamProfile}
    {mode : EgressMode} {pre success failure : contract.Assertion}
    (outline : RestartOutline contract answer id url profile mode pre success failure)
    (label : String) :
    contract.Spec answer pre (SessionManager.restart label id url profile mode)
      (.either (fun _ => success) fun _ => failure) := by
  have clear : contract.Spec answer outline.clearing (SessionManager.clearFor label)
      (.either (fun _ => outline.applying) fun _ => failure) := by
    apply Spec.bind outline.clear
    intro reply
    cases reply <;> exact Spec.done fun _ _ _ satisfied => satisfied
  refine Spec.andThen outline.reset (fun _ _ _ _ satisfied => satisfied) fun _ => ?_
  refine Spec.andThen clear (fun _ _ _ _ satisfied => satisfied) fun _ => ?_
  refine Spec.andThen outline.apply (fun _ _ _ _ satisfied => satisfied) fun _ => ?_
  exact outline.launch

structure SwitchOutline (contract : Contract Daemon Call γ W O)
    (answer : Answer Call Call.Reply W O) (client : Uuid) (mode : EgressMode)
    (pre : contract.Assertion) (post : Except AppError SessionSnapshot → contract.Assertion) where
  switching : Url → StreamProfile → EgressMode → contract.Assertion
  stopping : Uuid → Url → StreamProfile → EgressMode → contract.Assertion
  resetting : Uuid → Url → StreamProfile → EgressMode → contract.Assertion
  switched : Uuid → Url → StreamProfile → EgressMode → contract.Assertion
  attempted : Url → StreamProfile → EgressMode → contract.Assertion
  rollbackStopping : Uuid → Url → StreamProfile → EgressMode → contract.Assertion
  rollbackResetting : Uuid → Url → StreamProfile → EgressMode → contract.Assertion
  rolledBack : Uuid → Url → StreamProfile → EgressMode → contract.Assertion
  lost : contract.Assertion
  entry : contract.Spec answer pre (lock (SessionManager.beginSwitch client))
    (.either (fun entered => switching entered.1 entered.2.1 entered.2.2) fun error =>
      post (.error error))
  announce : ∀ url profile previous, contract.Spec answer (switching url profile previous)
    (SessionManager.publish "egress.switching") fun _ => switching url profile previous
  draw : ∀ url profile previous, contract.Spec answer (switching url profile previous)
    (sync Daemon.newUuid) fun id => stopping id url profile previous
  stop : ∀ id url profile previous, contract.Spec answer (stopping id url profile previous)
    Routine.browserStop
    (.either (fun _ => resetting id url profile previous) fun _ => attempted url profile previous)
  attempt : ∀ id url profile previous, RestartOutline contract answer id url profile mode
    (resetting id url profile previous) (switched id url profile previous)
    (attempted url profile previous)
  commit : ∀ id url profile previous, contract.Spec answer (switched id url profile previous)
    (SessionManager.commit "egress.active" fun daemon =>
      daemon.session.switched id mode url daemon.utc daemon.now)
    fun snapshot => post (.ok snapshot)
  redraw : ∀ url profile previous, contract.Spec answer (attempted url profile previous)
    (sync Daemon.newUuid) fun id => rollbackStopping id url profile previous
  restop : ∀ id url profile previous,
    contract.Spec answer (rollbackStopping id url profile previous) Routine.browserStop
      fun _ => rollbackResetting id url profile previous
  rollback : ∀ id url profile previous, RestartOutline contract answer id url profile previous
    (rollbackResetting id url profile previous) (rolledBack id url profile previous) lost
  commitRollback : ∀ id url profile previous message,
    contract.Spec answer (rolledBack id url profile previous)
      (SessionManager.commit "egress.rolled_back" fun daemon =>
        daemon.session.rolledBack id previous url daemon.utc daemon.now)
      fun _ => post (.error (.serviceUnavailable message))
  fail : ∀ message, contract.Spec answer lost
    (SessionManager.commit "egress.failed" fun daemon => daemon.session.switchFailed message)
    fun _ => post (.error (.serviceUnavailable message))

namespace SwitchOutline

variable {client : Uuid} {mode : EgressMode} {pre : contract.Assertion}
  {post : Except AppError SessionSnapshot → contract.Assertion}

theorem recover (outline : SwitchOutline contract answer client mode pre post)
    (switchError : AppError) (url : Url) (profile : StreamProfile) (previous : EgressMode) :
    contract.Spec answer (outline.attempted url profile previous)
      (SessionManager.recover switchError url profile previous) post := by
  apply Spec.bind (outline.redraw url profile previous)
  intro id
  have rolled : contract.Spec answer (outline.rollbackStopping id url profile previous)
      (SessionManager.rollback id url profile previous)
      (.either (fun _ => outline.rolledBack id url profile previous) fun _ => outline.lost) :=
    Spec.bind (outline.restop id url profile previous) fun _ =>
      (outline.rollback id url profile previous).sound "rollback cleanup: "
  apply Spec.bind rolled
  intro result
  cases result with
  | error error =>
      apply Spec.bind (outline.fail _)
      exact fun _ => Spec.done fun _ _ _ satisfied => satisfied
  | ok _ =>
      apply Spec.bind (outline.commitRollback id url profile previous _)
      exact fun _ => Spec.done fun _ _ _ satisfied => satisfied

theorem sound (outline : SwitchOutline contract answer client mode pre post) :
    contract.Spec answer pre (SessionManager.switchEgress client mode) post := by
  apply Spec.bind outline.entry
  intro entered
  cases entered with
  | error error => exact Spec.done fun _ _ _ satisfied => satisfied
  | ok entered =>
      rcases entered with ⟨url, profile, previous⟩
      apply Spec.bind (outline.announce url profile previous)
      intro _
      apply Spec.bind (outline.draw url profile previous)
      intro id
      have attempt : contract.Spec answer (outline.stopping id url profile previous)
          (SessionManager.switchAttempt id url profile mode)
          (.either (fun _ => outline.switched id url profile previous) fun _ =>
            outline.attempted url profile previous) := by
        refine Spec.andThen (outline.stop id url profile previous)
          (fun _ _ _ _ satisfied => satisfied) fun _ => ?_
        exact (outline.attempt id url profile previous).sound "session cleanup: "
      apply Spec.bind attempt
      intro result
      cases result with
      | error error => exact outline.recover error url profile previous
      | ok _ =>
          apply Spec.bind (outline.commit id url profile previous)
          exact fun _ => Spec.done fun _ _ _ satisfied => satisfied

end SwitchOutline

end XanhTab
