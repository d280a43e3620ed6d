import XanhTab.Daemon.Backends
import XanhTab.Daemon.Establish

/-!
# Egress isolation

Which policy is in force while a browser may be running.  A cleanup goes on
after a step has failed, so a browser that survives a stop may see the policy
change under it.  So may one that a failed rollback has left behind, when the
next start cannot apply the policy and resets it.  Every other browser runs
under the policy of its own mode or under the kill switch, and in an active
session all of them do.
-/

namespace XanhTab

open Program Contract Transition

/-- The browser has outlived a failed stop or a failed change to its policy. -/
def Browser.Stray (browser : Browser) : Prop :=
  browser.stopFailed = true ∨ browser.applyFailed = true

/-- The policy is that of the browser or the kill switch. -/
def Browser.Contained (browser : Browser) (policy : Option EgressMode) : Prop :=
  policy = none ∨ policy = some browser.mode

/-- Only strays may be running. -/
def Backends.Strays (backends : Backends) : Prop :=
  ∀ browser ∈ backends.browsers, browser.Stray

/-- Everything that may be running was started for the mode in force. -/
structure Backends.Serves (backends : Backends) (mode : EgressMode) : Prop where
  policy : backends.policy = some mode
  browsers : ∀ browser ∈ backends.browsers, browser.mode = mode

/-- Everything else than strays was started for the mode in force. -/
def Backends.Settled (backends : Backends) (mode : EgressMode) : Prop :=
  ∀ browser ∈ backends.browsers,
    browser.Stray ∨ (browser.mode = mode ∧ backends.policy = some mode)

structure Isolation (data : SessionData) (backends : Backends) : Prop where
  contained : ∀ browser ∈ backends.browsers,
    browser.Stray ∨ browser.Contained backends.policy
  idle : data.snapshot.phase = .idle → backends.browsers = []
  failed : data.snapshot.phase = .failed → backends.Settled data.snapshot.egress
  active : data.snapshot.phase = .active → backends.Serves data.snapshot.egress

/-! ## Small steps -/

namespace Backends

variable {before after : Backends}

theorem Strays.shrink (strays : before.Strays) (fewer : after.browsers ⊆ before.browsers) :
    after.Strays :=
  fun browser member => strays browser (fewer member)

theorem Strays.of_empty (empty : before.browsers = []) : before.Strays := by
  intro browser member
  rw [empty] at member
  exact nomatch member

theorem Serves.shrink {mode : EgressMode} (serves : before.Serves mode)
    (fewer : after.browsers ⊆ before.browsers) (policy : after.policy = before.policy) :
    after.Serves mode where
  policy := policy.trans serves.policy
  browsers browser member := serves.browsers browser (fewer member)

theorem Strays.settled (strays : before.Strays) (mode : EgressMode) : before.Settled mode :=
  fun browser member => Or.inl (strays browser member)

theorem Settled.shrink {mode : EgressMode} (settled : before.Settled mode)
    (fewer : after.browsers ⊆ before.browsers) (policy : after.policy = before.policy) :
    after.Settled mode := by
  intro browser member
  rw [policy]
  exact settled browser (fewer member)

/-- Whatever a stop leaves is a stray. -/
theorem strays_of_browserStop {reply : Except AppError Unit}
    (answered : Answers .browserStop before reply after) : after.Strays := by
  cases reply with
  | ok _ => exact Strays.of_empty (by rw [answered])
  | error error =>
      rcases answered with ⟨left, remain, rfl⟩
      intro browser member
      rcases List.mem_map.mp (remain member) with ⟨browser, _, rfl⟩
      exact Or.inl rfl

theorem strays_unserved (before : Backends) :
    { before with browsers := before.browsers.map unserved, policy := none }.Strays := by
  intro browser member
  rcases List.mem_map.mp member with ⟨browser, _, rfl⟩
  exact Or.inr rfl

end Backends

namespace Isolation

variable {data data' : SessionData} {backends backends' : Backends}

/-- Only phase and mode of the session matter. -/
theorem congr (isolation : Isolation data backends)
    (phase : data'.snapshot.phase = data.snapshot.phase)
    (egress : data'.snapshot.egress = data.snapshot.egress) : Isolation data' backends where
  contained := isolation.contained
  idle := by rw [phase]; exact isolation.idle
  failed := by rw [phase, egress]; exact isolation.failed
  active := by rw [phase, egress]; exact isolation.active

theorem shrink (isolation : Isolation data backends)
    (fewer : backends'.browsers ⊆ backends.browsers)
    (policy : backends'.policy = backends.policy) : Isolation data backends' where
  contained browser member := by
    rw [policy]
    exact isolation.contained browser (fewer member)
  idle phase := by
    have empty := isolation.idle phase
    rw [empty] at fewer
    exact List.subset_nil.mp fewer
  failed phase := (isolation.failed phase).shrink fewer policy
  active phase := (isolation.active phase).shrink fewer policy

/-- An operation that is under way promises nothing of the session. -/
theorem of_settled {mode : EgressMode} (settled : backends.Settled mode)
    (phase : data.snapshot.phase = .starting ∨ data.snapshot.phase = .burning) :
    Isolation data backends where
  contained browser member := by
    rcases settled browser member with stray | ⟨same, policy⟩
    · exact Or.inl stray
    · refine Or.inr (Or.inr ?_)
      rw [policy, same]
  idle idle := by rw [idle] at phase; simp at phase
  failed failed := by rw [failed] at phase; simp at phase
  active active := by rw [active] at phase; simp at phase

theorem of_strays (strays : backends.Strays)
    (phase : data.snapshot.phase = .starting ∨ data.snapshot.phase = .burning) :
    Isolation data backends :=
  of_settled (strays.settled .direct) phase

theorem of_serves {mode : EgressMode} (serves : backends.Serves mode)
    (phase : data.snapshot.phase = .starting ∨ data.snapshot.phase = .burning) :
    Isolation data backends :=
  of_settled (fun browser member => Or.inr ⟨serves.browsers browser member, serves.policy⟩) phase

/-- An operation may begin in any phase. -/
theorem burning (isolation : Isolation data backends) : Isolation data.burning backends where
  contained := isolation.contained
  idle idle := nomatch idle
  failed failed := nomatch failed
  active active := nomatch active

theorem failedWith (settled : backends.Settled data.snapshot.egress)
    (phase : data.snapshot.phase = .failed) : Isolation data backends where
  contained browser member := by
    rcases settled browser member with stray | ⟨same, policy⟩
    · exact Or.inl stray
    · refine Or.inr (Or.inr ?_)
      rw [policy, same]
  idle idle := by rw [idle] at phase; cases phase
  failed _ := settled
  active active := by rw [active] at phase; cases phase

theorem activeWith (serves : backends.Serves data.snapshot.egress)
    (phase : data.snapshot.phase = .active) : Isolation data backends where
  contained browser member := by
    refine Or.inr (Or.inr ?_)
    rw [serves.policy, serves.browsers browser member]
  idle idle := by rw [idle] at phase; cases phase
  failed failed := by rw [failed] at phase; cases phase
  active _ := serves

theorem idleWith (empty : backends.browsers = []) (phase : data.snapshot.phase = .idle) :
    Isolation data backends where
  contained browser member := by rw [empty] at member; exact nomatch member
  idle _ := empty
  failed failed := by rw [failed] at phase; cases phase
  active active := by rw [active] at phase; cases phase

end Isolation

/-! ## The contract -/

def isolationContract : Contract Daemon Call Response Backends Effect where
  always daemon backends := Isolation daemon.session backends
  rely before backends after backends' := SettingsStep before.session after.session ∧
    backends'.browsers ⊆ backends.browsers ∧ backends'.policy = backends.policy

namespace isolationContract

theorem quiet : isolationContract.Quiet where
  rest _ _ _ _ := trivial
  unread _ _ _ _ _ := trivial
  publish _ _ _ _ good _ := ⟨trivial, good.2⟩

/-! ### Assertions -/

/-- An operation is under way. -/
def Working (daemon : Daemon) : Prop :=
  daemon.session.snapshot.phase = .starting ∨ daemon.session.snapshot.phase = .burning

theorem working_stable : isolationContract.Stable fun daemon _ => Working daemon := by
  intro _ _ _ _ _ relied _ holds
  unfold Working
  rw [relied.1.phase]
  exact holds

/-- The session has the mode, where one is required: a start takes the mode of
the session, a switch brings its own. -/
def Keeps (required : Option EgressMode) (daemon : Daemon) : Prop :=
  ∀ mode, required = some mode → daemon.session.snapshot.egress = mode

theorem keeps_stable (required : Option EgressMode) :
    isolationContract.Stable fun daemon _ => Keeps required daemon := by
  intro _ _ _ _ _ relied _ holds mode present
  rw [relied.1.egress]
  exact holds mode present

theorem strays_stable : isolationContract.Stable fun _ backends => backends.Strays :=
  fun _ _ _ _ _ relied _ holds => holds.shrink relied.2.1

theorem settled_stable (mode : EgressMode) :
    isolationContract.Stable fun _ backends => backends.Settled mode :=
  fun _ _ _ _ _ relied _ holds => holds.shrink relied.2.1 relied.2.2

theorem serves_stable (mode : EgressMode) :
    isolationContract.Stable fun _ backends => backends.Serves mode :=
  fun _ _ _ _ _ relied _ holds => holds.shrink relied.2.1 relied.2.2

theorem policy_stable (mode : EgressMode) :
    isolationContract.Stable fun _ backends => backends.policy = some mode :=
  fun _ _ _ _ _ relied _ holds => relied.2.2.trans holds

def working (required : Option EgressMode) : isolationContract.Assertion where
  holds daemon _ := Working daemon ∧ Keeps required daemon
  stable := Stable.and working_stable (keeps_stable required)

/-- Only strays may be running, under any policy. -/
def straying (required : Option EgressMode) : isolationContract.Assertion where
  holds daemon backends := (Working daemon ∧ backends.Strays) ∧ Keeps required daemon
  stable := Stable.and (Stable.and working_stable strays_stable) (keeps_stable required)

/-- Whatever else than strays is running was started for the mode. -/
def settled (required : Option EgressMode) (mode : EgressMode) : isolationContract.Assertion where
  holds daemon backends := (Working daemon ∧ backends.Settled mode) ∧ Keeps required daemon
  stable := Stable.and (Stable.and working_stable (settled_stable mode)) (keeps_stable required)

/-- The policy of the mode is in force before its browser is started. -/
def applied (required : Option EgressMode) (mode : EgressMode) : isolationContract.Assertion where
  holds daemon backends := (settled required mode).holds daemon backends ∧
    backends.policy = some mode
  stable := Stable.and (settled required mode).stable (policy_stable mode)

/-- The browser of the mode has been started. -/
def launched (required : Option EgressMode) (mode : EgressMode) :
    isolationContract.Assertion where
  holds daemon backends := (Working daemon ∧ backends.Serves mode) ∧ Keeps required daemon
  stable := Stable.and (Stable.and working_stable (serves_stable mode)) (keeps_stable required)

/-- A burn is under way; as long as nothing has failed, nothing is running. -/
def stopped (failures : List String) : isolationContract.Assertion where
  holds daemon backends := (Working daemon ∧ backends.Strays) ∧
    (failures = [] → backends.browsers = [])
  stable := by
    refine Stable.and (Stable.and working_stable strays_stable) ?_
    intro _ _ _ _ _ relied _ holds clean
    have fewer := relied.2.1
    rw [holds clean] at fewer
    exact List.subset_nil.mp fewer

/-! ### Calls -/

/-- A call, from what its reply says. -/
theorem call {awaits : Bool} {request : Call} {pre : isolationContract.Assertion}
    {post : Call.Reply request → isolationContract.Assertion}
    (steps : ∀ reply daemon before after, Isolation daemon.session before →
      pre.holds daemon before → Backends.Answers request before reply after →
      Isolation daemon.session after ∧ (post reply).holds daemon after) :
    isolationContract.Spec Backends.answer pre
      (.ask awaits request : Routine (Call.Reply request)) post := by
  apply Spec.ask quiet.toTotal
  intro daemon before good satisfied effect reply after answered _ _
  exact ⟨trivial, steps reply daemon before after good.2 satisfied
    (Backends.answers_of_answer answered)⟩

/-- A call that leaves only strays running. -/
theorem callStrays {awaits : Bool} {request : Call} {required : Option EgressMode}
    {pre : isolationContract.Assertion}
    (working : ∀ daemon backends, pre.holds daemon backends →
      Working daemon ∧ Keeps required daemon)
    (steps : ∀ reply daemon before after, pre.holds daemon before →
      Backends.Answers request before reply after → after.Strays) :
    isolationContract.Spec Backends.answer pre
      (.ask awaits request : Routine (Call.Reply request)) fun _ => straying required := by
  apply call
  intro reply daemon before after _ satisfied answered
  have left := steps reply daemon before after satisfied answered
  rcases working daemon before satisfied with ⟨phase, keeps⟩
  exact ⟨.of_strays left phase, ⟨phase, left⟩, keeps⟩

theorem stop {required : Option EgressMode} {pre : isolationContract.Assertion}
    (working : ∀ daemon backends, pre.holds daemon backends →
      Working daemon ∧ Keeps required daemon) :
    isolationContract.Spec Backends.answer pre Routine.browserStop fun _ => straying required :=
  callStrays working fun _ _ _ _ _ answered => Backends.strays_of_browserStop answered

theorem reset (required : Option EgressMode) :
    isolationContract.Spec Backends.answer (straying required) Routine.egressReset
      fun _ => straying required := by
  apply callStrays fun _ _ (holds : (straying required).holds _ _) => ⟨holds.1.1, holds.2⟩
  intro reply _ _ _ holds answered
  cases reply <;> cases answered <;> exact holds.1.2

theorem clear (required : Option EgressMode) :
    isolationContract.Spec Backends.answer (straying required) Routine.clearRuntimeDir
      fun _ => straying required := by
  apply callStrays fun _ _ (holds : (straying required).holds _ _) => ⟨holds.1.1, holds.2⟩
  intro reply _ _ _ holds answered
  cases reply with
  | ok _ => cases answered; exact holds.1.2
  | error _ => rcases answered with ⟨_, _, rfl⟩; exact holds.1.2

theorem apply (required : Option EgressMode) (mode : EgressMode) :
    isolationContract.Spec Backends.answer (settled required mode) (Routine.egressApply mode)
      (.either (fun _ => applied required mode) fun _ => straying required) := by
  apply call
  rintro reply daemon before after _ ⟨⟨phase, settled⟩, keeps⟩ answered
  cases reply with
  | ok _ =>
      cases answered
      have later : { before with policy := some mode }.Settled mode := by
        intro browser member
        rcases settled browser member with stray | ⟨same, _⟩
        · exact Or.inl stray
        · exact Or.inr ⟨same, rfl⟩
      exact ⟨.of_settled later phase, ⟨⟨phase, later⟩, keeps⟩, rfl⟩
  | error error =>
      cases answered
      have left := Backends.strays_unserved before
      exact ⟨.of_strays left phase, ⟨phase, left⟩, keeps⟩

theorem launch (required : Option EgressMode) (id : Uuid) (url : Url) (profile : StreamProfile)
    (mode : EgressMode) :
    isolationContract.Spec Backends.answer (applied required mode)
      (Routine.browserStart id url profile mode)
      (.either (fun _ => launched required mode) fun _ => settled required mode) := by
  apply call
  rintro reply daemon before after _ ⟨⟨⟨phase, settled⟩, keeps⟩, policy⟩ answered
  cases reply with
  | ok _ =>
      cases answered
      have serves : ({ before with browsers := [{ mode }] } : Backends).Serves mode :=
        ⟨policy, by simp⟩
      exact ⟨.of_serves serves phase, ⟨phase, serves⟩, keeps⟩
  | error error =>
      rcases answered with ⟨left, remain, rfl⟩
      have later : ({ before with browsers := left } : Backends).Settled mode := by
        intro browser member
        rcases List.mem_append.mp (remain member) with old | new
        · exact settled browser old
        · rw [List.mem_singleton.mp new]
          exact Or.inr ⟨rfl, policy⟩
      exact ⟨.of_settled later phase, ⟨phase, later⟩, keeps⟩

/-! ### Outlines of the session operations -/

theorem publish {event : String} {pre : isolationContract.Assertion} (silent : pre.Silent) :
    isolationContract.Spec Backends.answer pre (SessionManager.publish event) fun _ => pre :=
  Spec.publish quiet (fun _ _ => trivial) silent

/-- A commit after which only the phase and the backends matter. -/
theorem commit {event : String} {update : Daemon → SessionData}
    {pre : isolationContract.Assertion}
    (steps : ∀ daemon backends, pre.holds daemon backends → Isolation (update daemon) backends) :
    isolationContract.Spec Backends.answer pre (SessionManager.commit event update)
      fun _ => .trivial :=
  Spec.commit quiet (fun _ _ _ _ _ _ => trivial) fun daemon backends _ satisfied _ _ =>
    ⟨trivial, steps daemon backends satisfied, trivial⟩

def startOutline (manager : SessionManager) (client : Uuid) (url : Url) :
    StartOutline isolationContract Backends.answer manager client url .trivial
      fun _ => .trivial where
  starting _ _ egress := settled (some egress) egress
  launching _ _ egress := applied (some egress) egress
  launched _ _ egress := launched (some egress) egress
  stopping := working none
  resetting := straying none
  clearing := straying none
  failing := straying none
  entry := by
    apply Spec.transactBy quiet.toTotal (beginStart_cases manager client url)
    intro daemon backends good _ after outcome _ _
    cases outcome with
    | busy _ _ => exact ⟨trivial, good.2, trivial⟩
    | blocked _ => exact ⟨trivial, good.2, trivial⟩
    | conflict _ _ _ => exact ⟨trivial, good.2, trivial⟩
    | begun phase _ _ =>
        have left : backends.Settled daemon.session.snapshot.egress := by
          rcases phase with idle | failed
          · exact (Backends.Strays.of_empty (good.2.idle idle)).settled _
          · exact good.2.failed failed
        refine ⟨trivial, .of_settled left (Or.inl rfl), ⟨Or.inl rfl, left⟩, ?_⟩
        rintro mode ⟨⟩
        rfl
  announce _ _ _ := publish fun _ _ _ _ holds => holds
  apply _ _ egress := by
    apply Spec.relax (apply (some egress) egress)
    intro reply daemon backends _ holds
    cases reply with
    | ok _ => exact holds
    | error _ => exact ⟨holds.1, nofun⟩
  launch id profile egress := by
    apply Spec.relax (launch (some egress) id url profile egress)
    intro reply daemon backends _ holds
    cases reply with
    | ok _ => exact holds
    | error _ => exact ⟨holds.1.1, nofun⟩
  stop := stop fun _ _ holds => holds
  reset := reset none
  clear := clear none
  fail message := commit fun daemon backends holds => .failedWith (holds.1.2.settled _) rfl
  activate _ _ egress := by
    apply commit
    intro daemon backends holds
    refine .activeWith ?_ rfl
    have mode : daemon.session.snapshot.egress = egress := holds.2 egress rfl
    exact mode ▸ holds.1.2

def burnOutline (manager : SessionManager) :
    BurnOutline isolationContract Backends.answer manager .trivial fun _ => .trivial where
  burning := working none
  resetting := stopped
  clearing := stopped
  burned := stopped
  entry := by
    apply Spec.transactBy quiet.toTotal beginBurn_cases
    intro daemon backends good _ after outcome _ _
    cases outcome with
    | idle _ => exact ⟨trivial, good.2, trivial⟩
    | burning _ => exact ⟨trivial, good.2.burning, Or.inr rfl, nofun⟩
  announce := publish fun _ _ _ _ holds => holds
  stop := by
    apply call
    rintro reply daemon before after _ ⟨working, _⟩ answered
    have left := Backends.strays_of_browserStop answered
    cases reply with
    | ok _ => exact ⟨.of_strays left working, ⟨working, left⟩, fun _ => by rw [answered]⟩
    | error error => exact ⟨.of_strays left working, ⟨working, left⟩, nofun⟩
  reset failures := by
    apply call
    intro reply daemon before after _ holds answered
    cases reply <;> cases answered
    · exact ⟨.of_strays holds.1.2 holds.1.1, holds.1, fun clean => by simp at clean⟩
    · exact ⟨.of_strays holds.1.2 holds.1.1, holds⟩
  clear failures := by
    apply call
    intro reply daemon before after _ holds answered
    cases reply with
    | ok _ =>
        cases answered
        exact ⟨.of_strays holds.1.2 holds.1.1, holds⟩
    | error _ =>
        rcases answered with ⟨_, _, rfl⟩
        exact ⟨.of_strays holds.1.2 holds.1.1, holds.1, fun clean => by simp at clean⟩
  idle := commit fun daemon backends holds => .idleWith (holds.2 rfl) rfl
  fail _ _ message := commit fun daemon backends holds => .failedWith (holds.1.2.settled _) rfl

def navigateOutline (manager : SessionManager) (client : Uuid) (command : NavigationCommand) :
    NavigateOutline isolationContract Backends.answer manager client command .trivial
      fun _ => .trivial where
  navigating := .trivial
  navigated := .trivial
  entry := by
    apply Spec.transactBy quiet.toTotal (beginNavigation_cases manager client command)
    intro daemon backends good _ after outcome _ _
    cases outcome with
    | refused _ _ => exact ⟨trivial, good.2, trivial⟩
    | blocked _ _ _ _ => exact ⟨trivial, good.2.congr rfl rfl, trivial⟩
    | begun _ _ => exact ⟨trivial, good.2.congr rfl rfl, trivial⟩
  request := by
    apply call
    intro reply daemon before after isolation _ answered
    cases reply with
    | ok _ =>
        cases answered
        exact ⟨isolation, trivial⟩
    | error _ =>
        rcases answered with ⟨left, remain, rfl⟩
        exact ⟨isolation.shrink remain rfl, trivial⟩
  commit := by
    apply Spec.commit quiet fun _ _ _ _ _ _ => trivial
    intro daemon backends good _ _ _
    refine ⟨trivial, good.2.congr ?_ ?_, trivial⟩
    · cases command <;> rfl
    · cases command <;> rfl

def restartOutline (required : Option EgressMode) (id : Uuid) (url : Url)
    (profile : StreamProfile) (mode : EgressMode) {failure : isolationContract.Assertion}
    (failed : ∀ daemon backends, (settled required mode).holds daemon backends →
      failure.holds daemon backends) :
    RestartOutline isolationContract Backends.answer id url profile mode (straying required)
      (launched required mode) failure where
  clearing := straying required
  applying := straying required
  launching := applied required mode
  reset := by
    apply Spec.relax (reset required)
    intro reply daemon backends _ holds
    cases reply with
    | ok _ => exact holds
    | error _ => exact failed daemon backends ⟨⟨holds.1.1, holds.1.2.settled mode⟩, holds.2⟩
  clear := by
    apply Spec.relax (clear required)
    intro reply daemon backends _ holds
    cases reply with
    | ok _ => exact holds
    | error _ => exact failed daemon backends ⟨⟨holds.1.1, holds.1.2.settled mode⟩, holds.2⟩
  apply := by
    have begun : isolationContract.Spec Backends.answer (straying required)
        (Routine.egressApply mode)
        (.either (fun _ => applied required mode) fun _ => straying required) :=
      Spec.weaken (apply required mode) fun _ _ _ holds =>
        ⟨⟨holds.1.1, holds.1.2.settled mode⟩, holds.2⟩
    apply Spec.relax begun
    intro reply daemon backends _ holds
    cases reply with
    | ok _ => exact holds
    | error _ => exact failed daemon backends ⟨⟨holds.1.1, holds.1.2.settled mode⟩, holds.2⟩
  launch := by
    apply Spec.relax (launch required id url profile mode)
    intro reply daemon backends _ holds
    cases reply with
    | ok _ => exact holds
    | error _ => exact failed daemon backends holds

theorem draw {pre : isolationContract.Assertion}
    (kept : ∀ (daemon : Daemon) rng backends, pre.holds daemon backends →
      pre.holds { daemon with rng := rng } backends) :
    isolationContract.Spec Backends.answer pre (sync Daemon.newUuid : Routine Uuid)
      fun _ => pre :=
  Spec.transact quiet.toTotal fun daemon backends good satisfied _ _ =>
    ⟨trivial, good.2, kept daemon _ backends satisfied⟩

/-- A rollback has failed too. -/
def lost : isolationContract.Assertion where
  holds daemon backends := Working daemon ∧ backends.Settled daemon.session.snapshot.egress
  stable := by
    refine Stable.and working_stable ?_
    intro _ _ _ _ _ relied _ holds
    rw [relied.1.egress]
    exact holds.shrink relied.2.1 relied.2.2

def switchOutline (client : Uuid) (mode : EgressMode) :
    SwitchOutline isolationContract Backends.answer client mode .trivial fun _ => .trivial where
  switching _ _ previous := working (some previous)
  stopping _ _ _ previous := working (some previous)
  resetting _ _ _ previous := straying (some previous)
  switched _ _ _ previous := launched (some previous) mode
  attempted _ _ previous := settled (some previous) mode
  rollbackStopping _ _ _ previous := settled (some previous) mode
  rollbackResetting _ _ _ previous := straying (some previous)
  rolledBack _ _ _ previous := launched (some previous) previous
  lost := lost
  entry := by
    apply Spec.transactBy quiet.toTotal (beginSwitch_cases client)
    intro daemon backends good _ after outcome _ _
    cases outcome with
    | refused _ _ => exact ⟨trivial, good.2, trivial⟩
    | absent _ _ => exact ⟨trivial, good.2.burning, trivial⟩
    | begun _ _ _ =>
        refine ⟨trivial, good.2.burning, Or.inr rfl, ?_⟩
        rintro mode ⟨⟩
        rfl
  announce _ _ _ := publish fun _ _ _ _ holds => holds
  draw _ _ _ := draw fun _ _ _ holds => holds
  stop _ _ _ previous := by
    apply Spec.relax (stop fun _ _ (holds : (working (some previous)).holds _ _) => holds)
    intro reply daemon backends _ holds
    cases reply with
    | ok _ => exact holds
    | error _ => exact ⟨⟨holds.1.1, holds.1.2.settled mode⟩, holds.2⟩
  attempt id url profile previous := restartOutline (some previous) id url profile mode
    fun _ _ holds => holds
  commit _ _ _ _ := commit fun daemon backends holds => .activeWith holds.1.2 rfl
  redraw _ _ _ := draw fun _ _ _ holds => holds
  restop _ _ _ previous := stop fun _ _ (holds : (settled (some previous) mode).holds _ _) =>
    ⟨holds.1.1, holds.2⟩
  rollback id url profile previous := restartOutline (some previous) id url profile previous
    fun daemon backends holds => by
      have kept : daemon.session.snapshot.egress = previous := holds.2 previous rfl
      exact ⟨holds.1.1, kept ▸ holds.1.2⟩
  commitRollback _ _ _ _ message := commit fun daemon backends holds => .activeWith holds.1.2 rfl
  fail message := commit fun daemon backends holds => .failedWith holds.2 rfl

theorem specs (manager : SessionManager) :
    SessionSpecs isolationContract Backends.answer manager .trivial where
  quiet := quiet
  reflexive _ _ := trivial
  atRest _ _ := Iff.rfl
  finish _ _ _ := Iff.rfl
  start client url := (startOutline manager client url).sound
  forceBurn := (burnOutline manager).sound
  navigate client command := (navigateOutline manager client command).sound
  switchEgress client mode := (switchOutline client mode).sound

theorem interference : Interference isolationContract Backends.accident where
  request daemon backends daemon' good step _ _ :=
    ⟨⟨step.session, List.Subset.refl _, rfl⟩,
      good.2.congr step.session.phase step.session.egress⟩
  clock _ _ _ _ good _ _ := ⟨⟨.same, List.Subset.refl _, rfl⟩, good.2⟩
  world event daemon backends backends' good happened _ := by
    rcases Backends.browsers_subset_of_accident happened with ⟨fewer, policy⟩
    exact ⟨⟨.same, fewer, policy⟩, good.2.shrink fewer policy⟩

end isolationContract

/-! ## The result -/

/-- What holds of the browsers and of the policy at every step. -/
structure EgressIsolated (daemon : Daemon) (backends : Backends) : Prop where
  contained : ∀ browser ∈ backends.browsers, browser.stopFailed = false →
    browser.applyFailed = false → browser.Contained backends.policy
  active : daemon.session.snapshot.phase = .active →
    backends.policy = some daemon.session.snapshot.egress ∧
      ∀ browser ∈ backends.browsers, browser.mode = daemon.session.snapshot.egress
  idle : daemon.session.snapshot.phase = .idle → backends.browsers = []

theorem Isolation.egressIsolated {daemon : Daemon} {backends : Backends}
    (isolation : Isolation daemon.session backends) : EgressIsolated daemon backends where
  contained browser member stopped applied := by
    rcases isolation.contained browser member with (stray | stray) | contained
    · rw [stopped] at stray
      cases stray
    · rw [applied] at stray
      cases stray
    · exact contained
  active phase := ⟨(isolation.active phase).policy, (isolation.active phase).browsers⟩
  idle := isolation.idle

/-- At every step of every run of the session manager, a browser that has not
outlived a failed stop or a failed change to its policy runs under that policy
or under the kill switch.  In an active session everything that may be running
was started for the mode in force, and in an idle one nothing is running. -/
theorem egress_isolated_of_reaches {app : AppState} {daemon : Daemon}
    {policy : Option EgressMode} {config : Config Daemon Call Call.Reply Response Backends}
    (initial : daemon.session = app.sessions.initialData daemon.now)
    (reaches : (app.sessionService Backends.answer Backends.accident).Reaches
      (.idle daemon { policy }) config) : EgressIsolated config.memory config.world := by
  have established : isolationContract.Established
      (app.sessionService Backends.answer Backends.accident) :=
    (isolationContract.specs app.sessions).established_sessionService isolationContract.interference
  have idle : daemon.session.snapshot.phase = .idle := by
    rw [initial]
    rfl
  have start : isolationContract.Holds Backends.answer
      (.idle daemon { policy } : Config Daemon Call Call.Reply Response Backends) := by
    constructor
    · exact ⟨trivial, .idleWith rfl idle⟩
    · exact fun _ => trivial
    · rintro program ⟨⟩
    · rintro program ⟨⟩
  exact (established.sound start (fun _ _ => trivial)
    (Pool.reachesUnder_free _ reaches)).good.2.egressIsolated

namespace Sample

abbrev SessionLabel := Pool.Label SessionOperation Request (Environment Accident) Effect

/-- A session is started, and its egress switched to Tor. -/
def torSession : List SessionLabel :=
  .start (.start 0 (url "example.com")) :: List.replicate 7 (.step (some .succeeds)) ++
    [.finish, .start (.switchEgress 0 .tor)] ++ List.replicate 11 (.step (some .succeeds)) ++
    [.finish]

/-- A burn, up to the reset, in which the browser cannot be stopped. -/
def unstoppedBurn : List SessionLabel :=
  .start (.burn 0) :: List.replicate 4 (.step none) ++
    [.step (some (.fails .internal [{ mode := .tor, stopFailed := true }] [])),
      .step (some .succeeds)]

end Sample

/-- Under Tor everything that runs was started for Tor. -/
theorem egress_isolated_of_torSession :
    ∃ config : Config Daemon Call Call.Reply Response Backends,
      config.world.policy = some .tor ∧ config.world.browsers = [{ mode := .tor }] ∧
        EgressIsolated config.memory config.world := by
  have executed : ((run (Sample.app.sessionService Backends.answer Backends.accident).step
      (.idle Sample.daemon {}) Sample.torSession).map
        fun config => (config.world.policy, config.world.browsers)) =
      some (some .tor, [{ mode := .tor }]) := by
    decide +kernel
  rcases Option.map_eq_some_iff.mp executed with ⟨config, reached, values⟩
  rcases Prod.mk.inj values with ⟨policy, browsers⟩
  exact ⟨config, policy, browsers, egress_isolated_of_reaches rfl (reachable_of_run reached)⟩

/-- The burn of a Tor session resets the policy although the browser could not
be stopped. -/
theorem not_contained_of_unstoppedBurn :
    ¬ ∀ config : Config Daemon Call Call.Reply Response Backends,
      (Sample.app.sessionService Backends.answer Backends.accident).Reaches
        (.idle Sample.daemon {}) config →
      ∀ browser ∈ config.world.browsers, browser.Contained config.world.policy := by
  intro always
  have executed : ((run (Sample.app.sessionService Backends.answer Backends.accident).step
      (.idle Sample.daemon {}) (Sample.torSession ++ Sample.unstoppedBurn)).map
        fun config => (config.world.policy, config.world.browsers)) =
      some (some .direct, [{ mode := .tor, stopFailed := true }]) := by
    decide +kernel
  rcases Option.map_eq_some_iff.mp executed with ⟨config, reached, values⟩
  rcases Prod.mk.inj values with ⟨policy, browsers⟩
  have contained := always config (reachable_of_run reached) { mode := .tor, stopFailed := true }
    (by rw [browsers]; exact List.mem_singleton_self _)
  rw [policy] at contained
  simp [Browser.Contained] at contained

end XanhTab
