import XanhTab.Daemon.Establish

/-!
# The session data invariant

What the phase says about the other fields of the session, in every state that
the service reaches.  `WellFormed` is the inductive form: the fields that a
start writes together and a burn clears together are all present or all absent,
also in the phases that the published invariant leaves open.
-/

namespace XanhTab

open Program Contract Transition

/-- The settings that a burn restores. -/
structure SessionSnapshot.Initial (manager : SessionManager) (snapshot : SessionSnapshot) :
    Prop where
  egress : snapshot.egress = manager.initialEgress
  streamProfile : snapshot.streamProfile = manager.initialProfile
  autoBurnSeconds : snapshot.autoBurnSeconds = manager.initialAutoBurnSeconds
  blocklistEnabled : snapshot.blocklistEnabled = true

/-- The newest entry of the history is the current page. -/
def SessionData.Current (data : SessionData) : Prop :=
  ∃ url, data.snapshot.url = some url ∧ data.history.getLast?.map HistoryEntry.url = some url

structure SessionData.WellFormed (manager : SessionManager) (data : SessionData) : Prop where
  identified : data.snapshot.id.isSome = data.controller.isSome
  located : data.snapshot.url.isSome = data.controller.isSome
  dated : data.snapshot.startedAt.isSome = data.controller.isSome
  attached : data.snapshot.controllerAttached = data.controller.isSome
  bounded : data.history.length ≤ 128
  idle : data.snapshot.phase = .idle →
    data.controller = none ∧ data.history = [] ∧ data.snapshot.Initial manager
  starting : data.snapshot.phase = .starting → data.controller.isSome ∧ data.history = []
  active : data.snapshot.phase = .active → data.controller.isSome ∧ data.Current
  failed : data.snapshot.phase = .failed → data.history = [] ∧ data.snapshot.failure.isSome
  failure : data.snapshot.failure.isSome →
    data.snapshot.phase = .failed ∨ data.snapshot.phase = .burning

/-- A session between the first section of a switch and its last. -/
structure SessionData.Switching (url : Url) (data : SessionData) : Prop where
  phase : data.snapshot.phase = .burning
  failure : data.snapshot.failure = none
  controller : data.controller.isSome
  url : data.snapshot.url = some url

theorem length_pushHistory_le {history : List HistoryEntry} (url : Url) (utc : DateTime)
    (bounded : history.length ≤ 128) : (pushHistory history url utc).length ≤ 128 := by
  unfold pushHistory
  split
  · rw [List.length_append, List.length_tail]
    simp
    omega
  · rw [List.length_append]
    simp
    omega

theorem getLast?_pushHistory (history : List HistoryEntry) (url : Url) (utc : DateTime) :
    (pushHistory history url utc).getLast?.map HistoryEntry.url = some url := by
  simp [pushHistory]

namespace SessionData.WellFormed

variable {manager : SessionManager} {data : SessionData}

theorem initialData (manager : SessionManager) (now : Instant) :
    (manager.initialData now).WellFormed manager where
  identified := rfl
  located := rfl
  dated := rfl
  attached := rfl
  bounded := Nat.zero_le _
  idle _ := ⟨rfl, rfl, rfl, rfl, rfl, rfl⟩
  starting phase := by cases phase
  active phase := by cases phase
  failed phase := by cases phase
  failure present := by cases present

theorem failure_eq_none (formed : data.WellFormed manager)
    (notFailed : data.snapshot.phase ≠ .failed) (notBurning : data.snapshot.phase ≠ .burning) :
    data.snapshot.failure = none := by
  by_contra present
  rcases formed.failure (Option.isSome_iff_ne_none.mpr present) with failed | burning
  · exact notFailed failed
  · exact notBurning burning

theorem settings (formed : data.WellFormed manager) {data' : SessionData}
    (step : SettingsStep data data') : data'.WellFormed manager := by
  cases step with
  | same => exact formed
  | change profile enabled seconds activity active =>
      exact
        { identified := formed.identified
          located := formed.located
          dated := formed.dated
          attached := formed.attached
          bounded := formed.bounded
          idle := fun phase => by rw [active] at phase; cases phase
          starting := formed.starting
          active := formed.active
          failed := formed.failed
          failure := formed.failure }

theorem withActivity (formed : data.WellFormed manager) (activity : Instant) :
    { data with lastActivity := activity }.WellFormed manager where
  identified := formed.identified
  located := formed.located
  dated := formed.dated
  attached := formed.attached
  bounded := formed.bounded
  idle := formed.idle
  starting := formed.starting
  active := formed.active
  failed := formed.failed
  failure := formed.failure

/-- A session begun from a phase without history. -/
theorem begun (formed : data.WellFormed manager)
    (phase : data.snapshot.phase = .idle ∨ data.snapshot.phase = .failed) (client id : Uuid)
    (url : Url) (utc : DateTime) (now : Instant) :
    ({ data with controller := some client }.begun id url utc now).WellFormed manager where
  identified := rfl
  located := rfl
  dated := rfl
  attached := rfl
  bounded := formed.bounded
  idle phase := by cases phase
  starting _ := by
    refine ⟨rfl, ?_⟩
    rcases phase with idle | failed
    · exact (formed.idle idle).2.1
    · exact (formed.failed failed).1
  active phase := by cases phase
  failed phase := by cases phase
  failure present := by cases present

theorem activated (formed : data.WellFormed manager) (phase : data.snapshot.phase = .starting)
    {url : Url} (target : data.snapshot.url = some url) (utc : DateTime) :
    (data.activated url utc).WellFormed manager where
  identified := formed.identified
  located := formed.located
  dated := formed.dated
  attached := formed.attached
  bounded := length_pushHistory_le url utc formed.bounded
  idle phase := by cases phase
  starting phase := by cases phase
  active _ := ⟨(formed.starting phase).1, url, target, getLast?_pushHistory _ url utc⟩
  failed phase := by cases phase
  failure present := by
    rcases formed.failure present with failed | burning
    · rw [phase] at failed; cases failed
    · rw [phase] at burning; cases burning

theorem failedStart (formed : data.WellFormed manager) (phase : data.snapshot.phase = .starting)
    (message : String) : (data.failed message).WellFormed manager where
  identified := formed.identified
  located := formed.located
  dated := formed.dated
  attached := formed.attached
  bounded := formed.bounded
  idle phase := by cases phase
  starting phase := by cases phase
  active phase := by cases phase
  failed _ := ⟨(formed.starting phase).2, rfl⟩
  failure _ := Or.inl rfl

theorem burning (formed : data.WellFormed manager) :
    data.burning.WellFormed manager where
  identified := formed.identified
  located := formed.located
  dated := formed.dated
  attached := formed.attached
  bounded := formed.bounded
  idle phase := by cases phase
  starting phase := by cases phase
  active phase := by cases phase
  failed phase := by cases phase
  failure _ := Or.inr rfl

theorem failedBurn (manager : SessionManager) (now : Instant) (message : String) :
    ((manager.initialData now).failed message).WellFormed manager where
  identified := rfl
  located := rfl
  dated := rfl
  attached := rfl
  bounded := Nat.zero_le _
  idle phase := by cases phase
  starting phase := by cases phase
  active phase := by cases phase
  failed _ := ⟨rfl, rfl⟩
  failure _ := Or.inl rfl

theorem navigated (formed : data.WellFormed manager) (phase : data.snapshot.phase = .active)
    (command : NavigationCommand) (utc : DateTime) :
    (data.navigated command utc).WellFormed manager := by
  have held := (formed.active phase).1
  cases command with
  | navigate url =>
      exact
        { identified := formed.identified
          located := held.symm
          dated := formed.dated
          attached := formed.attached
          bounded := length_pushHistory_le url utc formed.bounded
          idle := fun idle => by cases phase.symm.trans idle
          starting := fun starting => by cases phase.symm.trans starting
          active := fun _ => ⟨held, url, rfl, getLast?_pushHistory _ url utc⟩
          failed := fun failed => by cases phase.symm.trans failed
          failure := formed.failure }
  | back | forward | reload | stop => exact formed

/-- The two ways in which a switch ends in an active session. -/
theorem restarted (formed : data.WellFormed manager) {url : Url} (switching : data.Switching url)
    (id : Uuid) (mode : EgressMode) (utc : DateTime) (now : Instant) :
    (data.switched id mode url utc now).WellFormed manager ∧
      (data.rolledBack id mode url utc now).WellFormed manager := by
  have current : (pushHistory [] url utc).getLast?.map HistoryEntry.url = some url :=
    getLast?_pushHistory [] url utc
  constructor
  · exact
      { identified := switching.controller.symm
        located := formed.located
        dated := switching.controller.symm
        attached := formed.attached
        bounded := by simp [SessionData.switched, pushHistory]
        idle := fun phase => by cases phase
        starting := fun phase => by cases phase
        active := fun _ => ⟨switching.controller, url, switching.url, current⟩
        failed := fun phase => by cases phase
        failure := fun present => by
          simp [SessionData.switched, switching.failure] at present }
  · exact
      { identified := switching.controller.symm
        located := formed.located
        dated := switching.controller.symm
        attached := formed.attached
        bounded := by simp [SessionData.rolledBack, pushHistory]
        idle := fun phase => by cases phase
        starting := fun phase => by cases phase
        active := fun _ => ⟨switching.controller, url, switching.url, current⟩
        failed := fun phase => by cases phase
        failure := fun present => by cases present }

theorem switchFailed (formed : data.WellFormed manager) (message : String) :
    (data.switchFailed message).WellFormed manager where
  identified := formed.identified
  located := formed.located
  dated := formed.dated
  attached := formed.attached
  bounded := Nat.zero_le _
  idle phase := by cases phase
  starting phase := by cases phase
  active phase := by cases phase
  failed _ := ⟨rfl, rfl⟩
  failure _ := Or.inl rfl

end SessionData.WellFormed

/-! ## The contract -/

/-- The session is well formed, and only settings change behind an operation. -/
def sessionContract (app : AppState) (W O : Type) : Contract Daemon Call Response W O where
  always daemon _ := daemon.session.WellFormed app.sessions
  rely daemon _ daemon' _ := SettingsStep daemon.session daemon'.session

namespace sessionContract

variable {app : AppState} {W O N : Type} {answer : Answer Call Call.Reply W O}
  {world : N → Daemon → W → Option W}

theorem quiet : (sessionContract app W O).Quiet where
  rest _ _ _ _ := trivial
  unread _ _ _ _ _ := trivial
  publish _ _ _ _ good _ := ⟨trivial, good.2⟩

/-- A property of inactive sessions, which no request disturbs. -/
def whileInactive (property : SessionData → Prop)
    (inactive : ∀ data, property data → data.snapshot.phase ≠ .active) :
    (sessionContract app W O).Assertion where
  holds daemon _ := property daemon.session
  stable := by
    intro daemon _ daemon' _ _ relied _ holds
    rw [SettingsStep.eq_of_inactive relied (inactive _ holds)]
    exact holds

theorem whileInactive_silent {property : SessionData → Prop}
    {inactive : ∀ data, property data → data.snapshot.phase ≠ .active} :
    (whileInactive property inactive : (sessionContract app W O).Assertion).Silent :=
  fun _ _ _ _ holds => holds

theorem trivial_silent :
    (Assertion.trivial : (sessionContract app W O).Assertion).Silent :=
  fun _ _ _ _ _ => trivial

/-- A call changes nothing that the contract speaks of. -/
theorem ask {awaits : Bool} {request : Call} {pre : (sessionContract app W O).Assertion}
    {post : Call.Reply request → (sessionContract app W O).Assertion}
    (holds : ∀ reply daemon state state', pre.holds daemon state →
      (post reply).holds daemon state') :
    (sessionContract app W O).Spec answer pre
      (.ask awaits request : Routine (Call.Reply request)) post :=
  Spec.ask quiet.toTotal fun daemon state good satisfied _ reply state' _ _ _ =>
    ⟨trivial, good.2, holds reply daemon state state' satisfied⟩

/-- A commit is correct when its update keeps the session well formed. -/
theorem commit {event : String} {update : Daemon → SessionData}
    {pre : (sessionContract app W O).Assertion}
    (keeps : ∀ daemon state, daemon.session.WellFormed app.sessions → pre.holds daemon state →
      (update daemon).WellFormed app.sessions) :
    (sessionContract app W O).Spec answer pre (SessionManager.commit event update)
      fun _ => .trivial :=
  Spec.commit quiet (fun _ => trivial_silent) fun daemon state good satisfied _ _ =>
    ⟨trivial, keeps daemon state good.2 satisfied, trivial⟩

/-! ### Outlines -/

def starting (url : Url) : (sessionContract app W O).Assertion :=
  whileInactive (fun data => data.snapshot.phase = .starting ∧ data.snapshot.url = some url)
    fun _ holds => by rw [holds.1]; decide

def startOutline (client : Uuid) (url : Url) :
    StartOutline (sessionContract app W O) answer app.sessions client url .trivial
      fun _ => .trivial where
  starting _ _ _ := starting url
  launching _ _ _ := starting url
  launched _ _ _ := starting url
  stopping := starting url
  resetting := starting url
  clearing := starting url
  failing := starting url
  entry := by
    apply Spec.transactBy quiet.toTotal (beginStart_cases app.sessions client url)
    intro daemon state good _ after outcome _ _
    cases outcome with
    | busy _ _ => exact ⟨trivial, good.2, trivial⟩
    | blocked _ => exact ⟨trivial, good.2, trivial⟩
    | conflict _ _ _ => exact ⟨trivial, good.2, trivial⟩
    | begun phase _ _ => exact ⟨trivial, good.2.begun phase client _ url _ _, rfl, rfl⟩
  announce _ _ _ := Spec.publish quiet (fun _ _ => trivial) whileInactive_silent
  apply _ _ _ := ask fun reply _ _ _ holds => by cases reply <;> exact holds
  launch _ _ _ := ask fun reply _ _ _ holds => by cases reply <;> exact holds
  stop := ask fun _ _ _ _ holds => holds
  reset := ask fun _ _ _ _ holds => holds
  clear := ask fun _ _ _ _ holds => holds
  fail message := commit fun _ _ formed holds => formed.failedStart holds.1 message
  activate _ _ _ := commit fun daemon _ formed holds =>
    formed.activated holds.1 holds.2 daemon.utc

def burning : (sessionContract app W O).Assertion :=
  whileInactive (fun data => data.snapshot.phase = .burning) fun _ holds => by rw [holds]; decide

def burnOutline :
    BurnOutline (sessionContract app W O) answer app.sessions .trivial fun _ => .trivial where
  burning := burning
  resetting _ := burning
  clearing _ := burning
  burned _ := burning
  entry := by
    apply Spec.transactBy quiet.toTotal beginBurn_cases
    intro daemon state good _ after outcome _ _
    cases outcome with
    | idle _ => exact ⟨trivial, good.2, trivial⟩
    | burning _ => exact ⟨trivial, good.2.burning, rfl⟩
  announce := Spec.publish quiet (fun _ _ => trivial) whileInactive_silent
  stop := ask fun reply _ _ _ holds => by cases reply <;> exact holds
  reset _ := ask fun reply _ _ _ holds => by cases reply <;> exact holds
  clear _ := ask fun reply _ _ _ holds => by cases reply <;> exact holds
  idle := commit fun daemon _ _ _ => .initialData app.sessions daemon.now
  fail _ _ message := commit fun daemon _ _ _ => .failedBurn app.sessions daemon.now message

/-- An active session stays active while its settings change. -/
def active : (sessionContract app W O).Assertion where
  holds daemon _ := daemon.session.snapshot.phase = .active
  stable := fun _ _ _ _ _ relied _ holds => relied.phase.trans holds

def navigateOutline (client : Uuid) (command : NavigationCommand) :
    NavigateOutline (sessionContract app W O) answer app.sessions client command .trivial
      fun _ => .trivial where
  navigating := active
  navigated := active
  entry := by
    apply Spec.transactBy quiet.toTotal (beginNavigation_cases app.sessions client command)
    intro daemon state good _ after outcome _ _
    cases outcome with
    | refused _ _ => exact ⟨trivial, good.2, trivial⟩
    | blocked _ _ _ _ => exact ⟨trivial, good.2.withActivity _, trivial⟩
    | begun lease _ =>
        exact ⟨trivial, good.2.withActivity _, (ensureActiveLease_eq_ok_iff.mp lease).2⟩
  request := ask fun reply _ _ _ holds => by
    cases reply with
    | ok _ => exact holds
    | error _ => trivial
  commit := commit fun daemon _ formed holds => formed.navigated holds command daemon.utc

def switching (url : Url) : (sessionContract app W O).Assertion :=
  whileInactive (SessionData.Switching url) fun _ holds => by rw [holds.phase]; decide

def restartOutline (id : Uuid) (url : Url) (profile : StreamProfile) (mode : EgressMode)
    (failure : (sessionContract app W O).Assertion)
    (fails : ∀ daemon state, (switching url : (sessionContract app W O).Assertion).holds daemon
      state → failure.holds daemon state) :
    RestartOutline (sessionContract app W O) answer id url profile mode (switching url)
      (switching url) failure where
  clearing := switching url
  applying := switching url
  launching := switching url
  reset := ask fun reply daemon _ state holds => by
    cases reply with
    | ok _ => exact holds
    | error _ => exact fails daemon state holds
  clear := ask fun reply daemon _ state holds => by
    cases reply with
    | ok _ => exact holds
    | error _ => exact fails daemon state holds
  apply := ask fun reply daemon _ state holds => by
    cases reply with
    | ok _ => exact holds
    | error _ => exact fails daemon state holds
  launch := ask fun reply daemon _ state holds => by
    cases reply with
    | ok _ => exact holds
    | error _ => exact fails daemon state holds

def switchOutline (client : Uuid) (mode : EgressMode) :
    SwitchOutline (sessionContract app W O) answer client mode .trivial fun _ => .trivial where
  switching url _ _ := switching url
  stopping _ url _ _ := switching url
  resetting _ url _ _ := switching url
  switched _ url _ _ := switching url
  attempted url _ _ := switching url
  rollbackStopping _ url _ _ := switching url
  rollbackResetting _ url _ _ := switching url
  rolledBack _ url _ _ := switching url
  lost := .trivial
  entry := by
    apply Spec.transactBy quiet.toTotal (beginSwitch_cases client)
    intro daemon state good _ after outcome _ _
    cases outcome with
    | refused _ _ => exact ⟨trivial, good.2, trivial⟩
    | absent _ _ => exact ⟨trivial, good.2.burning, trivial⟩
    | begun url lease target =>
        have held := ensureActiveLease_eq_ok_iff.mp lease
        have failure := good.2.failure_eq_none (by rw [held.2]; decide) (by rw [held.2]; decide)
        exact ⟨trivial, good.2.burning, rfl, failure, by simp [SessionData.burning, held.1], target⟩
  announce _ _ _ := Spec.publish quiet (fun _ _ => trivial) whileInactive_silent
  draw _ _ _ := Spec.transact quiet.toTotal fun _ _ good holds _ _ => ⟨trivial, good.2, holds⟩
  stop _ _ _ _ := ask fun reply _ _ _ holds => by cases reply <;> exact holds
  attempt id url profile _ :=
    restartOutline id url profile mode (switching url) fun _ _ holds => holds
  commit id _ _ _ := commit fun daemon _ formed holds =>
    (formed.restarted holds id mode daemon.utc daemon.now).1
  redraw _ _ _ := Spec.transact quiet.toTotal fun _ _ good holds _ _ => ⟨trivial, good.2, holds⟩
  restop _ _ _ _ := ask fun _ _ _ _ holds => holds
  rollback id url profile previous :=
    restartOutline id url profile previous .trivial fun _ _ _ => trivial
  commitRollback id _ _ previous _ := commit fun daemon _ formed holds =>
    (formed.restarted holds id previous daemon.utc daemon.now).2
  fail message := commit fun _ _ formed _ => formed.switchFailed message

theorem specs : SessionSpecs (sessionContract app W O) answer app.sessions .trivial where
  quiet := quiet
  reflexive _ _ := trivial
  atRest _ _ := Iff.rfl
  finish _ _ _ := Iff.rfl
  start client url := (startOutline client url).sound
  forceBurn := burnOutline.sound
  navigate client command := (navigateOutline client command).sound
  switchEgress client mode := (switchOutline client mode).sound

theorem blind : Blind (sessionContract app W O) answer .trivial where
  auth _ _ _ _ good _ _ _ := ⟨trivial, good.2, trivial⟩
  pairingFile _ _ _ _ _ _ good _ _ _ _ := ⟨trivial, good.2, trivial⟩

theorem interference : Interference (sessionContract app W O) world where
  request _ _ _ good step _ _ := ⟨step.session, good.2.settings step.session⟩
  clock _ _ _ _ good _ _ := ⟨.same, good.2⟩
  world _ _ _ _ good _ _ := ⟨.same, good.2⟩

end sessionContract

theorem AppState.Booted.wellFormed {app : AppState} {daemon : Daemon}
    (booted : app.Booted daemon) : daemon.session.WellFormed app.sessions := by
  rw [booted.session]
  exact .initialData app.sessions daemon.now

/-- Every session that the service reaches is well formed, whatever the world of
the backends does. -/
theorem wellFormed_of_reaches {app : AppState} {W O N : Type}
    {answer : Answer Call Call.Reply W O} {world : N → Daemon → W → Option W}
    {daemon : Daemon} {state : W} {config : Config Daemon Call Call.Reply Response W}
    (booted : app.Booted daemon)
    (reaches : (app.service answer world).Reaches (.idle daemon state) config) :
    config.memory.session.WellFormed app.sessions := by
  have established : (sessionContract app W O).Established (app.service answer world) :=
    sessionContract.specs.established_service sessionContract.blind sessionContract.interference
  have initial : (sessionContract app W O).Holds (app.service answer world).answer
      (.idle daemon state) := .idle ⟨trivial, booted.wellFormed⟩ trivial
  exact (established.sound initial (fun _ _ => trivial)
    (Pool.reachesUnder_free _ reaches)).good.2

/-! ## The published invariant -/

/-- What the phase of a session says about its other fields. -/
structure SessionData.Invariant (manager : SessionManager) (data : SessionData) : Prop where
  idle : data.snapshot.phase = .idle →
    data.snapshot.id = none ∧ data.snapshot.url = none ∧ data.snapshot.startedAt = none ∧
    data.snapshot.failure = none ∧ data.controller = none ∧ data.history = [] ∧
    data.snapshot.blocklistEnabled = true ∧ data.snapshot.egress = manager.initialEgress ∧
    data.snapshot.streamProfile = manager.initialProfile ∧
    data.snapshot.autoBurnSeconds = manager.initialAutoBurnSeconds
  active : data.snapshot.phase = .active →
    data.snapshot.id.isSome ∧ data.snapshot.url.isSome ∧ data.snapshot.startedAt.isSome ∧
    data.controller.isSome ∧ data.snapshot.failure = none ∧
    1 ≤ data.history.length ∧ data.history.length ≤ 128 ∧
    data.history.getLast?.map HistoryEntry.url = data.snapshot.url
  withoutHistory : data.snapshot.phase = .starting ∨ data.snapshot.phase = .failed →
    data.history = []
  failed : data.snapshot.phase = .failed → data.snapshot.failure.isSome
  failure : data.snapshot.failure.isSome →
    data.snapshot.phase = .failed ∨ data.snapshot.phase = .burning
  attached : data.snapshot.controllerAttached = true ↔ data.controller.isSome

theorem SessionData.WellFormed.invariant {manager : SessionManager} {data : SessionData}
    (formed : data.WellFormed manager) : data.Invariant manager where
  idle phase := by
    rcases formed.idle phase with ⟨controller, history, initial⟩
    have failure := formed.failure_eq_none (by rw [phase]; decide) (by rw [phase]; decide)
    have identified := formed.identified
    have located := formed.located
    have dated := formed.dated
    rw [controller] at identified located dated
    exact ⟨Option.not_isSome_iff_eq_none.mp (by simp [identified]),
      Option.not_isSome_iff_eq_none.mp (by simp [located]),
      Option.not_isSome_iff_eq_none.mp (by simp [dated]), failure, controller, history,
      initial.blocklistEnabled, initial.egress, initial.streamProfile, initial.autoBurnSeconds⟩
  active phase := by
    rcases formed.active phase with ⟨held, url, target, newest⟩
    have failure := formed.failure_eq_none (by rw [phase]; decide) (by rw [phase]; decide)
    have nonempty : data.history ≠ [] := by
      intro empty
      simp [empty] at newest
    exact ⟨formed.identified.trans held, formed.located.trans held, formed.dated.trans held, held,
      failure, List.length_pos_iff.mpr nonempty, formed.bounded, newest.trans target.symm⟩
  withoutHistory phase := by
    rcases phase with starting | failed
    · exact (formed.starting starting).2
    · exact (formed.failed failed).1
  failed phase := (formed.failed phase).2
  failure := formed.failure
  attached := by rw [formed.attached]

/-- The session data invariant holds in every state that the service reaches
from its start, under any interleaving of the lifecycle operations, the
requests and the environment, for any behaviour of the backends, and with any
operation dropped at any of its awaits. -/
theorem session_invariant_of_reaches {app : AppState} {W O N : Type}
    {answer : Answer Call Call.Reply W O} {world : N → Daemon → W → Option W}
    {daemon : Daemon} {state : W} {config : Config Daemon Call Call.Reply Response W}
    (booted : app.Booted daemon)
    (reaches : (app.service answer world).Reaches (.idle daemon state) config) :
    config.memory.session.Invariant app.sessions :=
  (wellFormed_of_reaches booted reaches).invariant

/-- The first client's session is active after eight steps. -/
theorem session_invariant_of_openSession :
    ∃ config : Config Daemon Call Call.Reply Response Unit,
      config.memory.session.snapshot.phase = .active ∧
      config.memory.session.Invariant Sample.app.sessions := by
  have executed : ((run (Sample.app.service Sample.willing AppState.still).step
      (.idle Sample.daemon ()) (Sample.openSession () 8)).map
        (·.memory.session.snapshot.phase)) = some .active := by
    decide +kernel
  rcases Option.map_eq_some_iff.mp executed with ⟨config, reached, active⟩
  exact ⟨config, active,
    session_invariant_of_reaches Sample.daemon_booted (reachable_of_run reached)⟩

end XanhTab
