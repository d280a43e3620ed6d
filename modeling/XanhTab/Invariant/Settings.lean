import XanhTab.Daemon.Lifecycle
import XanhTab.Invariant.Session

/-!
# The settings of a new session

The settings of a session belong to that session.  Only a burn resets them, but
a session may also be started from the failed phase.  A start or a burn that has
failed leaves initial settings; a switch whose rollback has failed leaves the
settings of its session to the next one.
-/

namespace XanhTab

open Program Contract Transition

/-! ## The settings -/

/-- The snapshots show the same settings. -/
structure SessionSnapshot.SameSettings (snapshot other : SessionSnapshot) : Prop where
  egress : snapshot.egress = other.egress
  streamProfile : snapshot.streamProfile = other.streamProfile
  autoBurnSeconds : snapshot.autoBurnSeconds = other.autoBurnSeconds
  blocklistEnabled : snapshot.blocklistEnabled = other.blocklistEnabled

namespace SessionSnapshot.SameSettings

variable {snapshot other : SessionSnapshot} {manager : SessionManager}

theorem refl (snapshot : SessionSnapshot) : snapshot.SameSettings snapshot :=
  ⟨rfl, rfl, rfl, rfl⟩

theorem initial_iff (same : snapshot.SameSettings other) :
    snapshot.Initial manager ↔ other.Initial manager := by
  constructor
  · intro initial
    exact ⟨same.egress ▸ initial.egress, same.streamProfile ▸ initial.streamProfile,
      same.autoBurnSeconds ▸ initial.autoBurnSeconds,
      same.blocklistEnabled ▸ initial.blocklistEnabled⟩
  · intro initial
    exact ⟨same.egress.trans initial.egress, same.streamProfile.trans initial.streamProfile,
      same.autoBurnSeconds.trans initial.autoBurnSeconds,
      same.blocklistEnabled.trans initial.blocklistEnabled⟩

end SessionSnapshot.SameSettings

/-- Outside the active and the burning phase the settings are initial. -/
def SessionData.Unused (manager : SessionManager) (data : SessionData) : Prop :=
  data.snapshot.phase ≠ .active → data.snapshot.phase ≠ .burning → data.snapshot.Initial manager

/-- The section that gives up on a switch: the session has failed, and its lease
is kept. -/
structure GivesUp (before after : SessionData) : Prop where
  burning : before.snapshot.phase = .burning
  failed : after.snapshot.phase = .failed
  held : after.controller.isSome

/-- A switch is only given up in a session with initial settings. -/
def initialGivenUp (manager : SessionManager) (W O : Type) : Assumptions Daemon Call W O where
  access before _ after :=
    GivesUp before.session after.session → before.session.snapshot.Initial manager

/-! ## The contract -/

/-- The invariant needs the assumption; a start that is followed does not. -/
def settingsContract (manager : SessionManager) (kept : Prop) (W O : Type) :
    Contract Daemon Call Response W O where
  always daemon _ := kept → daemon.session.Unused manager
  rely before _ after _ := SettingsStep before.session after.session
  assume := { access := fun before _ after =>
    kept → GivesUp before.session after.session → before.session.snapshot.Initial manager }

namespace settingsContract

variable {manager : SessionManager} {kept : Prop} {W O N : Type}
  {answer : Answer Call Call.Reply W O}

theorem quiet : (settingsContract manager kept W O).Quiet where
  rest _ _ _ _ := trivial
  unread _ _ _ _ _ := trivial
  publish _ _ _ _ good _ := ⟨trivial, good.2⟩

theorem unused_of_settingsStep {data data' : SessionData} (unused : data.Unused manager)
    (step : SettingsStep data data') : data'.Unused manager := by
  intro inactive notBurning
  rw [step.phase] at inactive notBurning
  rw [step.eq_of_inactive inactive]
  exact unused inactive notBurning

/-! ### Assertions -/

/-- The phase is that of the snapshot and, outside the active phase, so are the
settings. -/
def holding (base : SessionSnapshot) : (settingsContract manager kept W O).Assertion where
  holds daemon _ := daemon.session.snapshot.phase = base.phase ∧
    (base.phase ≠ .active → daemon.session.snapshot.SameSettings base)
  stable := by
    intro daemon _ daemon' _ _ relied _ holds
    have step : SettingsStep daemon.session daemon'.session := relied
    refine ⟨step.phase.trans holds.1, fun inactive => ?_⟩
    have same : daemon.session.snapshot.phase ≠ .active := by
      rw [holds.1]
      exact inactive
    rw [step.eq_of_inactive same]
    exact holds.2 inactive

/-- A start has been admitted with the settings of the snapshot. -/
def starting (base : SessionSnapshot) : (settingsContract manager kept W O).Assertion where
  holds daemon _ := (daemon.session.snapshot.phase = .starting ∧
    daemon.session.snapshot.SameSettings base) ∧
    ((base.phase = .idle ∨ base.phase = .failed) ∧ (kept → base.Initial manager))
  stable := by
    refine Stable.and ?_ (stable_const _)
    intro daemon _ daemon' _ _ relied _ holds
    have inactive : daemon.session.snapshot.phase ≠ .active := by
      rw [holds.1]
      exact nofun
    rw [SettingsStep.eq_of_inactive relied inactive]
    exact holds

/-- A switch is under way. -/
def switching : (settingsContract manager kept W O).Assertion where
  holds daemon _ := daemon.session.snapshot.phase = .burning ∧ daemon.session.controller.isSome
  stable := by
    intro daemon _ daemon' _ _ relied _ holds
    have step : SettingsStep daemon.session daemon'.session := relied
    rw [step.phase, step.controller]
    exact holds

/-- The session has been started, with the settings of the snapshot. -/
def started (base : SessionSnapshot) :
    Except AppError SessionSnapshot → (settingsContract manager kept W O).Assertion
  | .ok snapshot => ⟨fun _ _ => (base.phase = .idle ∨ base.phase = .failed) ∧
      snapshot.phase = .active ∧ snapshot.SameSettings base, stable_const _⟩
  | .error _ => .trivial

/-! ### Outlines of the session operations -/

/-- Calls do not touch the memory. -/
theorem call {awaits : Bool} {request : Call}
    {pre : (settingsContract manager kept W O).Assertion}
    (internal : ∀ daemon state state', pre.holds daemon state → pre.holds daemon state') :
    (settingsContract manager kept W O).Spec answer pre
      (.ask awaits request : Routine (Call.Reply request)) fun _ => pre :=
  Spec.ask quiet.toTotal fun daemon state good holds _ _ state' _ _ _ =>
    ⟨trivial, good.2, internal daemon state state' holds⟩

theorem publish {event : String} {pre : (settingsContract manager kept W O).Assertion}
    (silent : pre.Silent) :
    (settingsContract manager kept W O).Spec answer pre (SessionManager.publish event)
      fun _ => pre :=
  Spec.publish quiet (fun _ _ => trivial) silent

/-- A commit after which nothing more is known. -/
theorem commit {event : String} {update : Daemon → SessionData}
    {pre : (settingsContract manager kept W O).Assertion}
    (steps : ∀ daemon state, (kept → daemon.session.Unused manager) → pre.holds daemon state →
      (kept → GivesUp daemon.session (update daemon) →
        daemon.session.snapshot.Initial manager) →
      kept → (update daemon).Unused manager) :
    (settingsContract manager kept W O).Spec answer pre (SessionManager.commit event update)
      fun _ => .trivial :=
  Spec.commit quiet (fun _ _ _ _ _ _ => trivial) fun daemon state good holds assumed _ =>
    ⟨trivial, steps daemon state good.2 holds assumed, trivial⟩

def startOutline (base : SessionSnapshot) (client : Uuid) (url : Url) :
    StartOutline (settingsContract manager kept W O) answer manager client url (holding base)
      (started base) where
  starting _ _ _ := starting base
  launching _ _ _ := starting base
  launched _ _ _ := starting base
  stopping := starting base
  resetting := starting base
  clearing := starting base
  failing := starting base
  entry := by
    apply Spec.transactBy quiet.toTotal (beginStart_cases manager client url)
    intro daemon state good holds after outcome _ _
    cases outcome with
    | busy | blocked | conflict => exact ⟨trivial, good.2, trivial⟩
    | begun phase =>
        have inactive : daemon.session.snapshot.phase ≠ .active := by
          rcases phase with phase | phase <;> rw [phase] <;> exact nofun
        have notBurning : daemon.session.snapshot.phase ≠ .burning := by
          rcases phase with phase | phase <;> rw [phase] <;> exact nofun
        have same : daemon.session.snapshot.SameSettings base := holds.2 (holds.1 ▸ inactive)
        have unused : kept → daemon.session.snapshot.Initial manager := fun keeps =>
          good.2 keeps inactive notBurning
        refine ⟨trivial, fun keeps _ _ => ?_, ⟨rfl, ?_⟩, holds.1 ▸ phase, fun keeps => ?_⟩
        · exact ⟨(unused keeps).egress, (unused keeps).streamProfile,
            (unused keeps).autoBurnSeconds, (unused keeps).blocklistEnabled⟩
        · exact ⟨same.egress, same.streamProfile, same.autoBurnSeconds, same.blocklistEnabled⟩
        · exact same.initial_iff.mp (unused keeps)
  announce _ _ _ := publish fun _ _ _ _ holds => holds
  apply _ _ _ := Spec.split (call fun _ _ _ holds => holds)
  launch _ _ _ := Spec.split (call fun _ _ _ holds => holds)
  stop := call fun _ _ _ holds => holds
  reset := call fun _ _ _ holds => holds
  clear := call fun _ _ _ holds => holds
  fail _ := commit fun daemon _ _ holds _ keeps _ _ => by
    have initial := holds.1.2.initial_iff.mpr (holds.2.2 keeps)
    exact ⟨initial.egress, initial.streamProfile, initial.autoBurnSeconds,
      initial.blocklistEnabled⟩
  activate _ _ _ := by
    apply Spec.commit quiet fun _ _ _ _ _ holds => holds
    intro daemon state good holds _ _
    have same := holds.1.2
    refine ⟨trivial, fun _ inactive => absurd rfl inactive, holds.2.1, rfl, ?_⟩
    exact ⟨same.egress, same.streamProfile, same.autoBurnSeconds, same.blocklistEnabled⟩

theorem unused_initialData (manager : SessionManager) (now : Instant) :
    (manager.initialData now).Unused manager :=
  fun _ _ => ⟨rfl, rfl, rfl, rfl⟩

def burnOutline : BurnOutline (settingsContract manager kept W O) answer manager .trivial
    fun _ => .trivial where
  burning := .trivial
  resetting _ := .trivial
  clearing _ := .trivial
  burned _ := .trivial
  entry := by
    apply Spec.transactBy quiet.toTotal beginBurn_cases
    intro daemon state good _ after outcome _ _
    cases outcome with
    | idle => exact ⟨trivial, good.2, trivial⟩
    | burning => exact ⟨trivial, fun _ _ notBurning => absurd rfl notBurning, trivial⟩
  announce := publish fun _ _ _ _ holds => holds
  stop := Spec.split (call fun _ _ _ holds => holds)
  reset _ := Spec.split (call fun _ _ _ holds => holds)
  clear _ := Spec.split (call fun _ _ _ holds => holds)
  idle := commit fun daemon _ _ _ _ _ => unused_initialData manager daemon.now
  fail _ _ _ := commit fun _ _ _ _ _ _ _ _ => ⟨rfl, rfl, rfl, rfl⟩

/-- A change of page or activity. -/
theorem unused_of_same {data data' : SessionData} (unused : data.Unused manager)
    (phase : data'.snapshot.phase = data.snapshot.phase)
    (same : data'.snapshot.SameSettings data.snapshot) : data'.Unused manager := by
  intro inactive notBurning
  rw [phase] at inactive notBurning
  exact same.initial_iff.mpr (unused inactive notBurning)

def navigateOutline (client : Uuid) (command : NavigationCommand) :
    NavigateOutline (settingsContract manager kept W O) answer manager client command .trivial
      fun _ => .trivial where
  navigating := .trivial
  navigated := .trivial
  entry := by
    apply Spec.transactBy quiet.toTotal (beginNavigation_cases manager client command)
    intro daemon state good _ after outcome _ _
    refine ⟨trivial, ?_, ?_⟩
    · cases outcome with
      | refused | blocked | begun => exact good.2
    · cases outcome <;> trivial
  request := Spec.split (call fun _ _ _ holds => holds)
  commit := by
    refine commit fun daemon _ unused _ _ keeps => ?_
    cases command with
    | navigate url => exact unused_of_same (unused keeps) rfl ⟨rfl, rfl, rfl, rfl⟩
    | back | forward | reload | stop => exact unused keeps

def restartOutline {id : Uuid} {url : Url} {profile : StreamProfile} {mode : EgressMode} :
    RestartOutline (settingsContract manager kept W O) answer id url profile mode switching
      switching switching where
  clearing := switching
  applying := switching
  launching := switching
  reset := Spec.split (call fun _ _ _ holds => holds)
  clear := Spec.split (call fun _ _ _ holds => holds)
  apply := Spec.split (call fun _ _ _ holds => holds)
  launch := Spec.split (call fun _ _ _ holds => holds)

theorem draw : (settingsContract manager kept W O).Spec answer switching
    (sync Daemon.newUuid : Routine Uuid) fun _ => switching :=
  Spec.transact quiet.toTotal fun _ _ good holds _ _ => ⟨trivial, good.2, holds⟩

/-- Only the last section of a lost switch needs the assumption. -/
def switchOutline (client : Uuid) (mode : EgressMode) :
    SwitchOutline (settingsContract manager kept W O) answer client mode .trivial
      fun _ => .trivial where
  switching _ _ _ := switching
  stopping _ _ _ _ := switching
  resetting _ _ _ _ := switching
  switched _ _ _ _ := switching
  attempted _ _ _ := switching
  rollbackStopping _ _ _ _ := switching
  rollbackResetting _ _ _ _ := switching
  rolledBack _ _ _ _ := switching
  lost := switching
  entry := by
    apply Spec.transactBy quiet.toTotal (beginSwitch_cases client)
    intro daemon state good _ after outcome _ _
    cases outcome with
    | refused => exact ⟨trivial, good.2, trivial⟩
    | absent => exact ⟨trivial, fun _ _ notBurning => absurd rfl notBurning, trivial⟩
    | begun url lease =>
        refine ⟨trivial, fun _ _ notBurning => absurd rfl notBurning, rfl, ?_⟩
        show daemon.session.controller.isSome = true
        rw [(ensureActiveLease_eq_ok_iff.mp lease).1]
        rfl
  announce _ _ _ := publish fun _ _ _ _ holds => holds
  draw _ _ _ := draw
  stop _ _ _ _ := Spec.split (call fun _ _ _ holds => holds)
  attempt _ _ _ _ := restartOutline
  commit _ _ _ _ := commit fun _ _ _ _ _ _ inactive => absurd rfl inactive
  redraw _ _ _ := draw
  restop _ _ _ _ := call fun _ _ _ holds => holds
  rollback _ _ _ _ := restartOutline
  commitRollback _ _ _ _ _ := commit fun _ _ _ _ _ _ inactive => absurd rfl inactive
  fail _ := by
    refine commit fun daemon _ _ holds assumed keeps _ _ => ?_
    have initial := assumed keeps ⟨holds.1, rfl, holds.2⟩
    exact ⟨initial.egress, initial.streamProfile, initial.autoBurnSeconds,
      initial.blocklistEnabled⟩

/-- The settings that a start finds are whatever they are. -/
theorem start (client : Uuid) (url : Url) :
    (settingsContract manager kept W O).Spec answer .trivial (manager.start client url)
      fun _ => .trivial := by
  intro daemon state good _
  have spec : ∀ base, (settingsContract manager kept W O).Spec answer (holding base)
      (manager.start client url) fun _ => .trivial := fun base =>
    Spec.relax (startOutline base client url).sound fun _ _ _ _ _ => trivial
  exact spec _ daemon state good ⟨rfl, fun _ => .refl _⟩

theorem specs : SessionSpecs (settingsContract manager kept W O) answer manager .trivial where
  quiet := quiet
  reflexive _ _ := trivial
  atRest _ _ := Iff.rfl
  finish _ _ _ := Iff.rfl
  start := start
  forceBurn := burnOutline.sound
  navigate client command := (navigateOutline client command).sound
  switchEgress client mode := (switchOutline client mode).sound

theorem blind : Blind (settingsContract manager kept W O) answer .trivial where
  auth _ _ _ _ good _ _ _ := ⟨trivial, good.2, trivial⟩
  pairingFile _ _ _ _ _ _ good _ _ _ _ := ⟨trivial, good.2, trivial⟩

theorem interference (world : N → Daemon → W → Option W) :
    Interference (settingsContract manager kept W O) world where
  request _ _ _ good step _ _ :=
    ⟨step.session, fun keeps => unused_of_settingsStep (good.2 keeps) step.session⟩
  clock _ _ _ _ good _ _ := ⟨.same, good.2⟩
  world _ _ _ _ good _ _ := ⟨.same, good.2⟩

/-- The response of a start that has succeeded. -/
def responded (base : SessionSnapshot) :
    Response → (settingsContract manager kept W O).Assertion
  | .snapshot result => started base result
  | _ => .trivial

/-- A start through the application state. -/
theorem lifecycleStart (app : AppState) (base : SessionSnapshot) (context : AuthContext)
    (url : Url) :
    (settingsContract app.sessions kept W O).Spec answer (holding base)
      (app.lifecycle (.startSession context url)) (responded base) := by
  have validate : (settingsContract app.sessions kept W O).Spec answer (holding base)
      (AppState.validateContext context) fun _ => holding base :=
    Spec.transact quiet.toTotal fun _ _ good holds _ _ => ⟨trivial, good.2, holds⟩
  have started : (settingsContract app.sessions kept W O).Spec answer (holding base)
      (app.startSession context url) (started base) :=
    Spec.andThen (Spec.split validate) (fun _ _ _ _ _ => trivial) fun _ =>
      (startOutline base context.clientId url).sound
  apply Spec.bind started
  exact fun _ => Spec.done fun _ _ _ holds => holds

end settingsContract

/-! ## The result -/

section Runs

variable {app : AppState} {W O N : Type} {answer : Answer Call Call.Reply W O}
  {world : N → Daemon → W → Option W} {daemon : Daemon} {state : W}
  {config config' : Config Daemon Call Call.Reply Response W}

/-- In a run that gives up on switches in sessions with initial settings only, a
session that is not in use has initial settings. -/
theorem unused_of_reaches (booted : app.Booted daemon)
    (reaches : (app.service answer world).ReachesUnder (initialGivenUp app.sessions W O)
      (.idle daemon state) config) : config.memory.session.Unused app.sessions := by
  have established : (settingsContract app.sessions True W O).Established
      (app.service answer world) :=
    settingsContract.specs.established_service settingsContract.blind
      (settingsContract.interference world)
  have initial : (settingsContract app.sessions True W O).Holds answer
      (.idle daemon state : Config Daemon Call Call.Reply Response W) := by
    have unused : daemon.session.Unused app.sessions := by
      rw [booted.session]
      exact settingsContract.unused_initialData _ _
    constructor
    · exact ⟨trivial, fun _ => unused⟩
    · exact fun _ => trivial
    · rintro program ⟨⟩
    · rintro program ⟨⟩
  have assumed : (app.service answer world).ReachesUnder
      (settingsContract app.sessions True W O).assume (.idle daemon state) config := by
    refine reaches.mono fun _ _ admitted => Assumptions.Allowed.mono ?_ ?_ ?_ admitted
    · exact fun _ _ _ assumed _ => assumed
    · exact fun _ _ _ _ assumed => assumed
    · exact fun _ _ _ assumed => assumed
  exact (established.sound initial (fun _ _ => trivial) assumed).good.2 trivial

/-- A start that succeeds passes on the settings that it finds; in every run that
gives up on switches in sessions with initial settings only, these are initial. -/
theorem start_settings_of_reaches {context : AuthContext} {url : Url}
    {labels : List (Pool.Label Lifecycle Request (Environment N) O)} {snapshot : SessionSnapshot}
    (booted : app.Booted daemon)
    (reaches : (app.service answer world).Reaches (.idle daemon state) config)
    (executed : run (app.service answer world).step config
      (.start (.startSession context url) :: labels) = some config')
    (continues : ∀ label ∈ labels, label.Continues)
    (finished : config'.holder = some (.done (.snapshot (.ok snapshot)))) :
    snapshot.phase = .active ∧
      (snapshot.Initial app.sessions ↔ config.memory.session.snapshot.Initial app.sessions) ∧
      ((app.service answer world).ReachesUnder (initialGivenUp app.sessions W O)
        (.idle daemon state) config → snapshot.Initial app.sessions) := by
  have spec : (settingsContract app.sessions False W O).Spec answer
      (settingsContract.holding config.memory.session.snapshot)
      (app.lifecycle (.startSession context url)) (settingsContract.responded _) :=
    settingsContract.lifecycleStart app _ context url
  have framed : ∀ {visited}, (app.service answer world).Reaches (.idle daemon state) visited →
      visited.Framed LifecycleStep RequestStep := fun visit =>
    (service_framed app answer world).reaches (.idle daemon state) visit
  have returned := spec.follow (app.service answer world)
    ((app.service answer world).Reaches (.idle daemon state)) executed continues finished
    ⟨rfl, fun _ => .refl _⟩ reaches (fun _ _ _ visited step => visited.tail trivial step)
    (fun _ _ => ⟨trivial, False.elim⟩)
    (fun _ _ _ => (Assumptions.free_allowed _ _).mono (fun _ _ _ _ => False.elim)
      (fun _ _ _ _ _ => trivial) fun _ _ _ _ => trivial)
    fun label member foreign _ _ visited step =>
      (foreign_of_step (framed visited) (continues label member) foreign step).session
  rcases returned with ⟨free, active, settings⟩
  refine ⟨active, settings.initial_iff, fun under => settings.initial_iff.mpr ?_⟩
  have unused := unused_of_reaches booted under
  rcases free with idle | failed
  · exact unused (by rw [idle]; exact nofun) (by rw [idle]; exact nofun)
  · exact unused (by rw [failed]; exact nofun) (by rw [failed]; exact nofun)

end Runs

namespace Sample

/-- A check that no step gives up on a switch. -/
def givesUpNever {W O N : Type}
    (pool : Pool Daemon Call Call.Reply Response W O Lifecycle Request N)
    (config : Config Daemon Call Call.Reply Response W)
    (label : Pool.Label Lifecycle Request N O) : Bool :=
  (pool.step config label).all fun config' =>
    !(config.memory.session.snapshot.phase == .burning &&
      config'.memory.session.snapshot.phase == .failed &&
      config'.memory.session.controller.isSome)

theorem not_givesUp_of_check {W O N : Type}
    {pool : Pool Daemon Call Call.Reply Response W O Lifecycle Request N}
    {config config' : Config Daemon Call Call.Reply Response W}
    {label : Pool.Label Lifecycle Request N O} (checked : givesUpNever pool config label = true)
    (step : pool.step config label = some config') :
    ¬ GivesUp config.memory.session config'.memory.session := by
  intro givesUp
  unfold givesUpNever at checked
  rw [step] at checked
  have held := givesUp.held
  simp [givesUp.burning, givesUp.failed] at checked
  rw [checked] at held
  cases held

theorem initialGivenUp_of_check {W O N : Type} (manager : SessionManager)
    (pool : Pool Daemon Call Call.Reply Response W O Lifecycle Request N)
    (config : Config Daemon Call Call.Reply Response W)
    (label : Pool.Label Lifecycle Request N O) (checked : givesUpNever pool config label = true) :
    (initialGivenUp manager W O).Allowed config label := by
  cases label with
  | step outcome =>
      intro program running
      cases program with
      | done _ => trivial
      | call _ _ _ => exact fun _ _ => trivial
      | access awaits update next =>
          have step : pool.step config (.step outcome) =
              some { config with memory := update config.memory
                                 holder := some (next config.memory) } := by
            simp [Pool.step, running, Program.advance]
          exact fun givesUp => absurd givesUp (not_givesUp_of_check checked step)
  | stepTask index outcome =>
      intro program running
      cases program with
      | done _ => trivial
      | call _ _ _ => exact fun _ _ => trivial
      | access awaits update next =>
          have step : pool.step config (.stepTask index outcome) =
              some { config with memory := update config.memory
                                 tasks := config.tasks.set index (next config.memory) } := by
            simp [Pool.step, running, Program.advance]
          exact fun givesUp => absurd givesUp (not_givesUp_of_check checked step)
  | drop outcome =>
      intro program _
      cases program <;> trivial
  | start | finish | spawn | dropTask | noise => trivial

/-- The first client turns the policy off. -/
def unblocks : List (ServiceLabel Bool Empty) :=
  [.finish, .spawn (.setBlocklistEnabled 0 false), .stepTask 1 none, .stepTask 1 none]

/-- A switch whose attempt and whose rollback both fail. -/
def lostSwitch : List (ServiceLabel Bool Empty) :=
  .start (.switchEgress ⟨0, 1⟩ 1 .tor) :: List.replicate 6 (.step none) ++
    [.step (some false), .step none, .step (some true), .step (some false)] ++
    List.replicate 2 (.step none) ++ [.finish]

/-- A burn, after which the second client is paired. -/
def handsOver : List (ServiceLabel Bool Empty) :=
  .start (.burnControllerSession ⟨0, 1⟩ 1) :: List.replicate 14 (.step (some true)) ++
    [.finish, .spawn (.exchangePairing (Encoding.urlSafeNoPad (bytes 3))), .stepTask 2 none]

/-- A start that runs to its end. -/
def starts (context : AuthContext) : List (ServiceLabel Bool Empty) :=
  .start (.startSession context (url "example.com")) :: List.replicate 8 (.step (some true))

end Sample

/-- The policy that the first session turned off is off in the next session, when
a switch has been given up in between. -/
theorem not_initial_of_lostSwitch :
    ¬ ∀ (config config' : Config Daemon Call Call.Reply Response Unit) (context : AuthContext)
        (url : Url) (labels : List (Sample.ServiceLabel Bool Empty)) (snapshot : SessionSnapshot),
      (Sample.app.service Sample.told AppState.still).Reaches (.idle Sample.daemon ()) config →
      run (Sample.app.service Sample.told AppState.still).step config
        (.start (.startSession context url) :: labels) = some config' →
      (∀ label ∈ labels, label.Continues) →
      config'.holder = some (.done (.snapshot (.ok snapshot))) →
      snapshot.Initial Sample.app.sessions := by
  intro always
  have executed : ((run (Sample.app.service Sample.told AppState.still).step
      (.idle Sample.daemon ()) (Sample.openSession true 8 ++ Sample.unblocks ++
        Sample.lostSwitch)).bind fun config =>
          (run (Sample.app.service Sample.told AppState.still).step config
            (Sample.starts ⟨0, 1⟩)).map fun config' =>
              (config'.result.bind Response.shown).map SessionSnapshot.blocklistEnabled) =
      some (some false) := by
    decide +kernel
  rcases Option.bind_eq_some_iff.mp executed with ⟨config, reached, rest⟩
  rcases Option.map_eq_some_iff.mp rest with ⟨config', started, value⟩
  rcases Option.map_eq_some_iff.mp value with ⟨snapshot, told, disabled⟩
  rcases Option.bind_eq_some_iff.mp told with ⟨response, finished, shown⟩
  rw [Response.eq_of_shown shown] at finished
  have initial := always config config' _ _ _ snapshot (reachable_of_run reached) started
    (by simp [Pool.Label.Continues]) (Config.holder_of_result finished)
  rw [initial.blocklistEnabled] at disabled
  cases disabled

/-- The second client's session is protected, although the first one turned its
policy off. -/
theorem start_settings_of_handsOver :
    ∃ (config' : Config Daemon Call Call.Reply Response Unit) (snapshot : SessionSnapshot),
      config'.holder = some (.done (.snapshot (.ok snapshot))) ∧
        snapshot.Initial Sample.app.sessions := by
  have executed : ((run (guarded (Sample.app.service Sample.told AppState.still).step
      (Sample.givesUpNever (Sample.app.service Sample.told AppState.still)))
      (.idle Sample.daemon ()) (Sample.openSession true 8 ++ Sample.unblocks ++
        Sample.handsOver)).bind fun config =>
          (run (Sample.app.service Sample.told AppState.still).step config
            (Sample.starts ⟨2, 2⟩)).map fun config' =>
              (config'.result.bind Response.shown).isSome) = some true := by
    decide +kernel
  rcases Option.bind_eq_some_iff.mp executed with ⟨config, reached, rest⟩
  rcases Option.map_eq_some_iff.mp rest with ⟨config', started, value⟩
  rcases Option.isSome_iff_exists.mp value with ⟨snapshot, told⟩
  rcases Option.bind_eq_some_iff.mp told with ⟨response, finished, shown⟩
  rw [Response.eq_of_shown shown] at finished
  have under := reachableUnder_of_run
    (Sample.initialGivenUp_of_check Sample.app.sessions _) reached
  have settings := start_settings_of_reaches Sample.daemon_booted under.reachable started
    (by simp [Pool.Label.Continues]) (Config.holder_of_result finished)
  exact ⟨config', snapshot, Config.holder_of_result finished, settings.2.2 under⟩

end XanhTab
