import XanhTab.Daemon.Backends
import XanhTab.Daemon.Establish

/-!
# Residue of earlier sessions

Which files a session finds in the runtime directory.  A burn that reports the
phase idle has stopped the browser and emptied the directory, so a start from
idle finds nothing there.  A start from failed does not look: it finds what a
failed cleanup has left, or what a browser that could not be stopped has
written since.
-/

namespace XanhTab

open Program Contract Transition

/-! ## Files over time -/

/-- Files are only ever created anew. -/
structure Backends.Grows (before after : Backends) : Prop where
  created : before.created ≤ after.created
  files : ∀ file ∈ after.files, file ∈ before.files ∨
    (before.created ≤ file.number ∧ file.number < after.created)

namespace Backends

variable {before middle after : Backends}

theorem Grows.refl (backends : Backends) : backends.Grows backends :=
  ⟨Nat.le_refl _, fun _ member => Or.inl member⟩

theorem Grows.of_subset (created : after.created = before.created)
    (files : after.files ⊆ before.files) : before.Grows after where
  created := Nat.le_of_eq created.symm
  files _ member := Or.inl (files member)

theorem Grows.trans (first : before.Grows middle) (second : middle.Grows after) :
    before.Grows after where
  created := Nat.le_trans first.created second.created
  files file member := by
    rcases second.files file member with old | ⟨lower, upper⟩
    · rcases first.files file old with older | ⟨lower, upper⟩
      · exact Or.inl older
      · exact Or.inr ⟨lower, Nat.lt_of_lt_of_le upper second.created⟩
    · exact Or.inr ⟨Nat.le_trans first.created lower, upper⟩

/-- What one call or accident does to browsers and files: without a browser
nothing is created. -/
structure Leaves (before after : Backends) : Prop where
  grows : before.Grows after
  still : before.browsers = [] → after.browsers = [] ∧ after.files ⊆ before.files

theorem leaves_of_accident {event : Accident} {daemon : Daemon}
    (happened : accident event daemon before = some after) : before.Leaves after := by
  cases event with
  | exit left =>
      simp only [accident] at happened
      split at happened
      · rename_i remain
        cases happened
        refine ⟨.of_subset rfl (List.Subset.refl _), fun empty => ⟨?_, List.Subset.refl _⟩⟩
        rw [empty] at remain
        exact List.subset_nil.mp remain
      · cases happened
  | create =>
      simp only [accident] at happened
      split at happened
      · cases happened
      · rename_i running
        cases happened
        refine ⟨⟨Nat.le_succ _, fun file member => ?_⟩, fun empty => absurd empty running⟩
        rcases List.mem_append.mp member with old | new
        · exact Or.inl old
        · rw [List.mem_singleton.mp new]
          exact Or.inr ⟨Nat.le_refl _, Nat.lt_succ_self _⟩
  | remove left =>
      simp only [accident] at happened
      split at happened
      · rename_i remain
        cases happened
        exact ⟨.of_subset rfl remain, fun empty => ⟨empty, remain⟩⟩
      · cases happened

/-- Calls remove files at most. -/
theorem grows_of_answers {call : Call} {reply : call.Reply}
    (answered : Answers call before reply after) : before.Grows after := by
  cases call with
  | browserStart | browserStop | browserNavigate =>
      cases reply with
      | ok _ => cases answered; exact .of_subset rfl (List.Subset.refl _)
      | error _ => rcases answered with ⟨_, _, rfl⟩; exact .of_subset rfl (List.Subset.refl _)
  | egressApply | egressReset | writePairingFile =>
      cases reply <;> cases answered <;> exact .of_subset rfl (List.Subset.refl _)
  | clearRuntimeDir =>
      cases reply with
      | ok _ => cases answered; exact .of_subset rfl (List.nil_subset _)
      | error _ => rcases answered with ⟨_, remain, rfl⟩; exact .of_subset rfl remain

end Backends

/-! ## The contract -/

/-- The section begins a session. -/
def Begins (before after : Daemon) : Prop :=
  before.session.snapshot.phase ≠ .starting ∧ after.session.snapshot.phase = .starting

/-- A start from the phase failed finds the runtime directory empty. -/
def cleanStarts : Assumptions Daemon Call Backends Effect where
  access before backends after :=
    before.session.snapshot.phase = .failed → Begins before after → backends.files = []

/-- No browser is running, and the directory is empty. -/
def Backends.Clean (backends : Backends) : Prop :=
  backends.browsers = [] ∧ backends.files = []

def residueContract : Contract Daemon Call Response Backends Effect where
  always daemon backends := daemon.session.snapshot.phase = .idle → backends.Clean
  rely before backends after backends' := SettingsStep before.session after.session ∧
    backends.Leaves backends'
  guarantee before backends after backends' :=
    (Begins before after → backends.files = []) ∧ backends.Grows backends'
  assume := cleanStarts

namespace residueContract

/-- A section that neither begins a session nor touches the backends. -/
theorem unchanged {before after : Daemon} {backends : Backends} (steady : ¬ Begins before after) :
    residueContract.guarantee before backends after backends :=
  ⟨fun begins => absurd begins steady, .refl backends⟩

theorem not_begins_of_session {before after : Daemon} (same : after.session = before.session) :
    ¬ Begins before after := by
  rintro ⟨busy, starting⟩
  rw [same] at starting
  exact busy starting

theorem quiet : residueContract.Quiet where
  rest _ _ _ _ := trivial
  unread _ _ _ _ _ := trivial
  publish _ _ _ _ good _ := ⟨unchanged (not_begins_of_session rfl), good.2⟩

/-! ### Assertions -/

/-- An operation is under way. -/
def busy : residueContract.Assertion where
  holds daemon _ := daemon.session.snapshot.phase ≠ .idle
  stable := by
    intro _ _ _ _ _ relied _ holds
    rw [relied.1.phase]
    exact holds

/-- A navigation is under way. -/
def active : residueContract.Assertion where
  holds daemon _ := daemon.session.snapshot.phase = .active
  stable := by
    intro _ _ _ _ _ relied _ holds
    rw [relied.1.phase]
    exact holds

/-- As long as nothing has failed, no browser is running. -/
def stopped (failures : List String) : residueContract.Assertion where
  holds daemon backends := busy.holds daemon backends ∧ (failures = [] → backends.browsers = [])
  stable := by
    refine Stable.and busy.stable ?_
    intro _ _ _ _ _ relied _ holds clean
    exact (relied.2.still (holds clean)).1

/-- As long as nothing has failed, nothing is left. -/
def cleared (failures : List String) : residueContract.Assertion where
  holds daemon backends := busy.holds daemon backends ∧ (failures = [] → backends.Clean)
  stable := by
    refine Stable.and busy.stable ?_
    intro _ before _ after _ relied _ holds clean
    rcases holds clean with ⟨browsers, files⟩
    have still := relied.2.still browsers
    rw [files] at still
    exact ⟨still.1, List.subset_nil.mp still.2⟩

/-! ### Steps -/

/-- A call within an operation, from what its reply says. -/
theorem call {awaits : Bool} {request : Call} {pre : residueContract.Assertion}
    {post : Call.Reply request → residueContract.Assertion}
    (working : ∀ daemon backends, pre.holds daemon backends →
      daemon.session.snapshot.phase ≠ .idle)
    (steps : ∀ reply daemon before after, pre.holds daemon before →
      Backends.Answers request before reply after → (post reply).holds daemon after) :
    residueContract.Spec Backends.answer pre
      (.ask awaits request : Routine (Call.Reply request)) post := by
  apply Spec.ask quiet.toTotal
  intro daemon before good satisfied effect reply after answered _ _
  have answers := Backends.answers_of_answer answered
  refine ⟨⟨fun begins => absurd begins (not_begins_of_session rfl),
    Backends.grows_of_answers answers⟩, ?_, steps reply daemon before after satisfied answers⟩
  exact fun idle => absurd idle (working daemon before satisfied)

/-- A call of which nothing is remembered. -/
theorem busyCall {awaits : Bool} {request : Call} :
    residueContract.Spec Backends.answer busy
      (.ask awaits request : Routine (Call.Reply request)) fun _ => busy :=
  call (fun _ _ holds => holds) fun _ _ _ _ holds _ => holds

theorem publish {event : String} {pre : residueContract.Assertion} (silent : pre.Silent) :
    residueContract.Spec Backends.answer pre (SessionManager.publish event) fun _ => pre :=
  Spec.publish quiet (fun _ _ => unchanged (not_begins_of_session rfl)) silent

/-- A commit that leads neither to starting nor, with anything left, to idle. -/
theorem commit {event : String} {update : Daemon → SessionData}
    {pre : residueContract.Assertion}
    (settled : ∀ daemon backends, pre.holds daemon backends →
      (update daemon).snapshot.phase ≠ .starting)
    (idle : ∀ daemon backends, pre.holds daemon backends →
      (update daemon).snapshot.phase = .idle → backends.Clean) :
    residueContract.Spec Backends.answer pre (SessionManager.commit event update)
      fun _ => .trivial :=
  Spec.commit quiet (fun _ _ _ _ _ _ => trivial) fun daemon backends _ satisfied _ _ =>
    ⟨unchanged fun begins => settled daemon backends satisfied begins.2,
      idle daemon backends satisfied, trivial⟩

/-- A commit of a fixed phase. -/
theorem commitPhase {event : String} {update : Daemon → SessionData} (phase : SessionPhase)
    (sets : ∀ daemon, (update daemon).snapshot.phase = phase) (settled : phase ≠ .starting)
    (active : phase ≠ .idle) :
    residueContract.Spec Backends.answer busy (SessionManager.commit event update)
      fun _ => .trivial := by
  apply commit
  · intro daemon _ _
    rw [sets]
    exact settled
  · intro daemon _ _ idle
    rw [sets] at idle
    exact absurd idle active

/-! ### Outlines of the session operations -/

def startOutline (manager : SessionManager) (client : Uuid) (url : Url) :
    StartOutline residueContract Backends.answer manager client url .trivial
      fun _ => .trivial where
  starting _ _ _ := busy
  launching _ _ _ := busy
  launched _ _ _ := busy
  stopping := busy
  resetting := busy
  clearing := busy
  failing := busy
  entry := by
    apply Spec.transactBy quiet.toTotal (beginStart_cases manager client url)
    intro daemon backends good _ after outcome assumed _
    cases outcome with
    | busy _ _ => exact ⟨unchanged (not_begins_of_session rfl), good.2, trivial⟩
    | blocked _ => exact ⟨unchanged (not_begins_of_session rfl), good.2, trivial⟩
    | conflict _ _ _ => exact ⟨unchanged (not_begins_of_session rfl), good.2, trivial⟩
    | begun phase _ _ =>
        refine ⟨⟨fun begins => ?_, .refl backends⟩, nofun, nofun⟩
        rcases phase with idle | failed
        · exact (good.2 idle).2
        · exact assumed failed begins
  announce _ _ _ := publish fun _ _ _ _ holds => holds
  apply _ _ _ := Spec.split busyCall
  launch _ _ _ := Spec.split busyCall
  stop := busyCall
  reset := busyCall
  clear := busyCall
  fail message := commitPhase .failed (fun _ => rfl) nofun nofun
  activate _ _ _ := commitPhase .active (fun _ => rfl) nofun nofun

def burnOutline (manager : SessionManager) :
    BurnOutline residueContract Backends.answer manager .trivial fun _ => .trivial where
  burning := busy
  resetting := stopped
  clearing := stopped
  burned := cleared
  entry := by
    apply Spec.transactBy quiet.toTotal beginBurn_cases
    intro daemon backends good _ after outcome _ _
    cases outcome with
    | idle _ => exact ⟨unchanged (not_begins_of_session rfl), good.2, trivial⟩
    | burning _ =>
        refine ⟨unchanged (fun begins => nomatch begins.2), (fun idle => nomatch idle), ?_⟩
        exact fun idle => nomatch idle
  announce := publish fun _ _ _ _ holds => holds
  stop := by
    apply call fun _ _ holds => holds
    intro reply daemon before after holds answered
    cases reply with
    | ok _ => exact ⟨holds, fun _ => by rw [answered]⟩
    | error _ => exact ⟨holds, nofun⟩
  reset failures := by
    apply call fun _ _ (holds : (stopped failures).holds _ _) => holds.1
    intro reply daemon before after holds answered
    cases reply <;> cases answered
    · exact ⟨holds.1, fun clean => by simp at clean⟩
    · exact holds
  clear failures := by
    apply call fun _ _ (holds : (stopped failures).holds _ _) => holds.1
    intro reply daemon before after holds answered
    cases reply with
    | ok _ =>
        cases answered
        exact ⟨holds.1, fun clean => ⟨holds.2 clean, rfl⟩⟩
    | error _ => exact ⟨holds.1, fun clean => by simp at clean⟩
  idle := commit (fun _ _ _ => nofun) fun _ _ holds _ => holds.2 rfl
  fail _ _ message := by
    apply Spec.weaken (commitPhase .failed (fun _ => rfl) nofun nofun)
    exact fun _ _ _ holds => holds.1

def navigateOutline (manager : SessionManager) (client : Uuid) (command : NavigationCommand) :
    NavigateOutline residueContract Backends.answer manager client command .trivial
      fun _ => .trivial where
  navigating := active
  navigated := active
  entry := by
    apply Spec.transactBy quiet.toTotal (beginNavigation_cases manager client command)
    intro daemon backends good _ after outcome _ _
    cases outcome with
    | refused _ _ => exact ⟨unchanged (not_begins_of_session rfl), good.2, trivial⟩
    | blocked _ _ _ _ => exact ⟨unchanged (fun begins => begins.1 begins.2), good.2, trivial⟩
    | begun lease _ =>
        exact ⟨unchanged (fun begins => begins.1 begins.2), good.2,
          (ensureActiveLease_eq_ok_iff.mp lease).2⟩
  request := by
    apply call
    · intro daemon _ holds idle
      rw [show daemon.session.snapshot.phase = .active from holds] at idle
      cases idle
    · intro reply _ _ _ holds _
      cases reply with
      | ok _ => exact holds
      | error _ => trivial
  commit := by
    have kept : ∀ daemon : Daemon, (daemon.session.navigated command daemon.utc).snapshot.phase =
        daemon.session.snapshot.phase := by
      intro daemon
      cases command <;> rfl
    apply commit
    · intro daemon _ holds
      rw [kept, show daemon.session.snapshot.phase = .active from holds]
      nofun
    · intro daemon _ holds idle
      rw [kept, show daemon.session.snapshot.phase = .active from holds] at idle
      cases idle

def restartOutline (id : Uuid) (url : Url) (profile : StreamProfile) (mode : EgressMode) :
    RestartOutline residueContract Backends.answer id url profile mode busy busy busy where
  clearing := busy
  applying := busy
  launching := busy
  reset := Spec.split busyCall
  clear := Spec.split busyCall
  apply := Spec.split busyCall
  launch := Spec.split busyCall

theorem draw :
    residueContract.Spec Backends.answer busy (sync Daemon.newUuid : Routine Uuid)
      fun _ => busy :=
  Spec.transact quiet.toTotal fun _ _ good satisfied _ _ =>
    ⟨unchanged (not_begins_of_session rfl), good.2, satisfied⟩

def switchOutline (client : Uuid) (mode : EgressMode) :
    SwitchOutline residueContract Backends.answer client mode .trivial fun _ => .trivial where
  switching _ _ _ := busy
  stopping _ _ _ _ := busy
  resetting _ _ _ _ := busy
  switched _ _ _ _ := busy
  attempted _ _ _ := busy
  rollbackStopping _ _ _ _ := busy
  rollbackResetting _ _ _ _ := busy
  rolledBack _ _ _ _ := busy
  lost := busy
  entry := by
    apply Spec.transactBy quiet.toTotal (beginSwitch_cases client)
    intro daemon backends good _ after outcome _ _
    cases outcome with
    | refused _ _ => exact ⟨unchanged (not_begins_of_session rfl), good.2, trivial⟩
    | absent _ _ =>
        exact ⟨unchanged (fun begins => nomatch begins.2), (fun idle => nomatch idle), trivial⟩
    | begun _ _ _ =>
        refine ⟨unchanged (fun begins => nomatch begins.2), (fun idle => nomatch idle), ?_⟩
        exact fun idle => nomatch idle
  announce _ _ _ := publish fun _ _ _ _ holds => holds
  draw _ _ _ := draw
  stop _ _ _ _ := Spec.split busyCall
  attempt id url profile _ := restartOutline id url profile mode
  commit _ _ _ _ := commitPhase .active (fun _ => rfl) nofun nofun
  redraw _ _ _ := draw
  restop _ _ _ _ := busyCall
  rollback id url profile previous := restartOutline id url profile previous
  commitRollback _ _ _ _ _ := commitPhase .active (fun _ => rfl) nofun nofun
  fail _ := commitPhase .failed (fun _ => rfl) nofun nofun

theorem specs (manager : SessionManager) :
    SessionSpecs residueContract Backends.answer manager .trivial where
  quiet := quiet
  reflexive _ _ := unchanged (not_begins_of_session rfl)
  atRest _ _ := Iff.rfl
  finish _ _ _ := Iff.rfl
  start client url := (startOutline manager client url).sound
  forceBurn := (burnOutline manager).sound
  navigate client command := (navigateOutline manager client command).sound
  switchEgress client mode := (switchOutline client mode).sound

theorem blind : Blind residueContract Backends.answer .trivial where
  auth _ _ _ _ good _ _ _ := ⟨unchanged (not_begins_of_session rfl), good.2, trivial⟩
  pairingFile body outcome reply daemon before after good _ answered _ _ := by
    have equal : after = before := Backends.answers_of_answer answered
    subst after
    exact ⟨unchanged (not_begins_of_session rfl), good.2, trivial⟩

theorem interference : Interference residueContract Backends.accident where
  request daemon backends daemon' good step _ _ := by
    refine ⟨⟨step.session, .refl backends, fun empty => ⟨empty, List.Subset.refl _⟩⟩, ?_⟩
    intro idle
    rw [step.session.phase] at idle
    exact good.2 idle
  clock _ backends _ _ good _ _ :=
    ⟨⟨.same, .refl backends, fun empty => ⟨empty, List.Subset.refl _⟩⟩, good.2⟩
  world event daemon before after good happened _ := by
    have leaves := Backends.leaves_of_accident happened
    refine ⟨⟨.same, leaves⟩, fun idle => ?_⟩
    rcases good.2 idle with ⟨browsers, files⟩
    have still := leaves.still browsers
    rw [files] at still
    exact ⟨still.1, List.subset_nil.mp still.2⟩

theorem established (app : AppState) :
    residueContract.Established (app.service Backends.answer Backends.accident) :=
  (specs app.sessions).established_service blind interference

end residueContract

/-! ## The result -/

section Runs

variable {app : AppState} {daemon : Daemon} {policy : Option EgressMode}
  {config config' : Config Daemon Call Call.Reply Response Backends}

theorem residueContract.initial :
    residueContract.Holds Backends.answer
      (.idle daemon { policy } : Config Daemon Call Call.Reply Response Backends) := by
  constructor
  · exact ⟨trivial, fun _ => ⟨rfl, rfl⟩⟩
  · exact fun _ => trivial
  · rintro program ⟨⟩
  · rintro program ⟨⟩

theorem grows_of_reaches
    (reaches : (app.service Backends.answer Backends.accident).ReachesUnder cleanStarts
      (.idle daemon { policy }) config)
    (later : (app.service Backends.answer Backends.accident).ReachesUnder cleanStarts
      config config') :
    config.world.Grows config'.world := by
  induction later with
  | refl => exact .refl _
  | tail reached admitted step ih =>
      refine ih.trans ?_
      rcases (residueContract.established app).moves residueContract.initial
        (fun _ _ => trivial) (reaches.trans reached) admitted step with relied | kept | ⟨_, same⟩
      · exact relied.2.grows
      · exact kept.2
      · rw [same]
        exact .refl _

/-- A step that begins a session finds the directory empty. -/
theorem cleared_of_begins {label : Sample.ServiceLabel Effect Accident}
    (reaches : (app.service Backends.answer Backends.accident).ReachesUnder cleanStarts
      (.idle daemon { policy }) config)
    (admitted : cleanStarts.Allowed config label)
    (step : (app.service Backends.answer Backends.accident).step config label = some config')
    (begins : Begins config.memory config'.memory) : config.world.files = [] := by
  rcases (residueContract.established app).moves residueContract.initial
    (fun _ _ => trivial) reaches admitted step with relied | kept | ⟨same, _⟩
  · have phase := relied.1.phase
    rw [begins.2] at phase
    exact absurd phase.symm begins.1
  · exact kept.1 begins
  · rw [same] at begins
    exact absurd begins.2 begins.1

/-- In a run in which every start from the phase failed finds the runtime
directory empty, no session finds there what was created before it began: a
file that was there at some step, before a session began, is gone at every
step after that session has begun. -/
theorem residue_cleared_of_cleanStarts {file : RuntimeFile}
    {earlier before after later : Config Daemon Call Call.Reply Response Backends}
    {label : Sample.ServiceLabel Effect Accident}
    (reaches : (app.service Backends.answer Backends.accident).ReachesUnder cleanStarts
      (.idle daemon { policy }) earlier)
    (present : file ∈ earlier.world.files)
    (onwards : (app.service Backends.answer Backends.accident).ReachesUnder cleanStarts
      earlier before)
    (admitted : cleanStarts.Allowed before label)
    (step : (app.service Backends.answer Backends.accident).step before label = some after)
    (begins : Begins before.memory after.memory)
    (afterwards : (app.service Backends.answer Backends.accident).ReachesUnder cleanStarts
      after later) :
    file ∉ later.world.files := by
  have old : file.number < before.world.created := by
    rcases (grows_of_reaches .refl reaches).files file present with initial | ⟨_, upper⟩
    · exact nomatch initial
    · exact Nat.lt_of_lt_of_le upper (grows_of_reaches reaches onwards).created
  have begun : before.world.Grows later.world :=
    grows_of_reaches (reaches.trans onwards)
      ((ReachableUnder.single admitted step).trans afterwards)
  have empty := cleared_of_begins (reaches.trans onwards) admitted step begins
  intro member
  rcases begun.files file member with kept | ⟨lower, _⟩
  · rw [empty] at kept
    exact nomatch kept
  · exact absurd old (Nat.not_lt_of_le lower)

end Runs

namespace Sample

/-- The first client starts a session, and its browser creates a file. -/
def residue : List (ServiceLabel Effect Accident) :=
  openSession .succeeds 8 ++ [.finish, .noise (.world .create)]

/-- The first client burns its session, with a cleanup that leaves the given
files, and the next one is about to begin a session. -/
def replaced (clear : Effect) : List (ServiceLabel Effect Accident) :=
  .start (.burnControllerSession ⟨0, 1⟩ 1) :: List.replicate 8 (.step (some .succeeds)) ++
    .step (some clear) :: List.replicate 5 (.step (some .succeeds)) ++
    [.finish, .spawn (.exchangePairing (Encoding.urlSafeNoPad (bytes 3))), .stepTask 1 none,
      .start (.startSession ⟨2, 2⟩ (url "example.org")), .step none]

/-- Nothing has failed, or the directory is empty. -/
def swept (config : Config Daemon Call Call.Reply Response Backends)
    (_ : ServiceLabel Effect Accident) : Bool :=
  config.memory.session.snapshot.phase ≠ .failed ∨ config.world.files = []

theorem swept_allowed (config : Config Daemon Call Call.Reply Response Backends)
    (label : ServiceLabel Effect Accident) (swept : swept config label = true) :
    cleanStarts.Allowed config label := by
  have clean := of_decide_eq_true swept
  have accesses : ∀ memory', cleanStarts.access config.memory config.world memory' :=
    fun _ failed _ => clean.resolve_left fun fine => fine failed
  have steps : ∀ (outcome : Option Effect) (program : Routine Response),
      cleanStarts.OfStep outcome config.memory config.world program := by
    intro outcome program
    cases program with
    | done _ => trivial
    | access _ _ _ => exact accesses _
    | call _ _ _ => exact fun _ _ => trivial
  cases label with
  | step outcome => exact fun program _ => steps outcome program
  | stepTask index outcome => exact fun program _ => steps outcome program
  | drop outcome =>
      intro program _
      cases program <;> trivial
  | _ => trivial

end Sample

/-- The second session does not find the file of the first one. -/
theorem residue_cleared_of_replaced :
    ∃ earlier later : Config Daemon Call Call.Reply Response Backends,
      ⟨0, some 1⟩ ∈ earlier.world.files ∧ later.memory.session.snapshot.id = some 3 ∧
      later.memory.session.snapshot.phase = .active ∧ ⟨0, some 1⟩ ∉ later.world.files := by
  let next := (Sample.app.service Backends.answer Backends.accident).step
  have executed : ((run (guarded next Sample.swept) (.idle Sample.daemon {})
      Sample.residue).bind fun earlier =>
        (run (guarded next Sample.swept) earlier (Sample.replaced .succeeds)).bind fun before =>
          (next before (.step none)).bind fun after =>
            (run (guarded next Sample.swept) after
              (List.replicate 6 (.step (some .succeeds)))).map fun later =>
                (earlier.world.files, before.memory.session.snapshot.phase,
                  after.memory.session.snapshot.phase, later.memory.session.snapshot.id,
                  later.memory.session.snapshot.phase)) =
      some ([⟨0, some 1⟩], .idle, .starting, some 3, .active) := by
    decide +kernel
  rcases Option.bind_eq_some_iff.mp executed with ⟨earlier, reached, executed⟩
  rcases Option.bind_eq_some_iff.mp executed with ⟨before, replaced, executed⟩
  rcases Option.bind_eq_some_iff.mp executed with ⟨after, step, executed⟩
  rcases Option.map_eq_some_iff.mp executed with ⟨later, started, values⟩
  simp only [Prod.mk.injEq] at values
  rcases values with ⟨files, idle, starting, id, active⟩
  have present : ⟨0, some 1⟩ ∈ earlier.world.files := by
    rw [files]
    exact List.mem_singleton_self _
  refine ⟨earlier, later, present, id, active, ?_⟩
  apply residue_cleared_of_cleanStarts (reachableUnder_of_run Sample.swept_allowed reached) present
    (reachableUnder_of_run Sample.swept_allowed replaced)
    (Sample.swept_allowed before (.step none) ?_) step ⟨?_, starting⟩
    (reachableUnder_of_run Sample.swept_allowed started)
  · simp [Sample.swept, idle]
  · rw [idle]
    nofun

/-- A cleanup that fails leaves a file of the first session to the second. -/
theorem not_cleared_of_replaced :
    ¬ ∀ (file : RuntimeFile)
      (earlier before after later : Config Daemon Call Call.Reply Response Backends)
      (label : Sample.ServiceLabel Effect Accident),
      (Sample.app.service Backends.answer Backends.accident).Reaches
        (.idle Sample.daemon {}) earlier →
      file ∈ earlier.world.files → file.session = earlier.memory.session.snapshot.id →
      (Sample.app.service Backends.answer Backends.accident).Reaches earlier before →
      (Sample.app.service Backends.answer Backends.accident).step before label = some after →
      Begins before.memory after.memory →
      (Sample.app.service Backends.answer Backends.accident).Reaches after later →
      later.memory.session.snapshot.id ≠ file.session →
      later.memory.session.snapshot.phase = .active → file ∉ later.world.files := by
  intro always
  let next := (Sample.app.service Backends.answer Backends.accident).step
  have executed : ((run next (.idle Sample.daemon {}) Sample.residue).bind fun earlier =>
        (run next earlier
          (Sample.replaced (.fails .internal [] [⟨0, some 1⟩]))).bind fun before =>
          (next before (.step none)).bind fun after =>
            (run next after (List.replicate 6 (.step (some .succeeds)))).map fun later =>
              ((earlier.world.files, earlier.memory.session.snapshot.id),
                (before.memory.session.snapshot.phase, after.memory.session.snapshot.phase),
                later.memory.session.snapshot.id, later.memory.session.snapshot.phase,
                later.world.files)) =
      some (([⟨0, some 1⟩], some 1), (.failed, .starting), some 3, .active, [⟨0, some 1⟩]) := by
    decide +kernel
  rcases Option.bind_eq_some_iff.mp executed with ⟨earlier, reached, executed⟩
  rcases Option.bind_eq_some_iff.mp executed with ⟨before, replaced, executed⟩
  rcases Option.bind_eq_some_iff.mp executed with ⟨after, step, executed⟩
  rcases Option.map_eq_some_iff.mp executed with ⟨later, started, values⟩
  simp only [Prod.mk.injEq] at values
  rcases values with ⟨⟨files, owner⟩, ⟨failed, starting⟩, id, active, remaining⟩
  refine always ⟨0, some 1⟩ earlier before after later (.step none) (reachable_of_run reached)
    ?_ owner.symm (reachable_of_run replaced) step ⟨?_, starting⟩ (reachable_of_run started)
    ?_ active ?_
  · rw [files]
    exact List.mem_singleton_self _
  · rw [failed]
    nofun
  · rw [id]
    decide
  · rw [remaining]
    exact List.mem_singleton_self _

end XanhTab
