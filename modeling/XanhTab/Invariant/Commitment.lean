import XanhTab.Daemon.Establish
import XanhTab.Daemon.Ledger

/-!
# What the backends were told last

An active session says under which mode and with which identity its browser
runs.  The calls that the backends have seen agree: the policy of the mode was
applied, then the browser of the session was started, and neither was touched
since.  A switch that is rolled back gets there a second time, with an identity
of its own.
-/

namespace XanhTab

open Program Contract Transition

/-! ## The calls -/

/-- Neither the policy nor the browser process is touched. -/
def Call.Neutral : Call → Prop
  | .egressApply _ | .egressReset | .browserStart .. | .browserStop => False
  | _ => True

/-- The last calls to both backends: the policy was applied, then the browser was
started. -/
def Launched (id : Uuid) (mode : EgressMode) (calls : List (Call × Bool)) : Prop :=
  ∃ earlier later url profile,
    calls = earlier ++ (.egressApply mode, true) :: (.browserStart id url profile mode, true) ::
      later ∧ ∀ entry ∈ later, entry.1.Neutral

/-- The policy has just been applied. -/
def Applied (mode : EgressMode) (calls : List (Call × Bool)) : Prop :=
  ∃ earlier, calls = earlier ++ [(.egressApply mode, true)]

theorem Applied.launch {id : Uuid} {mode : EgressMode} {calls : List (Call × Bool)}
    (applied : Applied mode calls) (url : Url) (profile : StreamProfile) :
    Launched id mode (calls ++ [(.browserStart id url profile mode, true)]) := by
  rcases applied with ⟨earlier, rfl⟩
  exact ⟨earlier, [], url, profile, by simp, by simp⟩

theorem Launched.neutral {id : Uuid} {mode : EgressMode} {calls : List (Call × Bool)}
    (launched : Launched id mode calls) {request : Call} (neutral : request.Neutral)
    (success : Bool) : Launched id mode (calls ++ [(request, success)]) := by
  rcases launched with ⟨earlier, later, url, profile, rfl, untouched⟩
  refine ⟨earlier, later ++ [(request, success)], url, profile, by simp, ?_⟩
  intro entry member
  rcases List.mem_append.mp member with old | new
  · exact untouched entry old
  · rw [List.mem_singleton.mp new]
    exact neutral

/-! ## The invariant -/

structure Commitment (daemon : Daemon) (calls : List (Call × Bool)) : Prop where
  active : daemon.session.snapshot.phase = .active →
    ∃ id, daemon.session.snapshot.id = some id ∧ Launched id daemon.session.snapshot.egress calls
  /-- Identities that are drawn later are new. -/
  drawn : ∀ id, daemon.session.snapshot.id = some id → daemon.rng.Taken id

namespace Commitment

variable {daemon daemon' : Daemon} {calls : List (Call × Bool)}

theorem advance (commitment : Commitment daemon calls)
    (session : SettingsStep daemon.session daemon'.session)
    (advances : Rng.Advances daemon.rng daemon'.rng) : Commitment daemon' calls where
  active := by
    rw [session.phase, session.id, session.egress]
    exact commitment.active
  drawn := by
    rw [session.id]
    exact fun id present => (commitment.drawn id present).of_advances advances

theorem neutral (commitment : Commitment daemon calls) {request : Call}
    (neutral : request.Neutral) (success : Bool) :
    Commitment daemon (calls ++ [(request, success)]) where
  active phase := by
    rcases commitment.active phase with ⟨id, present, launched⟩
    exact ⟨id, present, launched.neutral neutral success⟩
  drawn := commitment.drawn

/-- Nothing is promised of the calls outside the active phase. -/
theorem inactive (drawn : ∀ id, daemon.session.snapshot.id = some id → daemon.rng.Taken id)
    (phase : daemon.session.snapshot.phase ≠ .active) : Commitment daemon calls where
  active active := absurd active phase
  drawn := drawn

end Commitment

/-! ## The contract -/

/-- A browser is only ever started with the URL that the session shows. -/
def commitmentContract (W O : Type) : Contract Daemon Call Response (Ledger W) O where
  always daemon ledger := Commitment daemon ledger.calls
  rely before ledger after ledger' := SettingsStep before.session after.session ∧
    Rng.Advances before.rng after.rng ∧ ledger'.calls = ledger.calls
  guarantee before ledger _ ledger' := ∀ id url profile mode success,
    ledger'.calls = ledger.calls ++ [(.browserStart id url profile mode, success)] →
    before.session.snapshot.url = some url

namespace commitmentContract

variable {W O N : Type} {answer : Answer Call Call.Reply W O}

theorem silent {calls : List (Call × Bool)} {url : Option Url} {id : Uuid} {target : Url}
    {profile : StreamProfile} {mode : EgressMode} {success : Bool}
    (same : calls = calls ++ [(.browserStart id target profile mode, success)]) :
    url = some target := by
  simp at same

theorem quiet : (commitmentContract W O).Quiet where
  rest _ _ _ _ := trivial
  unread _ _ _ _ _ := trivial
  publish _ _ _ _ good _ := ⟨fun _ _ _ _ _ => silent, good.2.advance .same (.refl _)⟩

/-! ### Assertions -/

/-- What a switch finds when it begins. -/
structure Standing where
  id : Option Uuid
  egress : EgressMode
  calls : List (Call × Bool)

/-- An operation is under way and shows what it works with. -/
structure Underway (url : Url) (id : Option Uuid) (egress : EgressMode) (daemon : Daemon) :
    Prop where
  phase : daemon.session.snapshot.phase = .starting ∨ daemon.session.snapshot.phase = .burning
  url : daemon.session.snapshot.url = some url
  id : daemon.session.snapshot.id = id
  egress : daemon.session.snapshot.egress = egress

theorem Underway.inactive {url : Url} {id : Option Uuid} {egress : EgressMode} {daemon : Daemon}
    (underway : Underway url id egress daemon) : daemon.session.snapshot.phase ≠ .active := by
  rcases underway.phase with phase | phase <;> rw [phase] <;> exact nofun

theorem underway_stable (url : Url) (id : Option Uuid) (egress : EgressMode) :
    (commitmentContract W O).Stable fun daemon _ => Underway url id egress daemon := by
  intro _ _ _ _ _ relied _ holds
  constructor
  · rw [relied.1.phase]
    exact holds.phase
  · rw [relied.1.url]
    exact holds.url
  · rw [relied.1.id]
    exact holds.id
  · rw [relied.1.egress]
    exact holds.egress

theorem inactive_stable : (commitmentContract W O).Stable fun daemon _ =>
    daemon.session.snapshot.phase ≠ .active := by
  intro _ _ _ _ _ relied _ holds
  rw [relied.1.phase]
  exact holds

theorem calls_stable (told : List (Call × Bool) → Prop) :
    (commitmentContract W O).Stable fun _ ledger => told ledger.calls := by
  intro _ _ _ _ _ relied _ holds
  rw [relied.2.2]
  exact holds

/-- A new identity has been drawn. -/
structure Fresh (id : Uuid) (shown : Option Uuid) (daemon : Daemon) : Prop where
  drawn : daemon.rng.Taken id
  different : some id ≠ shown

theorem fresh_stable (id : Uuid) (shown : Option Uuid) :
    (commitmentContract W O).Stable fun daemon _ => Fresh id shown daemon :=
  fun _ _ _ _ _ relied _ holds =>
    ⟨holds.drawn.of_advances relied.2.1, holds.different⟩

def inactive : (commitmentContract W O).Assertion :=
  ⟨_, inactive_stable⟩

def underway (url : Url) (id : Option Uuid) (egress : EgressMode) :
    (commitmentContract W O).Assertion :=
  ⟨_, underway_stable url id egress⟩

/-- A switch is under way with a new identity. -/
def renewing (url : Url) (shown : Option Uuid) (egress : EgressMode) (id : Uuid) :
    (commitmentContract W O).Assertion :=
  ⟨_, Stable.and (underway_stable url shown egress) (fresh_stable id shown)⟩

/-- The assertion together with a fact about the calls. -/
def told (assertion : (commitmentContract W O).Assertion) (fact : List (Call × Bool) → Prop) :
    (commitmentContract W O).Assertion :=
  ⟨_, Stable.and assertion.stable (calls_stable fact)⟩

/-- Nothing has happened yet. -/
def standing (base : Standing) : (commitmentContract W O).Assertion where
  holds daemon ledger := (daemon.session.snapshot.id = base.id ∧
    daemon.session.snapshot.egress = base.egress) ∧ ledger.calls = base.calls
  stable := by
    refine Stable.and ?_ (calls_stable fun calls => calls = base.calls)
    intro _ _ _ _ _ relied _ holds
    rw [relied.1.id, relied.1.egress]
    exact holds

/-- What a switch leaves behind when it fails: if the session is active again, the
backends were not called, or everything was rolled back. -/
def restored (base : Standing) : (commitmentContract W O).Assertion where
  holds daemon ledger := daemon.session.snapshot.phase = .active →
    ledger.calls = base.calls ∨
      daemon.session.snapshot.id ≠ base.id ∧ daemon.session.snapshot.egress = base.egress
  stable := by
    intro _ _ _ _ _ relied _ holds
    rw [relied.1.phase, relied.1.id, relied.1.egress, relied.2.2]
    exact holds

/-- The assertion is about the memory alone. -/
def Internal (assertion : (commitmentContract W O).Assertion) : Prop :=
  ∀ daemon ledger ledger', assertion.holds daemon ledger → assertion.holds daemon ledger'

/-! ### Calls -/

/-- A call while an operation is under way. -/
theorem call {awaits : Bool} {request : Call} {pre : (commitmentContract W O).Assertion}
    {post : Call.Reply request → (commitmentContract W O).Assertion}
    (busy : ∀ daemon ledger, pre.holds daemon ledger → daemon.session.snapshot.phase ≠ .active)
    (shown : ∀ daemon ledger, pre.holds daemon ledger → ∀ id url profile mode,
      request = .browserStart id url profile mode → daemon.session.snapshot.url = some url)
    (steps : ∀ reply daemon ledger ledger', pre.holds daemon ledger →
      ledger'.calls = ledger.calls ++ [(request, request.succeeded reply)] →
      (post reply).holds daemon ledger') :
    (commitmentContract W O).Spec (Ledger.answer answer) pre
      (.ask awaits request : Routine (Call.Reply request)) post := by
  apply Spec.ask quiet.toTotal
  intro daemon ledger good satisfied outcome reply ledger' answered _ _
  have noted := Ledger.calls_of_answer answered
  refine ⟨?_, .inactive good.2.drawn (busy daemon ledger satisfied),
    steps reply daemon ledger ledger' satisfied noted⟩
  intro id url profile mode success launched
  rw [noted] at launched
  have equal := List.append_cancel_left launched
  exact shown daemon ledger satisfied id url profile mode
    (congrArg Prod.fst (List.singleton_inj.mp equal))

/-- A call that leaves policy and browser alone, in any phase. -/
theorem neutralCall {awaits : Bool} {request : Call} (neutral : request.Neutral) :
    (commitmentContract W O).Spec (Ledger.answer answer) .trivial
      (.ask awaits request : Routine (Call.Reply request)) fun _ => .trivial := by
  apply Spec.ask quiet.toTotal
  intro daemon ledger good _ outcome reply ledger' answered _ _
  have noted := Ledger.calls_of_answer answered
  refine ⟨?_, ?_, trivial⟩
  · intro id url profile mode success launched
    rw [noted] at launched
    have equal := congrArg Prod.fst (List.singleton_inj.mp (List.append_cancel_left launched))
    dsimp only at equal
    rw [equal] at neutral
    exact neutral.elim
  · show Commitment daemon ledger'.calls
    rw [noted]
    exact good.2.neutral neutral _

/-- A call other than a start, after which nothing more is known. -/
theorem step {awaits : Bool} {request : Call} {pre : (commitmentContract W O).Assertion}
    (internal : Internal pre)
    (busy : ∀ daemon ledger, pre.holds daemon ledger → daemon.session.snapshot.phase ≠ .active)
    (other : ∀ id url profile mode, request ≠ .browserStart id url profile mode) :
    (commitmentContract W O).Spec (Ledger.answer answer) pre
      (.ask awaits request : Routine (Call.Reply request)) fun _ => pre :=
  call busy (fun _ _ _ id url profile mode same => absurd same (other id url profile mode))
    fun _ daemon ledger ledger' holds _ => internal daemon ledger ledger' holds

theorem apply {mode : EgressMode} {pre : (commitmentContract W O).Assertion}
    (internal : Internal pre)
    (busy : ∀ daemon ledger, pre.holds daemon ledger → daemon.session.snapshot.phase ≠ .active) :
    (commitmentContract W O).Spec (Ledger.answer answer) pre (Routine.egressApply mode)
      (.either (fun _ => told pre (Applied mode)) fun _ => pre) := by
  refine call busy ?_ ?_
  · intro _ _ _ _ _ _ _ same
    cases same
  · intro reply daemon ledger ledger' holds noted
    have kept := internal daemon ledger ledger' holds
    cases reply with
    | ok _ => exact ⟨kept, ledger.calls, noted⟩
    | error _ => exact kept

theorem launch {id : Uuid} {url : Url} {profile : StreamProfile} {mode : EgressMode}
    {pre : (commitmentContract W O).Assertion} (internal : Internal pre)
    (busy : ∀ daemon ledger, pre.holds daemon ledger → daemon.session.snapshot.phase ≠ .active)
    (shown : ∀ daemon ledger, pre.holds daemon ledger →
      daemon.session.snapshot.url = some url) :
    (commitmentContract W O).Spec (Ledger.answer answer) (told pre (Applied mode))
      (Routine.browserStart id url profile mode)
      (.either (fun _ => told pre (Launched id mode)) fun _ => pre) := by
  refine call (fun daemon ledger holds => busy daemon ledger holds.1) ?_ ?_
  · rintro daemon ledger holds _ _ _ _ ⟨⟩
    exact shown daemon ledger holds.1
  · intro reply daemon ledger ledger' holds noted
    have kept := internal daemon ledger ledger' holds.1
    cases reply with
    | ok _ =>
        refine ⟨kept, ?_⟩
        show Launched id mode ledger'.calls
        rw [noted]
        exact holds.2.launch url profile
    | error _ => exact kept

/-! ### Outlines of the session operations -/

theorem publish {event : String} {pre : (commitmentContract W O).Assertion}
    (silentPre : pre.Silent) :
    (commitmentContract W O).Spec (Ledger.answer answer) pre (SessionManager.publish event)
      fun _ => pre :=
  Spec.publish quiet (fun _ _ _ _ _ _ _ => silent) silentPre

/-- A section that makes no call, and what it leaves of the invariant. -/
theorem commit {event : String} {update : Daemon → SessionData}
    {pre : (commitmentContract W O).Assertion}
    {post : SessionSnapshot → (commitmentContract W O).Assertion}
    (silentPost : ∀ snapshot, (post snapshot).Silent)
    (steps : ∀ daemon ledger, Commitment daemon ledger.calls → pre.holds daemon ledger →
      Commitment { daemon with session := update daemon } ledger.calls ∧
        (post (update daemon).snapshot).holds { daemon with session := update daemon } ledger) :
    (commitmentContract W O).Spec (Ledger.answer answer) pre
      (SessionManager.commit event update) post :=
  Spec.commit quiet silentPost fun daemon ledger good satisfied _ _ =>
    ⟨fun _ _ _ _ _ => silent, steps daemon ledger good.2 satisfied⟩

/-- A commit that does not make the session active. -/
theorem commitInactive {event : String} {update : Daemon → SessionData}
    {pre post : (commitmentContract W O).Assertion}
    (left : ∀ daemon ledger, daemon.session.snapshot.phase ≠ .active → post.holds daemon ledger)
    (phase : ∀ daemon, (update daemon).snapshot.phase ≠ .active)
    (drawn : ∀ daemon ledger, Commitment daemon ledger.calls → pre.holds daemon ledger →
      ∀ id, (update daemon).snapshot.id = some id → daemon.rng.Taken id) :
    (commitmentContract W O).Spec (Ledger.answer answer) pre
      (SessionManager.commit event update) fun _ => post := by
  have committed : (commitmentContract W O).Spec (Ledger.answer answer) pre
      (SessionManager.commit event update) fun _ => inactive :=
    commit (fun _ _ _ _ _ holds => holds) fun daemon ledger good satisfied =>
      ⟨.inactive (drawn daemon ledger good satisfied) (phase daemon), phase daemon⟩
  exact Spec.relax committed fun _ daemon ledger _ holds => left daemon ledger holds

def startOutline (manager : SessionManager) (client : Uuid) (url : Url) :
    StartOutline (commitmentContract W O) (Ledger.answer answer) manager client url .trivial
      fun _ => .trivial where
  starting id _ egress := underway url (some id) egress
  launching id _ egress := told (underway url (some id) egress) (Applied egress)
  launched id _ egress := told (underway url (some id) egress) (Launched id egress)
  stopping := inactive
  resetting := inactive
  clearing := inactive
  failing := inactive
  entry := by
    apply Spec.transactBy quiet.toTotal (beginStart_cases manager client url)
    intro daemon ledger good _ after outcome _ _
    cases outcome with
    | busy | conflict => exact ⟨fun _ _ _ _ _ => silent, good.2, trivial⟩
    | blocked => exact ⟨fun _ _ _ _ _ => silent, good.2.advance .same (.refl _), trivial⟩
    | begun =>
        refine ⟨fun _ _ _ _ _ => silent, .inactive ?_ nofun, Or.inl rfl, rfl, rfl, rfl⟩
        rintro id ⟨⟩
        exact daemon.rng.taken_newUuid
  announce _ _ _ := publish fun _ _ _ _ holds => ⟨holds.phase, holds.url, holds.id, holds.egress⟩
  apply id _ egress := by
    apply Spec.relax (apply (fun _ _ _ holds => holds) fun _ _ holds => Underway.inactive holds)
    intro reply daemon ledger _ holds
    cases reply with
    | ok _ => exact holds
    | error _ => exact Underway.inactive holds
  launch id _ egress := by
    apply Spec.relax (launch (fun _ _ _ holds => holds)
      (fun _ _ holds => Underway.inactive holds) fun _ _ holds => Underway.url holds)
    intro reply daemon ledger _ holds
    cases reply with
    | ok _ => exact holds
    | error _ => exact Underway.inactive holds
  stop := step (fun _ _ _ holds => holds) (fun _ _ holds => holds) (by simp)
  reset := step (fun _ _ _ holds => holds) (fun _ _ holds => holds) (by simp)
  clear := step (fun _ _ _ holds => holds) (fun _ _ holds => holds) (by simp)
  fail message := by
    refine commitInactive (fun _ _ _ => trivial) ?_ ?_
    · exact fun _ => nofun
    · exact fun _ _ good _ => good.drawn
  activate id _ egress := by
    refine commit (fun _ _ _ _ _ holds => holds) fun daemon ledger good holds => ?_
    rcases holds with ⟨underway, launched⟩
    refine ⟨⟨fun _ => ⟨id, underway.id, ?_⟩, good.drawn⟩, trivial⟩
    show Launched id daemon.session.snapshot.egress ledger.calls
    rw [underway.egress]
    exact launched

def burnOutline (manager : SessionManager) :
    BurnOutline (commitmentContract W O) (Ledger.answer answer) manager .trivial
      fun _ => .trivial where
  burning := inactive
  resetting _ := inactive
  clearing _ := inactive
  burned _ := inactive
  entry := by
    apply Spec.transactBy quiet.toTotal beginBurn_cases
    intro daemon ledger good _ after outcome _ _
    cases outcome with
    | idle => exact ⟨fun _ _ _ _ _ => silent, good.2, trivial⟩
    | burning => exact ⟨fun _ _ _ _ _ => silent, .inactive good.2.drawn nofun, nofun⟩
  announce := publish fun _ _ _ _ holds => holds
  stop := Spec.split (step (fun _ _ _ holds => holds) (fun _ _ holds => holds) (by simp))
  reset _ := Spec.split (step (fun _ _ _ holds => holds) (fun _ _ holds => holds) (by simp))
  clear _ := Spec.split (step (fun _ _ _ holds => holds) (fun _ _ holds => holds) (by simp))
  idle := by
    refine commitInactive (fun _ _ _ => trivial) ?_ ?_
    · exact fun _ => nofun
    · exact fun _ _ _ _ => nofun
  fail _ _ message := by
    refine commitInactive (fun _ _ _ => trivial) ?_ ?_
    · exact fun _ => nofun
    · exact fun _ _ _ _ => nofun

def navigateOutline (manager : SessionManager) (client : Uuid) (command : NavigationCommand) :
    NavigateOutline (commitmentContract W O) (Ledger.answer answer) manager client command
      .trivial fun _ => .trivial where
  navigating := .trivial
  navigated := .trivial
  entry := by
    apply Spec.transactBy quiet.toTotal (beginNavigation_cases manager client command)
    intro daemon ledger good _ after outcome _ _
    refine ⟨fun _ _ _ _ _ => silent, ?_, ?_⟩
    · cases outcome with
      | refused => exact good.2
      | blocked | begun => exact ⟨good.2.active, good.2.drawn⟩
    · cases outcome <;> trivial
  request := Spec.split (neutralCall trivial)
  commit := by
    refine commit (fun _ _ _ _ _ holds => holds) fun daemon ledger good _ => ⟨?_, trivial⟩
    cases command <;> exact ⟨good.active, good.drawn⟩

def restartOutline {id : Uuid} {url : Url} {profile : StreamProfile} {mode : EgressMode}
    {pre failure : (commitmentContract W O).Assertion} (internal : Internal pre)
    (busy : ∀ daemon ledger, pre.holds daemon ledger → daemon.session.snapshot.phase ≠ .active)
    (shown : ∀ daemon ledger, pre.holds daemon ledger →
      daemon.session.snapshot.url = some url)
    (failed : ∀ daemon ledger, pre.holds daemon ledger → failure.holds daemon ledger) :
    RestartOutline (commitmentContract W O) (Ledger.answer answer) id url profile mode pre
      (told pre (Launched id mode)) failure where
  clearing := pre
  applying := pre
  launching := told pre (Applied mode)
  reset := Spec.either (step internal busy (by simp)) (fun _ _ holds => holds) failed
  clear := Spec.either (step internal busy (by simp)) (fun _ _ holds => holds) failed
  apply := by
    apply Spec.relax (apply internal busy)
    intro reply daemon ledger _ holds
    cases reply with
    | ok _ => exact holds
    | error _ => exact failed daemon ledger holds
  launch := by
    apply Spec.relax (launch internal busy shown)
    intro reply daemon ledger _ holds
    cases reply with
    | ok _ => exact holds
    | error _ => exact failed daemon ledger holds

/-- A switch is under way; the session shows what it showed before. -/
def switching (base : Standing) (url : Url) (previous : EgressMode) :
    (commitmentContract W O).Assertion :=
  (underway url base.id base.egress).also (previous = base.egress)

/-- The same with a new identity. -/
def replacing (base : Standing) (id : Uuid) (url : Url) (previous : EgressMode) :
    (commitmentContract W O).Assertion :=
  (renewing url base.id base.egress id).also (previous = base.egress)

theorem draw {base : Standing} {url : Url} {previous : EgressMode} :
    (commitmentContract W O).Spec (Ledger.answer answer) (switching base url previous)
      (sync Daemon.newUuid) fun id => replacing base id url previous := by
  apply Spec.transact quiet.toTotal
  intro daemon ledger good holds _ _
  rcases holds with ⟨underway, same⟩
  refine ⟨fun _ _ _ _ _ => silent, good.2.advance .same (.newUuid _), ?_, same⟩
  refine ⟨⟨underway.phase, underway.url, underway.id, underway.egress⟩,
    daemon.rng.taken_newUuid, ?_⟩
  intro shown
  have before := good.2.drawn _ (underway.id.trans shown.symm)
  exact absurd before daemon.rng.not_taken_newUuid

theorem replacing_busy {base : Standing} {id : Uuid} {url : Url} {previous : EgressMode}
    (daemon : Daemon) (ledger : Ledger W)
    (holds : (replacing base id url previous : (commitmentContract W O).Assertion).holds daemon
      ledger) : daemon.session.snapshot.phase ≠ .active :=
  holds.1.1.inactive

/-- The last section of a switch or of its rollback. -/
theorem commitSwitch {base : Standing} {id : Uuid} {url : Url} {previous mode : EgressMode}
    {event : String} {update : Daemon → SessionData}
    {post : SessionSnapshot → (commitmentContract W O).Assertion}
    (silentPost : ∀ snapshot, (post snapshot).Silent)
    (renewed : ∀ daemon, (update daemon).snapshot.id = some id)
    (changed : ∀ daemon, (update daemon).snapshot.egress = mode)
    (left : ∀ daemon ledger, previous = base.egress → some id ≠ base.id →
      (post (update daemon).snapshot).holds { daemon with session := update daemon } ledger) :
    (commitmentContract W O).Spec (Ledger.answer answer)
      (told (replacing base id url previous) (Launched id mode))
      (SessionManager.commit event update) post := by
  refine commit silentPost fun daemon ledger good holds => ?_
  rcases holds with ⟨⟨⟨_, fresh⟩, same⟩, launched⟩
  refine ⟨⟨fun _ => ⟨id, renewed daemon, ?_⟩, ?_⟩, left daemon ledger same fresh.different⟩
  · show Launched id (update daemon).snapshot.egress ledger.calls
    rw [changed]
    exact launched
  · intro other shown
    obtain rfl := Option.some.inj ((renewed daemon).symm.trans shown)
    exact fresh.drawn

def switchOutline (base : Standing) (client : Uuid) (mode : EgressMode) :
    SwitchOutline (commitmentContract W O) (Ledger.answer answer) client mode (standing base)
      (.either (fun _ => .trivial) fun _ => restored base) where
  switching url _ previous := switching base url previous
  stopping id url _ previous := replacing base id url previous
  resetting id url _ previous := replacing base id url previous
  switched id url _ previous := told (replacing base id url previous) (Launched id mode)
  attempted url _ previous := switching base url previous
  rollbackStopping id url _ previous := replacing base id url previous
  rollbackResetting id url _ previous := replacing base id url previous
  rolledBack id url _ previous := told (replacing base id url previous) (Launched id previous)
  lost := inactive
  entry := by
    apply Spec.transactBy quiet.toTotal (beginSwitch_cases client)
    rintro daemon ledger good ⟨⟨id, egress⟩, calls⟩ after outcome _ _
    cases outcome with
    | refused => exact ⟨fun _ _ _ _ _ => silent, good.2, fun _ => Or.inl calls⟩
    | absent =>
        exact ⟨fun _ _ _ _ _ => silent, .inactive good.2.drawn nofun,
          fun active => nomatch active⟩
    | begun url _ shown =>
        exact ⟨fun _ _ _ _ _ => silent, .inactive good.2.drawn nofun,
          ⟨Or.inr rfl, shown, id, egress⟩, egress⟩
  announce _ _ _ := publish fun _ _ _ _ holds =>
    ⟨⟨holds.1.phase, holds.1.url, holds.1.id, holds.1.egress⟩, holds.2⟩
  draw _ _ _ := draw
  stop _ _ _ _ := Spec.either (step (fun _ _ _ holds => holds) replacing_busy (by simp))
    (fun _ _ holds => holds) fun _ _ holds => ⟨holds.1.1, holds.2⟩
  attempt _ _ _ _ := restartOutline (fun _ _ _ holds => holds) replacing_busy
    (fun _ _ holds => holds.1.1.url) fun _ _ holds => ⟨holds.1.1, holds.2⟩
  commit _ _ _ _ := commitSwitch (fun _ _ _ _ _ holds => holds) (fun _ => rfl) (fun _ => rfl)
    fun _ _ _ _ => trivial
  redraw _ _ _ := draw
  restop _ _ _ _ := step (fun _ _ _ holds => holds) replacing_busy (by simp)
  rollback _ _ _ _ := restartOutline (fun _ _ _ holds => holds) replacing_busy
    (fun _ _ holds => holds.1.1.url) fun _ _ holds => holds.1.1.inactive
  commitRollback id _ _ previous _ := by
    refine commitSwitch (fun _ _ _ _ _ holds => holds) (fun _ => rfl) (fun _ => rfl) ?_
    exact fun _ _ same different _ => Or.inr ⟨different, same⟩
  fail _ := by
    refine commitInactive (fun _ _ inactive active => absurd active inactive) ?_ ?_
    · exact fun _ => nofun
    · exact fun _ _ good _ => good.drawn

/-- What the switch finds is whatever there is. -/
theorem switchEgress (client : Uuid) (mode : EgressMode) :
    (commitmentContract W O).Spec (Ledger.answer answer) .trivial
      (SessionManager.switchEgress client mode) fun _ => .trivial := by
  intro daemon ledger good _
  have spec : ∀ base, (commitmentContract W O).Spec (Ledger.answer answer) (standing base)
      (SessionManager.switchEgress client mode) fun _ => .trivial := fun base =>
    Spec.relax (switchOutline base client mode).sound fun _ _ _ _ _ => trivial
  exact spec ⟨_, _, _⟩ daemon ledger good ⟨⟨rfl, rfl⟩, rfl⟩

theorem specs (manager : SessionManager) :
    SessionSpecs (commitmentContract W O) (Ledger.answer answer) manager .trivial where
  quiet := quiet
  reflexive _ _ _ _ _ _ _ := silent
  atRest _ _ := Iff.rfl
  finish _ _ _ := Iff.rfl
  start client url := (startOutline manager client url).sound
  forceBurn := (burnOutline manager).sound
  navigate client command := (navigateOutline manager client command).sound
  switchEgress := switchEgress

theorem blind : Blind (commitmentContract W O) (Ledger.answer answer) .trivial where
  auth daemon ledger auth rng good _ advances _ :=
    ⟨fun _ _ _ _ _ => silent, good.2.advance .same advances, trivial⟩
  pairingFile body outcome reply daemon ledger ledger' good _ answered _ _ := by
    have noted := Ledger.calls_of_answer answered
    refine ⟨?_, ?_, trivial⟩
    · intro id url profile mode success launched
      rw [noted] at launched
      simp at launched
    · show Commitment daemon ledger'.calls
      rw [noted]
      have neutral : (Call.writePairingFile body).Neutral := trivial
      exact good.2.neutral neutral _

theorem interference (world : N → Daemon → W → Option W) :
    Interference (commitmentContract W O) (Ledger.noise world) where
  request daemon ledger daemon' good step _ _ :=
    ⟨⟨step.session, step.auth.advances, rfl⟩, good.2.advance step.session step.auth.advances⟩
  clock daemon ledger now utc good _ _ :=
    ⟨⟨.same, .refl _, rfl⟩, good.2.advance .same (.refl _)⟩
  world event daemon ledger ledger' good changed _ := by
    have calls := Ledger.calls_of_noise changed
    refine ⟨⟨.same, .refl _, calls⟩, ?_⟩
    show Commitment daemon ledger'.calls
    rw [calls]
    exact good.2

/-- The response of a switch that has failed. -/
def responded (base : Standing) : Response → (commitmentContract W O).Assertion
  | .snapshot (.error _) => restored base
  | _ => .trivial

/-- A switch through the application state. -/
theorem lifecycleSwitch (app : AppState) (base : Standing) (context : AuthContext) (id : Uuid)
    (mode : EgressMode) :
    (commitmentContract W O).Spec (Ledger.answer answer) (standing base)
      (app.lifecycle (.switchEgress context id mode)) (responded base) := by
  have validate : (commitmentContract W O).Spec (Ledger.answer answer) (standing base)
      (AppState.validateContext context) fun _ => standing base := by
    apply Spec.transact quiet.toTotal
    intro daemon ledger good holds _ _
    exact ⟨fun _ _ _ _ _ => silent, good.2.advance .same (.refl _), holds⟩
  have named : (commitmentContract W O).Spec (Ledger.answer answer) (standing base)
      (AppState.requireSessionId id) fun _ => standing base :=
    Spec.read quiet.toTotal (fun _ _ _ _ _ _ _ => silent) fun _ _ _ holds => holds
  have refused : ∀ daemon ledger,
      (standing base : (commitmentContract W O).Assertion).holds daemon ledger →
      (restored base : (commitmentContract W O).Assertion).holds daemon ledger :=
    fun _ _ holds _ => Or.inl holds.2
  have switched : (commitmentContract W O).Spec (Ledger.answer answer) (standing base)
      (AppState.switchEgress context id mode)
      (.either (fun _ => .trivial) fun _ => restored base) := by
    refine Spec.andThen validate (fun _ daemon ledger _ holds => refused daemon ledger holds)
      fun _ => ?_
    refine Spec.andThen named (fun _ daemon ledger _ holds => refused daemon ledger holds)
      fun _ => ?_
    exact (switchOutline base context.clientId mode).sound
  apply Spec.bind switched
  intro result
  cases result <;> exact Spec.done fun _ _ _ holds => holds

end commitmentContract

/-! ## The result -/

section Runs

variable {app : AppState} {W O N : Type} {answer : Answer Call Call.Reply W O}
  {world : N → Daemon → W → Option W} {daemon : Daemon} {state : W}
  {config : Config Daemon Call Call.Reply Response (Ledger W)}

theorem commitment_established (app : AppState) (answer : Answer Call Call.Reply W O)
    (world : N → Daemon → W → Option W) :
    (commitmentContract W O).Established (app.ledgerService answer world) :=
  (commitmentContract.specs app.sessions).established_service commitmentContract.blind
    (commitmentContract.interference world)

theorem commitment_initial (booted : app.Booted daemon) :
    (commitmentContract W O).Holds (Ledger.answer answer)
      (.idle daemon ⟨[], state⟩ : Config Daemon Call Call.Reply Response (Ledger W)) := by
  have initial : Commitment daemon [] := by
    apply Commitment.inactive
    · rw [booted.session]
      exact nofun
    · rw [booted.session]
      exact nofun
  constructor
  · exact ⟨trivial, initial⟩
  · exact fun _ => trivial
  · rintro program ⟨⟩
  · rintro program ⟨⟩

/-- The session of the configuration is the one that the backends were told last:
its policy was applied, then its browser was started, with the URL that the
session showed in the step that did so. -/
structure CommittedBy (pool : Pool Daemon Call Call.Reply Response (Ledger W) O Lifecycle Request
      (Environment N))
    (source config : Config Daemon Call Call.Reply Response (Ledger W)) (id : Uuid) (url : Url)
    (profile : StreamProfile) (earlier later : List (Call × Bool)) : Prop where
  identity : config.memory.session.snapshot.id = some id
  calls : config.world.calls =
    earlier ++ (.egressApply config.memory.session.snapshot.egress, true) ::
      (.browserStart id url profile config.memory.session.snapshot.egress, true) :: later
  untouched : ∀ entry ∈ later, entry.1.Neutral
  shown : ∃ before label after, pool.Reaches source before ∧
    pool.step before label = some after ∧ pool.Reaches after config ∧
    before.world.calls =
      earlier ++ [(.egressApply config.memory.session.snapshot.egress, true)] ∧
    after.world.calls = before.world.calls ++
      [(.browserStart id url profile config.memory.session.snapshot.egress, true)] ∧
    before.memory.session.snapshot.url = some url

/-- The step that started a browser showed its URL. -/
theorem commitmentContract.shown_of_step (booted : app.Booted daemon)
    {before after : Config Daemon Call Call.Reply Response (Ledger W)}
    {label : Pool.Label Lifecycle Request (Environment N) O} {id : Uuid} {url : Url}
    {profile : StreamProfile} {mode : EgressMode}
    (reaches : (app.ledgerService answer world).Reaches (.idle daemon ⟨[], state⟩) before)
    (step : (app.ledgerService answer world).step before label = some after)
    (started : after.world.calls =
      before.world.calls ++ [(.browserStart id url profile mode, true)]) :
    before.memory.session.snapshot.url = some url := by
  have moves := (commitment_established app answer world).moves (commitment_initial booted)
    (fun _ _ => trivial) (Pool.reachesUnder_free _ reaches) (Assumptions.free_allowed _ _) step
  rcases moves with relied | guaranteed | same
  · rw [relied.2.2] at started
    exact commitmentContract.silent started
  · exact guaranteed id url profile mode true started
  · rw [same.2] at started
    exact commitmentContract.silent started

/-- In every run an active session is the one that the backends were told last.
A switch that fails after it has called them, and leaves the session active, has
restored the mode under a new identity. -/
theorem active_committed_of_reaches (booted : app.Booted daemon)
    (reaches : (app.ledgerService answer world).Reaches (.idle daemon ⟨[], state⟩) config) :
    (config.memory.session.snapshot.phase = .active →
      ∃ id url profile earlier later, CommittedBy (app.ledgerService answer world)
        (.idle daemon ⟨[], state⟩) config id url profile earlier later) ∧
    ∀ context expectedId mode labels config' error,
      run (app.ledgerService answer world).step config
        (.start (.switchEgress context expectedId mode) :: labels) = some config' →
      (∀ label ∈ labels, label.Continues) →
      config'.holder = some (.done (.snapshot (.error error))) →
      config'.memory.session.snapshot.phase = .active →
      config'.world.calls ≠ config.world.calls →
      config'.memory.session.snapshot.id ≠ config.memory.session.snapshot.id ∧
        config'.memory.session.snapshot.egress = config.memory.session.snapshot.egress := by
  have committed : ∀ {visited},
      (app.ledgerService answer world).Reaches (.idle daemon ⟨[], state⟩) visited →
      Commitment visited.memory visited.world.calls := fun visit =>
    ((commitment_established app answer world).sound (commitment_initial booted)
      (fun _ _ => trivial) (Pool.reachesUnder_free _ visit)).good.2
  have framed : ∀ {visited},
      (app.ledgerService answer world).Reaches (.idle daemon ⟨[], state⟩) visited →
      visited.Framed LifecycleStep RequestStep := fun visit =>
    (service_framed app (Ledger.answer answer) (Ledger.noise world)).reaches (.idle daemon _) visit
  constructor
  · intro active
    rcases (committed reaches).active active with
      ⟨id, identity, earlier, later, url, profile, calls, untouched⟩
    refine ⟨id, url, profile, earlier, later, identity, calls, untouched, ?_⟩
    rw [List.append_cons] at calls
    have log := Reachable.appended
      (fun config : Config Daemon Call Call.Reply Response (Ledger W) => config.world.calls) rfl
      (fun _ _ _ step => Ledger.grows_of_step step) reaches calls
    rcases log with
      ⟨before, label, after, first, step, rest, noted, appended⟩
    refine ⟨before, label, after, first, step, rest, noted, ?_, ?_⟩
    · rw [appended, noted]
    · exact commitmentContract.shown_of_step booted first step (by rw [appended, noted])
  · intro context expectedId mode labels config' error executed continues finished active called
    have spec : (commitmentContract W O).Spec (Ledger.answer answer)
        (commitmentContract.standing ⟨config.memory.session.snapshot.id,
          config.memory.session.snapshot.egress, config.world.calls⟩)
        (app.lifecycle (.switchEgress context expectedId mode))
        (commitmentContract.responded _) :=
      commitmentContract.lifecycleSwitch app _ context expectedId mode
    have returned := spec.follow (app.ledgerService answer world)
      ((app.ledgerService answer world).Reaches (.idle daemon ⟨[], state⟩)) executed continues
      finished ⟨⟨rfl, rfl⟩, rfl⟩ reaches
      (fun _ _ _ visited step => visited.tail trivial step)
      (fun _ visited => ⟨trivial, committed visited⟩)
      (fun _ _ _ => Assumptions.free_allowed _ _)
      fun label member foreign _ _ visited step => by
        have beside := beside_of_step (framed visited) (continues label member) foreign step
        exact ⟨beside.session, beside.auth.advances, beside.calls⟩
    exact (returned active).resolve_left called

end Runs

namespace Sample

/-- The steps of a switch whose policy cannot be applied, and of its rollback. -/
def rolledBack : List (ServiceLabel Bool Empty) :=
  List.replicate 9 (.step (some true)) ++ [.step (some false)] ++
    List.replicate 8 (.step (some true))

end Sample

/-- The first client's switch to Tor is rolled back. -/
theorem active_committed_of_rolledBack :
    ∃ before after : Config Daemon Call Call.Reply Response (Ledger Unit),
      after.memory.session.snapshot.phase = .active ∧
      (∃ id url profile earlier later, CommittedBy
        (Sample.app.ledgerService Sample.told AppState.still) (.idle Sample.daemon ⟨[], ()⟩) after
        id url profile earlier later) ∧
      after.memory.session.snapshot.id ≠ before.memory.session.snapshot.id ∧
      after.memory.session.snapshot.egress = before.memory.session.snapshot.egress := by
  have executed : ((run (Sample.app.ledgerService Sample.told AppState.still).step
      (.idle Sample.daemon ⟨[], ()⟩) (Sample.openSession true 8 ++ [.finish])).bind fun before =>
        (run (Sample.app.ledgerService Sample.told AppState.still).step before
          (.start (.switchEgress ⟨0, 1⟩ 1 .tor) :: Sample.rolledBack)).map fun after =>
            (before.world.calls.length, after.world.calls.length,
              after.memory.session.snapshot.phase, after.result.bind Response.refusal)) =
      some (2, 11, .active, some (.serviceUnavailable
        "egress switch failed and was rolled back: dependency unavailable: told")) := by
    decide +kernel
  rcases Option.bind_eq_some_iff.mp executed with ⟨before, reached, rest⟩
  rcases Option.map_eq_some_iff.mp rest with ⟨after, switched, values⟩
  simp only [Prod.mk.injEq] at values
  rcases values with ⟨callsBefore, callsAfter, active, result⟩
  rcases Option.bind_eq_some_iff.mp result with ⟨response, finished, refused⟩
  rw [Response.eq_of_refusal refused] at finished
  have reaches := reachable_of_run reached
  have reaches' := reaches.trans (reachable_of_run switched)
  refine ⟨before, after, active,
    (active_committed_of_reaches Sample.daemon_booted reaches').1 active, ?_⟩
  refine (active_committed_of_reaches Sample.daemon_booted reaches).2 _ _ _ _ _ _ switched ?_
    (Config.holder_of_result finished) active ?_
  · simp [Sample.rolledBack, Pool.Label.Continues]
  · intro same
    rw [same, callsBefore] at callsAfter
    cases callsAfter

end XanhTab
