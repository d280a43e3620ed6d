import XanhTab.Browser.Helper
import XanhTab.Daemon.Establish

/-!
# The snapshot and the helper

How far the snapshot of an active session describes what the browser helper
shows.  Session and egress mode always agree.  The URL of the snapshot is that
of the last start or explicit navigation, so it lags behind a move within the
history of the helper; the stream profile of the helper is the one that the
snapshot had when the browser was last started, since a later change of the
setting never reaches the helper.
-/

namespace XanhTab

open Program Contract Transition

namespace Helper

/-- The URL that the helper was told to spawn last. -/
def shown (helper : Helper) : Option Url :=
  helper.spawned.getLast?.map Spawn.url

/-- The URL that the last start or explicit navigation named. -/
def commanded (helper : Helper) : Option Url :=
  (helper.spawned.filter fun spawn => !spawn.command.urls.isEmpty).getLast?.map Spawn.url

/-- The position is at the URL that was spawned last, and reloading does not
change it. -/
structure Consistent (helper : Helper) : Prop where
  ranged : helper.pipeline.Ranged
  shown : helper.pipeline.history[helper.pipeline.position]? = helper.shown
  reloaded : ∀ front spawn rest, helper.spawned = front ++ spawn :: rest →
    (∀ later ∈ rest, later.command = .navigate .reload) → helper.shown = some spawn.url

variable {command : BrowserCommand} {before after : Helper}

theorem Consistent.follow (consistent : before.Consistent) (follows : Follows command before after) :
    after.Consistent := by
  rcases follows with ⟨told, applied, spawned⟩
  cases told with
  | none =>
      rcases applied.quiet rfl with ⟨_, history, position⟩
      have same : after.spawned = before.spawned := by simpa using spawned
      have shown : after.shown = before.shown := by rw [Helper.shown, Helper.shown, same]
      refine ⟨applied.ranged, ?_, ?_⟩
      · rw [history, position, shown]
        exact consistent.shown
      · rw [same, shown]
        exact consistent.reloaded
  | some url =>
      have grown : after.spawned = before.spawned ++ [⟨command, url⟩] := spawned
      have shown : after.shown = some url := by simp [Helper.shown, grown]
      refine ⟨applied.ranged, ?_, ?_⟩
      · rw [shown]
        exact (applied.target url rfl).1
      · intro front spawn rest split reloads
        rcases List.eq_nil_or_concat rest with rfl | ⟨rest, last, rfl⟩
        · rw [grown] at split
          rcases List.append_inj' split rfl with ⟨_, equal⟩
          cases equal
          exact shown
        · have regrouped : front ++ spawn :: rest.concat last = front ++ spawn :: rest ++ [last] := by
            simp
          rw [grown, regrouped] at split
          rcases List.append_inj' split rfl with ⟨earlier, equal⟩
          cases equal
          have reload : command = .navigate .reload := reloads ⟨command, url⟩ (by simp)
          have stayed : before.shown = some spawn.url :=
            consistent.reloaded front spawn rest earlier fun later member =>
              reloads later (by simp [member])
          rw [shown, ← (applied.target url rfl).1, applied.reloaded reload, consistent.shown]
          exact stayed

/-- A command that names no URL leaves the commanded one as it is. -/
theorem Follows.commanded_eq (follows : Follows command before after) (unnamed : command.urls = []) :
    after.commanded = before.commanded := by
  rcases follows with ⟨told, _, spawned⟩
  cases told <;> simp [commanded, spawned, unnamed]

theorem Follows.commanded_of_urls (follows : Follows command before after) {url : Url}
    (named : command.urls = [url]) : after.commanded = some url := by
  rcases follows with ⟨told, applied, spawned⟩
  cases told with
  | none =>
      rw [(applied.quiet rfl).1] at named
      cases named
  | some target =>
      have same : target = url := by
        rcases (applied.target target rfl).2 with member | ⟨unnamed, _⟩
        · rw [named] at member
          exact List.mem_singleton.mp member
        · rw [named] at unnamed
          cases unnamed
      simp [commanded, spawned, named, same]

theorem Follows.spawned_of_start {id : Uuid} {url : Url} {profile : StreamProfile}
    {mode : EgressMode} (follows : Follows (.start id url profile mode) before after) :
    after.spawned = before.spawned ++ [⟨.start id url profile mode, url⟩] := by
  rcases follows with ⟨told, applied, spawned⟩
  cases told with
  | none => exact nomatch (applied.quiet rfl).1
  | some target =>
      rcases (applied.target target rfl).2 with member | ⟨unnamed, _⟩
      · obtain rfl := List.mem_singleton.mp member
        exact spawned
      · cases unnamed

end Helper

/-! ## The contract -/

/-- Browser and policy calls succeed, and operations run to their ends. -/
def succeeding (args : Args) : Assumptions Daemon Call Helper Exchange where
  reply request exchange _ helper := ∀ reply after,
    Helper.answer args request exchange helper = some (reply, after) →
      Helper.Succeeded request reply
  drop _ _ _ := False

/-- What a step does to the browser: no session is started, or one is, with the
URL and the profile of the snapshot. -/
inductive Starts (before : Daemon) (helper helper' : Helper) : Prop
  | no (more : List Spawn) : helper'.spawned = helper.spawned ++ more →
      (∀ spawn ∈ more, spawn.command.isStart = false) →
      helper'.pipeline.profile = helper.pipeline.profile → Starts before helper helper'
  | yes (id : Uuid) (url : Url) (mode : EgressMode) :
      before.session.snapshot.phase ≠ .active → before.session.snapshot.url = some url →
      helper'.spawned = helper.spawned ++
        [⟨.start id url before.session.snapshot.streamProfile mode, url⟩] →
      helper'.pipeline.profile = before.session.snapshot.streamProfile →
      Starts before helper helper'

/-- The helper runs the session of the snapshot. -/
structure Runs (snapshot : SessionSnapshot) (helper : Helper) : Prop where
  id : helper.pipeline.sessionId = snapshot.id
  egress : helper.pipeline.egress = snapshot.egress
  started : ∃ spawn ∈ helper.spawned, spawn.command.isStart = true

structure Mirrors (data : SessionData) (helper : Helper) : Prop where
  consistent : helper.Consistent
  active : data.snapshot.phase = .active → Runs data.snapshot helper

/-- The snapshot of an active session shows the commanded URL. -/
def Synced (daemon : Daemon) (helper : Helper) : Prop :=
  daemon.session.snapshot.phase = .active → helper.commanded = daemon.session.snapshot.url

def mirrorContract (args : Args) : Contract Daemon Call Response Helper Exchange where
  always daemon helper := Mirrors daemon.session helper
  rely before helper after helper' := SettingsStep before.session after.session ∧ helper' = helper
  guarantee before helper _ helper' := Starts before helper helper'
  atRest := Synced
  finish _ := Synced
  assume := succeeding args

namespace Mirrors

variable {data data' : SessionData} {helper helper' : Helper}

/-- Phase, identifier and mode of the session matter. -/
theorem congr (mirrors : Mirrors data helper)
    (phase : data'.snapshot.phase = data.snapshot.phase)
    (id : data'.snapshot.id = data.snapshot.id)
    (egress : data'.snapshot.egress = data.snapshot.egress) : Mirrors data' helper where
  consistent := mirrors.consistent
  active active := by
    rw [phase] at active
    rcases mirrors.active active with ⟨sameId, sameEgress, started⟩
    exact ⟨sameId.trans id.symm, sameEgress.trans egress.symm, started⟩

/-- A session that is not active is not compared. -/
theorem of_inactive (consistent : helper.Consistent) (inactive : data.snapshot.phase ≠ .active) :
    Mirrors data helper :=
  ⟨consistent, fun active => absurd active inactive⟩

/-- The helper follows a command that starts no session. -/
theorem follow {command : BrowserCommand} (mirrors : Mirrors data helper)
    (follows : Helper.Follows command helper helper') (other : command.isStart = false) :
    Mirrors data helper' where
  consistent := mirrors.consistent.follow follows
  active active := by
    rcases mirrors.active active with ⟨id, egress, spawn, member, started⟩
    rcases follows with ⟨told, applied, spawned⟩
    rcases applied.kept other with ⟨sameId, _, sameEgress⟩
    refine ⟨sameId.trans id, sameEgress.trans egress, spawn, ?_, started⟩
    rw [spawned]
    exact List.mem_append_left _ member

end Mirrors

theorem Starts.of_follows {daemon : Daemon} {helper helper' : Helper} {command : BrowserCommand}
    (follows : Helper.Follows command helper helper') (other : command.isStart = false) :
    Starts daemon helper helper' := by
  rcases follows with ⟨told, applied, spawned⟩
  apply Starts.no _ spawned
  · intro spawn member
    cases told with
    | none => exact nomatch member
    | some url =>
        obtain rfl := List.mem_singleton.mp member
        exact other
  · exact (applied.kept other).2.1

theorem Starts.refl (daemon : Daemon) (helper : Helper) : Starts daemon helper helper :=
  .no [] (List.append_nil _).symm (fun _ member => nomatch member) rfl

namespace mirrorContract

variable {args : Args}

theorem quiet : (mirrorContract args).Quiet where
  rest impossible := impossible.elim
  unread _ _ _ _ impossible := impossible.elim
  publish _ _ _ _ good _ := ⟨.refl _ _, good.2⟩

/-! ### Assertions -/

/-- What is known of an inactive session is not disturbed. -/
theorem stable_of_inactive (holds : SessionData → Helper → Prop)
    (inactive : ∀ data helper, holds data helper → data.snapshot.phase ≠ .active) :
    (mirrorContract args).Stable fun daemon helper => holds daemon.session helper := by
  rintro _ _ _ _ _ ⟨settings, rfl⟩ _ satisfied
  rw [settings.eq_of_inactive (inactive _ _ satisfied)]
  exact satisfied

def resting : (mirrorContract args).Assertion where
  holds := Synced
  stable := by
    rintro _ _ _ _ _ ⟨settings, rfl⟩ _ holds active
    rw [settings.phase] at active
    rw [settings.url]
    exact holds active

def inactive : (mirrorContract args).Assertion where
  holds daemon _ := daemon.session.snapshot.phase ≠ .active
  stable := stable_of_inactive (fun data _ => data.snapshot.phase ≠ .active)
    fun _ _ holds => holds

/-- The session is about to be started with the URL and the profile, and in a
start also with the identifier and the mode of the snapshot. -/
structure Prepared (named : Option (Uuid × EgressMode)) (url : Url) (profile : StreamProfile)
    (data : SessionData) : Prop where
  inactive : data.snapshot.phase ≠ .active
  url : data.snapshot.url = some url
  profile : data.snapshot.streamProfile = profile
  named : ∀ id mode, named = some (id, mode) →
    data.snapshot.id = some id ∧ data.snapshot.egress = mode

/-- The helper has started a session. -/
structure Launched (id : Uuid) (mode : EgressMode) (url : Url) (helper : Helper) : Prop where
  id : helper.pipeline.sessionId = some id
  egress : helper.pipeline.egress = mode
  started : ∃ spawn ∈ helper.spawned, spawn.command.isStart = true
  commanded : helper.commanded = some url

def prepared (named : Option (Uuid × EgressMode)) (url : Url) (profile : StreamProfile) :
    (mirrorContract args).Assertion where
  holds daemon _ := Prepared named url profile daemon.session
  stable := stable_of_inactive (fun data _ => Prepared named url profile data)
    fun _ _ holds => holds.inactive

def launched (named : Option (Uuid × EgressMode)) (id : Uuid) (url : Url)
    (profile : StreamProfile) (mode : EgressMode) : (mirrorContract args).Assertion where
  holds daemon helper := Prepared named url profile daemon.session ∧ Launched id mode url helper
  stable := stable_of_inactive
    (fun data helper => Prepared named url profile data ∧ Launched id mode url helper)
    fun _ _ holds => holds.1.inactive

/-- A navigation is under way, and the commanded URL is the one that it makes of
the URL of the snapshot. -/
def navigating (target : Option Url → Option Url) : (mirrorContract args).Assertion where
  holds daemon helper := daemon.session.snapshot.phase = .active ∧
    helper.commanded = target daemon.session.snapshot.url
  stable := by
    rintro _ _ _ _ _ ⟨settings, rfl⟩ _ holds
    rw [settings.phase, settings.url]
    exact holds

/-! ### Steps -/

/-- A successful call, from what it does to the helper. -/
theorem call {awaits : Bool} {request : Call} {pre : (mirrorContract args).Assertion}
    {post : Call.Reply request → (mirrorContract args).Assertion}
    (steps : ∀ reply daemon before after, Mirrors daemon.session before → pre.holds daemon before →
      Helper.Completes request before after → Helper.Succeeded request reply →
      Starts daemon before after ∧ Mirrors daemon.session after ∧ (post reply).holds daemon after) :
    (mirrorContract args).Spec (Helper.answer args) pre
      (.ask awaits request : Routine (Call.Reply request)) post := by
  apply Spec.ask quiet.toTotal
  intro daemon before good satisfied exchange reply after answered succeeded _
  have success := succeeded reply after answered
  exact steps reply daemon before after good.2 satisfied
    (Helper.completes_of_answer good.2.consistent.ranged answered success) success

/-- The call starts no session. -/
def Plain : Call → Prop
  | .browserStart .. => False
  | _ => True

theorem plain_completes {request : Call} {data : SessionData} {before after : Helper}
    (daemon : Daemon) (plain : Plain request) (mirrors : Mirrors data before)
    (completes : Helper.Completes request before after) :
    Starts daemon before after ∧ Mirrors data after := by
  cases request with
  | browserStart _ _ _ _ => exact plain.elim
  | browserStop => exact ⟨.of_follows completes rfl, mirrors.follow completes rfl⟩
  | browserNavigate _ => exact ⟨.of_follows completes rfl, mirrors.follow completes rfl⟩
  | egressApply | egressReset | clearRuntimeDir | writePairingFile =>
      cases completes
      exact ⟨.refl _ _, mirrors⟩

/-- A call of which nothing is remembered but the session. -/
theorem callPlain {awaits : Bool} {request : Call} {pre : (mirrorContract args).Assertion}
    (plain : Plain request)
    (blind : ∀ daemon helper helper', pre.holds daemon helper → pre.holds daemon helper') :
    (mirrorContract args).Spec (Helper.answer args) pre
      (.ask awaits request : Routine (Call.Reply request)) fun _ => pre := by
  apply call
  intro _ daemon before after mirrors satisfied completes _
  rcases plain_completes daemon plain mirrors completes with ⟨starts, later⟩
  exact ⟨starts, later, blind daemon before after satisfied⟩

theorem launch (named : Option (Uuid × EgressMode)) (id : Uuid) (url : Url)
    (profile : StreamProfile) (mode : EgressMode) :
    (mirrorContract args).Spec (Helper.answer args) (prepared named url profile)
      (Routine.browserStart id url profile mode) fun _ => launched named id url profile mode := by
  apply call
  intro _ daemon before after mirrors satisfied completes _
  have follows : Helper.Follows (.start id url profile mode) before after := completes
  have spawned := follows.spawned_of_start
  have commanded := follows.commanded_of_urls rfl
  have consistent := mirrors.consistent.follow follows
  rcases follows with ⟨told, applied, _⟩
  rcases applied.started id url profile mode rfl with ⟨sameId, sameProfile, sameMode⟩
  have started : ∃ spawn ∈ after.spawned, spawn.command.isStart = true := by
    rw [spawned]
    exact ⟨_, List.mem_append_right _ (List.mem_singleton_self _), rfl⟩
  refine ⟨.yes id url mode satisfied.inactive satisfied.url ?_ ?_,
    .of_inactive consistent satisfied.inactive, satisfied,
    ⟨sameId, sameMode, started, commanded⟩⟩
  · rw [satisfied.profile]
    exact spawned
  · rw [satisfied.profile]
    exact sameProfile

theorem publish {event : String} {pre : (mirrorContract args).Assertion} (silent : pre.Silent) :
    (mirrorContract args).Spec (Helper.answer args) pre (SessionManager.publish event)
      fun _ => pre :=
  Spec.publish quiet (fun _ _ => .refl _ _) silent

/-- A commit that leaves the session inactive. -/
theorem commitInactive {event : String} {update : Daemon → SessionData}
    {pre : (mirrorContract args).Assertion}
    (inactive : ∀ daemon, (update daemon).snapshot.phase ≠ .active) :
    (mirrorContract args).Spec (Helper.answer args) pre (SessionManager.commit event update)
      fun _ => resting :=
  Spec.commit quiet (fun _ _ _ _ _ holds => holds) fun daemon _ good _ _ _ =>
    ⟨.refl _ _, .of_inactive good.2.consistent (inactive daemon),
      fun active => absurd active (inactive daemon)⟩

/-- A commit that makes a session active that the helper has started. -/
theorem commitActive {event : String} {update : Daemon → SessionData}
    {named : Option (Uuid × EgressMode)} {id : Uuid} {url : Url} {profile : StreamProfile}
    {mode : EgressMode}
    (shows : ∀ daemon, Prepared named url profile daemon.session →
      (update daemon).snapshot.id = some id ∧ (update daemon).snapshot.egress = mode ∧
        (update daemon).snapshot.url = some url) :
    (mirrorContract args).Spec (Helper.answer args) (launched named id url profile mode)
      (SessionManager.commit event update) fun _ => resting := by
  apply Spec.commit quiet fun _ _ _ _ _ holds => holds
  rintro daemon helper good ⟨satisfied, running⟩ _ _
  rcases shows daemon satisfied with ⟨sameId, sameMode, sameUrl⟩
  refine ⟨.refl _ _, ⟨good.2.consistent, fun _ => ?_⟩, fun _ => ?_⟩
  · exact ⟨running.id.trans sameId.symm, running.egress.trans sameMode.symm, running.started⟩
  · exact running.commanded.trans sameUrl.symm

/-! ### Outlines of the session operations -/

def startOutline (manager : SessionManager) (client : Uuid) (url : Url) :
    StartOutline (mirrorContract args) (Helper.answer args) manager client url resting
      fun _ => resting where
  starting id profile mode := prepared (some (id, mode)) url profile
  launching id profile mode := prepared (some (id, mode)) url profile
  launched id profile mode := launched (some (id, mode)) id url profile mode
  stopping := inactive
  resetting := inactive
  clearing := inactive
  failing := inactive
  entry := by
    apply Spec.transactBy quiet.toTotal (beginStart_cases manager client url)
    intro daemon helper good rested after outcome _ _
    cases outcome with
    | busy _ _ => exact ⟨.refl _ _, good.2, rested⟩
    | blocked _ => exact ⟨.refl _ _, good.2, rested⟩
    | conflict _ _ _ => exact ⟨.refl _ _, good.2, rested⟩
    | begun _ _ _ =>
        refine ⟨.refl _ _, .of_inactive good.2.consistent nofun, nofun, rfl, rfl, ?_⟩
        rintro _ _ ⟨⟩
        exact ⟨rfl, rfl⟩
  announce _ _ _ := publish fun _ _ _ _ holds => holds
  apply id profile mode := by
    have applied : (mirrorContract args).Spec (Helper.answer args)
        (prepared (some (id, mode)) url profile) (Routine.egressApply mode)
        fun _ => prepared (some (id, mode)) url profile :=
      callPlain trivial fun _ _ _ holds => holds
    exact Spec.either applied (fun _ _ holds => holds) fun _ _ holds => holds.inactive
  launch id profile mode := Spec.either (launch (some (id, mode)) id url profile mode)
    (fun _ _ holds => holds) fun _ _ holds => holds.1.inactive
  stop := callPlain trivial fun _ _ _ holds => holds
  reset := callPlain trivial fun _ _ _ holds => holds
  clear := callPlain trivial fun _ _ _ holds => holds
  fail _ := commitInactive fun _ => nofun
  activate id profile mode := commitActive fun daemon satisfied =>
    ⟨(satisfied.named id mode rfl).1, (satisfied.named id mode rfl).2, satisfied.url⟩

def burnOutline (manager : SessionManager) :
    BurnOutline (mirrorContract args) (Helper.answer args) manager resting
      fun _ => resting where
  burning := inactive
  resetting _ := inactive
  clearing _ := inactive
  burned _ := inactive
  entry := by
    apply Spec.transactBy quiet.toTotal beginBurn_cases
    intro daemon helper good rested after outcome _ _
    cases outcome with
    | idle _ => exact ⟨.refl _ _, good.2, rested⟩
    | burning _ => exact ⟨.refl _ _, .of_inactive good.2.consistent nofun, nofun⟩
  announce := publish fun _ _ _ _ holds => holds
  stop := Spec.split (callPlain trivial fun _ _ _ holds => holds)
  reset _ := Spec.split (callPlain trivial fun _ _ _ holds => holds)
  clear _ := Spec.split (callPlain trivial fun _ _ _ holds => holds)
  idle := commitInactive fun _ => nofun
  fail _ _ _ := commitInactive fun _ => nofun

/-- The URL of the snapshot after a navigation. -/
def arrives : NavigationCommand → Option Url → Option Url
  | .navigate url, _ => some url
  | _, current => current

theorem commanded_of_follows {command : NavigationCommand} {before after : Helper}
    (follows : Helper.Follows (.navigate command) before after) :
    after.commanded = arrives command before.commanded := by
  cases command with
  | navigate url => exact follows.commanded_of_urls rfl
  | back | forward | reload | stop => exact follows.commanded_eq rfl

def navigateOutline (manager : SessionManager) (client : Uuid) (command : NavigationCommand) :
    NavigateOutline (mirrorContract args) (Helper.answer args) manager client command resting
      fun _ => resting where
  navigating := navigating fun current => current
  navigated := navigating (arrives command)
  entry := by
    apply Spec.transactBy quiet.toTotal (beginNavigation_cases manager client command)
    intro daemon helper good rested after outcome _ _
    cases outcome with
    | refused _ _ => exact ⟨.refl _ _, good.2, rested⟩
    | blocked _ _ _ _ => exact ⟨.refl _ _, good.2.congr rfl rfl rfl, rested⟩
    | begun lease _ =>
        have active := (ensureActiveLease_eq_ok_iff.mp lease).2
        exact ⟨.refl _ _, good.2.congr rfl rfl rfl, active, rested active⟩
  request := by
    apply call
    rintro reply daemon before after mirrors ⟨active, synced⟩ completes succeeded
    have plain : Plain (.browserNavigate command) := trivial
    rcases plain_completes daemon plain mirrors completes with ⟨starts, later⟩
    have arrived := commanded_of_follows completes
    rw [synced] at arrived
    refine ⟨starts, later, ?_⟩
    cases reply with
    | ok _ => exact ⟨active, arrived⟩
    | error _ => cases succeeded
  commit := by
    apply Spec.commit quiet fun _ _ _ _ _ holds => holds
    rintro daemon helper good ⟨active, arrived⟩ _ _
    refine ⟨.refl _ _, good.2.congr ?_ ?_ ?_, fun _ => ?_⟩
    · cases command <;> rfl
    · cases command <;> rfl
    · cases command <;> rfl
    · rw [arrived]
      cases command <;> rfl

def restartOutline (id : Uuid) (url : Url) (profile : StreamProfile) (mode : EgressMode)
    {failure : (mirrorContract args).Assertion}
    (failed : ∀ daemon helper, Prepared none url profile daemon.session →
      failure.holds daemon helper) :
    RestartOutline (mirrorContract args) (Helper.answer args) id url profile mode
      (prepared none url profile) (launched none id url profile mode) failure where
  clearing := prepared none url profile
  applying := prepared none url profile
  launching := prepared none url profile
  reset := Spec.either (callPlain trivial fun _ _ _ holds => holds) (fun _ _ holds => holds) failed
  clear := Spec.either (callPlain trivial fun _ _ _ holds => holds) (fun _ _ holds => holds) failed
  apply := Spec.either (callPlain trivial fun _ _ _ holds => holds) (fun _ _ holds => holds) failed
  launch := Spec.either (launch none id url profile mode) (fun _ _ holds => holds)
    fun daemon helper holds => failed daemon helper holds.1

theorem draw (url : Url) (profile : StreamProfile) :
    (mirrorContract args).Spec (Helper.answer args) (prepared none url profile)
      (sync Daemon.newUuid : Routine Uuid) fun _ => prepared none url profile :=
  Spec.transact quiet.toTotal fun _ _ good satisfied _ _ => ⟨.refl _ _, good.2, satisfied⟩

def switchOutline (client : Uuid) (mode : EgressMode) :
    SwitchOutline (mirrorContract args) (Helper.answer args) client mode resting
      fun _ => resting where
  switching url profile _ := prepared none url profile
  stopping _ url profile _ := prepared none url profile
  resetting _ url profile _ := prepared none url profile
  switched id url profile _ := launched none id url profile mode
  attempted url profile _ := prepared none url profile
  rollbackStopping _ url profile _ := prepared none url profile
  rollbackResetting _ url profile _ := prepared none url profile
  rolledBack id url profile previous := launched none id url profile previous
  lost := inactive
  entry := by
    apply Spec.transactBy quiet.toTotal (beginSwitch_cases client)
    intro daemon helper good rested after outcome _ _
    cases outcome with
    | refused _ _ => exact ⟨.refl _ _, good.2, rested⟩
    | absent _ _ => exact ⟨.refl _ _, .of_inactive good.2.consistent nofun, nofun⟩
    | begun url _ present =>
        exact ⟨.refl _ _, .of_inactive good.2.consistent nofun, nofun, present, rfl, nofun⟩
  announce _ _ _ := publish fun _ _ _ _ holds => holds
  draw url profile _ := draw url profile
  stop _ url profile _ := Spec.split (callPlain trivial fun _ _ _ holds => holds)
  attempt id url profile _ := restartOutline id url profile mode fun _ _ holds => holds
  commit _ _ _ _ := commitActive fun _ satisfied => ⟨rfl, rfl, satisfied.url⟩
  redraw url profile _ := draw url profile
  restop _ url profile _ := callPlain trivial fun _ _ _ holds => holds
  rollback id url profile previous := restartOutline id url profile previous
    fun _ _ holds => holds.inactive
  commitRollback _ _ _ _ _ := commitActive fun _ satisfied => ⟨rfl, rfl, satisfied.url⟩
  fail _ := commitInactive fun _ => nofun

theorem specs (manager : SessionManager) :
    SessionSpecs (mirrorContract args) (Helper.answer args) manager resting where
  quiet := quiet
  reflexive _ _ := .refl _ _
  atRest _ _ := Iff.rfl
  finish _ _ _ := Iff.rfl
  start client url := (startOutline manager client url).sound
  forceBurn := (burnOutline manager).sound
  navigate client command := (navigateOutline manager client command).sound
  switchEgress client mode := (switchOutline client mode).sound

theorem blind : Blind (mirrorContract args) (Helper.answer args) resting where
  auth _ _ _ _ good rested _ _ := ⟨.refl _ _, good.2, rested⟩
  pairingFile _ _ _ _ _ _ good rested answered _ _ := by
    cases answered
    exact ⟨.refl _ _, good.2, rested⟩

theorem interference : Interference (mirrorContract args) (W := Helper) AppState.still where
  request _ _ _ good step _ _ :=
    ⟨⟨step.session, rfl⟩, good.2.congr step.session.phase step.session.id step.session.egress⟩
  clock _ _ _ _ good _ _ := ⟨⟨.same, rfl⟩, good.2⟩
  world event := event.elim

theorem established (app : AppState) :
    (mirrorContract args).Established (app.service (Helper.answer args) AppState.still) :=
  (specs app.sessions).established_service blind interference

theorem initial {app : AppState} {daemon : Daemon} (booted : app.Booted daemon) :
    (mirrorContract args).Holds (Helper.answer args)
      (.idle daemon {} : Config Daemon Call Call.Reply Response Helper) := by
  have idle : daemon.session.snapshot.phase ≠ .active := by
    rw [booted.session]
    nofun
  have consistent : Helper.Consistent {} := by
    refine ⟨Or.inl ⟨rfl, rfl⟩, rfl, ?_⟩
    intro front spawn rest impossible
    simp at impossible
  constructor
  · exact ⟨trivial, .of_inactive consistent idle⟩
  · exact fun _ active => absurd active idle
  · rintro program ⟨⟩
  · rintro program ⟨⟩

end mirrorContract

/-! ## The result -/

section Runs

variable {app : AppState} {args : Args} {daemon : Daemon}
  {config : Config Daemon Call Call.Reply Response Helper}

/-- The last start of a browser in a run: what the helper was given, and that it
was given no other start since. -/
structure LastStart (app : AppState) (args : Args) (daemon : Daemon)
    (config before after : Config Daemon Call Call.Reply Response Helper) : Prop where
  reached : (app.service (Helper.answer args) AppState.still).ReachesUnder (succeeding args)
    (.idle daemon {}) before
  step : ∃ label, (app.service (Helper.answer args) AppState.still).step before label = some after
  since : (app.service (Helper.answer args) AppState.still).ReachesUnder (succeeding args)
    after config
  inactive : before.memory.session.snapshot.phase ≠ .active
  started : ∃ id url mode, before.memory.session.snapshot.url = some url ∧
    after.world.spawned = before.world.spawned ++
      [⟨.start id url before.memory.session.snapshot.streamProfile mode, url⟩]
  profile : config.world.pipeline.profile = before.memory.session.snapshot.streamProfile
  only : ∃ more, config.world.spawned = after.world.spawned ++ more ∧
    ∀ spawn ∈ more, spawn.command.isStart = false

theorem LastStart.extend {label : Sample.ServiceLabel Exchange Empty}
    {before after config' : Config Daemon Call Call.Reply Response Helper} {more : List Spawn}
    (last : LastStart app args daemon config before after)
    (admitted : (succeeding args).Allowed config label)
    (step : (app.service (Helper.answer args) AppState.still).step config label = some config')
    (spawned : config'.world.spawned = config.world.spawned ++ more)
    (other : ∀ spawn ∈ more, spawn.command.isStart = false)
    (profile : config'.world.pipeline.profile = config.world.pipeline.profile) :
    LastStart app args daemon config' before after where
  reached := last.reached
  step := last.step
  since := last.since.tail admitted step
  inactive := last.inactive
  started := last.started
  profile := profile.trans last.profile
  only := by
    rcases last.only with ⟨earlier, grown, others⟩
    refine ⟨earlier ++ more, ?_, ?_⟩
    · rw [spawned, grown, List.append_assoc]
    · intro spawn member
      rcases List.mem_append.mp member with old | new
      · exact others spawn old
      · exact other spawn new

/-- A browser that has been started has been started last. -/
theorem lastStart_of_reaches (booted : app.Booted daemon)
    (reaches : (app.service (Helper.answer args) AppState.still).ReachesUnder (succeeding args)
      (.idle daemon {}) config) :
    (∀ spawn ∈ config.world.spawned, spawn.command.isStart = false) ∨
      ∃ before after, LastStart app args daemon config before after := by
  induction reaches with
  | refl => exact Or.inl fun _ member => nomatch member
  | @tail middle target label reached admitted step ih =>
      have moves := (mirrorContract.established app).moves (mirrorContract.initial booted)
        (fun _ _ => trivial) reached admitted step
      have starts : Starts middle.memory middle.world target.world := by
        rcases moves with ⟨_, same⟩ | starts | ⟨_, same⟩
        · rw [same]
          exact Starts.refl _ _
        · exact starts
        · rw [same]
          exact Starts.refl _ _
      cases starts with
      | no more spawned other profile =>
          rcases ih with none | ⟨before, after, last⟩
          · refine Or.inl fun spawn member => ?_
            rw [spawned] at member
            rcases List.mem_append.mp member with old | new
            · exact none spawn old
            · exact other spawn new
          · exact Or.inr ⟨before, after, last.extend admitted step spawned other profile⟩
      | yes id url mode inactive present spawned profile =>
          exact Or.inr ⟨middle, target, reached, ⟨label, step⟩, .refl, inactive,
            ⟨id, url, mode, present, spawned⟩, profile, [], (List.append_nil _).symm,
            fun _ member => nomatch member⟩

/-- What the snapshot of an active session says about the helper. -/
structure HelperMirrored (app : AppState) (args : Args) (daemon : Daemon)
    (config : Config Daemon Call Call.Reply Response Helper) : Prop where
  id : config.world.pipeline.sessionId = config.memory.session.snapshot.id
  egress : config.world.pipeline.egress = config.memory.session.snapshot.egress
  url : config.holder = none → config.world.commanded = config.memory.session.snapshot.url
  shown : config.holder = none → ∀ front spawn rest,
    config.world.spawned = front ++ spawn :: rest → spawn.command.urls ≠ [] →
    (∀ later ∈ rest, later.command = .navigate .reload) →
    config.world.shown = config.memory.session.snapshot.url
  profile : ∃ before after, LastStart app args daemon config before after

theorem Helper.commanded_of_split {helper : Helper} {front rest : List Spawn} {spawn : Spawn}
    (split : helper.spawned = front ++ spawn :: rest) (named : spawn.command.urls ≠ [])
    (reloads : ∀ later ∈ rest, later.command = .navigate .reload) :
    helper.commanded = some spawn.url := by
  have none : (rest.filter fun later => !later.command.urls.isEmpty) = [] := by
    rw [List.filter_eq_nil_iff]
    intro later member
    rw [reloads later member]
    simp [BrowserCommand.urls]
  have kept : (!spawn.command.urls.isEmpty) = true := by simpa using named
  simp [Helper.commanded, split, none, kept]

/-- In every run in which browser and policy calls succeed, an active session
has the identifier and the mode of the helper.  While no operation runs its URL
is the one that was commanded last, which is the one shown unless a move within
the history has followed.  The profile of the helper is the one that the
snapshot had at the last start of the browser. -/
theorem helper_mirrored_of_reaches (booted : app.Booted daemon)
    (reaches : (app.service (Helper.answer args) AppState.still).ReachesUnder (succeeding args)
      (.idle daemon {}) config)
    (active : config.memory.session.snapshot.phase = .active) :
    HelperMirrored app args daemon config := by
  have holds := (mirrorContract.established app).sound (mirrorContract.initial booted)
    (fun _ _ => trivial) reaches
  have runs := holds.good.2.active active
  constructor
  · exact runs.id
  · exact runs.egress
  · exact fun free => holds.rest free active
  · intro free front spawn rest split named reloads
    rw [holds.good.2.consistent.reloaded front spawn rest split reloads,
      ← holds.rest free active, Helper.commanded_of_split split named reloads]
  · rcases lastStart_of_reaches booted reaches with none | last
    · rcases runs.started with ⟨spawn, member, started⟩
      rw [none spawn member] at started
      cases started
    · exact last

end Runs

namespace Sample

/-- The call is answered with success. -/
def succeeds (args : Args) (request : Call) (exchange : Exchange) (helper : Helper) : Bool :=
  match request with
  | .browserStart id url profile egress =>
      (helper.request args exchange (.start id url profile egress)).1.isOk
  | .browserStop => (helper.request args exchange .stop).1.isOk
  | .browserNavigate navigation => (helper.request args exchange (.navigate navigation)).1.isOk
  | .egressApply _ | .egressReset => (Helper.other exchange).isOk
  | .clearRuntimeDir | .writePairingFile _ => true

/-- The label is admitted in a run without failures. -/
def smooth (args : Args) (config : Config Daemon Call Call.Reply Response Helper) :
    ServiceLabel Exchange Empty → Bool
  | .step (some exchange) =>
      match config.holder with
      | some (.call _ request _) => succeeds args request exchange config.world
      | _ => true
  | .stepTask _ (some _) | .drop _ => false
  | _ => true

theorem succeeded_of_succeeds {args : Args} {request : Call} {exchange : Exchange}
    {helper after : Helper} {reply : request.Reply}
    (answered : Helper.answer args request exchange helper = some (reply, after))
    (success : succeeds args request exchange helper = true) :
    Helper.Succeeded request reply := by
  have ok_of_isOk : ∀ result : Except AppError Unit, result.isOk = true → result = .ok () := by
    intro result success
    cases result with
    | ok _ => rfl
    | error _ => cases success
  cases request with
  | browserStart | browserStop | browserNavigate | egressApply | egressReset =>
      obtain rfl := congrArg Prod.fst (Option.some.inj answered)
      exact ok_of_isOk _ success
  | clearRuntimeDir | writePairingFile => trivial

theorem smooth_allowed (args : Args) (config : Config Daemon Call Call.Reply Response Helper)
    (label : ServiceLabel Exchange Empty) (accepted : smooth args config label = true) :
    (succeeding args).Allowed config label := by
  cases label with
  | step outcome =>
      intro program running
      cases program with
      | done _ | access _ _ _ => trivial
      | call awaits request next =>
          rintro exchange rfl reply after answered
          simp only [smooth, running] at accepted
          exact succeeded_of_succeeds answered accepted
  | stepTask index outcome =>
      cases outcome with
      | none =>
          intro program _
          cases program with
          | done _ | access _ _ _ => trivial
          | call _ _ _ => exact fun _ impossible => nomatch impossible
      | some _ => cases accepted
  | drop _ => cases accepted
  | _ => trivial

/-- The first client changes the profile, visits another page, and goes back. -/
def roundTrip : List (ServiceLabel Exchange Empty) :=
  openSession launched 8 ++ [.finish, .spawn (.setStreamProfile 0 .hd15), .stepTask 1 none] ++
    navigates launched (.navigate (url "example.org")) 6 ++ [.finish] ++
    navigates launched .back 6 ++ [.finish]

end Sample

/-- After the round trip the snapshot shows the page that was visited, and the
helper still has its first profile. -/
theorem helper_mirrored_of_roundTrip :
    ∃ config : Config Daemon Call Call.Reply Response Helper,
      config.memory.session.snapshot.url = some (Sample.url "example.org") ∧
        config.world.pipeline.profile = .fullHd30 ∧
        HelperMirrored Sample.app Sample.args Sample.daemon config := by
  let next := (Sample.app.service (Helper.answer Sample.args) AppState.still).step
  have executed : ((run (guarded next (Sample.smooth Sample.args)) (.idle Sample.daemon {})
      Sample.roundTrip).map fun config => (config.memory.session.snapshot.phase,
        config.memory.session.snapshot.url, config.world.pipeline.profile)) =
      some (.active, some (Sample.url "example.org"), .fullHd30) := by
    decide +kernel
  rcases Option.map_eq_some_iff.mp executed with ⟨config, reached, values⟩
  simp only [Prod.mk.injEq] at values
  rcases values with ⟨active, url, profile⟩
  exact ⟨config, url, profile, helper_mirrored_of_reaches Sample.daemon_booted
    (reachableUnder_of_run (Sample.smooth_allowed Sample.args) reached) active⟩

/-- After the round trip neither the profile nor the URL of the snapshot is that
of the helper. -/
theorem not_mirrored_of_roundTrip :
    ¬ ∀ config : Config Daemon Call Call.Reply Response Helper,
      (Sample.app.service (Helper.answer Sample.args) AppState.still).ReachesUnder
        (succeeding Sample.args) (.idle Sample.daemon {}) config →
      config.holder = none → config.memory.session.snapshot.phase = .active →
      config.memory.session.snapshot.id = config.world.pipeline.sessionId ∧
        config.memory.session.snapshot.egress = config.world.pipeline.egress ∧
        config.memory.session.snapshot.streamProfile = config.world.pipeline.profile ∧
        config.memory.session.snapshot.url = config.world.shown := by
  intro always
  let next := (Sample.app.service (Helper.answer Sample.args) AppState.still).step
  have executed : ((run (guarded next (Sample.smooth Sample.args)) (.idle Sample.daemon {})
      Sample.roundTrip).map fun config => ((config.holder.isNone,
        config.memory.session.snapshot.phase), config.memory.session.snapshot.streamProfile,
        config.world.pipeline.profile, config.memory.session.snapshot.url,
        config.world.shown)) =
      some ((true, .active), .hd15, .fullHd30, some (Sample.url "example.org"),
        some (Sample.url "example.com")) := by
    decide +kernel
  rcases Option.map_eq_some_iff.mp executed with ⟨config, reached, values⟩
  simp only [Prod.mk.injEq] at values
  rcases values with ⟨⟨free, active⟩, profile, helperProfile, url, shown⟩
  rcases always config (reachableUnder_of_run (Sample.smooth_allowed Sample.args) reached)
    (Option.isNone_iff_eq_none.mp free) active with ⟨_, _, sameProfile, sameUrl⟩
  rw [profile, helperProfile] at sameProfile
  cases sameProfile

end XanhTab
