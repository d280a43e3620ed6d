import XanhTab.Browser.Helper
import XanhTab.Daemon.Establish
import XanhTab.Program.Segment

/-!
# The navigation policy

Which URLs the browser helper is told to spawn.  The policy is applied where a
URL enters: at a start and at an explicit navigation.  Moves within the history
of the helper, and restarts under another egress mode, reuse URLs that have
entered in this way, and are not checked again when the setting has changed.
-/

namespace XanhTab

open Program Contract Transition

/-- A start or a navigation has been accepted with the URL. -/
def Daemon.Admitted (daemon : Daemon) (url : Url) : Prop :=
  ∃ admission ∈ daemon.admissions, admission.url = url

/-- The URL of the start or navigation that was accepted last. -/
def Daemon.lastAdmitted (daemon : Daemon) : Option Url :=
  daemon.admissions.getLast?.map Admission.url

theorem Daemon.admitted_of_last {daemon : Daemon} {url : Url}
    (last : daemon.lastAdmitted = some url) : daemon.Admitted url := by
  rcases Option.map_eq_some_iff.mp last with ⟨admission, present, equal⟩
  exact ⟨admission, List.mem_of_getLast? present, equal⟩

/-- Every URL that the helper may return to has been admitted, and none was
admitted that the policy, as it was set then, refuses. -/
structure Vetted (manager : SessionManager) (daemon : Daemon) (helper : Helper) : Prop where
  checked : ∀ admission ∈ daemon.admissions, admission.enabled = true →
    manager.blocks admission.url = false
  current : ∀ url, daemon.session.snapshot.url = some url → daemon.Admitted url
  history : ∀ url ∈ helper.pipeline.history, daemon.Admitted url
  ranged : helper.pipeline.Ranged

/-- The helper is told to spawn an admitted URL.  If a start or a navigation
names it then it is the one that this operation was accepted with. -/
structure Covered (daemon : Daemon) (spawn : Spawn) : Prop where
  admitted : daemon.Admitted spawn.url
  own : spawn.command.urls ≠ [] → daemon.session.snapshot.phase ≠ .burning →
    daemon.lastAdmitted = some spawn.url

namespace Vetted

variable {manager : SessionManager} {daemon : Daemon} {helper : Helper}

/-- Only the admissions and the URL of the session matter. -/
theorem keep (vetted : Vetted manager daemon helper) {daemon' : Daemon}
    (admissions : daemon'.admissions = daemon.admissions)
    (current : ∀ url, daemon'.session.snapshot.url = some url → daemon.Admitted url) :
    Vetted manager daemon' helper := by
  constructor
  · rw [admissions]
    exact vetted.checked
  · unfold Daemon.Admitted
    rw [admissions]
    exact current
  · unfold Daemon.Admitted
    rw [admissions]
    exact vetted.history
  · exact vetted.ranged

/-- Further URLs are admitted under the policy as it is set. -/
theorem admitted (vetted : Vetted manager daemon helper) {data : SessionData} {rng : Rng}
    {more : List Admission}
    (allowed : ∀ admission ∈ more, admission.enabled = true →
      manager.blocks admission.url = false)
    (current : ∀ url, data.snapshot.url = some url →
      daemon.session.snapshot.url = some url ∨ ∃ admission ∈ more, admission.url = url) :
    Vetted manager
      { daemon with session := data, rng := rng, admissions := daemon.admissions ++ more }
      helper := by
  have old : ∀ url, daemon.Admitted url →
      Daemon.Admitted { daemon with admissions := daemon.admissions ++ more } url := by
    rintro url ⟨admission, member, equal⟩
    exact ⟨admission, List.mem_append_left _ member, equal⟩
  constructor
  · intro admission member enabled
    rcases List.mem_append.mp member with known | new
    · exact vetted.checked admission known enabled
    · exact allowed admission new enabled
  · intro url present
    rcases current url present with known | ⟨admission, member, equal⟩
    · exact old url (vetted.current url known)
    · exact ⟨admission, List.mem_append_right _ member, equal⟩
  · exact fun url member => old url (vetted.history url member)
  · exact vetted.ranged

end Vetted

/-! ## The contract -/

def policyContract (manager : SessionManager) :
    Contract Daemon Call Response Helper Exchange where
  always := Vetted manager
  rely before helper after helper' := SettingsStep before.session after.session ∧
    after.admissions = before.admissions ∧ helper' = helper
  guarantee before helper _ helper' := ∀ spawn, helper'.spawned = helper.spawned ++ [spawn] →
    Covered before spawn

namespace policyContract

variable {manager : SessionManager} {args : Args}

/-- A section tells the helper nothing. -/
theorem silent (before after : Daemon) (helper : Helper) :
    (policyContract manager).guarantee before helper after helper := by
  intro spawn impossible
  simp at impossible

theorem quiet : (policyContract manager).Quiet where
  rest _ _ _ _ := trivial
  unread _ _ _ _ _ := trivial
  publish _ _ _ _ good _ := ⟨silent _ _ _, good.2.keep rfl good.2.current⟩

/-! ### Assertions -/

/-- The URLs are those that the operation was accepted with. -/
def commanding (urls : List Url) : (policyContract manager).Assertion where
  holds daemon _ := ∀ url ∈ urls, daemon.lastAdmitted = some url
  stable := by
    intro _ _ _ _ _ relied _ holds
    unfold Daemon.lastAdmitted
    rw [relied.2.1]
    exact holds

/-- The session is being switched, and its URL will be used again. -/
def Restarts (url : Url) (daemon : Daemon) : Prop :=
  daemon.session.snapshot.phase = .burning ∧ daemon.Admitted url

def restarting (url : Url) : (policyContract manager).Assertion where
  holds daemon _ := Restarts url daemon
  stable := by
    intro _ _ _ _ _ relied _ holds
    unfold Restarts Daemon.Admitted
    rw [relied.1.phase, relied.2.1]
    exact holds

/-! ### Steps -/

/-- A call, from what is known of the URLs that it names. -/
theorem call {awaits : Bool} {request : Call} {pre : (policyContract manager).Assertion}
    (named : ∀ daemon helper, pre.holds daemon helper → ∀ url ∈ request.urls,
      daemon.Admitted url ∧
        (daemon.session.snapshot.phase ≠ .burning → daemon.lastAdmitted = some url))
    (blind : ∀ daemon helper helper', pre.holds daemon helper → pre.holds daemon helper') :
    (policyContract manager).Spec (Helper.answer args) pre
      (.ask awaits request : Routine (Call.Reply request)) fun _ => pre := by
  apply Spec.ask quiet.toTotal
  intro daemon helper good satisfied exchange reply helper' answered _ _
  have served := Helper.served_of_answer good.2.ranged answered
  have known := named daemon helper satisfied
  refine ⟨?_, ?_, blind daemon helper helper' satisfied⟩
  · intro spawn told
    rcases served.spawned with same | ⟨spawned, equal, urls, source⟩
    · rw [same] at told
      simp at told
    · rw [equal] at told
      obtain rfl : spawned = spawn := by simpa using told
      rcases source with named | ⟨unnamed, past⟩
      · exact ⟨(known _ named).1, fun _ => (known _ named).2⟩
      · exact ⟨good.2.history _ past, fun naming => absurd (urls.trans unnamed) naming⟩
  · refine ⟨good.2.checked, good.2.current, fun url member => ?_, served.ranged⟩
    rcases served.history url member with past | named
    · exact good.2.history url past
    · exact (known url named).1

/-- A call that names no URL. -/
theorem callUnnamed {awaits : Bool} {request : Call} {pre : (policyContract manager).Assertion}
    (unnamed : request.urls = [])
    (blind : ∀ daemon helper helper', pre.holds daemon helper → pre.holds daemon helper') :
    (policyContract manager).Spec (Helper.answer args) pre
      (.ask awaits request : Routine (Call.Reply request)) fun _ => pre :=
  call (fun _ _ _ url member => by rw [unnamed] at member; exact nomatch member) blind

theorem publish {event : String} {pre : (policyContract manager).Assertion}
    (quietly : pre.Silent) :
    (policyContract manager).Spec (Helper.answer args) pre (SessionManager.publish event)
      fun _ => pre :=
  Spec.publish quiet (fun _ _ => silent _ _ _) quietly

/-- A commit that shows no URL that has not been admitted. -/
theorem commit {event : String} {update : Daemon → SessionData}
    {pre : (policyContract manager).Assertion}
    (current : ∀ daemon helper, Vetted manager daemon helper → pre.holds daemon helper →
      ∀ url, (update daemon).snapshot.url = some url → daemon.Admitted url) :
    (policyContract manager).Spec (Helper.answer args) pre (SessionManager.commit event update)
      fun _ => .trivial :=
  Spec.commit quiet (fun _ _ _ _ _ _ => trivial) fun daemon helper good satisfied _ _ =>
    ⟨silent _ _ _, good.2.keep rfl (current daemon helper good.2 satisfied), trivial⟩

/-- A commit that leaves the URL as it is. -/
theorem commitKept {event : String} {update : Daemon → SessionData}
    {pre : (policyContract manager).Assertion}
    (kept : ∀ daemon, (update daemon).snapshot.url = daemon.session.snapshot.url) :
    (policyContract manager).Spec (Helper.answer args) pre (SessionManager.commit event update)
      fun _ => .trivial := by
  apply commit
  intro daemon _ vetted _ url present
  rw [kept] at present
  exact vetted.current url present

/-- A commit of initial data. -/
theorem commitCleared {event : String} {update : Daemon → SessionData}
    {pre : (policyContract manager).Assertion}
    (cleared : ∀ daemon, (update daemon).snapshot.url = none) :
    (policyContract manager).Spec (Helper.answer args) pre (SessionManager.commit event update)
      fun _ => .trivial := by
  apply commit
  intro daemon _ _ _ url present
  rw [cleared] at present
  cases present

/-! ### Outlines of the session operations -/

theorem not_refused {data : SessionData} {url : Url} (allowed : ¬ manager.Refuses data url)
    (enabled : data.snapshot.blocklistEnabled = true) : manager.blocks url = false := by
  by_contra blocked
  exact allowed ⟨enabled, by simpa using blocked⟩

def startOutline (client : Uuid) (url : Url) :
    StartOutline (policyContract manager) (Helper.answer args) manager client url .trivial
      fun _ => .trivial where
  starting _ _ _ := commanding [url]
  launching _ _ _ := commanding [url]
  launched _ _ _ := .trivial
  stopping := .trivial
  resetting := .trivial
  clearing := .trivial
  failing := .trivial
  entry := by
    apply Spec.transactBy quiet.toTotal (beginStart_cases manager client url)
    intro daemon helper good _ after outcome _ _
    cases outcome with
    | busy _ _ => exact ⟨silent _ _ _, good.2, trivial⟩
    | blocked _ => exact ⟨silent _ _ _, good.2.keep rfl good.2.current, trivial⟩
    | conflict _ _ _ => exact ⟨silent _ _ _, good.2, trivial⟩
    | begun _ _ allowed =>
        refine ⟨silent _ _ _, good.2.admitted ?_ ?_, ?_⟩
        · intro admission member enabled
          obtain rfl := List.mem_singleton.mp member
          exact not_refused allowed enabled
        · rintro url ⟨⟩
          exact Or.inr ⟨_, List.mem_singleton_self _, rfl⟩
        · intro url member
          obtain rfl := List.mem_singleton.mp member
          simp [Daemon.lastAdmitted]
  announce _ _ _ := publish fun _ _ _ _ holds => holds
  apply _ _ _ := Spec.either (callUnnamed rfl fun _ _ _ holds => holds)
    (fun _ _ holds => holds) fun _ _ _ => trivial
  launch id profile egress := by
    have launched : (policyContract manager).Spec (Helper.answer args) (commanding [url])
        (Routine.browserStart id url profile egress) fun _ => commanding [url] := by
      apply call
      · intro daemon helper holds url member
        exact ⟨Daemon.admitted_of_last (holds url member), fun _ => holds url member⟩
      · exact fun _ _ _ holds => holds
    exact Spec.either launched (fun _ _ _ => trivial) fun _ _ _ => trivial
  stop := callUnnamed rfl fun _ _ _ _ => trivial
  reset := callUnnamed rfl fun _ _ _ _ => trivial
  clear := callUnnamed rfl fun _ _ _ _ => trivial
  fail _ := commitKept fun _ => rfl
  activate _ _ _ := commitKept fun _ => rfl

def burnOutline :
    BurnOutline (policyContract manager) (Helper.answer args) manager .trivial
      fun _ => .trivial where
  burning := .trivial
  resetting _ := .trivial
  clearing _ := .trivial
  burned _ := .trivial
  entry := by
    apply Spec.transactBy quiet.toTotal beginBurn_cases
    intro daemon helper good _ after outcome _ _
    cases outcome with
    | idle _ => exact ⟨silent _ _ _, good.2, trivial⟩
    | burning _ => exact ⟨silent _ _ _, good.2.keep rfl good.2.current, trivial⟩
  announce := publish fun _ _ _ _ _ => trivial
  stop := Spec.split (callUnnamed rfl fun _ _ _ holds => holds)
  reset _ := Spec.split (callUnnamed rfl fun _ _ _ holds => holds)
  clear _ := Spec.split (callUnnamed rfl fun _ _ _ holds => holds)
  idle := commitCleared fun _ => rfl
  fail _ _ _ := commitCleared fun _ => rfl

def navigateOutline (client : Uuid) (command : NavigationCommand) :
    NavigateOutline (policyContract manager) (Helper.answer args) manager client command
      .trivial fun _ => .trivial where
  navigating := commanding (Call.browserNavigate command).urls
  navigated := commanding (Call.browserNavigate command).urls
  entry := by
    apply Spec.transactBy quiet.toTotal (beginNavigation_cases manager client command)
    intro daemon helper good _ after outcome _ _
    cases outcome with
    | refused _ _ => exact ⟨silent _ _ _, good.2, trivial⟩
    | blocked _ _ _ _ => exact ⟨silent _ _ _, good.2.keep rfl good.2.current, trivial⟩
    | begun _ allowed =>
        refine ⟨silent _ _ _, good.2.admitted ?_ fun _ present => Or.inl present, ?_⟩
        · intro admission member enabled
          cases command with
          | navigate url =>
              obtain rfl := List.mem_singleton.mp member
              exact not_refused (allowed url rfl) enabled
          | _ => exact nomatch member
        · intro url member
          cases command with
          | navigate target =>
              obtain rfl := List.mem_singleton.mp member
              simp [Daemon.lastAdmitted, SessionManager.admitted]
          | _ => exact nomatch member
  request := by
    have requested : (policyContract manager).Spec (Helper.answer args)
        (commanding (Call.browserNavigate command).urls) (Routine.browserNavigate command)
        fun _ => commanding (Call.browserNavigate command).urls := by
      apply call
      · intro daemon helper holds url member
        exact ⟨Daemon.admitted_of_last (holds url member), fun _ => holds url member⟩
      · exact fun _ _ _ holds => holds
    exact Spec.either requested (fun _ _ holds => holds) fun _ _ _ => trivial
  commit := by
    apply commit
    intro daemon helper vetted holds url present
    cases command with
    | navigate target =>
        obtain rfl := Option.some.inj present
        exact Daemon.admitted_of_last (holds target (List.mem_singleton_self _))
    | _ => exact vetted.current url present

def restartOutline (id : Uuid) (url : Url) (profile : StreamProfile) (mode : EgressMode)
    {failure : (policyContract manager).Assertion}
    (failed : ∀ daemon helper, Restarts url daemon → failure.holds daemon helper) :
    RestartOutline (policyContract manager) (Helper.answer args) id url profile mode
      (restarting url) (restarting url) failure where
  clearing := restarting url
  applying := restarting url
  launching := restarting url
  reset := Spec.either (callUnnamed rfl fun _ _ _ holds => holds) (fun _ _ holds => holds) failed
  clear := Spec.either (callUnnamed rfl fun _ _ _ holds => holds) (fun _ _ holds => holds) failed
  apply := Spec.either (callUnnamed rfl fun _ _ _ holds => holds) (fun _ _ holds => holds) failed
  launch := by
    have launched : (policyContract manager).Spec (Helper.answer args) (restarting url)
        (Routine.browserStart id url profile mode) fun _ => restarting url := by
      apply call
      · intro daemon helper holds target member
        obtain rfl := List.mem_singleton.mp member
        exact ⟨holds.2, fun active => absurd holds.1 active⟩
      · exact fun _ _ _ holds => holds
    exact Spec.either launched (fun _ _ holds => holds) failed

theorem draw (url : Url) :
    (policyContract manager).Spec (Helper.answer args) (restarting url)
      (sync Daemon.newUuid : Routine Uuid) fun _ => restarting url :=
  Spec.transact quiet.toTotal fun _ _ good satisfied _ _ =>
    ⟨silent _ _ _, good.2.keep rfl good.2.current, satisfied⟩

def switchOutline (client : Uuid) (mode : EgressMode) :
    SwitchOutline (policyContract manager) (Helper.answer args) client mode .trivial
      fun _ => .trivial where
  switching url _ _ := restarting url
  stopping _ url _ _ := restarting url
  resetting _ url _ _ := restarting url
  switched _ url _ _ := restarting url
  attempted url _ _ := restarting url
  rollbackStopping _ url _ _ := restarting url
  rollbackResetting _ url _ _ := restarting url
  rolledBack _ url _ _ := restarting url
  lost := .trivial
  entry := by
    apply Spec.transactBy quiet.toTotal (beginSwitch_cases client)
    intro daemon helper good _ after outcome _ _
    cases outcome with
    | refused _ _ => exact ⟨silent _ _ _, good.2, trivial⟩
    | absent _ _ => exact ⟨silent _ _ _, good.2.keep rfl good.2.current, trivial⟩
    | begun url _ present =>
        exact ⟨silent _ _ _, good.2.keep rfl good.2.current, rfl, good.2.current url present⟩
  announce _ _ _ := publish fun _ _ _ _ holds => holds
  draw url _ _ := draw url
  stop _ url _ _ := Spec.split (callUnnamed rfl fun _ _ _ holds => holds)
  attempt id url profile _ := restartOutline id url profile mode fun _ _ holds => holds
  commit _ _ _ _ := commitKept fun _ => rfl
  redraw url _ _ := draw url
  restop _ url _ _ := callUnnamed rfl fun _ _ _ holds => holds
  rollback id url profile previous := restartOutline id url profile previous fun _ _ _ => trivial
  commitRollback _ _ _ _ _ := commitKept fun _ => rfl
  fail _ := commitKept fun _ => rfl

theorem specs : SessionSpecs (policyContract manager) (Helper.answer args) manager .trivial where
  quiet := quiet
  reflexive _ _ := silent _ _ _
  atRest _ _ := Iff.rfl
  finish _ _ _ := Iff.rfl
  start client url := (startOutline client url).sound
  forceBurn := burnOutline.sound
  navigate client command := (navigateOutline client command).sound
  switchEgress client mode := (switchOutline client mode).sound

theorem blind : Blind (policyContract manager) (Helper.answer args) .trivial where
  auth _ _ _ _ good _ _ _ := ⟨silent _ _ _, good.2.keep rfl good.2.current, trivial⟩
  pairingFile _ _ _ _ _ _ good _ answered _ _ := by
    cases answered
    exact ⟨silent _ _ _, good.2, trivial⟩

theorem interference : Interference (policyContract manager) (W := Helper) AppState.still where
  request daemon helper daemon' good step _ _ := by
    refine ⟨⟨step.session, step.admissions, rfl⟩, good.2.keep step.admissions ?_⟩
    rw [step.session.url]
    exact good.2.current
  clock _ _ _ _ good _ _ := ⟨⟨.same, rfl, rfl⟩, good.2.keep rfl good.2.current⟩
  world event := event.elim

theorem established (app : AppState) (args : Args) :
    (policyContract app.sessions).Established (app.service (Helper.answer args) AppState.still) :=
  specs.established_service blind interference

theorem holds_of_booted {app : AppState} (args : Args) {daemon : Daemon}
    (booted : app.Booted daemon) :
    (policyContract app.sessions).Holds (Helper.answer args)
      (.idle daemon {} : Config Daemon Call Call.Reply Response Helper) := by
  constructor
  · refine ⟨trivial, ?_, ?_, ?_, Or.inl ⟨rfl, rfl⟩⟩
    · show ∀ admission ∈ daemon.admissions, _
      rw [booted.admissions]
      nofun
    · show ∀ url, daemon.session.snapshot.url = some url → _
      rw [booted.session]
      nofun
    · exact fun _ member => nomatch member
  · exact fun _ => trivial
  · rintro program ⟨⟩
  · rintro program ⟨⟩

end policyContract

/-! ## The result -/

/-- What holds of a URL when the helper is told to spawn it.  It was accepted at
a start or a navigation, and was not blocked if the policy was enabled then.
If a start or a navigation names it, rather than a switch, then what was
accepted last is this very operation. -/
structure PolicyCovers (manager : SessionManager) (daemon : Daemon) (spawn : Spawn) : Prop where
  admitted : ∃ admission ∈ daemon.admissions, admission.url = spawn.url ∧
    (admission.enabled = true → manager.blocks spawn.url = false)
  own : spawn.command.urls ≠ [] → daemon.session.snapshot.phase ≠ .burning →
    ∃ admission, daemon.admissions.getLast? = some admission ∧ admission.url = spawn.url ∧
      (admission.enabled = true → manager.blocks spawn.url = false)

theorem Covered.policyCovers {manager : SessionManager} {daemon : Daemon} {spawn : Spawn}
    (covered : Covered daemon spawn)
    (checked : ∀ admission ∈ daemon.admissions, admission.enabled = true →
      manager.blocks admission.url = false) : PolicyCovers manager daemon spawn where
  admitted := by
    rcases covered.admitted with ⟨admission, member, equal⟩
    exact ⟨admission, member, equal, fun enabled => equal ▸ checked admission member enabled⟩
  own named phase := by
    rcases Option.map_eq_some_iff.mp (covered.own named phase) with ⟨admission, last, equal⟩
    exact ⟨admission, last, equal,
      fun enabled => equal ▸ checked admission (List.mem_of_getLast? last) enabled⟩

/-- In every run, whatever the helper is told to spawn is covered by the policy
as it was set when the URL was accepted. -/
theorem policy_covers_of_reaches {app : AppState} {args : Args} {daemon : Daemon}
    {config config' : Config Daemon Call Call.Reply Response Helper}
    {label : Sample.ServiceLabel Exchange Empty} {spawn : Spawn} (booted : app.Booted daemon)
    (reaches : (app.service (Helper.answer args) AppState.still).Reaches (.idle daemon {}) config)
    (step : (app.service (Helper.answer args) AppState.still).step config label = some config')
    (told : config'.world.spawned = config.world.spawned ++ [spawn]) :
    PolicyCovers app.sessions config.memory spawn := by
  have initial := policyContract.holds_of_booted args booted
  have established := policyContract.established app args
  have free := Pool.reachesUnder_free _ reaches
  have good := (established.sound initial (fun _ _ => trivial) free).good
  rcases established.moves initial (fun _ _ => trivial) free
    (Assumptions.free_allowed config label) step with relied | covered | ⟨_, same⟩
  · rw [relied.2.2] at told
    simp at told
  · exact (covered spawn told).policyCovers good.2.checked
  · rw [same] at told
    simp at told

namespace Sample

def filteredApp : AppState :=
  { app with sessions := { blocklist := fun host => host == "ads.example" } }

/-- The first client turns the policy off, visits a blocked page and another
one, and turns the policy on again. -/
def detour : List (ServiceLabel Exchange Empty) :=
  openSession launched 8 ++ [.finish, .spawn (.setBlocklistEnabled 0 false), .stepTask 1 none] ++
    navigates launched (.navigate (url "ads.example")) 6 ++ [.finish] ++
    navigates launched (.navigate (url "example.org")) 6 ++
    [.finish, .spawn (.setBlocklistEnabled 0 true), .stepTask 2 none]

theorem filteredApp_booted : filteredApp.Booted daemon where
  session := rfl
  rotated := daemon_booted.rotated
  events := rfl
  deliveries := rfl
  admissions := rfl

end Sample

/-- The page that the first client returns to was accepted while the policy was
off. -/
theorem policy_covers_of_detour :
    ∃ config : Config Daemon Call Call.Reply Response Helper,
      config.memory.session.snapshot.blocklistEnabled = true ∧
        PolicyCovers Sample.filteredApp.sessions config.memory
          ⟨.navigate .back, Sample.url "ads.example"⟩ := by
  let next := (Sample.filteredApp.service (Helper.answer Sample.args) AppState.still).step
  have executed : ((run next (.idle Sample.daemon {})
      (Sample.detour ++ Sample.navigates Sample.launched .back 3)).bind fun before =>
        (next before (.step (some Sample.launched))).map fun after =>
          (before.memory.session.snapshot.blocklistEnabled, decide (after.world.spawned =
            before.world.spawned ++ [⟨.navigate .back, Sample.url "ads.example"⟩]))) =
      some (true, true) := by
    decide +kernel
  rcases Option.bind_eq_some_iff.mp executed with ⟨before, reached, executed⟩
  rcases Option.map_eq_some_iff.mp executed with ⟨after, step, values⟩
  rcases Prod.mk.inj values with ⟨enabled, told⟩
  exact ⟨before, enabled, policy_covers_of_reaches Sample.filteredApp_booted
    (reachable_of_run reached) step (of_decide_eq_true told)⟩

/-- With the policy enabled, the first client returns to a blocked page. -/
theorem not_unblocked_of_detour :
    ¬ ∀ (before after : Config Daemon Call Call.Reply Response Helper) (op : Lifecycle)
      (labels : List (Sample.ServiceLabel Exchange Empty)),
      (Sample.filteredApp.service (Helper.answer Sample.args) AppState.still).Reaches
        (.idle Sample.daemon {}) before →
      before.memory.session.snapshot.blocklistEnabled = true →
      run (Sample.filteredApp.service (Helper.answer Sample.args) AppState.still).step before
        (.start op :: labels) = some after →
      (∀ label ∈ labels, label.Own) →
      ∀ spawn ∈ after.world.spawned.drop before.world.spawned.length,
        Sample.filteredApp.sessions.blocks spawn.url = false := by
  intro always
  let next := (Sample.filteredApp.service (Helper.answer Sample.args) AppState.still).step
  have executed : ((run next (.idle Sample.daemon {}) Sample.detour).bind fun before =>
        (run next before (Sample.navigates Sample.launched .back 4)).map fun after =>
          (before.memory.session.snapshot.blocklistEnabled,
            after.world.spawned.drop before.world.spawned.length)) =
      some (true, [⟨.navigate .back, Sample.url "ads.example"⟩]) := by
    decide +kernel
  rcases Option.bind_eq_some_iff.mp executed with ⟨before, reached, executed⟩
  rcases Option.map_eq_some_iff.mp executed with ⟨after, returned, values⟩
  rcases Prod.mk.inj values with ⟨enabled, told⟩
  have own : ∀ label ∈ List.replicate 4 (.step (some Sample.launched) :
      Sample.ServiceLabel Exchange Empty), label.Own := by
    intro label member
    rw [(List.mem_replicate.mp member).2]
    trivial
  have unblocked := always before after (.navigate ⟨0, 1⟩ 1 .back) _ (reachable_of_run reached)
    enabled returned own ⟨.navigate .back, Sample.url "ads.example"⟩
    (by rw [told]; exact List.mem_singleton_self _)
  revert unblocked
  decide +kernel

end XanhTab
