import XanhTab.Daemon.Endpoints
import XanhTab.Program.Follow
import XanhTab.Program.Outcome

/-!
# Requests addressed to a session

A request to `/api/v1/session/{id}/...` is to act on the session that it names.
The lifecycle operations check the identifier under the mutex that every other
change of it needs as well.  The settings endpoints check it in one section and
write in a later one, and between the two an operation may commit a successor.
-/

namespace XanhTab

open Program Transition

/-! ## The requests -/

/-- A request to `/api/v1/session/{id}/...` that acts on the session. -/
inductive Addressed
  | navigate (command : NavigationCommand)
  | setEgress (mode : EgressMode)
  | burn
  | setStreamProfile (profile : StreamProfile)
  | setBlocklist (enabled : Bool)
  | setAutoBurn (seconds : Nat)

namespace Addressed

/-- The request is served without the lifecycle mutex. -/
def bypasses : Addressed → Bool
  | navigate _ | setEgress _ | burn => false
  | setStreamProfile _ | setBlocklist _ | setAutoBurn _ => true

/-- The request comes in. -/
def label {N : Type} {O : Type} (context : AuthContext) (id : Uuid) :
    Addressed → Pool.Label ApiOperation ApiRequest (Environment N) O
  | navigate command => .start (.navigate context id command)
  | setEgress mode => .start (.setEgress context id mode)
  | burn => .start (.burnSession context id)
  | setStreamProfile profile => .spawn (.setStreamProfile context id profile)
  | setBlocklist enabled => .spawn (.setBlocklist context id enabled)
  | setAutoBurn seconds => .spawn (.setAutoBurn context id seconds)

/-- Where a request that comes in is served. -/
def subject {W : Type} (config : Config Daemon Call Call.Reply Response W)
    (request : Addressed) : Subject :=
  if request.bypasses then .task config.tasks.length else .operation

/-- The section in which the request takes effect, from what it is to do. -/
def Effect : Addressed → Daemon → Daemon → Prop
  | navigate command, before, after =>
      after.session = before.session.navigated command before.utc
  | setEgress mode, _, after =>
      after.session.snapshot.phase = .active ∧ after.session.snapshot.egress = mode
  | burn, _, after => after.session.snapshot.phase = .idle
  | setStreamProfile profile, before, after => after.session =
      { before.session with
        snapshot := { before.session.snapshot with streamProfile := profile }
        lastActivity := before.now }
  | setBlocklist enabled, before, after => after.session =
      { before.session with
        snapshot := { before.session.snapshot with blocklistEnabled := enabled }
        lastActivity := before.now }
  | setAutoBurn seconds, before, after => after.session =
      { before.session with
        snapshot := { before.session.snapshot with autoBurnSeconds := seconds }
        lastActivity := before.now }

/-- Between the check of a settings request and its write the session is not
replaced. -/
def Undisturbed (request : Addressed) (taken : List (Daemon × Daemon)) (before after : Daemon) :
    Prop :=
  request.bypasses = true → taken.length = 1 →
    after.session.snapshot.id = before.session.snapshot.id

/-- The steps of a request that has returned a response, if it has, are those of
a request that acts on the session it names. -/
structure ActsOn (request : Addressed) (id : Uuid) (taken : List (Daemon × Daemon))
    (response : Option Response) : Prop where
  changes : ∀ change ∈ taken, change.2.session ≠ change.1.session →
    change.1.session.snapshot.id = some id
  effect : ∀ shown, response = some (.snapshot (.ok shown)) →
    ∃ change ∈ taken, change.1.session.snapshot.id = some id ∧ request.Effect change.1 change.2
  refused : request.bypasses = true → ∀ returned, response = some returned →
    (∀ change ∈ taken, change.1.session.snapshot.id ≠ some id) →
    returned = .snapshot (.error .notFound)

end Addressed

/-! ## Programs that act on a session -/

/-- The section leaves the identifier of the session as it is. -/
def SameId (before after : Daemon) : Prop :=
  after.session.snapshot.id = before.session.snapshot.id

section Predicates

variable {α β : Type} (several : Prop) (id : Uuid) (effect : Daemon → Daemon → Prop)

/-- Once the session has been found, the program keeps its identifier until the
section in which it takes effect, and changes nothing after that.  It has a
single section if it is not one of several. -/
def Settles (success : α → Prop) : Routine α → Prop
  | .done result => ¬ success result
  | .access _ update next => ∀ daemon, daemon.session.snapshot.id = some id →
      (several ∧ (update daemon).session.snapshot.id = some id ∧ Settles success (next daemon)) ∨
        (next daemon).Outcomes SameSession fun result =>
          success result → effect daemon (update daemon)
  | .call _ _ next => several ∧ ∀ reply, Settles success (next reply)

/-- The program changes nothing before it has found the session. -/
def Guards (success refused : α → Prop) : Routine α → Prop
  | .done result => several ∧ ¬ success result
  | .access _ update next => ∀ daemon, (update daemon).session = daemon.session ∧
      ((several ∧ Guards success refused (next daemon)) ∨
        (daemon.session.snapshot.id = some id ∧
          Settles several id effect success (next daemon)) ∨
        ∃ result, next daemon = .done result ∧ ¬ success result ∧ (several ∨ refused result))
  | .call _ _ next => several ∧ ∀ reply, Guards success refused (next reply)

variable {several id effect} {success middle : α → Prop} {program : Routine α}

namespace Settles

theorem of_outcomes (goesOn : several)
    (outcomes : program.Outcomes SameSession fun result => ¬ success result) :
    Settles several id effect success program := by
  induction program with
  | done result => exact outcomes
  | access awaits update next ih =>
      intro daemon found
      have same : (update daemon).session = daemon.session := (outcomes daemon).1
      refine Or.inl ⟨goesOn, ?_, ih daemon (outcomes daemon).2⟩
      rw [same]
      exact found
  | call awaits request next ih => exact ⟨goesOn, fun reply => ih reply (outcomes reply)⟩

/-- What comes before the effect keeps the identifier. -/
theorem bind {success : β → Prop} {rest : α → Routine β} (goesOn : several)
    (first : program.Sections SameId)
    (second : ∀ value, Settles several id effect success (rest value)) :
    Settles several id effect success (program >>= rest) := by
  induction program with
  | done value => exact second value
  | access awaits update next ih =>
      intro daemon found
      have same : (update daemon).session.snapshot.id = daemon.session.snapshot.id :=
        (first daemon).1
      exact Or.inl ⟨goesOn, same.trans found, ih daemon (first daemon).2⟩
  | call awaits request next ih => exact ⟨goesOn, fun reply => ih reply (first reply)⟩

/-- What comes after the effect keeps the session. -/
theorem followed {success : β → Prop} {rest : α → Routine β} (goesOn : several)
    (settles : Settles several id effect middle program)
    (outcomes : ∀ value, (rest value).Outcomes SameSession fun result =>
      success result → middle value) :
    Settles several id effect success (program >>= rest) := by
  induction program with
  | done value =>
      apply of_outcomes goesOn
      exact (outcomes value).mono fun result implies succeeded => settles (implies succeeded)
  | access awaits update next ih =>
      intro daemon found
      rcases settles daemon found with ⟨_, kept, later⟩ | ended
      · exact Or.inl ⟨goesOn, kept, ih daemon later⟩
      · right
        apply Outcomes.bind ended
        intro value settled
        exact (outcomes value).mono fun result implies succeeded => settled (implies succeeded)
  | call awaits request next ih => exact ⟨goesOn, fun reply => ih reply (settles.2 reply)⟩

/-- The results may be translated. -/
theorem map {success : β → Prop} {translate : α → β}
    (implies : ∀ value, success (translate value) → middle value)
    (settles : Settles several id effect middle program) :
    Settles several id effect success (program >>= fun value => .done (translate value)) := by
  induction program with
  | done value => exact fun succeeded => settles (implies value succeeded)
  | access awaits update next ih =>
      intro daemon found
      rcases settles daemon found with ⟨goesOn, kept, later⟩ | ended
      · exact Or.inl ⟨goesOn, kept, ih daemon later⟩
      · right
        apply Outcomes.bind ended
        exact fun value settled succeeded => settled (implies value succeeded)
  | call awaits request next ih => exact ⟨settles.1, fun reply => ih reply (settles.2 reply)⟩

/-- A section that takes effect in some of its outcomes. -/
theorem transact {success : β → Prop} {awaits : Bool} {body : Daemon → α × Daemon}
    {rest : α → Routine β}
    (outcomes : ∀ daemon, daemon.session.snapshot.id = some id →
      (several ∧ (body daemon).2.session.snapshot.id = some id ∧
        Settles several id effect success (rest (body daemon).1)) ∨
      (rest (body daemon).1).Outcomes SameSession fun result =>
        success result → effect daemon (body daemon).2) :
    Settles several id effect success (.transact awaits body >>= rest) :=
  outcomes

/-- A commit takes effect, and its publication changes nothing. -/
theorem commit {success : β → Prop} {event : String} {update : Daemon → SessionData}
    {rest : SessionSnapshot → Routine β}
    (ends : ∀ daemon, (rest (update daemon).snapshot).Outcomes SameSession fun result =>
      success result → effect daemon { daemon with session := update daemon }) :
    Settles several id effect success (SessionManager.commit event update >>= rest) := by
  intro daemon _
  right
  intro later
  exact ⟨rfl, ends daemon⟩

end Settles

/-- The results may be translated. -/
theorem Guards.map {refusal : α → Prop} {success refused : β → Prop} {translate : α → β}
    (implies : ∀ value, success (translate value) → middle value)
    (refuses : ∀ value, refusal value → refused (translate value))
    (guards : Guards several id effect middle refusal program) :
    Guards several id effect success refused
      (program >>= fun value => .done (translate value)) := by
  induction program with
  | done value => exact ⟨guards.1, fun succeeded => guards.2 (implies value succeeded)⟩
  | access awaits update next ih =>
      intro daemon
      rcases guards daemon with ⟨same, ⟨goesOn, later⟩ | ⟨found, settles⟩ | ended⟩
      · exact ⟨same, Or.inl ⟨goesOn, ih daemon later⟩⟩
      · exact ⟨same, Or.inr (Or.inl ⟨found, settles.map implies⟩)⟩
      · rcases ended with ⟨value, past, failed, because⟩
        refine ⟨same, Or.inr (Or.inr ⟨translate value, ?_, ?_, because.imp_right (refuses value)⟩)⟩
        · show next daemon >>= _ = _
          rw [past]
          rfl
        · exact fun succeeded => failed (implies value succeeded)
  | call awaits request next ih => exact ⟨guards.1, fun reply => ih reply (guards.2 reply)⟩

end Predicates

/-! ## The lifecycle operations -/

namespace SameId

variable {α : Type}

theorem transact {awaits : Bool} {body : Daemon → α × Daemon}
    (kept : ∀ daemon, (body daemon).2.session.snapshot.id = daemon.session.snapshot.id) :
    (.transact awaits body : Routine α).Sections SameId :=
  Sections.transact kept

theorem of_sameSession {program : Routine α} (same : program.Sections SameSession) :
    program.Sections SameId :=
  same.mono fun _ _ equal => congrArg (fun data : SessionData => data.snapshot.id) equal

end SameId

section Lifecycle

variable (app : AppState) {id : Uuid}

/-- The request has been served. -/
def Served (result : Except AppError SessionSnapshot) : Prop :=
  ∃ shown, result = .ok shown

theorem not_served_error (error : AppError) : ¬ Served (.error error) := by
  rintro ⟨shown, equal⟩
  cases equal

theorem navigate_settles (client : Uuid) (command : NavigationCommand) :
    Settles True id (Addressed.navigate command).Effect Served
      (app.sessions.navigate client command) := by
  unfold SessionManager.navigate
  apply Settles.bind trivial
  · apply SameId.transact
    intro daemon
    have outcome := beginNavigation_cases app.sessions client command daemon
    generalize app.sessions.beginNavigation client command daemon = after at outcome
    cases outcome <;> rfl
  · intro entered
    cases entered with
    | error error => exact not_served_error error
    | ok _ =>
        refine ⟨trivial, fun reply => ?_⟩
        cases reply with
        | error error => exact not_served_error error
        | ok _ =>
            apply Settles.commit
            exact fun daemon _ => rfl

theorem recover_settles (effect : Daemon → Daemon → Prop) (switchError : AppError) (url : Url)
    (profile : StreamProfile) (mode : EgressMode) :
    Settles True id effect Served (SessionManager.recover switchError url profile mode) := by
  unfold SessionManager.recover
  apply Settles.bind trivial (SameId.transact fun _ => rfl)
  intro rollbackId
  apply Settles.bind trivial
  · apply Sections.bind (Permits.ask _ _)
    exact fun _ => Permits.restart _ _ _ _ _
  · intro rolledBack
    cases rolledBack with
    | error error =>
        apply Settles.commit
        exact fun daemon served => absurd served (not_served_error _)
    | ok _ =>
        apply Settles.commit
        exact fun daemon served => absurd served (not_served_error _)

theorem switchEgress_settles (client : Uuid) (mode : EgressMode) :
    Settles True id (Addressed.setEgress mode).Effect Served
      (SessionManager.switchEgress client mode) := by
  unfold SessionManager.switchEgress
  apply Settles.bind trivial
  · apply SameId.transact
    intro daemon
    have outcome := beginSwitch_cases client daemon
    generalize SessionManager.beginSwitch client daemon = after at outcome
    cases outcome <;> rfl
  · intro entered
    cases entered with
    | error error => exact not_served_error error
    | ok entered =>
        apply Settles.bind trivial (SameId.of_sameSession (SameSession.publish _))
        intro _
        apply Settles.bind trivial (SameId.transact fun _ => rfl)
        intro newId
        apply Settles.bind trivial
        · apply Sections.andThen (Permits.ask _ _)
          exact fun _ => Permits.restart _ _ _ _ _
        · intro attempted
          cases attempted with
          | error error => exact recover_settles _ error _ _ _
          | ok _ =>
              apply Settles.commit
              exact fun daemon _ => ⟨rfl, rfl⟩

theorem forceBurn_settles :
    Settles True id Addressed.burn.Effect Served app.sessions.forceBurn := by
  unfold SessionManager.forceBurn
  apply Settles.transact
  intro daemon found
  have outcome := beginBurn_cases daemon
  generalize SessionManager.beginBurn daemon = after at outcome
  cases outcome with
  | idle idle => exact Or.inr fun _ => idle
  | burning _ =>
      refine Or.inl ⟨trivial, found, ?_⟩
      apply Settles.bind trivial (SameId.of_sameSession (SameSession.publish _))
      intro _
      apply Settles.bind trivial (Permits.stopBrowser _)
      intro failures
      apply Settles.bind trivial (Permits.resetEgress _)
      intro failures
      apply Settles.bind trivial (Permits.clearRuntime _)
      intro failures
      dsimp only
      split
      · apply Settles.commit
        exact fun daemon _ => rfl
      · apply Settles.commit
        exact fun daemon served => absurd served (not_served_error _)

theorem burn_settles (client : Uuid) :
    Settles True id Addressed.burn.Effect Served (app.sessions.burn client) := by
  unfold SessionManager.burn
  apply Settles.bind trivial (SameId.transact fun _ => rfl)
  intro lease
  cases lease with
  | error error => exact not_served_error error
  | ok _ => exact forceBurn_settles app

/-- The rotation that follows a burn leaves the session alone. -/
theorem burnAndRotate_settles (client : Uuid) :
    Settles True id Addressed.burn.Effect Served (app.burnAndRotate (some client)) := by
  unfold AppState.burnAndRotate
  apply Settles.followed trivial (burn_settles app client)
  intro burnResult
  have rotates : app.revokeAndRotate.Outcomes SameSession fun _ => True :=
    Outcomes.of_sections (SameSession.revokeAndRotate app) fun _ => trivial
  apply rotates.bind
  intro pairingResult _
  cases burnResult with
  | error error => exact fun served => absurd served (not_served_error error)
  | ok snapshot =>
      cases pairingResult with
      | error error => exact fun _ => ⟨snapshot, rfl⟩
      | ok _ => exact fun _ => ⟨snapshot, rfl⟩

/-- A lifecycle operation validates its context and looks for the session before
it does anything else. -/
theorem addressed_guards {effect : Daemon → Daemon → Prop} {context : AuthContext}
    {program : Routine (Except AppError SessionSnapshot)}
    {refused : Except AppError SessionSnapshot → Prop}
    (settles : Settles True id effect Served program) :
    Guards True id effect Served refused ((AppState.validateContext context).andThen fun _ =>
      (AppState.requireSessionId id).andThen fun _ => program) := by
  intro daemon
  refine ⟨rfl, ?_⟩
  dsimp only [Program.bind]
  cases (daemon.withAuth (AuthManager.validateContext daemon.now context)).1 with
  | error error =>
      exact Or.inr (Or.inr ⟨.error error, rfl, not_served_error error, Or.inl trivial⟩)
  | ok _ =>
      refine Or.inl ⟨trivial, fun later => ⟨rfl, ?_⟩⟩
      dsimp only [Program.bind]
      by_cases found : later.session.snapshot.id = some id
      · rw [if_pos found]
        exact Or.inr (Or.inl ⟨found, settles⟩)
      · rw [if_neg found]
        exact Or.inr (Or.inr ⟨.error .notFound, rfl, not_served_error _, Or.inl trivial⟩)

end Lifecycle

/-! ## The settings endpoints -/

theorem changeSetting_settles {id : Uuid} (client : Uuid) (event : String)
    (setting : SessionSnapshot → SessionSnapshot) :
    Settles False id (fun before after => after.session =
        { before.session with
          snapshot := setting before.session.snapshot, lastActivity := before.now }) Served
      (SessionManager.changeSetting client event setting) := by
  unfold SessionManager.changeSetting
  apply Settles.transact
  intro daemon _
  right
  unfold SessionManager.change
  cases ensureActiveLease daemon.session client with
  | error error => exact fun served => absurd served (not_served_error error)
  | ok _ => exact fun _ => ⟨rfl, fun _ => rfl⟩

theorem setAutoBurnSeconds_settles {id : Uuid} (client : Uuid) (seconds : Nat) :
    Settles False id (Addressed.setAutoBurn seconds).Effect Served
      (SessionManager.setAutoBurnSeconds client seconds) := by
  unfold SessionManager.setAutoBurnSeconds
  split
  · exact not_served_error _
  · exact changeSetting_settles client _ _

/-- What a request has responded with if it has been served. -/
def Shown (response : Response) : Prop :=
  ∃ shown, response = .snapshot (.ok shown)

/-- The session was not found. -/
def NotFound (response : Response) : Prop :=
  response = .snapshot (.error .notFound)

theorem served_of_shown (result : Except AppError SessionSnapshot)
    (shown : Shown (.snapshot result)) : Served result := by
  rcases shown with ⟨snapshot, equal⟩
  exact ⟨snapshot, Response.snapshot.inj equal⟩

theorem forSession_guards {id : Uuid} {effect : Daemon → Daemon → Prop}
    {setting : Routine (Except AppError SessionSnapshot)}
    (settles : Settles False id effect Served setting) :
    Guards False id effect Shown NotFound (AppState.forSession id setting) := by
  have guards : Guards False id effect Served (fun result => result = .error .notFound)
      ((AppState.requireSessionId id).andThen fun _ => setting) := by
    intro daemon
    refine ⟨rfl, ?_⟩
    dsimp only [Program.bind]
    by_cases found : daemon.session.snapshot.id = some id
    · rw [if_pos found]
      exact Or.inr (Or.inl ⟨found, settles⟩)
    · rw [if_neg found]
      exact Or.inr (Or.inr ⟨.error .notFound, rfl, not_served_error _, Or.inr rfl⟩)
  exact guards.map served_of_shown fun result refused => congrArg Response.snapshot refused

/-! ## A request among others -/

/-- Every change so far was made to the session. -/
def Within (id : Uuid) (taken : List (Daemon × Daemon)) : Prop :=
  ∀ change ∈ taken, change.2.session ≠ change.1.session →
    change.1.session.snapshot.id = some id

/-- A step so far has found the session. -/
def Located (id : Uuid) (taken : List (Daemon × Daemon)) : Prop :=
  ∃ change ∈ taken, change.1.session.snapshot.id = some id

/-- What a response says about the steps so far. -/
structure Accounts (several : Prop) (id : Uuid) (effect : Daemon → Daemon → Prop)
    (taken : List (Daemon × Daemon)) (response : Response) : Prop where
  effect : Shown response →
    ∃ change ∈ taken, change.1.session.snapshot.id = some id ∧ effect change.1 change.2
  refused : several ∨ Located id taken ∨ NotFound response

section Lists

variable {id : Uuid} {taken : List (Daemon × Daemon)} {before after : Daemon}

theorem Within.same (within : Within id taken) (same : after.session = before.session) :
    Within id (taken ++ [(before, after)]) := by
  intro change member
  rcases List.mem_append.mp member with old | new
  · exact within change old
  · obtain rfl := List.mem_singleton.mp new
    exact fun changed => absurd same changed

theorem Within.found (within : Within id taken) (found : before.session.snapshot.id = some id) :
    Within id (taken ++ [(before, after)]) := by
  intro change member
  rcases List.mem_append.mp member with old | new
  · exact within change old
  · obtain rfl := List.mem_singleton.mp new
    exact fun _ => found

theorem Located.later (found : Located id taken) : Located id (taken ++ [(before, after)]) := by
  rcases found with ⟨change, member, there⟩
  exact ⟨change, List.mem_append_left _ member, there⟩

theorem Located.last (found : before.session.snapshot.id = some id) :
    Located id (taken ++ [(before, after)]) :=
  ⟨(before, after), List.mem_append_right _ List.mem_cons_self, found⟩

theorem Accounts.later {several : Prop} {effect : Daemon → Daemon → Prop} {response : Response}
    (accounts : Accounts several id effect taken response) :
    Accounts several id effect (taken ++ [(before, after)]) response where
  effect shown := by
    rcases accounts.effect shown with ⟨change, member, took⟩
    exact ⟨change, List.mem_append_left _ member, took⟩
  refused := accounts.refused.imp_right fun found => found.imp_left Located.later

end Lists

/-- What a request, the daemon and the steps taken satisfy together. -/
inductive Serves (several : Prop) (id : Uuid) (effect : Daemon → Daemon → Prop) :
    Routine Response → Daemon → List (Daemon × Daemon) → Prop
  | guards {program : Routine Response} {daemon : Daemon} {taken : List (Daemon × Daemon)} :
      Within id taken → several ∨ taken.length = 0 →
      Guards several id effect Shown NotFound program →
      Serves several id effect program daemon taken
  | settles {program : Routine Response} {daemon : Daemon} {taken : List (Daemon × Daemon)} :
      Within id taken → several ∨ taken.length = 1 → Located id taken →
      daemon.session.snapshot.id = some id → Settles several id effect Shown program →
      Serves several id effect program daemon taken
  | ended {program : Routine Response} {daemon : Daemon} {taken : List (Daemon × Daemon)} :
      Within id taken → program.Outcomes SameSession (Accounts several id effect taken) →
      Serves several id effect program daemon taken

section Serves

variable {several : Prop} {id : Uuid} {effect : Daemon → Daemon → Prop}

theorem Serves.carried : Follows.Carried (Serves several id effect) where
  access := by
    intro awaits update next daemon taken serves
    cases serves with
    | guards within first guards =>
        rcases guards daemon with ⟨same, ⟨goesOn, later⟩ | ⟨found, settles⟩ | ended⟩
        · exact .guards (within.same same) (Or.inl goesOn) later
        · apply Serves.settles (within.same same) ?_ (Located.last found) _ settles
          · simpa using first
          · rw [same]
            exact found
        · rcases ended with ⟨response, past, failed, because⟩
          apply Serves.ended (within.same same)
          rw [past]
          constructor
          · exact fun shown => absurd shown failed
          · exact because.imp_right Or.inr
    | settles within one earlier found settles =>
        rcases settles daemon found with ⟨goesOn, kept, later⟩ | ended
        · exact .settles (within.found found) (Or.inl goesOn) earlier.later kept later
        · apply Serves.ended (within.found found)
          apply ended.mono
          intro response took
          constructor
          · exact fun shown => ⟨(daemon, update daemon),
              List.mem_append_right _ List.mem_cons_self, found, took shown⟩
          · exact Or.inr (Or.inl (Located.last found))
    | ended within outcomes =>
        have same : (update daemon).session = daemon.session := (outcomes daemon).1
        exact .ended (within.same same)
          ((outcomes daemon).2.mono fun response accounts => accounts.later)
  call := by
    intro awaits request next reply daemon taken serves
    cases serves with
    | guards within _ guards => exact .guards (within.same rfl) (Or.inl guards.1) (guards.2 reply)
    | settles within _ earlier found settles =>
        exact .settles (within.same rfl) (Or.inl settles.1) earlier.later found (settles.2 reply)
    | ended within outcomes =>
        exact .ended (within.same rfl)
          ((outcomes reply).mono fun response accounts => accounts.later)

/-- Others do not disturb a request while they keep the session it has found. -/
theorem Serves.undisturbed {program : Routine Response} {before after : Daemon}
    {taken : List (Daemon × Daemon)} (serves : Serves several id effect program before taken)
    (kept : several ∨ taken.length = 1 →
      after.session.snapshot.id = before.session.snapshot.id) :
    Serves several id effect program after taken := by
  cases serves with
  | guards within first guards => exact .guards within first guards
  | settles within one earlier found settles =>
      exact .settles within one earlier ((kept one).trans found) settles
  | ended within outcomes => exact .ended within outcomes

/-- A request that has returned accounts for its steps. -/
theorem Serves.accounts {response : Response} {daemon : Daemon} {taken : List (Daemon × Daemon)}
    (serves : Serves several id effect (.done response) daemon taken) :
    Accounts several id effect taken response := by
  cases serves with
  | guards _ _ guards => exact ⟨fun shown => absurd shown guards.2, Or.inl guards.1⟩
  | settles _ _ earlier _ settles =>
      exact ⟨fun shown => absurd shown settles, Or.inr (Or.inl earlier)⟩
  | ended _ outcomes => exact outcomes

theorem Serves.within {program : Routine Response} {daemon : Daemon}
    {taken : List (Daemon × Daemon)} (serves : Serves several id effect program daemon taken) :
    Within id taken := by
  cases serves with
  | guards within _ _ | settles within _ _ _ _ | ended within _ => exact within

end Serves

/-! ## The result -/

/-- The program that serves the request. -/
def Addressed.program (app : AppState) (initialUrl : Url) (context : AuthContext) (id : Uuid) :
    Addressed → Routine Response
  | navigate command => app.api initialUrl (.navigate context id command)
  | setEgress mode => app.api initialUrl (.setEgress context id mode)
  | burn => app.api initialUrl (.burnSession context id)
  | setStreamProfile profile => app.apiRequest (.setStreamProfile context id profile)
  | setBlocklist enabled => app.apiRequest (.setBlocklist context id enabled)
  | setAutoBurn seconds => app.apiRequest (.setAutoBurn context id seconds)

theorem Addressed.program_guards (app : AppState) (initialUrl : Url) (context : AuthContext)
    (id : Uuid) (request : Addressed) :
    Guards (request.bypasses = false) id request.Effect Shown NotFound
      (request.program app initialUrl context id) := by
  have mapped : ∀ {effect : Daemon → Daemon → Prop}
      {program : Routine (Except AppError SessionSnapshot)}, Settles True id effect Served program →
      Guards True id effect Shown NotFound (((AppState.validateContext context).andThen fun _ =>
        (AppState.requireSessionId id).andThen fun _ => program) >>= fun result =>
          .done (.snapshot result)) :=
    fun settles => Guards.map served_of_shown
      (fun result (refused : result = .error .notFound) => congrArg Response.snapshot refused)
      (addressed_guards settles)
  cases request with
  | navigate command =>
      rw [show ((navigate command).bypasses = false) = True from eq_true rfl]
      show Guards True id _ Shown NotFound (app.apiNavigate context id command)
      unfold AppState.apiNavigate
      cases command.validate with
      | error error =>
          refine ⟨trivial, ?_⟩
          rintro ⟨shown, equal⟩
          cases equal
      | ok _ => exact mapped (navigate_settles app context.clientId command)
  | setEgress mode =>
      rw [show ((setEgress mode).bypasses = false) = True from eq_true rfl]
      exact mapped (switchEgress_settles context.clientId mode)
  | burn =>
      rw [show (burn.bypasses = false) = True from eq_true rfl]
      exact mapped (burnAndRotate_settles app context.clientId)
  | setStreamProfile profile =>
      rw [show ((setStreamProfile profile).bypasses = false) = False from eq_false Bool.noConfusion]
      exact forSession_guards (changeSetting_settles context.clientId _ _)
  | setBlocklist enabled =>
      rw [show ((setBlocklist enabled).bypasses = false) = False from eq_false Bool.noConfusion]
      exact forSession_guards (changeSetting_settles context.clientId _ _)
  | setAutoBurn seconds =>
      rw [show ((setAutoBurn seconds).bypasses = false) = False from eq_false Bool.noConfusion]
      exact forSession_guards (setAutoBurnSeconds_settles context.clientId seconds)

section Result

variable {app : AppState} {initialUrl : Url} {W O N : Type} {answer : Answer Call Call.Reply W O}
  {world : N → Daemon → W → Option W} {request : Addressed} {context : AuthContext} {id : Uuid}

/-- A request that has come in is about to be served. -/
theorem Addressed.program_of_received
    {config opened : Config Daemon Call Call.Reply Response W}
    (received : (app.endpointService initialUrl answer world).step config
      (request.label context id) = some opened) :
    (request.subject config).program opened = some (request.program app initialUrl context id) := by
  cases request with
  | navigate command | setEgress mode | burn =>
      obtain rfl := Contract.entered received
      rfl
  | setStreamProfile profile | setBlocklist enabled | setAutoBurn seconds =>
      cases received
      exact List.getElem?_concat_length

/-- While an operation is served, nothing else replaces the session. -/
theorem id_of_other {config config' : Config Daemon Call Call.Reply Response W}
    {label : Pool.Label ApiOperation ApiRequest (Environment N) O}
    (framed : config.Framed AdmitsValidated RequestStep)
    (foreign : ¬ Subject.operation.Owns label) (goesOn : ¬ Subject.operation.Ends label)
    (step : (app.endpointService initialUrl answer world).step config label = some config') :
    config'.memory.session.snapshot.id = config.memory.session.snapshot.id := by
  have advances :=
    ((endpointService_framed app initialUrl answer world).step framed step).2
  cases label with
  | step outcome => exact absurd trivial foreign
  | drop outcome | finish => exact absurd trivial goesOn
  | stepTask index outcome => exact advances.1.session.id
  | start op | spawn task | dropTask index outcome =>
      rw [advances.1]
  | noise event =>
      cases event with
      | elapse duration | setClock utc =>
          rw [← (Prod.mk.inj (Option.some.inj advances)).1]
      | world event =>
          rcases Option.map_eq_some_iff.mp advances with ⟨_, _, equal⟩
          rw [← (Prod.mk.inj equal).1]

/-- A request that is addressed to a session acts on this session and no other.
A settings request does so if the session is not replaced between its check and
its write, every other request in any case. -/
theorem acts_on_addressed {daemon : Daemon} {state : W}
    {config opened config' : Config Daemon Call Call.Reply Response W} {current : Subject}
    {taken : List (Daemon × Daemon)}
    (reaches : (app.endpointService initialUrl answer world).Reaches (.idle daemon state) config)
    (received : (app.endpointService initialUrl answer world).step config
      (request.label context id) = some opened)
    (follows : Follows (app.endpointService initialUrl answer world) request.Undisturbed opened
      (request.subject config) current config' taken) :
    request.ActsOn id taken (current.result config') := by
  have pool_framed := endpointService_framed app initialUrl answer world
  have framed := (pool_framed.step (pool_framed.reaches (.idle daemon state) reaches) received).1
  have serving : ∃ program, current.program config' = some program ∧
      Serves (request.bypasses = false) id request.Effect program config'.memory taken := by
    refine follows.invariant Serves.carried ?_ (Addressed.program_of_received received) ?_
    · intro current before after label taken program followed foreign goesOn undisturbed step serves
      apply serves.undisturbed
      intro window
      by_cases bypasses : request.bypasses = true
      · rcases window with several | one
        · rw [bypasses] at several
          cases several
        · exact undisturbed bypasses one
      · rw [show request.subject config = .operation from if_neg bypasses] at followed
        obtain rfl := followed.eq_operation
        exact id_of_other (pool_framed.reaches framed followed.reaches) foreign goesOn step
    · apply Serves.guards
      · rintro change ⟨⟩
      · exact Or.inr rfl
      · exact Addressed.program_guards app initialUrl context id request
  rcases serving with ⟨program, running, serves⟩
  have accounts : ∀ response, current.result config' = some response →
      Accounts (request.bypasses = false) id request.Effect taken response := by
    intro response finished
    unfold Subject.result at finished
    rw [running] at finished
    cases program with
    | done result =>
        obtain rfl := Option.some.inj finished
        exact serves.accounts
    | access _ _ _ | call _ _ _ => cases finished
  constructor
  · exact serves.within
  · exact fun shown finished => (accounts _ finished).effect ⟨shown, rfl⟩
  · intro bypasses response finished elsewhere
    rcases (accounts response finished).refused with several | ⟨change, member, found⟩ | refused
    · rw [bypasses] at several
      cases several
    · exact absurd found (elsewhere change member)
    · exact refused

end Result

/-! ## Runs -/

namespace Sample

abbrev EndpointLabel := Pool.Label ApiOperation ApiRequest (Environment Empty) Unit

def endpoints : Pool Daemon Call Call.Reply Response Unit Unit ApiOperation ApiRequest
    (Environment Empty) :=
  app.endpointService (url "example.com") willing AppState.still

/-- The first client pairs and opens its session. -/
def opensSession : List EndpointLabel :=
  [.spawn (.direct (.exchangePairing (Encoding.urlSafeNoPad (bytes 0)))), .stepTask 0 none,
    .start (.startSession ⟨0, 1⟩ none)] ++ List.replicate 8 (.step (some ())) ++ [.finish]

/-- The client switches its session to another egress, up to the commit of the
successor. -/
def replacesSession : List EndpointLabel :=
  .start (.setEgress ⟨0, 1⟩ 1 .tor) :: List.replicate 12 (.step (some ()))

/-- Another request of the client turns the blocklist off, and time passes. -/
def overtakenSetting : List EndpointLabel :=
  [(Addressed.setBlocklist false).label ⟨0, 1⟩ 1, .stepTask 2 none, .stepTask 2 none,
    .stepTask 2 none, .noise (.elapse (Duration.ofSeconds 60))]

/-- A step of others than the second task that keeps the session. -/
def keepsSession (config : Config Daemon Call Call.Reply Response Unit) (label : EndpointLabel) :
    Bool :=
  let kept (target : Config Daemon Call Call.Reply Response Unit) : Bool :=
    target.memory.session.snapshot.id = config.memory.session.snapshot.id
  match label with
  | .stepTask index _ => index ≠ 1 && (endpoints.step config label).all kept
  | .dropTask _ _ => false
  | label => (endpoints.step config label).all kept

end Sample

/-- A settings request that has found its session changes the successor of this
session, and reports success. -/
theorem not_acts_on_of_replaced :
    ¬ ∀ (request : Addressed) (context : AuthContext) (id : Uuid)
      (config opened config' : Config Daemon Call Call.Reply Response Unit) (current : Subject)
      (taken : List (Daemon × Daemon)) (shown : SessionSnapshot),
      Sample.endpoints.Reaches (.idle Sample.daemon ()) config →
      Sample.endpoints.step config (request.label context id) = some opened →
      Follows Sample.endpoints (fun _ _ _ => True) opened (request.subject config) current config'
        taken →
      current.result config' = some (.snapshot (.ok shown)) →
      request.ActsOn id taken (current.result config') := by
  intro always
  have executed : (((run Sample.endpoints.step (.idle Sample.daemon ()) Sample.opensSession).bind
      fun config => (Sample.endpoints.step config
        ((Addressed.setStreamProfile .sd10).label ⟨0, 1⟩ 1)).bind fun opened =>
      (run Sample.endpoints.step opened (.stepTask 1 none :: Sample.replacesSession)).bind
        fun before => (Sample.endpoints.step before (.stepTask 1 none)).bind fun after =>
      (Sample.endpoints.step after (.stepTask 1 none)).bind fun config' =>
      (((Subject.task 1).result config').bind Response.shown).map fun _ =>
        (config.tasks.length, before.memory.session.snapshot.id,
          before.memory.session.snapshot.streamProfile,
          after.memory.session.snapshot.streamProfile))) =
      some (1, some 2, .fullHd30, .sd10) := by
    decide +kernel
  rcases Option.bind_eq_some_iff.mp executed with ⟨config, reached, executed⟩
  rcases Option.bind_eq_some_iff.mp executed with ⟨opened, received, executed⟩
  rcases Option.bind_eq_some_iff.mp executed with ⟨before, followed, executed⟩
  rcases Option.bind_eq_some_iff.mp executed with ⟨after, wrote, executed⟩
  rcases Option.bind_eq_some_iff.mp executed with ⟨config', published, executed⟩
  rcases Option.map_eq_some_iff.mp executed with ⟨shown, told, values⟩
  rcases Option.bind_eq_some_iff.mp told with ⟨response, finished, told⟩
  obtain rfl := Response.eq_of_shown told
  simp only [Prod.mk.injEq] at values
  rcases values with ⟨tasks, successor, profile, changed⟩
  have subject : (Addressed.setStreamProfile .sd10).subject config = .task 1 := by
    rw [← tasks]
    rfl
  have follows : ∃ taken, Follows Sample.endpoints (fun _ _ _ => True) opened (.task 1) (.task 1)
      before taken := by
    apply Follows.of_run .refl followed
    simp [Sample.replacesSession, Subject.Owns, Subject.Ends, Subject.after]
  rcases follows with ⟨taken, follows⟩
  have owns : (Subject.task 1).Owns (.stepTask 1 none : Sample.EndpointLabel) := rfl
  have follows' := (follows.own owns wrote).own owns published
  rw [← subject] at follows' finished
  have acts := always _ _ _ _ _ _ _ _ shown (reachable_of_run reached) received follows' finished
  have differs : after.memory.session ≠ before.memory.session := by
    intro same
    rw [same, profile] at changed
    cases changed
  have there : before.memory.session.snapshot.id = some 1 :=
    acts.changes (before.memory, after.memory) (by simp) differs
  rw [successor] at there
  cases there

theorem Sample.undisturbed_of_keepsSession {request : Addressed} {taken : List (Daemon × Daemon)}
    (config : Config Daemon Call Call.Reply Response Unit) (label : Sample.EndpointLabel)
    (target : Config Daemon Call Call.Reply Response Unit)
    (keeps : Sample.keepsSession config label = true)
    (step : Sample.endpoints.step config label = some target) :
    ¬ (Subject.task 1).Owns label ∧ ¬ (Subject.task 1).Ends label ∧
      (Subject.task 1).after label = .task 1 ∧
        request.Undisturbed taken config.memory target.memory := by
  have kept (accepted : (Sample.endpoints.step config label).all (fun target =>
      target.memory.session.snapshot.id = config.memory.session.snapshot.id) = true) :
      request.Undisturbed taken config.memory target.memory := by
    rw [step, Option.all_some, decide_eq_true_eq] at accepted
    exact fun _ _ => accepted
  cases label with
  | stepTask index outcome =>
      rcases Bool.and_eq_true_iff.mp keeps with ⟨other, accepted⟩
      have foreign : index ≠ 1 := of_decide_eq_true other
      exact ⟨foreign, id, rfl, kept accepted⟩
  | dropTask _ _ => cases keeps
  | start _ | step _ | drop _ | finish | spawn _ | noise _ => exact ⟨id, id, rfl, kept keeps⟩

/-- A settings request that another one of the same session overtakes. -/
theorem acts_on_addressed_of_undisturbed :
    ∃ (config' : Config Daemon Call Call.Reply Response Unit) (taken : List (Daemon × Daemon))
      (shown : SessionSnapshot),
      (Subject.task 1).result config' = some (.snapshot (.ok shown)) ∧
      shown.blocklistEnabled = false ∧
      (Addressed.setStreamProfile .sd10).ActsOn 1 taken ((Subject.task 1).result config') := by
  have executed : (((run Sample.endpoints.step (.idle Sample.daemon ()) Sample.opensSession).bind
      fun config => (Sample.endpoints.step config
        ((Addressed.setStreamProfile .sd10).label ⟨0, 1⟩ 1)).bind fun opened =>
      (Sample.endpoints.step opened (.stepTask 1 none)).bind fun checked =>
      (run (guarded Sample.endpoints.step Sample.keepsSession) checked Sample.overtakenSetting).bind
        fun overtaken => (Sample.endpoints.step overtaken (.stepTask 1 none)).bind fun written =>
      (Sample.endpoints.step written (.stepTask 1 none)).bind fun config' =>
      (((Subject.task 1).result config').bind Response.shown).map fun shown =>
        (config.tasks.length, shown.blocklistEnabled))) = some (1, false) := by
    decide +kernel
  rcases Option.bind_eq_some_iff.mp executed with ⟨config, reached, executed⟩
  rcases Option.bind_eq_some_iff.mp executed with ⟨opened, received, executed⟩
  rcases Option.bind_eq_some_iff.mp executed with ⟨checked, first, executed⟩
  rcases Option.bind_eq_some_iff.mp executed with ⟨overtaken, others, executed⟩
  rcases Option.bind_eq_some_iff.mp executed with ⟨written, second, executed⟩
  rcases Option.bind_eq_some_iff.mp executed with ⟨config', third, executed⟩
  rcases Option.map_eq_some_iff.mp executed with ⟨shown, told, values⟩
  rcases Option.bind_eq_some_iff.mp told with ⟨response, finished, told⟩
  obtain rfl := Response.eq_of_shown told
  simp only [Prod.mk.injEq] at values
  rcases values with ⟨tasks, disabled⟩
  have subject : (Addressed.setStreamProfile .sd10).subject config = .task 1 := by
    rw [← tasks]
    rfl
  have owns : (Subject.task 1).Owns (.stepTask 1 none : Sample.EndpointLabel) := rfl
  have found : Follows Sample.endpoints (Addressed.setStreamProfile .sd10).Undisturbed opened
      (.task 1) (.task 1) checked [(opened.memory, checked.memory)] :=
    Follows.refl.own owns first
  have follows := ((found.others_of_run Sample.undisturbed_of_keepsSession others).own owns
    second).own owns third
  rw [← subject] at follows
  rw [← subject] at finished ⊢
  exact ⟨config', _, shown, finished, disabled,
    acts_on_addressed (reachable_of_run reached) received follows⟩

end XanhTab
