import XanhTab.Daemon.Lifecycle
import XanhTab.Invariant.Session
import XanhTab.Program.Outcome

/-!
# Rejected requests

An operation of the session manager that its own checks reject takes no section
that changes the session, makes no call, and counts as a hit of the blocklist
exactly when it is the navigation policy that rejects it.

The switch of the egress mode writes the burning phase before its last check.
That check cannot fail in a reachable session, since an active one has a URL.
-/

namespace XanhTab

open Program Contract Transition

/-- The error is one of those that a check of the daemon rejects a request with. -/
def AppError.Rejection : AppError → Prop
  | leaseConflict | sessionNotActive | invalidTransition | navigationBlocked => True
  | invalidRequest _ => True
  | _ => False

/-- The error that a backend has replied with. -/
def repliedError : (request : Call) × request.Reply → Option AppError
  | ⟨.browserStart _ _ _ _, .error error⟩ | ⟨.browserStop, .error error⟩
  | ⟨.browserNavigate _, .error error⟩ | ⟨.egressApply _, .error error⟩
  | ⟨.egressReset, .error error⟩ => some error
  | _ => none

/-- What a client asks of the session manager. -/
inductive ClientOperation
  | start (url : Url)
  | burn
  | navigate (command : NavigationCommand)
  | setStreamProfile (profile : StreamProfile)
  | setBlocklistEnabled (enabled : Bool)
  | setAutoBurnSeconds (seconds : Nat)
  | switchEgress (mode : EgressMode)

def SessionManager.perform (manager : SessionManager) (client : Uuid) :
    ClientOperation → Routine (Except AppError SessionSnapshot)
  | .start url => manager.start client url
  | .burn => manager.burn client
  | .navigate command => manager.navigate client command
  | .setStreamProfile profile => SessionManager.setStreamProfile client profile
  | .setBlocklistEnabled enabled => SessionManager.setBlocklistEnabled client enabled
  | .setAutoBurnSeconds seconds => SessionManager.setAutoBurnSeconds client seconds
  | .switchEgress mode => SessionManager.switchEgress client mode

/-- A section leaves the session as it is.  The activity may be that of the
client who holds the active lease. -/
structure Untouched (client : Uuid) (before after : Daemon) : Prop where
  snapshot : after.session.snapshot = before.session.snapshot
  controller : after.session.controller = before.session.controller
  history : after.session.history = before.session.history
  lastActivity : ensureActiveLease before.session client ≠ .ok () →
    after.session.lastActivity = before.session.lastActivity

theorem Untouched.refl (client : Uuid) (daemon : Daemon) : Untouched client daemon daemon :=
  ⟨rfl, rfl, rfl, fun _ => rfl⟩

/-- The operation is rejected without a trace in the session or in a backend. -/
def RejectsQuietly (found : Daemon → Prop) (client : Uuid)
    (program : Routine (Except AppError SessionSnapshot)) : Prop :=
  ∀ changes calls error, program.Traces found changes calls (.error error) → error.Rejection →
    (∀ call ∈ calls, repliedError call ≠ some error) →
    calls = [] ∧ ∀ change ∈ changes, Untouched client change.1 change.2

/-! ## What the rest of an operation returns -/

/-- The sections do not count as hits of the blocklist. -/
def Uncounted (before after : Daemon) : Prop :=
  after.blocklistHits = before.blocklistHits

/-- The program counts no hit, and every error that it returns has the property. -/
abbrev FailsWith {α : Type} (property : AppError → Prop)
    (program : Routine (Except AppError α)) : Prop :=
  program.Outcomes Uncounted fun result => ∀ error, result = .error error → property error

namespace FailsWith

/-- The errors that operations report of their backends. -/
def Reported (error : AppError) : Prop :=
  ∃ detail, error = .serviceUnavailable detail

theorem Reported.not_rejection {error : AppError} (reported : Reported error) :
    ¬ error.Rejection := by
  rcases reported with ⟨detail, rfl⟩
  exact fun rejection => rejection

variable {property : AppError → Prop} {α β : Type}

theorem ok (value : α) : FailsWith property (.done (.ok value)) := by
  intro error impossible
  cases impossible

theorem error {error : AppError} (holds : property error) :
    FailsWith property (.done (.error error) : Routine (Except AppError α)) := by
  rintro _ ⟨⟩
  exact holds

/-- A program whose result does not matter. -/
abbrev Quiet (program : Routine α) : Prop :=
  program.Outcomes Uncounted fun _ => True

theorem ask (awaits : Bool) (request : Call) :
    Quiet (.ask awaits request : Routine (Call.Reply request)) :=
  fun _ => trivial

theorem read (value : Daemon → α) : Quiet (Program.read value : Routine α) :=
  fun _ => ⟨rfl, trivial⟩

theorem publish (event : String) : Quiet (SessionManager.publish event) :=
  Outcomes.bind (read _) fun _ _ => fun _ => ⟨rfl, trivial⟩

theorem commit (event : String) (update : Daemon → SessionData) :
    Quiet (SessionManager.commit event update) := by
  have updated : Quiet (lock fun daemon =>
      (update daemon, { daemon with session := update daemon }) : Routine SessionData) :=
    fun _ => ⟨rfl, trivial⟩
  have published : ∀ data, Quiet (sync fun daemon => ((), EventBus.publish event data daemon) :
      Routine Unit) :=
    fun _ _ => ⟨rfl, trivial⟩
  exact Outcomes.bind updated fun data _ => Outcomes.bind (published data) fun _ _ => trivial

theorem stopBrowser (failures : List String) : Quiet (SessionManager.stopBrowser failures) := by
  refine Outcomes.bind (ask _ _) fun reply _ => ?_
  cases reply <;> trivial

theorem resetEgress (failures : List String) : Quiet (SessionManager.resetEgress failures) := by
  refine Outcomes.bind (ask _ _) fun reply _ => ?_
  cases reply <;> trivial

theorem clearRuntime (failures : List String) : Quiet (SessionManager.clearRuntime failures) := by
  refine Outcomes.bind (ask _ _) fun reply _ => ?_
  cases reply <;> trivial

theorem fail (message : String) : FailsWith Reported (SessionManager.fail message) :=
  Outcomes.bind (commit _ _) fun _ _ => error ⟨message, rfl⟩

theorem forceBurn (manager : SessionManager) : FailsWith Reported manager.forceBurn := by
  have entered : Quiet (lock SessionManager.beginBurn : Routine (Option SessionSnapshot)) := by
    refine Outcomes.transact fun daemon => ⟨?_, trivial⟩
    have outcome := beginBurn_cases daemon
    generalize SessionManager.beginBurn daemon = after at outcome
    cases outcome <;> rfl
  refine Outcomes.bind entered fun entered _ => ?_
  cases entered with
  | some snapshot => exact ok snapshot
  | none =>
      refine Outcomes.bind (publish _) fun _ _ => ?_
      refine Outcomes.bind (stopBrowser _) fun failures _ => ?_
      refine Outcomes.bind (resetEgress _) fun failures _ => ?_
      refine Outcomes.bind (clearRuntime _) fun failures _ => ?_
      dsimp only
      split
      · exact Outcomes.bind (commit _ _) fun snapshot _ => ok snapshot
      · exact Outcomes.bind (commit _ _) fun _ _ => error ⟨_, rfl⟩

theorem andThen {program : Routine (Except AppError α)} {rest : α → Routine (Except AppError β)}
    (first : Quiet program) (second : ∀ value, Quiet (rest value)) :
    Quiet (program.andThen rest) :=
  Outcomes.andThen (first.mono fun _ _ _ _ => trivial) second

theorem restart (label : String) (id : Uuid) (url : Url) (profile : StreamProfile)
    (mode : EgressMode) : Quiet (SessionManager.restart label id url profile mode) := by
  have clear : Quiet (SessionManager.clearFor label) := by
    refine Outcomes.bind (ask _ _) fun reply _ => ?_
    cases reply <;> trivial
  exact andThen (ask _ _) fun _ => andThen clear fun _ => andThen (ask _ _) fun _ => ask _ _

theorem recover (switchError : AppError) (url : Url) (profile : StreamProfile)
    (previousMode : EgressMode) :
    FailsWith Reported (SessionManager.recover switchError url profile previousMode) := by
  have draw : Quiet (sync Daemon.newUuid : Routine Uuid) := fun _ => ⟨rfl, trivial⟩
  have rollback : ∀ id, Quiet (SessionManager.rollback id url profile previousMode) :=
    fun id => Outcomes.bind (ask _ _) fun _ _ => restart _ _ _ _ _
  refine Outcomes.bind draw fun id _ => ?_
  refine Outcomes.bind (rollback id) fun rolledBack _ => ?_
  cases rolledBack with
  | error _ => exact Outcomes.bind (commit _ _) fun _ _ => error ⟨_, rfl⟩
  | ok _ => exact Outcomes.bind (commit _ _) fun _ _ => error ⟨_, rfl⟩

end FailsWith

open FailsWith

/-! ## The operations as a check and the rest -/

/-- The program is a section that may reject the request, and the rest of it. -/
def Checks {α : Type} (body : Daemon → Except AppError α × Daemon)
    (property : Routine (Except AppError SessionSnapshot) → Prop)
    (program : Routine (Except AppError SessionSnapshot)) : Prop :=
  ∃ rest, program = (lock body >>= rest) ∧
    (∀ error, rest (.error error) = .done (.error error)) ∧ ∀ value, property (rest (.ok value))

/-- Every rejection that the program returns is one that a backend has replied. -/
def Innocent (program : Routine (Except AppError SessionSnapshot)) : Prop :=
  ∀ found changes calls error, program.Traces found changes calls (.error error) →
    error.Rejection → ∃ call ∈ calls, repliedError call = some error

theorem FailsWith.innocent {program : Routine (Except AppError SessionSnapshot)}
    (fails : FailsWith Reported program) : Innocent program := by
  intro found changes calls error traces rejection
  exact absurd rejection (fails.of_traces traces error rfl).not_rejection

section Operations

variable (manager : SessionManager) (client : Uuid)

theorem start_checks (url : Url) :
    Checks (manager.beginStart client url) (FailsWith Reported) (manager.start client url) := by
  refine ⟨_, rfl, fun _ => rfl, fun entered => ?_⟩
  refine Outcomes.bind (publish _) fun _ _ => ?_
  refine Outcomes.bind (ask _ _) fun applied _ => ?_
  cases applied with
  | error error =>
      refine Outcomes.bind (resetEgress _) fun failures _ => ?_
      exact Outcomes.bind (clearRuntime _) fun failures _ => fail _
  | ok _ =>
      refine Outcomes.bind (ask _ _) fun started _ => ?_
      cases started with
      | error error =>
          refine Outcomes.bind (stopBrowser _) fun failures _ => ?_
          refine Outcomes.bind (resetEgress _) fun failures _ => ?_
          exact Outcomes.bind (clearRuntime _) fun failures _ => fail _
      | ok _ => exact Outcomes.bind (commit _ _) fun snapshot _ => ok snapshot

theorem burn_checks :
    Checks (fun daemon => (ensureLease daemon.session client, daemon)) (FailsWith Reported)
      (manager.burn client) :=
  ⟨_, rfl, fun _ => rfl, fun _ => forceBurn manager⟩

/-- After its check a navigation passes on what the browser replies. -/
def Passes (program : Routine (Except AppError SessionSnapshot)) : Prop :=
  ∃ command rest, program = (Routine.browserNavigate command >>= rest) ∧
    (∀ error, rest (.error error) = .done (.error error)) ∧
    FailsWith (fun _ => False) (rest (.ok ()))

theorem navigate_checks (command : NavigationCommand) :
    Checks (manager.beginNavigation client command) Passes (manager.navigate client command) :=
  ⟨_, rfl, fun _ => rfl, fun _ => ⟨command, _, rfl, fun _ => rfl,
    Outcomes.bind (commit _ _) fun snapshot _ => ok snapshot⟩⟩

theorem Passes.innocent {program : Routine (Except AppError SessionSnapshot)}
    (passes : Passes program) : Innocent program := by
  rcases passes with ⟨command, rest, rfl, refused, accepted⟩
  intro found changes calls error traces rejection
  cases traces with
  | @call _ _ _ reply _ calls _ followed =>
      cases reply with
      | error replied =>
          change (rest (.error replied)).Traces _ _ _ _ at followed
          rw [refused] at followed
          cases followed
          exact ⟨_, List.mem_cons_self, rfl⟩
      | ok _ => exact (accepted.of_traces followed error rfl).elim

theorem changeSetting_checks (event : String) (setting : SessionSnapshot → SessionSnapshot) :
    Checks (SessionManager.change client setting) (FailsWith Reported)
      (SessionManager.changeSetting client event setting) := by
  refine ⟨_, rfl, fun _ => rfl, fun data => ?_⟩
  have published : Quiet (sync fun daemon => ((), EventBus.publish event data daemon) :
      Routine Unit) :=
    fun _ => ⟨rfl, trivial⟩
  exact Outcomes.bind published fun _ _ => ok data.snapshot

theorem switchEgress_checks (mode : EgressMode) :
    Checks (SessionManager.beginSwitch client) (FailsWith Reported)
      (SessionManager.switchEgress client mode) := by
  have draw : Quiet (sync Daemon.newUuid : Routine Uuid) := fun _ => ⟨rfl, trivial⟩
  refine ⟨_, rfl, fun _ => rfl, fun entered => ?_⟩
  refine Outcomes.bind (publish _) fun _ _ => ?_
  refine Outcomes.bind draw fun id _ => ?_
  have attempt : Quiet (SessionManager.switchAttempt id entered.1 entered.2.1 mode) :=
    andThen (FailsWith.ask _ _) fun _ => restart _ _ _ _ _
  refine Outcomes.bind attempt fun attempted _ => ?_
  cases attempted with
  | ok _ => exact Outcomes.bind (commit _ _) fun snapshot _ => ok snapshot
  | error switchError => exact recover _ _ _ _

end Operations

/-! ## Rejections leave no trace -/

theorem rejectsQuietly_of_checks {α : Type} {found : Daemon → Prop} {client : Uuid}
    {body : Daemon → Except AppError α × Daemon}
    {property : Routine (Except AppError SessionSnapshot) → Prop}
    {program : Routine (Except AppError SessionSnapshot)} (checks : Checks body property program)
    (innocent : ∀ rest, property rest → Innocent rest)
    (rejected : ∀ daemon, found daemon → ∀ error, (body daemon).1 = .error error →
      Untouched client daemon (body daemon).2) :
    RejectsQuietly found client program := by
  rcases checks with ⟨rest, rfl, refused, goesOn⟩
  intro changes calls error traces rejection unblamed
  rcases traces.of_transact with ⟨daemon, later, there, rfl, followed⟩
  cases decided : (body daemon).1 with
  | error first =>
      rw [decided, refused] at followed
      cases followed
      refine ⟨rfl, fun change member => ?_⟩
      rw [List.mem_singleton.mp member]
      exact rejected daemon there error decided
  | ok value =>
      rw [decided] at followed
      rcases innocent _ (goesOn value) found later calls error followed rejection with
        ⟨call, member, blamed⟩
      exact absurd blamed (unblamed call member)

section Quietly

variable {found : Daemon → Prop} {manager : SessionManager} {client : Uuid}

theorem changeSetting_rejectsQuietly {event : String}
    {setting : SessionSnapshot → SessionSnapshot} :
    RejectsQuietly found client (SessionManager.changeSetting client event setting) := by
  apply rejectsQuietly_of_checks (changeSetting_checks client event setting)
    fun _ fails => fails.innocent
  intro daemon _ error rejected
  unfold SessionManager.change at rejected ⊢
  cases lease : ensureActiveLease daemon.session client with
  | error _ => exact .refl client daemon
  | ok _ =>
      rw [lease] at rejected
      cases rejected

/-- In sessions that are well formed every operation is rejected quietly. -/
theorem perform_rejectsQuietly
    (formed : ∀ daemon, found daemon → daemon.session.WellFormed manager)
    (operation : ClientOperation) : RejectsQuietly found client (manager.perform client operation) := by
  cases operation with
  | start url =>
      apply rejectsQuietly_of_checks (start_checks manager client url) fun _ fails => fails.innocent
      intro daemon _ error rejected
      have outcome := beginStart_cases manager client url daemon
      generalize manager.beginStart client url daemon = after at outcome rejected
      cases outcome with
      | busy | conflict => exact .refl client daemon
      | blocked => exact ⟨rfl, rfl, rfl, fun _ => rfl⟩
      | begun => cases rejected
  | burn =>
      apply rejectsQuietly_of_checks (burn_checks manager client) fun _ fails => fails.innocent
      exact fun daemon _ _ _ => .refl client daemon
  | navigate command =>
      apply rejectsQuietly_of_checks (navigate_checks manager client command)
        fun _ passes => passes.innocent
      intro daemon _ error rejected
      have outcome := beginNavigation_cases manager client command daemon
      generalize manager.beginNavigation client command daemon = after at outcome rejected
      cases outcome with
      | refused => exact .refl client daemon
      | blocked url lease => exact ⟨rfl, rfl, rfl, fun inactive => absurd lease inactive⟩
      | begun => cases rejected
  | setStreamProfile profile => exact changeSetting_rejectsQuietly
  | setBlocklistEnabled enabled => exact changeSetting_rejectsQuietly
  | setAutoBurnSeconds seconds =>
      unfold SessionManager.perform SessionManager.setAutoBurnSeconds
      dsimp only
      split
      · intro changes calls error traces _ _
        cases traces
        exact ⟨rfl, fun change member => absurd member List.not_mem_nil⟩
      · exact changeSetting_rejectsQuietly
  | switchEgress mode =>
      apply rejectsQuietly_of_checks (switchEgress_checks client mode) fun _ fails => fails.innocent
      intro daemon there error rejected
      have outcome := beginSwitch_cases client daemon
      generalize SessionManager.beginSwitch client daemon = after at outcome rejected
      cases outcome with
      | refused => exact .refl client daemon
      | absent lease missing =>
          have active := (ensureActiveLease_eq_ok_iff.mp lease).2
          rcases (formed daemon there).active active with ⟨_, url, target, _⟩
          rw [missing] at target
          cases target
      | begun => cases rejected

end Quietly

/-! ## The count of rejected navigations -/

/-- A section counts one hit. -/
def Counted (before after : Daemon) : Prop :=
  after.blocklistHits = (before.blocklistHits + 1) % 2 ^ 64

/-- The navigation policy has rejected the request. -/
def Response.Blocked (response : Response) : Prop :=
  response.refusal = some .navigationBlocked

theorem snapshot_blocked_iff {result : Except AppError SessionSnapshot} :
    (Response.snapshot result).Blocked ↔ result = .error .navigationBlocked := by
  cases result with
  | ok snapshot => simp [Response.Blocked, Response.refusal]
  | error error => simp [Response.Blocked, Response.refusal]

/-- The program counts a hit exactly when it ends with a rejected navigation. -/
abbrev CountsBlocked (program : Routine (Except AppError SessionSnapshot)) : Prop :=
  program.Charges Uncounted Counted fun result => result = .error .navigationBlocked

abbrev NeverBlocked {α : Type} (program : Routine (Except AppError α)) : Prop :=
  FailsWith (· ≠ .navigationBlocked) program

theorem FailsWith.Reported.ne_blocked {error : AppError} (reported : Reported error) :
    error ≠ .navigationBlocked := by
  rintro rfl
  exact reported.not_rejection trivial

theorem NeverBlocked.countsBlocked {program : Routine (Except AppError SessionSnapshot)}
    (never : NeverBlocked program) : CountsBlocked program :=
  Charges.of_outcomes (never.mono fun _ fails blocked => fails _ blocked rfl)

/-- The check of an operation, if it is the one to reject navigations. -/
theorem countsBlocked_of_checks {α : Type} {body : Daemon → Except AppError α × Daemon}
    {property : Routine (Except AppError SessionSnapshot) → Prop}
    {program : Routine (Except AppError SessionSnapshot)} (checks : Checks body property program)
    (continues : ∀ rest, property rest → CountsBlocked rest ∧
      rest ≠ .done (.error .navigationBlocked))
    (decides : ∀ daemon, Uncounted daemon (body daemon).2 ∧
        (body daemon).1 ≠ .error .navigationBlocked ∨
      Counted daemon (body daemon).2 ∧ (body daemon).1 = .error .navigationBlocked) :
    CountsBlocked program := by
  rcases checks with ⟨rest, rfl, refused, goesOn⟩
  intro daemon
  change (_ ∧ (∀ result, rest (body daemon).1 = .done result → _) ∧
    (rest (body daemon).1).Charges _ _ _) ∨ _ ∧ ∃ result, rest (body daemon).1 = .done result ∧ _
  rcases decides daemon with ⟨uncounted, unblocked⟩ | ⟨counted, blocked⟩
  · refine Or.inl ⟨uncounted, ?_⟩
    cases decided : (body daemon).1 with
    | error error =>
        rw [refused]
        refine ⟨?_, trivial⟩
        rintro _ ⟨⟩ blocked
        cases blocked
        exact unblocked decided
    | ok value =>
        rcases continues _ (goesOn value) with ⟨counts, unended⟩
        refine ⟨?_, counts⟩
        rintro result ended rfl
        exact unended ended
  · refine Or.inr ⟨counted, .error .navigationBlocked, ?_, rfl⟩
    rw [blocked, refused]

theorem ensureActiveLease_ne_blocked {data : SessionData} {client : Uuid} :
    ensureActiveLease data client ≠ .error .navigationBlocked := by
  unfold ensureActiveLease ensureLease
  split
  · rename_i refused
    split at refused
    · cases refused
    · cases refused
      simp
  · split
    · simp
    · simp

section Counting

variable (app : AppState)

theorem start_countsBlocked (manager : SessionManager) (client : Uuid) (url : Url) :
    CountsBlocked (manager.start client url) := by
  apply countsBlocked_of_checks (start_checks manager client url)
  · intro rest fails
    refine ⟨NeverBlocked.countsBlocked (fails.mono fun _ reported error failed =>
      (reported error failed).ne_blocked), ?_⟩
    rintro rfl
    exact (fails _ rfl).ne_blocked rfl
  · intro daemon
    have outcome := beginStart_cases manager client url daemon
    generalize manager.beginStart client url daemon = after at outcome
    cases outcome with
    | busy | conflict | begun => exact Or.inl ⟨rfl, by simp⟩
    | blocked => exact Or.inr ⟨rfl, rfl⟩

theorem navigate_countsBlocked (manager : SessionManager) (client : Uuid)
    (command : NavigationCommand) : CountsBlocked (manager.navigate client command) := by
  apply countsBlocked_of_checks (navigate_checks manager client command)
  · rintro _ ⟨command, rest, rfl, refused, accepted⟩
    refine ⟨fun reply => ?_, fun impossible => by cases impossible⟩
    cases reply with
    | error error =>
        change (rest (.error error)).Charges _ _ _
        rw [refused]
        trivial
    | ok _ => exact NeverBlocked.countsBlocked (accepted.mono fun _ fails error failed =>
        (fails error failed).elim)
  · intro daemon
    have outcome := beginNavigation_cases manager client command daemon
    generalize manager.beginNavigation client command daemon = after at outcome
    cases outcome with
    | refused error lease =>
        refine Or.inl ⟨rfl, ?_⟩
        rintro ⟨⟩
        exact ensureActiveLease_ne_blocked lease
    | begun => exact Or.inl ⟨rfl, by simp⟩
    | blocked => exact Or.inr ⟨rfl, rfl⟩

theorem switchEgress_neverBlocked (client : Uuid) (mode : EgressMode) :
    NeverBlocked (SessionManager.switchEgress client mode) := by
  rcases switchEgress_checks client mode with ⟨rest, equal, refused, goesOn⟩
  rw [equal]
  have entered : Outcomes Uncounted (fun result => result ≠ .error .navigationBlocked)
      (lock (SessionManager.beginSwitch client) :
        Routine (Except AppError (Url × StreamProfile × EgressMode))) := by
    refine Outcomes.transact fun daemon => ?_
    have outcome := beginSwitch_cases client daemon
    generalize SessionManager.beginSwitch client daemon = after at outcome
    cases outcome with
    | refused error lease =>
        refine ⟨rfl, ?_⟩
        rintro ⟨⟩
        exact ensureActiveLease_ne_blocked lease
    | absent | begun => exact ⟨rfl, by simp⟩
  refine Outcomes.bind entered fun result unblocked => ?_
  cases result with
  | error first =>
      rw [refused]
      rintro _ ⟨⟩ rfl
      exact unblocked rfl
  | ok value => exact (goesOn value).mono fun _ reported error failed =>
      (reported error failed).ne_blocked

theorem validateContext_neverBlocked (context : AuthContext) :
    NeverBlocked (AppState.validateContext context) := by
  refine Outcomes.transact fun daemon => ⟨rfl, ?_⟩
  unfold Daemon.withAuth AuthManager.validateContext
  dsimp only
  split
  · simp
  · simp

theorem requireSessionId_neverBlocked (id : Uuid) : NeverBlocked (AppState.requireSessionId id) := by
  refine Outcomes.transact fun daemon => ⟨rfl, ?_⟩
  dsimp only
  split
  · simp
  · simp

theorem revokeAndRotate_neverBlocked : NeverBlocked app.revokeAndRotate := by
  have locked : ∀ {α : Type} {body : Daemon → α × Daemon},
      (∀ daemon, Uncounted daemon (body daemon).2) → Quiet (sync body : Routine α) :=
    fun steps daemon => ⟨steps daemon, trivial⟩
  refine Outcomes.bind (locked fun _ => rfl) fun _ _ => ?_
  refine Outcomes.bind (locked fun _ => rfl) fun pairing _ => ?_
  cases pairing with
  | none => exact error (by simp)
  | some pairing =>
      refine Outcomes.bind (FailsWith.ask _ _) fun reply _ => ?_
      cases reply with
      | ok _ => exact ok ()
      | error _ => exact Outcomes.bind (locked fun _ => rfl) fun _ _ => error (by simp)

theorem burn_neverBlocked (manager : SessionManager) (client : Uuid) :
    NeverBlocked (manager.burn client) := by
  have leased : NeverBlocked (Program.read fun daemon => ensureLease daemon.session client :
      Routine (Except AppError Unit)) := by
    refine Outcomes.transact fun daemon => ⟨rfl, ?_⟩
    unfold ensureLease
    dsimp only
    split
    · simp
    · simp
  refine Outcomes.bind leased fun lease fails => ?_
  cases lease with
  | error first => exact error (fails first rfl)
  | ok _ => exact (forceBurn manager).mono fun _ reported error failed =>
      (reported error failed).ne_blocked

theorem burnAndRotate_neverBlocked (controller : Option Uuid) :
    NeverBlocked (app.burnAndRotate controller) := by
  unfold AppState.burnAndRotate
  extract_lets rotates
  have rotated : ∀ burnResult, (∀ error, burnResult = .error error → error ≠ .navigationBlocked) →
      NeverBlocked (rotates burnResult) := by
    intro burnResult burnFails
    refine Outcomes.bind (revokeAndRotate_neverBlocked app) fun pairingResult pairingFails => ?_
    cases burnResult with
    | error first => exact error (burnFails first rfl)
    | ok snapshot =>
        cases pairingResult with
        | error second => exact error (pairingFails second rfl)
        | ok _ => exact ok snapshot
  cases controller with
  | some client => exact Outcomes.bind (burn_neverBlocked app.sessions client) rotated
  | none =>
      apply Outcomes.bind _ rotated
      exact (forceBurn app.sessions).mono fun _ reported error failed =>
        (reported error failed).ne_blocked

theorem autoBurnIfDue_quiet : Quiet app.autoBurnIfDue := by
  refine Outcomes.bind (FailsWith.read _) fun snapshot _ => ?_
  dsimp only
  split
  · trivial
  · refine Outcomes.bind (FailsWith.read _) fun idleFor _ => ?_
    split
    · trivial
    · refine Outcomes.bind (burnAndRotate_neverBlocked app none) fun result _ => ?_
      cases result <;> trivial

theorem recoverExpiredAuth_quiet : Quiet app.recoverExpiredAuth := by
  have required : Quiet (sync fun daemon =>
      daemon.withAuth (AuthManager.pairingRecoveryRequired daemon.now) : Routine Bool) :=
    fun _ => ⟨rfl, trivial⟩
  refine Outcomes.bind required fun required _ => ?_
  cases required with
  | false => trivial
  | true =>
      refine Outcomes.bind (FailsWith.read _) fun snapshot _ => ?_
      extract_lets rotates
      have rotated : ∀ burnResult, Quiet (rotates burnResult) := by
        intro burnResult
        refine Outcomes.bind (revokeAndRotate_neverBlocked app) fun pairingResult _ => ?_
        cases burnResult <;> cases pairingResult <;> trivial
      split
      · exact rotated _
      · exact Outcomes.bind (forceBurn app.sessions) fun burnResult _ => rotated burnResult

/-- Every lifecycle operation counts a hit exactly when it ends with a rejected
navigation. -/
theorem lifecycle_charges (op : Lifecycle) :
    (app.lifecycle op).Charges Uncounted Counted Response.Blocked := by
  have told : ∀ {program : Routine (Except AppError SessionSnapshot)}, CountsBlocked program →
      (program >>= fun result => .done (.snapshot result)).Charges Uncounted Counted
        Response.Blocked := by
    intro program counts
    apply Charges.map
    simp only [snapshot_blocked_iff]
    exact counts
  have flagged : ∀ {program : Routine (Except AppError Bool)}, Quiet program →
      (program >>= fun result => .done (.flag result)).Charges Uncounted Counted
        Response.Blocked := by
    intro program quiet
    exact Charges.of_outcomes (Outcomes.bind quiet fun _ _ blocked => by cases blocked)
  have guarded : ∀ {context id} {program : Routine (Except AppError SessionSnapshot)},
      CountsBlocked program → (∀ result, program ≠ .done result) →
      CountsBlocked ((AppState.validateContext context).andThen fun _ =>
        (AppState.requireSessionId id).andThen fun _ => program) := by
    intro context id program counts continues
    apply Charges.andThen
    · exact (validateContext_neverBlocked context).mono fun _ fails error failed blocked =>
        fails error failed (by cases blocked; rfl)
    · intro _ result impossible
      cases impossible
    · intro _
      apply Charges.andThen
      · exact (requireSessionId_neverBlocked id).mono fun _ fails error failed blocked =>
          fails error failed (by cases blocked; rfl)
      · exact fun _ => continues
      · exact fun _ => counts
  cases op with
  | startSession context url =>
      apply told
      apply Charges.andThen
      · exact (validateContext_neverBlocked context).mono fun _ fails error failed blocked =>
          fails error failed (by cases blocked; rfl)
      · intro _ result impossible
        cases impossible
      · exact fun _ => start_countsBlocked app.sessions context.clientId url
  | navigate context id command =>
      apply told (guarded (navigate_countsBlocked app.sessions context.clientId command) _)
      intro result impossible
      cases impossible
  | switchEgress context id mode =>
      apply told (guarded (switchEgress_neverBlocked context.clientId mode).countsBlocked _)
      intro result impossible
      cases impossible
  | burnControllerSession context id =>
      apply told (guarded (burnAndRotate_neverBlocked app _).countsBlocked _)
      intro result impossible
      cases impossible
  | autoBurnIfDue => exact flagged (autoBurnIfDue_quiet app)
  | recoverExpiredAuth => exact flagged (recoverExpiredAuth_quiet app)

end Counting

/-! ## Runs -/

section Runs

variable {W O N : Type}

/-- The step ends the operation with a navigation that its own check rejects. -/
def rejectsNavigation (label : Pool.Label Lifecycle Request (Environment N) O)
    (before after : Config Daemon Call Call.Reply Response W) : Bool :=
  match label with
  | .step _ => before.holder.any isAccess &&
      after.result.bind Response.refusal == some .navigationBlocked
  | _ => false

/-- The number of navigations that are rejected along a schedule. -/
def rejectedNavigations (pool : Pool Daemon Call Call.Reply Response W O Lifecycle Request
    (Environment N)) :
    Config Daemon Call Call.Reply Response W →
      List (Pool.Label Lifecycle Request (Environment N) O) → Nat
  | _, [] => 0
  | config, label :: rest =>
      match pool.step config label with
      | none => 0
      | some next =>
          (if rejectsNavigation label config next then 1 else 0) +
            rejectedNavigations pool next rest

variable {app : AppState} {answer : Answer Call Call.Reply W O}
  {world : N → Daemon → W → Option W} {config config' : Config Daemon Call Call.Reply Response W}
  {label : Pool.Label Lifecycle Request (Environment N) O}

/-- The operation that runs counts a hit exactly when it ends with a rejected
navigation. -/
def Charged (config : Config Daemon Call Call.Reply Response W) : Prop :=
  ∀ program, config.holder = some program → program.Charges Uncounted Counted Response.Blocked

/-- What a step does to the count. -/
def Tallies (label : Pool.Label Lifecycle Request (Environment N) O)
    (before after : Config Daemon Call Call.Reply Response W) : Prop :=
  if rejectsNavigation label before after then Counted before.memory after.memory
  else Uncounted before.memory after.memory

/-- A section of the operation is counted if it ends the operation with a
rejected navigation. -/
theorem tallies_of_section {awaits : Bool} {update : Daemon → Daemon}
    {next : Daemon → Routine Response} {outcome : Option O}
    (charges : (Program.access awaits update next).Charges Uncounted Counted Response.Blocked)
    (running : config.holder = some (.access awaits update next))
    (memory : config'.memory = update config.memory)
    (left : config'.holder = some (next config.memory)) :
    Charged config' ∧ Tallies (.step outcome : Pool.Label Lifecycle Request (Environment N) O)
      config config' := by
  have results : ∀ response, next config.memory = .done response →
      config'.result = some response := by
    intro response ended
    unfold Config.result
    rw [left, ended]
  unfold Tallies rejectsNavigation
  rw [running, memory]
  rcases charges config.memory with ⟨uncounted, unblocked, later⟩ | ⟨counted, response, ended, bill⟩
  · refine ⟨fun program holds => ?_, ?_⟩
    · obtain rfl := Option.some.inj (left.symm.trans holds)
      exact later
    · rw [if_neg]
      · exact uncounted
      · intro rejects
        cases finished : config'.result with
        | none => simp [finished] at rejects
        | some response =>
            have ended := Option.some.inj (left.symm.trans (Config.holder_of_result finished))
            apply unblocked response ended
            show response.refusal = some .navigationBlocked
            simpa [finished, isAccess] using rejects
  · refine ⟨fun program holds => ?_, ?_⟩
    · obtain rfl := Option.some.inj (left.symm.trans holds)
      rw [ended]
      trivial
    · rw [if_pos]
      · exact counted
      · have blocked : response.refusal = some .navigationBlocked := bill
        simp [results response ended, isAccess, blocked]

/-- A step counts one hit if it rejects a navigation, and none otherwise. -/
theorem tallies_of_step (framed : config.Framed LifecycleStep RequestStep)
    (charged : Charged config)
    (step : (app.service answer world).step config label = some config') :
    Charged config' ∧ Tallies label config config' := by
  have advances := ((service_framed app answer world).step framed step).2
  cases label with
  | start op =>
      have opened := entered step
      subst opened
      refine ⟨fun program running => ?_, rfl⟩
      rw [← Option.some.inj running]
      exact lifecycle_charges app op
  | step outcome =>
      rcases Option.bind_eq_some_iff.mp step with ⟨program, running, mapped⟩
      rcases Option.map_eq_some_iff.mp mapped with ⟨after, advanced, rfl⟩
      have charges := charged program running
      cases program with
      | done _ => cases advanced
      | access awaits update next =>
          cases advanced
          exact tallies_of_section charges running rfl rfl
      | call awaits request next =>
          rcases Option.bind_eq_some_iff.mp advanced with ⟨chosen, _, replied⟩
          rcases Option.map_eq_some_iff.mp replied with ⟨answered, _, rfl⟩
          refine ⟨fun program holds => ?_, ?_⟩
          · rw [← Option.some.inj holds]
            exact charges answered.1
          · unfold Tallies rejectsNavigation
            rw [running]
            rfl
  | drop outcome =>
      rcases Option.bind_eq_some_iff.mp step with ⟨program, running, mapped⟩
      rcases Option.map_eq_some_iff.mp mapped with ⟨_, _, rfl⟩
      exact ⟨fun program free => (by cases free), rfl⟩
  | finish =>
      simp only [Pool.step] at step
      split at step
      · cases step
        exact ⟨fun program free => (by cases free), rfl⟩
      · cases step
  | stepTask index outcome =>
      rcases Option.bind_eq_some_iff.mp step with ⟨program, running, mapped⟩
      rcases Option.map_eq_some_iff.mp mapped with ⟨_, _, rfl⟩
      exact ⟨charged, advances.1.blocklistHits⟩
  | dropTask index outcome =>
      rcases Option.bind_eq_some_iff.mp step with ⟨program, running, mapped⟩
      rcases Option.map_eq_some_iff.mp mapped with ⟨_, _, rfl⟩
      exact ⟨charged, rfl⟩
  | spawn task =>
      cases step
      exact ⟨charged, rfl⟩
  | noise event =>
      rcases Option.map_eq_some_iff.mp step with ⟨after, changed, rfl⟩
      refine ⟨charged, ?_⟩
      show after.1.blocklistHits = config.memory.blocklistHits
      cases event with
      | elapse duration | setClock utc =>
          cases changed
          rfl
      | world event =>
          rcases Option.map_eq_some_iff.mp changed with ⟨_, _, rfl⟩
          rfl

/-- The count of a run is the number of navigations rejected along it. -/
theorem blocklistHits_of_run {labels : List (Pool.Label Lifecycle Request (Environment N) O)}
    (framed : config.Framed LifecycleStep RequestStep) (charged : Charged config)
    (bounded : config.memory.blocklistHits < 2 ^ 64)
    (executed : run (app.service answer world).step config labels = some config') :
    config'.memory.blocklistHits =
      (config.memory.blocklistHits +
        rejectedNavigations (app.service answer world) config labels) % 2 ^ 64 := by
  induction labels generalizing config with
  | nil =>
      obtain rfl := Option.some.inj executed
      exact (Nat.mod_eq_of_lt bounded).symm
  | cons label rest ih =>
      rcases Option.bind_eq_some_iff.mp executed with ⟨middle, step, remaining⟩
      rcases tallies_of_step framed charged step with ⟨charged', tallies⟩
      have framed' := ((service_framed app answer world).step framed step).1
      unfold rejectedNavigations
      rw [step]
      dsimp only
      unfold Tallies at tallies
      by_cases rejects : rejectsNavigation label config middle = true
      · rw [if_pos rejects] at tallies ⊢
        have counted : middle.memory.blocklistHits =
            (config.memory.blocklistHits + 1) % 2 ^ 64 := tallies
        have below : middle.memory.blocklistHits < 2 ^ 64 := by
          rw [counted]
          exact Nat.mod_lt _ (by decide)
        rw [ih framed' charged' below remaining, counted, Nat.mod_add_mod, Nat.add_assoc]
      · rw [if_neg rejects] at tallies ⊢
        have uncounted : middle.memory.blocklistHits = config.memory.blocklistHits := tallies
        rw [ih framed' charged' (by rw [uncounted]; exact bounded) remaining, uncounted,
          Nat.zero_add]

end Runs

/-- A memory that the daemon has in some state that the service reaches. -/
def Found {W O N : Type} (app : AppState) (answer : Answer Call Call.Reply W O)
    (world : N → Daemon → W → Option W) (daemon : Daemon) (source : W) (memory : Daemon) : Prop :=
  ∃ config, (app.service answer world).Reaches (.idle daemon source) config ∧
    config.memory = memory

/-- An operation that the daemon's own checks reject leaves the session as it
was and makes no call; and a run counts as many hits of the blocklist as
navigations were rejected. -/
theorem rejections_change_nothing {W O N : Type} {app : AppState}
    {answer : Answer Call Call.Reply W O} {world : N → Daemon → W → Option W} {daemon : Daemon}
    {source : W} (booted : app.Booted daemon) (uncounted : daemon.blocklistHits = 0) :
    (∀ client operation, RejectsQuietly (Found app answer world daemon source) client
      (app.sessions.perform client operation)) ∧
    ∀ labels config, run (app.service answer world).step (.idle daemon source) labels =
        some config →
      config.memory.blocklistHits =
        rejectedNavigations (app.service answer world) (.idle daemon source) labels % 2 ^ 64 := by
  constructor
  · intro client operation
    apply perform_rejectsQuietly
    rintro memory ⟨config, reaches, rfl⟩
    exact wellFormed_of_reaches booted reaches
  · intro labels config executed
    have bounded : daemon.blocklistHits < 2 ^ 64 := by
      rw [uncounted]
      decide
    have charged : Charged (.idle daemon source : Config Daemon Call Call.Reply Response W) := by
      intro program running
      cases running
    have counted := blocklistHits_of_run (.idle daemon source) charged bounded executed
    rw [counted]
    show (daemon.blocklistHits + _) % 2 ^ 64 = _
    rw [uncounted, Nat.zero_add]

namespace Sample

/-- A deployment with one host on its blocklist. -/
def filtering : AppState :=
  { app with sessions := { blocklist := fun host => host == "ads.example" } }

theorem filtering_booted : filtering.Booted daemon where
  session := rfl
  rotated := ⟨rng, _, rfl⟩
  events := rfl
  deliveries := rfl
  admissions := rfl

/-- A session in which the host is navigated to. -/
def visitsAds : List (ServiceLabel Unit Empty) :=
  openSession () 8 ++ [.finish] ++ navigates () (.navigate (url "ads.example")) 3

end Sample

/-- The navigation is rejected quietly, and is the one hit of the blocklist. -/
theorem rejections_change_nothing_of_visitsAds :
    RejectsQuietly (Found Sample.filtering Sample.willing AppState.still Sample.daemon ()) 0
        (Sample.filtering.sessions.perform 0 (.navigate (.navigate (Sample.url "ads.example")))) ∧
      ∃ config : Config Daemon Call Call.Reply Response Unit,
        config.result.bind Response.refusal = some .navigationBlocked ∧
        config.memory.blocklistHits = 1 := by
  have holds : (∀ client operation,
      RejectsQuietly (Found Sample.filtering Sample.willing AppState.still Sample.daemon ()) client
        (Sample.filtering.sessions.perform client operation)) ∧ _ :=
    rejections_change_nothing Sample.filtering_booted rfl
  refine ⟨holds.1 0 _, ?_⟩
  have executed : ((run (Sample.filtering.service Sample.willing AppState.still).step
      (.idle Sample.daemon ()) Sample.visitsAds).map fun config =>
        config.result.bind Response.refusal) = some (some .navigationBlocked) := by
    decide +kernel
  have counted : rejectedNavigations (Sample.filtering.service Sample.willing AppState.still)
      (.idle Sample.daemon ()) Sample.visitsAds = 1 := by
    decide +kernel
  rcases Option.map_eq_some_iff.mp executed with ⟨config, reached, refused⟩
  refine ⟨config, refused, ?_⟩
  rw [holds.2 _ config reached, counted]
  exact Nat.mod_eq_of_lt (by decide)

end XanhTab
