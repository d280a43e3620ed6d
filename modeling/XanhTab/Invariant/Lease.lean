import XanhTab.Invariant.Session

/-!
# Agreement of the pairing with the lease

The lease lives in the session, the identities in the authentication state, and
each has a lock of its own.  Between them the following holds in every state:
while a pairing can be redeemed nobody is paired, nobody holds the lease and
nothing runs; and whoever holds the lease is the one client that may be stored.

An operation for a client keeps this only because the client was found to be
stored before.  `Entitled` is what remains of that finding for the rest of the
operation, since the stored session may expire at any time.
-/

namespace XanhTab

open Program Contract Transition

/-! ## The invariant -/

structure Agreement (daemon : Daemon) : Prop where
  stored : daemon.auth.sessions = [] ∨ ∃ key session,
    daemon.auth.sessions = [(key, session)] ∧ session.generation = daemon.auth.generation
  exclusive : AuthManager.pairingAvailable daemon.auth = true → daemon.auth.sessions = []
  inactive : AuthManager.pairingAvailable daemon.auth = true →
    daemon.session.snapshot.phase = .idle ∨ daemon.session.snapshot.phase = .failed
  leased : ∀ client, daemon.session.controller = some client →
    AuthManager.pairingAvailable daemon.auth = false ∧
      ∀ entry ∈ daemon.auth.sessions, entry.2.clientId = client
  /-- The generation counts rotations, as long as it cannot have wrapped. -/
  counted : daemon.rng.draws < 2 ^ 64 →
    0 < daemon.auth.generation ∧ daemon.auth.generation ≤ daemon.rng.draws

/-- No pairing can be redeemed. -/
def Occupied (daemon : Daemon) : Prop :=
  AuthManager.pairingAvailable daemon.auth = false

/-- The client was stored, and nobody else can have taken its place. -/
structure Entitled (client : Uuid) (daemon : Daemon) : Prop where
  occupied : Occupied daemon
  stored : ∀ entry ∈ daemon.auth.sessions, entry.2.clientId = client
  lease : daemon.session.controller = none ∨ daemon.session.controller = some client

/-- A burn has ended. -/
structure Released (daemon : Daemon) : Prop where
  occupied : Occupied daemon
  controller : daemon.session.controller = none
  phase : daemon.session.snapshot.phase = .idle ∨ daemon.session.snapshot.phase = .failed

/-- A step that revokes a live session or rotates the pairing. -/
def Revokes (before after : Daemon) : Prop :=
  after.auth.generation ≠ before.auth.generation ∨
    ∃ entry ∈ before.auth.sessions, before.now < entry.2.expiresAt ∧
      entry.2.generation = before.auth.generation ∧ entry ∉ after.auth.sessions

theorem pairingAvailable_eq_false_iff {state : AuthState} :
    AuthManager.pairingAvailable state = false ↔
      state.pairingHash = none ∧ state.manualPairingHash = none := by
  simp [AuthManager.pairingAvailable]

/-! ## What the requests do to it -/

namespace AuthStep

variable {now : Instant} {before after : Rng} {state state' : AuthState}

theorem occupied (step : AuthStep now before after state state')
    (occupied : AuthManager.pairingAvailable state = false) :
    AuthManager.pairingAvailable state' = false := by
  rw [pairingAvailable_eq_false_iff] at occupied ⊢
  cases step.identity with
  | drop secret manual _ _ => exact ⟨secret.trans occupied.1, manual.trans occupied.2⟩
  | consume _ secret manual _ => exact ⟨secret, manual⟩
  | exchange _ _ _ secret manual _ _ _ => exact ⟨secret, manual⟩

theorem available_of_available (step : AuthStep now before after state state')
    (available : AuthManager.pairingAvailable state' = true) :
    AuthManager.pairingAvailable state = true := by
  by_contra unavailable
  have occupied := step.occupied (Bool.eq_false_iff.mpr unavailable)
  rw [available] at occupied
  exact nomatch occupied

/-- While no pairing can be redeemed, nobody new is stored. -/
theorem sublist_of_occupied (step : AuthStep now before after state state')
    (occupied : AuthManager.pairingAvailable state = false) :
    state'.sessions.Sublist state.sessions := by
  cases step.identity with
  | drop _ _ sessions _ => exact sessions
  | consume available _ _ _ => exact absurd available (by simp [occupied])
  | exchange _ _ available _ _ _ _ _ => exact absurd available (by simp [occupied])

theorem not_revokes (step : AuthStep now before after state state')
    (exclusive : AuthManager.pairingAvailable state = true → state.sessions = [])
    {entry : Digest × AuthSession} (member : entry ∈ state.sessions)
    (live : now < entry.2.expiresAt) (current : entry.2.generation = state.generation) :
    entry ∈ state'.sessions := by
  cases step.identity with
  | drop _ _ _ alive => exact alive entry member live current
  | consume _ _ _ same => exact same ▸ member
  | exchange _ _ available _ _ _ _ _ =>
      rw [exclusive available] at member
      exact absurd member List.not_mem_nil

end AuthStep

/-- An entitled client stays entitled. -/
theorem Entitled.step {client : Uuid} {before after : Daemon} (entitled : Entitled client before)
    (settings : SettingsStep before.session after.session)
    (auth : AuthStep before.now before.rng after.rng before.auth after.auth) :
    Entitled client after where
  occupied := auth.occupied entitled.occupied
  stored entry member :=
    entitled.stored entry ((auth.sublist_of_occupied entitled.occupied).mem member)
  lease := by
    rw [settings.controller]
    exact entitled.lease

namespace Agreement

variable {daemon : Daemon}

/-- What the invariant speaks of is kept; the phase matters only while a pairing
can be redeemed. -/
theorem carry (agreement : Agreement daemon) {daemon' : Daemon}
    (auth : daemon'.auth = daemon.auth) (draws : daemon.rng.draws ≤ daemon'.rng.draws)
    (controller : daemon'.session.controller = daemon.session.controller)
    (phase : Occupied daemon ∨
      daemon'.session.snapshot.phase = daemon.session.snapshot.phase) : Agreement daemon' where
  stored := by rw [auth]; exact agreement.stored
  exclusive := by rw [auth]; exact agreement.exclusive
  inactive available := by
    rw [auth] at available
    rcases phase with occupied | same
    · exact nomatch available.symm.trans occupied
    · rw [same]
      exact agreement.inactive available
  leased client held := by
    rw [auth]
    exact agreement.leased client (controller.symm.trans held)
  counted bound := by
    rw [auth]
    have counted := agreement.counted (Nat.lt_of_le_of_lt draws bound)
    exact ⟨counted.1, Nat.le_trans counted.2 draws⟩

/-- An entitled client takes the lease. -/
theorem lease (agreement : Agreement daemon) {client : Uuid} (entitled : Entitled client daemon)
    {daemon' : Daemon} (auth : daemon'.auth = daemon.auth)
    (draws : daemon.rng.draws ≤ daemon'.rng.draws)
    (controller : daemon'.session.controller = some client) : Agreement daemon' where
  stored := by rw [auth]; exact agreement.stored
  exclusive := by rw [auth]; exact agreement.exclusive
  inactive available := by
    rw [auth] at available
    exact nomatch available.symm.trans entitled.occupied
  leased other held := by
    rw [auth, ← Option.some.inj (controller.symm.trans held)]
    exact ⟨entitled.occupied, entitled.stored⟩
  counted bound := by
    rw [auth]
    have counted := agreement.counted (Nat.lt_of_le_of_lt draws bound)
    exact ⟨counted.1, Nat.le_trans counted.2 draws⟩

/-- The lease is given up. -/
theorem release (agreement : Agreement daemon) {daemon' : Daemon}
    (auth : daemon'.auth = daemon.auth) (draws : daemon.rng.draws ≤ daemon'.rng.draws)
    (controller : daemon'.session.controller = none)
    (phase : daemon'.session.snapshot.phase = .idle ∨
      daemon'.session.snapshot.phase = .failed) : Agreement daemon' where
  stored := by rw [auth]; exact agreement.stored
  exclusive := by rw [auth]; exact agreement.exclusive
  inactive _ := phase
  leased client held := nomatch controller.symm.trans held
  counted bound := by
    rw [auth]
    have counted := agreement.counted (Nat.lt_of_le_of_lt draws bound)
    exact ⟨counted.1, Nat.le_trans counted.2 draws⟩

theorem request (agreement : Agreement daemon) {daemon' : Daemon}
    (step : RequestStep daemon daemon') : Agreement daemon' := by
  have auth := step.auth
  have draws : daemon'.rng.draws < 2 ^ 64 → daemon.rng.draws < 2 ^ 64 :=
    fun bound => Nat.lt_of_le_of_lt auth.advances.draws bound
  constructor
  · rw [auth.generation]
    cases auth.identity with
    | drop _ _ sessions _ =>
        rcases agreement.stored with none_ | ⟨key, session, one, current⟩
        · exact Or.inl (List.sublist_nil.mp (none_ ▸ sessions))
        · rw [one, List.sublist_singleton] at sessions
          rcases sessions with empty | kept
          · exact Or.inl empty
          · exact Or.inr ⟨key, session, kept, current⟩
    | consume _ _ _ same => rw [same]; exact agreement.stored
    | exchange entry rest available _ _ stored older fresh =>
        rw [agreement.exclusive available, List.sublist_nil] at older
        exact Or.inr ⟨entry.1, entry.2, by rw [stored, older], fresh.generation⟩
  · intro available
    have before := step.auth.available_of_available available
    have empty := agreement.exclusive before
    cases auth.identity with
    | drop _ _ sessions _ => exact List.sublist_nil.mp (empty ▸ sessions)
    | consume _ _ _ same => exact same.trans empty
    | exchange _ _ _ secret manual _ _ _ =>
        rw [pairingAvailable_eq_false_iff.mpr ⟨secret, manual⟩] at available
        exact nomatch available
  · intro available
    rw [step.session.phase]
    exact agreement.inactive (step.auth.available_of_available available)
  · intro client held
    rcases agreement.leased client (step.session.controller.symm.trans held) with
      ⟨occupied, stored⟩
    exact ⟨auth.occupied occupied, fun entry member =>
      stored entry ((auth.sublist_of_occupied occupied).mem member)⟩
  · intro bound
    rw [auth.generation]
    have counted := agreement.counted (draws bound)
    exact ⟨counted.1, Nat.le_trans counted.2 auth.advances.draws⟩

/-- Revoking everything after a burn. -/
theorem revokeAll (agreement : Agreement daemon) :
    Agreement { daemon with auth := AuthManager.revokeAll daemon.auth } where
  stored := Or.inl rfl
  exclusive _ := rfl
  inactive := agreement.inactive
  leased client held := ⟨(agreement.leased client held).1, fun _ member => nomatch member⟩
  counted := agreement.counted

theorem invalidate (agreement : Agreement daemon) :
    Agreement
      { daemon with auth := AuthManager.invalidateUnpublishedPairing daemon.auth } where
  stored := Or.inl rfl
  exclusive _ := rfl
  inactive available := nomatch available
  leased _ _ := ⟨rfl, fun _ member => nomatch member⟩
  counted := agreement.counted

/-- A rotation needs a session that nobody leases and that does not run. -/
theorem rotatePairing (agreement : Agreement daemon)
    (controller : daemon.session.controller = none)
    (phase : daemon.session.snapshot.phase = .idle ∨ daemon.session.snapshot.phase = .failed) :
    Agreement (daemon.withAuthAndRng AuthManager.rotatePairing).2 := by
  unfold Daemon.withAuthAndRng AuthManager.rotatePairing
  rcases draw : daemon.rng.randomBytes with ⟨_ | raw, rng⟩
  · have advances := Rng.Advances.randomBytes draw
    exact
      { stored := agreement.stored
        exclusive := agreement.exclusive
        inactive := agreement.inactive
        leased := agreement.leased
        counted := fun bound =>
          have counted := agreement.counted (Nat.lt_of_le_of_lt advances.draws bound)
          ⟨counted.1, Nat.le_trans counted.2 advances.draws⟩ }
  · rcases Prod.mk.inj draw with ⟨_, rfl⟩
    refine
      { stored := Or.inl rfl
        exclusive := fun _ => rfl
        inactive := fun _ => phase
        leased := fun client held => nomatch controller.symm.trans held
        counted := fun bound => ?_ }
    have bound : daemon.rng.draws + 1 < 2 ^ 64 := bound
    have counted := agreement.counted (Nat.lt_of_succ_lt bound)
    have unwrapped : (daemon.auth.generation + 1) % 2 ^ 64 = daemon.auth.generation + 1 :=
      Nat.mod_eq_of_lt (by omega)
    show 0 < (daemon.auth.generation + 1) % 2 ^ 64 ∧
      (daemon.auth.generation + 1) % 2 ^ 64 ≤ daemon.rng.draws + 1
    rw [unwrapped]
    omega

end Agreement

theorem AppState.Booted.agreement {app : AppState} {daemon : Daemon}
    (booted : app.Booted daemon) : Agreement daemon := by
  rcases booted.rotated with ⟨rng, material, rotated⟩
  have initial := booted.session
  unfold AuthManager.rotatePairing at rotated
  rcases draw : rng.randomBytes with ⟨_ | raw, rng'⟩
  · rw [draw] at rotated
    cases rotated
  · rw [draw] at rotated
    simp only [Prod.mk.injEq] at rotated
    rcases rotated with ⟨_, auth, drawn⟩
    have draws : daemon.rng.draws = rng.draws + 1 := by
      rw [← drawn, ← (Prod.mk.inj draw).2]
    exact
      { stored := Or.inl (by rw [← auth])
        exclusive := fun _ => by rw [← auth]
        inactive := fun _ => Or.inl (by rw [initial]; rfl)
        leased := fun client held => by rw [initial] at held; cases held
        counted := fun _ => by rw [← auth, draws]; simp }

/-! ## The contract -/

/-- A lifecycle operation has ended in a lease conflict. -/
def Response.Conflicts : Response → Prop
  | .snapshot (.error .leaseConflict) => True
  | .flag (.error .leaseConflict) => True
  | _ => False

/-- The browser never reports a lease conflict of its own, as none of the
backends does. -/
def leaseContract.Unconflicting {W O : Type} (answer : Answer Call Call.Reply W O) : Prop :=
  ∀ command outcome state reply state',
    answer (.browserNavigate command) outcome state = some (reply, state') →
      reply ≠ .error .leaseConflict

/-- No operation ends in a conflict, and none revokes or rotates while a session
is leased or running. -/
def leaseContract (app : AppState) {W O : Type} (answer : Answer Call Call.Reply W O) :
    Contract Daemon Call Response W O where
  given daemon _ := daemon.session.WellFormed app.sessions
  always daemon _ := Agreement daemon
  finish response _ _ := leaseContract.Unconflicting answer → ¬ response.Conflicts
  rely before _ after _ := SettingsStep before.session after.session ∧
    AuthStep before.now before.rng after.rng before.auth after.auth
  guarantee before _ after _ := Revokes before after →
    after.session.controller = none ∧
      (after.session.snapshot.phase = .idle ∨ after.session.snapshot.phase = .failed)

theorem not_revokes_of_auth_eq {before after : Daemon} (same : after.auth = before.auth) :
    ¬ Revokes before after := by
  rintro (rotated | ⟨entry, member, _, _, lost⟩)
  · exact rotated (by rw [same])
  · exact lost (by rw [same]; exact member)

theorem no_revocation {before after : Daemon} {property : Prop}
    (same : after.auth = before.auth) (revokes : Revokes before after) : property :=
  absurd revokes (not_revokes_of_auth_eq same)

theorem AuthStep.not_revokes_of_agreement {before after : Daemon} (agreement : Agreement before)
    (step : AuthStep before.now before.rng after.rng before.auth after.auth) :
    ¬ Revokes before after := by
  rintro (rotated | ⟨entry, member, live, current, lost⟩)
  · exact rotated step.generation
  · exact lost (step.not_revokes agreement.exclusive member live current)

namespace leaseContract

variable {app : AppState} {W O N : Type} {answer : Answer Call Call.Reply W O}
  {world : N → Daemon → W → Option W}

theorem quiet : (leaseContract app answer).Quiet where
  rest _ _ _ _ := trivial
  unread _ _ _ _ _ := trivial
  publish _ _ _ _ good _ :=
    ⟨no_revocation rfl,
      good.2.carry rfl (Nat.le_refl _) rfl (Or.inr rfl)⟩

/-! ### Assertions -/

def occupied : (leaseContract app answer).Assertion where
  holds daemon _ := Occupied daemon
  stable := fun _ _ _ _ _ relied _ holds => relied.2.occupied holds

def entitled (client : Uuid) : (leaseContract app answer).Assertion where
  holds daemon _ := Entitled client daemon
  stable := fun _ _ _ _ _ relied _ holds => holds.step relied.1 relied.2

def leads (client : Uuid) : (leaseContract app answer).Assertion where
  holds daemon _ := daemon.session.controller = some client
  stable := fun _ _ _ _ _ relied _ holds => relied.1.controller.trans holds

def released : (leaseContract app answer).Assertion where
  holds daemon _ := Released daemon
  stable := by
    intro _ _ _ _ _ relied _ holds
    constructor
    · exact relied.2.occupied holds.occupied
    · exact relied.1.controller.trans holds.controller
    · rw [relied.1.phase]
      exact holds.phase

/-- A session that nobody leases and that does not run. -/
def ended : (leaseContract app answer).Assertion where
  holds daemon _ := daemon.session.controller = none ∧
    (daemon.session.snapshot.phase = .idle ∨ daemon.session.snapshot.phase = .failed)
  stable := by
    intro _ _ _ _ _ relied _ holds
    rw [relied.1.controller, relied.1.phase]
    exact holds

/-- A burn has ended with anything but a conflict. -/
def burned {α : Type} (result : Except AppError α) : (leaseContract app answer).Assertion where
  holds daemon _ := Released daemon ∧ (Unconflicting answer → result ≠ .error .leaseConflict)
  stable := Stable.and released.stable (stable_const _)

/-- If the fact holds then no pairing can be redeemed. -/
def occupiedIf (fact : Prop) : (leaseContract app answer).Assertion where
  holds daemon _ := fact → Occupied daemon
  stable := fun _ _ _ _ _ relied _ holds known => relied.2.occupied (holds known)

/-- The result is anything but a conflict. -/
def resolved {α : Type} (result : Except AppError α) : (leaseContract app answer).Assertion where
  holds _ _ := Unconflicting answer → result ≠ .error .leaseConflict
  stable := stable_const _

/-! ### Steps -/

theorem ask {awaits : Bool} {request : Call} {pre : (leaseContract app answer).Assertion}
    {post : Call.Reply request → (leaseContract app answer).Assertion}
    (holds : ∀ reply daemon state state', pre.holds daemon state →
      (post reply).holds daemon state') :
    (leaseContract app answer).Spec answer pre
      (.ask awaits request : Routine (Call.Reply request)) post :=
  Spec.ask quiet.toTotal fun daemon state good satisfied _ reply state' _ _ _ =>
    ⟨no_revocation rfl, good.2, holds reply daemon state state' satisfied⟩

/-- A commit that keeps the lease. -/
theorem commit {event : String} {update : Daemon → SessionData}
    {post : SessionSnapshot → (leaseContract app answer).Assertion}
    (silent : ∀ snapshot, (post snapshot).Silent)
    (controller : ∀ daemon, (update daemon).controller = daemon.session.controller)
    (holds : ∀ snapshot daemon state, (post snapshot).holds daemon state) :
    (leaseContract app answer).Spec answer occupied (SessionManager.commit event update) post :=
  Spec.commit quiet silent fun daemon _ good occupied _ _ =>
    ⟨no_revocation rfl,
      good.2.carry rfl (Nat.le_refl _) (controller daemon) (Or.inl occupied), holds _ _ _⟩

/-- A commit that ends a burn. -/
theorem commitBurn {event : String} {update : Daemon → SessionData}
    (result : SessionSnapshot → Except AppError SessionSnapshot)
    (controller : ∀ daemon, (update daemon).controller = none)
    (phase : ∀ daemon, (update daemon).snapshot.phase = .idle ∨
      (update daemon).snapshot.phase = .failed)
    (resolves : ∀ snapshot, result snapshot ≠ .error .leaseConflict) :
    (leaseContract app answer).Spec answer occupied (SessionManager.commit event update)
      fun snapshot => burned (result snapshot) := by
  apply Spec.commit quiet
  · exact fun _ _ _ _ _ holds =>
      ⟨⟨holds.1.occupied, holds.1.controller, holds.1.phase⟩, holds.2⟩
  · intro daemon _ good occupied _ _
    exact ⟨no_revocation rfl,
      good.2.release rfl (Nat.le_refl _) (controller daemon) (phase daemon),
      ⟨occupied, controller daemon, phase daemon⟩, fun _ => resolves _⟩

theorem resolved_silent {α : Type} (result : Except AppError α) :
    (resolved result : (leaseContract app answer).Assertion).Silent :=
  fun _ _ _ _ holds => holds

theorem resolved_of_ok {α : Type} (value : α) (daemon : Daemon) (state : W) :
    (resolved (.ok value) : (leaseContract app answer).Assertion).holds daemon state := by
  intro _ conflict
  cases conflict

theorem resolved_of_unavailable {α : Type} (message : String) (daemon : Daemon) (state : W) :
    (resolved (.error (.serviceUnavailable message) : Except AppError α) :
      (leaseContract app answer).Assertion).holds daemon state := by
  intro _ conflict
  cases conflict

/-! ### Outlines of the session operations -/

def startOutline (client : Uuid) (url : Url) :
    StartOutline (leaseContract app answer) answer app.sessions client url (entitled client)
      resolved where
  starting _ _ _ := occupied
  launching _ _ _ := occupied
  launched _ _ _ := occupied
  stopping := occupied
  resetting := occupied
  clearing := occupied
  failing := occupied
  entry := by
    apply Spec.transactBy quiet.toTotal (beginStart_cases app.sessions client url)
    intro daemon state good entitled after outcome _ _
    cases outcome with
    | busy _ _ => exact ⟨no_revocation rfl, good.2, fun _ => nofun⟩
    | blocked _ =>
        exact ⟨no_revocation rfl, good.2.carry rfl (Nat.le_refl _) rfl (Or.inr rfl),
          fun _ => nofun⟩
    | conflict other held different =>
        rcases entitled.lease with free | own
        · exact nomatch free.symm.trans held
        · exact absurd (Option.some.inj (held.symm.trans own)) different
    | begun _ _ _ =>
        exact ⟨no_revocation rfl, good.2.lease entitled rfl (Nat.le_refl _) rfl,
          entitled.occupied⟩
  announce _ _ _ := Spec.publish quiet (fun _ _ => no_revocation rfl) fun _ _ _ _ holds => holds
  apply _ _ _ := ask fun reply _ _ _ holds => by cases reply <;> exact holds
  launch _ _ _ := ask fun reply _ _ _ holds => by cases reply <;> exact holds
  stop := ask fun _ _ _ _ holds => holds
  reset := ask fun _ _ _ _ holds => holds
  clear := ask fun _ _ _ _ holds => holds
  fail message := commit (fun _ => resolved_silent _) (fun _ => rfl)
    fun _ => resolved_of_unavailable message
  activate _ _ _ := commit (fun _ => resolved_silent _) (fun _ => rfl) resolved_of_ok

def burnOutline :
    BurnOutline (leaseContract app answer) answer app.sessions occupied burned where
  burning := occupied
  resetting _ := occupied
  clearing _ := occupied
  burned _ := occupied
  entry := by
    apply Spec.transactBy quiet.toTotal beginBurn_cases
    intro daemon state good occupied after outcome _ _
    cases outcome with
    | idle phase =>
        exact ⟨no_revocation rfl, good.2, ⟨occupied, (good.1.idle phase).1, Or.inl phase⟩,
          fun _ => nofun⟩
    | burning _ =>
        exact ⟨no_revocation rfl, good.2.carry rfl (Nat.le_refl _) rfl (Or.inl occupied),
          occupied⟩
  announce := Spec.publish quiet (fun _ _ => no_revocation rfl) fun _ _ _ _ holds => holds
  stop := ask fun reply _ _ _ holds => by cases reply <;> exact holds
  reset _ := ask fun reply _ _ _ holds => by cases reply <;> exact holds
  clear _ := ask fun reply _ _ _ holds => by cases reply <;> exact holds
  idle := commitBurn .ok (fun _ => rfl) (fun _ => Or.inl rfl) fun _ => nofun
  fail _ _ message :=
    commitBurn (fun _ => .error (.serviceUnavailable message)) (fun _ => rfl)
      (fun _ => Or.inr rfl) fun _ => nofun

/-- The lease holder is refused for the phase only. -/
theorem error_of_leads {data : SessionData} {client : Uuid} {error : AppError}
    (leads : data.controller = some client)
    (refused : ensureActiveLease data client = .error error) : error ≠ .leaseConflict := by
  rintro rfl
  unfold ensureActiveLease ensureLease at refused
  rw [if_pos leads] at refused
  dsimp only at refused
  split at refused <;> cases refused

def navigateOutline (client : Uuid) (command : NavigationCommand) :
    NavigateOutline (leaseContract app answer) answer app.sessions client command (leads client)
      resolved where
  navigating := occupied
  navigated := occupied
  entry := by
    apply Spec.transactBy quiet.toTotal (beginNavigation_cases app.sessions client command)
    intro daemon state good leads after outcome _ _
    cases outcome with
    | refused error refused =>
        refine ⟨no_revocation rfl, good.2, fun _ conflict => error_of_leads leads refused ?_⟩
        exact Except.error.inj conflict
    | blocked _ _ _ _ =>
        exact ⟨no_revocation rfl, good.2.carry rfl (Nat.le_refl _) rfl (Or.inr rfl),
          fun _ => nofun⟩
    | begun _ _ =>
        exact ⟨no_revocation rfl, good.2.carry rfl (Nat.le_refl _) rfl (Or.inr rfl),
          (good.2.leased client leads).1⟩
  request := by
    apply Spec.ask quiet.toTotal
    intro daemon state good occupied outcome reply state' answered _ _
    refine ⟨no_revocation rfl, good.2, ?_⟩
    cases reply with
    | ok _ => exact occupied
    | error error =>
        intro unconflicting conflict
        exact unconflicting command outcome state _ state' answered
          (congrArg Except.error (Except.error.inj conflict))
  commit := commit (fun _ => resolved_silent _)
    (fun _ => by cases command <;> rfl) resolved_of_ok

def restartOutline (id : Uuid) (url : Url) (profile : StreamProfile) (mode : EgressMode) :
    RestartOutline (leaseContract app answer) answer id url profile mode occupied occupied
      occupied where
  clearing := occupied
  applying := occupied
  launching := occupied
  reset := ask fun reply _ _ _ holds => by cases reply <;> exact holds
  clear := ask fun reply _ _ _ holds => by cases reply <;> exact holds
  apply := ask fun reply _ _ _ holds => by cases reply <;> exact holds
  launch := ask fun reply _ _ _ holds => by cases reply <;> exact holds

theorem draw : (leaseContract app answer).Spec answer occupied
    (sync Daemon.newUuid : Routine Uuid) fun _ => occupied :=
  Spec.transact quiet.toTotal fun _ _ good occupied _ _ =>
    ⟨no_revocation rfl, good.2.carry rfl (Nat.le_refl _) rfl (Or.inr rfl), occupied⟩

def switchOutline (client : Uuid) (mode : EgressMode) :
    SwitchOutline (leaseContract app answer) answer client mode (leads client) resolved where
  switching _ _ _ := occupied
  stopping _ _ _ _ := occupied
  resetting _ _ _ _ := occupied
  switched _ _ _ _ := occupied
  attempted _ _ _ := occupied
  rollbackStopping _ _ _ _ := occupied
  rollbackResetting _ _ _ _ := occupied
  rolledBack _ _ _ _ := occupied
  lost := occupied
  entry := by
    apply Spec.transactBy quiet.toTotal (beginSwitch_cases client)
    intro daemon state good leads after outcome _ _
    have occupied := (good.2.leased client leads).1
    cases outcome with
    | refused error refused =>
        refine ⟨no_revocation rfl, good.2, fun _ conflict => error_of_leads leads refused ?_⟩
        exact Except.error.inj conflict
    | absent _ _ =>
        exact ⟨no_revocation rfl, good.2.carry rfl (Nat.le_refl _) rfl (Or.inl occupied),
          fun _ => nofun⟩
    | begun _ _ _ =>
        exact ⟨no_revocation rfl, good.2.carry rfl (Nat.le_refl _) rfl (Or.inl occupied),
          occupied⟩
  announce _ _ _ := Spec.publish quiet (fun _ _ => no_revocation rfl) fun _ _ _ _ holds => holds
  draw _ _ _ := draw
  stop _ _ _ _ := ask fun reply _ _ _ holds => by cases reply <;> exact holds
  attempt id url profile _ := restartOutline id url profile mode
  commit _ _ _ _ := commit (fun _ => resolved_silent _) (fun _ => rfl) resolved_of_ok
  redraw _ _ _ := draw
  restop _ _ _ _ := ask fun _ _ _ _ holds => holds
  rollback id url profile previous := restartOutline id url profile previous
  commitRollback _ _ _ _ message := commit (fun _ => resolved_silent _) (fun _ => rfl)
    fun _ => resolved_of_unavailable message
  fail message := commit (fun _ => resolved_silent _) (fun _ => rfl)
    fun _ => resolved_of_unavailable message

/-! ### Lifecycle operations -/

/-- A section of the authentication lock that is a step of `AuthStep`. -/
theorem withAuth {α : Type} {body : Daemon → AuthState → α × AuthState}
    {pre : (leaseContract app answer).Assertion} {post : α → (leaseContract app answer).Assertion}
    (step : ∀ daemon, AuthStep daemon.now daemon.rng daemon.rng daemon.auth
      (body daemon daemon.auth).2)
    (holds : ∀ daemon state, Agreement daemon → pre.holds daemon state →
      (post (body daemon daemon.auth).1).holds (daemon.withAuth (body daemon)).2 state) :
    (leaseContract app answer).Spec answer pre
      (sync fun daemon => daemon.withAuth (body daemon) : Routine α) post :=
  Spec.transact quiet.toTotal fun daemon state good satisfied _ _ =>
    ⟨fun revokes => absurd revokes (AuthStep.not_revokes_of_agreement good.2 (step daemon)),
      good.2.request (.withAuth (step daemon)), holds daemon state good.2 satisfied⟩

/-- A client that is found to be stored is entitled to the lease. -/
theorem entitled_of_validateContext {daemon : Daemon} {context : AuthContext}
    (agreement : Agreement daemon)
    (valid : (AuthManager.validateContext daemon.now context daemon.auth).1 = .ok ()) :
    Entitled context.clientId
      (daemon.withAuth (AuthManager.validateContext daemon.now context)).2 := by
  have step := AuthStep.validateContext daemon.rng daemon.now context daemon.auth
  have found : ∃ session ∈ daemon.auth.sessions, session.2.clientId = context.clientId := by
    unfold AuthManager.validateContext at valid
    dsimp only at valid
    split at valid
    · rename_i live
      exact AuthStep.client_of_hasLiveSession live.2
    · cases valid
  rcases found with ⟨entry, member, client⟩
  have occupied : Occupied daemon := by
    refine Bool.eq_false_iff.mpr fun available => ?_
    rw [agreement.exclusive available] at member
    exact absurd member List.not_mem_nil
  have stored : ∀ other ∈ daemon.auth.sessions, other.2.clientId = context.clientId := by
    rcases agreement.stored with empty | ⟨key, session, one, _⟩
    · rw [empty] at member
      exact absurd member List.not_mem_nil
    · intro other otherMember
      rw [one] at member otherMember
      rw [List.mem_singleton.mp otherMember, ← List.mem_singleton.mp member]
      exact client
  constructor
  · exact step.occupied occupied
  · exact fun other otherMember =>
      stored other ((step.sublist_of_occupied occupied).mem otherMember)
  · cases held : daemon.session.controller with
    | none => exact Or.inl held
    | some holder =>
        have owner := (agreement.leased holder held).2 entry member
        exact Or.inr (held.trans (congrArg some (owner.symm.trans client)))

theorem validateContext (context : AuthContext) :
    (leaseContract app answer).Spec answer .trivial (AppState.validateContext context)
      (.either (fun _ => entitled context.clientId) fun error =>
        resolved (.error error : Except AppError SessionSnapshot)) := by
  apply withAuth fun daemon => AuthStep.validateContext daemon.rng daemon.now context daemon.auth
  intro daemon state agreement _
  cases valid : (AuthManager.validateContext daemon.now context daemon.auth).1 with
  | ok _ => exact entitled_of_validateContext agreement valid
  | error error =>
      unfold AuthManager.validateContext at valid
      dsimp only at valid
      split at valid
      · cases valid
      · cases valid
        exact fun _ => nofun

/-- A named session that an entitled client may control is led by it. -/
theorem requireSessionId (client id : Uuid) :
    (leaseContract app answer).Spec answer (entitled client) (AppState.requireSessionId id)
      (.either (fun _ => leads client) fun error =>
        resolved (.error error : Except AppError SessionSnapshot)) := by
  apply Spec.read quiet.toTotal fun _ _ => no_revocation rfl
  intro daemon state good entitled
  split
  · rename_i named
    have present : daemon.session.controller.isSome = true := by
      rw [← good.1.identified, named]
      rfl
    rcases entitled.lease with free | own
    · rw [free] at present
      cases present
    · exact own
  · exact fun _ => nofun

theorem burn (client : Uuid) :
    (leaseContract app answer).Spec answer (leads client) (app.sessions.burn client) burned := by
  have lease : (leaseContract app answer).Spec answer (leads client)
      (read fun daemon => ensureLease daemon.session client : Routine (Except AppError Unit))
      (.either (fun _ => occupied) fun _ => ⟨fun _ _ => False, stable_const _⟩) := by
    apply Spec.read quiet.toTotal fun _ _ => no_revocation rfl
    intro daemon state good leads
    have held : daemon.session.controller = some client := leads
    rw [ensureLease, if_pos held]
    exact (good.2.leased client leads).1
  apply Spec.bind lease
  intro result
  cases result with
  | error error => exact Spec.done fun _ _ _ impossible => impossible.elim
  | ok _ => exact burnOutline.sound

theorem rotatePairingMaterial :
    (leaseContract app answer).Spec answer ended app.rotatePairingMaterial resolved := by
  have rotate : (leaseContract app answer).Spec answer ended
      (sync fun daemon => daemon.withAuthAndRng AuthManager.rotatePairing :
        Routine (Option PairingMaterial)) fun _ => ended :=
    Spec.transact quiet.toTotal fun daemon _ good ended _ _ =>
      ⟨fun _ => ended, good.2.rotatePairing ended.1 ended.2, ended⟩
  apply Spec.bind rotate
  intro pairing
  cases pairing with
  | none => exact Spec.done fun _ _ _ _ _ => nofun
  | some pairing =>
      have write : (leaseContract app answer).Spec answer ended (Routine.writePairingFile
          (AuthManager.pairingFileBody pairing app.publicBaseUrl)) fun _ => ended :=
        ask fun _ _ _ _ holds => holds
      apply Spec.bind write
      intro reply
      cases reply with
      | ok _ => exact Spec.done fun _ _ _ _ _ => nofun
      | error _ =>
          have invalidate : (leaseContract app answer).Spec answer ended
              (sync fun daemon => daemon.withAuth fun auth =>
                ((), AuthManager.invalidateUnpublishedPairing auth) : Routine Unit)
              fun _ => ended :=
            Spec.transact quiet.toTotal fun daemon _ good ended _ _ =>
              ⟨fun _ => ended, good.2.invalidate, ended⟩
          apply Spec.bind invalidate
          exact fun _ => Spec.done fun _ _ _ _ _ => nofun

theorem revokeAndRotate :
    (leaseContract app answer).Spec answer released app.revokeAndRotate resolved := by
  have revoke : (leaseContract app answer).Spec answer released
      (sync fun daemon => daemon.withAuth fun auth => ((), AuthManager.revokeAll auth) :
        Routine Unit) fun _ => ended :=
    Spec.transact quiet.toTotal fun daemon _ good released _ _ =>
      ⟨fun _ => ⟨released.controller, released.phase⟩, good.2.revokeAll,
        released.controller, released.phase⟩
  exact Spec.bind revoke fun _ => rotatePairingMaterial

/-- What follows a burn, up to the result of the operation. -/
theorem afterBurn {α : Type} (burnResult : Except AppError SessionSnapshot)
    (success : SessionSnapshot → α) :
    (leaseContract app answer).Spec answer (burned burnResult)
      (do
        let pairingResult ← app.revokeAndRotate
        match burnResult, pairingResult with
        | .error error, _ => return Except.error error
        | .ok _, .error error => return Except.error error
        | .ok snapshot, .ok () => return Except.ok (success snapshot)) resolved := by
  have rotate : (leaseContract app answer).Spec answer (burned burnResult) app.revokeAndRotate
      fun result => ⟨fun _ _ => (Unconflicting answer → burnResult ≠ .error .leaseConflict) ∧
        (Unconflicting answer → result ≠ .error .leaseConflict), stable_const _⟩ := by
    intro daemon state good burned
    exact Triple.relax (Triple.weaken revokeAndRotate fun _ _ _ holds => holds.1)
      (fun _ _ _ _ resolved => ⟨burned.2, resolved⟩) daemon state good burned
  apply Spec.bind rotate
  intro pairingResult
  cases burnResult with
  | error error =>
      exact Spec.done fun _ _ _ holds sound conflict =>
        holds.1 sound (congrArg Except.error (Except.error.inj conflict))
  | ok snapshot =>
      cases pairingResult with
      | error error =>
          exact Spec.done fun _ _ _ holds sound conflict =>
            holds.2 sound (congrArg Except.error (Except.error.inj conflict))
      | ok _ => exact Spec.done fun _ _ _ _ _ => nofun

theorem burnAndRotate (controller : Option Uuid) (pre : (leaseContract app answer).Assertion)
    (burns : (leaseContract app answer).Spec answer pre
      (match controller with
        | some client => app.sessions.burn client
        | none => app.sessions.forceBurn) burned) :
    (leaseContract app answer).Spec answer pre (app.burnAndRotate controller) resolved := by
  cases controller with
  | none => exact Spec.bind burns fun burnResult => afterBurn burnResult fun snapshot => snapshot
  | some client =>
      exact Spec.bind burns fun burnResult => afterBurn burnResult fun snapshot => snapshot

theorem autoBurnIfDue :
    (leaseContract app answer).Spec answer .trivial app.autoBurnIfDue resolved := by
  have look : (leaseContract app answer).Spec answer .trivial
      (read (·.session.snapshot) : Routine SessionSnapshot)
      fun snapshot => occupiedIf (snapshot.phase = .active) := by
    apply Spec.read quiet.toTotal fun _ _ => no_revocation rfl
    intro daemon state good _ active
    refine Bool.eq_false_iff.mpr fun available => ?_
    rcases good.2.inactive available with idle | failed
    · cases active.symm.trans idle
    · cases active.symm.trans failed
  apply Spec.bind look
  intro snapshot
  dsimp only
  split
  · exact Spec.done fun _ _ _ _ _ conflict => by cases conflict
  · rename_i due
    have active : snapshot.phase = .active := by_contra fun other => due (Or.inl other)
    have watch : (leaseContract app answer).Spec answer (occupiedIf (snapshot.phase = .active))
        (read fun daemon => daemon.now - daemon.session.lastActivity : Routine Duration)
        fun _ => occupied :=
      Spec.read quiet.toTotal (fun _ _ => no_revocation rfl) fun _ _ _ holds => holds active
    apply Spec.bind watch
    intro idleFor
    split
    · exact Spec.done fun _ _ _ _ _ conflict => by cases conflict
    · apply Spec.bind (burnAndRotate none occupied burnOutline.sound)
      intro result
      cases result with
      | error error =>
          exact Spec.done fun _ _ _ holds sound conflict =>
            holds sound (congrArg Except.error (Except.error.inj conflict))
      | ok _ => exact Spec.done fun _ _ _ _ _ conflict => by cases conflict

/-- What the recovery has seen of the session. -/
def observed (snapshot : SessionSnapshot) : (leaseContract app answer).Assertion where
  holds daemon _ := Occupied daemon ∧ (snapshot.phase = .idle → Released daemon)
  stable := Stable.and occupied.stable fun _ _ _ _ good relied good' holds idle =>
    released.stable good relied good' (holds idle)

theorem recoverExpiredAuth :
    (leaseContract app answer).Spec answer .trivial app.recoverExpiredAuth resolved := by
  have require : (leaseContract app answer).Spec answer .trivial
      (sync fun daemon => daemon.withAuth (AuthManager.pairingRecoveryRequired daemon.now) :
        Routine Bool)
      fun required => occupiedIf (required = true) := by
    apply withAuth fun daemon =>
      AuthStep.pairingRecoveryRequired daemon.rng daemon.now daemon.auth
    intro daemon state _ _ required
    simp only [AuthManager.pairingRecoveryRequired, Bool.and_eq_true, Option.isNone_iff_eq_none]
      at required
    exact pairingAvailable_eq_false_iff.mpr ⟨required.1.1.2, required.1.2⟩
  apply Spec.bind require
  intro required
  cases required with
  | false => exact Spec.done fun _ _ _ _ _ => nofun
  | true =>
      have look : (leaseContract app answer).Spec answer (occupiedIf (true = true))
          (read (·.session.snapshot) : Routine SessionSnapshot) observed := by
        apply Spec.read quiet.toTotal fun _ _ => no_revocation rfl
        intro daemon state good holds
        refine ⟨holds rfl, fun idle => ⟨holds rfl, (good.1.idle idle).1, Or.inl idle⟩⟩
      apply Spec.bind look
      intro snapshot
      dsimp only
      split
      · rename_i idle
        have released : (leaseContract app answer).Spec answer (observed snapshot)
            (done (.ok snapshot) : Routine (Except AppError SessionSnapshot)) burned :=
          Spec.done fun _ _ _ holds => ⟨holds.2 idle, fun _ => nofun⟩
        exact Spec.bind released fun burnResult => afterBurn burnResult fun _ => true
      · exact Spec.bind (Spec.weaken burnOutline.sound fun _ _ _ holds => holds.1)
          fun burnResult => afterBurn burnResult fun _ => true

/-- An operation that does not end in a conflict, wrapped as a response. -/
theorem wrap {α : Type} {program : Routine (Except AppError α)}
    {response : Except AppError α → Response}
    (conflicts : ∀ result, (response result).Conflicts → result = .error .leaseConflict)
    (spec : (leaseContract app answer).Spec answer .trivial program resolved) :
    (leaseContract app answer).Triple answer (fun _ _ => True)
      (do return response (← program))
      fun result _ _ => Unconflicting answer → ¬ result.Conflicts := by
  refine Triple.bind spec fun result => Triple.done (stable_const _) ?_
  exact fun _ _ _ holds sound conflict => holds sound (conflicts result conflict)

theorem snapshot_conflicts (result : Except AppError SessionSnapshot)
    (conflict : (Response.snapshot result).Conflicts) : result = .error .leaseConflict := by
  rcases result with error | _
  · cases error <;> first | rfl | exact conflict.elim
  · exact conflict.elim

theorem flag_conflicts (result : Except AppError Bool)
    (conflict : (Response.flag result).Conflicts) : result = .error .leaseConflict := by
  rcases result with error | _
  · cases error <;> first | rfl | exact conflict.elim
  · exact conflict.elim

theorem guarded (context : AuthContext) (id : Uuid)
    {program : Routine (Except AppError SessionSnapshot)}
    (spec : (leaseContract app answer).Spec answer (leads context.clientId) program resolved) :
    (leaseContract app answer).Spec answer .trivial
      ((AppState.validateContext context).andThen fun _ =>
        (AppState.requireSessionId id).andThen fun _ => program) resolved :=
  Spec.andThen (validateContext context)
    (fun _ _ _ _ holds sound conflict =>
      holds sound (congrArg Except.error (Except.error.inj conflict)))
    fun _ => Spec.andThen (requireSessionId context.clientId id)
      (fun _ _ _ _ holds sound conflict =>
      holds sound (congrArg Except.error (Except.error.inj conflict)))
      fun _ => spec

theorem lifecycle (op : Lifecycle) :
    (leaseContract app answer).Triple answer (fun _ _ => True) (app.lifecycle op)
      fun result _ _ => Unconflicting answer → ¬ result.Conflicts := by
  cases op with
  | startSession context url =>
      apply wrap snapshot_conflicts
      exact Spec.andThen (validateContext context)
        (fun _ _ _ _ holds sound conflict =>
      holds sound (congrArg Except.error (Except.error.inj conflict)))
        fun _ => (startOutline context.clientId url).sound
  | navigate context id command =>
      exact wrap snapshot_conflicts
        (guarded context id (navigateOutline _ command).sound)
  | switchEgress context id mode =>
      exact wrap snapshot_conflicts (guarded context id (switchOutline _ mode).sound)
  | burnControllerSession context id =>
      exact wrap snapshot_conflicts
        (guarded context id (burnAndRotate (some context.clientId) _ (burn context.clientId)))
  | autoBurnIfDue => exact wrap flag_conflicts autoBurnIfDue
  | recoverExpiredAuth => exact wrap flag_conflicts recoverExpiredAuth

theorem interference : Interference (leaseContract app answer) world where
  request _ _ _ good step _ _ := ⟨⟨step.session, step.auth⟩, good.2.request step⟩
  clock _ _ _ _ good _ _ :=
    ⟨⟨.same, .refl _ _ _⟩, good.2.carry rfl (Nat.le_refl _) rfl (Or.inr rfl)⟩
  world _ _ _ _ good _ _ := ⟨⟨.same, .refl _ _ _⟩, good.2⟩

theorem established : (leaseContract app answer).Established (app.service answer world) where
  operation op := lifecycle op
  task request daemon state _ := by
    apply Steady.of_local (request_local app request)
    exact (interference : Interference (leaseContract app answer) world).request
  noise event daemon state daemon' state' good changed given :=
    interference.noise good changed given
  resting _ _ _ _ _ _ _ _ := trivial
  finished _ _ _ _ _ := trivial

end leaseContract

/-! ## The result -/

/-- How the pairing state and the lease agree. -/
structure LeaseAgreement (daemon : Daemon) : Prop where
  redeemable : AuthManager.pairingAvailable daemon.auth = true →
    daemon.auth.sessions = [] ∧ daemon.session.controller = none ∧
    (daemon.session.snapshot.phase = .idle ∨ daemon.session.snapshot.phase = .failed)
  leased : ∀ client, daemon.session.controller = some client →
    (∃ key session, daemon.auth.sessions = [(key, session)] ∧
      session.generation = daemon.auth.generation ∧ session.clientId = client) ∨
    (daemon.auth.sessions = [] ∧ AuthManager.pairingAvailable daemon.auth = false ∧
      (daemon.rng.draws < 2 ^ 64 →
        (AuthManager.pairingRecoveryRequired daemon.now daemon.auth).1 = true))

/-- The watchdog notices that nobody is paired or can be. -/
theorem Agreement.recoveryRequired {daemon : Daemon} (agreement : Agreement daemon)
    (bound : daemon.rng.draws < 2 ^ 64) (occupied : Occupied daemon)
    (empty : daemon.auth.sessions = []) :
    (AuthManager.pairingRecoveryRequired daemon.now daemon.auth).1 = true := by
  rcases pairingAvailable_eq_false_iff.mp occupied with ⟨secret, manual⟩
  have counted := (agreement.counted bound).1
  simp [AuthManager.pairingRecoveryRequired, AuthState.pruneExpired, secret, manual, empty,
    counted]

theorem Agreement.leaseAgreement {daemon : Daemon} (agreement : Agreement daemon) :
    LeaseAgreement daemon where
  redeemable available := by
    refine ⟨agreement.exclusive available, ?_, agreement.inactive available⟩
    cases held : daemon.session.controller with
    | none => rfl
    | some client => exact nomatch available.symm.trans (agreement.leased client held).1
  leased client held := by
    rcases agreement.leased client held with ⟨occupied, owner⟩
    rcases agreement.stored with empty | ⟨key, session, one, current⟩
    · exact Or.inr ⟨empty, occupied, fun bound => agreement.recoveryRequired bound occupied empty⟩
    · refine Or.inl ⟨key, session, one, current, ?_⟩
      exact owner (key, session) (by rw [one]; exact List.mem_singleton_self _)

section Runs

variable {app : AppState} {W O N : Type} {answer : Answer Call Call.Reply W O}
  {world : N → Daemon → W → Option W} {daemon : Daemon} {state : W}
  {config config' : Config Daemon Call Call.Reply Response W}

theorem leaseContract.holds_of_reaches (booted : app.Booted daemon)
    (reaches : (app.service answer world).Reaches (.idle daemon state) config) :
    (leaseContract app answer).Holds (app.service answer world).answer config :=
  leaseContract.established.sound
    (.idle ⟨booted.wellFormed, booted.agreement⟩ trivial)
    (fun _ reached => wellFormed_of_reaches booted reached.reachable)
    (Pool.reachesUnder_free _ reaches)

/-- A step that revokes a live session or rotates the pairing leaves a session
that nobody leases and that is not running. -/
theorem leaseContract.released_of_revokes (booted : app.Booted daemon)
    (reaches : (app.service answer world).Reaches (.idle daemon state) config)
    {label : Pool.Label Lifecycle Request (Environment N) O}
    (step : (app.service answer world).step config label = some config')
    (revokes : Revokes config.memory config'.memory) :
    config'.memory.session.controller = none ∧
      (config'.memory.session.snapshot.phase = .idle ∨
        config'.memory.session.snapshot.phase = .failed) := by
  have established : (leaseContract app answer).Established (app.service answer world) :=
    leaseContract.established
  have holds := leaseContract.holds_of_reaches booted reaches
  have formed := wellFormed_of_reaches booted (reaches.tail trivial step)
  have moves := (established.kept holds (Assumptions.free_allowed config label) formed step).2
  rcases moves with relied | guaranteed | ⟨memory, _⟩
  · exact absurd revokes (AuthStep.not_revokes_of_agreement holds.good.2 relied.2)
  · exact guaranteed revokes
  · exact no_revocation (by rw [memory]) revokes

/-- In every state that the service reaches, the pairing and the lease agree, no
operation has ended in a lease conflict, and authentication is revoked or
rotated only where no session is left to anybody. -/
theorem lease_agrees_of_reaches (booted : app.Booted daemon)
    (unconflicting : leaseContract.Unconflicting answer)
    (reaches : (app.service answer world).Reaches (.idle daemon state) config) :
    LeaseAgreement config.memory ∧
      (∀ response, config.holder = some (.done response) → ¬ response.Conflicts) ∧
      ∀ label config', (app.service answer world).step config label = some config' →
        Revokes config.memory config'.memory →
        config'.memory.session.controller = none ∧
          (config'.memory.session.snapshot.phase = .idle ∨
            config'.memory.session.snapshot.phase = .failed) := by
  have holds := leaseContract.holds_of_reaches booted reaches
  refine ⟨holds.good.2.leaseAgreement, ?_, ?_⟩
  · exact fun response finished =>
      holds.holder _ finished config.memory config.world .refl holds.good unconflicting
  · exact fun label config' step revokes =>
      leaseContract.released_of_revokes booted reaches step revokes

end Runs

theorem Sample.willing_unconflicting : leaseContract.Unconflicting Sample.willing := by
  rintro command outcome state reply state' answered rfl
  exact nomatch (Prod.mk.inj (Option.some.inj answered)).1

/-- The client that has opened a session holds the lease and is the one stored. -/
theorem lease_agrees_of_openSession :
    ∃ config : Config Daemon Call Call.Reply Response Unit,
      config.memory.session.controller = some 0 ∧ LeaseAgreement config.memory := by
  have executed : ((run (Sample.app.service Sample.willing AppState.still).step
      (.idle Sample.daemon ()) (Sample.openSession () 8)).map
        (·.memory.session.controller)) = some (some 0) := by
    decide +kernel
  rcases Option.map_eq_some_iff.mp executed with ⟨config, reached, held⟩
  exact ⟨config, held, (lease_agrees_of_reaches Sample.daemon_booted
    Sample.willing_unconflicting (reachable_of_run reached)).1⟩

end XanhTab
