import XanhTab.Daemon.Sections
import XanhTab.Daemon.Service
import XanhTab.Program.Rules

/-!
# What the requests can change

A task that does not hold the lifecycle mutex changes little: the settings of an
active session, the stored identities in the ways that `AuthStep` lists, the
events and the deliveries by appending, and the random source by drawing from
it.  `request_local` says so of every section of every request, once and for
all the invariants of the following modules.
-/

namespace XanhTab

open Program

/-! ## Drawing from the random source -/

/-- The random source after some draws. -/
structure Rng.Advances (before after : Rng) : Prop where
  tape : after.tape = before.tape
  ids : after.ids = before.ids
  draws : before.draws ≤ after.draws
  uuids : before.uuids ≤ after.uuids

namespace Rng.Advances

theorem refl (rng : Rng) : Rng.Advances rng rng :=
  ⟨rfl, rfl, Nat.le_refl _, Nat.le_refl _⟩

theorem trans {first second third : Rng} (earlier : Rng.Advances first second)
    (later : Rng.Advances second third) : Rng.Advances first third :=
  ⟨later.tape.trans earlier.tape, later.ids.trans earlier.ids,
    Nat.le_trans earlier.draws later.draws, Nat.le_trans earlier.uuids later.uuids⟩

theorem randomBytes {rng rng' : Rng} {drawn : Option Bytes32}
    (draw : rng.randomBytes = (drawn, rng')) : Rng.Advances rng rng' := by
  cases draw
  exact ⟨rfl, rfl, Nat.le_succ _, Nat.le_refl _⟩

theorem randomToken {rng rng' : Rng} {drawn : Option String}
    (draw : rng.randomToken = (drawn, rng')) : Rng.Advances rng rng' := by
  cases draw
  exact ⟨rfl, rfl, Nat.le_succ _, Nat.le_refl _⟩

theorem newUuid (rng : Rng) : Rng.Advances rng rng.newUuid.2 :=
  ⟨rfl, rfl, Nat.le_refl _, Nat.le_succ _⟩

end Rng.Advances

/-- What is taken stays taken. -/
theorem Rng.Taken.of_advances {rng rng' : Rng} {id : Uuid} (taken : rng.Taken id)
    (advances : rng.Advances rng') : rng'.Taken id := by
  rcases taken with ⟨number, below, same⟩
  exact ⟨number, Nat.lt_of_lt_of_le below advances.uuids, advances.ids ▸ same⟩

/-- The successful draws of the random source are distinct. -/
def Rng.Distinct (rng : Rng) : Prop :=
  ∀ first second bytes, rng.tape first = some bytes → rng.tape second = some bytes →
    first = second

theorem Rng.Distinct.of_advances {rng rng' : Rng} (distinct : rng.Distinct)
    (advances : rng.Advances rng') : rng'.Distinct := by
  unfold Rng.Distinct
  rw [advances.tape]
  exact distinct

theorem Sample.rng_distinct : rng.Distinct := by
  intro first second drawn read read'
  have tape : ∀ n, rng.tape n = if n < 256 then some (bytes n) else none := fun _ => rfl
  rw [tape] at read read'
  split at read
  · split at read'
    · rename_i below below'
      have same : UInt8.ofNat first = UInt8.ofNat second :=
        congrArg (fun value : Bytes32 => value.get 0)
          ((Option.some.inj read).trans (Option.some.inj read').symm)
      have values := congrArg UInt8.toNat same
      simp at values
      omega
    · cases read'
  · cases read

theorem hash_injective : Function.Injective hash := by
  intro first second equal
  exact congrArg Digest.preimage equal

/-- The digest of a token that was drawn at a position from `lower` on and
before `upper`. -/
def Rng.Issued (rng : Rng) (lower upper : Nat) (digest : Digest) : Prop :=
  ∃ position bytes, lower ≤ position ∧ position < upper ∧ rng.tape position = some bytes ∧
    digest = hash (Encoding.urlSafeNoPad bytes)

theorem Rng.Issued.mono {rng rng' : Rng} {lower lower' upper upper' : Nat} {digest : Digest}
    (issued : rng.Issued lower upper digest) (tape : rng'.tape = rng.tape)
    (lowerLe : lower' ≤ lower) (upperLe : upper ≤ upper') :
    rng'.Issued lower' upper' digest := by
  rcases issued with ⟨position, bytes, above, below, read, equal⟩
  exact ⟨position, bytes, Nat.le_trans lowerLe above, Nat.lt_of_lt_of_le below upperLe,
    by rw [tape, read], equal⟩

theorem Rng.issued_of_randomToken {rng rng' : Rng} {token : String}
    (draw : rng.randomToken = (some token, rng')) :
    rng'.Issued rng.draws rng'.draws (hash token) := by
  rcases Prod.mk.inj draw with ⟨drawn, rfl⟩
  rcases Option.map_eq_some_iff.mp drawn with ⟨bytes, read, rfl⟩
  exact ⟨rng.draws, bytes, Nat.le_refl _, Nat.lt_succ_self _, read, rfl⟩

/-! ## Authentication -/

theorem lookup_eq_none {β : Type} {entries : List (Digest × β)} {key : Digest}
    (absent : ∀ entry ∈ entries, entry.1 ≠ key) : entries.lookup key = none := by
  rw [List.lookup_eq_none_iff]
  intro entry member
  rw [bne_iff_ne]
  exact fun same => absent entry member same.symm

theorem mem_of_lookup {β : Type} {entries : List (Digest × β)} {key : Digest} {value : β}
    (found : entries.lookup key = some value) : (key, value) ∈ entries := by
  rcases List.lookup_eq_some_iff.mp found with ⟨before, after, rfl, _⟩
  exact List.mem_append_right before List.mem_cons_self

theorem removeKey_of_lookup {β : Type} {entries : List (Digest × β)} {key : Digest}
    (absent : entries.lookup key = none) : removeKey key entries = entries := by
  refine List.filter_eq_self.mpr fun entry member => ?_
  have different := List.lookup_eq_none_iff.mp absent entry member
  exact decide_eq_true fun same => bne_iff_ne.mp different same.symm

/-- A session that was stored between two states of the random source. -/
structure FreshSession (before after : Rng) (generation : Nat)
    (entry : Digest × AuthSession) : Prop where
  token : after.Issued before.draws after.draws entry.1
  csrf : after.Issued before.draws after.draws entry.2.csrfHash
  client : ¬ before.Taken entry.2.clientId ∧ after.Taken entry.2.clientId
  generation : entry.2.generation = generation

/-- A ticket that was stored for a client with a session between two states of
the random source. -/
structure FreshTicket (before after : Rng) (state : AuthState) (entry : Digest × Ticket) :
    Prop where
  token : after.Issued before.draws after.draws entry.1
  client : ∃ session ∈ state.sessions, session.2.clientId = entry.2.clientId
  generation : entry.2.generation = state.generation

/-- What happens to the pairing and the sessions outside lifecycle operations:
sessions that are no longer live may be dropped, or the pairing is consumed for
at most one session. -/
inductive IdentityStep (now : Instant) (before after : Rng) (state state' : AuthState) : Prop
  | drop : state'.pairingHash = state.pairingHash →
      state'.manualPairingHash = state.manualPairingHash →
      state'.sessions.Sublist state.sessions →
      (∀ entry ∈ state.sessions, now < entry.2.expiresAt →
        entry.2.generation = state.generation → entry ∈ state'.sessions) →
      IdentityStep now before after state state'
  | consume : AuthManager.pairingAvailable state = true → state'.pairingHash = none →
      state'.manualPairingHash = none → state'.sessions = state.sessions →
      IdentityStep now before after state state'
  | exchange (entry : Digest × AuthSession) (rest : List (Digest × AuthSession)) :
      AuthManager.pairingAvailable state = true → state'.pairingHash = none →
      state'.manualPairingHash = none → state'.sessions = entry :: rest →
      rest.Sublist state.sessions → FreshSession before after state.generation entry →
      IdentityStep now before after state state'

/-- Sessions, pairing and generation stay as they are. -/
theorem IdentityStep.same {now : Instant} {before after : Rng} {state state' : AuthState}
    (secret : state'.pairingHash = state.pairingHash)
    (manual : state'.manualPairingHash = state.manualPairingHash)
    (sessions : state'.sessions = state.sessions) :
    IdentityStep now before after state state' :=
  .drop secret manual (sessions ▸ List.Sublist.refl _) fun _ member _ _ => sessions ▸ member

/-- Expired sessions are dropped. -/
theorem IdentityStep.pruned {now : Instant} {before after : Rng} {state state' : AuthState}
    (secret : state'.pairingHash = state.pairingHash)
    (manual : state'.manualPairingHash = state.manualPairingHash)
    (sessions : state'.sessions = (state.pruneExpired now).sessions) :
    IdentityStep now before after state state' := by
  refine .drop secret manual (sessions ▸ List.filter_sublist) ?_
  intro entry member live current
  rw [sessions]
  exact List.mem_filter.mpr ⟨member, by simp [live, current]⟩

/-- What the operations of the authentication state do outside lifecycle
operations. -/
structure AuthStep (now : Instant) (before after : Rng) (state state' : AuthState) : Prop where
  advances : Rng.Advances before after
  generation : state'.generation = state.generation
  identity : IdentityStep now before after state state'
  tickets : ∀ entry ∈ state'.tickets,
    entry ∈ state.tickets ∨ FreshTicket before after state entry

namespace AuthStep

theorem refl (now : Instant) (rng : Rng) (state : AuthState) :
    AuthStep now rng rng state state :=
  ⟨.refl rng, rfl, .same rfl rfl rfl, fun _ member => Or.inl member⟩

theorem pruneExpired {before after : Rng} (advances : Rng.Advances before after)
    (state : AuthState) (now : Instant) :
    AuthStep now before after state (state.pruneExpired now) :=
  ⟨advances, rfl, .pruned rfl rfl rfl, fun _ member => Or.inl (List.mem_of_mem_filter member)⟩

theorem exchangePairing (manager : AuthManager) (now : Instant) (presented : String)
    (state : AuthState) (rng : Rng) :
    AuthStep now rng (manager.exchangePairing now presented state rng).2.2 state
      (manager.exchangePairing now presented state rng).2.1 := by
  unfold AuthManager.exchangePairing
  split
  · exact .refl now rng state
  · split
    · rename_i matched
      have available : AuthManager.pairingAvailable state = true := by
        rcases matched with secret | manual
        · simp [AuthManager.pairingAvailable, secret]
        · simp [AuthManager.pairingAvailable, manual]
      rcases firstDraw : rng.randomToken with ⟨_ | sessionToken, rng₁⟩
      · exact ⟨.randomToken firstDraw, rfl, .consume available rfl rfl rfl,
          fun _ member => Or.inl member⟩
      have first := Rng.Advances.randomToken firstDraw
      dsimp only
      rcases secondDraw : rng₁.randomToken with ⟨_ | csrfToken, rng₂⟩
      · exact ⟨first.trans (.randomToken secondDraw), rfl, .consume available rfl rfl rfl,
          fun _ member => Or.inl member⟩
      have second := Rng.Advances.randomToken secondDraw
      have third := Rng.Advances.newUuid rng₂
      refine ⟨(first.trans second).trans third, rfl, ?_, fun _ member => Or.inl member⟩
      refine .exchange _ _ available rfl rfl rfl List.filter_sublist ⟨?_, ?_, ?_, rfl⟩
      · exact (Rng.issued_of_randomToken firstDraw).mono second.tape (Nat.le_refl _) second.draws
      · exact (Rng.issued_of_randomToken secondDraw).mono rfl first.draws (Nat.le_refl _)
      · exact ⟨fun old => rng₂.not_taken_newUuid (old.of_advances (first.trans second)),
          rng₂.taken_newUuid⟩
    · dsimp only
      split
      · exact ⟨.refl rng, rfl, .same rfl rfl rfl,
          fun _ member => Or.inl member⟩
      · exact ⟨.refl rng, rfl, .same rfl rfl rfl,
          fun _ member => Or.inl member⟩

theorem authenticate (rng : Rng) (now : Instant) (sessionToken csrfToken : Option String)
    (requireCsrf : Bool) (state : AuthState) :
    AuthStep now rng rng state
      (AuthManager.authenticate now sessionToken csrfToken requireCsrf state).2 := by
  unfold AuthManager.authenticate
  have pruned := pruneExpired (.refl rng) state now
  cases sessionToken with
  | none => exact .refl now rng state
  | some token =>
      dsimp only
      cases (state.pruneExpired now).sessions.lookup (hash token) with
      | none => exact pruned
      | some session =>
          dsimp only
          repeat' split
          all_goals exact pruned

theorem validateContext (rng : Rng) (now : Instant) (context : AuthContext)
    (state : AuthState) :
    AuthStep now rng rng state (AuthManager.validateContext now context state).2 := by
  unfold AuthManager.validateContext
  have pruned := pruneExpired (.refl rng) state now
  dsimp only
  split <;> exact pruned

theorem pairingRecoveryRequired (rng : Rng) (now : Instant) (state : AuthState) :
    AuthStep now rng rng state (AuthManager.pairingRecoveryRequired now state).2 :=
  pruneExpired (.refl rng) state now

theorem consumeTicket (rng : Rng) (now : Instant) (token : String) (purpose : TicketPurpose)
    (state : AuthState) :
    AuthStep now rng rng state (AuthManager.consumeTicket now token purpose state).2 := by
  unfold AuthManager.consumeTicket
  cases state.tickets.lookup (hash token) with
  | none => exact .refl now rng state
  | some ticket =>
      dsimp only
      split
      all_goals
        exact ⟨.refl rng, rfl, .same rfl rfl rfl,
          fun _ member => Or.inl (List.mem_of_mem_filter member)⟩

/-- A live session of a pruned state belongs to the client. -/
theorem client_of_hasLiveSession {state : AuthState} {client : Uuid} {generation : Nat}
    {now later : Instant}
    (live : (state.pruneExpired now).hasLiveSession client generation later = true) :
    ∃ session ∈ state.sessions, session.2.clientId = client := by
  rcases List.any_eq_true.mp live with ⟨entry, member, holds⟩
  refine ⟨entry, List.mem_of_mem_filter member, ?_⟩
  simp only [Bool.and_eq_true, beq_iff_eq] at holds
  exact holds.1.1

theorem issueTicket (manager : AuthManager) (now : Instant) (context : AuthContext)
    (purpose : TicketPurpose) (state : AuthState) (rng : Rng) :
    AuthStep now rng (manager.issueTicket now context purpose state rng).2.2 state
      (manager.issueTicket now context purpose state rng).2.1 := by
  unfold AuthManager.issueTicket
  rcases draw : rng.randomToken with ⟨_ | token, rng'⟩
  · exact ⟨.randomToken draw, rfl, .same rfl rfl rfl,
      fun _ member => Or.inl member⟩
  have pruned := pruneExpired (.randomToken draw) state now
  dsimp only
  split
  · rename_i valid
    refine ⟨pruned.advances, rfl, .pruned rfl rfl rfl, fun entry member => ?_⟩
    rcases List.mem_cons.mp member with fresh | old
    · subst entry
      exact Or.inr ⟨Rng.issued_of_randomToken draw, client_of_hasLiveSession valid.2, rfl⟩
    · exact pruned.tickets entry (List.mem_of_mem_filter old)
  · exact pruned

end AuthStep

/-! ## The session -/

/-- A change of the settings of an active session. -/
inductive SettingsStep (data : SessionData) : SessionData → Prop
  | same : SettingsStep data data
  | change (profile : StreamProfile) (enabled : Bool) (seconds : Nat) (activity : Instant) :
      data.snapshot.phase = .active →
      SettingsStep data
        { data with
          snapshot :=
            { data.snapshot with
              streamProfile := profile, blocklistEnabled := enabled, autoBurnSeconds := seconds }
          lastActivity := activity }

namespace SettingsStep

variable {data data' : SessionData}

/-- Only an active session has settings to change. -/
theorem eq_of_inactive (step : SettingsStep data data') (inactive : data.snapshot.phase ≠ .active) :
    data' = data := by
  cases step with
  | same => rfl
  | change _ _ _ _ active => exact absurd active inactive

theorem phase (step : SettingsStep data data') : data'.snapshot.phase = data.snapshot.phase := by
  cases step <;> rfl

theorem id (step : SettingsStep data data') : data'.snapshot.id = data.snapshot.id := by
  cases step <;> rfl

theorem url (step : SettingsStep data data') : data'.snapshot.url = data.snapshot.url := by
  cases step <;> rfl

theorem egress (step : SettingsStep data data') :
    data'.snapshot.egress = data.snapshot.egress := by
  cases step <;> rfl

theorem startedAt (step : SettingsStep data data') :
    data'.snapshot.startedAt = data.snapshot.startedAt := by
  cases step <;> rfl

theorem failure (step : SettingsStep data data') :
    data'.snapshot.failure = data.snapshot.failure := by
  cases step <;> rfl

theorem controllerAttached (step : SettingsStep data data') :
    data'.snapshot.controllerAttached = data.snapshot.controllerAttached := by
  cases step <;> rfl

theorem controller (step : SettingsStep data data') : data'.controller = data.controller := by
  cases step <;> rfl

theorem history (step : SettingsStep data data') : data'.history = data.history := by
  cases step <;> rfl

end SettingsStep

/-- What one section of a request does. -/
structure RequestStep (before after : Daemon) : Prop where
  session : SettingsStep before.session after.session
  auth : AuthStep before.now before.rng after.rng before.auth after.auth
  events : before.events <+: after.events
  deliveries : before.deliveries <+: after.deliveries
  now : after.now = before.now
  admissions : after.admissions = before.admissions
  blocklistHits : after.blocklistHits = before.blocklistHits

namespace RequestStep

theorem refl (daemon : Daemon) : RequestStep daemon daemon :=
  ⟨.same, .refl _ _ _, List.prefix_rfl, List.prefix_rfl, rfl, rfl, rfl⟩

theorem publish (event : String) (data : SessionData) (daemon : Daemon) :
    RequestStep daemon (EventBus.publish event data daemon) :=
  ⟨.same, .refl _ _ _, List.prefix_append _ _, List.prefix_rfl, rfl, rfl, rfl⟩

theorem deliver (client id : Uuid) (content : Option ServerEvent) (daemon : Daemon) :
    RequestStep daemon (daemon.deliver client id content) :=
  ⟨.same, .refl _ _ _, List.prefix_rfl, List.prefix_append _ _, rfl, rfl, rfl⟩

theorem withAuth {α : Type} {body : AuthState → α × AuthState} {daemon : Daemon}
    (step : AuthStep daemon.now daemon.rng daemon.rng daemon.auth (body daemon.auth).2) :
    RequestStep daemon (daemon.withAuth body).2 :=
  ⟨.same, step, List.prefix_rfl, List.prefix_rfl, rfl, rfl, rfl⟩

theorem withAuthAndRng {α : Type} {body : AuthState → Rng → α × AuthState × Rng}
    {daemon : Daemon}
    (step : AuthStep daemon.now daemon.rng (body daemon.auth daemon.rng).2.2 daemon.auth
      (body daemon.auth daemon.rng).2.1) :
    RequestStep daemon (daemon.withAuthAndRng body).2 :=
  ⟨.same, step, List.prefix_rfl, List.prefix_rfl, rfl, rfl, rfl⟩

end RequestStep

/-! ## Requests are local -/

section Local

variable (app : AppState)

theorem changeSetting_local (client : Uuid) (event : String)
    (setting : SessionSnapshot → SessionSnapshot)
    (settles : ∀ data activity, data.snapshot.phase = .active → SettingsStep data
      { data with snapshot := setting data.snapshot, lastActivity := activity }) :
    (SessionManager.changeSetting client event setting).Local RequestStep := by
  refine Local.bind (Local.transact fun daemon => ?_) fun result => ?_
  · unfold SessionManager.change
    cases held : ensureActiveLease daemon.session client with
    | error error => exact .refl daemon
    | ok _ =>
        have active := (ensureActiveLease_eq_ok_iff.mp held).2
        exact ⟨settles _ _ active, .refl _ _ _, List.prefix_rfl, List.prefix_rfl, rfl, rfl, rfl⟩
  · cases result with
    | error error => trivial
    | ok data => exact Local.bind (Local.transact fun daemon => .publish _ _ _) fun _ => trivial

theorem read_local {α : Type} (value : Daemon → α) :
    (Program.read value : Routine α).Local RequestStep :=
  Local.transact fun daemon => .refl daemon

theorem authorizeWebsocket_local (id : Uuid) (message : FirstMessage)
    (purpose : TicketPurpose) :
    (AppState.authorizeWebsocket id message purpose).Local RequestStep := by
  unfold AppState.authorizeWebsocket
  cases AppState.presentedTicket message with
  | error error => trivial
  | ok ticket =>
      refine Local.andThen (Local.transact fun daemon => ?_) fun context => ?_
      · exact .withAuth (.consumeTicket daemon.rng daemon.now ticket purpose daemon.auth)
      · exact Local.andThen (read_local _) fun _ => Local.andThen (read_local _) fun _ => trivial

theorem eventLoop_local (client id : Uuid) (position : Nat) (turns : List Turn) :
    (app.eventLoop client id position turns).Local RequestStep := by
  induction turns generalizing position with
  | nil => trivial
  | cons turn turns ih =>
      cases turn with
      | incoming => exact ih position
      | closed => trivial
      | event =>
          refine Local.bind (Local.transact fun daemon => .refl daemon) fun received => ?_
          cases received with
          | pending => exact ih position
          | lagged oldest => exact ih oldest
          | event event =>
              refine Local.bind (Local.transact fun daemon => .deliver _ _ _ _) fun _ => ?_
              split
              · trivial
              · exact ih (position + 1)

theorem eventSocket_local (id : Uuid) (message : FirstMessage) (turns : List Turn) :
    (app.eventSocket id message turns).Local RequestStep := by
  refine Local.andThen (read_local _) fun _ => ?_
  refine Local.andThen (authorizeWebsocket_local _ _ _) fun client => ?_
  refine Local.bind (Local.transact fun daemon => .refl daemon) fun position => ?_
  refine Local.bind (read_local _) fun event => ?_
  refine Local.bind (Local.transact fun daemon => .deliver _ _ _ _) fun _ => ?_
  exact Local.bind (eventLoop_local app _ _ _ _) fun _ => trivial

theorem signalSocket_local (id : Uuid) (message : FirstMessage)
    (connects : Except String Unit) :
    (AppState.signalSocket id message connects).Local RequestStep := by
  refine Local.andThen (read_local _) fun _ => ?_
  refine Local.andThen (authorizeWebsocket_local _ _ _) fun client => ?_
  cases connects with
  | error error => trivial
  | ok _ => exact Local.transact fun daemon => .deliver _ _ _ _

/-- Every section of every request is a `RequestStep`. -/
theorem request_local (request : Request) : (app.request request).Local RequestStep := by
  cases request with
  | exchangePairing presented =>
      exact Local.bind (Local.transact fun daemon =>
        .withAuthAndRng (.exchangePairing app.auth _ _ _ _)) fun _ => trivial
  | authenticate sessionToken csrfToken requireCsrf =>
      exact Local.bind (Local.transact fun daemon =>
        .withAuth (.authenticate _ _ _ _ _ _)) fun _ => trivial
  | issueTicket context purpose =>
      exact Local.bind (Local.transact fun daemon =>
        .withAuthAndRng (.issueTicket app.auth _ _ _ _ _)) fun _ => trivial
  | consumeTicket token purpose =>
      exact Local.bind (Local.transact fun daemon =>
        .withAuth (.consumeTicket _ _ _ _ _)) fun _ => trivial
  | ensureController client => exact Local.bind (read_local _) fun _ => trivial
  | setStreamProfile client profile =>
      exact Local.bind (changeSetting_local _ _ _ fun data activity active =>
        .change profile _ _ activity active) fun _ => trivial
  | setBlocklistEnabled client enabled =>
      exact Local.bind (changeSetting_local _ _ _ fun data activity active =>
        .change _ enabled _ activity active) fun _ => trivial
  | setAutoBurnSeconds client seconds =>
      refine Local.bind ?_ fun _ => trivial
      unfold SessionManager.setAutoBurnSeconds
      split
      · trivial
      · exact changeSetting_local _ _ _ fun data activity active =>
          .change _ _ seconds activity active
  | eventSocket id message turns =>
      exact Local.bind (eventSocket_local app id message turns) fun _ => trivial
  | signalSocket id message connects =>
      exact Local.bind (signalSocket_local id message connects) fun _ => trivial

end Local

end XanhTab
