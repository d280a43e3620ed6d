import Mathlib.Algebra.Order.BigOperators.Group.List
import Mathlib.Algebra.Order.Group.Nat
import XanhTab.Invariant.Burnable
import XanhTab.Invariant.Published
import XanhTab.Program.Possible

/-!
# Taking control again

Whatever has happened, the daemon can be taken into use again: once the
credentials of the last client and a lockout have expired, the watchdog's next
pass leaves a published pairing, and whoever presents it can start a session.
-/

namespace XanhTab

open Program Contract Transition

/-! ## The operations alone -/

section Complete

variable (app : AppState) (daemon : Daemon)

/-- Nobody is locked out any more. -/
def Unlocked (daemon : Daemon) : Prop :=
  daemon.auth.lockedUntil.any (· > daemon.now) = false

/-- No stored session is live. -/
def Expired (daemon : Daemon) : Prop :=
  ∀ entry ∈ daemon.auth.sessions, entry.2.expiresAt ≤ daemon.now

/-- The random source never fails. -/
def Rng.Yields (rng : Rng) : Prop :=
  ∀ draw, rng.tape draw ≠ none

/-- The pairing can be redeemed at once. -/
structure Pairable (daemon : Daemon) : Prop where
  available : AuthManager.pairingAvailable daemon.auth = true
  unlocked : Unlocked daemon

variable {daemon}

theorem complete_rotate (yields : daemon.rng.Yields) :
    ∃ after, app.rotatePairingMaterial.complete Call.success daemon = (.ok (), after) ∧
      Pairable after := by
  rcases Option.ne_none_iff_exists'.mp (yields daemon.rng.draws) with ⟨bytes, drawn⟩
  unfold AppState.rotatePairingMaterial
  rw [complete_bind, complete_transact]
  simp only [Daemon.withAuthAndRng, AuthManager.rotatePairing, Rng.randomBytes, drawn]
  exact ⟨_, rfl, rfl, rfl⟩

theorem complete_revokeAndRotate (yields : daemon.rng.Yields) :
    ∃ after, app.revokeAndRotate.complete Call.success daemon = (.ok (), after) ∧
      Pairable after := by
  unfold AppState.revokeAndRotate
  rw [complete_bind, complete_transact]
  have kept : (daemon.withAuth fun auth => ((), AuthManager.revokeAll auth)).2.rng.Yields := yields
  exact complete_rotate app kept

/-- The watchdog's pass leaves a pairing that can be redeemed. -/
theorem complete_recoverExpiredAuth (expired : Expired daemon) (unlocked : Unlocked daemon)
    (rotated : 0 < daemon.auth.generation) (yields : daemon.rng.Yields) :
    Pairable (app.recoverExpiredAuth.complete Call.success daemon).2 := by
  have pruned : (daemon.auth.pruneExpired daemon.now).sessions = [] := by
    rw [AuthState.pruneExpired, List.filter_eq_nil_iff]
    intro entry member live
    rw [Bool.and_eq_true, decide_eq_true_iff] at live
    exact absurd live.1 (Nat.not_lt.mpr (expired entry member))
  unfold AppState.recoverExpiredAuth
  rw [complete_bind, complete_transact]
  cases required : (daemon.withAuth (AuthManager.pairingRecoveryRequired daemon.now)).1 with
  | false =>
      refine ⟨?_, unlocked⟩
      change AuthManager.pairingAvailable (daemon.auth.pruneExpired daemon.now) = true
      by_contra missing
      rw [Bool.not_eq_true, pairingAvailable_eq_false_iff] at missing
      have wanted : (AuthManager.pairingRecoveryRequired daemon.now daemon.auth).1 = true := by
        unfold AuthManager.pairingRecoveryRequired
        dsimp only
        rw [pruned, missing.1, missing.2]
        have counted : 0 < (daemon.auth.pruneExpired daemon.now).generation := rotated
        simp [counted]
      cases wanted.symm.trans required
  | true =>
      generalize watched : (daemon.withAuth (AuthManager.pairingRecoveryRequired daemon.now)).2 =
        memory
      have kept : memory.rng.Yields := by
        rw [← watched]
        exact yields
      rw [if_pos rfl, complete_bind, complete_transact]
      dsimp only
      split
      · rcases complete_revokeAndRotate app kept with ⟨after, completed, pairable⟩
        rw [pure_eq_done, done_bind, complete_bind, completed]
        exact pairable
      · rename_i busy
        rcases complete_forceBurn app memory busy with ⟨events, burned⟩
        rw [complete_bind, burned]
        generalize burnt : ({ memory with
          session := app.sessions.initialData memory.now, events := events } : Daemon) = ended
        have yielding : ended.rng.Yields := by
          rw [← burnt]
          exact kept
        rcases complete_revokeAndRotate app yielding with ⟨after, completed, pairable⟩
        dsimp only
        rw [complete_bind, completed]
        exact pairable

/-- A session that nobody leases is started. -/
theorem complete_start (manager : SessionManager) {client : Uuid} {url : Url}
    (free : daemon.session.snapshot.phase = .idle ∨ daemon.session.snapshot.phase = .failed)
    (unheld : daemon.session.controller = none) (allowed : manager.blocks url = false) :
    ∃ after, ((manager.start client url).complete Call.success daemon).2 = after ∧
      after.auth = daemon.auth ∧ after.now = daemon.now ∧
      after.session.controller = some client ∧ after.session.snapshot.phase = .active ∧
      after.session.snapshot.url = some url := by
  have outcome := beginStart_cases manager client url daemon
  unfold SessionManager.start
  rw [complete_bind, complete_transact]
  generalize manager.beginStart client url daemon = after at outcome
  cases outcome with
  | busy idle failed => exact absurd free (not_or.mpr ⟨idle, failed⟩)
  | blocked refused =>
      rw [refused.2] at allowed
      cases allowed
  | conflict other held =>
      rw [unheld] at held
      cases held
  | begun => exact ⟨_, rfl, rfl, rfl, rfl, rfl, rfl⟩

/-- The presented code is exchanged for a live session. -/
theorem exchange_of_offers (manager : AuthManager) {bytes : Bytes32} {auth : AuthState}
    {now : Instant} {rng : Rng} (offers : auth.Offers bytes)
    (unlocked : auth.lockedUntil.any (· > now) = false) (lasts : 0 < manager.authTtl)
    (yields : rng.Yields) :
    (manager.exchangePairing now (Encoding.urlSafeNoPad bytes) auth rng).2.1.Live
      rng.newUuid.1 now := by
  rcases Option.ne_none_iff_exists'.mp (yields rng.draws) with ⟨first, firstDrawn⟩
  rcases Option.ne_none_iff_exists'.mp (yields (rng.draws + 1)) with ⟨second, secondDrawn⟩
  unfold AuthManager.exchangePairing
  rw [if_neg (by simp [unlocked]), if_pos (Or.inl offers.secret)]
  simp only [Rng.randomToken, Rng.randomBytes, firstDrawn, secondDrawn, Option.map_some]
  refine ⟨_, List.mem_cons_self, rfl, rfl, ?_⟩
  exact Nat.lt_add_of_pos_right lasts

end Complete

/-! ## The result -/

/-- From here on a new client can read a pairing from the pairing file and, with
calls that succeed, present it and start a session at the URL. -/
def Regains {W O N : Type} (app : AppState) (answer : Answer Call Call.Reply W O)
    (world : N → Daemon → W → Option W) (url : Url)
    (config : Config Daemon Call Call.Reply Response (Ledger W)) : Prop :=
  ∃ published bytes later client,
    (app.ledgerService answer world).Reaches config published ∧
    published.world.lastWriting = some (app.pairingText bytes, true) ∧
    app.Publishes bytes (app.pairingText bytes) ∧
    published.memory.auth.Offers bytes ∧
    (app.ledgerService answer world).Reaches published later ∧
    later.holder = none ∧
    later.memory.session.controller = some client ∧
    later.memory.session.snapshot.phase = .active ∧
    later.memory.session.snapshot.url = some url ∧
    later.memory.auth.Live client later.memory.now ∧
    ¬ config.memory.rng.Taken client

section Runs

variable {F : Type} {crate : UrlCrate} {fst : FstCrate F} {config : Configuration.Config}
  {opened : Except String (Option F)} {rng : Rng} {now : Instant} {utc : DateTime}
  {writes : String → Except String Unit} {loads : String → String → Bool} {serving : Serving}
  {W O N : Type} {answer : Answer Call Call.Reply W O} {world : N → Daemon → W → Option W}
  {state : W} {reached : Config Daemon Call Call.Reply Response (Ledger W)}

/-- A client stays authenticated for some time. -/
theorem Deployed.lasts {blocklist : Blocklist F} {bytes : Bytes32}
    (deployed : Deployed crate fst config blocklist bytes loads serving) :
    0 < serving.app.auth.authTtl := by
  have limits := (Configuration.Config.validate_eq_ok_iff.mp deployed.valid).2.1
  rw [Configuration.Config.checkLimits, Configuration.checkAll_eq_ok_iff, List.forall_mem_cons,
    Configuration.check_eq_ok_iff, decide_eq_true_iff] at limits
  rw [deployed.app]
  exact Nat.mul_pos (Nat.lt_of_lt_of_le (by decide) limits.1) (by decide)

theorem validateContext_snd (now : Instant) (context : AuthContext) (auth : AuthState) :
    (AuthManager.validateContext now context auth).2 = auth.pruneExpired now := by
  unfold AuthManager.validateContext
  dsimp only
  split <;> rfl

/-- A live session is still live when the others have been pruned. -/
theorem AuthState.Live.pruned {auth : AuthState} {client : Uuid} {now : Instant}
    (live : auth.Live client now) : (auth.pruneExpired now).Live client now := by
  rcases live with ⟨entry, member, owned, current, unexpired⟩
  refine ⟨entry, List.mem_filter.mpr ⟨member, ?_⟩, owned, current, unexpired⟩
  simp [unexpired, current]

/-- A paired client starts a session that nobody leases. -/
theorem complete_startSession {app : AppState} {daemon : Daemon} {client : Uuid} {url : Url}
    (live : daemon.auth.Live client daemon.now) (unheld : daemon.session.controller = none)
    (free : daemon.session.snapshot.phase = .idle ∨ daemon.session.snapshot.phase = .failed)
    (allowed : app.sessions.blocks url = false) :
    ∃ later, ((app.lifecycle (.startSession ⟨client, daemon.auth.generation⟩ url)).complete
        Call.success daemon).2 = later ∧
      later.session.controller = some client ∧ later.session.snapshot.phase = .active ∧
      later.session.snapshot.url = some url ∧ later.auth.Live client later.now := by
  have pruned : (daemon.withAuth (AuthManager.validateContext daemon.now
      ⟨client, daemon.auth.generation⟩)).2.auth.Live client daemon.now := by
    change (AuthManager.validateContext _ _ _).2.Live client daemon.now
    rw [validateContext_snd]
    exact live.pruned
  have started : ∃ after, ((app.sessions.start client url).complete Call.success
      (daemon.withAuth (AuthManager.validateContext daemon.now
        ⟨client, daemon.auth.generation⟩)).2).2 = after ∧ _ :=
    complete_start app.sessions free unheld allowed
  rcases started with ⟨after, completed, auth, clock, held, active, shown⟩
  have accepted := live.validated
  refine ⟨after, ?_, held, active, shown, ?_⟩
  · unfold AppState.lifecycle AppState.startSession
    dsimp only
    rw [complete_bind, complete_andThen, AppState.validateContext, complete_transact]
    simp only [Daemon.withAuth, accepted]
    exact completed
  · rw [auth, clock]
    exact pruned

/-- After some time all credentials and lockouts have expired. -/
theorem exists_expiry (daemon : Daemon) :
    ∃ duration, Expired { daemon with now := daemon.now + duration } ∧
      Unlocked { daemon with now := daemon.now + duration } := by
  refine ⟨(daemon.auth.sessions.map fun entry => entry.2.expiresAt).sum +
    daemon.auth.lockedUntil.getD 0, fun entry member => ?_, ?_⟩
  · have listed : entry.2.expiresAt ∈ daemon.auth.sessions.map fun entry => entry.2.expiresAt :=
      List.mem_map_of_mem member
    have bounded : entry.2.expiresAt ≤ (daemon.auth.sessions.map fun entry =>
        entry.2.expiresAt).sum := List.le_sum_of_mem listed
    exact Nat.le_trans bounded (Nat.le_trans (Nat.le_add_right _ _) (Nat.le_add_left _ _))
  · unfold Unlocked
    cases daemon.auth.lockedUntil with
    | none => rfl
    | some deadline =>
        rw [Option.any_some, Option.getD_some, decide_eq_false_iff_not]
        exact Nat.not_lt.mpr (Nat.le_trans (Nat.le_add_left _ _) (Nat.le_add_left _ _))

section Service

variable {app : AppState}

/-- The watchdog leaves a pairing that can be redeemed once everything has
expired. -/
theorem reaches_pairable (replies : (app.ledgerService answer world).Replies Call.success)
    {daemon : Daemon} {ledger : Ledger W} (yields : daemon.rng.Yields)
    (rotated : 0 < daemon.auth.generation)
    (tasks : List (Program Daemon Call Call.Reply Response)) :
    ∃ published ledger', (app.ledgerService answer world).Reaches ⟨daemon, ledger, none, tasks⟩
      ⟨published, ledger', none, tasks⟩ ∧ Pairable published := by
  rcases exists_expiry daemon with ⟨duration, expired, unlocked⟩
  have elapse : (app.ledgerService answer world).step ⟨daemon, ledger, none, tasks⟩
      (.noise (.elapse duration)) =
        some ⟨{ daemon with now := daemon.now + duration }, ledger, none, tasks⟩ := rfl
  have recovered : Pairable ((app.lifecycle .recoverExpiredAuth).complete Call.success
      { daemon with now := daemon.now + duration }).2 := by
    unfold AppState.lifecycle
    rw [complete_bind]
    exact complete_recoverExpiredAuth app expired unlocked rotated yields
  rcases Pool.reaches_operation replies Lifecycle.recoverExpiredAuth tasks
    { daemon with now := daemon.now + duration } ledger with ⟨ledger', recovers⟩
  exact ⟨_, ledger', (ReachableUnder.single trivial elapse).trans recovers, recovered⟩

/-- A client that presents the pairing starts a session. -/
theorem reaches_started (replies : (app.ledgerService answer world).Replies Call.success)
    {daemon : Daemon} {ledger : Ledger W} {bytes : Bytes32} {url : Url}
    (yields : daemon.rng.Yields) (unlocked : Unlocked daemon) (offers : daemon.auth.Offers bytes)
    (lasts : 0 < app.auth.authTtl) (unheld : daemon.session.controller = none)
    (free : daemon.session.snapshot.phase = .idle ∨ daemon.session.snapshot.phase = .failed)
    (allowed : app.sessions.blocks url = false)
    (tasks : List (Program Daemon Call Call.Reply Response)) :
    ∃ later ledger' tasks', (app.ledgerService answer world).Reaches
        ⟨daemon, ledger, none, tasks⟩ ⟨later, ledger', none, tasks'⟩ ∧
      later.session.controller = some daemon.rng.newUuid.1 ∧
      later.session.snapshot.phase = .active ∧ later.session.snapshot.url = some url ∧
      later.auth.Live daemon.rng.newUuid.1 later.now := by
  let exchange : Daemon → Except AppError ExchangeResult × Daemon := fun daemon =>
    daemon.withAuthAndRng (app.auth.exchangePairing daemon.now (Encoding.urlSafeNoPad bytes))
  have single : (app.ledgerService answer world).task
      (.exchangePairing (Encoding.urlSafeNoPad bytes)) =
        .access false (fun daemon => (exchange daemon).2) fun daemon =>
          .done (.exchanged (exchange daemon).1) := rfl
  have presents := Pool.reaches_section single none tasks daemon ledger
  have live : (exchange daemon).2.auth.Live daemon.rng.newUuid.1 (exchange daemon).2.now :=
    exchange_of_offers app.auth offers unlocked lasts yields
  rcases complete_startSession live unheld free allowed with
    ⟨later, completed, held, active, shown, lives⟩
  rcases Pool.reaches_operation replies
    (Lifecycle.startSession ⟨daemon.rng.newUuid.1, (exchange daemon).2.auth.generation⟩ url)
    (tasks ++ [.done (.exchanged (exchange daemon).1)]) (exchange daemon).2 ledger with
    ⟨ledger', starts⟩
  rw [← completed] at held active shown lives
  exact ⟨_, ledger', _, presents.trans starts, held, active, shown, lives⟩

end Service

/-- From every state that the daemon served by `main` reaches, whatever runs can
run to its end; and while nothing runs, the daemon can be taken into use by a
new client. -/
theorem regains_of_boot
    (serves : config.boot crate fst opened rng now utc writes loads = .ok serving)
    (yields : serving.daemon.rng.Yields)
    (replies : (serving.app.ledgerService answer world).Replies Call.success)
    (reaches : (serving.app.ledgerService answer world).Reaches
      (.idle serving.daemon (serving.ledger state)) reached) :
    (∃ free, (serving.app.ledgerService answer world).Reaches reached free ∧
      free.holder = none) ∧
    (reached.holder = none → reached.memory.rng.draws < 2 ^ 64 →
      ∀ url, serving.app.sessions.blocks url = false →
        Regains serving.app answer world url reached) := by
  refine ⟨Pool.reaches_free replies reached, fun free bound url allowed => ?_⟩
  rcases deployed_of_boot serves with ⟨file, initial, _, deployed⟩
  have agreed : ∀ {visited},
      (serving.app.ledgerService answer world).Reaches
        (.idle serving.daemon (serving.ledger state)) visited →
      Agreement visited.memory := fun visit =>
    (leaseContract.holds_of_reaches deployed.booted visit).good.2
  have supplied : ∀ {visited},
      (serving.app.ledgerService answer world).Reaches
        (.idle serving.daemon (serving.ledger state)) visited → visited.memory.rng.Yields := by
    intro visited visit draw
    rw [((advances_persistent serving.daemon.rng).reaches (.refl _)
      (.idle serving.daemon (serving.ledger state)) visit).tape]
    exact yields draw
  have framed := (service_framed serving.app (Ledger.answer answer) (Ledger.noise world)).reaches
    (.idle serving.daemon (serving.ledger state)) reaches
  rcases reached with ⟨daemon, ledger, holder, tasks⟩
  cases free
  rcases reaches_pairable replies (supplied reaches) ((agreed reaches).counted bound).1 tasks with
    ⟨published, ledger', recovers, pairable⟩
  have passed := reaches.trans recovers
  rcases deployed.filed_of_reaches passed rfl pairable.available with
    ⟨bytes, offers, written, publishes⟩
  rcases (agreed passed).leaseAgreement.redeemable pairable.available with ⟨_, unheld, idle⟩
  rcases reaches_started replies (supplied passed) pairable.unlocked offers deployed.lasts unheld
    idle allowed tasks with ⟨later, ledger'', tasks', starts, held, active, shown, live⟩
  have drawing := (advances_persistent daemon.rng).reaches (.refl _) framed recovers
  exact ⟨_, bytes, _, _, recovers, written, publishes, offers, starts, rfl, held, active, shown,
    live, fun old => published.rng.not_taken_newUuid (old.of_advances drawing)⟩

end Runs

namespace Sample

theorem told_replies {N : Type} {world : N → Daemon → Unit → Option Unit} :
    (localServing.app.ledgerService told world).Replies Call.success := by
  intro request ledger
  cases request <;> exact ⟨true, _, rfl⟩

end Sample

/-- After a burn a new client can take the daemon into use. -/
theorem regains_of_burnsOnce :
    ∃ reached : Config Daemon Call Call.Reply Response (Ledger Unit),
      reached.memory.auth.generation = 2 ∧
      Regains Sample.localServing.app Sample.told AppState.still (Sample.url "example.com")
        reached := by
  have executed : ((run (Sample.localServing.app.ledgerService Sample.told AppState.still).step
      (.idle Sample.localServing.daemon (Sample.localServing.ledger ())) Sample.burnsOnce).map
        fun reached => (reached.holder.isNone, reached.memory.auth.generation,
          reached.memory.rng.draws)) = some (true, 2, 4) := by
    decide +kernel
  rcases Option.map_eq_some_iff.mp executed with ⟨reached, visited, values⟩
  simp only [Prod.mk.injEq, Option.isNone_iff_eq_none] at values
  rcases values with ⟨free, generation, draws⟩
  have yields : Sample.localServing.daemon.rng.Yields := fun _ dry => by cases dry
  refine ⟨reached, generation, (regains_of_boot Sample.localBoot_serves yields
    Sample.told_replies (reachable_of_run visited)).2 free ?_ _ rfl⟩
  rw [draws]
  decide

end XanhTab
