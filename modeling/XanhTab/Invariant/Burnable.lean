import XanhTab.Invariant.Lease
import XanhTab.Invariant.Tickets

/-!
# Burning what is there

Whether the paired client can burn the session that it is shown.  A burn that
fails shows no session any more, and then no request to burn is accepted; every
other state shows one, and a burn whose calls succeed ends it.
-/

namespace XanhTab

open Program Contract Transition

/-! ## The law -/

/-- The reply of a call that succeeds. -/
def Call.success : (call : Call) → call.Reply
  | .browserStart _ _ _ _ | .browserStop | .browserNavigate _ | .egressApply _ | .egressReset =>
      .ok ()
  | .clearRuntimeDir | .writePairingFile _ => .ok ()

/-- The pairing was rotated, and nobody is paired. -/
structure Rotated (before after : Daemon) : Prop where
  generation : after.auth.generation = (before.auth.generation + 1) % 2 ^ 64
  pairing : ∃ bytes, before.rng.tape before.rng.draws = some bytes ∧
    after.auth.pairingHash = some (hash (Encoding.urlSafeNoPad bytes)) ∧
    after.auth.manualPairingHash = some (hash (Encoding.groupManualCode bytes))
  sessions : after.auth.sessions = []
  tickets : after.auth.tickets = []

/-- The client is shown a session, and its request to burn it, with calls that
succeed, ends it and rotates the pairing. -/
def Burnable (app : AppState) (daemon : Daemon) (client : Uuid) : Prop :=
  ∃ id snapshot after, daemon.session.snapshot.id = some id ∧
    (app.burnControllerSession ⟨client, daemon.auth.generation⟩ id).complete Call.success daemon =
      (.ok snapshot, after) ∧
    after.session.snapshot.phase = .idle ∧ Rotated daemon after

/-! ## The operations alone -/

section Complete

variable (app : AppState) (daemon : Daemon)

theorem complete_andThen {α β : Type} {program : Routine (Except AppError α)}
    {rest : α → Routine (Except AppError β)} :
    (program.andThen rest).complete Call.success daemon =
      match program.complete Call.success daemon with
      | (.ok value, after) => (rest value).complete Call.success after
      | (.error error, after) => (.error error, after) := by
  unfold Program.andThen
  rw [complete_bind]
  rcases program.complete Call.success daemon with ⟨_ | value, after⟩ <;> rfl

theorem complete_transact {α : Type} {awaits : Bool} {body : Daemon → α × Daemon} :
    (.transact awaits body : Routine α).complete Call.success daemon = body daemon :=
  rfl

/-- A burn of a session that is not idle restores the initial data. -/
theorem complete_forceBurn (busy : daemon.session.snapshot.phase ≠ .idle) :
    ∃ events, app.sessions.forceBurn.complete Call.success daemon =
      (.ok app.sessions.initialSnapshot,
        { daemon with session := app.sessions.initialData daemon.now, events := events }) := by
  have entered : SessionManager.beginBurn daemon =
      (none, { daemon with session := daemon.session.burning }) := by
    unfold SessionManager.beginBurn
    rw [if_neg busy]
  unfold SessionManager.forceBurn
  rw [complete_bind, complete_transact, entered]
  exact ⟨_, rfl⟩

/-- A rotation publishes its pairing if the random source yields. -/
theorem complete_rotatePairingMaterial {bytes : Bytes32}
    (drawn : daemon.rng.tape daemon.rng.draws = some bytes) :
    ∃ after, app.rotatePairingMaterial.complete Call.success daemon = (.ok (), after) ∧
      after.session = daemon.session ∧ Rotated daemon after := by
  unfold AppState.rotatePairingMaterial
  rw [complete_bind, complete_transact]
  simp only [Daemon.withAuthAndRng, AuthManager.rotatePairing, Rng.randomBytes, drawn]
  exact ⟨_, rfl, rfl, rfl, ⟨bytes, drawn, rfl, rfl⟩, rfl, rfl⟩

/-- A rotation fails if the random source does not yield. -/
theorem complete_rotatePairingMaterial_error
    (dry : daemon.rng.tape daemon.rng.draws = none) :
    ∃ after, app.rotatePairingMaterial.complete Call.success daemon =
      (.error .internal, after) := by
  unfold AppState.rotatePairingMaterial
  rw [complete_bind, complete_transact]
  simp only [Daemon.withAuthAndRng, AuthManager.rotatePairing, Rng.randomBytes, dry]
  exact ⟨_, rfl⟩

/-- The burn of the holder of the lease, up to the rotation. -/
theorem complete_burnAndRotate {client : Uuid} (busy : daemon.session.snapshot.phase ≠ .idle)
    (held : daemon.session.controller = some client) :
    ∃ burnt : Daemon, burnt.session = app.sessions.initialData daemon.now ∧
      burnt.rng = daemon.rng ∧ burnt.auth = AuthManager.revokeAll daemon.auth ∧
      (app.burnAndRotate (some client)).complete Call.success daemon =
        match app.rotatePairingMaterial.complete Call.success burnt with
        | (.ok _, after) => (.ok app.sessions.initialSnapshot, after)
        | (.error error, after) => (.error error, after) := by
  rcases complete_forceBurn app daemon busy with ⟨events, burned⟩
  have burn : (app.sessions.burn client).complete Call.success daemon =
      (.ok app.sessions.initialSnapshot,
        { daemon with session := app.sessions.initialData daemon.now, events := events }) := by
    unfold SessionManager.burn
    rw [complete_bind, complete_transact]
    simp only [ensureLease, held, if_true]
    exact burned
  refine ⟨{ daemon with
    session := app.sessions.initialData daemon.now
    events := events
    auth := AuthManager.revokeAll daemon.auth }, rfl, rfl, rfl, ?_⟩
  unfold AppState.burnAndRotate
  dsimp only
  rw [complete_bind, burn]
  dsimp only
  unfold AppState.revokeAndRotate
  rw [complete_bind, complete_bind, complete_transact]
  simp only [Daemon.withAuth]
  rcases app.rotatePairingMaterial.complete Call.success _ with ⟨_ | _, after⟩ <;> rfl

/-- Where no session is shown, every request to burn one is refused. -/
theorem complete_burn_refused (context : AuthContext) (id : Uuid)
    (absent : daemon.session.snapshot.id = none) :
    ∃ error after, (app.burnControllerSession context id).complete Call.success daemon =
      (.error error, after) := by
  unfold AppState.burnControllerSession
  rw [complete_andThen]
  unfold AppState.validateContext
  rw [complete_transact]
  simp only [Daemon.withAuth]
  rcases (AuthManager.validateContext daemon.now context daemon.auth).1 with error | _
  · exact ⟨error, _, rfl⟩
  · dsimp only
    rw [complete_andThen]
    unfold AppState.requireSessionId
    rw [complete_transact]
    simp only [absent]
    exact ⟨.notFound, _, rfl⟩

end Complete

/-! ## The result -/

section Runs

variable {app : AppState} {W O N : Type} {answer : Answer Call Call.Reply W O}
  {world : N → Daemon → W → Option W} {daemon : Daemon} {state : W}
  {config : Config Daemon Call Call.Reply Response W}

/-- The guards of a burn of the session that the client is shown. -/
theorem complete_guards {client id : Uuid} (live : daemon.auth.Live client daemon.now)
    (shown : daemon.session.snapshot.id = some id) :
    (app.burnControllerSession ⟨client, daemon.auth.generation⟩ id).complete Call.success daemon =
      (app.burnAndRotate (some client)).complete Call.success
        (daemon.withAuth (AuthManager.validateContext daemon.now
          ⟨client, daemon.auth.generation⟩)).2 := by
  have valid := live.validated
  unfold AppState.burnControllerSession
  rw [complete_andThen]
  unfold AppState.validateContext
  rw [complete_transact]
  simp only [Daemon.withAuth, valid]
  rw [complete_andThen]
  unfold AppState.requireSessionId
  rw [complete_transact]
  simp only [shown, if_true]

/-- Whenever a session is not idle, a live client can burn it if and only if the
lease is held and the random source yields another draw. -/
theorem burnable_iff_of_reaches {client : Uuid} (booted : app.Booted daemon)
    (reaches : (app.service answer world).Reaches (.idle daemon state) config)
    (busy : config.memory.session.snapshot.phase ≠ .idle)
    (live : config.memory.auth.Live client config.memory.now) :
    Burnable app config.memory client ↔ config.memory.session.controller.isSome ∧
      (config.memory.rng.tape config.memory.rng.draws).isSome := by
  have formed := wellFormed_of_reaches booted reaches
  have agreement := (leaseContract.holds_of_reaches booted reaches).good.2
  have entitled := leaseContract.entitled_of_validateContext agreement live.validated
  have pruned : (AuthManager.validateContext config.memory.now
      ⟨client, config.memory.auth.generation⟩ config.memory.auth).2.generation =
      config.memory.auth.generation :=
    (AuthStep.validateContext config.memory.rng _ _ _).generation
  rw [← formed.identified]
  cases shown : config.memory.session.snapshot.id with
  | none =>
      constructor
      · rintro ⟨id, _, _, present, _⟩
        rw [shown] at present
        cases present
      · rintro ⟨present, _⟩
        cases present
  | some id =>
      have leased : config.memory.session.controller ≠ none := by
        intro free
        have same := formed.identified
        rw [shown, free] at same
        cases same
      have held := entitled.lease.resolve_left leased
      rcases complete_burnAndRotate app (config.memory.withAuth
          (AuthManager.validateContext config.memory.now
            ⟨client, config.memory.auth.generation⟩)).2 busy held with
        ⟨burnt, session, rng, auth, burned⟩
      rw [← complete_guards live shown] at burned
      cases drawn : config.memory.rng.tape config.memory.rng.draws with
      | none =>
          constructor
          · rintro ⟨id', snapshot, after, present, completed, _⟩
            obtain rfl := Option.some.inj (shown.symm.trans present)
            have dry : burnt.rng.tape burnt.rng.draws = none := by
              rw [rng]
              exact drawn
            rcases complete_rotatePairingMaterial_error app burnt dry with ⟨last, failed⟩
            rw [completed, failed] at burned
            cases burned
          · rintro ⟨_, yields⟩
            cases yields
      | some bytes =>
          constructor
          · exact fun _ => ⟨rfl, rfl⟩
          · intro _
            have yields : burnt.rng.tape burnt.rng.draws = some bytes := by
              rw [rng]
              exact drawn
            rcases complete_rotatePairingMaterial app burnt yields with
              ⟨after, rotated, kept, fresh⟩
            rw [rotated] at burned
            refine ⟨id, _, after, shown, burned, ?_, ?_, ?_, fresh.sessions, fresh.tickets⟩
            · rw [kept, session]
              rfl
            · rw [fresh.generation, auth]
              exact congrArg (fun count => (count + 1) % 2 ^ 64) pruned
            · rcases fresh.pairing with ⟨bytes', read, secret, manual⟩
              rw [rng] at read
              exact ⟨bytes', read, secret, manual⟩

end Runs

namespace Sample

/-- The first client's session is burned, but the policy cannot be reset; then
the second client is paired. -/
def failedBurn : List (ServiceLabel Bool Empty) :=
  openSession true 8 ++ [.finish, .start (.burnControllerSession ⟨0, 1⟩ 1)] ++
    List.replicate 7 (.step (some true)) ++ [.step (some false)] ++
    List.replicate 6 (.step (some true)) ++
    [.finish, .spawn (.exchangePairing (Encoding.urlSafeNoPad (bytes 3))), .stepTask 1 none]

end Sample

/-- A failed burn leaves a session that nobody can burn. -/
theorem not_burnable_of_failedBurn :
    ∃ config : Config Daemon Call Call.Reply Response Unit,
      (Sample.app.service Sample.told AppState.still).Reaches (.idle Sample.daemon ()) config ∧
      config.memory.session.snapshot.phase ≠ .idle ∧
      config.memory.auth.Live 2 config.memory.now ∧ ¬ Burnable Sample.app config.memory 2 ∧
      ∀ context id, ∃ error after,
        (Sample.app.burnControllerSession context id).complete Call.success config.memory =
          (.error error, after) := by
  have executed : ((run (Sample.app.service Sample.told AppState.still).step
      (.idle Sample.daemon ()) Sample.failedBurn).map fun config =>
        (config.memory.session.snapshot.phase, config.memory.session.snapshot.id,
          config.memory.auth.hasLiveSession 2 config.memory.auth.generation config.memory.now)) =
      some (.failed, none, true) := by
    decide +kernel
  rcases Option.map_eq_some_iff.mp executed with ⟨config, reached, values⟩
  simp only [Prod.mk.injEq] at values
  rcases values with ⟨failed, absent, live⟩
  refine ⟨config, reachable_of_run reached, ?_, AuthState.hasLiveSession_iff.mp live, ?_, ?_⟩
  · simp [failed]
  · rintro ⟨id, _, _, shown, _⟩
    rw [absent] at shown
    cases shown
  · exact fun context id => complete_burn_refused Sample.app config.memory context id absent

/-- An active session can be burned by its client. -/
theorem burnable_iff_of_openSession :
    ∃ config : Config Daemon Call Call.Reply Response Unit,
      Burnable Sample.app config.memory 0 := by
  have executed : ((run (Sample.app.service Sample.told AppState.still).step
      (.idle Sample.daemon ()) (Sample.openSession true 8)).map fun config =>
        (config.memory.session.snapshot.phase, config.memory.session.controller.isSome,
          (config.memory.rng.tape config.memory.rng.draws).isSome,
          config.memory.auth.hasLiveSession 0 config.memory.auth.generation config.memory.now)) =
      some (.active, true, true, true) := by
    decide +kernel
  rcases Option.map_eq_some_iff.mp executed with ⟨config, reached, values⟩
  simp only [Prod.mk.injEq] at values
  rcases values with ⟨active, held, yields, live⟩
  have busy : config.memory.session.snapshot.phase ≠ .idle := by
    simp [active]
  exact ⟨config, (burnable_iff_of_reaches Sample.daemon_booted (reachable_of_run reached) busy
    (AuthState.hasLiveSession_iff.mp live)).mpr ⟨held, yields⟩⟩

end XanhTab
