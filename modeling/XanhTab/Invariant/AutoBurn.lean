import XanhTab.Invariant.Burnable
import XanhTab.Invariant.Isolation

/-!
# The inactivity burn

When the watchdog burns a session for inactivity, whatever the backends reply.
It looks at active sessions only: what an operation that has failed or was
dropped has left running in another phase is not its business.
-/

namespace XanhTab

open Program Contract Transition

/-! ## The law -/

/-- Nobody has used the session for as long as its settings allow. -/
structure Due (daemon : Daemon) : Prop where
  enabled : Duration.ofSeconds daemon.session.snapshot.autoBurnSeconds ≠ 0
  elapsed : Duration.ofSeconds daemon.session.snapshot.autoBurnSeconds ≤
    daemon.now - daemon.session.lastActivity

/-- The watchdog has burned: every cleanup step was attempted once and in order,
all authentication is revoked, and the pairing is rotated if there are random
bytes for it and its file can be written. -/
structure AutoBurned (app : AppState) (reply : (call : Call) → call.Reply) (daemon : Daemon) :
    Prop where
  performed : (app.autoBurnIfDue.complete reply daemon).1 ≠ .ok false
  attempts : ∃ written : List Call,
    app.autoBurnIfDue.requests reply daemon =
      [.browserStop, .egressReset, .clearRuntimeDir] ++ written ∧
    ∀ call ∈ written, ∃ body, call = .writePairingFile body
  revoked : (app.autoBurnIfDue.complete reply daemon).2.auth.sessions = [] ∧
    (app.autoBurnIfDue.complete reply daemon).2.auth.tickets = []
  generation : (daemon.rng.tape daemon.rng.draws).isSome →
    (app.autoBurnIfDue.complete reply daemon).2.auth.generation =
      (daemon.auth.generation + 1) % 2 ^ 64
  rotated : (daemon.rng.tape daemon.rng.draws).isSome →
    (∀ body, reply (.writePairingFile body) = .ok ()) →
    Rotated daemon (app.autoBurnIfDue.complete reply daemon).2

/-! ## The operations alone -/

section Complete

variable {app : AppState} {reply : (call : Call) → call.Reply} {α β : Type}

/-- The program makes these calls and leaves the authentication alone. -/
def Makes (reply : (call : Call) → call.Reply) (calls : List Call) (program : Routine α) : Prop :=
  ∀ daemon, program.requests reply daemon = calls ∧
    (program.complete reply daemon).2.auth = daemon.auth ∧
    (program.complete reply daemon).2.rng = daemon.rng

namespace Makes

theorem done (result : α) : Makes reply [] (.done result) :=
  fun _ => ⟨rfl, rfl, rfl⟩

theorem bind (calls later : List Call) {program : Routine α} {rest : α → Routine β}
    (first : Makes reply calls program) (second : ∀ result, Makes reply later (rest result)) :
    Makes reply (calls ++ later) (program >>= rest) := by
  intro daemon
  rcases first daemon with ⟨made, auth, rng⟩
  rcases second (program.complete reply daemon).1 (program.complete reply daemon).2 with
    ⟨made', auth', rng'⟩
  rw [requests_bind, complete_bind, made, made']
  exact ⟨rfl, auth'.trans auth, rng'.trans rng⟩

theorem transact {awaits : Bool} {body : Daemon → α × Daemon}
    (kept : ∀ daemon, (body daemon).2.auth = daemon.auth ∧ (body daemon).2.rng = daemon.rng) :
    Makes reply [] (.transact awaits body : Routine α) :=
  fun daemon => ⟨rfl, kept daemon⟩

/-- A call whose reply is turned into a result. -/
theorem call {awaits : Bool} {request : Call} {next : request.Reply → Routine α}
    (ends : ∀ result, ∃ value, next result = .done value) :
    Makes reply [request] (.call awaits request next) := by
  intro daemon
  rcases ends (reply request) with ⟨value, ended⟩
  simp [Program.requests, Program.complete, ended]

theorem publish (event : String) : Makes reply [] (SessionManager.publish event) :=
  bind [] [] (transact fun _ => ⟨rfl, rfl⟩) fun _ => transact fun _ => ⟨rfl, rfl⟩

theorem commit (event : String) (update : Daemon → SessionData) :
    Makes reply [] (SessionManager.commit event update) :=
  bind [] [] (transact fun _ => ⟨rfl, rfl⟩) fun _ =>
    bind [] [] (transact fun _ => ⟨rfl, rfl⟩) fun _ => done _

theorem stopBrowser (failures : List String) :
    Makes reply [.browserStop] (SessionManager.stopBrowser failures) :=
  call fun result => by cases result <;> exact ⟨_, rfl⟩

theorem resetEgress (failures : List String) :
    Makes reply [.egressReset] (SessionManager.resetEgress failures) :=
  call fun result => by cases result <;> exact ⟨_, rfl⟩

theorem clearRuntime (failures : List String) :
    Makes reply [.clearRuntimeDir] (SessionManager.clearRuntime failures) :=
  call fun result => by cases result <;> exact ⟨_, rfl⟩

end Makes

variable {daemon : Daemon}

/-- A burn of a session that is not idle attempts its three steps. -/
theorem forceBurn_makes (busy : daemon.session.snapshot.phase ≠ .idle) :
    app.sessions.forceBurn.requests reply daemon =
      [.browserStop, .egressReset, .clearRuntimeDir] ∧
    (app.sessions.forceBurn.complete reply daemon).2.auth = daemon.auth ∧
    (app.sessions.forceBurn.complete reply daemon).2.rng = daemon.rng := by
  have begun : (lock SessionManager.beginBurn : Routine _).complete reply daemon =
      (none, { daemon with session := daemon.session.burning }) := by
    show SessionManager.beginBurn daemon = _
    unfold SessionManager.beginBurn
    rw [if_neg busy]
  unfold SessionManager.forceBurn
  rw [requests_bind, complete_bind, begun]
  refine Makes.bind [] [.browserStop, .egressReset, .clearRuntimeDir] (.publish _)
    (fun _ => ?_) _
  refine Makes.bind [.browserStop] [.egressReset, .clearRuntimeDir] (.stopBrowser _) fun _ => ?_
  refine Makes.bind [.egressReset] [.clearRuntimeDir] (.resetEgress _) fun _ => ?_
  refine Makes.bind [.clearRuntimeDir] [] (.clearRuntime _) fun failures => ?_
  dsimp only
  split
  · exact Makes.bind [] [] (.commit _ _) fun _ => .done _
  · exact Makes.bind [] [] (.commit _ _) fun _ => .done _

/-- What a rotation of the pairing does, whatever is replied. -/
structure Rotates (reply : (call : Call) → call.Reply) (daemon : Daemon) (calls : List Call)
    (after : Daemon) : Prop where
  calls : ∀ call ∈ calls, ∃ body, call = .writePairingFile body
  revoked : daemon.auth.sessions = [] → daemon.auth.tickets = [] →
    after.auth.sessions = [] ∧ after.auth.tickets = []
  generation : (daemon.rng.tape daemon.rng.draws).isSome →
    after.auth.generation = (daemon.auth.generation + 1) % 2 ^ 64
  rotated : (daemon.rng.tape daemon.rng.draws).isSome →
    (∀ body, reply (.writePairingFile body) = .ok ()) → Rotated daemon after

variable (app reply daemon)

theorem rotatePairingMaterial_rotates :
    Rotates reply daemon (app.rotatePairingMaterial.requests reply daemon)
      (app.rotatePairingMaterial.complete reply daemon).2 := by
  unfold AppState.rotatePairingMaterial
  rw [requests_bind, complete_bind]
  have drew : (sync fun daemon => daemon.withAuthAndRng AuthManager.rotatePairing :
      Routine (Option PairingMaterial)).complete reply daemon =
      daemon.withAuthAndRng AuthManager.rotatePairing := rfl
  rw [drew]
  simp only [Daemon.withAuthAndRng, AuthManager.rotatePairing, Rng.randomBytes]
  cases drawn : daemon.rng.tape daemon.rng.draws with
  | none =>
      constructor
      · intro call member
        cases member
      · exact fun sessions tickets => ⟨sessions, tickets⟩
      · intro yields
        rw [drawn] at yields
        cases yields
      · intro yields
        rw [drawn] at yields
        cases yields
  | some bytes =>
      have wrote : ∀ body memory,
          (Routine.writePairingFile body).complete reply memory =
            (reply (.writePairingFile body), memory) := fun _ _ => rfl
      have asked : ∀ body memory,
          (Routine.writePairingFile body).requests reply memory = [.writePairingFile body] :=
        fun _ _ => rfl
      dsimp only
      rw [requests_bind, complete_bind, wrote, asked]
      cases result : reply (.writePairingFile (AuthManager.pairingFileBody
          ⟨Encoding.urlSafeNoPad bytes, Encoding.groupManualCode bytes⟩ app.publicBaseUrl)) with
      | ok _ =>
          constructor
          · rintro call (_ | ⟨_, member⟩)
            · exact ⟨_, rfl⟩
            · cases member
          · exact fun _ _ => ⟨rfl, rfl⟩
          · exact fun _ => rfl
          · exact fun _ _ => ⟨rfl, ⟨bytes, drawn, rfl, rfl⟩, rfl, rfl⟩
      | error _ =>
          constructor
          · rintro call (_ | ⟨_, member⟩)
            · exact ⟨_, rfl⟩
            · cases member
          · exact fun _ _ => ⟨rfl, rfl⟩
          · exact fun _ => rfl
          · intro _ succeeds
            rw [succeeds] at result
            cases result

/-- Nobody is authenticated. -/
def revoked (daemon : Daemon) : Daemon :=
  { daemon with auth := AuthManager.revokeAll daemon.auth }

/-- A burn is followed by the revocation and the rotation, whatever its result. -/
theorem burnAndRotate_after :
    ((app.burnAndRotate none).complete reply daemon).2 =
      (app.rotatePairingMaterial.complete reply
        (revoked (app.sessions.forceBurn.complete reply daemon).2)).2 ∧
    (app.burnAndRotate none).requests reply daemon =
      app.sessions.forceBurn.requests reply daemon ++
        app.rotatePairingMaterial.requests reply
          (revoked (app.sessions.forceBurn.complete reply daemon).2) := by
  unfold AppState.burnAndRotate
  dsimp only
  rw [requests_bind, complete_bind]
  rcases app.sessions.forceBurn.complete reply daemon with ⟨burnResult, burnt⟩
  dsimp only
  unfold AppState.revokeAndRotate
  rw [requests_bind, complete_bind, requests_bind, complete_bind]
  have revokes : (sync fun daemon => daemon.withAuth fun auth =>
      ((), AuthManager.revokeAll auth) : Routine Unit).complete reply burnt =
      ((), revoked burnt) := rfl
  rw [revokes]
  dsimp only
  rcases app.rotatePairingMaterial.complete reply (revoked burnt) with ⟨pairingResult, after⟩
  constructor
  · cases burnResult <;> cases pairingResult <;> rfl
  · cases burnResult <;> cases pairingResult <;>
      exact congrArg (app.sessions.forceBurn.requests reply daemon ++ ·) (List.append_nil _)

/-- The watchdog burns an active session that is due. -/
theorem autoBurnIfDue_of_due (active : daemon.session.snapshot.phase = .active) (due : Due daemon) :
    (app.autoBurnIfDue.complete reply daemon).1 ≠ .ok false ∧
      (app.autoBurnIfDue.complete reply daemon).2 =
        ((app.burnAndRotate none).complete reply daemon).2 ∧
      app.autoBurnIfDue.requests reply daemon =
        (app.burnAndRotate none).requests reply daemon := by
  unfold AppState.autoBurnIfDue
  rw [requests_bind, complete_bind]
  have looked : (Program.read (·.session.snapshot) : Routine SessionSnapshot).complete reply
      daemon = (daemon.session.snapshot, daemon) := rfl
  have measured : (Program.read fun daemon => daemon.now - daemon.session.lastActivity :
      Routine Duration).complete reply daemon =
      (daemon.now - daemon.session.lastActivity, daemon) := rfl
  have enabled : ¬ (daemon.session.snapshot.phase ≠ .active ∨
      Duration.ofSeconds daemon.session.snapshot.autoBurnSeconds = 0) :=
    not_or.mpr ⟨not_not.mpr active, due.enabled⟩
  rw [looked]
  dsimp only
  rw [if_neg enabled, requests_bind, complete_bind, measured]
  dsimp only
  rw [if_neg (Nat.not_lt.mpr due.elapsed), requests_bind, complete_bind]
  rcases (app.burnAndRotate none).complete reply daemon with ⟨_ | snapshot, after⟩
  · exact ⟨nofun, rfl, List.append_nil _⟩
  · exact ⟨nofun, rfl, List.append_nil _⟩

/-- The watchdog finds an active session that is due. -/
theorem autoBurned_of_due (active : daemon.session.snapshot.phase = .active) (due : Due daemon) :
    AutoBurned app reply daemon := by
  have busy : daemon.session.snapshot.phase ≠ .idle := by
    simp [active]
  have burns : app.sessions.forceBurn.requests reply daemon =
        [.browserStop, .egressReset, .clearRuntimeDir] ∧
      (app.sessions.forceBurn.complete reply daemon).2.auth = daemon.auth ∧
      (app.sessions.forceBurn.complete reply daemon).2.rng = daemon.rng := forceBurn_makes busy
  rcases burns with ⟨attempts, auth, rng⟩
  rcases autoBurnIfDue_of_due app reply daemon active due with ⟨performed, left, made⟩
  rcases burnAndRotate_after app reply daemon with ⟨left', made'⟩
  rw [left'] at left
  rw [made', attempts] at made
  generalize app.sessions.forceBurn.complete reply daemon = burnt at auth rng left made
  have rotates := rotatePairingMaterial_rotates app reply (revoked burnt.2)
  rw [← left] at rotates
  have generation : (revoked burnt.2).auth.generation = daemon.auth.generation := by
    show burnt.2.auth.generation = daemon.auth.generation
    rw [auth]
  constructor
  · exact performed
  · exact ⟨_, made, rotates.calls⟩
  · exact rotates.revoked rfl rfl
  · intro yields
    rw [← rng] at yields
    rw [rotates.generation yields, generation]
  · intro yields succeeds
    rw [← rng] at yields
    rcases rotates.rotated yields succeeds with
      ⟨counted, ⟨bytes, read, hashes⟩, sessions, tickets⟩
    constructor
    · rw [counted, generation]
    · exact ⟨bytes, rng ▸ read, hashes⟩
    · exact sessions
    · exact tickets

/-- The watchdog leaves every other session alone. -/
theorem autoBurnIfDue_of_inactive (inactive : daemon.session.snapshot.phase ≠ .active) :
    app.autoBurnIfDue.complete reply daemon = (.ok false, daemon) ∧
      app.autoBurnIfDue.requests reply daemon = [] := by
  unfold AppState.autoBurnIfDue
  rw [requests_bind, complete_bind]
  have looked : (Program.read (·.session.snapshot) : Routine SessionSnapshot).complete reply
      daemon = (daemon.session.snapshot, daemon) := rfl
  rw [looked]
  dsimp only
  rw [if_pos (Or.inl inactive)]
  exact ⟨rfl, rfl⟩

end Complete

/-! ## The result -/

theorem isolationContract.blind : Blind isolationContract Backends.answer .trivial where
  auth _ _ _ _ good _ _ _ := ⟨trivial, good.2.congr rfl rfl, trivial⟩
  pairingFile _ _ _ _ _ _ good _ answered _ _ := by
    obtain rfl := Backends.answers_of_answer answered
    exact ⟨trivial, good.2, trivial⟩

/-- In every state that the service reaches the watchdog burns an active session
that is due, whatever its calls are replied, and leaves every other session
alone.  In an idle one no browser can be running. -/
theorem auto_burns_of_reaches {app : AppState} {daemon : Daemon} {policy : Option EgressMode}
    {config : Config Daemon Call Call.Reply Response Backends} (booted : app.Booted daemon)
    (reaches : (app.service Backends.answer Backends.accident).Reaches
      (.idle daemon { policy }) config) (reply : (call : Call) → call.Reply) :
    (config.memory.session.snapshot.phase = .active → Due config.memory →
      AutoBurned app reply config.memory) ∧
    (config.memory.session.snapshot.phase ≠ .active →
      app.autoBurnIfDue.complete reply config.memory = (.ok false, config.memory) ∧
        app.autoBurnIfDue.requests reply config.memory = []) ∧
    (config.memory.session.snapshot.phase = .idle → config.world.browsers = []) := by
  have established : isolationContract.Established
      (app.service Backends.answer Backends.accident) :=
    (isolationContract.specs app.sessions).established_service isolationContract.blind
      isolationContract.interference
  have idle : daemon.session.snapshot.phase = .idle := by
    rw [booted.session]
    rfl
  have start : isolationContract.Holds Backends.answer
      (.idle daemon { policy } : Config Daemon Call Call.Reply Response Backends) := by
    constructor
    · exact ⟨trivial, .idleWith rfl idle⟩
    · exact fun _ => trivial
    · rintro program ⟨⟩
    · rintro program ⟨⟩
  have isolated := (established.sound start (fun _ _ => trivial)
    (Pool.reachesUnder_free _ reaches)).good.2
  constructor
  · exact fun active due => autoBurned_of_due app reply config.memory active due
  · exact ⟨fun inactive => autoBurnIfDue_of_inactive app reply config.memory inactive,
      isolated.idle⟩

namespace Sample

/-- The first client opens a session and forgets it. -/
def forgotten : List (ServiceLabel Effect Accident) :=
  openSession .succeeds 8 ++ [.finish, .noise (.elapse (Duration.ofSeconds 1800))]

/-- The first client burns its session, but the browser cannot be stopped. -/
def unstoppable : List (ServiceLabel Effect Accident) :=
  openSession .succeeds 8 ++ [.finish, .start (.burnControllerSession ⟨0, 1⟩ 1)] ++
    List.replicate 6 (.step (some .succeeds)) ++
    [.step (some (.fails .internal [{ mode := .direct, stopFailed := true }] []))] ++
    List.replicate 7 (.step (some .succeeds)) ++
    [.finish, .noise (.elapse (Duration.ofSeconds 1800))]

end Sample

/-- A browser that outlives its burn is not burned for inactivity. -/
theorem not_autoBurned_of_unstoppable :
    ¬ ∀ config : Config Daemon Call Call.Reply Response Backends,
      (Sample.app.service Backends.answer Backends.accident).Reaches (.idle Sample.daemon {})
        config →
      config.world.browsers ≠ [] → Due config.memory →
      (Sample.app.autoBurnIfDue.complete Call.success config.memory).1 ≠ .ok false := by
  intro always
  have executed : ((run (Sample.app.service Backends.answer Backends.accident).step
      (.idle Sample.daemon {}) Sample.unstoppable).map fun config =>
        (config.world.browsers, config.memory.session.snapshot.phase,
          config.memory.session.snapshot.autoBurnSeconds,
          config.memory.now - config.memory.session.lastActivity)) =
      some ([{ mode := .direct, stopFailed := true }], .failed, 1800,
        Duration.ofSeconds 1800) := by
    decide +kernel
  rcases Option.map_eq_some_iff.mp executed with ⟨config, reached, values⟩
  simp only [Prod.mk.injEq] at values
  rcases values with ⟨browsers, failed, seconds, elapsed⟩
  have due : Due config.memory := by
    constructor
    · rw [seconds]
      decide
    · apply Nat.le_of_eq
      rw [seconds, elapsed]
  have inactive : config.memory.session.snapshot.phase ≠ .active := by
    rw [failed]
    exact nofun
  apply always config (reachable_of_run reached) ?_ due
  · rw [(autoBurnIfDue_of_inactive Sample.app Call.success config.memory inactive).1]
  · rw [browsers]
    exact nofun

theorem auto_burns_of_forgotten :
    ∃ config : Config Daemon Call Call.Reply Response Backends,
      config.world.browsers = [{ mode := .direct }] ∧
        AutoBurned Sample.app Call.success config.memory := by
  have executed : ((run (Sample.app.service Backends.answer Backends.accident).step
      (.idle Sample.daemon {}) Sample.forgotten).map fun config =>
        (config.world.browsers, config.memory.session.snapshot.phase,
          config.memory.session.snapshot.autoBurnSeconds,
          config.memory.now - config.memory.session.lastActivity)) =
      some ([{ mode := .direct }], .active, 1800, Duration.ofSeconds 1800) := by
    decide +kernel
  rcases Option.map_eq_some_iff.mp executed with ⟨config, reached, values⟩
  simp only [Prod.mk.injEq] at values
  rcases values with ⟨browsers, active, seconds, elapsed⟩
  have due : Due config.memory := by
    constructor
    · rw [seconds]
      decide
    · apply Nat.le_of_eq
      rw [seconds, elapsed]
  exact ⟨config, browsers, (auto_burns_of_reaches Sample.daemon_booted (reachable_of_run reached)
    Call.success).1 active due⟩

end XanhTab
