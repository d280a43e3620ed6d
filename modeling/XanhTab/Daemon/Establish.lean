import XanhTab.Daemon.Frame
import XanhTab.Daemon.Outline

/-!
# Establishing contracts of the service

A contract about the session and its backends is established from the
specifications of the four session operations, from what it makes of the
interference, and, for the lifecycle operations of the application state, from
the fact that it looks at neither authentication nor the pairing file.
-/

namespace XanhTab

open Program Contract

variable {W O N : Type} {contract : Contract Daemon Call Response W O}
  {answer : Answer Call Call.Reply W O} {world : N → Daemon → W → Option W} {app : AppState}

/-- What a contract makes of the tasks and of the environment. -/
structure Interference (contract : Contract Daemon Call Response W O)
    (world : N → Daemon → W → Option W) : Prop where
  request : ∀ memory state memory', contract.Good memory state → RequestStep memory memory' →
    contract.assume.access memory state memory' → contract.given memory' state →
    contract.rely memory state memory' state ∧ contract.always memory' state
  clock : ∀ (memory : Daemon) state now utc, contract.Good memory state → memory.now ≤ now →
    contract.given { memory with now := now, utc := utc } state →
    contract.rely memory state { memory with now := now, utc := utc } state ∧
      contract.always { memory with now := now, utc := utc } state
  world : ∀ event memory state state', contract.Good memory state →
    world event memory state = some state' → contract.given memory state' →
    contract.rely memory state memory state' ∧ contract.always memory state'

theorem Interference.noise (interference : Interference contract world)
    {event : Environment N} {memory memory' : Daemon} {state state' : W}
    (good : contract.Good memory state)
    (changed : AppState.environment world event memory state = some (memory', state'))
    (given : contract.given memory' state') :
    contract.rely memory state memory' state' ∧ contract.always memory' state' := by
  cases event with
  | elapse duration =>
      cases changed
      exact interference.clock memory state _ memory.utc good (Nat.le_add_right _ _) given
  | setClock utc =>
      cases changed
      exact interference.clock memory state memory.now utc good (Nat.le_refl _) given
  | world event =>
      rcases Option.map_eq_some_iff.mp changed with ⟨after, moved, equal⟩
      cases equal
      exact interference.world event memory state state' good moved given

/-- The specifications of the session operations between two states at rest. -/
structure SessionSpecs (contract : Contract Daemon Call Response W O)
    (answer : Answer Call Call.Reply W O) (manager : SessionManager)
    (rest : contract.Assertion) : Prop where
  quiet : contract.Quiet
  reflexive : ∀ memory state, contract.guarantee memory state memory state
  atRest : ∀ memory state, rest.holds memory state ↔ contract.atRest memory state
  finish : ∀ result memory state, contract.finish result memory state ↔
    contract.atRest memory state
  start : ∀ client url, contract.Spec answer rest (manager.start client url) fun _ => rest
  forceBurn : contract.Spec answer rest manager.forceBurn fun _ => rest
  navigate : ∀ client command,
    contract.Spec answer rest (manager.navigate client command) fun _ => rest
  switchEgress : ∀ client mode,
    contract.Spec answer rest (SessionManager.switchEgress client mode) fun _ => rest

namespace SessionSpecs

variable {rest : contract.Assertion}

theorem burn {manager : SessionManager} (specs : SessionSpecs contract answer manager rest)
    (client : Uuid) : contract.Spec answer rest (manager.burn client) fun _ => rest := by
  have lease : contract.Spec answer rest
      (read fun daemon => ensureLease daemon.session client : Routine (Except AppError Unit))
      fun _ => rest :=
    Spec.read specs.quiet.toTotal specs.reflexive fun _ _ _ satisfied => satisfied
  apply Spec.bind lease
  intro result
  cases result with
  | error error => exact Spec.done fun _ _ _ satisfied => satisfied
  | ok _ => exact specs.forceBurn

/-- An operation whose result is only wrapped. -/
theorem wrap {α : Type} {program : Routine α} {response : α → Response}
    (spec : contract.Spec answer rest program fun _ => rest) :
    contract.Spec answer rest (do return response (← program)) fun _ => rest :=
  Spec.bind spec fun _ => Spec.done fun _ _ _ satisfied => satisfied

theorem established_of_operations {Op : Type} {operation : Op → Routine Response}
    {manager : SessionManager} (specs : SessionSpecs contract answer manager rest)
    (interference : Interference contract world)
    (operations : ∀ op, contract.Spec answer rest (operation op) fun _ => rest) :
    contract.Established
      { answer := answer, operation := operation, task := app.request
        noise := AppState.environment world } where
  operation op := by
    apply Triple.relax (Triple.weaken (operations op) fun memory state _ satisfied =>
      (specs.atRest memory state).mpr satisfied)
    exact fun result memory state _ satisfied =>
      (specs.finish result memory state).mpr ((specs.atRest memory state).mp satisfied)
  task request memory state _ :=
    Steady.of_local (request_local app request)
      (fun memory state memory' good step assumed given =>
        interference.request memory state memory' good step assumed given) memory state
  noise event memory state memory' state' good changed given :=
    interference.noise good changed given
  resting memory state memory' state' good relied good' satisfied :=
    (specs.atRest memory' state').mp
      (rest.stable good relied good' ((specs.atRest memory state).mpr satisfied))
  finished result memory state _ satisfied := (specs.finish result memory state).mp satisfied

/-- The contract holds in every run of the session manager. -/
theorem established_sessionService (specs : SessionSpecs contract answer app.sessions rest)
    (interference : Interference contract world) :
    contract.Established (app.sessionService answer world) := by
  apply specs.established_of_operations interference
  intro op
  cases op with
  | start client url => exact wrap (specs.start client url)
  | burn client => exact wrap (specs.burn client)
  | forceBurn => exact wrap specs.forceBurn
  | navigate client command => exact wrap (specs.navigate client command)
  | switchEgress client mode => exact wrap (specs.switchEgress client mode)

end SessionSpecs

/-- The contract looks at neither authentication nor the pairing file. -/
structure Blind (contract : Contract Daemon Call Response W O)
    (answer : Answer Call Call.Reply W O) (rest : contract.Assertion) : Prop where
  auth : ∀ (memory : Daemon) state auth rng, contract.Good memory state →
    rest.holds memory state → Rng.Advances memory.rng rng →
    contract.given { memory with auth := auth, rng := rng } state →
    contract.guarantee memory state { memory with auth := auth, rng := rng } state ∧
      contract.always { memory with auth := auth, rng := rng } state ∧
      rest.holds { memory with auth := auth, rng := rng } state
  pairingFile : ∀ body outcome reply memory state state', contract.Good memory state →
    rest.holds memory state →
    answer (.writePairingFile body) outcome state = some (reply, state') →
    contract.assume.reply (.writePairingFile body) outcome memory state →
    contract.given memory state' →
    contract.guarantee memory state memory state' ∧ contract.always memory state' ∧
      rest.holds memory state'

namespace Blind

variable {rest : contract.Assertion}

theorem withAuth {α : Type} (total : contract.Total) (blind : Blind contract answer rest)
    (body : Daemon → AuthState → α × AuthState) :
    contract.Spec answer rest (sync fun daemon => daemon.withAuth (body daemon) : Routine α)
      fun _ => rest :=
  Spec.transact total fun memory state good satisfied _ given =>
    blind.auth memory state _ memory.rng good satisfied (.refl _) given

theorem rotatePairing_advances (state : AuthState) (rng : Rng) :
    Rng.Advances rng (AuthManager.rotatePairing state rng).2.2 := by
  unfold AuthManager.rotatePairing
  rcases draw : rng.randomBytes with ⟨_ | raw, rng'⟩
  · exact .randomBytes draw
  · exact .randomBytes draw

theorem rotatePairingMaterial (total : contract.Total) (blind : Blind contract answer rest)
    (app : AppState) :
    contract.Spec answer rest app.rotatePairingMaterial fun _ => rest := by
  have rotate : contract.Spec answer rest
      (sync fun daemon => daemon.withAuthAndRng AuthManager.rotatePairing :
        Routine (Option PairingMaterial)) fun _ => rest := by
    apply Spec.transact total
    intro memory state good satisfied _ given
    exact blind.auth memory state _ _ good satisfied (rotatePairing_advances _ _) given
  apply Spec.bind rotate
  intro pairing
  cases pairing with
  | none => exact Spec.done fun _ _ _ satisfied => satisfied
  | some pairing =>
      have write : contract.Spec answer rest (Routine.writePairingFile
          (AuthManager.pairingFileBody pairing app.publicBaseUrl)) fun _ => rest := by
        apply Spec.ask total
        intro memory state good satisfied outcome reply state' answered assumed given
        exact blind.pairingFile _ outcome reply memory state state' good satisfied answered assumed
          given
      apply Spec.bind write
      intro reply
      cases reply with
      | ok _ => exact Spec.done fun _ _ _ satisfied => satisfied
      | error _ =>
          apply Spec.bind (blind.withAuth total fun _ auth =>
            ((), AuthManager.invalidateUnpublishedPairing auth))
          exact fun _ => Spec.done fun _ _ _ satisfied => satisfied

theorem revokeAndRotate (total : contract.Total) (blind : Blind contract answer rest)
    (app : AppState) : contract.Spec answer rest app.revokeAndRotate fun _ => rest :=
  Spec.bind (blind.withAuth total fun _ auth => ((), AuthManager.revokeAll auth)) fun _ =>
    blind.rotatePairingMaterial total app

end Blind

namespace SessionSpecs

variable {rest : contract.Assertion}

/-- The revocation and the rotation that follow a burn, with what is made of
their result. -/
theorem revokeAfter {α : Type} {finish : Except AppError Unit → Routine α}
    (specs : SessionSpecs contract answer app.sessions rest) (blind : Blind contract answer rest)
    (finishes : ∀ pairingResult, ∃ result, finish pairingResult = .done result) :
    contract.Spec answer rest (app.revokeAndRotate >>= finish) fun _ => rest := by
  apply Spec.bind (blind.revokeAndRotate specs.quiet.toTotal app)
  intro pairingResult
  rcases finishes pairingResult with ⟨result, finished⟩
  rw [finished]
  exact Spec.done fun _ _ _ satisfied => satisfied

theorem burnAndRotate (specs : SessionSpecs contract answer app.sessions rest)
    (blind : Blind contract answer rest) (controller : Option Uuid) :
    contract.Spec answer rest (app.burnAndRotate controller) fun _ => rest := by
  cases controller with
  | none =>
      apply Spec.bind specs.forceBurn
      intro burnResult
      apply specs.revokeAfter blind
      intro pairingResult
      cases burnResult <;> cases pairingResult <;> exact ⟨_, rfl⟩
  | some client =>
      apply Spec.bind (specs.burn client)
      intro burnResult
      apply specs.revokeAfter blind
      intro pairingResult
      cases burnResult <;> cases pairingResult <;> exact ⟨_, rfl⟩

theorem autoBurnIfDue (specs : SessionSpecs contract answer app.sessions rest)
    (blind : Blind contract answer rest) :
    contract.Spec answer rest app.autoBurnIfDue fun _ => rest := by
  have look : ∀ {α : Type} (value : Daemon → α),
      contract.Spec answer rest (read value : Routine α) fun _ => rest := fun _ =>
    Spec.read specs.quiet.toTotal specs.reflexive fun _ _ _ satisfied => satisfied
  apply Spec.bind (look _)
  intro snapshot
  dsimp only
  split
  · exact Spec.done fun _ _ _ satisfied => satisfied
  · apply Spec.bind (look _)
    intro idleFor
    split
    · exact Spec.done fun _ _ _ satisfied => satisfied
    · apply Spec.bind (specs.burnAndRotate blind none)
      intro result
      cases result <;> exact Spec.done fun _ _ _ satisfied => satisfied

theorem recoverExpiredAuth (specs : SessionSpecs contract answer app.sessions rest)
    (blind : Blind contract answer rest) :
    contract.Spec answer rest app.recoverExpiredAuth fun _ => rest := by
  apply Spec.bind (blind.withAuth specs.quiet.toTotal fun daemon =>
    AuthManager.pairingRecoveryRequired daemon.now)
  intro required
  cases required with
  | false => exact Spec.done fun _ _ _ satisfied => satisfied
  | true =>
      have look : contract.Spec answer rest
          (read (·.session.snapshot) : Routine SessionSnapshot) fun _ => rest :=
        Spec.read specs.quiet.toTotal specs.reflexive fun _ _ _ satisfied => satisfied
      apply Spec.bind look
      intro snapshot
      dsimp only
      split
      · apply specs.revokeAfter blind
        intro pairingResult
        cases pairingResult <;> exact ⟨_, rfl⟩
      · apply Spec.bind specs.forceBurn
        intro burnResult
        apply specs.revokeAfter blind
        intro pairingResult
        cases burnResult <;> cases pairingResult <;> exact ⟨_, rfl⟩

/-- The contract holds in every run of the service. -/
theorem established_service (specs : SessionSpecs contract answer app.sessions rest)
    (blind : Blind contract answer rest) (interference : Interference contract world) :
    contract.Established (app.service answer world) := by
  have validate : ∀ context, contract.Spec answer rest (AppState.validateContext context)
      fun _ => rest := fun context =>
    blind.withAuth specs.quiet.toTotal fun daemon =>
      AuthManager.validateContext daemon.now context
  have named : ∀ id, contract.Spec answer rest (AppState.requireSessionId id)
      fun _ => rest := fun _ =>
    Spec.read specs.quiet.toTotal specs.reflexive fun _ _ _ satisfied => satisfied
  have guarded : ∀ context id (program : Routine (Except AppError SessionSnapshot)),
      contract.Spec answer rest program (fun _ => rest) →
      contract.Spec answer rest
        ((AppState.validateContext context).andThen fun _ =>
          (AppState.requireSessionId id).andThen fun _ => program) fun _ => rest :=
    fun context id program spec =>
      Spec.andThen (validate context) (fun _ _ _ _ satisfied => satisfied) fun _ =>
        Spec.andThen (named id) (fun _ _ _ _ satisfied => satisfied) fun _ => spec
  apply specs.established_of_operations interference
  intro op
  cases op with
  | startSession context url =>
      exact wrap (Spec.andThen (validate context) (fun _ _ _ _ satisfied => satisfied) fun _ =>
        specs.start context.clientId url)
  | navigate context id command => exact wrap (guarded _ _ _ (specs.navigate _ command))
  | switchEgress context id mode => exact wrap (guarded _ _ _ (specs.switchEgress _ mode))
  | burnControllerSession context id =>
      exact wrap (guarded _ _ _ (specs.burnAndRotate blind (some context.clientId)))
  | autoBurnIfDue => exact wrap (specs.autoBurnIfDue blind)
  | recoverExpiredAuth => exact wrap (specs.recoverExpiredAuth blind)

end SessionSpecs

end XanhTab
