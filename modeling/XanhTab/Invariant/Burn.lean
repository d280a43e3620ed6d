import XanhTab.Daemon.Ledger
import XanhTab.Invariant.Lease
import XanhTab.Invariant.Revocation

/-!
# What a burn leaves behind

The operations that end a session, followed from their first step to their last
while requests go on between their steps.
-/

namespace XanhTab

open Program Contract Transition

/-! ## Which operations burn -/

/-- The operation finds in this state that it has to burn. -/
def Lifecycle.Decides (daemon : Daemon) : Lifecycle → Prop
  | .burnControllerSession context expectedId =>
      (AuthManager.validateContext daemon.now context daemon.auth).1 = .ok () ∧
        daemon.session.snapshot.id = some expectedId
  | .autoBurnIfDue =>
      daemon.session.snapshot.phase = .active ∧
        Duration.ofSeconds daemon.session.snapshot.autoBurnSeconds ≠ 0 ∧
        Duration.ofSeconds daemon.session.snapshot.autoBurnSeconds ≤
          daemon.now - daemon.session.lastActivity
  | .recoverExpiredAuth =>
      (AuthManager.pairingRecoveryRequired daemon.now daemon.auth).1 = true
  | _ => False

/-- The response of an operation that passed its guards and had to burn. -/
def Lifecycle.Burns : Lifecycle → Response → Prop
  | .burnControllerSession _ _, .snapshot result =>
      result ≠ .error .unauthorized ∧ result ≠ .error .notFound
  | .autoBurnIfDue, .flag result | .recoverExpiredAuth, .flag result => result ≠ .ok false
  | _, _ => False

/-! ## What is left behind -/

/-- The calls of a burn to its backends. -/
def cleanup : List Call :=
  [.browserStop, .egressReset, .clearRuntimeDir]

/-- Every cleanup step was attempted once, the phase tells whether all of them
succeeded, and nothing of the session is left. -/
structure Cleaned (app : AppState) {W : Type} (calls written : List (Call × Bool))
    (daemon : Daemon) (ledger : Ledger W) : Prop where
  attempts : ∃ results : List (Call × Bool), results.map Prod.fst = cleanup ∧
    ledger.calls = calls ++ results ++ written ∧
    daemon.session.snapshot.phase = if results.all Prod.snd then .idle else .failed
  controller : daemon.session.controller = none
  history : daemon.session.history = []
  settings : daemon.session.snapshot.Initial app.sessions

namespace Cleaned

variable {app : AppState} {W : Type} {calls written : List (Call × Bool)}
  {daemon daemon' : Daemon} {ledger ledger' : Ledger W}

theorem carry (cleaned : Cleaned app calls written daemon ledger)
    (session : daemon'.session = daemon.session) : Cleaned app calls written daemon' ledger where
  attempts := by rw [session]; exact cleaned.attempts
  controller := by rw [session]; exact cleaned.controller
  history := by rw [session]; exact cleaned.history
  settings := by rw [session]; exact cleaned.settings

/-- The pairing file may be written after a burn. -/
theorem write (cleaned : Cleaned app calls [] daemon ledger)
    (noted : ledger'.calls = ledger.calls ++ written) :
    Cleaned app calls written daemon ledger' where
  attempts := by
    rcases cleaned.attempts with ⟨results, steps, attempted, phase⟩
    refine ⟨results, steps, ?_, phase⟩
    rw [noted, attempted, List.append_nil]
  controller := cleaned.controller
  history := cleaned.history
  settings := cleaned.settings

end Cleaned

/-- A pairing drawn after the moment can be redeemed, and the file holds both of its codes. -/
def Republished (app : AppState) {W : Type} (moment : Rng) (daemon : Daemon)
    (ledger : Ledger W) : Prop :=
  ∃ position bytes, moment.draws ≤ position ∧ daemon.rng.tape position = some bytes ∧
    daemon.auth.pairingHash = some (hash (Encoding.urlSafeNoPad bytes)) ∧
    daemon.auth.manualPairingHash = some (hash (Encoding.groupManualCode bytes)) ∧
    ledger.pairingFile = some (app.pairingText bytes) ∧
    app.Publishes bytes (app.pairingText bytes)

/-- Pairing starts anew, waits for the watchdog, or has been taken up already by
a new client, for which another task must have run. -/
inductive Repairing (app : AppState) {W : Type} (alone : Prop) (moment : Rng) (daemon : Daemon)
    (ledger : Ledger W) : Prop
  | republished : Republished app moment daemon ledger →
      Repairing app alone moment daemon ledger
  | recovery : (AuthManager.pairingRecoveryRequired daemon.now daemon.auth).1 = true →
      Repairing app alone moment daemon ledger
  | taken (entry : Digest × AuthSession) : ¬ alone → entry ∈ daemon.auth.sessions →
      ¬ moment.Taken entry.2.clientId → Repairing app alone moment daemon ledger

/-! ## The contract of an operation that is followed -/

/-- When the operation runs alone, nothing changes between its steps. -/
def burnContract (app : AppState) (alone : Prop) (W O : Type) :
    Contract Daemon Call Response (Ledger W) O where
  given daemon _ := daemon.session.WellFormed app.sessions ∧ Agreement daemon
  rely before ledger after ledger' :=
    (SettingsStep before.session after.session ∧
      AuthStep before.now before.rng after.rng before.auth after.auth) ∧
    ledger'.calls = ledger.calls ∧ (alone → after = before)

namespace burnContract

variable {app : AppState} {alone : Prop} {W O N : Type} {answer : Answer Call Call.Reply W O}

theorem quiet : (burnContract app alone W O).Quiet where
  rest _ _ _ _ := trivial
  unread _ _ _ _ _ := trivial
  publish _ _ _ _ _ _ := ⟨trivial, trivial⟩

/-! ### Assertions -/

/-- Since the moment the random source has only advanced, and these are the
calls. -/
def Since (moment : Rng) (calls : List (Call × Bool)) (daemon : Daemon)
    (ledger : Ledger W) : Prop :=
  Rng.Advances moment daemon.rng ∧ ledger.calls = calls

theorem since_stable (moment : Rng) (calls : List (Call × Bool)) :
    (burnContract app alone W O).Stable (Since moment calls) :=
  fun _ _ _ _ _ relied _ holds =>
    ⟨holds.1.trans relied.1.2.advances, relied.2.1.trans holds.2⟩

theorem occupied_stable : (burnContract app alone W O).Stable fun daemon _ => Occupied daemon :=
  fun _ _ _ _ _ relied _ holds => relied.1.2.occupied holds

theorem busy_stable :
    (burnContract app alone W O).Stable fun daemon _ => daemon.session.snapshot.phase ≠ .idle := by
  intro _ _ _ _ _ relied _ holds
  rw [relied.1.1.phase]
  exact holds

/-- A fact about the state that is only claimed when the operation runs alone. -/
theorem alone_stable (fact : Daemon → Prop) :
    (burnContract app alone W O).Stable fun daemon _ => alone → fact daemon := by
  intro _ _ _ _ _ relied _ holds by_itself
  rw [relied.2.2 by_itself]
  exact holds by_itself

theorem cleaned_stable (calls written : List (Call × Bool)) :
    (burnContract app alone W O).Stable (Cleaned app calls written) := by
  intro daemon _ daemon' _ _ relied _ holds
  rcases holds.attempts with ⟨results, steps, noted, phase⟩
  have inactive : daemon.session.snapshot.phase ≠ .active := by
    rw [phase]
    split <;> exact nofun
  have same := relied.1.1.eq_of_inactive inactive
  constructor
  · exact ⟨results, steps, relied.2.1.trans noted, by rw [same]; exact phase⟩
  · rw [same]; exact holds.controller
  · rw [same]; exact holds.history
  · rw [same]; exact holds.settings

theorem renewed_stable (moment : Rng) :
    (burnContract app alone W O).Stable fun daemon _ => Renewed moment daemon :=
  fun _ _ _ _ _ relied _ holds => holds.auth relied.1.2

/-- An operation has started. -/
def started (moment : Rng) (calls : List (Call × Bool)) (fact : Daemon → Prop) :
    (burnContract app alone W O).Assertion where
  holds daemon ledger := Since moment calls daemon ledger ∧ (alone → fact daemon)
  stable := Stable.and (since_stable _ _) (alone_stable _)

/-- An operation has started while there is a session. -/
def running (moment : Rng) (calls : List (Call × Bool)) (fact : Daemon → Prop) :
    (burnContract app alone W O).Assertion where
  holds daemon ledger := (Since moment calls daemon ledger ∧
    daemon.session.snapshot.phase ≠ .idle) ∧ (alone → fact daemon)
  stable := Stable.and (Stable.and (since_stable _ _) busy_stable) (alone_stable _)

/-- A burn is about to begin. -/
def occupied (moment : Rng) (calls : List (Call × Bool)) :
    (burnContract app alone W O).Assertion where
  holds daemon ledger := (Since moment calls daemon ledger ∧
    daemon.session.snapshot.phase ≠ .idle) ∧ Occupied daemon
  stable := Stable.and (Stable.and (since_stable _ _) busy_stable) occupied_stable

/-- Some cleanup steps of a burn have been attempted. -/
def cleaning (moment : Rng) (calls : List (Call × Bool)) (steps : List Call)
    (failures : List String) : (burnContract app alone W O).Assertion where
  holds daemon ledger := Occupied daemon ∧ ∃ results : List (Call × Bool),
    results.map Prod.fst = steps ∧ (failures = [] ↔ results.all Prod.snd = true) ∧
    Since moment (calls ++ results) daemon ledger
  stable := Stable.and occupied_stable fun _ _ _ _ good relied good' holds =>
    have ⟨results, attempted, failed, since⟩ := holds
    ⟨results, attempted, failed, since_stable _ _ good relied good' since⟩

/-- A burn has ended, with a result that is not that of a guard. -/
def burnt (moment : Rng) (calls : List (Call × Bool))
    (result : Except AppError SessionSnapshot) : (burnContract app alone W O).Assertion where
  holds daemon ledger := (Cleaned app calls [] daemon ledger ∧ Occupied daemon) ∧
    (Rng.Advances moment daemon.rng ∧
      result ≠ .error .unauthorized ∧ result ≠ .error .notFound)
  stable := Stable.and (Stable.and (cleaned_stable _ _) occupied_stable)
    (Stable.and (fun _ _ _ _ _ relied _ holds => holds.trans relied.1.2.advances)
      (stable_const _))

/-! ### The burn -/

theorem publish {event : String} {pre : (burnContract app alone W O).Assertion}
    (silent : pre.Silent) :
    (burnContract app alone W O).Spec (Ledger.answer answer) pre (SessionManager.publish event)
      fun _ => pre :=
  Spec.publish quiet (fun _ _ => trivial) silent

/-- Attempting one more cleanup step. -/
theorem attempt {moment : Rng} {calls : List (Call × Bool)} {awaits : Bool} {request : Call}
    {steps : List Call} {failures : List String} (texts : request.Reply → List String)
    (texts_eq_nil : ∀ reply, texts reply = [] ↔ request.succeeded reply = true) :
    (burnContract app alone W O).Spec (Ledger.answer answer)
      (cleaning moment calls steps failures)
      (.ask awaits request : Routine (Call.Reply request))
      fun reply => cleaning moment calls (steps ++ [request]) (failures ++ texts reply) := by
  apply Spec.ask quiet.toTotal
  rintro daemon ledger _ ⟨occupied, results, attempted, failed, since⟩ outcome reply ledger'
    answered _ _
  have noted := Ledger.calls_of_answer answered
  refine ⟨trivial, trivial, occupied, results ++ [(request, request.succeeded reply)], ?_, ?_,
    since.1, ?_⟩
  · rw [List.map_append, attempted]
    rfl
  · rw [List.append_eq_nil_iff, failed, texts_eq_nil]
    simp
  · rw [noted, since.2, List.append_assoc]

/-- The end of a burn, whatever the phase that it ends in. -/
theorem commitBurn {moment : Rng} {calls : List (Call × Bool)} {event : String}
    {update : Daemon → SessionData} {failures : List String}
    (result : SessionSnapshot → Except AppError SessionSnapshot)
    (phase : ∀ daemon, (update daemon).snapshot.phase =
      if failures = [] then SessionPhase.idle else .failed)
    (controller : ∀ daemon, (update daemon).controller = none)
    (history : ∀ daemon, (update daemon).history = [])
    (settings : ∀ daemon, (update daemon).snapshot.Initial app.sessions)
    (unguarded : ∀ snapshot,
      result snapshot ≠ .error .unauthorized ∧ result snapshot ≠ .error .notFound) :
    (burnContract app alone W O).Spec (Ledger.answer answer)
      (cleaning moment calls cleanup failures) (SessionManager.commit event update)
      fun snapshot => burnt moment calls (result snapshot) := by
  apply Spec.commit quiet
  · rintro snapshot event data daemon ledger ⟨⟨cleaned, occupied⟩, advances, unguarded⟩
    exact ⟨⟨⟨cleaned.attempts, cleaned.controller, cleaned.history, cleaned.settings⟩, occupied⟩,
      advances, unguarded⟩
  · rintro daemon ledger _ ⟨occupied, results, attempted, failed, since⟩ _ _
    refine ⟨trivial, trivial, ⟨⟨⟨results, attempted, ?_, ?_⟩, controller daemon, history daemon,
      settings daemon⟩, occupied⟩, since.1, unguarded _⟩
    · rw [List.append_nil]
      exact since.2
    · exact (phase daemon).trans (if_congr failed rfl rfl)

def burnOutline (moment : Rng) (calls : List (Call × Bool)) :
    BurnOutline (burnContract app alone W O) (Ledger.answer answer) app.sessions
      (occupied moment calls) (burnt moment calls) where
  burning := cleaning moment calls [] []
  resetting := cleaning moment calls [.browserStop]
  clearing := cleaning moment calls [.browserStop, .egressReset]
  burned := cleaning moment calls cleanup
  entry := by
    apply Spec.transactBy quiet.toTotal beginBurn_cases
    rintro daemon ledger _ ⟨⟨since, busy⟩, occupied⟩ after outcome _ _
    cases outcome with
    | idle phase => exact absurd phase busy
    | burning _ =>
        refine ⟨trivial, trivial, occupied, [], rfl, by simp, since.1, ?_⟩
        rw [List.append_nil]
        exact since.2
  announce := publish fun _ _ _ _ holds => holds
  stop := by
    apply Spec.relax (attempt (fun reply : Call.Reply .browserStop =>
      match reply with
      | .ok _ => []
      | .error error => ["browser stop: " ++ error.display]) ?_)
    · rintro (error | _) daemon ledger _ holds
      · exact holds
      · exact holds
    · rintro (error | _) <;> simp [Call.succeeded, Except.isOk, Except.toBool]
  reset failures := by
    apply Spec.relax (attempt (fun reply : Call.Reply .egressReset =>
      match reply with
      | .ok _ => []
      | .error error => ["egress reset: " ++ error.display]) ?_)
    · rintro (error | _) daemon ledger _ holds
      · exact holds
      · rw [List.append_nil] at holds
        exact holds
    · rintro (error | _) <;> simp [Call.succeeded, Except.isOk, Except.toBool]
  clear failures := by
    apply Spec.relax (attempt (fun reply : Call.Reply .clearRuntimeDir =>
      match reply with
      | .ok _ => []
      | .error error => ["session cleanup: " ++ error]) ?_)
    · rintro (error | _) daemon ledger _ holds
      · exact holds
      · rw [List.append_nil] at holds
        exact holds
    · rintro (error | _) <;> simp [Call.succeeded, Except.isOk, Except.toBool]
  idle := commitBurn .ok (fun _ => rfl) (fun _ => rfl) (fun _ => rfl)
    (fun _ => ⟨rfl, rfl, rfl, rfl⟩) fun _ => ⟨nofun, nofun⟩
  fail failures failed message :=
    commitBurn (fun _ => .error (.serviceUnavailable message))
      (fun _ => by rw [if_neg failed]; rfl) (fun _ => rfl) (fun _ => rfl)
      (fun _ => ⟨rfl, rfl, rfl, rfl⟩) fun _ => ⟨nofun, nofun⟩

/-! ### Revocation and rotation -/

/-- Everything is revoked, and no pairing can be redeemed. -/
def ended (moment : Rng) (calls written : List (Call × Bool)) :
    (burnContract app alone W O).Assertion where
  holds daemon ledger := (Cleaned app calls written daemon ledger ∧ Renewed moment daemon) ∧
    (Occupied daemon ∧ daemon.auth.sessions = [])
  stable := by
    refine Stable.and (Stable.and (cleaned_stable _ _) (renewed_stable _)) ?_
    rintro _ _ _ _ _ relied _ ⟨occupied, empty⟩
    have kept := relied.1.2.sublist_of_occupied occupied
    rw [empty] at kept
    exact ⟨relied.1.2.occupied occupied, List.sublist_nil.mp kept⟩

/-- The material was drawn after the moment. -/
def FreshMaterial (moment : Rng) (material : PairingMaterial) (daemon : Daemon) : Prop :=
  ∃ position bytes, moment.draws ≤ position ∧ daemon.rng.tape position = some bytes ∧
    material = ⟨Encoding.urlSafeNoPad bytes, Encoding.groupManualCode bytes⟩

/-- The pairing can be redeemed, or another task has taken it up. -/
def Offered (alone : Prop) (material : PairingMaterial) (daemon : Daemon) : Prop :=
  (daemon.auth.pairingHash = some (hash material.secret) ∧
    daemon.auth.manualPairingHash = some (hash material.manualCode)) ∨
  (Occupied daemon ∧ (alone → daemon.auth.sessions = []))

theorem offered_stable (material : PairingMaterial) :
    (burnContract app alone W O).Stable fun daemon _ => Offered alone material daemon := by
  rintro before _ after _ _ relied _ offered
  rcases offered with hashes | ⟨occupied, empty⟩
  · have consumed : after.auth.pairingHash = none → after.auth.manualPairingHash = none →
        Offered alone material after := by
      intro secret manual
      refine Or.inr ⟨pairingAvailable_eq_false_iff.mpr ⟨secret, manual⟩, fun by_itself => ?_⟩
      rw [relied.2.2 by_itself, hashes.1] at secret
      cases secret
    cases relied.1.2.identity with
    | drop secret manual _ _ => exact Or.inl ⟨secret.trans hashes.1, manual.trans hashes.2⟩
    | consume _ secret manual _ => exact consumed secret manual
    | exchange _ _ _ secret manual _ _ _ => exact consumed secret manual
  · refine Or.inr ⟨relied.1.2.occupied occupied, fun by_itself => ?_⟩
    rw [relied.2.2 by_itself]
    exact empty by_itself

/-- New pairing material has been drawn but not published. -/
def drawn (moment : Rng) (calls written : List (Call × Bool)) (material : PairingMaterial) :
    (burnContract app alone W O).Assertion where
  holds daemon ledger := (Cleaned app calls written daemon ledger ∧ Renewed moment daemon) ∧
    (FreshMaterial moment material daemon ∧ Offered alone material daemon)
  stable := by
    refine Stable.and (Stable.and (cleaned_stable _ _) (renewed_stable _))
      (Stable.and ?_ (offered_stable _))
    rintro _ _ _ _ _ relied _ ⟨position, bytes, after, read, equal⟩
    exact ⟨position, bytes, after, by rw [relied.1.2.advances.tape, read], equal⟩

/-- New pairing material could not be published. -/
def discarding (moment : Rng) (calls : List (Call × Bool)) (material : PairingMaterial) :
    (burnContract app alone W O).Assertion where
  holds daemon ledger := ∃ written : List (Call × Bool),
    (∀ entry ∈ written, ∃ body, entry.1 = .writePairingFile body) ∧
    (drawn moment calls written material :
      (burnContract app alone W O).Assertion).holds daemon ledger
  stable := by
    rintro _ _ _ _ good relied good' ⟨written, writes, left⟩
    exact ⟨written, writes, (drawn _ _ _ _).stable good relied good' left⟩

/-- Where a completed burn leaves the daemon. -/
def resumed (moment : Rng) (calls : List (Call × Bool)) :
    (burnContract app alone W O).Assertion where
  holds daemon ledger := ∃ written : List (Call × Bool),
    (∀ entry ∈ written, ∃ body, entry.1 = .writePairingFile body) ∧
    ((ended moment calls written : (burnContract app alone W O).Assertion).holds daemon ledger ∨
      ∃ material, (drawn moment calls written material :
          (burnContract app alone W O).Assertion).holds daemon ledger ∧
        ledger.pairingFile = some (AuthManager.pairingFileBody material app.publicBaseUrl))
  stable := by
    rintro _ ledger _ ledger' good relied good' ⟨written, writes, left | ⟨material, left, file⟩⟩
    · exact ⟨written, writes, Or.inl ((ended _ _ _).stable good relied good' left)⟩
    · refine ⟨written, writes, Or.inr ⟨material, (drawn _ _ _ _).stable good relied good' left, ?_⟩⟩
      unfold Ledger.pairingFile
      rw [relied.2.1]
      exact file

theorem rotatePairing (moment : Rng) (calls : List (Call × Bool)) :
    (burnContract app alone W O).Spec (Ledger.answer answer) (ended moment calls [])
      (sync fun daemon => daemon.withAuthAndRng AuthManager.rotatePairing :
        Routine (Option PairingMaterial))
      fun pairing => match pairing with
        | none => ended moment calls []
        | some material => drawn moment calls [] material := by
  apply Spec.transact quiet.toTotal
  rintro daemon ledger _ ⟨⟨cleaned, renewed⟩, occupied, empty⟩ _ _
  refine ⟨trivial, trivial, ?_⟩
  have later := renewed.lifecycle (.rotatePairing daemon)
  have kept : Cleaned app calls [] (daemon.withAuthAndRng AuthManager.rotatePairing).2 ledger :=
    cleaned.carry rfl
  unfold Daemon.withAuthAndRng AuthManager.rotatePairing at later kept ⊢
  rcases draw : daemon.rng.randomBytes with ⟨_ | raw, rng⟩
  · rw [draw] at later kept
    exact ⟨⟨kept, later⟩, occupied, empty⟩
  · rw [draw] at later kept
    refine ⟨⟨kept, later⟩, ⟨daemon.rng.draws, raw, renewed.advances.draws, ?_, rfl⟩,
      Or.inl ⟨rfl, rfl⟩⟩
    rcases Prod.mk.inj draw with ⟨read, rfl⟩
    exact read

theorem revokeAndRotate (moment : Rng) (calls : List (Call × Bool))
    (burnResult : Except AppError SessionSnapshot) :
    (burnContract app alone W O).Spec (Ledger.answer answer) (burnt moment calls burnResult)
      app.revokeAndRotate fun result => (resumed moment calls).also
        (result ≠ .error .unauthorized ∧ result ≠ .error .notFound) := by
  have revoke : (burnContract app alone W O).Spec (Ledger.answer answer)
      (burnt moment calls burnResult)
      (sync fun daemon => daemon.withAuth fun auth => ((), AuthManager.revokeAll auth) :
        Routine Unit) fun _ => ended moment calls [] := by
    apply Spec.transact quiet.toTotal
    rintro daemon ledger _ ⟨⟨cleaned, occupied⟩, advances, _⟩ _ _
    exact ⟨trivial, trivial, ⟨cleaned.carry rfl, .of_empty advances rfl rfl⟩, occupied, rfl⟩
  apply Spec.bind revoke
  intro _
  apply Spec.bind (rotatePairing moment calls)
  intro pairing
  cases pairing with
  | none =>
      exact Spec.done fun _ _ _ holds => ⟨⟨[], by simp, Or.inl holds⟩, nofun, nofun⟩
  | some material =>
      have write : (burnContract app alone W O).Spec (Ledger.answer answer)
          (drawn moment calls [] material)
          (Routine.writePairingFile (AuthManager.pairingFileBody material app.publicBaseUrl))
          (.either (fun _ => resumed moment calls) fun _ => discarding moment calls material) := by
        apply Spec.ask quiet.toTotal
        rintro daemon ledger _ ⟨⟨cleaned, renewed⟩, fresh, offered⟩ outcome reply ledger'
          answered _ _
        have noted := Ledger.calls_of_answer answered
        refine ⟨trivial, trivial, ?_⟩
        cases reply with
        | error error =>
            refine ⟨_, ?_, ⟨cleaned.write noted, renewed⟩, fresh, offered⟩
            exact fun entry member => ⟨_, congrArg Prod.fst (List.mem_singleton.mp member)⟩
        | ok _ =>
            refine ⟨_, ?_, Or.inr ⟨material, ⟨⟨cleaned.write noted, renewed⟩, fresh, offered⟩,
              Ledger.pairingFile_of_calls noted⟩⟩
            exact fun entry member => ⟨_, congrArg Prod.fst (List.mem_singleton.mp member)⟩
      apply Spec.bind write
      intro reply
      cases reply with
      | ok _ => exact Spec.done fun _ _ _ holds => ⟨holds, nofun, nofun⟩
      | error _ =>
          have invalidate : (burnContract app alone W O).Spec (Ledger.answer answer)
              (discarding moment calls material)
              (sync fun daemon => daemon.withAuth fun auth =>
                ((), AuthManager.invalidateUnpublishedPairing auth) : Routine Unit)
              fun _ => resumed moment calls := by
            apply Spec.transact quiet.toTotal
            rintro daemon ledger _ ⟨written, writes, ⟨cleaned, renewed⟩, _⟩ _ _
            exact ⟨trivial, trivial, written, writes, Or.inl ⟨⟨cleaned.carry rfl,
              .of_empty renewed.advances rfl rfl⟩, rfl, rfl⟩⟩
          apply Spec.bind invalidate
          exact fun _ => Spec.done fun _ _ _ holds => ⟨holds, nofun, nofun⟩

/-! ### The operations -/

/-- The operation returns, after a burn that is complete, with a result that is
not that of a guard. -/
def returned {α : Type} (success : SessionSnapshot → α) (moment : Rng)
    (calls : List (Call × Bool)) (result : Except AppError α) :
    (burnContract app alone W O).Assertion :=
  (resumed moment calls).also
    ((result ≠ .error .unauthorized ∧ result ≠ .error .notFound) ∧
      ∀ value, result = .ok value → ∃ snapshot, value = success snapshot)

/-- The operation returns: after a complete burn if it had to burn, and having
had to if it ran alone and was due. -/
def followed (due : Prop) (moment : Rng) (calls : List (Call × Bool)) (burns : Prop) :
    (burnContract app alone W O).Assertion where
  holds daemon ledger :=
    (burns → (resumed moment calls : (burnContract app alone W O).Assertion).holds daemon ledger) ∧
      (alone → due → burns)
  stable := Stable.and
    (fun _ _ _ _ good relied good' holds burns =>
      (resumed moment calls).stable good relied good' (holds burns))
    (stable_const _)

/-- The lease is held by the client, and a burn is about to begin. -/
def leading (client : Uuid) (moment : Rng) (calls : List (Call × Bool)) :
    (burnContract app alone W O).Assertion where
  holds daemon ledger := (Since moment calls daemon ledger ∧
    daemon.session.snapshot.phase ≠ .idle) ∧ (Occupied daemon ∧
      daemon.session.controller = some client)
  stable := Stable.and (Stable.and (since_stable _ _) busy_stable)
    (Stable.and occupied_stable fun _ _ _ _ _ relied _ holds =>
      relied.1.1.controller.trans holds)

/-- The client was found to be stored. -/
def validated (due : Prop) (client id : Uuid) (moment : Rng) (calls : List (Call × Bool)) :
    (burnContract app alone W O).Assertion where
  holds daemon ledger := (Since moment calls daemon ledger ∧ Entitled client daemon) ∧
    (alone → due → daemon.session.snapshot.id = some id)
  stable := by
    refine Stable.and (Stable.and (since_stable _ _) ?_)
      (alone_stable fun daemon => due → daemon.session.snapshot.id = some id)
    exact fun _ _ _ _ _ relied _ holds => holds.step relied.1.1 relied.1.2

theorem revokeAfter {α : Type} (moment : Rng) (calls : List (Call × Bool))
    (burnResult : Except AppError SessionSnapshot) (success : SessionSnapshot → α) :
    (burnContract app alone W O).Spec (Ledger.answer answer) (burnt moment calls burnResult)
      (do
        let pairingResult ← app.revokeAndRotate
        match burnResult, pairingResult with
        | .error error, _ => return Except.error error
        | .ok _, .error error => return Except.error error
        | .ok snapshot, .ok () => return Except.ok (success snapshot))
      (returned success moment calls) := by
  apply Triple.assuming fun _ _ _ holds => holds.2.2
  rintro ⟨authorized, found⟩
  apply Spec.bind (revokeAndRotate moment calls burnResult)
  intro pairingResult
  cases burnResult with
  | error error =>
      refine Spec.done fun _ _ _ holds => ⟨holds.1, ⟨?_, ?_⟩, nofun⟩
      · exact fun same => authorized (congrArg Except.error (Except.error.inj same))
      · exact fun same => found (congrArg Except.error (Except.error.inj same))
  | ok snapshot =>
      cases pairingResult with
      | error error =>
          refine Spec.done fun _ _ _ holds => ⟨holds.1, ⟨?_, ?_⟩, nofun⟩
          · exact fun same => holds.2.1 (congrArg Except.error (Except.error.inj same))
          · exact fun same => holds.2.2 (congrArg Except.error (Except.error.inj same))
      | ok _ =>
          exact Spec.done fun _ _ _ holds => ⟨holds.1, ⟨nofun, nofun⟩, fun _ same =>
            ⟨snapshot, (Except.ok.inj same).symm⟩⟩

theorem burnAndRotate (controller : Option Uuid) {moment : Rng} {calls : List (Call × Bool)}
    {pre : (burnContract app alone W O).Assertion}
    (burns : (burnContract app alone W O).Spec (Ledger.answer answer) pre
      (match controller with
        | some client => app.sessions.burn client
        | none => app.sessions.forceBurn) (burnt moment calls)) :
    (burnContract app alone W O).Spec (Ledger.answer answer) pre (app.burnAndRotate controller)
      (returned (fun snapshot => snapshot) moment calls) := by
  cases controller with
  | none =>
      exact Spec.bind burns fun burnResult =>
        revokeAfter moment calls burnResult fun snapshot => snapshot
  | some client =>
      exact Spec.bind burns fun burnResult =>
        revokeAfter moment calls burnResult fun snapshot => snapshot

theorem burn (client : Uuid) (moment : Rng) (calls : List (Call × Bool)) :
    (burnContract app alone W O).Spec (Ledger.answer answer) (leading client moment calls)
      (app.sessions.burn client) (burnt moment calls) := by
  have lease : (burnContract app alone W O).Spec (Ledger.answer answer)
      (leading client moment calls)
      (read fun daemon => ensureLease daemon.session client : Routine (Except AppError Unit))
      (.either (fun _ => occupied moment calls) fun _ => ⟨fun _ _ => False, stable_const _⟩) := by
    apply Spec.read quiet.toTotal fun _ _ => trivial
    rintro daemon ledger _ ⟨running, occupied, held⟩
    rw [ensureLease, if_pos held]
    exact ⟨running, occupied⟩
  apply Spec.bind lease
  intro result
  cases result with
  | error error => exact Spec.done fun _ _ _ impossible => impossible.elim
  | ok _ => exact (burnOutline moment calls).sound

/-- The burn that its controller asks for. -/
theorem burnControllerSession (due : Prop) (context : AuthContext) (id : Uuid) (moment : Rng)
    (calls : List (Call × Bool)) :
    (burnContract app alone W O).Spec (Ledger.answer answer)
      (started moment calls fun daemon =>
        due → (Lifecycle.burnControllerSession context id).Decides daemon)
      (app.burnControllerSession context id)
      fun result => followed due moment calls
        (result ≠ .error .unauthorized ∧ result ≠ .error .notFound) := by
  have validate : (burnContract app alone W O).Spec (Ledger.answer answer)
      (started moment calls fun daemon =>
        due → (Lifecycle.burnControllerSession context id).Decides daemon)
      (AppState.validateContext context)
      (.either (fun _ => validated due context.clientId id moment calls) fun error =>
        followed due moment calls (error ≠ .unauthorized ∧ error ≠ .notFound)) := by
    apply Spec.transact quiet.toTotal
    rintro daemon ledger good ⟨since, decides⟩ _ _
    refine ⟨trivial, trivial, ?_⟩
    cases valid : (AuthManager.validateContext daemon.now context daemon.auth).1 with
    | ok _ =>
        have entitled := leaseContract.entitled_of_validateContext good.1.2 valid
        simp only [Daemon.withAuth] at entitled ⊢
        rw [valid]
        exact ⟨⟨since, entitled⟩, fun by_itself wanted => (decides by_itself wanted).2⟩
    | error error =>
        have refused : error = .unauthorized := by
          unfold AuthManager.validateContext at valid
          dsimp only at valid
          split at valid
          · cases valid
          · cases valid
            rfl
        subst error
        simp only [Daemon.withAuth]
        rw [valid]
        refine ⟨fun passed => absurd rfl passed.1, fun by_itself wanted => ?_⟩
        have accepted := (decides by_itself wanted).1
        rw [valid] at accepted
        cases accepted
  have named : (burnContract app alone W O).Spec (Ledger.answer answer)
      (validated due context.clientId id moment calls) (AppState.requireSessionId id)
      (.either (fun _ => leading context.clientId moment calls) fun error =>
        followed due moment calls (error ≠ .unauthorized ∧ error ≠ .notFound)) := by
    apply Spec.read quiet.toTotal fun _ _ => trivial
    rintro daemon ledger good ⟨⟨since, entitled⟩, present⟩
    by_cases named : daemon.session.snapshot.id = some id
    · have held : daemon.session.controller.isSome = true := by
        rw [← good.1.1.identified, named]
        rfl
      rw [if_pos named]
      refine ⟨⟨since, fun idle => ?_⟩, entitled.occupied, ?_⟩
      · rw [(good.1.1.idle idle).1] at held
        cases held
      rcases entitled.lease with free | own
      · rw [free] at held
        cases held
      · exact own
    · rw [if_neg named]
      exact ⟨fun passed => absurd rfl passed.2,
        fun by_itself wanted => absurd (present by_itself wanted) named⟩
  have passed : ∀ error : AppError, error ≠ .unauthorized ∧ error ≠ .notFound ↔
      (.error error : Except AppError SessionSnapshot) ≠ .error .unauthorized ∧
        (.error error : Except AppError SessionSnapshot) ≠ .error .notFound := by
    simp
  refine Spec.andThen validate (fun error _ _ _ holds => ?_) fun _ => ?_
  · exact ⟨fun burns => holds.1 ((passed error).mpr burns),
      fun by_itself wanted => (passed error).mp (holds.2 by_itself wanted)⟩
  refine Spec.andThen named (fun error _ _ _ holds => ?_) fun _ => ?_
  · exact ⟨fun burns => holds.1 ((passed error).mpr burns),
      fun by_itself wanted => (passed error).mp (holds.2 by_itself wanted)⟩
  apply Spec.relax (burnAndRotate (some context.clientId) (burn context.clientId moment calls))
  exact fun _ _ _ _ holds => ⟨fun _ => holds.1, fun _ _ => holds.2.1⟩

/-- What the watchdog has seen of the session, before it looks at the clock. -/
def watching (due : Prop) (snapshot : SessionSnapshot) (moment : Rng)
    (calls : List (Call × Bool)) : (burnContract app alone W O).Assertion where
  holds daemon ledger := (Since moment calls daemon ledger ∧ (snapshot.phase = .active →
      daemon.session.snapshot.phase ≠ .idle ∧ Occupied daemon)) ∧
    (alone → due → Lifecycle.autoBurnIfDue.Decides daemon ∧ snapshot = daemon.session.snapshot)
  stable := by
    refine Stable.and (Stable.and (since_stable _ _) ?_)
      (alone_stable fun daemon => due →
        Lifecycle.autoBurnIfDue.Decides daemon ∧ snapshot = daemon.session.snapshot)
    intro _ _ _ _ _ relied _ holds active
    rw [relied.1.1.phase]
    exact ⟨(holds active).1, relied.1.2.occupied (holds active).2⟩

/-- The watchdog's burn of an idle client's session. -/
theorem autoBurnIfDue (due : Prop) (moment : Rng) (calls : List (Call × Bool)) :
    (burnContract app alone W O).Spec (Ledger.answer answer)
      (started moment calls fun daemon => due → Lifecycle.autoBurnIfDue.Decides daemon)
      app.autoBurnIfDue fun result => followed due moment calls (result ≠ .ok false) := by
  have look : (burnContract app alone W O).Spec (Ledger.answer answer)
      (started moment calls fun daemon => due → Lifecycle.autoBurnIfDue.Decides daemon)
      (read (·.session.snapshot) : Routine SessionSnapshot)
      fun snapshot => watching due snapshot moment calls := by
    apply Spec.read quiet.toTotal fun _ _ => trivial
    rintro daemon ledger good ⟨since, decides⟩
    refine ⟨⟨since, fun active => ⟨by simp [active], ?_⟩⟩,
      fun by_itself wanted => ⟨decides by_itself wanted, rfl⟩⟩
    refine Bool.eq_false_iff.mpr fun available => ?_
    rcases good.1.2.inactive available with idle | failed
    · cases active.symm.trans idle
    · cases active.symm.trans failed
  apply Spec.bind look
  intro snapshot
  dsimp only
  split
  · rename_i early
    refine Spec.done fun daemon _ _ holds =>
      ⟨fun burns => absurd rfl burns, fun by_itself wanted => ?_⟩
    rcases holds.2 by_itself wanted with ⟨⟨active, enabled, _⟩, rfl⟩
    exact absurd early (not_or.mpr ⟨not_not.mpr active, enabled⟩)
  · rename_i awake
    have active : snapshot.phase = .active := by_contra fun other => awake (Or.inl other)
    have watch : (burnContract app alone W O).Spec (Ledger.answer answer)
        (watching due snapshot moment calls)
        (read fun daemon => daemon.now - daemon.session.lastActivity : Routine Duration)
        fun idleFor => (occupied moment calls).also
          (alone → due → Duration.ofSeconds snapshot.autoBurnSeconds ≤ idleFor) := by
      apply Spec.read quiet.toTotal fun _ _ => trivial
      rintro daemon ledger _ ⟨⟨since, occupied⟩, decides⟩
      refine ⟨⟨⟨since, (occupied active).1⟩, (occupied active).2⟩, fun by_itself wanted => ?_⟩
      rcases decides by_itself wanted with ⟨⟨_, _, idle⟩, rfl⟩
      exact idle
    apply Spec.bind watch
    intro idleFor
    split
    · rename_i early
      exact Spec.done fun _ _ _ holds => ⟨fun burns => absurd rfl burns,
        fun by_itself wanted => absurd early (Nat.not_lt.mpr (holds.2 by_itself wanted))⟩
    · have burn : (burnContract app alone W O).Spec (Ledger.answer answer)
          ((occupied moment calls).also
            (alone → due → Duration.ofSeconds snapshot.autoBurnSeconds ≤ idleFor))
          app.sessions.forceBurn (burnt moment calls) :=
        Spec.weaken (burnOutline moment calls).sound fun _ _ _ holds => holds.1
      apply Spec.bind (burnAndRotate none burn)
      intro result
      cases result with
      | error error =>
          exact Spec.done fun _ _ _ holds => ⟨fun _ => holds.1, fun _ _ => by simp⟩
      | ok _ => exact Spec.done fun _ _ _ holds => ⟨fun _ => holds.1, fun _ _ => by simp⟩

/-- What the recovery knows once it has asked whether it is required. -/
def asked (due : Prop) (moment : Rng) (calls : List (Call × Bool)) :
    Bool → (burnContract app alone W O).Assertion
  | true => occupied moment calls
  | false => ⟨fun _ _ => alone → ¬ due, stable_const _⟩

/-- The watchdog's burn of a session whose client has expired. -/
theorem recoverExpiredAuth (due : Prop) (moment : Rng) (calls : List (Call × Bool)) :
    (burnContract app alone W O).Spec (Ledger.answer answer)
      (running moment calls fun daemon => due → Lifecycle.recoverExpiredAuth.Decides daemon)
      app.recoverExpiredAuth fun result => followed due moment calls (result ≠ .ok false) := by
  have require : (burnContract app alone W O).Spec (Ledger.answer answer)
      (running moment calls fun daemon => due → Lifecycle.recoverExpiredAuth.Decides daemon)
      (sync fun daemon => daemon.withAuth (AuthManager.pairingRecoveryRequired daemon.now) :
        Routine Bool)
      (asked due moment calls) := by
    apply Spec.transact quiet.toTotal
    rintro daemon ledger _ ⟨running, decides⟩ _ _
    refine ⟨trivial, trivial, ?_⟩
    simp only [Daemon.withAuth]
    cases required : (AuthManager.pairingRecoveryRequired daemon.now daemon.auth).1 with
    | true =>
        refine ⟨running, ?_⟩
        simp only [AuthManager.pairingRecoveryRequired, Bool.and_eq_true,
          Option.isNone_iff_eq_none] at required
        exact pairingAvailable_eq_false_iff.mpr ⟨required.1.1.2, required.1.2⟩
    | false =>
        intro by_itself wanted
        cases required.symm.trans (decides by_itself wanted)
  apply Spec.bind require
  intro required
  cases required with
  | false =>
      exact Spec.done fun _ _ _ holds => ⟨fun burns => absurd rfl burns,
        fun by_itself wanted => absurd wanted (holds by_itself)⟩
  | true =>
      have look : (burnContract app alone W O).Spec (Ledger.answer answer)
          (occupied moment calls) (read (·.session.snapshot) : Routine SessionSnapshot)
          fun snapshot => (occupied moment calls).also (snapshot.phase ≠ .idle) :=
        Spec.read quiet.toTotal (fun _ _ => trivial) fun _ _ _ holds => ⟨holds, holds.1.2⟩
      apply Spec.bind look
      intro snapshot
      apply Triple.assuming fun _ _ _ holds => holds.2
      intro busy
      dsimp only
      rw [if_neg busy]
      have burn : (burnContract app alone W O).Spec (Ledger.answer answer)
          ((occupied moment calls).also (snapshot.phase ≠ .idle)) app.sessions.forceBurn
          (burnt moment calls) :=
        Spec.weaken (burnOutline moment calls).sound fun _ _ _ holds => holds.1
      apply Spec.bind burn
      intro burnResult
      apply Spec.relax (revokeAfter moment calls burnResult fun _ => true)
      intro result _ _ _ holds
      refine ⟨fun _ => holds.1, fun _ _ same => ?_⟩
      rcases holds.2.2 false same with ⟨_, impossible⟩
      cases impossible

/-- The first step of the operation is about to be taken. -/
def opening (op : Lifecycle) (due : Prop) (moment : Rng) (calls : List (Call × Bool)) :
    (burnContract app alone W O).Assertion where
  holds daemon ledger := (Since moment calls daemon ledger ∧
    (op = .recoverExpiredAuth → daemon.session.snapshot.phase ≠ .idle)) ∧
      (alone → due → op.Decides daemon)
  stable := by
    refine Stable.and (Stable.and (since_stable _ _) ?_)
      (alone_stable fun daemon => due → op.Decides daemon)
    intro _ _ _ _ good relied good' holds recovers
    exact busy_stable good relied good' (holds recovers)

/-- Every operation that may have to burn does so completely. -/
theorem lifecycle (op : Lifecycle)
    (ending : (∃ response, op.Burns response) ∨ ∃ daemon, op.Decides daemon) (due : Prop)
    (moment : Rng) (calls : List (Call × Bool)) :
    (burnContract app alone W O).Spec (Ledger.answer answer) (opening op due moment calls)
      (app.lifecycle op) fun response => followed due moment calls (op.Burns response) := by
  cases op with
  | startSession | navigate | switchEgress =>
      rcases ending with ⟨response, burns⟩ | ⟨daemon, decides⟩
      · exact burns.elim
      · exact decides.elim
  | burnControllerSession context id =>
      apply Spec.bind (Spec.weaken (burnControllerSession due context id moment calls)
        fun daemon ledger _ (holds : ((opening _ due moment calls :
          (burnContract app alone W O).Assertion).holds daemon ledger)) => ⟨holds.1.1, holds.2⟩)
      exact fun _ => Spec.done fun _ _ _ holds => holds
  | autoBurnIfDue =>
      apply Spec.bind (Spec.weaken (autoBurnIfDue due moment calls)
        fun daemon ledger _ (holds : ((opening _ due moment calls :
          (burnContract app alone W O).Assertion).holds daemon ledger)) => ⟨holds.1.1, holds.2⟩)
      exact fun _ => Spec.done fun _ _ _ holds => holds
  | recoverExpiredAuth =>
      apply Spec.bind (Spec.weaken (recoverExpiredAuth due moment calls)
        fun daemon ledger _ (holds : ((opening _ due moment calls :
          (burnContract app alone W O).Assertion).holds daemon ledger)) =>
          ⟨⟨holds.1.1, holds.1.2 rfl⟩, holds.2⟩)
      exact fun _ => Spec.done fun _ _ _ holds => holds

end burnContract

/-! ## The result -/

/-- What a burn that has run to its end leaves behind. -/
structure BurnComplete (app : AppState) {W : Type} (alone : Prop) (before : Daemon)
    (ledger : Ledger W) (after : Daemon) (ledger' : Ledger W) : Prop where
  cleaned : ∃ written : List (Call × Bool),
    (∀ entry ∈ written, ∃ body, entry.1 = .writePairingFile body) ∧
    Cleaned app ledger.calls written after ledger'
  renewed : Renewed before.rng after
  repairing : Repairing app alone before.rng after ledger'

theorem BurnComplete.of_resumed {app : AppState} {W O : Type} {alone : Prop} {before after : Daemon}
    {ledger ledger' : Ledger W} (agreement : Agreement after) (bound : after.rng.draws < 2 ^ 64)
    (resumed : (burnContract.resumed before.rng ledger.calls :
      (burnContract app alone W O).Assertion).holds after ledger') :
    BurnComplete app alone before ledger after ledger' := by
  rcases resumed with ⟨written, writes, ended | ⟨material, drawn, file⟩⟩
  · rcases ended with ⟨⟨cleaned, renewed⟩, occupied, empty⟩
    exact ⟨⟨written, writes, cleaned⟩, renewed,
      .recovery (agreement.recoveryRequired bound occupied empty)⟩
  · rcases drawn with ⟨⟨cleaned, renewed⟩, ⟨position, bytes, fresh, read, rfl⟩, offered⟩
    refine ⟨⟨written, writes, cleaned⟩, renewed, ?_⟩
    rcases offered with hashes | ⟨occupied, untouched⟩
    · exact .republished ⟨position, bytes, fresh, read, hashes.1, hashes.2, file,
        app.publishes_pairingText bytes⟩
    · cases stored : after.auth.sessions with
      | nil => exact .recovery (agreement.recoveryRequired bound occupied stored)
      | cons entry rest =>
          have member : entry ∈ after.auth.sessions := by rw [stored]; exact List.mem_cons_self
          refine .taken entry (fun by_itself => ?_) member (renewed.sessions entry member).2.2
          rw [untouched by_itself] at stored
          cases stored

section Runs

variable {app : AppState} {W O N : Type} {answer : Answer Call Call.Reply W O}
  {world : N → Daemon → W → Option W} {daemon : Daemon} {ledger : Ledger W}
  {config config' : Config Daemon Call Call.Reply Response (Ledger W)}

/-- Between the steps of an operation the requests and the environment keep to
what it relies on. -/
theorem burnContract.relied {alone : Prop}
    {label : Pool.Label Lifecycle Request (Environment N) O}
    (framed : config.Framed LifecycleStep RequestStep) (continues : label.Continues)
    (foreign : ¬ label.Own) (accompanied : ¬ alone)
    (step : (app.ledgerService answer world).step config label = some config') :
    (burnContract app alone W O).rely config.memory config.world config'.memory config'.world := by
  have beside := beside_of_step framed continues foreign step
  exact ⟨⟨beside.session, beside.auth⟩, beside.calls, fun by_itself =>
    absurd by_itself accompanied⟩

/-- An operation that ends a session runs to its end: with every cleanup step
attempted once, the phase telling whether all of them succeeded, nothing of the
session left, and nothing issued before it accepted ever again.  Either the
daemon can be paired anew, or the watchdog will see to that. -/
theorem burn_completes_of_reaches {op : Lifecycle}
    {labels : List (Pool.Label Lifecycle Request (Environment N) O)} {response : Response}
    (booted : app.Booted daemon) (distinct : daemon.rng.Distinct)
    (reaches : (app.ledgerService answer world).Reaches (.idle daemon ledger) config)
    (executed : run (app.ledgerService answer world).step config (.start op :: labels) =
      some config')
    (continues : ∀ label ∈ labels, label.Continues)
    (finished : config'.holder = some (.done response))
    (burns : op.Burns response ∨ (∀ label ∈ labels, label.Own) ∧ op.Decides config.memory)
    (busy : op = .recoverExpiredAuth → config.memory.session.snapshot.phase ≠ .idle)
    (bound : config'.memory.rng.draws < 2 ^ 64) :
    BurnComplete app (∀ label ∈ labels, label.Own) config.memory config.world config'.memory
        config'.world ∧
      ∀ later, (app.ledgerService answer world).Reaches config' later →
        Refused app.auth config.memory.rng later.memory.auth := by
  have framed : ∀ {visited},
      (app.ledgerService answer world).Reaches (.idle daemon ledger) visited →
      visited.Framed LifecycleStep RequestStep := fun visit =>
    (service_framed app (Ledger.answer answer) (Ledger.noise world)).reaches (.idle daemon ledger)
      visit
  have agreed : ∀ {visited},
      (app.ledgerService answer world).Reaches (.idle daemon ledger) visited →
      visited.memory.session.WellFormed app.sessions ∧ Agreement visited.memory := fun visit =>
    ⟨wellFormed_of_reaches booted visit, (leaseContract.holds_of_reaches booted visit).good.2⟩
  have reaches' := reaches.trans (reachable_of_run executed)
  have ending : (∃ response, op.Burns response) ∨ ∃ daemon, op.Decides daemon :=
    burns.imp (fun burnt => ⟨response, burnt⟩) fun due => ⟨config.memory, due.2⟩
  -- The contract knows whether the operation runs alone.
  have spec : (burnContract app (∀ label ∈ labels, label.Own) W O).Spec (Ledger.answer answer)
      (burnContract.opening op (op.Decides config.memory) config.memory.rng config.world.calls)
      (app.lifecycle op) fun response => burnContract.followed (op.Decides config.memory)
        config.memory.rng config.world.calls (op.Burns response) :=
    burnContract.lifecycle op ending _ _ _
  have returned := spec.follow (app.ledgerService answer world)
    ((app.ledgerService answer world).Reaches (.idle daemon ledger)) executed continues finished
    ⟨⟨⟨.refl _, rfl⟩, busy⟩, fun _ due => due⟩ reaches
    (fun _ _ _ visited step => visited.tail trivial step)
    (fun _ visited => ⟨agreed visited, trivial⟩)
    (fun _ _ _ => Assumptions.free_allowed _ _)
    fun label member foreign _ _ visited step =>
      burnContract.relied (framed visited) (continues label member) foreign
        (fun alone => foreign (alone label member)) step
  have complete : BurnComplete app (∀ label ∈ labels, label.Own) config.memory config.world
      config'.memory config'.world := by
    apply BurnComplete.of_resumed (agreed reaches').2 bound
    apply returned.1
    rcases burns with burnt | ⟨alone, due⟩
    · exact burnt
    · exact returned.2 alone due
  refine ⟨complete, fun later onwards => ?_⟩
  have renewed := (Renewed.persistent config.memory.rng).reaches complete.renewed (framed reaches')
    onwards
  refine renewed.refused ?_ app.auth
  intro first second bytes
  rw [((advances_persistent daemon.rng).reaches (.refl _) (.idle daemon ledger) reaches).tape]
  exact distinct first second bytes

end Runs

namespace Sample

/-- The steps of a burn in which the policy cannot be reset. -/
def failingBurn : List (ServiceLabel Bool Empty) :=
  List.replicate 6 (.step none) ++
    [.step (some true), .step (some false), .step (some true)] ++
    List.replicate 4 (.step none) ++ [.step (some true)]

end Sample

/-- The first client burns its session, and the policy cannot be reset. -/
theorem burn_completes_of_openSession :
    ∃ before after : Config Daemon Call Call.Reply Response (Ledger Unit),
      before.memory.session.snapshot.phase = .active ∧
      after.memory.session.snapshot.phase = .failed ∧
      BurnComplete Sample.app (∀ label ∈ Sample.failingBurn, label.Own) before.memory before.world
        after.memory after.world := by
  have executed : ((run (Sample.app.ledgerService Sample.told AppState.still).step
      (.idle Sample.daemon ⟨[], ()⟩) (Sample.openSession true 8 ++ [.finish])).bind fun before =>
        (run (Sample.app.ledgerService Sample.told AppState.still).step before
          (.start (.burnControllerSession ⟨0, 1⟩ 1) :: Sample.failingBurn)).map fun after =>
            (before.memory.session.snapshot.phase, after.memory.session.snapshot.phase,
              after.memory.rng.draws, after.result.bind Response.refusal)) =
      some (.active, .failed, 4, some
        (.serviceUnavailable "egress reset: dependency unavailable: told")) := by
    decide +kernel
  rcases Option.bind_eq_some_iff.mp executed with ⟨before, reached, rest⟩
  rcases Option.map_eq_some_iff.mp rest with ⟨after, burned, values⟩
  simp only [Prod.mk.injEq] at values
  rcases values with ⟨active, failed, draws, result⟩
  rcases Option.bind_eq_some_iff.mp result with ⟨response, finished, refused⟩
  rw [Response.eq_of_refusal refused] at finished
  refine ⟨before, after, active, failed, ?_⟩
  refine (burn_completes_of_reaches Sample.daemon_booted Sample.rng_distinct
    (reachable_of_run reached) burned ?_ (Config.holder_of_result finished)
    (Or.inl ⟨by simp, by simp⟩) (by simp) (by rw [draws]; decide)).1
  simp [Sample.failingBurn, Pool.Label.Continues]

end XanhTab
