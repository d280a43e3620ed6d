import XanhTab.Invariant.Pairing
import XanhTab.Throttle.Core

/-!
# Guessing the pairing

The failure counter of the pairing and its lockout, in the parts of a run in
which a pairing can be redeemed and none is rotated.  A guess that is not
refused by the lockout is compared with the two stored hashes.
-/

namespace XanhTab

open Transition AuthManager Throttle

namespace AuthState

/-- The presented text is one of the two representations of the pairing. -/
def Matches (state : AuthState) (presented : String) : Prop :=
  state.pairingHash = some (hash presented) ∨ state.manualPairingHash = some (hash presented)

instance (state : AuthState) (presented : String) : Decidable (state.Matches presented) :=
  inferInstanceAs (Decidable (_ ∨ _))

/-- The counter and the lock as a gate. -/
def gate (state : AuthState) : Gate :=
  ⟨state.failedPairings, state.lockedUntil⟩

/-- The lockout refuses all guesses. -/
def LockedOut (state : AuthState) (now : Instant) : Prop :=
  state.gate.closed now = true

instance (state : AuthState) (now : Instant) : Decidable (state.LockedOut now) :=
  inferInstanceAs (Decidable (_ = true))

end AuthState

namespace AuthRun

variable (manager : AuthManager)

/-- The label guesses wrong. -/
def GuessesWrong (run : AuthRun) : AuthLabel → Prop
  | .perform (.exchangePairing presented) => ¬ run.state.Matches presented
  | _ => False

instance (run : AuthRun) (label : AuthLabel) : Decidable (run.GuessesWrong label) := by
  unfold GuessesWrong
  split <;> infer_instance

/-- The times of the wrong guesses. -/
def wrongGuesses : AuthRun → List AuthLabel → List Instant
  | _, [] => []
  | run, label :: rest =>
      (if run.GuessesWrong label then [run.now] else []) ++
        ((manager.step run label).elim [] fun next => next.wrongGuesses rest)

/-- The times of the wrong guesses that are compared with the stored hashes. -/
def comparedGuesses : AuthRun → List AuthLabel → List Instant
  | _, [] => []
  | run, label :: rest =>
      (if run.GuessesWrong label ∧ ¬ run.state.LockedOut run.now then [run.now] else []) ++
        ((manager.step run label).elim [] fun next => next.comparedGuesses rest)

/-- A part of a run in which a pairing is always redeemable and none is rotated. -/
inductive Redeemable : AuthRun → List AuthLabel → AuthRun → Prop
  | nil {run : AuthRun} : pairingAvailable run.state = true → Redeemable run [] run
  | cons {run next after : AuthRun} {label : AuthLabel} {rest : List AuthLabel} :
      pairingAvailable run.state = true → label ≠ .perform .rotatePairing →
      manager.step run label = some next → Redeemable next rest after →
      Redeemable run (label :: rest) after

end AuthRun

/-! ## One call -/

section Exchange

variable (manager : AuthManager) {now : Instant} {presented : String} {state : AuthState}
  (rng : Rng)

/-- The lockout refuses any guess, and the guess leaves no trace. -/
theorem exchangePairing_of_lockedOut (locked : state.LockedOut now) :
    manager.exchangePairing now presented state rng = (.error .invalidPairing, state, rng) := by
  unfold exchangePairing
  exact if_pos locked

/-- A wrong guess that is compared is counted by the gate. -/
theorem exchangePairing_of_wrong (unlocked : ¬ state.LockedOut now)
    (wrong : ¬ state.Matches presented) (below : state.failedPairings < maxPairFailures) :
    manager.exchangePairing now presented state rng =
      (.error .invalidPairing,
        { state with
          failedPairings := (state.gate.fail maxPairFailures pairLockout now).failures
          lockedUntil := (state.gate.fail maxPairFailures pairLockout now).lockedUntil }, rng) := by
  have saturated : min (state.failedPairings + 1) (2 ^ 32 - 1) = state.failedPairings + 1 := by
    unfold maxPairFailures at below
    omega
  have passed : ¬ state.lockedUntil.any (· > now) = true := unlocked
  have mismatched : ¬ (state.pairingHash = some (hash presented) ∨
      state.manualPairingHash = some (hash presented)) := wrong
  unfold exchangePairing Gate.fail AuthState.gate
  rw [if_neg passed, if_neg mismatched]
  dsimp only
  rw [saturated]
  by_cases last : maxPairFailures ≤ state.failedPairings + 1
  · simp only [if_pos last, ge_iff_le]
  · simp only [if_neg last, ge_iff_le]

/-- The right secret is accepted, unless the random source fails. -/
theorem exchangePairing_of_right (unlocked : ¬ state.LockedOut now)
    (right : state.Matches presented) :
    ((∃ result, (manager.exchangePairing now presented state rng).1 = .ok result) ∨
        ((manager.exchangePairing now presented state rng).1 = .error .internal ∧
          (rng.tape rng.draws = none ∨ rng.tape (rng.draws + 1) = none))) ∧
      pairingAvailable (manager.exchangePairing now presented state rng).2.1 = false ∧
      (manager.exchangePairing now presented state rng).2.1.gate = {} := by
  have passed : ¬ state.lockedUntil.any (· > now) = true := unlocked
  have matched : state.pairingHash = some (hash presented) ∨
      state.manualPairingHash = some (hash presented) := right
  unfold exchangePairing
  rw [if_neg passed, if_pos matched]
  dsimp only
  rcases firstDraw : rng.randomToken with ⟨_ | sessionToken, rng₁⟩
  · have failed : rng.tape rng.draws = none := by
      have missing := congrArg Prod.fst firstDraw
      simpa [Rng.randomToken, Rng.randomBytes] using missing
    exact ⟨Or.inr ⟨rfl, Or.inl failed⟩, rfl, rfl⟩
  · have onward : rng₁ = { rng with draws := rng.draws + 1 } := (congrArg Prod.snd firstDraw).symm
    dsimp only
    rcases secondDraw : rng₁.randomToken with ⟨_ | csrfToken, rng₂⟩
    · have failed : rng.tape (rng.draws + 1) = none := by
        have missing := congrArg Prod.fst secondDraw
        rw [onward] at missing
        simpa [Rng.randomToken, Rng.randomBytes] using missing
      exact ⟨Or.inr ⟨rfl, Or.inr failed⟩, rfl, rfl⟩
    · exact ⟨Or.inl ⟨_, rfl⟩, rfl, rfl⟩

end Exchange

namespace Performed

variable {manager : AuthManager} {now : Instant} {state state' : AuthState} {rng rng' : Rng}
  {call : AuthCall}

theorem gate_of_swept (sweeps : state.Swept now state') : state'.gate = state.gate := by
  rcases sweeps with rfl | rfl
  · rfl
  · rfl

/-- Only exchanges and rotations touch the counter and the lock. -/
theorem gate_eq (performed : Performed manager now state rng call state' rng')
    (keeps : ¬ call.Rotates) (other : ∀ presented result, call ≠ .exchanged presented result) :
    state'.gate = state.gate := by
  cases performed with
  | rotated => exact absurd trivial keeps
  | refused | lost | exchanged => exact absurd rfl (other _ _)
  | unauthenticated sweeps | unissued _ sweeps => exact gate_of_swept sweeps
  | unrotated | authenticated | validated | issued | unconsumed | consumed | revoked
  | invalidated | recovery => rfl

end Performed

/-! ## One step -/

namespace AuthRun

variable {manager : AuthManager} {run next : AuthRun} {label : AuthLabel}

/-- A step that does not rotate the pairing and leaves one that can be redeemed
is an attempt at the gate if it guesses wrong, and nothing to it otherwise. -/
theorem gate_of_step (below : run.state.failedPairings < maxPairFailures)
    (keeps : label ≠ .perform .rotatePairing) (step : manager.step run label = some next)
    (available : pairingAvailable next.state = true) :
    next.state.gate = run.state.gate.after maxPairFailures pairLockout
      (if run.GuessesWrong label then [run.now] else []) := by
  cases label with
  | elapse duration =>
      obtain rfl := Option.some.inj step
      rfl
  | perform request =>
      obtain rfl := Option.some.inj step
      by_cases exchanges : ∃ presented, request = .exchangePairing presented
      · rcases exchanges with ⟨presented, rfl⟩
        by_cases locked : run.state.LockedOut run.now
        · have refused : manager.exchangePairing run.now presented run.state run.rng =
              (.error .invalidPairing, run.state, run.rng) :=
            exchangePairing_of_lockedOut manager run.rng locked
          show (manager.exchangePairing run.now presented run.state run.rng).2.1.gate = _
          rw [refused]
          split
          · exact (if_pos locked).symm
          · rfl
        · by_cases right : run.state.Matches presented
          · have consumed := (exchangePairing_of_right manager run.rng locked right).2.1
            have contradiction := available.symm.trans consumed
            cases contradiction
          · have wrong : run.GuessesWrong (.perform (.exchangePairing presented)) := right
            show (manager.exchangePairing run.now presented run.state run.rng).2.1.gate = _
            rw [exchangePairing_of_wrong manager run.rng locked right below, if_pos wrong]
            exact (if_neg locked).symm
      · have silent : ¬ run.GuessesWrong (.perform request) := by
          intro guesses
          cases request with
          | exchangePairing presented => exact exchanges ⟨presented, rfl⟩
          | _ => exact guesses
        rw [if_neg silent]
        apply Performed.gate_eq (Performed.of_perform request)
        · intro rotates
          cases request with
          | rotatePairing => exact keeps rfl
          | _ => exact rotates
        · intro presented result exchanged
          cases request with
          | exchangePairing presented => exact exchanges ⟨presented, rfl⟩
          | _ => cases exchanged

/-- The counter stays below the number of failures that closes the gate. -/
theorem failedPairings_lt_of_step (below : run.state.failedPairings < maxPairFailures)
    (step : manager.step run label = some next) : next.state.failedPairings < maxPairFailures := by
  cases label with
  | elapse duration =>
      obtain rfl := Option.some.inj step
      exact below
  | perform request =>
      obtain rfl := Option.some.inj step
      by_cases exchanges : ∃ presented, request = .exchangePairing presented
      · rcases exchanges with ⟨presented, rfl⟩
        show (manager.exchangePairing run.now presented run.state run.rng).2.1.gate.failures < _
        by_cases locked : run.state.LockedOut run.now
        · rw [exchangePairing_of_lockedOut manager run.rng locked]
          exact below
        · by_cases right : run.state.Matches presented
          · rw [(exchangePairing_of_right manager run.rng locked right).2.2]
            exact Nat.zero_lt_succ _
          · rw [exchangePairing_of_wrong manager run.rng locked right below]
            exact Gate.fail_failures_lt below run.now
      · have performed : Performed manager run.now run.state run.rng _ _ _ :=
          Performed.of_perform request
        by_cases rotates : (manager.perform run.now request run.state run.rng).1.Rotates
        · cases request with
          | rotatePairing =>
              show (rotatePairing run.state run.rng).2.1.failedPairings < _
              unfold rotatePairing
              split
              · exact below
              · exact Nat.zero_lt_succ _
          | _ => exact rotates.elim
        · have same := performed.gate_eq rotates (by
            intro presented result exchanged
            cases request with
            | exchangePairing presented => exact exchanges ⟨presented, rfl⟩
            | _ => cases exchanged)
          have counter := congrArg Gate.failures same
          exact Nat.lt_of_le_of_lt (Nat.le_of_eq counter) below

theorem failedPairings_lt_of_reachable {rng : Rng} {now : Instant}
    (reached : Reachable manager.step { rng, now } run) :
    run.state.failedPairings < maxPairFailures := by
  induction reached with
  | refl => exact Nat.zero_lt_succ _
  | tail _ _ step below => exact failedPairings_lt_of_step below step

theorem now_le_of_step (step : manager.step run label = some next) : run.now ≤ next.now := by
  cases label with
  | elapse duration =>
      obtain rfl := Option.some.inj step
      exact Nat.le_add_right _ _
  | perform request =>
      obtain rfl := Option.some.inj step
      exact Nat.le_refl _

/-! ## A part of a run -/

variable {after : AuthRun} {labels : List AuthLabel}

/-- What a redeemable part of a run is to the gate. -/
structure Attempts (manager : AuthManager) (run : AuthRun) (labels : List AuthLabel)
    (after : AuthRun) : Prop where
  gate : after.state.gate =
    run.state.gate.after maxPairFailures pairLockout (run.wrongGuesses manager labels)
  compared : run.comparedGuesses manager labels =
    run.state.gate.counted maxPairFailures pairLockout (run.wrongGuesses manager labels)
  begun : ∀ time ∈ run.wrongGuesses manager labels, run.now ≤ time
  ordered : (run.wrongGuesses manager labels).Pairwise (· ≤ ·)

theorem Redeemable.available (segment : Redeemable manager run labels after) :
    pairingAvailable run.state = true := by
  cases segment with
  | nil available => exact available
  | cons available => exact available

/-- Only a rotation makes a pairing redeemable. -/
theorem available_of_step (keeps : label ≠ .perform .rotatePairing)
    (step : manager.step run label = some next)
    (available : pairingAvailable next.state = true) : pairingAvailable run.state = true := by
  cases label with
  | elapse duration =>
      obtain rfl := Option.some.inj step
      exact available
  | perform request =>
      obtain rfl := Option.some.inj step
      have performed : Performed manager run.now run.state run.rng _ _ _ :=
        Performed.of_perform request
      refine (performed.available_before ?_ available).1
      intro rotates
      cases request with
      | rotatePairing => exact keeps rfl
      | _ => exact rotates

/-- A part of a run is redeemable if a pairing is left at its end. -/
theorem Redeemable.of_run (executed : Transition.run manager.step run labels = some after)
    (unrotated : AuthLabel.perform .rotatePairing ∉ labels)
    (available : pairingAvailable after.state = true) : Redeemable manager run labels after := by
  induction labels generalizing run with
  | nil =>
      obtain rfl := Option.some.inj executed
      exact .nil available
  | cons label rest ih =>
      rcases Option.bind_eq_some_iff.mp executed with ⟨next, step, remaining⟩
      rcases not_or.mp (fun either => unrotated (List.mem_cons.mpr either)) with ⟨differs, later⟩
      have segment := ih remaining later
      have keeps : label ≠ .perform .rotatePairing := fun equal => differs equal.symm
      exact .cons (available_of_step keeps step segment.available) keeps step segment

theorem Redeemable.attempts (below : run.state.failedPairings < maxPairFailures)
    (segment : Redeemable manager run labels after) : Attempts manager run labels after := by
  induction segment with
  | nil =>
      constructor
      · rfl
      · rfl
      · intro time member
        cases member
      · exact List.Pairwise.nil
  | @cons run next after label rest available keeps step segment ih =>
      have attempts := ih (failedPairings_lt_of_step below step)
      have gate := gate_of_step below keeps step segment.available
      have later := now_le_of_step step
      have guesses : run.wrongGuesses manager (label :: rest) =
          (if run.GuessesWrong label then [run.now] else []) ++ next.wrongGuesses manager rest := by
        simp only [wrongGuesses, step, Option.elim_some]
      have own : (if run.GuessesWrong label ∧ ¬ run.state.LockedOut run.now then [run.now] else []) =
          run.state.gate.counted maxPairFailures pairLockout
            (if run.GuessesWrong label then [run.now] else []) := by
        by_cases wrong : run.GuessesWrong label
        · by_cases locked : run.state.LockedOut run.now
          · rw [if_neg (fun both => both.2 locked), if_pos wrong]
            exact (if_pos locked).symm
          · rw [if_pos ⟨wrong, locked⟩, if_pos wrong]
            exact (if_neg locked).symm
        · rw [if_neg (fun both => wrong both.1), if_neg wrong]
          rfl
      have before : ∀ time ∈ next.wrongGuesses manager rest, run.now ≤ time := by
        intro time member
        exact Nat.le_trans later (attempts.begun time member)
      constructor
      · rw [attempts.gate, gate, guesses, Gate.after_append]
      · rw [guesses, Gate.counted_append, ← own, ← gate, ← attempts.compared]
        simp only [comparedGuesses, step, Option.elim_some]
      · rw [guesses]
        intro time member
        rcases List.mem_append.mp member with first | rest
        · split at first
          · exact Nat.le_of_eq (List.mem_singleton.mp first).symm
          · cases first
        · exact before time rest
      · rw [guesses]
        split
        · exact List.pairwise_cons.mpr ⟨before, attempts.ordered⟩
        · exact attempts.ordered

end AuthRun

/-- While a pairing is redeemable and none is rotated, at most five wrong
guesses are compared in any window of the length of a lockout.  A lockout is in
force after each fifth of them; during it every guess is refused without a
trace, the right secret included, and outside it the right secret is accepted
and the pairing consumed. -/
theorem pairing_guesses_bounded {manager : AuthManager} {rng : Rng} {now : Instant}
    {before after : AuthRun} {labels : List AuthLabel}
    (reached : Reachable manager.step { rng, now } before)
    (segment : AuthRun.Redeemable manager before labels after) :
    (∀ start, (Gate.inWindow pairLockout start
        (before.comparedGuesses manager labels)).length ≤ maxPairFailures) ∧
      (after.state.LockedOut after.now ↔ before.state.gate.Lockout maxPairFailures pairLockout
        (before.comparedGuesses manager labels) after.now) ∧
      (after.state.LockedOut after.now → ∀ presented,
        manager.exchangePairing after.now presented after.state after.rng =
          (.error .invalidPairing, after.state, after.rng)) ∧
      (¬ after.state.LockedOut after.now → ∀ presented, after.state.Matches presented →
        ((∃ result, (manager.exchangePairing after.now presented after.state after.rng).1 =
            .ok result) ∨
          ((manager.exchangePairing after.now presented after.state after.rng).1 =
              .error .internal ∧
            (after.rng.tape after.rng.draws = none ∨
              after.rng.tape (after.rng.draws + 1) = none))) ∧
        pairingAvailable
          (manager.exchangePairing after.now presented after.state after.rng).2.1 = false) := by
  have below := AuthRun.failedPairings_lt_of_reachable reached
  have attempts := segment.attempts below
  refine ⟨?_, ?_, ?_, ?_⟩
  · intro start
    rw [attempts.compared]
    exact Gate.length_inWindow_le start attempts.ordered below
  · show after.state.gate.closed after.now = true ↔ _
    rw [attempts.gate, attempts.compared]
    exact Gate.closed_after_iff below after.now
  · intro locked presented
    exact exchangePairing_of_lockedOut manager after.rng locked
  · intro unlocked presented right
    have accepted := exchangePairing_of_right manager after.rng unlocked right
    exact ⟨accepted.1, accepted.2.1⟩

namespace Sample

/-- Five wrong guesses a second apart. -/
def guesses : List AuthLabel :=
  (List.replicate 5 [.perform (.exchangePairing "guess"), .elapse (Duration.ofSeconds 1)]).flatten

end Sample

theorem pairing_guesses_bounded_of_guesses :
    ∃ before after : AuthRun, before.comparedGuesses Sample.app.auth Sample.guesses =
        (List.range 5).map Duration.ofSeconds ∧
      (after.state.LockedOut after.now → ∀ presented,
        Sample.app.auth.exchangePairing after.now presented after.state after.rng =
          (.error .invalidPairing, after.state, after.rng)) ∧ after.state.LockedOut after.now := by
  have executed : ((Transition.run Sample.app.auth.step { rng := Sample.rng }
      [.perform .rotatePairing]).bind fun before =>
        (Transition.run Sample.app.auth.step before Sample.guesses).map fun after =>
          (before.comparedGuesses Sample.app.auth Sample.guesses, pairingAvailable after.state,
            decide (after.state.LockedOut after.now))) =
      some ((List.range 5).map Duration.ofSeconds, true, true) := by
    decide +kernel
  rcases Option.bind_eq_some_iff.mp executed with ⟨before, rotated, guessed⟩
  rcases Option.map_eq_some_iff.mp guessed with ⟨after, guessed, values⟩
  rcases Prod.mk.inj values with ⟨compared, rest⟩
  rcases Prod.mk.inj rest with ⟨available, locked⟩
  have segment := AuthRun.Redeemable.of_run guessed (by simp [Sample.guesses]) available
  have bounded := pairing_guesses_bounded (reachable_of_run rotated) segment
  exact ⟨before, after, compared, bounded.2.2.1, of_decide_eq_true locked⟩

end XanhTab
