import XanhTab.Daemon.AuthRun

/-!
# Exclusive pairing

A pairing has two representations that are stored and consumed together.  While
it can be redeemed nobody is paired, and once it was redeemed at most one
controller is.  When neither is the case any more, recovery is required.
-/

namespace XanhTab

open Transition AuthManager

/-! ## Segments between rotations -/

def AuthEntry.Rotates (entry : AuthEntry) : Prop :=
  entry.call.Rotates

def AuthEntry.Exchanges (entry : AuthEntry) : Prop :=
  entry.call.Exchanges

instance : DecidablePred AuthEntry.Rotates := fun entry =>
  inferInstanceAs (Decidable entry.call.Rotates)

instance : DecidablePred AuthEntry.Exchanges := fun entry =>
  inferInstanceAs (Decidable entry.call.Exchanges)

/-- The pairings that were redeemed in a part of the log. -/
def redeemed (entries : List AuthEntry) : Nat :=
  entries.countP fun entry => decide entry.Exchanges

/-- The pairings that were generated in a part of the log. -/
def rotations (entries : List AuthEntry) : Nat :=
  entries.countP fun entry => decide entry.Rotates

/-- In any part of the log without a rotation at most one pairing was redeemed,
and none if the pairing of its end is still there. -/
structure RedeemedOnce (state : AuthState) (log : List AuthEntry) : Prop where
  closed : ∀ earlier middle later, log = earlier ++ middle ++ later →
    (∀ entry ∈ middle, ¬ entry.Rotates) → redeemed middle ≤ 1
  unused : ∀ earlier middle, log = earlier ++ middle → (∀ entry ∈ middle, ¬ entry.Rotates) →
    pairingAvailable state = true → redeemed middle = 0

/-! ## The invariant -/

/-- What always holds of pairing, sessions and tickets. -/
structure PairingInvariant (state : AuthState) : Prop where
  paired : state.pairingHash.isSome = state.manualPairingHash.isSome
  single : state.sessions.length ≤ 1
  exclusive : pairingAvailable state = true → state.sessions = []
  sessions : ∀ entry ∈ state.sessions, entry.2.generation = state.generation
  tickets : ∀ entry ∈ state.tickets, entry.2.generation = state.generation

namespace PairingInvariant

variable {manager : AuthManager} {now : Instant} {state state' : AuthState} {rng rng' : Rng}
  {call : AuthCall}

theorem pruned (invariant : PairingInvariant state) (now : Instant) :
    PairingInvariant (state.pruneExpired now) where
  paired := invariant.paired
  single := Nat.le_trans (List.length_filter_le _ _) invariant.single
  exclusive available := by
    show state.sessions.filter _ = []
    rw [invariant.exclusive available]
    rfl
  sessions entry member := invariant.sessions entry (List.mem_of_mem_filter member)
  tickets entry member := invariant.tickets entry (List.mem_of_mem_filter member)

theorem swept (invariant : PairingInvariant state) (sweeps : state.Swept now state') :
    PairingInvariant state' := by
  rcases sweeps with rfl | rfl
  · exact invariant
  · exact invariant.pruned now

theorem performed (invariant : PairingInvariant state)
    (performed : Performed manager now state rng call state' rng') : PairingInvariant state' := by
  cases performed with
  | unrotated => exact invariant
  | rotated => exact ⟨rfl, Nat.zero_le _, fun _ => rfl, nofun, nofun⟩
  | refused => exact ⟨invariant.paired, invariant.single, invariant.exclusive,
      invariant.sessions, invariant.tickets⟩
  | lost => exact ⟨rfl, invariant.single, nofun, invariant.sessions, invariant.tickets⟩
  | exchanged _ available =>
      have free := invariant.exclusive available
      refine ⟨rfl, ?_, nofun, ?_, invariant.tickets⟩
      · simp [insertKey, free]
      · intro entry member
        rw [free] at member
        obtain rfl := List.mem_singleton.mp member
        rfl
  | unauthenticated sweeps | unissued _ sweeps => exact invariant.swept sweeps
  | authenticated | validated | recovery => exact invariant.pruned now
  | issued =>
      have kept := invariant.pruned now
      refine ⟨kept.paired, kept.single, kept.exclusive, kept.sessions, ?_⟩
      intro entry member
      rcases List.mem_cons.mp member with rfl | old
      · rfl
      · exact kept.tickets entry (List.mem_of_mem_filter old)
  | unconsumed | consumed =>
      exact ⟨invariant.paired, invariant.single, invariant.exclusive, invariant.sessions,
        fun entry member => invariant.tickets entry (List.mem_of_mem_filter member)⟩
  | revoked => exact ⟨invariant.paired, Nat.zero_le _, fun _ => rfl, nofun, nofun⟩
  | invalidated => exact ⟨rfl, Nat.zero_le _, fun _ => rfl, nofun, nofun⟩

end PairingInvariant

namespace Performed

variable {manager : AuthManager} {now : Instant} {state state' : AuthState} {rng rng' : Rng}
  {call : AuthCall}

theorem pairingAvailable_of_swept (sweeps : state.Swept now state') :
    pairingAvailable state' = pairingAvailable state := by
  rcases sweeps with rfl | rfl <;> rfl

/-- Only a rotation makes a pairing available, and an exchange consumes it. -/
theorem available_before (performed : Performed manager now state rng call state' rng')
    (keeps : ¬ call.Rotates) (available : pairingAvailable state' = true) :
    pairingAvailable state = true ∧ ¬ call.Exchanges := by
  cases performed with
  | rotated => exact absurd trivial keeps
  | lost | exchanged | invalidated => cases available
  | unauthenticated sweeps | unissued _ sweeps =>
      exact ⟨pairingAvailable_of_swept sweeps ▸ available, id⟩
  | unrotated | refused | authenticated | validated | issued | unconsumed | consumed | revoked
  | recovery => exact ⟨available, id⟩

theorem available_of_exchanges (performed : Performed manager now state rng call state' rng')
    (exchanges : call.Exchanges) : pairingAvailable state = true := by
  cases performed with
  | exchanged _ available => exact available
  | _ => exact exchanges.elim

theorem generation_eq (performed : Performed manager now state rng call state' rng') :
    state'.generation =
      if call.Rotates then (state.generation + 1) % 2 ^ 64 else state.generation := by
  cases performed with
  | rotated => exact (if_pos trivial).symm
  | unauthenticated sweeps | unissued _ sweeps =>
      rcases sweeps with rfl | rfl <;> exact (if_neg id).symm
  | _ => exact (if_neg id).symm

end Performed

theorem redeemed_concat (entries : List AuthEntry) (entry : AuthEntry) :
    redeemed (entries ++ [entry]) = redeemed entries + if entry.Exchanges then 1 else 0 := by
  simp [redeemed, List.countP_append, List.countP_singleton]

theorem rotations_concat (entries : List AuthEntry) (entry : AuthEntry) :
    rotations (entries ++ [entry]) = rotations entries + if entry.Rotates then 1 else 0 := by
  simp [rotations, List.countP_append, List.countP_singleton]

theorem RedeemedOnce.performed {manager : AuthManager} {now : Instant}
    {state state' : AuthState} {rng rng' : Rng} {call : AuthCall} {log : List AuthEntry}
    (redeemedOnce : RedeemedOnce state log)
    (performed : Performed manager now state rng call state' rng') :
    RedeemedOnce state' (log ++ [⟨now, call⟩]) := by
  constructor
  · intro earlier middle later split free
    rcases List.eq_nil_or_concat later with rfl | ⟨later', last, rfl⟩
    · rcases List.eq_nil_or_concat middle with rfl | ⟨middle', last, rfl⟩
      · exact Nat.zero_le _
      · rw [List.append_nil, List.concat_eq_append, ← List.append_assoc] at split
        rcases List.append_inj' split rfl with ⟨rfl, equal⟩
        obtain rfl := List.singleton_inj.mp equal
        have free' : ∀ entry ∈ middle', ¬ entry.Rotates := fun entry member =>
          free entry (by simp [member])
        rw [List.concat_eq_append, redeemed_concat]
        by_cases exchanges : AuthEntry.Exchanges ⟨now, call⟩
        · have unused := redeemedOnce.unused earlier middle' rfl free'
            (performed.available_of_exchanges exchanges)
          rw [if_pos exchanges]
          omega
        · rw [if_neg exchanges]
          exact redeemedOnce.closed earlier middle' [] (List.append_nil _).symm free'
    · rw [List.concat_eq_append, ← List.append_assoc] at split
      rcases List.append_inj' split rfl with ⟨rfl, _⟩
      exact redeemedOnce.closed earlier middle later' rfl free
  · intro earlier middle split free available
    rcases List.eq_nil_or_concat middle with rfl | ⟨middle', last, rfl⟩
    · rfl
    · rw [List.concat_eq_append, ← List.append_assoc] at split
      rcases List.append_inj' split rfl with ⟨rfl, equal⟩
      obtain rfl := List.singleton_inj.mp equal
      have keeps : ¬ AuthEntry.Rotates ⟨now, call⟩ := free _ (by simp)
      rcases performed.available_before keeps available with ⟨before, unredeemed⟩
      have kept : ¬ AuthEntry.Exchanges ⟨now, call⟩ := unredeemed
      rw [List.concat_eq_append, redeemed_concat, if_neg kept]
      exact redeemedOnce.unused earlier middle' rfl
        (fun entry member => free entry (by simp [member])) before

/-! ## The result -/

/-- What holds of pairings in every run, after the first rotation. -/
structure PairingExclusive (run : AuthRun) : Prop extends PairingInvariant run.state where
  /-- Between two rotations at most one pairing is redeemed. -/
  once : ∀ earlier middle later, run.log = earlier ++ middle ++ later →
    (∀ entry ∈ middle, ¬ entry.Rotates) → redeemed middle ≤ 1
  recoverable : pairingAvailable run.state = true ∨
    (∃ entry ∈ run.state.sessions, run.now < entry.2.expiresAt) ∨
    (pairingRecoveryRequired run.now run.state).1 = true

/-- With neither a pairing nor a live session, recovery is required. -/
theorem recoverable_of_rotated {state : AuthState} (rotated : 0 < state.generation)
    (now : Instant) :
    pairingAvailable state = true ∨ (∃ entry ∈ state.sessions, now < entry.2.expiresAt) ∨
      (pairingRecoveryRequired now state).1 = true := by
  by_cases available : pairingAvailable state = true
  · exact Or.inl available
  · by_cases live : ∃ entry ∈ state.sessions, now < entry.2.expiresAt
    · exact Or.inr (Or.inl live)
    · have swept : (state.pruneExpired now).sessions = [] := by
        refine List.filter_eq_nil_iff.mpr fun entry member => ?_
        have expired : ¬ now < entry.2.expiresAt := fun unexpired =>
          live ⟨entry, member, unexpired⟩
        simp [expired]
      have unavailable : state.pairingHash.isNone = true ∧
          state.manualPairingHash.isNone = true := by
        simpa [pairingAvailable] using available
      refine Or.inr (Or.inr ?_)
      unfold pairingRecoveryRequired
      dsimp only
      rw [swept]
      simp [AuthState.pruneExpired, rotated, unavailable.1, unavailable.2]

/-- In every run with fewer rotations than the generation counter can hold, the
pairing is exclusive and recoverable once it has been generated. -/
theorem pairing_exclusive_of_reaches {manager : AuthManager} {rng : Rng} {now : Instant}
    {run : AuthRun} (reaches : Reachable manager.step { rng, now } run)
    (rotated : 0 < rotations run.log) (bound : rotations run.log < 2 ^ 64) :
    PairingExclusive run := by
  have invariant : PairingInvariant run.state ∧ RedeemedOnce run.state run.log ∧
      run.state.generation = rotations run.log % 2 ^ 64 := by
    clear rotated bound
    induction reaches with
    | refl =>
        refine ⟨⟨rfl, Nat.zero_le _, fun _ => rfl, nofun, nofun⟩, ⟨?_, nofun⟩, rfl⟩
        intro earlier middle later split _
        have empty : earlier ++ middle = [] ∧ later = [] :=
          List.append_eq_nil_iff.mp split.symm
        rw [(List.append_eq_nil_iff.mp empty.1).2]
        exact Nat.zero_le _
    | @tail middle target label _ _ step ih =>
        rcases ih with ⟨invariant, redeemedOnce, generation⟩
        cases label with
        | elapse duration =>
            cases step
            exact ⟨invariant, redeemedOnce, generation⟩
        | perform request =>
            cases step
            have performed : Performed manager middle.now middle.state middle.rng _ _ _ :=
              .of_perform request
            refine ⟨invariant.performed performed, redeemedOnce.performed performed, ?_⟩
            rw [performed.generation_eq, rotations_concat, generation]
            split
            · rename_i rotates
              have counted : AuthEntry.Rotates
                  ⟨middle.now, (manager.perform middle.now request middle.state middle.rng).1⟩ :=
                rotates
              rw [if_pos counted]
              omega
            · rename_i keeps
              have uncounted : ¬ AuthEntry.Rotates
                  ⟨middle.now, (manager.perform middle.now request middle.state middle.rng).1⟩ :=
                keeps
              rw [if_neg uncounted, Nat.add_zero]
  rcases invariant with ⟨invariant, redeemedOnce, generation⟩
  have current : 0 < run.state.generation := by
    rw [generation, Nat.mod_eq_of_lt bound]
    exact rotated
  exact ⟨invariant, redeemedOnce.closed, recoverable_of_rotated current run.now⟩

namespace Sample

/-- A client is paired with the secret, then tries the manual code, and its
authorisation expires. -/
def expired : List AuthLabel :=
  [.perform .rotatePairing, .perform (.exchangePairing (Encoding.urlSafeNoPad (bytes 0))),
    .perform (.exchangePairing (Encoding.groupManualCode (bytes 0))),
    .elapse (Duration.ofSeconds 600), .perform .pairingRecoveryRequired]

end Sample

theorem pairing_exclusive_of_expired :
    ∃ run : AuthRun, run.log.map (fun entry => entry.call.succeeded) =
        [true, true, false, true] ∧ PairingExclusive run := by
  have executed : ((Transition.run Sample.app.auth.step { rng := Sample.rng }
      Sample.expired).map fun run : AuthRun =>
        (run.log.map fun entry => entry.call.succeeded, rotations run.log)) =
      some ([true, true, false, true], 1) := by
    decide +kernel
  rcases Option.map_eq_some_iff.mp executed with ⟨run, executed, values⟩
  rcases Prod.mk.inj values with ⟨results, count⟩
  exact ⟨run, results, pairing_exclusive_of_reaches (reachable_of_run executed)
    (by rw [count]; decide) (by rw [count]; decide)⟩

end XanhTab
