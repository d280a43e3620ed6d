import XanhTab.Config.Validate
import XanhTab.Daemon.AuthRun

/-!
# The clock of the authentication manager

Instants of the standard library have signed 64-bit seconds, and an addition that
leaves their range panics.  The two operations of `AuthManager` that add to an
instant are stated here with that panic; where they do not panic they are the
operations on unbounded instants.
-/

namespace XanhTab

/-! ## Instants with a range -/

def nanosPerSecond : Nat := 1000000000

/-- A signed 64-bit number. -/
abbrev Seconds : Type :=
  { value : Int // -2 ^ 63 ≤ value ∧ value < 2 ^ 63 }

def Seconds.checked (value : Int) : Option Seconds :=
  if fits : -2 ^ 63 ≤ value ∧ value < 2 ^ 63 then some ⟨value, fits⟩ else none

/-- An instant of the standard library. -/
structure Timespec where
  seconds : Seconds
  nanos : Fin nanosPerSecond

namespace Timespec

theorem carry_lt (now : Timespec) (duration : Nat) :
    now.nanos + duration % nanosPerSecond - nanosPerSecond < nanosPerSecond := by
  have below := now.nanos.isLt
  have rest : duration % nanosPerSecond < nanosPerSecond := Nat.mod_lt _ (by decide)
  omega

/-- `checked_add_duration`. -/
def checkedAdd (now : Timespec) (duration : Nat) : Option Timespec :=
  (Seconds.checked (now.seconds + (duration / nanosPerSecond : Nat))).bind fun seconds =>
    let nanos := now.nanos + duration % nanosPerSecond
    if small : nanos < nanosPerSecond then some ⟨seconds, ⟨nanos, small⟩⟩
    else
      (Seconds.checked (seconds + 1)).map fun seconds =>
        ⟨seconds, ⟨nanos - nanosPerSecond, now.carry_lt duration⟩⟩

/-- The nanoseconds since the origin of the clock. -/
def total (now : Timespec) : Int :=
  now.seconds * nanosPerSecond + now.nanos

/-- The instant without a range, on a clock that starts at its origin. -/
def toInstant (now : Timespec) : Instant :=
  now.total.toNat

end Timespec

theorem Seconds.checked_eq_some_iff {value : Int} {seconds : Seconds} :
    Seconds.checked value = some seconds ↔ seconds = value := by
  unfold Seconds.checked
  split
  · rename_i fits
    rw [Option.some.injEq, Subtype.ext_iff]
    exact eq_comm
  · rename_i unfit
    constructor
    · intro impossible
      cases impossible
    · intro equal
      exact absurd (equal ▸ seconds.property) unfit

namespace Timespec

variable {now later : Timespec} {duration : Nat}

theorem ext_total (equal : now.total = later.total) : now = later := by
  rcases now with ⟨⟨seconds, _⟩, ⟨nanos, small⟩⟩
  rcases later with ⟨⟨seconds', _⟩, ⟨nanos', small'⟩⟩
  simp only [total, nanosPerSecond] at equal small small'
  have first : seconds = seconds' := by omega
  have second : nanos = nanos' := by omega
  subst first second
  rfl

/-- The total after an addition is the sum. -/
theorem total_of_checkedAdd (added : now.checkedAdd duration = some later) :
    later.total = now.total + duration := by
  have below : now.nanos.val < 1000000000 := now.nanos.isLt
  rcases Option.bind_eq_some_iff.mp added with ⟨seconds, first, rest⟩
  have sum := Seconds.checked_eq_some_iff.mp first
  dsimp only at rest
  split at rest
  · rw [← Option.some.inj rest]
    simp only [total, sum, nanosPerSecond]
    omega
  · rename_i carry
    rcases Option.map_eq_some_iff.mp rest with ⟨next, second, rfl⟩
    have successor := Seconds.checked_eq_some_iff.mp second
    simp only [total, successor, sum, nanosPerSecond] at carry ⊢
    omega

/-- An addition panics exactly when the sum is past the last instant. -/
theorem isSome_checkedAdd_iff :
    (now.checkedAdd duration).isSome = true ↔
      now.total + duration < 2 ^ 63 * nanosPerSecond := by
  have range := now.seconds.property
  have below : now.nanos.val < 1000000000 := now.nanos.isLt
  unfold checkedAdd total Seconds.checked nanosPerSecond
  dsimp only
  split
  · simp only [Option.bind_some]
    split
    · simp only [Option.isSome_some, true_iff]
      omega
    · split
      · simp only [Option.map_some, Option.isSome_some, true_iff]
        omega
      · simp only [Option.map_none, Option.isSome_none, Bool.false_eq_true, false_iff]
        omega
  · simp only [Option.bind_none, Option.isSome_none, Bool.false_eq_true, false_iff]
    omega

/-- On a clock that has started, an addition is that of unbounded instants. -/
theorem toInstant_of_checkedAdd (started : 0 ≤ now.seconds.val)
    (added : now.checkedAdd duration = some later) : later.toInstant = now.toInstant + duration := by
  unfold toInstant
  rw [total_of_checkedAdd added]
  have nonneg : 0 ≤ now.total := by
    unfold total nanosPerSecond
    omega
  rw [Int.toNat_add nonneg (Int.natCast_nonneg _), Int.toNat_natCast]

end Timespec

/-! ## The operations with their panics -/

namespace AuthManager

variable (manager : AuthManager)

/-- `exchange_pairing`, or a panic. -/
def exchangePairingChecked (now : Timespec) (presented : String) (state : AuthState) (rng : Rng) :
    Option (Except AppError ExchangeResult × AuthState × Rng) :=
  if state.lockedUntil.any (· > now.toInstant) then
    some (.error .invalidPairing, state, rng)
  else if state.pairingHash = some (hash presented) ∨
      state.manualPairingHash = some (hash presented) then
    let consumed : AuthState :=
      { state with
        lockedUntil := none
        pairingHash := none
        manualPairingHash := none
        failedPairings := 0 }
    match rng.randomToken with
    | (none, rng) => some (.error .internal, consumed, rng)
    | (some sessionToken, rng) =>
        match rng.randomToken with
        | (none, rng) => some (.error .internal, consumed, rng)
        | (some csrfToken, rng) =>
            (now.checkedAdd manager.authTtl).map fun expiresAt =>
              let session : AuthSession :=
                { clientId := rng.newUuid.1
                  csrfHash := hash csrfToken
                  expiresAt := expiresAt.toInstant
                  generation := consumed.generation }
              (.ok
                { sessionToken, csrfToken
                  clientId := rng.newUuid.1
                  expiresInSeconds := manager.authTtl / Duration.ofSeconds 1 },
                { consumed with
                  sessions := insertKey (hash sessionToken) session consumed.sessions },
                rng.newUuid.2)
  else
    let failures := min (state.failedPairings + 1) (2 ^ 32 - 1)
    if failures ≥ maxPairFailures then
      (now.checkedAdd pairLockout).map fun lockedUntil =>
        (.error .invalidPairing,
          { state with failedPairings := 0, lockedUntil := some lockedUntil.toInstant }, rng)
    else
      some (.error .invalidPairing,
        { state with failedPairings := failures, lockedUntil := none }, rng)

/-- `issue_ticket`, or a panic. -/
def issueTicketChecked (now : Timespec) (context : AuthContext) (purpose : TicketPurpose)
    (state : AuthState) (rng : Rng) : Option (Except AppError String × AuthState × Rng) :=
  match rng.randomToken with
  | (none, rng) => some (.error .internal, state, rng)
  | (some token, rng) =>
      let state := state.pruneExpired now.toInstant
      if context.generation = state.generation ∧
          state.hasLiveSession context.clientId state.generation now.toInstant then
        (now.checkedAdd manager.ticketTtl).map fun expiresAt =>
          let ticket : Ticket :=
            { clientId := context.clientId
              expiresAt := expiresAt.toInstant
              generation := state.generation
              purpose }
          (.ok token, { state with tickets := insertKey (hash token) ticket state.tickets }, rng)
      else some (.error .unauthorized, state, rng)

/-- The other operations add to no instant. -/
def performChecked (now : Timespec) (request : AuthRequest) (state : AuthState) (rng : Rng) :
    Option (AuthCall × AuthState × Rng) :=
  match request with
  | .exchangePairing presented =>
      (manager.exchangePairingChecked now presented state rng).map fun after =>
        (.exchanged presented after.1, after.2)
  | .issueTicket context purpose =>
      (manager.issueTicketChecked now context purpose state rng).map fun after =>
        (.issued context purpose after.1, after.2)
  | request => some (manager.perform now.toInstant request state rng)

/-! ## Where nothing panics -/

variable {manager} {now : Timespec} {state : AuthState} {rng : Rng}

/-- An exchange that does not panic is the exchange on unbounded instants. -/
theorem exchangePairingChecked_eq_some (started : 0 ≤ now.seconds.val) {presented : String}
    {after : Except AppError ExchangeResult × AuthState × Rng}
    (returned : manager.exchangePairingChecked now presented state rng = some after) :
    after = manager.exchangePairing now.toInstant presented state rng := by
  unfold exchangePairingChecked at returned
  unfold exchangePairing
  split at returned
  · rename_i locked
    rw [if_pos locked]
    exact (Option.some.inj returned).symm
  · rename_i unlocked
    rw [if_neg unlocked]
    split at returned
    · rename_i matched
      rw [if_pos matched]
      rcases firstDraw : rng.randomToken with ⟨_ | sessionToken, rng₁⟩
      · simp only [firstDraw] at returned ⊢
        exact (Option.some.inj returned).symm
      · rcases secondDraw : rng₁.randomToken with ⟨_ | csrfToken, rng₂⟩
        · simp only [firstDraw, secondDraw] at returned ⊢
          exact (Option.some.inj returned).symm
        · simp only [firstDraw, secondDraw] at returned ⊢
          rcases Option.map_eq_some_iff.mp returned with ⟨expiresAt, added, rfl⟩
          rw [Timespec.toInstant_of_checkedAdd started added]
    · rename_i mismatched
      rw [if_neg mismatched]
      dsimp only at returned ⊢
      split at returned
      · rename_i last
        rcases Option.map_eq_some_iff.mp returned with ⟨lockedUntil, added, rfl⟩
        rw [if_pos last, Timespec.toInstant_of_checkedAdd started added]
      · rename_i fewer
        rw [if_neg fewer]
        exact (Option.some.inj returned).symm

theorem issueTicketChecked_eq_some (started : 0 ≤ now.seconds.val) {context : AuthContext}
    {purpose : TicketPurpose} {after : Except AppError String × AuthState × Rng}
    (returned : manager.issueTicketChecked now context purpose state rng = some after) :
    after = manager.issueTicket now.toInstant context purpose state rng := by
  unfold issueTicketChecked at returned
  unfold issueTicket
  rcases draw : rng.randomToken with ⟨_ | token, rng'⟩
  · simp only [draw] at returned ⊢
    exact (Option.some.inj returned).symm
  · simp only [draw] at returned ⊢
    split at returned
    · rename_i valid
      rcases Option.map_eq_some_iff.mp returned with ⟨expiresAt, added, rfl⟩
      rw [if_pos valid, Timespec.toInstant_of_checkedAdd started added]
    · rename_i invalid
      rw [if_neg invalid]
      exact (Option.some.inj returned).symm

/-- An operation that does not panic is the operation on unbounded instants. -/
theorem performChecked_eq_some (started : 0 ≤ now.seconds.val) {request : AuthRequest}
    {after : AuthCall × AuthState × Rng}
    (returned : manager.performChecked now request state rng = some after) :
    after = manager.perform now.toInstant request state rng := by
  cases request with
  | exchangePairing presented =>
      rcases Option.map_eq_some_iff.mp returned with ⟨result, exchanged, rfl⟩
      rw [exchangePairingChecked_eq_some started exchanged]
      rfl
  | issueTicket context purpose =>
      rcases Option.map_eq_some_iff.mp returned with ⟨result, issued, rfl⟩
      rw [issueTicketChecked_eq_some started issued]
      rfl
  | _ => exact (Option.some.inj returned).symm

/-- The three additions are within the range of the clock. -/
structure Representable (manager : AuthManager) (now : Timespec) : Prop where
  auth : (now.checkedAdd manager.authTtl).isSome = true
  ticket : (now.checkedAdd manager.ticketTtl).isSome = true
  lockout : (now.checkedAdd pairLockout).isSome = true

theorem Representable.exchangePairingChecked (representable : manager.Representable now)
    (presented : String) (state : AuthState) (rng : Rng) :
    (manager.exchangePairingChecked now presented state rng).isSome = true := by
  unfold AuthManager.exchangePairingChecked
  split
  · rfl
  · split
    · rcases firstDraw : rng.randomToken with ⟨_ | sessionToken, rng₁⟩
      · rfl
      · rcases secondDraw : rng₁.randomToken with ⟨_ | csrfToken, rng₂⟩
        · simp only [secondDraw, Option.isSome_some]
        · simp only [secondDraw, Option.isSome_map, representable.auth]
    · dsimp only
      split
      · rw [Option.isSome_map]
        exact representable.lockout
      · rfl

theorem Representable.issueTicketChecked (representable : manager.Representable now)
    (context : AuthContext) (purpose : TicketPurpose) (state : AuthState) (rng : Rng) :
    (manager.issueTicketChecked now context purpose state rng).isSome = true := by
  unfold AuthManager.issueTicketChecked
  rcases draw : rng.randomToken with ⟨_ | token, rng'⟩
  · rfl
  · dsimp only
    split
    · rw [Option.isSome_map]
      exact representable.ticket
    · rfl

/-- Where the additions are in range, nothing panics. -/
theorem Representable.performChecked (representable : manager.Representable now)
    (request : AuthRequest) (state : AuthState) (rng : Rng) :
    (manager.performChecked now request state rng).isSome = true := by
  cases request with
  | exchangePairing presented =>
      unfold AuthManager.performChecked
      rw [Option.isSome_map]
      exact representable.exchangePairingChecked presented state rng
  | issueTicket context purpose =>
      unfold AuthManager.performChecked
      rw [Option.isSome_map]
      exact representable.issueTicketChecked context purpose state rng
  | _ => rfl

end AuthManager

end XanhTab
