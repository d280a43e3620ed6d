import XanhTab.Daemon.Clock

/-!
# Overflow of the clock

Runs of the authentication manager on a clock with a range.  A run ends where an
addition panics.  The time to live of a session has no upper bound in a valid
configuration, and it decides alone whether an instant is late enough for a panic.
-/

namespace XanhTab

open Transition XanhTab.Configuration

/-- The instant that a clock with a range shows. -/
def Timespec.read (now : Instant) : Option Timespec :=
  (Seconds.checked (now / nanosPerSecond : Nat)).map fun seconds =>
    ⟨seconds, ⟨now % nanosPerSecond, Nat.mod_lt now (by decide)⟩⟩

theorem Timespec.read_toInstant {now : Timespec} (started : 0 ≤ now.seconds.val) :
    Timespec.read now.toInstant = some now := by
  have below : now.nanos.val < 1000000000 := now.nanos.isLt
  have total : (now.toInstant : Int) = now.total := by
    apply Int.toNat_of_nonneg
    unfold Timespec.total nanosPerSecond
    omega
  unfold Timespec.total nanosPerSecond at total
  have seconds : Seconds.checked (now.toInstant / nanosPerSecond : Nat) = some now.seconds := by
    rw [Seconds.checked_eq_some_iff]
    unfold nanosPerSecond
    omega
  unfold Timespec.read
  rw [seconds, Option.map_some]
  refine congrArg some (Timespec.ext_total ?_)
  unfold Timespec.total nanosPerSecond
  dsimp only
  omega

namespace AuthManager

/-- A step of a run, unless it panics. -/
def checkedStep (manager : AuthManager) : Step AuthRun AuthLabel
  | run, .perform request =>
      (Timespec.read run.now).bind fun now =>
        (manager.performChecked now request run.state run.rng).map fun after =>
          run.after after.1 after.2.1 after.2.2
  | run, .elapse duration => some { run with now := run.now + duration }

/-- In no state that is reached by now does an operation panic. -/
def NeverPanics (manager : AuthManager) (now : Timespec) : Prop :=
  ∀ rng run, Reachable manager.checkedStep { rng := rng } run → run.now = now.toInstant →
    ∀ request, (manager.performChecked now request run.state run.rng).isSome = true

variable {manager : AuthManager} {now : Timespec}

/-- A pairing is redeemed at the given instant, on a random source that never fails. -/
theorem exists_exchange_of_overflow (started : 0 ≤ now.seconds.val)
    (overflow : now.checkedAdd manager.authTtl = none) :
    ∃ rng run presented, Reachable manager.checkedStep { rng := rng } run ∧
      run.now = now.toInstant ∧
      manager.performChecked now (.exchangePairing presented) run.state run.rng = none := by
  let raw : Bytes32 := Vector.replicate 32 0
  let rng : Rng := { tape := fun _ => some raw }
  have waited : manager.checkedStep { rng := rng } (.elapse now.toInstant) =
      some { rng := rng, now := now.toInstant } := by
    simp only [checkedStep, Nat.zero_add]
  let ready : AuthRun := { rng := rng, now := now.toInstant }
  let after := manager.perform now.toInstant .rotatePairing ready.state rng
  let run : AuthRun := ready.after after.1 after.2.1 after.2.2
  have rotated : manager.checkedStep ready (.perform .rotatePairing) = some run := by
    have read : Timespec.read ready.now = some now := Timespec.read_toInstant started
    simp only [checkedStep, read, Option.bind_some]
    rfl
  have unlocked : run.state.lockedUntil = none := rfl
  have stored : run.state.pairingHash = some (hash (Encoding.urlSafeNoPad raw)) := rfl
  have tape : run.rng.tape = fun _ => some raw := rfl
  refine ⟨rng, run, Encoding.urlSafeNoPad raw,
    (ReachableUnder.single trivial waited).tail trivial rotated, rfl, ?_⟩
  simp only [performChecked, exchangePairingChecked, unlocked, stored, Option.any_none,
    Bool.false_eq_true, if_false, true_or, if_true, Rng.randomToken, Rng.randomBytes, tape,
    Option.map_some, overflow, Option.map_none]

end AuthManager

/-- The manager that `main.rs` makes from the configuration. -/
def Configuration.Config.authManager (config : Configuration.Config) : AuthManager :=
  ⟨Duration.ofSeconds config.session.authTtlSeconds,
    Duration.ofSeconds config.session.ticketTtlSeconds⟩

section Limits

variable {crate : UrlCrate} {config : Configuration.Config} {now : Timespec}

theorem isSome_checkedAdd_ofSeconds_iff {seconds : Nat} :
    (now.checkedAdd (Duration.ofSeconds seconds)).isSome = true ↔
      now.seconds.val + seconds < 2 ^ 63 := by
  have below : now.nanos.val < 1000000000 := now.nanos.isLt
  rw [Timespec.isSome_checkedAdd_iff]
  unfold Timespec.total Duration.ofSeconds nanosPerSecond
  omega

/-- The other two additions are of less than the time to live of a session. -/
theorem limits_of_validate (valid : config.validate crate = .ok ()) :
    300 ≤ config.session.authTtlSeconds ∧ config.session.ticketTtlSeconds ≤ 300 := by
  have limits := (Configuration.Config.validate_eq_ok_iff.mp valid).2.1
  unfold Configuration.Config.checkLimits at limits
  rw [checkAll_eq_ok_iff, List.forall_mem_cons, List.forall_mem_cons, check_eq_ok_iff,
    check_eq_ok_iff, decide_eq_true_eq, Bool.and_eq_true, decide_eq_true_eq, decide_eq_true_eq]
    at limits
  exact ⟨limits.1, limits.2.1.2⟩

theorem representable_iff (valid : config.validate crate = .ok ()) :
    config.authManager.Representable now ↔
      now.seconds.val + config.session.authTtlSeconds < 2 ^ 63 := by
  rcases limits_of_validate valid with ⟨long, short⟩
  constructor
  · intro representable
    exact isSome_checkedAdd_ofSeconds_iff.mp representable.auth
  · intro early
    constructor
    · exact isSome_checkedAdd_ofSeconds_iff.mpr early
    · exact isSome_checkedAdd_ofSeconds_iff.mpr (by omega)
    · exact isSome_checkedAdd_ofSeconds_iff.mpr (by omega)

end Limits

/-- With a valid configuration, the additions are in range, and redeeming a pairing
or issuing a ticket panics in no state that is reached, exactly while the clock and
the time to live of a session add up to less than the range of its seconds. -/
theorem neverPanics_iff {crate : UrlCrate} {config : Configuration.Config} {now : Timespec}
    (valid : config.validate crate = .ok ()) (started : 0 ≤ now.seconds.val) :
    (config.authManager.Representable now ↔
        now.seconds.val + config.session.authTtlSeconds < 2 ^ 63) ∧
      (config.authManager.NeverPanics now ↔
        now.seconds.val + config.session.authTtlSeconds < 2 ^ 63) := by
  refine ⟨representable_iff valid, ?_⟩
  constructor
  · intro never
    by_contra late
    have overflow : now.checkedAdd config.authManager.authTtl = none := by
      rw [← Option.not_isSome_iff_eq_none]
      exact fun added => late (isSome_checkedAdd_ofSeconds_iff.mp added)
    rcases AuthManager.exists_exchange_of_overflow started overflow with
      ⟨rng, run, presented, reachable, time, panics⟩
    have returns := never rng run reachable time (.exchangePairing presented)
    rw [panics] at returns
    cases returns
  · intro early rng run _ _ request
    exact ((representable_iff valid).mpr early).performChecked request run.state run.rng

namespace Sample

/-- The default configuration with the longest time to live that a file can set. -/
def endless : Configuration.Config :=
  { session := { authTtlSeconds := 9223372036854775807 } }

theorem endless_validate : endless.validate tableCrate = .ok () := by
  have parses := tableCrate_parsesDefaults
  rcases Configuration.Config.validate_eq_ok_iff.mp (Configuration.Config.default_validate parses) with
    ⟨server, _, paths, url, network, signaling⟩
  refine Configuration.Config.validate_eq_ok_iff.mpr ⟨server, rfl, paths, url, network, signaling⟩

/-- A clock one second after its origin. -/
def firstSecond : Timespec :=
  ⟨⟨1, by decide⟩, ⟨0, by decide⟩⟩

end Sample

/-- A session that may live for as long as a file can say panics after one second. -/
theorem not_neverPanics_of_endless :
    ¬ ∀ (crate : UrlCrate) (config : Configuration.Config) (now : Timespec), config.validate crate = .ok () →
      0 ≤ now.seconds.val → config.authManager.Representable now ∧
        config.authManager.NeverPanics now := by
  intro always
  have never := (always Sample.tableCrate Sample.endless Sample.firstSecond Sample.endless_validate
    (by decide)).2
  have overflow : Sample.firstSecond.checkedAdd Sample.endless.authManager.authTtl = none := by
    decide +kernel
  rcases AuthManager.exists_exchange_of_overflow (by decide) overflow with
    ⟨rng, run, presented, reachable, time, panics⟩
  have returns := never rng run reachable time (.exchangePairing presented)
  rw [panics] at returns
  cases returns

theorem neverPanics_of_default : ({} : Configuration.Config).authManager.NeverPanics Sample.firstSecond :=
  (neverPanics_iff (Configuration.Config.default_validate Sample.tableCrate_parsesDefaults) (by decide)).2.mpr
    (by decide)

end XanhTab
