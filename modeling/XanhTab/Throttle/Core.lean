import Mathlib.Data.List.Basic

/-!
# Lockouts

A gate that counts failed attempts and closes for a while whenever a given
number of them has been counted.  While it is closed it refuses attempts, which
are not counted and do not keep it closed for longer.
-/

namespace XanhTab.Throttle

structure Gate where
  failures : Nat := 0
  lockedUntil : Option Nat := none
  deriving DecidableEq, Repr

namespace Gate

/-- The lockout has not ended yet. -/
def closed (gate : Gate) (now : Nat) : Bool :=
  gate.lockedUntil.any (· > now)

variable (limit pause : Nat)

/-- The gate after it has counted a failure. -/
def fail (now : Nat) (gate : Gate) : Gate :=
  if limit ≤ gate.failures + 1 then { failures := 0, lockedUntil := some (now + pause) }
  else { failures := gate.failures + 1, lockedUntil := none }

/-- The times of the attempts that are counted, if attempts fail at the times. -/
def counted : Gate → List Nat → List Nat
  | _, [] => []
  | gate, now :: rest =>
      if gate.closed now then counted gate rest
      else now :: counted (gate.fail limit pause now) rest

/-- The gate after failing attempts at the times. -/
def after : Gate → List Nat → Gate
  | gate, [] => gate
  | gate, now :: rest =>
      if gate.closed now then after gate rest else after (gate.fail limit pause now) rest

/-- The times in a half-open window of the length of a lockout. -/
def inWindow (start : Nat) (times : List Nat) : List Nat :=
  times.filter fun time => start ≤ time ∧ time < start + pause

variable {limit pause}

theorem closed_iff {gate : Gate} {now : Nat} :
    gate.closed now = true ↔ ∃ time, gate.lockedUntil = some time ∧ now < time := by
  unfold closed
  cases gate.lockedUntil with
  | none => simp
  | some time => simp

theorem after_append (gate : Gate) (first second : List Nat) :
    gate.after limit pause (first ++ second) =
      (gate.after limit pause first).after limit pause second := by
  induction first generalizing gate with
  | nil => rfl
  | cons now rest ih =>
      simp only [List.cons_append, after]
      split
      · exact ih _
      · exact ih _

theorem counted_append (gate : Gate) (first second : List Nat) :
    gate.counted limit pause (first ++ second) =
      gate.counted limit pause first ++ (gate.after limit pause first).counted limit pause second := by
  induction first generalizing gate with
  | nil => rfl
  | cons now rest ih =>
      simp only [List.cons_append, counted, after]
      split
      · exact ih _
      · rw [ih, List.cons_append]

/-! ## The bound on a window -/

theorem inWindow_cons_of_mem {start time : Nat} (rest : List Nat) (late : start ≤ time)
    (early : time < start + pause) :
    inWindow pause start (time :: rest) = time :: inWindow pause start rest := by
  unfold inWindow
  rw [List.filter_cons_of_pos]
  simp [late, early]

theorem inWindow_cons_of_not_mem {start time : Nat} (rest : List Nat)
    (outside : ¬ (start ≤ time ∧ time < start + pause)) :
    inWindow pause start (time :: rest) = inWindow pause start rest := by
  unfold inWindow
  rw [List.filter_cons_of_neg]
  simpa using outside

/-- Only attempts are counted. -/
theorem mem_of_mem_counted {gate : Gate} {times : List Nat} {time : Nat}
    (member : time ∈ gate.counted limit pause times) : time ∈ times := by
  induction times generalizing gate with
  | nil => cases member
  | cons now rest ih =>
      unfold counted at member
      split at member
      · exact List.mem_cons_of_mem _ (ih member)
      · rcases List.mem_cons.mp member with rfl | later
        · exact List.mem_cons_self
        · exact List.mem_cons_of_mem _ (ih later)

/-- While the gate is closed nothing is counted. -/
theorem le_of_mem_counted {gate : Gate} {times : List Nat} {lock time : Nat}
    (ordered : times.Pairwise (· ≤ ·)) (locked : gate.lockedUntil = some lock)
    (member : time ∈ gate.counted limit pause times) : lock ≤ time := by
  induction times with
  | nil => cases member
  | cons now rest ih =>
      rcases List.pairwise_cons.mp ordered with ⟨first, remaining⟩
      unfold counted at member
      by_cases shut : gate.closed now = true
      · rw [if_pos shut] at member
        exact ih remaining member
      · rw [if_neg shut] at member
        have past : lock ≤ now := by
          by_contra before
          exact shut (closed_iff.mpr ⟨lock, locked, Nat.lt_of_not_le before⟩)
        rcases List.mem_cons.mp member with rfl | later
        · exact past
        · exact Nat.le_trans past (first _ (mem_of_mem_counted later))

theorem inWindow_eq_nil {start : Nat} {times : List Nat}
    (late : ∀ time ∈ times, start + pause ≤ time) : inWindow pause start times = [] := by
  unfold inWindow
  rw [List.filter_eq_nil_iff]
  intro time member inside
  have := late time member
  simp only [Bool.decide_and, Bool.and_eq_true, decide_eq_true_eq] at inside
  omega

theorem fail_failures_lt {gate : Gate} (below : gate.failures < limit) (now : Nat) :
    (gate.fail limit pause now).failures < limit := by
  unfold fail
  split
  · show 0 < limit
    omega
  · show gate.failures + 1 < limit
    omega

/-- Once a window has begun, no more is counted in it than the gate has left
before it closes, since it then stays closed to the end of the window. -/
theorem length_inWindow_add_failures_le {gate : Gate} {times : List Nat} {start : Nat}
    (ordered : times.Pairwise (· ≤ ·)) (begun : ∀ time ∈ times, start ≤ time)
    (below : gate.failures < limit) :
    (inWindow pause start (gate.counted limit pause times)).length + gate.failures ≤ limit := by
  induction times generalizing gate with
  | nil =>
      simp only [counted, inWindow, List.filter_nil, List.length_nil]
      omega
  | cons now rest ih =>
      rcases List.pairwise_cons.mp ordered with ⟨first, remaining⟩
      have begunRest : ∀ time ∈ rest, start ≤ time := by
        intro time member
        exact begun time (List.mem_cons_of_mem _ member)
      unfold counted
      by_cases shut : gate.closed now = true
      · rw [if_pos shut]
        exact ih remaining begunRest below
      · rw [if_neg shut]
        by_cases outside : start + pause ≤ now
        · -- The window is over, and nothing after this attempt lies in it.
          rw [inWindow_eq_nil]
          · simp only [List.length_nil]
            omega
          · intro time member
            rcases List.mem_cons.mp member with rfl | later
            · exact outside
            · exact Nat.le_trans outside (first _ (mem_of_mem_counted later))
        · rw [inWindow_cons_of_mem _ (begun now List.mem_cons_self) (by omega),
            List.length_cons]
          by_cases last : limit ≤ gate.failures + 1
          · -- The gate closes, and stays closed for the rest of the window.
            have locks : (gate.fail limit pause now).lockedUntil = some (now + pause) := by
              unfold fail
              rw [if_pos last]
            rw [inWindow_eq_nil]
            · simp only [List.length_nil]
              omega
            · intro time member
              have opened := le_of_mem_counted remaining locks member
              have started := begun now List.mem_cons_self
              omega
          · have counts : (gate.fail limit pause now).failures = gate.failures + 1 := by
              unfold fail
              rw [if_neg last]
            have still : (gate.fail limit pause now).failures < limit := fail_failures_lt below now
            have bound := ih remaining begunRest still
            rw [counts] at bound
            omega

/-- No window of the length of a lockout contains more counted failures than
the gate allows before it closes. -/
theorem length_inWindow_le {gate : Gate} {times : List Nat} (start : Nat)
    (ordered : times.Pairwise (· ≤ ·)) (below : gate.failures < limit) :
    (inWindow pause start (gate.counted limit pause times)).length ≤ limit := by
  induction times generalizing gate with
  | nil => exact Nat.zero_le _
  | cons now rest ih =>
      rcases List.pairwise_cons.mp ordered with ⟨first, remaining⟩
      by_cases begun : start ≤ now
      · have bound : (inWindow pause start (gate.counted limit pause (now :: rest))).length +
            gate.failures ≤ limit := by
          apply length_inWindow_add_failures_le ordered _ below
          intro time member
          rcases List.mem_cons.mp member with rfl | later
          · exact begun
          · exact Nat.le_trans begun (first _ later)
        omega
      · unfold counted
        by_cases shut : gate.closed now = true
        · rw [if_pos shut]
          exact ih remaining below
        · rw [if_neg shut, inWindow_cons_of_not_mem _ (fun inside => begun inside.1)]
          exact ih remaining (fail_failures_lt below now)

/-! ## When the gate is closed -/

/-- A lockout is in force if the last failure that was counted has filled the
number allowed and is recent.  Before the first one it is as it was. -/
def Lockout (limit pause : Nat) (gate : Gate) (times : List Nat) (now : Nat) : Prop :=
  match times.getLast? with
  | none => gate.closed now = true
  | some last => limit ∣ gate.failures + times.length ∧ now < last + pause

/-- Counting a failure adds one to what the gate has counted, up to the number
allowed. -/
theorem dvd_fail_failures {gate : Gate} (below : gate.failures < limit) (now count : Nat) :
    limit ∣ (gate.fail limit pause now).failures + count ↔ limit ∣ gate.failures + (count + 1) := by
  unfold fail
  by_cases last : limit ≤ gate.failures + 1
  · have full : gate.failures + (count + 1) = limit + count := by omega
    rw [if_pos last, full, Nat.dvd_add_right (Nat.dvd_refl limit)]
    simp
  · rw [if_neg last]
    have same : gate.failures + 1 + count = gate.failures + (count + 1) := by omega
    rw [same]

/-- A gate that has just counted a failure is closed if that one was the last
allowed. -/
theorem closed_fail_iff {gate : Gate} (below : gate.failures < limit) (time now : Nat) :
    (gate.fail limit pause time).closed now = true ↔
      limit ∣ gate.failures + 1 ∧ now < time + pause := by
  unfold fail
  by_cases last : limit ≤ gate.failures + 1
  · have full : gate.failures + 1 = limit := by omega
    rw [if_pos last, full]
    simp [closed]
  · have partly : ¬ limit ∣ gate.failures + 1 := by
      intro divides
      exact last (Nat.le_of_dvd (Nat.succ_pos _) divides)
    rw [if_neg last]
    simp [closed, partly]

/-- After any attempts the gate is closed exactly during a lockout. -/
theorem closed_after_iff {gate : Gate} {times : List Nat} (below : gate.failures < limit)
    (now : Nat) :
    (gate.after limit pause times).closed now = true ↔
      gate.Lockout limit pause (gate.counted limit pause times) now := by
  induction times generalizing gate with
  | nil => exact Iff.rfl
  | cons time rest ih =>
      unfold after counted
      by_cases shut : gate.closed time = true
      · rw [if_pos shut, if_pos shut]
        exact ih below
      · rw [if_neg shut, if_neg shut, ih (fail_failures_lt below time)]
        cases later : (gate.fail limit pause time).counted limit pause rest with
        | nil =>
            show (gate.fail limit pause time).closed now = true ↔ _
            rw [closed_fail_iff below]
            exact Iff.rfl
        | cons next more =>
            unfold Lockout
            rw [List.getLast?_cons_cons]
            cases last : (next :: more).getLast? with
            | none => simp at last
            | some final => exact and_congr_left' (dvd_fail_failures below time _)

end Gate

end XanhTab.Throttle
