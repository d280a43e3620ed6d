import Mathlib.Algebra.Group.Nat.Defs
import Mathlib.Logic.Basic

/-!
# Numerals

Reading back what `Nat.toDigits` writes, for the bases up to sixteen, and the
numbers that are made up of parts of equal size.
-/

namespace XanhTab.Numeral

/-! ## Digits -/

def digitValue (c : Char) : Option Nat :=
  if '0' ≤ c ∧ c ≤ '9' then some (c.toNat - '0'.toNat)
  else if 'a' ≤ c ∧ c ≤ 'f' then some (c.toNat - 'a'.toNat + 10)
  else if 'A' ≤ c ∧ c ≤ 'F' then some (c.toNat - 'A'.toNat + 10)
  else none

/-- Read digits after those that have made up the value. -/
def readFrom (base value : Nat) : List Char → Option Nat
  | [] => some value
  | c :: rest => (digitValue c).bind fun digit =>
      if digit < base then readFrom base (value * base + digit) rest else none

/-- A numeral has at least one digit. -/
def read (base : Nat) (text : List Char) : Option Nat :=
  if text = [] then none else readFrom base 0 text

theorem digitValue_digitChar {digit : Nat} (small : digit < 16) :
    digitValue digit.digitChar = some digit := by
  have every : ∀ digit : Fin 16, digitValue digit.val.digitChar = some digit.val := by decide
  exact every ⟨digit, small⟩

theorem readFrom_append (base value : Nat) (front back : List Char) :
    readFrom base value (front ++ back) =
      (readFrom base value front).bind fun value => readFrom base value back := by
  induction front generalizing value with
  | nil => rfl
  | cons c rest ih =>
      simp only [List.cons_append, readFrom]
      cases digitValue c with
      | none => rfl
      | some digit =>
          simp only [Option.bind_some]
          split
          · exact ih _
          · rfl

theorem readFrom_toDigits {base : Nat} (large : 1 < base) (small : base ≤ 16) (n : Nat) :
    readFrom base 0 (Nat.toDigits base n) = some n := by
  have single : ∀ value digit, digit < base →
      readFrom base value [digit.digitChar] = some (value * base + digit) := by
    intro value digit below
    simp only [readFrom, digitValue_digitChar (Nat.lt_of_lt_of_le below small), Option.bind_some,
      if_pos below]
  induction n using Nat.strongRecOn with
  | ind n ih =>
      by_cases below : n < base
      · rw [Nat.toDigits_of_lt_base below, single 0 n below]
        simp
      · have positive : 0 < n := by omega
        rw [Nat.toDigits_of_base_le large (Nat.le_of_not_lt below), readFrom_append,
          ih (n / base) (Nat.div_lt_self positive large), Option.bind_some,
          single _ _ (Nat.mod_lt n (by omega)), Nat.mul_comm, Nat.div_add_mod]

theorem read_toDigits {base : Nat} (large : 1 < base) (small : base ≤ 16) (n : Nat) :
    read base (Nat.toDigits base n) = some n := by
  unfold read
  rw [if_neg Nat.toDigits_ne_nil]
  exact readFrom_toDigits large small n

theorem digitValue_of_readFrom {base value n : Nat} {text : List Char}
    (readable : readFrom base value text = some n) : ∀ c ∈ text, digitValue c ≠ none := by
  induction text generalizing value with
  | nil => exact fun _ member => nomatch member
  | cons first rest ih =>
      rcases Option.bind_eq_some_iff.mp readable with ⟨digit, valued, remaining⟩
      split at remaining
      · intro c member
        rcases List.mem_cons.mp member with rfl | later
        · rw [valued]
          exact nofun
        · exact ih remaining c later
      · cases remaining

/-- A character that is no digit stands in no numeral. -/
theorem not_mem_toDigits {base : Nat} (large : 1 < base) (small : base ≤ 16) (n : Nat) {c : Char}
    (other : digitValue c = none) : c ∉ Nat.toDigits base n :=
  fun member => digitValue_of_readFrom (readFrom_toDigits large small n) c member other

/-! ## Parts -/

/-- The number that the parts make up, the most significant one first. -/
def compose (base : Nat) (parts : List Nat) : Nat :=
  parts.foldl (fun value part => value * base + part) 0

/-- The last parts of a number. -/
def decompose (base : Nat) : Nat → Nat → List Nat
  | 0, _ => []
  | count + 1, n => decompose base count (n / base) ++ [n % base]

@[simp]
theorem length_decompose (base count n : Nat) : (decompose base count n).length = count := by
  induction count generalizing n with
  | zero => rfl
  | succ count ih => simp [decompose, ih]

theorem lt_of_mem_decompose {base count n part : Nat} (positive : 0 < base)
    (member : part ∈ decompose base count n) : part < base := by
  induction count generalizing n with
  | zero => cases member
  | succ count ih =>
      rcases List.mem_append.mp member with earlier | last
      · exact ih earlier
      · rw [List.mem_singleton.mp last]
        exact Nat.mod_lt n positive

theorem compose_decompose {base count n : Nat} (small : n < base ^ count) :
    compose base (decompose base count n) = n := by
  induction count generalizing n with
  | zero =>
      rw [Nat.pow_zero] at small
      rw [Nat.lt_one_iff.mp small]
      rfl
  | succ count ih =>
      have quotient : n / base < base ^ count := by
        apply Nat.div_lt_of_lt_mul
        rwa [Nat.mul_comm, ← Nat.pow_succ]
      have earlier := ih quotient
      unfold compose at earlier ⊢
      simp only [decompose, List.foldl_append, List.foldl_cons, List.foldl_nil, earlier]
      rw [Nat.mul_comm, Nat.div_add_mod]

end XanhTab.Numeral
