import XanhTab.Program.Segment

/-!
# What a program does and returns

A predicate on programs that speaks of every section and of every result at
once, and the trace of what one program does among others.  A trace lists the
program's own changes only: each section finds the memory that others have left.
-/

namespace XanhTab

open Transition

universe u v x y

variable {M : Type u} {C : Type v} {ρ : C → Type x} {α β : Type x} {W O : Type y}

namespace Program

/-- Every section is in the relation and every result satisfies the predicate,
whatever is found and whatever is replied. -/
def Outcomes (related : M → M → Prop) (ends : α → Prop) : Program M C ρ α → Prop
  | .done result => ends result
  | .access _ update next => ∀ memory,
      related memory (update memory) ∧ Outcomes related ends (next memory)
  | .call _ _ next => ∀ reply, Outcomes related ends (next reply)

namespace Outcomes

variable {related : M → M → Prop} {ends : α → Prop}

/-- Nothing is said of the results. -/
theorem of_sections {program : Program M C ρ α} (sections : program.Sections related)
    (every : ∀ result, ends result) : program.Outcomes related ends := by
  induction program with
  | done result => exact every result
  | access awaits update next ih =>
      exact fun memory => ⟨(sections memory).1, ih memory (sections memory).2⟩
  | call awaits request next ih => exact fun reply => ih reply (sections reply)

theorem bind {program : Program M C ρ β} {rest : β → Program M C ρ α} {middle : β → Prop}
    (first : program.Outcomes related middle)
    (second : ∀ value, middle value → (rest value).Outcomes related ends) :
    (program >>= rest).Outcomes related ends := by
  induction program with
  | done value => exact second value first
  | access awaits update next ih => exact fun memory => ⟨(first memory).1, ih _ (first memory).2⟩
  | call awaits request next ih => exact fun reply => ih reply (first reply)

theorem transact {awaits : Bool} {body : M → α × M}
    (steps : ∀ memory, related memory (body memory).2 ∧ ends (body memory).1) :
    (.transact awaits body : Program M C ρ α).Outcomes related ends :=
  steps

theorem andThen {ε : Type x} {program : Program M C ρ (Except ε β)}
    {rest : β → Program M C ρ (Except ε α)} {ends : Except ε α → Prop}
    (first : program.Outcomes related fun result => ∀ error, result = .error error →
      ends (.error error))
    (second : ∀ value, (rest value).Outcomes related ends) :
    (program.andThen rest).Outcomes related ends := by
  apply first.bind
  intro result failed
  cases result with
  | error error => exact failed error rfl
  | ok value => exact second value

theorem mono {program : Program M C ρ α} {weaker : α → Prop}
    (outcomes : program.Outcomes related ends) (weakens : ∀ result, ends result → weaker result) :
    program.Outcomes related weaker := by
  induction program with
  | done result => exact weakens result outcomes
  | access awaits update next ih =>
      exact fun memory => ⟨(outcomes memory).1, ih _ (outcomes memory).2⟩
  | call awaits request next ih => exact fun reply => ih reply (outcomes reply)

end Outcomes

/-- Run alone from this memory, and whatever is replied, the program ends with
a result and a memory that satisfy the predicate. -/
def Concludes (ends : α → M → Prop) : Program M C ρ α → M → Prop
  | .done result, memory => ends result memory
  | .access _ update next, memory => Concludes ends (next memory) (update memory)
  | .call _ _ next, memory => ∀ reply, Concludes ends (next reply) memory

namespace Concludes

variable {ends : α → M → Prop}

theorem unknown (program : Program M C ρ α) (memory : M) :
    program.Concludes (fun _ _ => True) memory := by
  induction program generalizing memory with
  | done value => trivial
  | access awaits update next ih => exact ih memory (update memory)
  | call awaits request next ih => exact fun reply => ih reply memory

theorem bind {program : Program M C ρ β} {rest : β → Program M C ρ α} {middle : β → M → Prop}
    {memory : M} (first : program.Concludes middle memory)
    (second : ∀ value memory, middle value memory → (rest value).Concludes ends memory) :
    (program >>= rest).Concludes ends memory := by
  induction program generalizing memory with
  | done value => exact second value memory first
  | access awaits update next ih => exact ih memory first
  | call awaits request next ih => exact fun reply => ih reply (first reply)

theorem advance {answer : Answer C ρ W O} {outcome : Option O} {memory : M} {world : W}
    {program : Program M C ρ α} {after : Program M C ρ α × M × W}
    (concludes : program.Concludes ends memory)
    (advanced : program.advance answer outcome memory world = some after) :
    after.1.Concludes ends after.2.1 := by
  cases program with
  | done _ => cases advanced
  | access _ _ _ =>
      cases advanced
      exact concludes
  | call _ request _ =>
      rcases Option.bind_eq_some_iff.mp advanced with ⟨chosen, _, replied⟩
      rcases Option.map_eq_some_iff.mp replied with ⟨answered, _, rfl⟩
      exact concludes answered.1

end Concludes

/-- The program runs to its end among others: its own changes, the calls that it
makes with their replies, and its result.  Each section finds a memory that
satisfies the predicate. -/
inductive Traces (found : M → Prop) :
    Program M C ρ α → List (M × M) → List ((request : C) × ρ request) → α → Prop
  | done (result : α) : Traces found (.done result) [] [] result
  | access {awaits : Bool} {update : M → M} {next : M → Program M C ρ α} {memory : M}
      {changes : List (M × M)} {calls : List ((request : C) × ρ request)} {result : α} :
      found memory → Traces found (next memory) changes calls result →
      Traces found (.access awaits update next) ((memory, update memory) :: changes) calls result
  | call {awaits : Bool} {request : C} {next : ρ request → Program M C ρ α} {reply : ρ request}
      {changes : List (M × M)} {calls : List ((request : C) × ρ request)} {result : α} :
      Traces found (next reply) changes calls result →
      Traces found (.call awaits request next) changes (⟨request, reply⟩ :: calls) result

/-- What holds of every result holds of that of a trace. -/
theorem Outcomes.of_traces {related : M → M → Prop} {ends : α → Prop} {found : M → Prop}
    {program : Program M C ρ α} {changes : List (M × M)}
    {calls : List ((request : C) × ρ request)} {result : α}
    (outcomes : program.Outcomes related ends)
    (traces : program.Traces found changes calls result) : ends result := by
  induction traces with
  | done result => exact outcomes
  | access _ _ ih => exact ih (outcomes _).2
  | call _ ih => exact ih (outcomes _)

theorem Traces.of_transact {found : M → Prop} {awaits : Bool} {body : M → β × M}
    {rest : β → Program M C ρ α} {changes : List (M × M)}
    {calls : List ((request : C) × ρ request)} {result : α}
    (traces : (transact awaits body >>= rest).Traces found changes calls result) :
    ∃ memory later, found memory ∧ changes = (memory, (body memory).2) :: later ∧
      (rest (body memory).1).Traces found later calls result := by
  cases traces with
  | access there followed => exact ⟨_, _, there, rfl, followed⟩

/-! ## Sections that are charged -/

/-- A section is charged exactly if it ends the program with a billed result. -/
def Charges (free charged : M → M → Prop) (billed : α → Prop) : Program M C ρ α → Prop
  | .done _ => True
  | .access _ update next => ∀ memory,
      (free memory (update memory) ∧ (∀ result, next memory = .done result → ¬ billed result) ∧
          Charges free charged billed (next memory)) ∨
        charged memory (update memory) ∧ ∃ result, next memory = .done result ∧ billed result
  | .call _ _ next => ∀ reply, Charges free charged billed (next reply)

namespace Charges

variable {free charged : M → M → Prop} {billed : α → Prop}

theorem of_outcomes {program : Program M C ρ α}
    (outcomes : program.Outcomes free fun result => ¬ billed result) :
    program.Charges free charged billed := by
  induction program with
  | done result => trivial
  | access awaits update next ih =>
      intro memory
      refine Or.inl ⟨(outcomes memory).1, fun result ended => ?_, ih _ (outcomes memory).2⟩
      have last := (outcomes memory).2
      rw [ended] at last
      exact last
  | call awaits request next ih => exact fun reply => ih reply (outcomes reply)

/-- No result of the first program is passed on as a billed one. -/
theorem bind {program : Program M C ρ β} {rest : β → Program M C ρ α} {middle : β → Prop}
    (first : program.Outcomes free middle)
    (passes : ∀ value, middle value → ∀ result, rest value = .done result → ¬ billed result)
    (second : ∀ value, middle value → (rest value).Charges free charged billed) :
    (program >>= rest).Charges free charged billed := by
  induction program with
  | done value => exact second value first
  | access awaits update next ih =>
      intro memory
      refine Or.inl ⟨(first memory).1, fun result ended => ?_, ih _ (first memory).2⟩
      have last := (first memory).2
      change next memory >>= rest = _ at ended
      cases followed : next memory with
      | done value =>
          rw [followed] at ended last
          exact passes value last result ended
      | access _ _ _ | call _ _ _ =>
          rw [followed] at ended
          cases ended
  | call awaits request next ih => exact fun reply => ih reply (first reply)

/-- The results may be translated. -/
theorem map {program : Program M C ρ β} {translate : β → α}
    (charges : program.Charges free charged fun value => billed (translate value)) :
    (program >>= fun value => .done (translate value)).Charges free charged billed := by
  induction program with
  | done value => trivial
  | access awaits update next ih =>
      intro memory
      rcases charges memory with ⟨moved, ended, later⟩ | ⟨moved, result, ended, bill⟩
      · refine Or.inl ⟨moved, fun result translated => ?_, ih _ later⟩
        change next memory >>= _ = _ at translated
        cases followed : next memory with
        | done value =>
            rw [followed] at translated
            cases translated
            exact ended value followed
        | access _ _ _ | call _ _ _ =>
            rw [followed] at translated
            cases translated
      · refine Or.inr ⟨moved, translate result, ?_, bill⟩
        change next memory >>= _ = _
        rw [ended]
        rfl
  | call awaits request next ih => exact fun reply => ih reply (charges reply)

/-- The second program takes a section before it ends. -/
theorem andThen {ε : Type x} {billed : Except ε α → Prop} {program : Program M C ρ (Except ε β)}
    {rest : β → Program M C ρ (Except ε α)}
    (first : program.Outcomes free fun result => ∀ error, result = .error error →
      ¬ billed (.error error))
    (continues : ∀ value result, rest value ≠ .done result)
    (second : ∀ value, (rest value).Charges free charged billed) :
    (program.andThen rest).Charges free charged billed := by
  apply bind first
  · intro result failed other ended
    cases result with
    | error error =>
        cases ended
        exact failed error rfl
    | ok value => exact absurd ended (continues value other)
  · intro result failed
    cases result with
    | error error => trivial
    | ok value => exact second value

end Charges

/-- The next step of the program is a section. -/
def isAccess : Program M C ρ α → Bool
  | .access .. => true
  | _ => false

end Program

end XanhTab
