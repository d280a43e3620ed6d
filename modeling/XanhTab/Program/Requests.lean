import XanhTab.Program.Pool

/-!
# Requests of programs

What the requests that a program may make have in common, whatever they are
replied.  While a pool goes on with what it has started and starts nothing new,
the world keeps every invariant that the answers to these requests keep.
-/

namespace XanhTab

open Transition

universe u v w x y

variable {M : Type u} {C : Type v} {ρ : C → Type w} {α β : Type x} {W O : Type y}
  {Op Task Noise : Type}

namespace Program

/-- Every request of the program is allowed. -/
def Uses (allowed : C → Prop) : Program M C ρ α → Prop
  | .done _ => True
  | .access _ _ next => ∀ memory, Uses allowed (next memory)
  | .call _ request next => allowed request ∧ ∀ reply, Uses allowed (next reply)

namespace Uses

variable {allowed : C → Prop}

theorem bind {program : Program M C ρ α} {rest : α → Program M C ρ β}
    (first : program.Uses allowed) (second : ∀ result, (rest result).Uses allowed) :
    (program >>= rest).Uses allowed := by
  induction program with
  | done result => exact second result
  | access awaits update next ih => exact fun memory => ih memory (first memory)
  | call awaits request next ih => exact ⟨first.1, fun reply => ih reply (first.2 reply)⟩

theorem andThen {ε : Type x} {program : Program M C ρ (Except ε α)}
    {rest : α → Program M C ρ (Except ε β)} (first : program.Uses allowed)
    (second : ∀ value, (rest value).Uses allowed) : (program.andThen rest).Uses allowed := by
  apply first.bind
  intro result
  cases result with
  | error error => trivial
  | ok value => exact second value

end Uses

end Program

/-- What is left to run makes allowed requests only. -/
structure Config.Uses (allowed : C → Prop) (config : Config M C ρ α W) : Prop where
  holder : ∀ program, config.holder = some program → program.Uses allowed
  tasks : ∀ program ∈ config.tasks, program.Uses allowed

/-- The pool goes on with what it has started. -/
def Pool.Label.Ongoing : Pool.Label Op Task Noise O → Prop
  | .start _ | .spawn _ => False
  | _ => True

/-! ## Invariants of the world -/

section Invariant

variable {allowed : C → Prop} {invariant : W → Prop} {answer : Answer C ρ W O}
  (answers : ∀ request, allowed request → ∀ outcome world reply world',
    answer request outcome world = some (reply, world') → invariant world → invariant world')
include answers

theorem Program.Uses.advance {outcome : Option O} {memory : M} {world : W}
    {program : Program M C ρ α} {after : Program M C ρ α × M × W} (uses : program.Uses allowed)
    (advanced : program.advance answer outcome memory world = some after)
    (holds : invariant world) : after.1.Uses allowed ∧ invariant after.2.2 := by
  cases program with
  | done _ => cases advanced
  | access _ _ _ =>
      cases advanced
      exact ⟨uses memory, holds⟩
  | call _ request _ =>
      rcases Option.bind_eq_some_iff.mp advanced with ⟨chosen, _, replied⟩
      rcases Option.map_eq_some_iff.mp replied with ⟨answered, given, rfl⟩
      exact ⟨uses.2 answered.1,
        answers request uses.1 chosen world answered.1 answered.2 given holds⟩

theorem Program.Uses.abandon {outcome : Option O} {world world' : W}
    {program : Program M C ρ α} (uses : program.Uses allowed)
    (dropped : program.abandon answer outcome world = some world') (holds : invariant world) :
    invariant world' := by
  cases program with
  | done _ => cases dropped
  | access awaits _ _ =>
      cases awaits with
      | false => cases dropped
      | true =>
          cases dropped
          exact holds
  | call awaits request _ =>
      cases awaits with
      | false => cases dropped
      | true =>
          cases outcome with
          | none =>
              cases dropped
              exact holds
          | some chosen =>
              rcases Option.map_eq_some_iff.mp dropped with ⟨answered, given, rfl⟩
              exact answers request uses.1 chosen world answered.1 answered.2 given holds

end Invariant

variable {pool : Pool M C ρ α W O Op Task Noise} {allowed : C → Prop} {invariant : W → Prop}

/-- One step of a pool that goes on. -/
theorem Pool.step_of_uses
    (answers : ∀ request, allowed request → ∀ outcome world reply world',
      pool.answer request outcome world = some (reply, world') → invariant world →
      invariant world')
    (noises : ∀ event memory world memory' world',
      pool.noise event memory world = some (memory', world') → invariant world → invariant world')
    {config config' : Config M C ρ α W} {label : Pool.Label Op Task Noise O}
    (ongoing : label.Ongoing) (step : pool.step config label = some config')
    (holds : config.Uses allowed ∧ invariant config.world) :
    config'.Uses allowed ∧ invariant config'.world := by
  rcases holds with ⟨uses, holds⟩
  cases label with
  | start op => exact ongoing.elim
  | spawn task => exact ongoing.elim
  | step outcome =>
      rcases Option.bind_eq_some_iff.mp step with ⟨program, running, mapped⟩
      rcases Option.map_eq_some_iff.mp mapped with ⟨after, advanced, rfl⟩
      rcases (uses.holder program running).advance answers advanced holds with ⟨left, kept⟩
      refine ⟨⟨?_, uses.tasks⟩, kept⟩
      rintro _ ⟨⟩
      exact left
  | drop outcome =>
      rcases Option.bind_eq_some_iff.mp step with ⟨program, running, mapped⟩
      rcases Option.map_eq_some_iff.mp mapped with ⟨after, dropped, rfl⟩
      exact ⟨⟨fun _ free => (by cases free), uses.tasks⟩,
        (uses.holder program running).abandon answers dropped holds⟩
  | finish =>
      simp only [Pool.step] at step
      split at step
      · cases step
        exact ⟨⟨fun _ free => (by cases free), uses.tasks⟩, holds⟩
      · cases step
  | stepTask index outcome =>
      rcases Option.bind_eq_some_iff.mp step with ⟨program, running, mapped⟩
      rcases Option.map_eq_some_iff.mp mapped with ⟨after, advanced, rfl⟩
      have member := List.mem_of_getElem? running
      rcases (uses.tasks program member).advance answers advanced holds with ⟨left, kept⟩
      refine ⟨⟨uses.holder, ?_⟩, kept⟩
      intro other listed
      rcases List.mem_or_eq_of_mem_set listed with old | rfl
      · exact uses.tasks other old
      · exact left
  | dropTask index outcome =>
      rcases Option.bind_eq_some_iff.mp step with ⟨program, running, mapped⟩
      rcases Option.map_eq_some_iff.mp mapped with ⟨after, dropped, rfl⟩
      have member := List.mem_of_getElem? running
      refine ⟨⟨uses.holder, ?_⟩, (uses.tasks program member).abandon answers dropped holds⟩
      exact fun other listed => uses.tasks other (List.mem_of_mem_eraseIdx listed)
  | noise event =>
      rcases Option.map_eq_some_iff.mp step with ⟨after, changed, rfl⟩
      exact ⟨⟨uses.holder, uses.tasks⟩,
        noises event config.memory config.world after.1 after.2 changed holds⟩

/-- A pool that goes on keeps the invariants of its requests. -/
theorem Pool.invariant_of_uses
    (answers : ∀ request, allowed request → ∀ outcome world reply world',
      pool.answer request outcome world = some (reply, world') → invariant world →
      invariant world')
    (noises : ∀ event memory world memory' world',
      pool.noise event memory world = some (memory', world') → invariant world → invariant world')
    {source target : Config M C ρ α W} (uses : source.Uses allowed)
    (initial : invariant source.world)
    (reaches : ReachableUnder pool.step (fun _ label => label.Ongoing) source target) :
    invariant target.world := by
  have both : target.Uses allowed ∧ invariant target.world := by
    induction reaches with
    | refl => exact ⟨uses, initial⟩
    | tail _ ongoing step ih => exact step_of_uses answers noises ongoing step ih
  exact both.2

end XanhTab
