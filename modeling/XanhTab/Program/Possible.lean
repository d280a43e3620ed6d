import XanhTab.Program.Pool

/-!
# What a pool can go on to do

Where every request can get a given reply, an operation that runs can run to its
end, and a new operation or task can be run to its end at once.  Memory and
result are those of the program that runs alone.
-/

namespace XanhTab

open Transition

universe u v w x y

variable {M : Type u} {C : Type v} {ρ : C → Type w} {α : Type x} {W O : Type y}
  {Op Task Noise : Type} {pool : Pool M C ρ α W O Op Task Noise}

namespace Pool

/-- Every request can get this reply, whatever the world. -/
def Replies (pool : Pool M C ρ α W O Op Task Noise) (reply : (request : C) → ρ request) : Prop :=
  ∀ request world, ∃ outcome world', pool.answer request outcome world =
    some (reply request, world')

variable {reply : (request : C) → ρ request} (replies : pool.Replies reply)
include replies

/-- The operation that runs can run to its end. -/
theorem reaches_done (program : Program M C ρ α) (tasks : List (Program M C ρ α)) (memory : M)
    (world : W) :
    ∃ world', pool.Reaches ⟨memory, world, some program, tasks⟩
      ⟨(program.complete reply memory).2, world',
        some (.done (program.complete reply memory).1), tasks⟩ := by
  induction program generalizing memory world with
  | done result => exact ⟨world, .refl⟩
  | access awaits update next ih =>
      have step : pool.step ⟨memory, world, some (.access awaits update next), tasks⟩
          (.step none) = some ⟨update memory, world, some (next memory), tasks⟩ := rfl
      rcases ih memory (update memory) world with ⟨world', rest⟩
      exact ⟨world', (ReachableUnder.single trivial step).trans rest⟩
  | call awaits request next ih =>
      rcases replies request world with ⟨outcome, middle, answered⟩
      have step : pool.step ⟨memory, world, some (.call awaits request next), tasks⟩
          (.step (some outcome)) = some ⟨memory, middle, some (next (reply request)), tasks⟩ := by
        simp [Pool.step, Program.advance, answered]
      rcases ih (reply request) memory middle with ⟨world', rest⟩
      exact ⟨world', (ReachableUnder.single trivial step).trans rest⟩

/-- Whatever runs, the pool can become free. -/
theorem reaches_free (config : Config M C ρ α W) :
    ∃ free, pool.Reaches config free ∧ free.holder = none := by
  rcases config with ⟨memory, world, _ | program, tasks⟩
  · exact ⟨_, .refl, rfl⟩
  · rcases reaches_done replies program tasks memory world with ⟨world', done⟩
    have finish : pool.step ⟨(program.complete reply memory).2, world',
        some (.done (program.complete reply memory).1), tasks⟩ .finish =
          some ⟨(program.complete reply memory).2, world', none, tasks⟩ := rfl
    exact ⟨_, done.tail trivial finish, rfl⟩

/-- An operation can be run while the pool is free. -/
theorem reaches_operation (op : Op) (tasks : List (Program M C ρ α)) (memory : M) (world : W) :
    ∃ world', pool.Reaches ⟨memory, world, none, tasks⟩
      ⟨((pool.operation op).complete reply memory).2, world', none, tasks⟩ := by
  have start : pool.step ⟨memory, world, none, tasks⟩ (.start op) =
      some ⟨memory, world, some (pool.operation op), tasks⟩ := rfl
  rcases reaches_done replies (pool.operation op) tasks memory world with ⟨world', done⟩
  have finish : pool.step ⟨((pool.operation op).complete reply memory).2, world',
      some (.done ((pool.operation op).complete reply memory).1), tasks⟩ .finish =
        some ⟨((pool.operation op).complete reply memory).2, world', none, tasks⟩ := rfl
  exact ⟨world', ((ReachableUnder.single trivial start).trans done).tail trivial finish⟩

end Pool

/-- A task that is a single section can be run at once. -/
theorem Pool.reaches_section {task : Task} {update : M → M} {awaits : Bool}
    {next : M → Program M C ρ α} (taken : pool.task task = .access awaits update next)
    (holder : Option (Program M C ρ α)) (tasks : List (Program M C ρ α)) (memory : M) (world : W) :
    pool.Reaches ⟨memory, world, holder, tasks⟩
      ⟨update memory, world, holder, tasks ++ [next memory]⟩ := by
  have spawn : pool.step ⟨memory, world, holder, tasks⟩ (.spawn task) =
      some ⟨memory, world, holder, tasks ++ [.access awaits update next]⟩ := by
    simp [Pool.step, taken]
  have taken : pool.step ⟨memory, world, holder, tasks ++ [.access awaits update next]⟩
      (.stepTask tasks.length none) =
        some ⟨update memory, world, holder, tasks ++ [next memory]⟩ := by
    simp [Pool.step, Program.advance]
  exact (ReachableUnder.single trivial spawn).tail trivial taken

end XanhTab
