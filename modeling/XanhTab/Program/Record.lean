import XanhTab.Program.Pool

/-!
# Runs with a record

A run together with what is seen of the memory after each of its steps, and what
a step of a pool does to the programs that are under way in it.
-/

namespace XanhTab

open Transition

universe u v w x y z

variable {M : Type u} {C : Type v} {ρ : C → Type w} {α : Type x} {W O : Type y} {V : Type z}
  {Op Task Noise : Type}

/-! ## Records -/

/-- A run with the views of the memories that it visits, oldest first. -/
inductive Visits (pool : Pool M C ρ α W O Op Task Noise)
    (allowed : Config M C ρ α W → Pool.Label Op Task Noise O → Prop) (view : M → V)
    (source : Config M C ρ α W) : Config M C ρ α W → List V → Prop
  | refl : Visits pool allowed view source source [view source.memory]
  | tail {config config' : Config M C ρ α W} {visited : List V}
      {label : Pool.Label Op Task Noise O} :
      Visits pool allowed view source config visited → allowed config label →
      pool.step config label = some config' →
      Visits pool allowed view source config' (visited ++ [view config'.memory])

namespace Visits

variable {pool : Pool M C ρ α W O Op Task Noise}
  {allowed : Config M C ρ α W → Pool.Label Op Task Noise O → Prop} {view : M → V}
  {source config : Config M C ρ α W} {visited : List V}

theorem reaches (visits : Visits pool allowed view source config visited) :
    pool.Reaches source config := by
  induction visits with
  | refl => exact .refl
  | tail _ _ step ih => exact ih.tail trivial step

/-- An executed schedule has a record if a check of its steps implies what is
allowed. -/
theorem of_run {check : Config M C ρ α W → Pool.Label Op Task Noise O → Bool}
    {labels : List (Pool.Label Op Task Noise O)} {target : Config M C ρ α W}
    (sound : ∀ config label, check config label = true → allowed config label)
    (visits : Visits pool allowed view source config visited)
    (executed : run (guarded pool.step check) config labels = some target) :
    ∃ visited', Visits pool allowed view source target visited' := by
  induction labels generalizing config visited with
  | nil =>
      obtain rfl := Option.some.inj executed
      exact ⟨visited, visits⟩
  | cons label rest ih =>
      rcases Option.bind_eq_some_iff.mp executed with ⟨middle, first, remaining⟩
      unfold guarded at first
      split at first
      · rename_i accepted
        exact ih (visits.tail (sound config label accepted) first) remaining
      · cases first

end Visits

/-! ## The programs that are under way -/

/-- The operation that holds the mutex, if there is one, and the tasks. -/
def Config.programs (config : Config M C ρ α W) : List (Program M C ρ α) :=
  config.holder.toList ++ config.tasks

theorem Config.mem_programs {config : Config M C ρ α W} {program : Program M C ρ α} :
    program ∈ config.programs ↔ config.holder = some program ∨ program ∈ config.tasks := by
  simp [Config.programs]

/-- The program has run to its end. -/
def Program.isDone : Program M C ρ α → Bool
  | .done _ => true
  | _ => false

theorem Program.isDone_iff {program : Program M C ρ α} :
    program.isDone = true ↔ ∃ result, program = .done result := by
  cases program <;> simp [isDone]

/-- Every program has run to its end. -/
def Config.Resting (config : Config M C ρ α W) : Prop :=
  ∀ program ∈ config.programs, ∃ result, program = .done result

instance (config : Config M C ρ α W) : Decidable config.Resting :=
  decidable_of_iff (config.programs.all Program.isDone = true) (by
    simp only [List.all_eq_true, Program.isDone_iff, Config.Resting])

/-- The program that the label drops. -/
def Pool.Label.dropped (config : Config M C ρ α W) :
    Pool.Label Op Task Noise O → Option (Program M C ρ α)
  | .drop _ => config.holder
  | .dropTask index _ => config.tasks[index]?
  | _ => none

/-- What a step does to the programs that are under way. -/
inductive Pool.Shifts (pool : Pool M C ρ α W O Op Task Noise) (config config' : Config M C ρ α W)
    (label : Pool.Label Op Task Noise O) : Prop
  | advances {program : Program M C ρ α} {outcome : Option O} {after : Program M C ρ α × M × W} :
      program ∈ config.programs →
      program.advance pool.answer outcome config.memory config.world = some after →
      config'.memory = after.2.1 → after.1 ∈ config'.programs →
      (∀ other ∈ config'.programs, other = after.1 ∨ other ∈ config.programs) →
      (∀ other ∈ config.programs, other = program ∨ other ∈ config'.programs) →
      Shifts pool config config' label
  | enters {program : Program M C ρ α} :
      (∃ op, program = pool.operation op) ∨ (∃ task, program = pool.task task) →
      config'.memory = config.memory →
      (∀ other ∈ config'.programs, other = program ∨ other ∈ config.programs) →
      (∀ other ∈ config.programs, other ∈ config'.programs) → Shifts pool config config' label
  | leaves {program : Program M C ρ α} :
      (∃ result, program = .done result) ∨ (label.dropped config = some program ∧
        ∃ outcome world, program.abandon pool.answer outcome config.world = some world) →
      config'.memory = config.memory →
      (∀ other ∈ config'.programs, other ∈ config.programs) →
      (∀ other ∈ config.programs, other = program ∨ other ∈ config'.programs) →
      Shifts pool config config' label
  | noise {event : Noise} :
      pool.noise event config.memory config.world = some (config'.memory, config'.world) →
      config'.programs = config.programs → Shifts pool config config' label

section Lists

variable {β : Type x} {xs : List β} {index : Nat} {value new : β}

theorem mem_set_of_getElem? (present : xs[index]? = some value) : new ∈ xs.set index new := by
  rw [List.mem_iff_getElem?]
  refine ⟨index, ?_⟩
  have within : index < xs.length := (List.getElem?_eq_some_iff.mp present).1
  simp [within]

theorem eq_or_mem_set {other : β} (present : xs[index]? = some value) (member : other ∈ xs) :
    other = value ∨ other ∈ xs.set index new := by
  rcases List.mem_iff_getElem?.mp member with ⟨position, found⟩
  by_cases same : index = position
  · subst position
    exact Or.inl (Option.some.inj (found.symm.trans present))
  · right
    rw [List.mem_iff_getElem?]
    refine ⟨position, ?_⟩
    rw [List.getElem?_set_ne same]
    exact found

theorem eq_or_mem_eraseIdx {other : β} (present : xs[index]? = some value) (member : other ∈ xs) :
    other = value ∨ other ∈ xs.eraseIdx index := by
  rcases List.mem_iff_getElem?.mp member with ⟨position, found⟩
  by_cases same : position = index
  · subst position
    exact Or.inl (Option.some.inj (found.symm.trans present))
  · exact Or.inr (List.mem_eraseIdx_iff_getElem?.mpr ⟨position, same, found⟩)

end Lists

namespace Pool.Shifts

variable {pool : Pool M C ρ α W O Op Task Noise} {config config' : Config M C ρ α W}
  {label : Pool.Label Op Task Noise O} {program : Program M C ρ α} {outcome : Option O}
  {after : Program M C ρ α × M × W}

/-- The operation takes a step. -/
theorem of_operation (running : config.holder = some program)
    (advanced : program.advance pool.answer outcome config.memory config.world = some after) :
    pool.Shifts config ⟨after.2.1, after.2.2, some after.1, config.tasks⟩ label := by
  refine .advances (Config.mem_programs.mpr (Or.inl running)) advanced rfl
    (Config.mem_programs.mpr (Or.inl rfl)) ?_ ?_
  · intro other member
    rcases Config.mem_programs.mp member with holds | waits
    · exact Or.inl (Option.some.inj holds).symm
    · exact Or.inr (Config.mem_programs.mpr (Or.inr waits))
  · intro other member
    rcases Config.mem_programs.mp member with holds | waits
    · exact Or.inl (Option.some.inj (holds.symm.trans running))
    · exact Or.inr (Config.mem_programs.mpr (Or.inr waits))

/-- A task takes a step. -/
theorem of_task {index : Nat} (running : config.tasks[index]? = some program)
    (advanced : program.advance pool.answer outcome config.memory config.world = some after) :
    pool.Shifts config
      ⟨after.2.1, after.2.2, config.holder, config.tasks.set index after.1⟩ label := by
  refine .advances (Config.mem_programs.mpr (Or.inr (List.mem_of_getElem? running))) advanced rfl
    (Config.mem_programs.mpr (Or.inr (mem_set_of_getElem? running))) ?_ ?_
  · intro other member
    rcases Config.mem_programs.mp member with holds | waits
    · exact Or.inr (Config.mem_programs.mpr (Or.inl holds))
    · rcases List.mem_or_eq_of_mem_set waits with old | new
      · exact Or.inr (Config.mem_programs.mpr (Or.inr old))
      · exact Or.inl new
  · intro other member
    rcases Config.mem_programs.mp member with holds | waits
    · exact Or.inr (Config.mem_programs.mpr (Or.inl holds))
    · exact (eq_or_mem_set running waits).imp_right fun kept =>
        Config.mem_programs.mpr (Or.inr kept)

/-- The operation goes. -/
theorem of_holder {world : W} (running : config.holder = some program)
    (goes : (∃ result, program = .done result) ∨ (label.dropped config = some program ∧
      ∃ outcome world, program.abandon pool.answer outcome config.world = some world)) :
    pool.Shifts config ⟨config.memory, world, none, config.tasks⟩ label := by
  refine .leaves goes rfl ?_ ?_
  · intro other member
    rcases Config.mem_programs.mp member with holds | waits
    · cases holds
    · exact Config.mem_programs.mpr (Or.inr waits)
  · intro other member
    rcases Config.mem_programs.mp member with holds | waits
    · exact Or.inl (Option.some.inj (holds.symm.trans running))
    · exact Or.inr (Config.mem_programs.mpr (Or.inr waits))

/-- Every step is of one of these kinds. -/
theorem of_step (step : pool.step config label = some config') :
    pool.Shifts config config' label := by
  cases label with
  | start op =>
      simp only [Pool.step] at step
      split at step
      · rename_i free
        cases step
        refine .enters (Or.inl ⟨op, rfl⟩) rfl ?_ ?_
        · intro other member
          rcases Config.mem_programs.mp member with holds | waits
          · exact Or.inl (Option.some.inj holds).symm
          · exact Or.inr (Config.mem_programs.mpr (Or.inr waits))
        · intro other member
          rcases Config.mem_programs.mp member with holds | waits
          · rw [free] at holds
            cases holds
          · exact Config.mem_programs.mpr (Or.inr waits)
      · cases step
  | step outcome =>
      rcases Option.bind_eq_some_iff.mp step with ⟨program, running, mapped⟩
      rcases Option.map_eq_some_iff.mp mapped with ⟨after, advanced, rfl⟩
      exact of_operation running advanced
  | drop outcome =>
      rcases Option.bind_eq_some_iff.mp step with ⟨program, running, mapped⟩
      rcases Option.map_eq_some_iff.mp mapped with ⟨world, dropped, rfl⟩
      exact of_holder running (Or.inr ⟨running, outcome, world, dropped⟩)
  | finish =>
      simp only [Pool.step] at step
      split at step
      · rename_i result running
        cases step
        exact of_holder running (Or.inl ⟨result, rfl⟩)
      · cases step
  | spawn task =>
      cases step
      refine .enters (Or.inr ⟨task, rfl⟩) rfl ?_ ?_
      · intro other member
        rcases Config.mem_programs.mp member with holds | waits
        · exact Or.inr (Config.mem_programs.mpr (Or.inl holds))
        · rcases List.mem_append.mp waits with old | new
          · exact Or.inr (Config.mem_programs.mpr (Or.inr old))
          · exact Or.inl (List.mem_singleton.mp new)
      · intro other member
        rcases Config.mem_programs.mp member with holds | waits
        · exact Config.mem_programs.mpr (Or.inl holds)
        · exact Config.mem_programs.mpr (Or.inr (List.mem_append_left _ waits))
  | stepTask index outcome =>
      rcases Option.bind_eq_some_iff.mp step with ⟨program, running, mapped⟩
      rcases Option.map_eq_some_iff.mp mapped with ⟨after, advanced, rfl⟩
      exact of_task running advanced
  | dropTask index outcome =>
      rcases Option.bind_eq_some_iff.mp step with ⟨program, running, mapped⟩
      rcases Option.map_eq_some_iff.mp mapped with ⟨world, dropped, rfl⟩
      refine .leaves (Or.inr ⟨running, outcome, world, dropped⟩) rfl ?_ ?_
      · intro other member
        rcases Config.mem_programs.mp member with holds | waits
        · exact Config.mem_programs.mpr (Or.inl holds)
        · exact Config.mem_programs.mpr (Or.inr (List.mem_of_mem_eraseIdx waits))
      · intro other member
        rcases Config.mem_programs.mp member with holds | waits
        · exact Or.inr (Config.mem_programs.mpr (Or.inl holds))
        · exact (eq_or_mem_eraseIdx running waits).imp_right fun kept =>
            Config.mem_programs.mpr (Or.inr kept)
  | noise event =>
      rcases Option.map_eq_some_iff.mp step with ⟨after, changed, rfl⟩
      exact .noise changed rfl

end Pool.Shifts

end XanhTab
