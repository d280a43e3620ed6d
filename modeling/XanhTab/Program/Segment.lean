import XanhTab.Program.Rules

/-!
# Segments of runs

A contract speaks of every reachable state.  This module follows one operation
from its first step to its last instead, while the tasks and the environment go
on between its steps.

What a program does to the memory is bounded by a relation that contains every
section it takes; a configuration is framed when the operation and the tasks
that are left in it are bounded in this way.
-/

namespace XanhTab

open Transition

universe u v w x y

variable {M : Type u} {C : Type v} {ρ : C → Type x} {α β γ : Type x} {W O : Type y}

/-! ## Bounded programs -/

namespace Program

/-- Every section of the program is in the relation, whatever it is replied. -/
def Sections (related : M → M → Prop) : Program M C ρ α → Prop
  | .done _ => True
  | .access _ update next => ∀ memory,
      related memory (update memory) ∧ Sections related (next memory)
  | .call _ _ next => ∀ reply, Sections related (next reply)

namespace Sections

variable {related : M → M → Prop}

theorem bind {program : Program M C ρ α} {rest : α → Program M C ρ β}
    (first : program.Sections related) (second : ∀ result, (rest result).Sections related) :
    (program >>= rest).Sections related := by
  induction program with
  | done result => exact second result
  | access awaits update next ih => exact fun memory => ⟨(first memory).1, ih _ (first memory).2⟩
  | call awaits request next ih => exact fun reply => ih reply (first reply)

theorem transact {awaits : Bool} {body : M → α × M}
    (steps : ∀ memory, related memory (body memory).2) :
    (.transact awaits body : Program M C ρ α).Sections related :=
  fun memory => ⟨steps memory, trivial⟩

theorem mono {related' : M → M → Prop} {program : Program M C ρ α}
    (weakens : ∀ before after, related before after → related' before after)
    (sections : program.Sections related) : program.Sections related' := by
  induction program with
  | done result => trivial
  | access awaits update next ih =>
      exact fun memory => ⟨weakens _ _ (sections memory).1, ih memory (sections memory).2⟩
  | call awaits request next ih => exact fun reply => ih reply (sections reply)

theorem andThen {ε : Type x} {program : Program M C ρ (Except ε α)}
    {rest : α → Program M C ρ (Except ε β)} (first : program.Sections related)
    (second : ∀ value, (rest value).Sections related) :
    (program.andThen rest).Sections related := by
  refine first.bind fun result => ?_
  cases result with
  | error error => trivial
  | ok value => exact second value

end Sections

end Program

/-! ## Framed configurations -/

variable {Op Task Noise : Type}

/-- The operation and the tasks that are left to run are bounded. -/
structure Config.Framed (operationStep taskStep : M → M → Prop) (config : Config M C ρ α W) :
    Prop where
  holder : ∀ program, config.holder = some program → program.Sections operationStep
  tasks : ∀ program ∈ config.tasks, program.Local taskStep

theorem Config.Framed.idle {operationStep taskStep : M → M → Prop} (memory : M) (world : W) :
    (Config.idle memory world : Config M C ρ α W).Framed operationStep taskStep where
  holder := by simp
  tasks := by simp [Config.idle]

/-- Everything that a pool can start is bounded. -/
structure Pool.Framed (pool : Pool M C ρ α W O Op Task Noise)
    (operationStep taskStep : M → M → Prop) : Prop where
  operation : ∀ op, (pool.operation op).Sections operationStep
  task : ∀ task, (pool.task task).Local taskStep

/-- What a step of a framed pool does to the memory and, where it is not a step
of the operation, to the world. -/
def Pool.Advances (pool : Pool M C ρ α W O Op Task Noise) (operationStep taskStep : M → M → Prop)
    (config config' : Config M C ρ α W) : Pool.Label Op Task Noise O → Prop
  | .step _ => operationStep config.memory config'.memory ∨ config'.memory = config.memory
  | .drop _ => config'.memory = config.memory
  | .stepTask _ _ => taskStep config.memory config'.memory ∧ config'.world = config.world
  | .noise event =>
      pool.noise event config.memory config.world = some (config'.memory, config'.world)
  | _ => config'.memory = config.memory ∧ config'.world = config.world

namespace Pool.Framed

variable {pool : Pool M C ρ α W O Op Task Noise} {operationStep taskStep : M → M → Prop}
  {config config' : Config M C ρ α W}

theorem step_holder {outcome : Option O} (framed : config.Framed operationStep taskStep)
    (step : pool.step config (.step outcome) = some config') :
    config'.Framed operationStep taskStep ∧
      pool.Advances operationStep taskStep config config' (.step outcome) := by
  rcases Option.bind_eq_some_iff.mp step with ⟨program, running, mapped⟩
  rcases Option.map_eq_some_iff.mp mapped with ⟨after, advanced, rfl⟩
  have bounded := framed.holder program running
  cases program with
  | done _ => simp [Program.advance] at advanced
  | access awaits update next =>
      cases advanced
      refine ⟨⟨?_, framed.tasks⟩, Or.inl (bounded _).1⟩
      rintro program ⟨⟩
      exact (bounded _).2
  | call awaits request next =>
      rcases Option.bind_eq_some_iff.mp advanced with ⟨chosen, _, replied⟩
      rcases Option.map_eq_some_iff.mp replied with ⟨answered, _, rfl⟩
      refine ⟨⟨?_, framed.tasks⟩, Or.inr rfl⟩
      rintro program ⟨⟩
      exact bounded answered.1

theorem step_task {index : Nat} {outcome : Option O}
    (framed : config.Framed operationStep taskStep)
    (step : pool.step config (.stepTask index outcome) = some config') :
    config'.Framed operationStep taskStep ∧
      pool.Advances operationStep taskStep config config' (.stepTask index outcome) := by
  rcases Option.bind_eq_some_iff.mp step with ⟨program, running, mapped⟩
  rcases Option.map_eq_some_iff.mp mapped with ⟨after, advanced, rfl⟩
  have bounded := framed.tasks program (List.mem_of_getElem? running)
  cases program with
  | done _ => simp [Program.advance] at advanced
  | access awaits update next =>
      cases advanced
      refine ⟨⟨framed.holder, fun program member => ?_⟩, (bounded _).1, rfl⟩
      rcases List.mem_or_eq_of_mem_set member with old | new
      · exact framed.tasks program old
      · subst program
        exact (bounded _).2
  | call awaits request next => exact bounded.elim

/-- Every step of a framed pool is bounded and leaves a framed configuration. -/
theorem step (pool_framed : pool.Framed operationStep taskStep)
    {label : Pool.Label Op Task Noise O} (framed : config.Framed operationStep taskStep)
    (step : pool.step config label = some config') :
    config'.Framed operationStep taskStep ∧
      pool.Advances operationStep taskStep config config' label := by
  cases label with
  | start op =>
      simp only [Pool.step] at step
      split at step
      · cases step
        refine ⟨⟨?_, framed.tasks⟩, rfl, rfl⟩
        rintro program ⟨⟩
        exact pool_framed.operation op
      · cases step
  | step outcome => exact step_holder framed step
  | drop outcome =>
      rcases Option.bind_eq_some_iff.mp step with ⟨program, running, mapped⟩
      rcases Option.map_eq_some_iff.mp mapped with ⟨world, _, rfl⟩
      exact ⟨⟨by simp, framed.tasks⟩, rfl⟩
  | finish =>
      simp only [Pool.step] at step
      split at step
      · cases step
        exact ⟨⟨by simp, framed.tasks⟩, rfl, rfl⟩
      · cases step
  | spawn task =>
      cases step
      refine ⟨⟨framed.holder, fun program member => ?_⟩, rfl, rfl⟩
      rcases List.mem_append.mp member with old | new
      · exact framed.tasks program old
      · rw [List.mem_singleton.mp new]
        exact pool_framed.task task
  | stepTask index outcome => exact step_task framed step
  | dropTask index outcome =>
      rcases Option.bind_eq_some_iff.mp step with ⟨program, running, mapped⟩
      rcases Option.map_eq_some_iff.mp mapped with ⟨world, dropped, rfl⟩
      have bounded := framed.tasks program (List.mem_of_getElem? running)
      refine ⟨⟨framed.holder, fun program member =>
        framed.tasks program (List.mem_of_mem_eraseIdx member)⟩, rfl, ?_⟩
      cases program with
      | done _ => simp [Program.abandon] at dropped
      | access awaits _ _ =>
          cases awaits with
          | false => simp [Program.abandon] at dropped
          | true => exact (Option.some.inj dropped).symm
      | call _ _ _ => exact bounded.elim
  | noise event =>
      rcases Option.map_eq_some_iff.mp step with ⟨after, changed, rfl⟩
      exact ⟨⟨framed.holder, framed.tasks⟩, changed⟩

/-- What a framed pool reaches from a framed configuration is framed. -/
theorem reaches (pool_framed : pool.Framed operationStep taskStep)
    (framed : config.Framed operationStep taskStep) (reaches : pool.Reaches config config') :
    config'.Framed operationStep taskStep :=
  ReachableUnder.invariant framed
    (fun _ _ _ framed _ step => (pool_framed.step framed step).1) reaches

end Pool.Framed

/-- A property of the memory that nothing in a framed pool destroys. -/
structure Pool.Keeps (pool : Pool M C ρ α W O Op Task Noise) (operationStep taskStep : M → M → Prop)
    (holds : M → Prop) : Prop where
  operation : ∀ before after, holds before → operationStep before after → holds after
  task : ∀ before after, holds before → taskStep before after → holds after
  noise : ∀ event before world after world', holds before →
    pool.noise event before world = some (after, world') → holds after

namespace Pool.Keeps

variable {pool : Pool M C ρ α W O Op Task Noise} {operationStep taskStep : M → M → Prop}
  {holds : M → Prop} {config config' : Config M C ρ α W}

theorem step {label : Pool.Label Op Task Noise O} (keeps : pool.Keeps operationStep taskStep holds)
    (initial : holds config.memory)
    (advances : pool.Advances operationStep taskStep config config' label) :
    holds config'.memory := by
  cases label with
  | step outcome =>
      rcases advances with bounded | same
      · exact keeps.operation _ _ initial bounded
      · rw [same]; exact initial
  | stepTask index outcome => exact keeps.task _ _ initial advances.1
  | noise event => exact keeps.noise event _ _ _ _ initial advances
  | drop outcome =>
      have same : config'.memory = config.memory := advances
      rw [same]; exact initial
  | start op | finish | spawn task | dropTask index outcome =>
      have same : config'.memory = config.memory := advances.1
      rw [same]; exact initial

theorem reaches (keeps : pool.Keeps operationStep taskStep holds)
    (pool_framed : pool.Framed operationStep taskStep) (initial : holds config.memory)
    (framed : config.Framed operationStep taskStep) (reaches : pool.Reaches config config') :
    holds config'.memory := by
  have both : holds config'.memory ∧ config'.Framed operationStep taskStep := by
    induction reaches with
    | refl => exact ⟨initial, framed⟩
    | tail _ _ step ih =>
        have kept := pool_framed.step ih.2 step
        exact ⟨keeps.step ih.1 kept.2, kept.1⟩
  exact both.1

end Pool.Keeps

/-! ## Following one operation -/

/-- The label neither ends nor drops the operation that runs. -/
def Pool.Label.Continues : Pool.Label Op Task Noise O → Prop
  | .drop _ | .finish => False
  | _ => True

/-- The label is a step of the operation that runs. -/
def Pool.Label.Own : Pool.Label Op Task Noise O → Prop
  | .step _ => True
  | _ => False

namespace Contract

variable {contract : Contract M C γ W O} {pool : Pool M C ρ α W O Op Task Noise}
  {post : α → M → W → Prop} {config config' : Config M C ρ α W}

/-- A step of the operation leads from a safe program to a safe program. -/
theorem Safe.step {outcome : Option O} {program : Program M C ρ α}
    (safe : contract.Safe pool.answer post program config.memory config.world)
    (running : config.holder = some program)
    (good : contract.Good config.memory config.world)
    (good' : contract.Good config'.memory config'.world)
    (assumed : contract.assume.OfStep outcome config.memory config.world program)
    (step : pool.step config (.step outcome) = some config') :
    ∃ program', config'.holder = some program' ∧
      contract.Safe pool.answer post program' config'.memory config'.world := by
  rcases Option.bind_eq_some_iff.mp step with ⟨program, present, mapped⟩
  rcases Option.map_eq_some_iff.mp mapped with ⟨after, advanced, rfl⟩
  obtain rfl := Option.some.inj (running.symm.trans present)
  refine ⟨after.1, rfl, ?_⟩
  cases program with
  | done _ => simp [Program.advance] at advanced
  | access awaits update next =>
      cases advanced
      exact ((safe _ _ .refl good).2 assumed good'.1).2.2
  | call awaits request next =>
      rcases Option.bind_eq_some_iff.mp advanced with ⟨chosen, rfl, replied⟩
      rcases Option.map_eq_some_iff.mp replied with ⟨answered, given, rfl⟩
      exact (((safe _ _ .refl good).2 chosen answered.1 answered.2 given good'.1).2
        (assumed chosen rfl)).2.2

/-- What a step that is not of the operation does to the operation. -/
theorem holder_of_not_own {label : Pool.Label Op Task Noise O} {program : Program M C ρ α}
    (continues : label.Continues) (foreign : ¬ label.Own)
    (running : config.holder = some program)
    (step : pool.step config label = some config') : config'.holder = some program := by
  cases label with
  | start op => simp [Pool.step, running] at step
  | step outcome => exact absurd trivial foreign
  | drop outcome | finish => exact continues.elim
  | spawn task => cases step; exact running
  | stepTask index outcome =>
      rcases Option.bind_eq_some_iff.mp step with ⟨_, _, mapped⟩
      rcases Option.map_eq_some_iff.mp mapped with ⟨_, _, rfl⟩
      exact running
  | dropTask index outcome =>
      rcases Option.bind_eq_some_iff.mp step with ⟨_, _, mapped⟩
      rcases Option.map_eq_some_iff.mp mapped with ⟨_, _, rfl⟩
      exact running
  | noise event =>
      rcases Option.map_eq_some_iff.mp step with ⟨_, _, rfl⟩
      exact running

/-- A safe operation stays safe along a schedule that does not end it, if the
steps that are not its own are within what it relies on. -/
theorem Safe.along (pool : Pool M C ρ α W O Op Task Noise) (config : Config M C ρ α W)
    {visited : Config M C ρ α W → Prop} {labels : List (Pool.Label Op Task Noise O)}
    {program : Program M C ρ α}
    (safe : contract.Safe pool.answer post program config.memory config.world)
    (running : config.holder = some program)
    (executed : run pool.step config labels = some config')
    (continues : ∀ label ∈ labels, label.Continues)
    (start : visited config)
    (kept : ∀ label config config', visited config → pool.step config label = some config' →
      visited config')
    (good : ∀ config, visited config → contract.Good config.memory config.world)
    (assumed : ∀ config label, visited config → contract.assume.Allowed config
      (label : Pool.Label Op Task Noise O))
    (relied : ∀ label ∈ labels, ¬ label.Own → ∀ config config', visited config →
      pool.step config label = some config' →
      contract.rely config.memory config.world config'.memory config'.world) :
    ∃ program', config'.holder = some program' ∧
      contract.Safe pool.answer post program' config'.memory config'.world := by
  induction labels generalizing config program with
  | nil =>
      obtain rfl := Option.some.inj executed
      exact ⟨program, running, safe⟩
  | cons label rest ih =>
      rcases Option.bind_eq_some_iff.mp executed with ⟨middle, step, remaining⟩
      have visited' := kept label config middle start step
      have later : ∃ program', middle.holder = some program' ∧
          contract.Safe pool.answer post program' middle.memory middle.world := by
        by_cases own : label.Own
        · cases label with
          | step outcome =>
              exact safe.step running (good _ start) (good _ visited')
                (assumed config (.step outcome) start program running) step
          | _ => exact own.elim
        · have disturbed := relied label List.mem_cons_self own config middle start step
          exact ⟨program,
            holder_of_not_own (continues label List.mem_cons_self) own running step,
            safe.disturbed (.single ⟨disturbed, good _ visited'⟩)⟩
      rcases later with ⟨program', running', safe'⟩
      exact ih middle safe' running' remaining
        (fun label member => continues label (List.mem_cons_of_mem _ member)) visited'
        fun label member => relied label (List.mem_cons_of_mem _ member)

theorem entered {op : Op} (step : pool.step config (.start op) = some config') :
    config' = { config with holder := some (pool.operation op) } := by
  simp only [Pool.step] at step
  split at step
  · exact (Option.some.inj step).symm
  · cases step

/-- What the specification of an operation says when a schedule has run it from
its start to its end. -/
theorem Triple.follow (pool : Pool M C ρ α W O Op Task Noise) (visited : Config M C ρ α W → Prop)
    {pre : M → W → Prop} {op : Op} {labels : List (Pool.Label Op Task Noise O)} {result : α}
    (triple : contract.Triple pool.answer pre (pool.operation op) post)
    (executed : run pool.step config (.start op :: labels) = some config')
    (continues : ∀ label ∈ labels, label.Continues)
    (finished : config'.holder = some (.done result))
    (satisfied : pre config.memory config.world) (start : visited config)
    (kept : ∀ label config config', visited config → pool.step config label = some config' →
      visited config')
    (good : ∀ config, visited config → contract.Good config.memory config.world)
    (assumed : ∀ config label, visited config → contract.assume.Allowed config
      (label : Pool.Label Op Task Noise O))
    (relied : ∀ label ∈ labels, ¬ label.Own → ∀ config config', visited config →
      pool.step config label = some config' →
      contract.rely config.memory config.world config'.memory config'.world) :
    post result config'.memory config'.world := by
  rcases Option.bind_eq_some_iff.mp executed with ⟨middle, step, followed⟩
  have opened := entered step
  subst middle
  have safe := triple config.memory config.world (good _ start) satisfied
  rcases safe.along pool { config with holder := some (pool.operation op) } rfl followed
    continues (kept _ _ _ start step) kept good assumed relied with ⟨program, running, safe'⟩
  obtain rfl := Option.some.inj (finished.symm.trans running)
  have last : visited config' := by
    have reached := reachable_of_run executed
    exact reached.invariant start fun _ _ _ visit _ step => kept _ _ _ visit step
  exact safe' _ _ .refl (good _ last)

end Contract

end XanhTab
