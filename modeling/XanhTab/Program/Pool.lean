import XanhTab.Program.Core
import XanhTab.Transition.Core

/-!
# Pools of programs

A pool runs at most one *operation* at a time, the one that holds its mutex,
together with any number of *tasks* that do not take the mutex.  All of them
share one memory and talk to one world.  The world answers a request according
to an outcome that the environment chooses, and both memory and world may also
change on their own.

An operation that awaits may be dropped, which frees the mutex.  When a request
is in flight at that moment, the world may or may not have carried it out.
-/

namespace XanhTab

open XanhTab.Transition

universe u v w x y

/-- How a world answers requests.  `none` excludes the outcome for the request. -/
abbrev Answer (C : Type v) (ρ : C → Type w) (W : Type y) (O : Type y) :=
  (request : C) → O → W → Option (ρ request × W)

namespace Program

variable {M : Type u} {C : Type v} {ρ : C → Type w} {α : Type x} {W O : Type y}

/-- One step of a program.  The outcome is used by calls only. -/
def advance (answer : Answer C ρ W O) (outcome : Option O) (memory : M) (world : W) :
    Program M C ρ α → Option (Program M C ρ α × M × W)
  | done _ => none
  | access _ update next => some (next memory, update memory, world)
  | call _ request next =>
      outcome.bind fun chosen => (answer request chosen world).map fun answered =>
        (next answered.1, memory, answered.2)

/-- The world that is left when the program is dropped where it stands.  With
no outcome a request in flight never took effect. -/
def abandon (answer : Answer C ρ W O) (outcome : Option O) (world : W) :
    Program M C ρ α → Option W
  | done _ => none
  | access awaits _ _ => if awaits then some world else none
  | call awaits request _ =>
      if awaits then
        match outcome with
        | none => some world
        | some chosen => (answer request chosen world).map Prod.snd
      else none

/-- The program runs to its end, with nothing else running, and returns a result. -/
def Ends (answer : Answer C ρ W O) : Program M C ρ α → M → W → α → M → W → Prop
  | done value, memory, world, result, memory', world' =>
      value = result ∧ memory = memory' ∧ world = world'
  | access _ update next, memory, world, result, memory', world' =>
      Ends answer (next memory) (update memory) world result memory' world'
  | call _ request next, memory, world, result, memory', world' =>
      ∃ outcome reply middle, answer request outcome world = some (reply, middle) ∧
        Ends answer (next reply) memory middle result memory' world'

theorem ends_bind {answer : Answer C ρ W O} {β : Type x} {program : Program M C ρ α}
    {rest : α → Program M C ρ β} {memory memory' : M} {world world' : W} {result : β} :
    (program >>= rest).Ends answer memory world result memory' world' ↔
      ∃ value middle state, program.Ends answer memory world value middle state ∧
        (rest value).Ends answer middle state result memory' world' := by
  induction program generalizing memory world with
  | done value =>
      constructor
      · exact fun ended => ⟨value, memory, world, ⟨rfl, rfl, rfl⟩, ended⟩
      · rintro ⟨_, _, _, ⟨rfl, rfl, rfl⟩, ended⟩
        exact ended
  | access awaits update next ih => exact ih memory
  | call awaits request next ih =>
      constructor
      · rintro ⟨outcome, reply, after, answered, ended⟩
        rcases (ih reply).mp ended with ⟨value, middle, state, first, second⟩
        exact ⟨value, middle, state, ⟨outcome, reply, after, answered, first⟩, second⟩
      · rintro ⟨value, middle, state, ⟨outcome, reply, after, answered, first⟩, second⟩
        exact ⟨outcome, reply, after, answered, (ih reply).mpr ⟨value, middle, state, first, second⟩⟩

theorem ends_andThen_ok {answer : Answer C ρ W O} {ε β : Type x}
    {program : Program M C ρ (Except ε α)} {rest : α → Program M C ρ (Except ε β)}
    {memory memory' : M} {world world' : W} {result : β}
    (ends : (program.andThen rest).Ends answer memory world (.ok result) memory' world') :
    ∃ value middle state, program.Ends answer memory world (.ok value) middle state ∧
      (rest value).Ends answer middle state (.ok result) memory' world' := by
  rcases ends_bind.mp ends with ⟨value, middle, state, first, second⟩
  cases value with
  | error error => cases second.1
  | ok value => exact ⟨value, middle, state, first, second⟩

/-- The result of the program, and the memory it leaves, when nothing else is
running and every request gets the given reply. -/
def complete (reply : (request : C) → ρ request) : Program M C ρ α → M → α × M
  | done result, memory => (result, memory)
  | access _ update next, memory => (next memory).complete reply (update memory)
  | call _ request next, memory => (next (reply request)).complete reply memory

theorem ends_complete {answer : Answer C ρ W O} {reply : (request : C) → ρ request}
    (possible : ∀ request world, ∃ outcome world',
      answer request outcome world = some (reply request, world'))
    (program : Program M C ρ α) (memory : M) (world : W) :
    ∃ world', program.Ends answer memory world (program.complete reply memory).1
      (program.complete reply memory).2 world' := by
  induction program generalizing memory world with
  | done result => exact ⟨world, rfl, rfl, rfl⟩
  | access awaits update next ih => exact ih memory (update memory) world
  | call awaits request next ih =>
      rcases possible request world with ⟨outcome, middle, answered⟩
      rcases ih (reply request) memory middle with ⟨world', ends⟩
      exact ⟨world', outcome, reply request, middle, answered, ends⟩

theorem complete_bind {β : Type x} (reply : (request : C) → ρ request) (program : Program M C ρ α)
    (rest : α → Program M C ρ β) (memory : M) :
    (program >>= rest).complete reply memory =
      (rest (program.complete reply memory).1).complete reply (program.complete reply memory).2 := by
  induction program generalizing memory with
  | done result => rfl
  | access awaits update next ih => exact ih memory (update memory)
  | call awaits request next ih => exact ih (reply request) memory

/-- The requests that the program makes on the way. -/
def requests (reply : (request : C) → ρ request) : Program M C ρ α → M → List C
  | done _, _ => []
  | access _ update next, memory => (next memory).requests reply (update memory)
  | call _ request next, memory => request :: (next (reply request)).requests reply memory

theorem requests_bind {β : Type x} (reply : (request : C) → ρ request) (program : Program M C ρ α)
    (rest : α → Program M C ρ β) (memory : M) :
    (program >>= rest).requests reply memory = program.requests reply memory ++
      (rest (program.complete reply memory).1).requests reply
        (program.complete reply memory).2 := by
  induction program generalizing memory with
  | done result => rfl
  | access awaits update next ih => exact ih memory (update memory)
  | call awaits request next ih =>
      exact congrArg (request :: ·) (ih (reply request) memory)

end Program

/-- The programs a pool runs, and the world it runs them in. -/
structure Pool (M : Type u) (C : Type v) (ρ : C → Type w) (α : Type x) (W O : Type y)
    (Op Task Noise : Type) where
  answer : Answer C ρ W O
  operation : Op → Program M C ρ α
  task : Task → Program M C ρ α
  noise : Noise → M → W → Option (M × W)

/-- The state of a pool. -/
structure Config (M : Type u) (C : Type v) (ρ : C → Type w) (α : Type x) (W : Type y) where
  memory : M
  world : W
  holder : Option (Program M C ρ α)
  tasks : List (Program M C ρ α)

namespace Config

variable {M : Type u} {C : Type v} {ρ : C → Type w} {α : Type x} {W : Type y}

/-- A pool that runs nothing. -/
def idle (memory : M) (world : W) : Config M C ρ α W :=
  ⟨memory, world, none, []⟩

/-- The result of an operation that has run to its end. -/
def result (config : Config M C ρ α W) : Option α :=
  match config.holder with
  | some (.done result) => some result
  | _ => none

theorem holder_of_result {config : Config M C ρ α W} {value : α}
    (finished : config.result = some value) : config.holder = some (.done value) := by
  unfold result at finished
  split at finished
  · rename_i value' running
    rw [running, Option.some.inj finished]
  · cases finished

@[simp]
theorem idle_holder (memory : M) (world : W) :
    (idle memory world : Config M C ρ α W).holder = none :=
  rfl

end Config

namespace Pool

variable {M : Type u} {C : Type v} {ρ : C → Type w} {α : Type x} {W O : Type y}
  {Op Task Noise : Type}

/-- What can happen next in a pool. -/
inductive Label (Op Task Noise : Type) (O : Type y)
  | start (operation : Op)
  | step (outcome : Option O)
  | drop (outcome : Option O)
  | finish
  | spawn (task : Task)
  | stepTask (index : Nat) (outcome : Option O)
  | dropTask (index : Nat) (outcome : Option O)
  | noise (event : Noise)

/-- Execute one label. -/
def step (pool : Pool M C ρ α W O Op Task Noise) :
    Step (Config M C ρ α W) (Label Op Task Noise O)
  | config, .start operation =>
      match config.holder with
      | none => some { config with holder := some (pool.operation operation) }
      | some _ => none
  | config, .step outcome =>
      config.holder.bind fun program =>
        (program.advance pool.answer outcome config.memory config.world).map fun after =>
          { config with memory := after.2.1, world := after.2.2, holder := some after.1 }
  | config, .drop outcome =>
      config.holder.bind fun program =>
        (program.abandon pool.answer outcome config.world).map fun world =>
          { config with world := world, holder := none }
  | config, .finish =>
      match config.holder with
      | some (.done _) => some { config with holder := none }
      | _ => none
  | config, .spawn task => some { config with tasks := config.tasks ++ [pool.task task] }
  | config, .stepTask index outcome =>
      config.tasks[index]?.bind fun program =>
        (program.advance pool.answer outcome config.memory config.world).map fun after =>
          { config with
            memory := after.2.1
            world := after.2.2
            tasks := config.tasks.set index after.1 }
  | config, .dropTask index outcome =>
      config.tasks[index]?.bind fun program =>
        (program.abandon pool.answer outcome config.world).map fun world =>
          { config with world := world, tasks := config.tasks.eraseIdx index }
  | config, .noise event =>
      (pool.noise event config.memory config.world).map fun after =>
        { config with memory := after.1, world := after.2 }

end Pool

/-! ## Assumptions on the environment of a run -/

/-- What a run may assume: of an access, the memory and world before it and the
memory after it; of a reply, the request with its outcome; of dropping an
operation, the request in flight, if there is one, with what became of it. -/
structure Assumptions (M : Type u) (C : Type v) (W O : Type y) where
  access : M → W → M → Prop := fun _ _ _ => True
  reply : C → O → M → W → Prop := fun _ _ _ _ => True
  drop : Option (C × Option O) → M → W → Prop := fun _ _ _ => True

namespace Assumptions

variable {M : Type u} {C : Type v} {ρ : C → Type w} {α : Type x} {W O : Type y}
  {Op Task Noise : Type}

/-- Nothing is assumed. -/
def free : Assumptions M C W O := {}

/-- The assumption on the next step of a program. -/
def OfStep (assume : Assumptions M C W O) (outcome : Option O) (memory : M) (world : W) :
    Program M C ρ α → Prop
  | .done _ => True
  | .access _ update _ => assume.access memory world (update memory)
  | .call _ request _ => ∀ chosen, outcome = some chosen → assume.reply request chosen memory world

/-- The assumption on dropping a program where it stands. -/
def OfDrop (assume : Assumptions M C W O) (outcome : Option O) (memory : M) (world : W) :
    Program M C ρ α → Prop
  | .done _ => True
  | .access _ _ _ => assume.drop none memory world
  | .call _ request _ => assume.drop (some (request, outcome)) memory world

/-- The labels that the assumptions admit in a configuration. -/
def Allowed (assume : Assumptions M C W O) (config : Config M C ρ α W) :
    Pool.Label Op Task Noise O → Prop
  | .step outcome => ∀ program, config.holder = some program →
      assume.OfStep outcome config.memory config.world program
  | .drop outcome => ∀ program, config.holder = some program →
      assume.OfDrop outcome config.memory config.world program
  | .stepTask index outcome => ∀ program, config.tasks[index]? = some program →
      assume.OfStep outcome config.memory config.world program
  | _ => True

theorem free_allowed (config : Config M C ρ α W) (label : Pool.Label Op Task Noise O) :
    free.Allowed config label := by
  cases label <;> simp only [Allowed]
  all_goals
    intro program _
    cases program <;> simp [OfStep, OfDrop, free]

/-- Weaker assumptions admit at least as much. -/
theorem Allowed.mono {assume weaker : Assumptions M C W O} {config : Config M C ρ α W}
    {label : Pool.Label Op Task Noise O}
    (access : ∀ memory world memory', assume.access memory world memory' →
      weaker.access memory world memory')
    (reply : ∀ request outcome memory world, assume.reply request outcome memory world →
      weaker.reply request outcome memory world)
    (drop : ∀ inFlight memory world, assume.drop inFlight memory world →
      weaker.drop inFlight memory world)
    (allowed : assume.Allowed config label) : weaker.Allowed config label := by
  have step : ∀ outcome (program : Program M C ρ α),
      assume.OfStep outcome config.memory config.world program →
      weaker.OfStep outcome config.memory config.world program := by
    intro outcome program assumed
    cases program with
    | done _ => trivial
    | access _ _ _ => exact access _ _ _ assumed
    | call _ _ _ => exact fun chosen given => reply _ _ _ _ (assumed chosen given)
  cases label with
  | step outcome => exact fun program running => step outcome program (allowed program running)
  | stepTask index outcome =>
      exact fun program running => step outcome program (allowed program running)
  | drop outcome =>
      intro program running
      have assumed := allowed program running
      cases program with
      | done _ => trivial
      | access _ _ _ | call _ _ _ => exact drop _ _ _ assumed
  | start | finish | spawn | dropTask | noise => trivial

end Assumptions

/-- A configuration that a pool reaches in a run that meets the assumptions. -/
abbrev Pool.ReachesUnder {M : Type u} {C : Type v} {ρ : C → Type w} {α : Type x} {W O : Type y}
    {Op Task Noise : Type} (pool : Pool M C ρ α W O Op Task Noise)
    (assume : Assumptions M C W O) (source target : Config M C ρ α W) : Prop :=
  ReachableUnder pool.step assume.Allowed source target

/-- A configuration that a pool reaches in any run. -/
abbrev Pool.Reaches {M : Type u} {C : Type v} {ρ : C → Type w} {α : Type x} {W O : Type y}
    {Op Task Noise : Type} (pool : Pool M C ρ α W O Op Task Noise)
    (source target : Config M C ρ α W) : Prop :=
  Reachable pool.step source target

theorem Pool.reachesUnder_free {M : Type u} {C : Type v} {ρ : C → Type w} {α : Type x}
    {W O : Type y} {Op Task Noise : Type} (pool : Pool M C ρ α W O Op Task Noise)
    {source target : Config M C ρ α W} (reaches : pool.Reaches source target) :
    pool.ReachesUnder .free source target :=
  reaches.mono fun config label _ => Assumptions.free_allowed config label

/-! ## What a step does to the world -/

section World

variable {M : Type u} {C : Type v} {ρ : C → Type w} {α : Type x} {W O : Type y}
  {Op Task Noise : Type} {related : W → W → Prop} {answer : Answer C ρ W O}

theorem Program.world_of_advance (refl : ∀ world, related world world)
    (answers : ∀ request outcome world reply world',
      answer request outcome world = some (reply, world') → related world world')
    {outcome : Option O} {memory : M} {world : W} {program : Program M C ρ α}
    {after : Program M C ρ α × M × W}
    (advanced : program.advance answer outcome memory world = some after) :
    related world after.2.2 := by
  cases program with
  | done _ => cases advanced
  | access _ _ _ =>
      cases advanced
      exact refl world
  | call _ request _ =>
      rcases Option.bind_eq_some_iff.mp advanced with ⟨chosen, _, replied⟩
      rcases Option.map_eq_some_iff.mp replied with ⟨answered, given, rfl⟩
      exact answers request chosen world answered.1 answered.2 given

theorem Program.world_of_abandon (refl : ∀ world, related world world)
    (answers : ∀ request outcome world reply world',
      answer request outcome world = some (reply, world') → related world world')
    {outcome : Option O} {world world' : W} {program : Program M C ρ α}
    (dropped : program.abandon answer outcome world = some world') : related world world' := by
  cases program with
  | done _ => cases dropped
  | access awaits _ _ =>
      cases awaits with
      | false => cases dropped
      | true =>
          cases dropped
          exact refl world
  | call awaits request _ =>
      cases awaits with
      | false => cases dropped
      | true =>
          cases outcome with
          | none =>
              cases dropped
              exact refl world
          | some chosen =>
              rcases Option.map_eq_some_iff.mp dropped with ⟨answered, given, rfl⟩
              exact answers request chosen world answered.1 answered.2 given

/-- A step of a pool is within a relation that contains what an answer and what
the environment does to the world. -/
theorem Pool.world_of_step {pool : Pool M C ρ α W O Op Task Noise} (refl : ∀ world, related world world)
    (answers : ∀ request outcome world reply world',
      pool.answer request outcome world = some (reply, world') → related world world')
    (noises : ∀ event memory world memory' world',
      pool.noise event memory world = some (memory', world') → related world world')
    {config config' : Config M C ρ α W} {label : Pool.Label Op Task Noise O}
    (step : pool.step config label = some config') : related config.world config'.world := by
  cases label with
  | start op =>
      simp only [Pool.step] at step
      split at step
      · cases step
        exact refl config.world
      · cases step
  | step outcome | stepTask index outcome =>
      rcases Option.bind_eq_some_iff.mp step with ⟨program, _, mapped⟩
      rcases Option.map_eq_some_iff.mp mapped with ⟨after, advanced, rfl⟩
      exact Program.world_of_advance refl answers advanced
  | drop outcome | dropTask index outcome =>
      rcases Option.bind_eq_some_iff.mp step with ⟨program, _, mapped⟩
      rcases Option.map_eq_some_iff.mp mapped with ⟨after, dropped, rfl⟩
      exact Program.world_of_abandon refl answers dropped
  | finish =>
      simp only [Pool.step] at step
      split at step
      · cases step
        exact refl config.world
      · cases step
  | spawn task =>
      cases step
      exact refl config.world
  | noise event =>
      rcases Option.map_eq_some_iff.mp step with ⟨after, changed, rfl⟩
      exact noises event config.memory config.world after.1 after.2 changed

end World

end XanhTab
