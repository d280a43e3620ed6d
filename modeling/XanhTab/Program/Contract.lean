import XanhTab.Program.Pool

/-!
# Rely-guarantee contracts for pools

A contract states what is always true of memory and world, what is true while
no operation runs, what an operation may rely on from everything else, and what
it guarantees in return.  `Safe` says that a program meets the contract from a
state on, whatever the environment does between its steps; `Triple` is the
corresponding judgement for all states that satisfy a precondition.

`Contract.sound` turns proofs about the single programs into invariants of
every run of the pool.  A contract may build on facts that another contract has
already established; they are its `given` part.
-/

namespace XanhTab

open Relation

universe u v w x y

structure Contract (M : Type u) (C : Type v) (α : Type x) (W O : Type y) where
  /-- Facts about every reachable state that are established elsewhere. -/
  given : M → W → Prop := fun _ _ => True
  /-- The invariant of every state. -/
  always : M → W → Prop := fun _ _ => True
  /-- The invariant of the states in which no operation runs. -/
  atRest : M → W → Prop := fun _ _ => True
  /-- What a finished operation leaves behind. -/
  finish : α → M → W → Prop := fun _ => atRest
  /-- One step of the tasks or of the environment. -/
  rely : M → W → M → W → Prop := fun _ _ _ _ => True
  /-- One step of the operation. -/
  guarantee : M → W → M → W → Prop := fun _ _ _ _ => True
  assume : Assumptions M C W O := .free

namespace Contract

variable {M : Type u} {C : Type v} {ρ : C → Type x} {α β γ : Type x} {W O : Type y}

/-- States that the invariants of a contract describe. -/
def Good (contract : Contract M C γ W O) (memory : M) (world : W) : Prop :=
  contract.given memory world ∧ contract.always memory world

/-- One step of interference, as an operation may experience it. -/
def Disturb (contract : Contract M C γ W O) (source target : M × W) : Prop :=
  contract.rely source.1 source.2 target.1 target.2 ∧ contract.Good target.1 target.2

/-- One step of anything else, as a task may experience it. -/
def Drift (contract : Contract M C γ W O) (source target : M × W) : Prop :=
  (contract.rely source.1 source.2 target.1 target.2 ∨
    contract.guarantee source.1 source.2 target.1 target.2) ∧ contract.Good target.1 target.2

/-- One step of a pool is a step of the operation, a step of anything else, or
leaves memory and world alone. -/
def Moves (contract : Contract M C γ W O) (memory : M) (world : W) (memory' : M) (world' : W) :
    Prop :=
  contract.rely memory world memory' world' ∨ contract.guarantee memory world memory' world' ∨
    (memory' = memory ∧ world' = world)

/-- Any interference with an operation. -/
abbrev Disturbed (contract : Contract M C γ W O) : M × W → M × W → Prop :=
  ReflTransGen contract.Disturb

/-- Any interference with a task. -/
abbrev Drifted (contract : Contract M C γ W O) : M × W → M × W → Prop :=
  ReflTransGen contract.Drift

/-- The program meets the contract from this state on, and its result satisfies
the postcondition whenever it is looked at. -/
def Safe (contract : Contract M C γ W O) (answer : Answer C ρ W O)
    (post : α → M → W → Prop) : Program M C ρ α → M → W → Prop
  | .done result, memory, world => ∀ memory' world',
      contract.Disturbed (memory, world) (memory', world') → contract.Good memory' world' →
      post result memory' world'
  | .access awaits update next, memory, world => ∀ memory' world',
      contract.Disturbed (memory, world) (memory', world') → contract.Good memory' world' →
      (awaits = true → contract.assume.drop none memory' world' →
        contract.atRest memory' world') ∧
      (contract.assume.access memory' world' (update memory') →
        contract.given (update memory') world' →
        contract.guarantee memory' world' (update memory') world' ∧
        contract.always (update memory') world' ∧
        contract.Safe answer post (next memory') (update memory') world')
  | .call awaits request next, memory, world => ∀ memory' world',
      contract.Disturbed (memory, world) (memory', world') → contract.Good memory' world' →
      (awaits = true → contract.assume.drop (some (request, none)) memory' world' →
        contract.atRest memory' world') ∧
      ∀ outcome reply world'', answer request outcome world' = some (reply, world'') →
        contract.given memory' world'' →
        (awaits = true → contract.assume.drop (some (request, some outcome)) memory' world' →
          contract.guarantee memory' world' memory' world'' ∧
          contract.always memory' world'' ∧ contract.atRest memory' world'') ∧
        (contract.assume.reply request outcome memory' world' →
          contract.guarantee memory' world' memory' world'' ∧
          contract.always memory' world'' ∧
          contract.Safe answer post (next reply) memory' world'')

/-- A task whose steps are within what operations rely on. -/
def Steady (contract : Contract M C γ W O) (answer : Answer C ρ W O) :
    Program M C ρ α → M → W → Prop
  | .done _, _, _ => True
  | .access _ update next, memory, world => ∀ memory' world',
      contract.Drifted (memory, world) (memory', world') → contract.Good memory' world' →
      contract.assume.access memory' world' (update memory') →
      contract.given (update memory') world' →
      contract.rely memory' world' (update memory') world' ∧
      contract.always (update memory') world' ∧
      contract.Steady answer (next memory') (update memory') world'
  | .call _ request next, memory, world => ∀ memory' world',
      contract.Drifted (memory, world) (memory', world') → contract.Good memory' world' →
      ∀ outcome reply world'', answer request outcome world' = some (reply, world'') →
        contract.given memory' world'' →
        contract.rely memory' world' memory' world'' ∧
        contract.always memory' world'' ∧
        contract.Steady answer (next reply) memory' world''

variable {contract : Contract M C γ W O} {answer : Answer C ρ W O}

theorem Safe.disturbed {post : α → M → W → Prop} {program : Program M C ρ α}
    {memory memory' : M} {world world' : W}
    (safe : contract.Safe answer post program memory world)
    (disturbed : contract.Disturbed (memory, world) (memory', world')) :
    contract.Safe answer post program memory' world' := by
  cases program <;>
    exact fun later after later_disturbed => safe later after (disturbed.trans later_disturbed)

theorem Steady.drifted {program : Program M C ρ α} {memory memory' : M} {world world' : W}
    (steady : contract.Steady answer program memory world)
    (drifted : contract.Drifted (memory, world) (memory', world')) :
    contract.Steady answer program memory' world' := by
  cases program with
  | done _ => trivial
  | access _ _ _ =>
      exact fun later after later_drifted => steady later after (drifted.trans later_drifted)
  | call _ _ _ =>
      exact fun later after later_drifted => steady later after (drifted.trans later_drifted)

/-! ## Assertions that survive interference -/

/-- An assertion that one step of interference keeps. -/
def Stable (contract : Contract M C γ W O) (assertion : M → W → Prop) : Prop :=
  ∀ ⦃memory world memory' world'⦄, contract.Good memory world →
    contract.rely memory world memory' world' → contract.Good memory' world' →
    assertion memory world → assertion memory' world'

theorem Stable.disturbed {assertion : M → W → Prop} (stable : contract.Stable assertion)
    {memory memory' : M} {world world' : W} (good : contract.Good memory world)
    (holds : assertion memory world)
    (disturbed : contract.Disturbed (memory, world) (memory', world')) :
    assertion memory' world' := by
  have both : ∀ target : M × W, contract.Disturbed (memory, world) target →
      assertion target.1 target.2 ∧ contract.Good target.1 target.2 := by
    intro target disturbed
    induction disturbed with
    | refl => exact ⟨holds, good⟩
    | tail _ disturb ih => exact ⟨stable ih.2 disturb.1 disturb.2 ih.1, disturb.2⟩
  exact (both _ disturbed).1

theorem stable_const (assertion : Prop) : contract.Stable fun _ _ => assertion :=
  fun _ _ _ _ _ _ _ holds => holds

theorem Stable.and {first second : M → W → Prop} (firstStable : contract.Stable first)
    (secondStable : contract.Stable second) :
    contract.Stable fun memory world => first memory world ∧ second memory world :=
  fun _ _ _ _ good rely good' holds =>
    ⟨firstStable good rely good' holds.1, secondStable good rely good' holds.2⟩

/-! ## Triples -/

/-- The program is safe from every good state that satisfies the precondition. -/
def Triple (contract : Contract M C γ W O) (answer : Answer C ρ W O)
    (pre : M → W → Prop) (program : Program M C ρ α) (post : α → M → W → Prop) : Prop :=
  ∀ memory world, contract.Good memory world → pre memory world →
    contract.Safe answer post program memory world

namespace Triple

variable {pre : M → W → Prop}

theorem done {result : α} {post : α → M → W → Prop}
    (stable : contract.Stable (post result))
    (holds : ∀ memory world, contract.Good memory world → pre memory world →
      post result memory world) :
    contract.Triple answer pre (.done result : Program M C ρ α) post :=
  fun memory world good satisfied _ _ disturbed _ =>
    stable.disturbed good (holds memory world good satisfied) disturbed

/-- Sequential composition. -/
theorem bind {program : Program M C ρ α} {rest : α → Program M C ρ β}
    {middle : α → M → W → Prop} {post : β → M → W → Prop}
    (first : contract.Triple answer pre program middle)
    (second : ∀ result, contract.Triple answer (middle result) (rest result) post) :
    contract.Triple answer pre (program >>= rest) post := by
  intro memory world good satisfied
  have safe := first memory world good satisfied
  clear satisfied first
  induction program generalizing memory world with
  | done result => exact second result memory world good (safe memory world .refl good)
  | access awaits update next ih =>
      intro memory' world' disturbed good'
      obtain ⟨rest, step⟩ := safe memory' world' disturbed good'
      refine ⟨rest, fun assumed given => ?_⟩
      obtain ⟨guaranteed, kept, later⟩ := step assumed given
      exact ⟨guaranteed, kept, ih memory' _ world' ⟨given, kept⟩ later⟩
  | call awaits request next ih =>
      intro memory' world' disturbed good'
      obtain ⟨rest, step⟩ := safe memory' world' disturbed good'
      refine ⟨rest, fun outcome reply world'' answered given => ?_⟩
      obtain ⟨dropped, replied⟩ := step outcome reply world'' answered given
      refine ⟨dropped, fun assumed => ?_⟩
      obtain ⟨guaranteed, kept, later⟩ := replied assumed
      exact ⟨guaranteed, kept, ih reply memory' world'' ⟨given, kept⟩ later⟩

/-- Strengthen the precondition. -/
theorem weaken {required : M → W → Prop} {program : Program M C ρ α}
    {post : α → M → W → Prop} (triple : contract.Triple answer required program post)
    (implies : ∀ memory world, contract.Good memory world → pre memory world →
      required memory world) : contract.Triple answer pre program post :=
  fun memory world good satisfied =>
    triple memory world good (implies memory world good satisfied)

/-- Weaken the postcondition. -/
theorem relax {program : Program M C ρ α} {post weaker : α → M → W → Prop}
    (triple : contract.Triple answer pre program post)
    (implies : ∀ result memory world, contract.Good memory world → post result memory world →
      weaker result memory world) : contract.Triple answer pre program weaker := by
  intro memory world good satisfied
  have safe := triple memory world good satisfied
  clear satisfied triple
  induction program generalizing memory world with
  | done result =>
      exact fun memory' world' disturbed good' =>
        implies result memory' world' good' (safe memory' world' disturbed good')
  | access awaits update next ih =>
      intro memory' world' disturbed good'
      obtain ⟨rest, step⟩ := safe memory' world' disturbed good'
      refine ⟨rest, fun assumed given => ?_⟩
      obtain ⟨guaranteed, kept, later⟩ := step assumed given
      exact ⟨guaranteed, kept, ih memory' _ world' ⟨given, kept⟩ later⟩
  | call awaits request next ih =>
      intro memory' world' disturbed good'
      obtain ⟨rest, step⟩ := safe memory' world' disturbed good'
      refine ⟨rest, fun outcome reply world'' answered given => ?_⟩
      obtain ⟨dropped, replied⟩ := step outcome reply world'' answered given
      refine ⟨dropped, fun assumed => ?_⟩
      obtain ⟨guaranteed, kept, later⟩ := replied assumed
      exact ⟨guaranteed, kept, ih reply memory' world'' ⟨given, kept⟩ later⟩

/-- A fact that no state can change may be used in the proof about the program. -/
theorem assuming {fact : Prop} {program : Program M C ρ α} {post : α → M → W → Prop}
    (implies : ∀ memory world, contract.Good memory world → pre memory world → fact)
    (triple : fact → contract.Triple answer pre program post) :
    contract.Triple answer pre program post :=
  fun memory world good satisfied =>
    triple (implies memory world good satisfied) memory world good satisfied

/-- An access, from what its body does to one good state. -/
theorem transact {awaits : Bool} {body : M → α × M} {post : α → M → W → Prop}
    (stable : contract.Stable pre) (postStable : ∀ result, contract.Stable (post result))
    (drops : awaits = true → ∀ memory world, contract.Good memory world → pre memory world →
      contract.assume.drop none memory world → contract.atRest memory world)
    (steps : ∀ memory world, contract.Good memory world → pre memory world →
      contract.assume.access memory world (body memory).2 →
      contract.given (body memory).2 world →
      contract.guarantee memory world (body memory).2 world ∧
      contract.always (body memory).2 world ∧
      post (body memory).1 (body memory).2 world) :
    contract.Triple answer pre (.transact awaits body : Program M C ρ α) post := by
  intro memory world good satisfied memory' world' disturbed good'
  have satisfied' : pre memory' world' := stable.disturbed good satisfied disturbed
  refine ⟨fun awaiting assumed => drops awaiting memory' world' good' satisfied' assumed,
    fun assumed given => ?_⟩
  obtain ⟨guaranteed, kept, holds⟩ := steps memory' world' good' satisfied' assumed given
  exact ⟨guaranteed, kept, fun memory'' world'' later _ =>
    (postStable _).disturbed ⟨given, kept⟩ holds later⟩

/-- A call, from what every admitted outcome does to one good state. -/
theorem ask {awaits : Bool} {request : C} {post : ρ request → M → W → Prop}
    (stable : contract.Stable pre) (postStable : ∀ reply, contract.Stable (post reply))
    (unsent : awaits = true → ∀ memory world, contract.Good memory world → pre memory world →
      contract.assume.drop (some (request, none)) memory world → contract.atRest memory world)
    (unread : awaits = true → ∀ memory world, contract.Good memory world → pre memory world →
      ∀ outcome reply after, answer request outcome world = some (reply, after) →
      contract.assume.drop (some (request, some outcome)) memory world →
      contract.given memory after →
      contract.guarantee memory world memory after ∧ contract.always memory after ∧
        contract.atRest memory after)
    (steps : ∀ memory world, contract.Good memory world → pre memory world →
      ∀ outcome reply after, answer request outcome world = some (reply, after) →
      contract.assume.reply request outcome memory world → contract.given memory after →
      contract.guarantee memory world memory after ∧ contract.always memory after ∧
        post reply memory after) :
    contract.Triple answer pre (.ask awaits request : Program M C ρ (ρ request)) post := by
  intro memory world good satisfied memory' world' disturbed good'
  have satisfied' : pre memory' world' := stable.disturbed good satisfied disturbed
  refine ⟨fun awaiting assumed => unsent awaiting memory' world' good' satisfied' assumed,
    fun outcome reply after answered given => ⟨fun awaiting assumed => ?_, fun assumed => ?_⟩⟩
  · exact unread awaiting memory' world' good' satisfied' outcome reply after answered assumed
      given
  · obtain ⟨guaranteed, kept, holds⟩ :=
      steps memory' world' good' satisfied' outcome reply after answered assumed given
    exact ⟨guaranteed, kept, fun memory'' world'' later _ =>
      (postStable _).disturbed ⟨given, kept⟩ holds later⟩

end Triple

/-! ## Soundness for pools -/

variable {Op Task Noise : Type}

/-- The proof obligations that make a contract an invariant of a pool. -/
structure Established (contract : Contract M C α W O)
    (pool : Pool M C ρ α W O Op Task Noise) : Prop where
  operation : ∀ op, contract.Triple pool.answer contract.atRest (pool.operation op)
    contract.finish
  task : ∀ task memory world, contract.Good memory world →
    contract.Steady pool.answer (pool.task task) memory world
  noise : ∀ event memory world memory' world', contract.Good memory world →
    pool.noise event memory world = some (memory', world') → contract.given memory' world' →
    contract.rely memory world memory' world' ∧ contract.always memory' world'
  resting : ∀ memory world memory' world', contract.Good memory world →
    contract.rely memory world memory' world' → contract.Good memory' world' →
    contract.atRest memory world → contract.atRest memory' world'
  finished : ∀ result memory world, contract.Good memory world →
    contract.finish result memory world → contract.atRest memory world

/-- What a contract says of a configuration. -/
structure Holds (contract : Contract M C α W O) (answer : Answer C ρ W O)
    (config : Config M C ρ α W) : Prop where
  good : contract.Good config.memory config.world
  rest : config.holder = none → contract.atRest config.memory config.world
  holder : ∀ program, config.holder = some program →
    contract.Safe answer contract.finish program config.memory config.world
  tasks : ∀ program ∈ config.tasks,
    contract.Steady answer program config.memory config.world

namespace Holds

variable {contract : Contract M C α W O} {pool : Pool M C ρ α W O Op Task Noise}

theorem idle {memory : M} {world : W} (good : contract.Good memory world)
    (rest : contract.atRest memory world) :
    contract.Holds pool.answer (.idle memory world : Config M C ρ α W) where
  good := good
  rest _ := rest
  holder := by simp
  tasks := by simp [Config.idle]

/-- A step of the operation carries the tasks along. -/
theorem tasks_of_guarantee {config : Config M C ρ α W} (holds : contract.Holds pool.answer config)
    {memory : M} {world : W} (good : contract.Good memory world)
    (guaranteed : contract.guarantee config.memory config.world memory world) :
    ∀ program ∈ config.tasks, contract.Steady pool.answer program memory world :=
  fun program member =>
    (holds.tasks program member).drifted (.single ⟨Or.inr guaranteed, good⟩)

/-- A step of anything else carries both the operation and the tasks along. -/
theorem disturb {config : Config M C ρ α W} (holds : contract.Holds pool.answer config)
    (established : contract.Established pool) {memory : M} {world : W}
    (good : contract.Good memory world)
    (relied : contract.rely config.memory config.world memory world) :
    contract.Holds pool.answer { config with memory := memory, world := world } where
  good := good
  rest free := established.resting _ _ _ _ holds.good relied good (holds.rest free)
  holder program running := (holds.holder program running).disturbed (.single ⟨relied, good⟩)
  tasks program member :=
    (holds.tasks program member).drifted (.single ⟨Or.inl relied, good⟩)

end Holds

namespace Established

variable {contract : Contract M C α W O} {pool : Pool M C ρ α W O Op Task Noise}
  {config config' : Config M C ρ α W}

theorem kept_start {op : Op} (established : contract.Established pool)
    (holds : contract.Holds pool.answer config)
    (step : pool.step config (.start op) = some config') :
    contract.Holds pool.answer config' ∧
      contract.Moves config.memory config.world config'.memory config'.world := by
  simp only [Pool.step] at step
  cases running : config.holder with
  | some program => simp [running] at step
  | none =>
      rw [running] at step
      cases step
      refine ⟨⟨holds.good, by simp, ?_, holds.tasks⟩, Or.inr (Or.inr ⟨rfl, rfl⟩)⟩
      rintro program ⟨⟩
      exact established.operation op _ _ holds.good (holds.rest running)

theorem kept_step {outcome : Option O} (holds : contract.Holds pool.answer config)
    (admitted : contract.assume.Allowed config
      (.step outcome : Pool.Label Op Task Noise O))
    (given : contract.given config'.memory config'.world)
    (step : pool.step config (.step outcome) = some config') :
    contract.Holds pool.answer config' ∧
      contract.Moves config.memory config.world config'.memory config'.world := by
  obtain ⟨program, running, mapped⟩ := Option.bind_eq_some_iff.mp step
  obtain ⟨after, advanced, rfl⟩ := Option.map_eq_some_iff.mp mapped
  have safe := holds.holder program running
  have assumed := admitted program running
  cases program with
  | done _ => simp [Program.advance] at advanced
  | access awaits update next =>
      cases advanced
      obtain ⟨guaranteed, kept, later⟩ :=
        (safe _ _ .refl holds.good).2 assumed given
      refine ⟨⟨⟨given, kept⟩, by simp, ?_, holds.tasks_of_guarantee ⟨given, kept⟩ guaranteed⟩,
        Or.inr (Or.inl guaranteed)⟩
      rintro program ⟨⟩
      exact later
  | call awaits request next =>
      obtain ⟨chosen, rfl, replied⟩ := Option.bind_eq_some_iff.mp advanced
      obtain ⟨⟨reply, world⟩, answered, rfl⟩ := Option.map_eq_some_iff.mp replied
      obtain ⟨guaranteed, kept, later⟩ :=
        ((safe _ _ .refl holds.good).2 chosen reply world answered given).2 (assumed chosen rfl)
      refine ⟨⟨⟨given, kept⟩, by simp, ?_, holds.tasks_of_guarantee ⟨given, kept⟩ guaranteed⟩,
        Or.inr (Or.inl guaranteed)⟩
      rintro program ⟨⟩
      exact later

theorem kept_drop {outcome : Option O} (holds : contract.Holds pool.answer config)
    (admitted : contract.assume.Allowed config
      (.drop outcome : Pool.Label Op Task Noise O))
    (given : contract.given config'.memory config'.world)
    (step : pool.step config (.drop outcome) = some config') :
    contract.Holds pool.answer config' ∧
      contract.Moves config.memory config.world config'.memory config'.world := by
  obtain ⟨program, running, mapped⟩ := Option.bind_eq_some_iff.mp step
  obtain ⟨world, dropped, rfl⟩ := Option.map_eq_some_iff.mp mapped
  have safe := holds.holder program running
  have assumed := admitted program running
  cases program with
  | done _ => simp [Program.abandon] at dropped
  | access awaits update next =>
      cases awaits with
      | false => simp [Program.abandon] at dropped
      | true =>
          cases dropped
          exact ⟨⟨holds.good, fun _ => (safe _ _ .refl holds.good).1 rfl assumed, by simp,
            holds.tasks⟩, Or.inr (Or.inr ⟨rfl, rfl⟩)⟩
  | call awaits request next =>
      cases awaits with
      | false => simp [Program.abandon] at dropped
      | true =>
          cases outcome with
          | none =>
              cases dropped
              exact ⟨⟨holds.good, fun _ => (safe _ _ .refl holds.good).1 rfl assumed, by simp,
                holds.tasks⟩, Or.inr (Or.inr ⟨rfl, rfl⟩)⟩
          | some chosen =>
              obtain ⟨⟨reply, after⟩, answered, rfl⟩ := Option.map_eq_some_iff.mp dropped
              obtain ⟨guaranteed, kept, rest⟩ :=
                ((safe _ _ .refl holds.good).2 chosen reply after answered given).1 rfl assumed
              exact ⟨⟨⟨given, kept⟩, fun _ => rest, by simp,
                holds.tasks_of_guarantee ⟨given, kept⟩ guaranteed⟩, Or.inr (Or.inl guaranteed)⟩

theorem kept_finish (established : contract.Established pool)
    (holds : contract.Holds pool.answer config)
    (step : pool.step config .finish = some config') :
    contract.Holds pool.answer config' ∧
      contract.Moves config.memory config.world config'.memory config'.world := by
  simp only [Pool.step] at step
  split at step
  · rename_i result running
    cases step
    refine ⟨⟨holds.good, fun _ => ?_, by simp, holds.tasks⟩, Or.inr (Or.inr ⟨rfl, rfl⟩)⟩
    exact established.finished result _ _ holds.good
      (holds.holder _ running _ _ .refl holds.good)
  · contradiction

theorem kept_stepTask {index : Nat} {outcome : Option O}
    (established : contract.Established pool) (holds : contract.Holds pool.answer config)
    (admitted : contract.assume.Allowed config
      (.stepTask index outcome : Pool.Label Op Task Noise O))
    (given : contract.given config'.memory config'.world)
    (step : pool.step config (.stepTask index outcome) = some config') :
    contract.Holds pool.answer config' ∧
      contract.Moves config.memory config.world config'.memory config'.world := by
  obtain ⟨program, running, mapped⟩ := Option.bind_eq_some_iff.mp step
  obtain ⟨⟨later, memory, world⟩, advanced, rfl⟩ := Option.map_eq_some_iff.mp mapped
  have steady := holds.tasks program (List.mem_of_getElem? running)
  have assumed := admitted program running
  have stepped : contract.rely config.memory config.world memory world ∧
      contract.always memory world ∧ contract.Steady pool.answer later memory world := by
    cases program with
    | done _ => simp [Program.advance] at advanced
    | access awaits update next =>
        cases advanced
        exact steady _ _ .refl holds.good assumed given
    | call awaits request next =>
        obtain ⟨chosen, rfl, replied⟩ := Option.bind_eq_some_iff.mp advanced
        obtain ⟨⟨reply, world⟩, answered, equal⟩ := Option.map_eq_some_iff.mp replied
        cases equal
        exact steady _ _ .refl holds.good chosen reply world answered given
  obtain ⟨relied, kept, steady'⟩ := stepped
  have others := holds.disturb established ⟨given, kept⟩ relied
  refine ⟨⟨others.good, others.rest, others.holder, fun program member => ?_⟩, Or.inl relied⟩
  rcases List.mem_or_eq_of_mem_set member with old | new
  · exact others.tasks program old
  · subst program
    exact steady'

theorem kept_dropTask {index : Nat} {outcome : Option O}
    (established : contract.Established pool) (holds : contract.Holds pool.answer config)
    (given : contract.given config'.memory config'.world)
    (step : pool.step config (.dropTask index outcome) = some config') :
    contract.Holds pool.answer config' ∧
      contract.Moves config.memory config.world config'.memory config'.world := by
  obtain ⟨program, running, mapped⟩ := Option.bind_eq_some_iff.mp step
  obtain ⟨world, dropped, rfl⟩ := Option.map_eq_some_iff.mp mapped
  have steady := holds.tasks program (List.mem_of_getElem? running)
  have others : contract.Holds pool.answer { config with world := world } ∧
      contract.Moves config.memory config.world config.memory world := by
    cases program with
    | done _ => simp [Program.abandon] at dropped
    | access awaits update next =>
        cases awaits with
        | false => simp [Program.abandon] at dropped
        | true =>
            cases dropped
            exact ⟨holds, Or.inr (Or.inr ⟨rfl, rfl⟩)⟩
    | call awaits request next =>
        cases awaits with
        | false => simp [Program.abandon] at dropped
        | true =>
            cases outcome with
            | none =>
                cases dropped
                exact ⟨holds, Or.inr (Or.inr ⟨rfl, rfl⟩)⟩
            | some chosen =>
                obtain ⟨⟨reply, after⟩, answered, rfl⟩ := Option.map_eq_some_iff.mp dropped
                obtain ⟨relied, kept, _⟩ :=
                  steady _ _ .refl holds.good chosen reply after answered given
                exact ⟨holds.disturb established ⟨given, kept⟩ relied, Or.inl relied⟩
  exact ⟨⟨others.1.good, others.1.rest, others.1.holder, fun program member =>
    others.1.tasks program (List.mem_of_mem_eraseIdx member)⟩, others.2⟩

/-- Every admitted step of the pool keeps what the contract says. -/
theorem kept {label : Pool.Label Op Task Noise O} (established : contract.Established pool)
    (holds : contract.Holds pool.answer config)
    (admitted : contract.assume.Allowed config label)
    (given : contract.given config'.memory config'.world)
    (step : pool.step config label = some config') :
    contract.Holds pool.answer config' ∧
      contract.Moves config.memory config.world config'.memory config'.world := by
  cases label with
  | start op => exact established.kept_start holds step
  | step outcome => exact kept_step holds admitted given step
  | drop outcome => exact kept_drop holds admitted given step
  | finish => exact established.kept_finish holds step
  | spawn task =>
      cases step
      refine ⟨⟨holds.good, holds.rest, holds.holder, fun program member => ?_⟩,
        Or.inr (Or.inr ⟨rfl, rfl⟩)⟩
      rcases List.mem_append.mp member with old | new
      · exact holds.tasks program old
      · obtain rfl := List.mem_singleton.mp new
        exact established.task task _ _ holds.good
  | stepTask index outcome => exact established.kept_stepTask holds admitted given step
  | dropTask index outcome => exact established.kept_dropTask holds given step
  | noise event =>
      obtain ⟨⟨memory, world⟩, changed, rfl⟩ := Option.map_eq_some_iff.mp step
      obtain ⟨relied, kept⟩ := established.noise event _ _ _ _ holds.good changed given
      exact ⟨holds.disturb established ⟨given, kept⟩ relied, Or.inl relied⟩

/-- An established contract describes every configuration of every run. -/
theorem sound (established : contract.Established pool)
    (initial : contract.Holds pool.answer config)
    (known : ∀ reached, pool.ReachesUnder contract.assume config reached →
      contract.given reached.memory reached.world)
    (reaches : pool.ReachesUnder contract.assume config config') :
    contract.Holds pool.answer config' := by
  induction reaches with
  | refl => exact initial
  | tail reached admitted step ih =>
      exact (established.kept ih admitted (known _ (reached.tail admitted step)) step).1

/-- Every step of every run is within the contract. -/
theorem moves {label : Pool.Label Op Task Noise O} {config'' : Config M C ρ α W}
    (established : contract.Established pool)
    (initial : contract.Holds pool.answer config)
    (known : ∀ reached, pool.ReachesUnder contract.assume config reached →
      contract.given reached.memory reached.world)
    (reaches : pool.ReachesUnder contract.assume config config')
    (admitted : contract.assume.Allowed config' label)
    (step : pool.step config' label = some config'') :
    contract.Moves config'.memory config'.world config''.memory config''.world :=
  (established.kept (established.sound initial known reaches) admitted
    (known _ (reaches.tail admitted step)) step).2

end Established

end Contract

end XanhTab
