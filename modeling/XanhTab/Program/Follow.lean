import XanhTab.Program.Segment

/-!
# Following one program

An operation or a task of a pool is followed from a configuration in which it
is about to begin.  Its own steps are recorded with the memory before and after
them.  What the other steps do to the memory may be restricted according to the
steps that the program has taken.

The invariant rule is the one for a single program among others: what holds of
the program, the memory and the steps taken is kept by each step of the program
and by each of the others.
-/

namespace XanhTab

open Transition

universe u v w x y

variable {M : Type u} {C : Type v} {ρ : C → Type x} {α : Type x} {W O : Type y}
  {Op Task Noise : Type}

/-- What is followed: the operation that runs, or a task. -/
inductive Subject
  | operation
  | task (index : Nat)

namespace Subject

/-- The program that is followed. -/
def program (config : Config M C ρ α W) : Subject → Option (Program M C ρ α)
  | operation => config.holder
  | task index => config.tasks[index]?

/-- What the program has returned, once it has run to its end. -/
def result (config : Config M C ρ α W) (subject : Subject) : Option α :=
  match subject.program config with
  | some (.done result) => some result
  | _ => none

/-- The label is a step of the program. -/
def Owns : Subject → Pool.Label Op Task Noise O → Prop
  | operation, .step _ => True
  | task index, .stepTask stepped _ => stepped = index
  | _, _ => False

/-- The label ends or drops the program. -/
def Ends : Subject → Pool.Label Op Task Noise O → Prop
  | operation, .drop _ | operation, .finish => True
  | task index, .dropTask dropped _ => dropped = index
  | _, _ => False

/-- Where the program is found after a step.  Dropping a task moves the later
ones forward. -/
def after : Subject → Pool.Label Op Task Noise O → Subject
  | task index, .dropTask dropped _ => if dropped < index then task (index - 1) else task index
  | subject, _ => subject

variable {pool : Pool M C ρ α W O Op Task Noise} {config config' : Config M C ρ α W}
  {label : Pool.Label Op Task Noise O} {subject : Subject}

/-- A step of the program is an advance of the program. -/
theorem advance_of_owns (owns : subject.Owns label)
    (step : pool.step config label = some config') :
    ∃ program outcome after, subject.program config = some program ∧
      program.advance pool.answer outcome config.memory config.world = some after ∧
      subject.program config' = some after.1 ∧ config'.memory = after.2.1 := by
  cases subject with
  | operation =>
      cases label with
      | step outcome =>
          rcases Option.bind_eq_some_iff.mp step with ⟨program, running, mapped⟩
          rcases Option.map_eq_some_iff.mp mapped with ⟨after, advanced, rfl⟩
          exact ⟨program, outcome, after, running, advanced, rfl, rfl⟩
      | _ => exact owns.elim
  | task index =>
      cases label with
      | stepTask stepped outcome =>
          obtain rfl : stepped = index := owns
          rcases Option.bind_eq_some_iff.mp step with ⟨program, running, mapped⟩
          rcases Option.map_eq_some_iff.mp mapped with ⟨after, advanced, rfl⟩
          refine ⟨program, outcome, after, running, advanced, ?_, rfl⟩
          have within : stepped < config.tasks.length := (List.getElem?_eq_some_iff.mp running).1
          simp [Subject.program, within]
      | _ => exact owns.elim

/-- The other steps leave the program as it is. -/
theorem program_of_other {program : Program M C ρ α} (foreign : ¬ subject.Owns label)
    (goesOn : ¬ subject.Ends label) (running : subject.program config = some program)
    (step : pool.step config label = some config') :
    (subject.after label).program config' = some program := by
  cases subject with
  | operation =>
      have continues : label.Continues := by
        cases label with
        | drop outcome | finish => exact absurd trivial goesOn
        | _ => trivial
      have notOwn : ¬ label.Own := by
        cases label with
        | step outcome => exact absurd trivial foreign
        | _ => exact id
      have same : (operation : Subject).after label = operation := by
        cases label <;> rfl
      rw [same]
      exact Contract.holder_of_not_own continues notOwn running step
  | task index =>
      have present : config.tasks[index]? = some program := running
      have within : index < config.tasks.length := (List.getElem?_eq_some_iff.mp present).1
      cases label with
      | start op | finish =>
          simp only [Pool.step] at step
          split at step
          · cases step
            exact present
          · cases step
      | step outcome | drop outcome =>
          rcases Option.bind_eq_some_iff.mp step with ⟨_, _, mapped⟩
          rcases Option.map_eq_some_iff.mp mapped with ⟨_, _, rfl⟩
          exact present
      | spawn task =>
          cases step
          show (config.tasks ++ [pool.task task])[index]? = some program
          rw [List.getElem?_append_left within]
          exact present
      | stepTask stepped outcome =>
          rcases Option.bind_eq_some_iff.mp step with ⟨_, _, mapped⟩
          rcases Option.map_eq_some_iff.mp mapped with ⟨after, _, rfl⟩
          show (config.tasks.set stepped after.1)[index]? = some program
          rw [List.getElem?_set_ne foreign]
          exact present
      | dropTask dropped outcome =>
          rcases Option.bind_eq_some_iff.mp step with ⟨_, _, mapped⟩
          rcases Option.map_eq_some_iff.mp mapped with ⟨world, _, rfl⟩
          have different : dropped ≠ index := goesOn
          simp only [Subject.after]
          by_cases earlier : dropped < index
          · rw [if_pos earlier]
            show (config.tasks.eraseIdx dropped)[index - 1]? = some program
            rw [List.getElem?_eraseIdx_of_ge (by omega), Nat.sub_add_cancel (by omega)]
            exact present
          · rw [if_neg earlier]
            show (config.tasks.eraseIdx dropped)[index]? = some program
            rw [List.getElem?_eraseIdx_of_lt (by omega)]
            exact present
      | noise event =>
          rcases Option.map_eq_some_iff.mp step with ⟨_, _, rfl⟩
          exact present

end Subject

/-- A run in which the subject is neither ended nor dropped, with the steps that
it has taken. -/
inductive Follows (pool : Pool M C ρ α W O Op Task Noise)
    (allowed : List (M × M) → M → M → Prop) (source : Config M C ρ α W) (subject : Subject) :
    Subject → Config M C ρ α W → List (M × M) → Prop
  | refl : Follows pool allowed source subject subject source []
  | own {current : Subject} {config config' : Config M C ρ α W} {taken : List (M × M)}
      {label : Pool.Label Op Task Noise O} :
      Follows pool allowed source subject current config taken → current.Owns label →
      pool.step config label = some config' →
      Follows pool allowed source subject current config'
        (taken ++ [(config.memory, config'.memory)])
  | other {current : Subject} {config config' : Config M C ρ α W} {taken : List (M × M)}
      {label : Pool.Label Op Task Noise O} :
      Follows pool allowed source subject current config taken → ¬ current.Owns label →
      ¬ current.Ends label → allowed taken config.memory config'.memory →
      pool.step config label = some config' →
      Follows pool allowed source subject (current.after label) config' taken

namespace Follows

variable {pool : Pool M C ρ α W O Op Task Noise} {allowed : List (M × M) → M → M → Prop}
  {source config : Config M C ρ α W} {subject current : Subject} {taken : List (M × M)}

theorem reaches (follows : Follows pool allowed source subject current config taken) :
    pool.Reaches source config := by
  induction follows with
  | refl => exact .refl
  | own _ _ step ih | other _ _ _ _ step ih => exact ih.tail trivial step

/-- An executed schedule follows the subject if it neither ends nor moves it and
all steps of others are admitted. -/
theorem of_run {labels : List (Pool.Label Op Task Noise O)} {target : Config M C ρ α W}
    (follows : Follows pool allowed source subject current config taken)
    (executed : run pool.step config labels = some target)
    (admitted : ∀ label ∈ labels, current.Owns label ∨
      (¬ current.Ends label ∧ current.after label = current ∧
        ∀ taken before after, allowed taken before after)) :
    ∃ taken', Follows pool allowed source subject current target taken' := by
  induction labels generalizing config taken with
  | nil =>
      obtain rfl := Option.some.inj executed
      exact ⟨taken, follows⟩
  | cons label rest ih =>
      rcases Option.bind_eq_some_iff.mp executed with ⟨middle, step, remaining⟩
      have later := fun later member => admitted later (List.mem_cons_of_mem label member)
      by_cases owns : current.Owns label
      · exact ih (follows.own owns step) remaining later
      · rcases admitted label List.mem_cons_self with own | ⟨goesOn, stays, free⟩
        · exact absurd own owns
        · have followed := follows.other owns goesOn (free _ _ _) step
          rw [stays] at followed
          exact ih followed remaining later

/-- An executed schedule of others follows the subject if a check accepts each of its
steps, and what the check accepts is admitted. -/
theorem others_of_run {check : Config M C ρ α W → Pool.Label Op Task Noise O → Bool}
    {labels : List (Pool.Label Op Task Noise O)} {target : Config M C ρ α W}
    (sound : ∀ config label target, check config label = true →
      pool.step config label = some target →
        ¬ current.Owns label ∧ ¬ current.Ends label ∧ current.after label = current ∧
          allowed taken config.memory target.memory)
    (follows : Follows pool allowed source subject current config taken)
    (executed : run (guarded pool.step check) config labels = some target) :
    Follows pool allowed source subject current target taken := by
  induction labels generalizing config with
  | nil =>
      obtain rfl := Option.some.inj executed
      exact follows
  | cons label rest ih =>
      rcases Option.bind_eq_some_iff.mp executed with ⟨middle, checked, remaining⟩
      rcases Option.ite_none_right_eq_some.mp checked with ⟨accepted, step⟩
      rcases sound _ _ _ accepted step with ⟨foreign, goesOn, stays, admitted⟩
      have followed := follows.other foreign goesOn admitted step
      rw [stays] at followed
      exact ih followed remaining

/-- An operation stays where it is. -/
theorem eq_operation (follows : Follows pool allowed source .operation current config taken) :
    current = .operation := by
  induction follows with
  | refl => rfl
  | own _ _ _ ih => exact ih
  | @other _ _ _ _ label _ _ _ _ _ ih =>
      rw [ih]
      cases label <;> rfl

/-- What a program, the memory and the steps taken satisfy together, kept by the
steps of the program. -/
structure Carried (holds : Program M C ρ α → M → List (M × M) → Prop) : Prop where
  access : ∀ {awaits : Bool} {update : M → M} {next : M → Program M C ρ α} {memory : M}
    {taken : List (M × M)}, holds (.access awaits update next) memory taken →
    holds (next memory) (update memory) (taken ++ [(memory, update memory)])
  call : ∀ {awaits : Bool} {request : C} {next : ρ request → Program M C ρ α}
    {reply : ρ request} {memory : M} {taken : List (M × M)},
    holds (.call awaits request next) memory taken →
    holds (next reply) memory (taken ++ [(memory, memory)])

theorem Carried.own {holds : Program M C ρ α → M → List (M × M) → Prop} (carried : Carried holds)
    {config' : Config M C ρ α W} {label : Pool.Label Op Task Noise O} {program : Program M C ρ α}
    (owns : subject.Owns label) (running : subject.program config = some program)
    (satisfied : holds program config.memory taken)
    (step : pool.step config label = some config') :
    ∃ program', subject.program config' = some program' ∧
      holds program' config'.memory (taken ++ [(config.memory, config'.memory)]) := by
  rcases Subject.advance_of_owns owns step with ⟨found, outcome, after, present, advanced, later,
    memory⟩
  obtain rfl := Option.some.inj (running.symm.trans present)
  refine ⟨after.1, later, ?_⟩
  rw [memory]
  cases program with
  | done result => cases advanced
  | access awaits update next =>
      cases advanced
      exact carried.access satisfied
  | call awaits request next =>
      rcases Option.bind_eq_some_iff.mp advanced with ⟨chosen, _, replied⟩
      rcases Option.map_eq_some_iff.mp replied with ⟨answered, _, rfl⟩
      exact carried.call satisfied

/-- An invariant of the program among others. -/
theorem invariant {holds : Program M C ρ α → M → List (M × M) → Prop} {program : Program M C ρ α}
    (carried : Carried holds)
    (others : ∀ {current : Subject} {config config' : Config M C ρ α W}
      {label : Pool.Label Op Task Noise O} {taken : List (M × M)} (program : Program M C ρ α),
      Follows pool allowed source subject current config taken →
      ¬ current.Owns label → ¬ current.Ends label → allowed taken config.memory config'.memory →
      pool.step config label = some config' → holds program config.memory taken →
      holds program config'.memory taken)
    (running : subject.program source = some program) (initial : holds program source.memory [])
    (follows : Follows pool allowed source subject current config taken) :
    ∃ program', current.program config = some program' ∧ holds program' config.memory taken := by
  induction follows with
  | refl => exact ⟨program, running, initial⟩
  | own _ owns step ih =>
      rcases ih with ⟨reached, running', satisfied⟩
      exact carried.own owns running' satisfied step
  | other followed foreign goesOn admitted step ih =>
      rcases ih with ⟨reached, running', satisfied⟩
      exact ⟨reached, Subject.program_of_other foreign goesOn running' step,
        others reached followed foreign goesOn admitted step satisfied⟩

end Follows

end XanhTab
