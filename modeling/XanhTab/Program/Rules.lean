import XanhTab.Program.Contract

/-!
# Derived rules for contracts

Rules for the common cases: programs that make no calls and whose every section
belongs to a fixed relation, sequences that stop at the first error, and
contracts that hold of every state, whether or not an operation runs.
-/

namespace XanhTab

universe u v w x y

variable {M : Type u} {C : Type v} {ρ : C → Type x} {α β γ : Type x} {W O : Type y}

/-! ## Local programs -/

namespace Program

/-- The program makes no calls, and every section it takes is in the relation. -/
def Local (related : M → M → Prop) : Program M C ρ α → Prop
  | .done _ => True
  | .access _ update next => ∀ memory, related memory (update memory) ∧ Local related (next memory)
  | .call _ _ _ => False

namespace Local

variable {related : M → M → Prop}

theorem bind {program : Program M C ρ α} {rest : α → Program M C ρ β}
    (first : program.Local related) (second : ∀ result, (rest result).Local related) :
    (program >>= rest).Local related := by
  induction program with
  | done result => exact second result
  | access awaits update next ih => exact fun memory => ⟨(first memory).1, ih _ (first memory).2⟩
  | call awaits request next ih => exact first.elim

theorem transact {awaits : Bool} {body : M → α × M}
    (steps : ∀ memory, related memory (body memory).2) :
    (.transact awaits body : Program M C ρ α).Local related :=
  fun memory => ⟨steps memory, trivial⟩

theorem andThen {ε : Type x} {program : Program M C ρ (Except ε α)}
    {rest : α → Program M C ρ (Except ε β)} (first : program.Local related)
    (second : ∀ value, (rest value).Local related) : (program.andThen rest).Local related := by
  refine first.bind fun result => ?_
  cases result with
  | error error => trivial
  | ok value => exact second value

end Local

end Program

namespace Contract

variable {contract : Contract M C γ W O} {answer : Answer C ρ W O}

/-- A local program is steady when its relation is within the rely. -/
theorem Steady.of_local {related : M → M → Prop} {program : Program M C ρ α}
    (isLocal : program.Local related)
    (keeps : ∀ memory world memory', contract.Good memory world → related memory memory' →
      contract.assume.access memory world memory' → contract.given memory' world →
      contract.rely memory world memory' world ∧ contract.always memory' world)
    (memory : M) (world : W) : contract.Steady answer program memory world := by
  induction program generalizing memory world with
  | done result => trivial
  | access awaits update next ih =>
      intro memory' world' _ good assumed given
      obtain ⟨relied, kept⟩ := keeps _ _ _ good (isLocal memory').1 assumed given
      exact ⟨relied, kept, ih memory' (isLocal memory').2 _ _⟩
  | call awaits request next ih => exact isLocal.elim

/-! ## Assertions -/

/-- An assertion that interference keeps. -/
structure Assertion (contract : Contract M C γ W O) where
  holds : M → W → Prop
  stable : contract.Stable holds

/-- The assertion together with a fact that no state changes. -/
def Assertion.also (assertion : contract.Assertion) (fact : Prop) : contract.Assertion where
  holds memory world := assertion.holds memory world ∧ fact
  stable := Stable.and assertion.stable (stable_const fact)

/-- A triple of assertions. -/
abbrev Spec (contract : Contract M C γ W O) (answer : Answer C ρ W O)
    (pre : contract.Assertion) (program : Program M C ρ α) (post : α → contract.Assertion) :
    Prop :=
  contract.Triple answer pre.holds program fun result => (post result).holds

/-- If operations may be dropped at all then every good state is at rest, and
what a run assumes of the outcome of a request does not depend on whether the
reply is read. -/
structure Total (contract : Contract M C γ W O) : Prop where
  rest : ∀ {inFlight : Option (C × Option O)} {before : M} {state : W},
    contract.assume.drop inFlight before state →
    ∀ memory world, contract.Good memory world → contract.atRest memory world
  unread : ∀ request outcome memory world,
    contract.assume.drop (some (request, some outcome)) memory world →
    contract.assume.reply request outcome memory world

namespace Spec

variable {pre pre' : contract.Assertion} {post : α → contract.Assertion}

theorem done {result : α}
    (holds : ∀ memory world, contract.Good memory world → pre.holds memory world →
      (post result).holds memory world) :
    contract.Spec answer pre (.done result : Program M C ρ α) post :=
  Triple.done (post result).stable holds

theorem bind {program : Program M C ρ α} {rest : α → Program M C ρ β}
    {middle : α → contract.Assertion} {post : β → contract.Assertion}
    (first : contract.Spec answer pre program middle)
    (second : ∀ result, contract.Spec answer (middle result) (rest result) post) :
    contract.Spec answer pre (program >>= rest) post :=
  Triple.bind first second

/-- Strengthen the precondition. -/
theorem weaken {program : Program M C ρ α} (spec : contract.Spec answer pre' program post)
    (implies : ∀ memory world, contract.Good memory world → pre.holds memory world →
      pre'.holds memory world) : contract.Spec answer pre program post :=
  Triple.weaken spec implies

/-- Weaken the postcondition. -/
theorem relax {program : Program M C ρ α} {post' : α → contract.Assertion}
    (spec : contract.Spec answer pre program post')
    (implies : ∀ result memory world, contract.Good memory world →
      (post' result).holds memory world → (post result).holds memory world) :
    contract.Spec answer pre program post :=
  Triple.relax spec implies

/-- A section, from what its body does to one good state. -/
theorem transact {awaits : Bool} {body : M → α × M} (total : contract.Total)
    (steps : ∀ memory world, contract.Good memory world → pre.holds memory world →
      contract.assume.access memory world (body memory).2 →
      contract.given (body memory).2 world →
      contract.guarantee memory world (body memory).2 world ∧
      contract.always (body memory).2 world ∧
      (post (body memory).1).holds (body memory).2 world) :
    contract.Spec answer pre (.transact awaits body : Program M C ρ α) post :=
  Triple.transact pre.stable (fun result => (post result).stable)
    (fun _ memory world good _ dropped => total.rest dropped memory world good) steps

/-- A section, from a list of its outcomes. -/
theorem transactBy {awaits : Bool} {body : M → α × M} {outcome : M → α × M → Prop}
    (total : contract.Total) (outcomes : ∀ memory, outcome memory (body memory))
    (steps : ∀ memory world, contract.Good memory world → pre.holds memory world →
      ∀ after, outcome memory after → contract.assume.access memory world after.2 →
      contract.given after.2 world →
      contract.guarantee memory world after.2 world ∧ contract.always after.2 world ∧
        (post after.1).holds after.2 world) :
    contract.Spec answer pre (.transact awaits body : Program M C ρ α) post :=
  transact total fun memory world good satisfied =>
    steps memory world good satisfied (body memory) (outcomes memory)

/-- A request, from what every outcome does to one good state. -/
theorem ask {awaits : Bool} {request : C} {post : ρ request → contract.Assertion}
    (total : contract.Total)
    (steps : ∀ memory world, contract.Good memory world → pre.holds memory world →
      ∀ outcome reply after, answer request outcome world = some (reply, after) →
      contract.assume.reply request outcome memory world → contract.given memory after →
      contract.guarantee memory world memory after ∧ contract.always memory after ∧
        (post reply).holds memory after) :
    contract.Spec answer pre (.ask awaits request : Program M C ρ (ρ request)) post := by
  apply Triple.ask pre.stable (fun reply => (post reply).stable)
  · exact fun _ memory world good _ dropped => total.rest dropped memory world good
  · intro _ memory world good satisfied outcome reply after answered assumed given
    have admitted := total.unread request outcome memory world assumed
    rcases steps memory world good satisfied outcome reply after answered admitted given with
      ⟨guaranteed, kept, _⟩
    exact ⟨guaranteed, kept, total.rest assumed memory after ⟨given, kept⟩⟩
  · exact steps

/-- A sequence that stops at the first error. -/
theorem andThen {ε : Type x} {program : Program M C ρ (Except ε α)}
    {rest : α → Program M C ρ (Except ε β)} {middle : Except ε α → contract.Assertion}
    {post : Except ε β → contract.Assertion} (first : contract.Spec answer pre program middle)
    (failed : ∀ error memory world, contract.Good memory world →
      (middle (.error error)).holds memory world → (post (.error error)).holds memory world)
    (second : ∀ value, contract.Spec answer (middle (.ok value)) (rest value) post) :
    contract.Spec answer pre (program.andThen rest) post := by
  apply bind first
  intro result
  cases result with
  | error error => exact done (failed error)
  | ok value => exact second value

end Spec

end Contract

end XanhTab
