import XanhTab.Program.Requests
import XanhTab.Program.Segment

/-!
# Programs within bounds

A program is within bounds when all its sections are in one relation and all
its requests are allowed.  A contract whose states at rest survive both lets
such a program be dropped anywhere.
-/

namespace XanhTab

universe u v w x y

variable {M : Type u} {C : Type v} {ρ : C → Type x} {α β γ : Type x} {W O : Type y}

namespace Program

/-- Every section is in the relation, and every request is allowed. -/
def Within (related : M → M → Prop) (allowed : C → Prop) : Program M C ρ α → Prop
  | .done _ => True
  | .access _ update next => ∀ memory,
      related memory (update memory) ∧ Within related allowed (next memory)
  | .call _ request next => allowed request ∧ ∀ reply, Within related allowed (next reply)

namespace Within

variable {related related' : M → M → Prop} {allowed allowed' : C → Prop}

theorem bind {program : Program M C ρ α} {rest : α → Program M C ρ β}
    (first : program.Within related allowed)
    (second : ∀ result, (rest result).Within related allowed) :
    (program >>= rest).Within related allowed := by
  induction program with
  | done result => exact second result
  | access awaits update next ih => exact fun memory => ⟨(first memory).1, ih _ (first memory).2⟩
  | call awaits request next ih => exact ⟨first.1, fun reply => ih reply (first.2 reply)⟩

theorem transact {awaits : Bool} {body : M → α × M}
    (steps : ∀ memory, related memory (body memory).2) :
    (.transact awaits body : Program M C ρ α).Within related allowed :=
  fun memory => ⟨steps memory, trivial⟩

theorem ask {awaits : Bool} {request : C} (admitted : allowed request) :
    (.ask awaits request : Program M C ρ (ρ request)).Within related allowed :=
  ⟨admitted, fun _ => trivial⟩

theorem andThen {ε : Type x} {program : Program M C ρ (Except ε α)}
    {rest : α → Program M C ρ (Except ε β)} (first : program.Within related allowed)
    (second : ∀ value, (rest value).Within related allowed) :
    (program.andThen rest).Within related allowed := by
  refine first.bind fun result => ?_
  cases result with
  | error error => trivial
  | ok value => exact second value

theorem mono {program : Program M C ρ α} (within : program.Within related allowed)
    (weakens : ∀ before after, related before after → related' before after)
    (admits : ∀ request, allowed request → allowed' request) :
    program.Within related' allowed' := by
  induction program with
  | done result => trivial
  | access awaits update next ih =>
      exact fun memory => ⟨weakens _ _ (within memory).1, ih memory (within memory).2⟩
  | call awaits request next ih =>
      exact ⟨admits request within.1, fun reply => ih reply (within.2 reply)⟩

end Within

end Program

namespace Contract

variable {contract : Contract M C γ W O} {answer : Answer C ρ W O}

/-- An assertion under which an operation may be dropped, and which no section
of the relation and no allowed request disturbs. -/
structure Preserved (contract : Contract M C γ W O) (answer : Answer C ρ W O)
    (related : M → M → Prop) (allowed : C → Prop) (keep : contract.Assertion) : Prop where
  rest : ∀ memory world, contract.Good memory world → keep.holds memory world →
    contract.atRest memory world
  access : ∀ memory world memory', contract.Good memory world → keep.holds memory world →
    related memory memory' → contract.given memory' world →
    contract.guarantee memory world memory' world ∧ contract.always memory' world ∧
      keep.holds memory' world
  reply : ∀ request outcome memory world reply world', allowed request →
    contract.Good memory world → keep.holds memory world →
    answer request outcome world = some (reply, world') → contract.given memory world' →
    contract.guarantee memory world memory world' ∧ contract.always memory world' ∧
      keep.holds memory world'

/-- A program within bounds keeps what they preserve. -/
theorem Preserved.spec {related : M → M → Prop} {allowed : C → Prop} {keep : contract.Assertion}
    {program : Program M C ρ α} (preserved : contract.Preserved answer related allowed keep)
    (within : program.Within related allowed) :
    contract.Spec answer keep program fun _ => keep := by
  intro memory world good holds
  induction program generalizing memory world with
  | done result => exact fun _ _ disturbed _ => keep.stable.disturbed good holds disturbed
  | access awaits update next ih =>
      intro memory' world' disturbed good'
      have holds' := keep.stable.disturbed good holds disturbed
      refine ⟨fun _ _ => preserved.rest memory' world' good' holds', fun _ given => ?_⟩
      rcases preserved.access memory' world' _ good' holds' (within memory').1 given with
        ⟨guaranteed, kept, later⟩
      exact ⟨guaranteed, kept, ih memory' (within memory').2 _ _ ⟨given, kept⟩ later⟩
  | call awaits request next ih =>
      intro memory' world' disturbed good'
      have holds' := keep.stable.disturbed good holds disturbed
      refine ⟨fun _ _ => preserved.rest memory' world' good' holds',
        fun outcome reply world'' answered given => ?_⟩
      rcases preserved.reply request outcome memory' world' reply world'' within.1 good' holds'
          answered given with ⟨guaranteed, kept, later⟩
      exact ⟨fun _ _ => ⟨guaranteed, kept, preserved.rest _ _ ⟨given, kept⟩ later⟩,
        fun _ => ⟨guaranteed, kept, ih reply (within.2 reply) _ _ ⟨given, kept⟩ later⟩⟩

end Contract

/-- An operation that is dropped where it awaits, with nothing in flight, leaves
memory and world as they are. -/
theorem Pool.drop_none {Op Task Noise : Type} {pool : Pool M C ρ α W O Op Task Noise}
    {config config' : Config M C ρ α W} (step : pool.step config (.drop none) = some config') :
    config'.holder = none ∧ config'.memory = config.memory ∧ config'.world = config.world := by
  rcases Option.bind_eq_some_iff.mp step with ⟨program, _, mapped⟩
  rcases Option.map_eq_some_iff.mp mapped with ⟨world, dropped, rfl⟩
  refine ⟨rfl, rfl, ?_⟩
  cases program with
  | done _ => cases dropped
  | access awaits _ _ | call awaits _ _ =>
      cases awaits with
      | false => cases dropped
      | true => exact (Option.some.inj dropped).symm

end XanhTab
