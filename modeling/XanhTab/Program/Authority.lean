import XanhTab.Program.Rules

/-!
# Programs under authority

What a program finds in the memory may entitle it to more than it was entitled
to before.  A program is authorized when each of its sections is allowed by
something that has been shown to it, where the section itself may be what shows
it, and its result is too.
-/

namespace XanhTab

universe u v w x

variable {M : Type u} {C : Type v} {K : Type w} {ρ : C → Type x} {α β : Type x} {W O : Type w}

/-- The keys that a memory shows, and the changes that a key allows. -/
structure Authority (M : Type u) (K : Type w) where
  shows : M → K → Prop
  allows : K → M → M → Prop

namespace Program

/-- With the keys that are held at first, the program does what they and those
that it is shown allow, and comes to a result that they entitle to.  It makes no
calls. -/
def Authorized (authority : Authority M K) (entitles : K → α → Prop) :
    (K → Prop) → Program M C ρ α → Prop
  | held, .done result => ∃ key, held key ∧ entitles key result
  | held, .access _ update next => ∀ memory,
      (∃ key, (held key ∨ authority.shows memory key) ∧
        authority.allows key memory (update memory)) ∧
      Authorized authority entitles (fun key => held key ∨ authority.shows memory key) (next memory)
  | _, .call _ _ _ => False

namespace Authorized

variable {authority : Authority M K} {entitles : K → α → Prop} {held held' : K → Prop}

theorem mono {program : Program M C ρ α} (authorized : program.Authorized authority entitles held)
    (more : ∀ key, held key → held' key) : program.Authorized authority entitles held' := by
  induction program generalizing held held' with
  | done result =>
      rcases authorized with ⟨key, holds, entitled⟩
      exact ⟨key, more key holds, entitled⟩
  | access awaits update next ih =>
      intro memory
      rcases authorized memory with ⟨⟨key, holds, allowed⟩, later⟩
      exact ⟨⟨key, holds.imp_left (more key), allowed⟩,
        ih memory later fun key => Or.imp_left (more key)⟩
  | call awaits request next ih => exact authorized.elim

/-- What follows has the key that entitles to the result before it. -/
theorem bind {entitles' : K → β → Prop} {program : Program M C ρ α} {rest : α → Program M C ρ β}
    (first : program.Authorized authority entitles held)
    (second : ∀ key result, entitles key result →
      (rest result).Authorized authority entitles' fun other => held other ∨ other = key) :
    (program >>= rest).Authorized authority entitles' held := by
  induction program generalizing held with
  | done result =>
      rcases first with ⟨key, holds, entitled⟩
      refine (second key result entitled).mono fun other => ?_
      rintro (before | rfl)
      · exact before
      · exact holds
  | access awaits update next ih =>
      intro memory
      refine ⟨(first memory).1, ih memory (first memory).2 fun key result entitled => ?_⟩
      exact (second key result entitled).mono fun other => Or.imp_left Or.inl
  | call awaits request next ih => exact first.elim

theorem transact {awaits : Bool} {body : M → α × M}
    (allowed : ∀ memory, ∃ key, (held key ∨ authority.shows memory key) ∧
      authority.allows key memory (body memory).2)
    (entitled : ∀ memory, ∃ key, (held key ∨ authority.shows memory key) ∧
      entitles key (body memory).1) :
    (.transact awaits body : Program M C ρ α).Authorized authority entitles held :=
  fun memory => ⟨allowed memory, entitled memory⟩

theorem andThen {ε : Type x} {entitles : K → Except ε α → Prop} {entitles' : K → Except ε β → Prop}
    {program : Program M C ρ (Except ε α)} {rest : α → Program M C ρ (Except ε β)}
    (first : program.Authorized authority entitles held)
    (failed : ∀ key error, entitles key (.error error) → entitles' key (.error error))
    (second : ∀ key value, entitles key (.ok value) →
      (rest value).Authorized authority entitles' fun other => held other ∨ other = key) :
    (program.andThen rest).Authorized authority entitles' held := by
  refine first.bind fun key result entitled => ?_
  cases result with
  | error error => exact ⟨key, Or.inr rfl, failed key error entitled⟩
  | ok value => exact second key value entitled

/-- It makes no calls. -/
theorem isLocal {program : Program M C ρ α}
    (authorized : program.Authorized authority entitles held) : program.Local fun _ _ => True := by
  induction program generalizing held with
  | done result => trivial
  | access awaits update next ih => exact fun memory => ⟨trivial, ih memory (authorized memory).2⟩
  | call awaits request next ih => exact authorized.elim

/-- A step is allowed, and what it was shown stays with the program. -/
theorem advance {program : Program M C ρ α} {answer : Answer C ρ W O} {outcome : Option O}
    {memory : M} {world : W} {after : Program M C ρ α × M × W}
    (authorized : program.Authorized authority entitles held)
    (advanced : program.advance answer outcome memory world = some after) :
    (∃ key, (held key ∨ authority.shows memory key) ∧ authority.allows key memory after.2.1) ∧
      after.1.Authorized authority entitles (fun key => held key ∨ authority.shows memory key) ∧
      after.2.2 = world := by
  cases program with
  | done result => cases advanced
  | access awaits update next =>
      obtain rfl := Option.some.inj advanced
      exact ⟨(authorized memory).1, (authorized memory).2, rfl⟩
  | call awaits request next => exact authorized.elim

end Authorized

end Program

end XanhTab
