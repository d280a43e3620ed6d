import Mathlib.Logic.Function.Basic
import XanhTab.Program.Rules

/-!
# Requests that are carried out step by step

A request of a program may itself be carried out by a program, which makes
requests of its own.  `interpret` puts such programs in the place of requests.

A contract about the result is proved in two parts.  The request is summarised
by what it may do to the world as a whole, as if it were answered at once: this
is what the proof about the outer program sees.  The program that carries the
request out has to show that every way in which it ends is one of these, after
some of the interference that it went through.
-/

namespace XanhTab

universe u v

namespace Program

variable {M : Type v} {C C' : Type u} {ρ : C → Type u} {ρ' : C' → Type u} {α β : Type u}

/-- Carry out every request by a program. -/
def interpret (carry : (awaits : Bool) → (request : C) → Program M C' ρ' (ρ request)) :
    Program M C ρ α → Program M C' ρ' α
  | done result => done result
  | access awaits update next => access awaits update fun memory => (next memory).interpret carry
  | call awaits request next => carry awaits request >>= fun reply => (next reply).interpret carry

variable {carry : (awaits : Bool) → (request : C) → Program M C' ρ' (ρ request)}

/-- A program without requests stays as it is. -/
theorem Local.interpret {related : M → M → Prop} {program : Program M C ρ α}
    (isLocal : program.Local related) : (program.interpret carry).Local related := by
  induction program with
  | done result => trivial
  | access awaits update next ih => exact fun memory => ⟨(isLocal memory).1, ih _ (isLocal memory).2⟩
  | call awaits request next ih => exact isLocal.elim

end Program

/-! ## Summaries -/

/-- What a request may reply, and do to the world, as a whole. -/
abbrev Summary (C : Type u) (ρ : C → Type u) (W : Type u) :=
  (request : C) → W → ρ request → W → Prop

/-- An outcome that says of every request what comes of it. -/
abbrev Effects (C : Type u) (ρ : C → Type u) (W : Type u) :=
  (request : C) → Option (ρ request × W)

/-- Any reply with any change of the world. -/
def Effects.answer {C : Type u} {ρ : C → Type u} {W : Type u} : Answer C ρ W (Effects C ρ W) :=
  fun request effects _ => effects request

namespace Contract

variable {M : Type v} {C C' : Type u} {ρ : C → Type u} {ρ' : C' → Type u} {α γ : Type u}
  {W O : Type u}

/-- The contract over the requests of the outer program, which have the effects
that the summary allows. -/
def summarized (contract : Contract M C' γ W O) (summary : Summary C ρ W) :
    Contract M C γ W (Effects C ρ W) where
  given := contract.given
  always := contract.always
  atRest := contract.atRest
  finish := contract.finish
  rely := contract.rely
  guarantee := contract.guarantee
  assume :=
    { access := contract.assume.access
      reply := fun request effects _ world => ∀ reply world',
        effects request = some (reply, world') → summary request world reply world'
      drop := fun inFlight memory world => inFlight = none ∧ contract.assume.drop none memory world }

/-- From here on, whatever the summary allows is within the contract. -/
def Admits (contract : Contract M C' γ W O) (summary : Summary C ρ W) (request : C) (memory : M)
    (world : W) : Prop :=
  ∀ memory' world', contract.Disturbed (memory, world) (memory', world') →
    contract.Good memory' world' → ∀ reply world'', summary request world' reply world'' →
    contract.given memory' world'' →
    contract.guarantee memory' world' memory' world'' ∧ contract.always memory' world''

/-- The program ends as the summary allows, at the latest where it ends. -/
def Meets (contract : Contract M C' γ W O) (summary : Summary C ρ W) (request : C) (memory : M)
    (world : W) (reply : ρ request) (memory' : M) (world' : W) : Prop :=
  ∃ world'', contract.Disturbed (memory, world) (memory', world'') ∧
    contract.Good memory' world'' ∧ summary request world'' reply world'

/-- The programs carry out their requests. -/
def Carries (contract : Contract M C' γ W O) (answer : Answer C' ρ' W O)
    (summary : Summary C ρ W)
    (carry : (awaits : Bool) → (request : C) → Program M C' ρ' (ρ request)) : Prop :=
  ∀ awaits request memory world, contract.Good memory world →
    contract.Admits summary request memory world →
    contract.Safe answer (contract.Meets summary request memory world) (carry awaits request)
      memory world

variable {contract : Contract M C' γ W O} {answer : Answer C' ρ' W O} {summary : Summary C ρ W}
  {carry : (awaits : Bool) → (request : C) → Program M C' ρ' (ρ request)}
  {post : α → M → W → Prop}

open Classical in
/-- What a safe program is about to request admits the summary of the request. -/
theorem Safe.admits {awaits : Bool} {request : C} {next : ρ request → Program M C ρ α}
    {memory : M} {world : W}
    (safe : (contract.summarized summary).Safe Effects.answer post (.call awaits request next)
      memory world) :
    contract.Admits summary request memory world := by
  intro memory' world' disturbed good reply world'' allowed given
  let effects : Effects C ρ W := Function.update (fun _ => none) request (some (reply, world''))
  have chosen : effects request = some (reply, world'') := Function.update_self _ _ _
  have within := ((safe memory' world' disturbed good).2 effects reply world'' chosen given).2
  have assumed : ∀ reply' after, effects request = some (reply', after) →
      summary request world' reply' after := by
    intro reply' after told
    cases chosen.symm.trans told
    exact allowed
  exact ⟨(within assumed).1, (within assumed).2.1⟩

open Classical in
/-- A safe program goes on safely from where its request ends. -/
theorem Safe.resume {awaits : Bool} {request : C} {next : ρ request → Program M C ρ α}
    {memory memory' : M} {world world' : W} {reply : ρ request}
    (safe : (contract.summarized summary).Safe Effects.answer post (.call awaits request next)
      memory world)
    (good : contract.Good memory' world')
    (meets : contract.Meets summary request memory world reply memory' world') :
    (contract.summarized summary).Safe Effects.answer post (next reply) memory' world' := by
  rcases meets with ⟨world'', disturbed, before, allowed⟩
  let effects : Effects C ρ W := Function.update (fun _ => none) request (some (reply, world'))
  have chosen : effects request = some (reply, world') := Function.update_self _ _ _
  have within := ((safe memory' world'' disturbed before).2 effects reply world' chosen good.1).2
  have assumed : ∀ reply' after, effects request = some (reply', after) →
      summary request world'' reply' after := by
    intro reply' after told
    cases chosen.symm.trans told
    exact allowed
  exact (within assumed).2.2

/-- A program that is safe with its requests answered at once is safe with its
requests carried out. -/
theorem Safe.interpret (carries : contract.Carries answer summary carry)
    {program : Program M C ρ α} {memory : M} {world : W} (good : contract.Good memory world)
    (safe : (contract.summarized summary).Safe Effects.answer post program memory world) :
    contract.Safe answer post (program.interpret carry) memory world := by
  induction program generalizing memory world with
  | done result => exact safe
  | access awaits update next ih =>
      intro memory' world' disturbed good'
      rcases safe memory' world' disturbed good' with ⟨rest, step⟩
      refine ⟨fun awaiting assumed => rest awaiting ⟨rfl, assumed⟩, fun assumed given => ?_⟩
      rcases step assumed given with ⟨guaranteed, kept, later⟩
      exact ⟨guaranteed, kept, ih memory' ⟨given, kept⟩ later⟩
  | call awaits request next ih =>
      have carried : contract.Triple answer (fun memory' world' => memory' = memory ∧ world' = world)
          (carry awaits request) (contract.Meets summary request memory world) := by
        rintro _ _ good ⟨rfl, rfl⟩
        exact carries awaits request _ _ good safe.admits
      have resumed : ∀ reply, contract.Triple answer
          (contract.Meets summary request memory world reply) ((next reply).interpret carry) post :=
        fun reply memory' world' good' meets => ih reply good' (safe.resume good' meets)
      exact Triple.bind carried resumed memory world good ⟨rfl, rfl⟩

theorem Triple.interpret (carries : contract.Carries answer summary carry)
    {pre : M → W → Prop} {program : Program M C ρ α}
    (triple : (contract.summarized summary).Triple Effects.answer pre program post) :
    contract.Triple answer pre (program.interpret carry) post :=
  fun memory world good satisfied =>
    Safe.interpret carries good (triple memory world good satisfied)

end Contract

end XanhTab
