import XanhTab.Daemon.Lifecycle

/-!
# The ledger of backend calls

A world that keeps a ledger of the calls that were made to it and of which of
them succeeded.
-/

namespace XanhTab

/-- Whether a reply reports success. -/
def Call.succeeded : (call : Call) → call.Reply → Bool
  | .browserStart _ _ _ _, reply | .browserStop, reply | .browserNavigate _, reply
  | .egressApply _, reply | .egressReset, reply => Except.isOk reply
  | .clearRuntimeDir, reply | .writePairingFile _, reply => Except.isOk reply

/-- A world with the calls that were made to it, oldest first. -/
structure Ledger (W : Type) where
  calls : List (Call × Bool) := []
  world : W

variable {W O N : Type}

namespace Ledger

/-- Answer as the world does, and note the call. -/
def answer (answer : Answer Call Call.Reply W O) : Answer Call Call.Reply (Ledger W) O :=
  fun request outcome ledger => (answer request outcome ledger.world).map fun answered =>
    (answered.1, ⟨ledger.calls ++ [(request, request.succeeded answered.1)], answered.2⟩)

def noise (world : N → Daemon → W → Option W) : N → Daemon → Ledger W → Option (Ledger W) :=
  fun event daemon ledger => (world event daemon ledger.world).map fun after =>
    { ledger with world := after }

/-- The text of the pairing file, once one was published. -/
def pairingFile (ledger : Ledger W) : Option String :=
  (ledger.calls.filterMap fun entry =>
    match entry with
    | (.writePairingFile body, true) => some body
    | _ => none).getLast?

theorem calls_of_answer {answer : Answer Call Call.Reply W O} {request : Call} {outcome : O}
    {ledger ledger' : Ledger W} {reply : request.Reply}
    (answered : Ledger.answer answer request outcome ledger = some (reply, ledger')) :
    ledger'.calls = ledger.calls ++ [(request, request.succeeded reply)] := by
  rcases Option.map_eq_some_iff.mp answered with ⟨⟨reply', world⟩, _, equal⟩
  cases equal
  rfl

theorem calls_of_noise {world : N → Daemon → W → Option W} {event : N} {daemon : Daemon}
    {ledger ledger' : Ledger W} (changed : noise world event daemon ledger = some ledger') :
    ledger'.calls = ledger.calls := by
  rcases Option.map_eq_some_iff.mp changed with ⟨after, _, rfl⟩
  rfl

theorem pairingFile_of_calls {ledger : Ledger W} {calls : List (Call × Bool)} {body : String}
    (written : ledger.calls = calls ++ [(.writePairingFile body, true)]) :
    ledger.pairingFile = some body := by
  simp [pairingFile, written]

/-- A step notes at most one call. -/
def Grows (ledger ledger' : Ledger W) : Prop :=
  ledger'.calls = ledger.calls ∨ ∃ entry, ledger'.calls = ledger.calls ++ [entry]

end Ledger

/-- The service over a world whose calls are noted. -/
abbrev AppState.ledgerService (app : AppState) (answer : Answer Call Call.Reply W O)
    (world : N → Daemon → W → Option W) :
    Pool Daemon Call Call.Reply Response (Ledger W) O Lifecycle Request (Environment N) :=
  app.service (Ledger.answer answer) (Ledger.noise world)

theorem Ledger.grows_of_step {app : AppState} {answer : Answer Call Call.Reply W O}
    {world : N → Daemon → W → Option W}
    {config config' : Config Daemon Call Call.Reply Response (Ledger W)}
    {label : Pool.Label Lifecycle Request (Environment N) O}
    (step : (app.ledgerService answer world).step config label = some config') :
    config.world.Grows config'.world := by
  apply Pool.world_of_step ?_ ?_ ?_ step
  · exact fun _ => Or.inl rfl
  · intro request outcome ledger reply ledger' noted
    exact Or.inr ⟨_, calls_of_answer noted⟩
  · intro event memory ledger memory' ledger' changed
    cases event with
    | elapse duration | setClock utc =>
        cases changed
        exact Or.inl rfl
    | world event =>
        rcases Option.map_eq_some_iff.mp changed with ⟨after, moved, equal⟩
        cases equal
        exact Or.inl (calls_of_noise moved)

/-- What may happen between two steps of a lifecycle operation. -/
structure Beside (before : Daemon) (ledger : Ledger W) (after : Daemon) (ledger' : Ledger W) :
    Prop extends Foreign before after where
  calls : ledger'.calls = ledger.calls

theorem beside_of_step {app : AppState} {answer : Answer Call Call.Reply W O}
    {world : N → Daemon → W → Option W}
    {config config' : Config Daemon Call Call.Reply Response (Ledger W)}
    {label : Pool.Label Lifecycle Request (Environment N) O}
    (framed : config.Framed LifecycleStep RequestStep) (continues : label.Continues)
    (foreign : ¬ label.Own)
    (step : (app.ledgerService answer world).step config label = some config') :
    Beside config.memory config.world config'.memory config'.world where
  toForeign := foreign_of_step framed continues foreign step
  calls := by
    have advances := ((service_framed app (Ledger.answer answer) (Ledger.noise world)).step framed
      step).2
    cases label with
    | step outcome => exact absurd trivial foreign
    | drop outcome | finish => exact continues.elim
    | noise event =>
        cases event with
        | elapse duration | setClock utc =>
            rw [← (Prod.mk.inj (Option.some.inj advances)).2]
        | world event =>
            rcases Option.map_eq_some_iff.mp advances with ⟨after, changed, equal⟩
            rw [← (Prod.mk.inj equal).2]
            exact Ledger.calls_of_noise changed
    | start op | spawn task | stepTask index outcome | dropTask index outcome => rw [advances.2]

end XanhTab
