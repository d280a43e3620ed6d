import XanhTab.Daemon.Lifecycle
import XanhTab.Invariant.Gate
import XanhTab.Transition.Simulation

/-!
# Where authority comes from

No client has a session but by the pairing secret, and none a ticket but by the
session of a client: whatever the daemon has stored was stored by the handler of a
request that had shown it.  So every operation that gets the mutex goes back to a
request with the pairing secret.
-/

namespace XanhTab

open Program Transition

section

variable {app : AppState} {config : Configuration.Config} {initialUrl : Url} {W O N : Type}
  {answer : Answer Call Call.Reply W O} {world : N → Daemon → W → Option W}

/-- The entry was stored on the way by the handler of a request that had shown the
credential. -/
def Stems {E : Type} (next : Step (WebConfiguration W) (ServerLabel O N))
    (config : Configuration.Config) (source current : WebConfiguration W)
    (stored : Daemon → List E) (entry : E) (credential : Credential) : Prop :=
  ∃ before spawned earlier later head request index outcome,
    Reachable next source before ∧
    next before (.other (.spawn (head, request))) = some spawned ∧
    Handles next spawned before.tasks.length earlier index ∧
    next earlier (.other (.stepTask index outcome)) = some later ∧
    Reachable next later current ∧
    request.Shown next config head spawned earlier credential ∧
    entry ∉ stored earlier.memory ∧ entry ∈ stored later.memory

/-- What is stored goes back to the pairing secret, and what is done too. -/
structure Rooted (next : Step (WebConfiguration W) (ServerLabel O N))
    (config : Configuration.Config) (initialUrl : Url) (source current : WebConfiguration W) :
    Prop where
  sessions : ∀ entry ∈ current.memory.auth.sessions,
    Stems next config source current (·.auth.sessions) entry .secret
  tickets : ∀ entry ∈ current.memory.auth.tickets, ∃ context : AuthContext,
    context.clientId = entry.2.clientId ∧
      Stems next config source current (·.auth.tickets) entry (.token context)
  operations : ∀ index current', next current (.enter index) = some current' →
    ∃ operation context request earlier entry,
      HttpRequest.Asks initialUrl context request operation ∧
      current.tasks[index]? = some (.done (.ok (.admitted operation))) ∧
      Reachable next source earlier ∧ Reachable next earlier current ∧
      entry ∈ earlier.memory.auth.sessions ∧
      context = ⟨entry.2.clientId, entry.2.generation⟩ ∧
      Stems next config source earlier (·.auth.sessions) entry .secret

/-! ## What a step stores -/

/-- Every section of the server's operations is a `LifecycleStep`. -/
theorem webPool_framed (app : AppState) (config : Configuration.Config) (initialUrl : Url)
    (answer : Answer Call Call.Reply W O) (world : N → Daemon → W → Option W) :
    (app.webPool config initialUrl answer world).Framed LifecycleStep fun _ _ => True where
  operation op := by
    refine Sections.bind ?_ fun _ => trivial
    rcases app.api_cases initialUrl op with ⟨error, equal⟩ | ⟨accepted, _, equal⟩
    · rw [equal]
      trivial
    · rw [equal]
      exact lifecycle_sections app accepted
  task request := by
    have authorized : (app.handle config initialUrl request.1 request.2).Authorized
        (request.2.authority config request.1) (request.2.Entitles initialUrl) fun _ => True :=
      handle_authorized app initialUrl request.2 trivial
    exact authorized.isLocal

/-- Only handlers store anything. -/
theorem AppState.serve_framed {current current' : WebConfiguration W} {label : ServerLabel O N}
    (framed : current.Framed LifecycleStep fun _ _ => True)
    (step : app.serve config initialUrl answer world current label = some current') :
    current'.Framed LifecycleStep (fun _ _ => True) ∧
      ((∃ index outcome, label = .other (.stepTask index outcome)) ∨
        (current'.memory.auth.sessions ⊆ current.memory.auth.sessions ∧
          current'.memory.auth.tickets ⊆ current.memory.auth.tickets)) := by
  have bounded := webPool_framed app config initialUrl answer world
  have forgets {memory memory' : Daemon} (same : memory'.auth = memory.auth) :
      memory'.auth.sessions ⊆ memory.auth.sessions ∧
        memory'.auth.tickets ⊆ memory.auth.tickets := by
    rw [same]
    exact ⟨List.Subset.refl _, List.Subset.refl _⟩
  cases label with
  | enter index =>
      simp only [AppState.serve] at step
      split at step
      · have framed' : Config.Framed LifecycleStep (fun _ _ => True)
            { current with tasks := current.tasks.eraseIdx index } :=
          ⟨framed.holder, fun program member =>
            framed.tasks program (List.mem_of_mem_eraseIdx member)⟩
        rcases bounded.step framed' step with ⟨later, same, _⟩
        exact ⟨later, Or.inr (forgets (congrArg Daemon.auth same))⟩
      · cases step
  | watch expired =>
      simp only [AppState.serve] at step
      rcases bounded.step framed step with ⟨later, same, _⟩
      exact ⟨later, Or.inr (forgets (congrArg Daemon.auth same))⟩
  | other label =>
      rcases bounded.step framed step with ⟨later, advances⟩
      refine ⟨later, ?_⟩
      cases label with
      | start operation => exact operation.elim
      | stepTask index outcome => exact Or.inl ⟨index, outcome, rfl⟩
      | step outcome =>
          right
          rcases advances with stepped | same
          · exact ⟨stepped.sessions, stepped.tickets⟩
          · exact forgets (congrArg Daemon.auth same)
      | drop outcome => exact Or.inr (forgets (congrArg Daemon.auth advances))
      | finish | spawn task | dropTask index outcome =>
          exact Or.inr (forgets (congrArg Daemon.auth advances.1))
      | noise event =>
          right
          cases event with
          | elapse duration | setClock utc =>
              have same := congrArg Daemon.auth (Prod.mk.inj (Option.some.inj advances)).1
              exact forgets same.symm
          | world event =>
              rcases Option.map_eq_some_iff.mp advances with ⟨_, _, equal⟩
              exact forgets (congrArg Daemon.auth (Prod.mk.inj equal).1.symm)

theorem framed_of_reaches {memory : Daemon} {state : W} {current : WebConfiguration W}
    (reaches : Reachable (app.serve config initialUrl answer world) (.idle memory state) current) :
    current.Framed LifecycleStep fun _ _ => True :=
  ReachableUnder.invariant (.idle memory state)
    (fun _ _ _ framed _ step => (AppState.serve_framed framed step).1) reaches

/-- A step that stores something is the step of a handler, which its request allows. -/
theorem allowed_of_stored {memory : Daemon} {state : W} {current current' : WebConfiguration W}
    {label : ServerLabel O N}
    (reaches : Reachable (app.serve config initialUrl answer world) (.idle memory state) current)
    (step : app.serve config initialUrl answer world current label = some current')
    (stores : ¬ (current'.memory.auth.sessions ⊆ current.memory.auth.sessions ∧
      current'.memory.auth.tickets ⊆ current.memory.auth.tickets)) :
    ∃ before spawned head request index outcome credential,
      Reachable (app.serve config initialUrl answer world) (.idle memory state) before ∧
      app.serve config initialUrl answer world before (.other (.spawn (head, request))) =
        some spawned ∧
      Handles (app.serve config initialUrl answer world) spawned before.tasks.length current
        index ∧
      label = .other (.stepTask index outcome) ∧
      request.Shown (app.serve config initialUrl answer world) config head spawned current
        credential ∧
      request.Allows credential current.memory current'.memory := by
  rcases (AppState.serve_framed (framed_of_reaches reaches) step).2 with
    ⟨index, outcome, rfl⟩ | forgets
  · rcases AppState.serve_stepTask step with ⟨program, _, present, _⟩
    rcases handles_of_reaches reaches (List.getElem?_eq_some_iff.mp present).1 with
      ⟨before, spawned, head, request, started, spawn, handles⟩
    rcases allowed_of_handles spawn handles step with ⟨_, credential, shown, allowed⟩
    exact ⟨before, spawned, head, request, index, outcome, credential, started, spawn, handles, rfl,
      shown, allowed⟩
  · exact absurd forgets stores

/-- Only the pairing secret is good for a session. -/
theorem HttpRequest.Allows.secret_of_session {request : HttpRequest} {credential : Credential}
    {before after : Daemon} {entry : Digest × AuthSession}
    (allowed : request.Allows credential before after) (absent : entry ∉ before.auth.sessions)
    (present : entry ∈ after.auth.sessions) : credential = .secret := by
  cases credential with
  | secret => rfl
  | nothing | cookie context => exact absurd (allowed.sessions.subset present) absent
  | token context =>
      cases allowed with
      | setting | publish => exact absurd present absent
      | issue _ _ _ _ _ sessions _ => exact absurd (sessions.subset present) absent
  | ticket client =>
      rcases allowed with ⟨id, content, rfl⟩
      exact absurd present absent

/-- Only the token of a client is good for a ticket of this client. -/
theorem HttpRequest.Allows.token_of_ticket {request : HttpRequest} {credential : Credential}
    {before after : Daemon} {entry : Digest × Ticket}
    (allowed : request.Allows credential before after) (absent : entry ∉ before.auth.tickets)
    (present : entry ∈ after.auth.tickets) :
    ∃ context : AuthContext, credential = .token context ∧
      context.clientId = entry.2.clientId := by
  cases credential with
  | secret => exact absurd (allowed.tickets ▸ present) absent
  | nothing | cookie context => exact absurd (allowed.tickets.subset present) absent
  | token context =>
      cases allowed with
      | setting | publish => exact absurd present absent
      | issue _ _ _ _ _ _ tickets =>
          exact ⟨context, rfl, ((tickets entry present).resolve_left absent).symm⟩
  | ticket client =>
      rcases allowed with ⟨id, content, rfl⟩
      exact absurd present absent

/-! ## Runs -/

section Empty

variable {memory : Daemon} {state : W} {current : WebConfiguration W}

/-- The entry is not stored. -/
def Lacks {E : Type} (stored : Daemon → List E) (entry : E) (current : WebConfiguration W) :
    Prop :=
  entry ∉ stored current.memory

/-- What is stored, and was not at first, stems from a credential that is good for
it. -/
theorem stems_of_stored {E : Type} {stored : Daemon → List E} {entry : E}
    {good : Credential → Prop}
    (forgotten : ∀ before after : Daemon, after.auth.sessions ⊆ before.auth.sessions ∧
      after.auth.tickets ⊆ before.auth.tickets → stored after ⊆ stored before)
    (takes : ∀ (request : HttpRequest) credential before after,
      request.Allows credential before after → entry ∉ stored before → entry ∈ stored after →
      good credential)
    (absent : Lacks stored entry (.idle memory state : WebConfiguration W))
    (reaches : Reachable (app.serve config initialUrl answer world) (.idle memory state) current)
    (present : entry ∈ stored current.memory) :
    ∃ credential, good credential ∧
      Stems (app.serve config initialUrl answer world) config (.idle memory state) current stored
        entry credential := by
  have lost : ¬ Lacks stored entry current := not_not_intro present
  rcases reaches.leaves absent lost with
    ⟨earlier, label, later, first, _, step, rest, missing, gained⟩
  have added : entry ∈ stored later.memory := not_not.mp gained
  have stores : ¬ (later.memory.auth.sessions ⊆ earlier.memory.auth.sessions ∧
      later.memory.auth.tickets ⊆ earlier.memory.auth.tickets) :=
    fun forgets => missing (forgotten _ _ forgets added)
  rcases allowed_of_stored first step stores with
    ⟨before, spawned, head, request, index, outcome, credential, started, spawn, handles, rfl,
      shown, allowed⟩
  exact ⟨credential, takes request credential _ _ allowed missing added, before, spawned, earlier,
    later, head, request, index, outcome, started, spawn, handles, step, rest, shown, missing,
    added⟩

theorem stems_of_session (empty : memory.auth.sessions = [])
    (reaches : Reachable (app.serve config initialUrl answer world) (.idle memory state) current)
    {entry : Digest × AuthSession} (present : entry ∈ current.memory.auth.sessions) :
    Stems (app.serve config initialUrl answer world) config (.idle memory state) current
      (·.auth.sessions) entry .secret := by
  have absent : Lacks (·.auth.sessions) entry (.idle memory state : WebConfiguration W) := by
    show entry ∉ memory.auth.sessions
    rw [empty]
    exact List.not_mem_nil
  rcases stems_of_stored (fun _ _ forgets => forgets.1)
    (fun _ _ _ _ allowed => allowed.secret_of_session) absent reaches present with
    ⟨credential, rfl, stems⟩
  exact stems

theorem stems_of_ticket (empty : memory.auth.tickets = [])
    (reaches : Reachable (app.serve config initialUrl answer world) (.idle memory state) current)
    {entry : Digest × Ticket} (present : entry ∈ current.memory.auth.tickets) :
    ∃ context : AuthContext, context.clientId = entry.2.clientId ∧
      Stems (app.serve config initialUrl answer world) config (.idle memory state) current
        (·.auth.tickets) entry (.token context) := by
  have absent : Lacks (·.auth.tickets) entry (.idle memory state : WebConfiguration W) := by
    show entry ∉ memory.auth.tickets
    rw [empty]
    exact List.not_mem_nil
  rcases stems_of_stored (fun _ _ forgets => forgets.2)
    (fun _ _ _ _ allowed => allowed.token_of_ticket) absent reaches present with
    ⟨credential, ⟨context, rfl, client⟩, stems⟩
  exact ⟨context, client, stems⟩

/-- In every run that starts with nothing stored, all authority goes back to the
pairing secret. -/
theorem rooted_of_reaches (noSessions : memory.auth.sessions = [])
    (noTickets : memory.auth.tickets = [])
    (reaches : Reachable (app.serve config initialUrl answer world) (.idle memory state) current) :
    Rooted (app.serve config initialUrl answer world) config initialUrl (.idle memory state)
      current where
  sessions _ present := stems_of_session noSessions reaches present
  tickets _ present := stems_of_ticket noTickets reaches present
  operations index current' step := by
    rcases AppState.serve_enter step with ⟨operation, present, _⟩
    rcases handles_of_reaches reaches (List.getElem?_eq_some_iff.mp present).1 with
      ⟨before, spawned, head, request, started, spawn, handles⟩
    rcases entitled_of_handles spawn handles present with ⟨credential, shown, entitled⟩
    cases entitled with
    | operation _ context operation asks =>
        rcases shown with ⟨earlier, since, rest, _, session, accepts, _, rfl⟩
        rcases accepts.stored with ⟨text, _, stored⟩
        have first : Reachable (app.serve config initialUrl answer world) (.idle memory state)
            earlier :=
          (started.tail trivial spawn).trans since
        exact ⟨operation, _, request, earlier, (hash text, session), asks, present, first, rest,
          stored, rfl, stems_of_session noSessions first stored⟩

end Empty

end

/-- The first client has a session, and an operation of it is about to begin. -/
theorem rooted_of_requestsSession :
    ∃ current : WebConfiguration Unit,
      run Sample.server (.idle Sample.daemon ()) Sample.requestsSession = some current ∧
      current.memory.auth.sessions.length = 1 ∧
      (Sample.server current (.enter 1)).isSome = true ∧
      Rooted Sample.server {} (Sample.url "example.com") (.idle Sample.daemon ()) current := by
  have executed : (run Sample.server (.idle Sample.daemon ()) Sample.requestsSession).map
      (fun current => (current.memory.auth.sessions.length,
        (Sample.server current (.enter 1)).isSome)) = some (1, true) := by
    decide +kernel
  rcases Option.map_eq_some_iff.mp executed with ⟨current, ran, values⟩
  rcases Prod.mk.inj values with ⟨number, enters⟩
  exact ⟨current, ran, number, enters, rooted_of_reaches rfl rfl (reachable_of_run ran)⟩

end XanhTab
