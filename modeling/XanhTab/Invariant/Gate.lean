import XanhTab.Invariant.Warrant

/-!
# Who may do what over HTTP

Whatever the server does for a request, the request has shown what it takes since it
came in, however many others are handled at the same time.  An operation that gets
the mutex was asked for by a client with a live session, from an allowed origin.
-/

namespace XanhTab

open Program Transition

/-! ## Runs of the server -/

/-- Where a handler is found after a step: an operation takes it out when it gets the
mutex, and so does a client that goes away, which moves the later ones forward. -/
def ServerLabel.moves {O N : Type} (index : Nat) : ServerLabel O N → Option Nat
  | .enter taken | .other (.dropTask taken _) =>
      if taken = index then none else some (if taken < index then index - 1 else index)
  | _ => some index

section Runs

variable {app : AppState} {config : Configuration.Config} {initialUrl : Url} {W O N : Type}
  {answer : Answer Call Call.Reply W O} {world : N → Daemon → W → Option W}

/-- A run of the server from where a handler is, with where it is then. -/
inductive Handles (next : Step (WebConfiguration W) (ServerLabel O N))
    (spawned : WebConfiguration W) (position : Nat) : WebConfiguration W → Nat → Prop
  | refl : Handles next spawned position spawned position
  | tail {current current' : WebConfiguration W} {index index' : Nat} {label : ServerLabel O N} :
      Handles next spawned position current index → next current label = some current' →
      label.moves index = some index' → Handles next spawned position current' index'

theorem Handles.reaches {next : Step (WebConfiguration W) (ServerLabel O N)}
    {spawned current : WebConfiguration W} {position index : Nat}
    (handles : Handles next spawned position current index) : Reachable next spawned current := by
  induction handles with
  | refl => exact .refl
  | tail _ step _ ih => exact ih.tail trivial step

theorem Handles.of_run {next : Step (WebConfiguration W) (ServerLabel O N)}
    {spawned current target : WebConfiguration W} {position index : Nat}
    {labels : List (ServerLabel O N)} (handles : Handles next spawned position current index)
    (executed : run next current labels = some target)
    (stays : ∀ label ∈ labels, label.moves index = some index) :
    Handles next spawned position target index := by
  induction labels generalizing current with
  | nil =>
      obtain rfl := Option.some.inj executed
      exact handles
  | cons label rest ih =>
      rcases Option.bind_eq_some_iff.mp executed with ⟨middle, first, remaining⟩
      exact ih (handles.tail first (stays label List.mem_cons_self)) remaining
        fun later member => stays later (List.mem_cons_of_mem label member)

/-- The next step of a handler. -/
theorem AppState.serve_stepTask {current current' : WebConfiguration W} {index : Nat}
    {outcome : Option O}
    (step : app.serve config initialUrl answer world current (.other (.stepTask index outcome)) =
      some current') :
    ∃ program after, current.tasks[index]? = some program ∧
      program.advance answer outcome current.memory current.world = some after ∧
      current'.memory = after.2.1 ∧ current'.world = after.2.2 ∧
      current'.tasks = current.tasks.set index after.1 := by
  rcases Option.bind_eq_some_iff.mp step with ⟨program, present, mapped⟩
  rcases Option.map_eq_some_iff.mp mapped with ⟨after, advanced, rfl⟩
  exact ⟨program, after, present, advanced, rfl, rfl, rfl⟩

/-- The mutex is free when an operation gets it. -/
theorem AppState.serve_enter {current current' : WebConfiguration W} {index : Nat}
    (step : app.serve config initialUrl answer world current (.enter index) = some current') :
    ∃ operation, current.tasks[index]? = some (.done (.ok (.admitted operation))) ∧
      current'.holder = some (do return (← app.api initialUrl operation).answer) ∧
      current'.memory = current.memory ∧ current'.tasks = current.tasks.eraseIdx index := by
  simp only [AppState.serve] at step
  split at step
  · rename_i operation present
    simp only [Pool.step] at step
    split at step
    · cases step
      exact ⟨operation, present, rfl, rfl, rfl⟩
    · cases step
  · cases step

theorem AppState.serve_watch {current current' : WebConfiguration W} {expired : Bool}
    (step : app.serve config initialUrl answer world current (.watch expired) = some current') :
    current'.tasks = current.tasks := by
  simp only [AppState.serve, Pool.step] at step
  split at step
  · cases step
    rfl
  · cases step

/-- A step leaves a handler as it is, or is its own. -/
theorem AppState.serve_task {current current' : WebConfiguration W} {label : ServerLabel O N}
    {index index' : Nat} {program : HttpRoutine}
    (step : app.serve config initialUrl answer world current label = some current')
    (moved : label.moves index = some index') (present : current.tasks[index]? = some program) :
    current'.tasks[index']? = some program ∨
      ∃ outcome after, program.advance answer outcome current.memory current.world = some after ∧
        current'.tasks[index']? = some after.1 ∧ current'.memory = after.2.1 := by
  have others (taken : Nat) (moved : (if taken = index then none else
      some (if taken < index then index - 1 else index)) = some index') :
      (current.tasks.eraseIdx taken)[index']? = some program := by
    split at moved
    · cases moved
    · rename_i different
      obtain rfl := Option.some.inj moved
      by_cases earlier : taken < index
      · rw [if_pos earlier, List.getElem?_eraseIdx_of_ge (by omega), Nat.sub_add_cancel (by omega)]
        exact present
      · rw [if_neg earlier, List.getElem?_eraseIdx_of_lt (by omega)]
        exact present
  cases label with
  | enter taken =>
      rcases AppState.serve_enter step with ⟨_, _, _, _, tasks⟩
      rw [tasks]
      exact Or.inl (others taken moved)
  | watch expired =>
      obtain rfl := Option.some.inj moved
      rw [AppState.serve_watch step]
      exact Or.inl present
  | other label =>
      cases label with
      | start operation => exact operation.elim
      | dropTask taken outcome =>
          rcases Option.bind_eq_some_iff.mp step with ⟨_, _, mapped⟩
          rcases Option.map_eq_some_iff.mp mapped with ⟨_, _, rfl⟩
          exact Or.inl (others taken moved)
      | stepTask stepped outcome =>
          obtain rfl := Option.some.inj moved
          rcases AppState.serve_stepTask step with
            ⟨found, after, running, advanced, memory, _, tasks⟩
          rw [tasks]
          by_cases own : stepped = index
          · subst own
            obtain rfl := Option.some.inj (present.symm.trans running)
            have within := (List.getElem?_eq_some_iff.mp present).1
            exact Or.inr ⟨outcome, after, advanced, by simp [within], memory⟩
          · rw [List.getElem?_set_ne own]
            exact Or.inl present
      | spawn task =>
          obtain rfl := Option.some.inj moved
          obtain rfl := Option.some.inj step
          have within := (List.getElem?_eq_some_iff.mp present).1
          left
          show (current.tasks ++ [_])[index]? = some program
          rw [List.getElem?_append_left within]
          exact present
      | finish =>
          obtain rfl := Option.some.inj moved
          simp only [AppState.serve, WebLabel.lift, Pool.step] at step
          split at step
          · cases step
            exact Or.inl present
          · cases step
      | noise event =>
          obtain rfl := Option.some.inj moved
          rcases Option.map_eq_some_iff.mp step with ⟨_, _, rfl⟩
          exact Or.inl present
      | step outcome | drop outcome =>
          obtain rfl := Option.some.inj moved
          rcases Option.bind_eq_some_iff.mp step with ⟨_, _, mapped⟩
          rcases Option.map_eq_some_iff.mp mapped with ⟨_, _, rfl⟩
          exact Or.inl present

/-- Every handler was there before the step, or has just come in. -/
theorem AppState.serve_origin {current current' : WebConfiguration W} {label : ServerLabel O N}
    {index' : Nat}
    (step : app.serve config initialUrl answer world current label = some current')
    (within : index' < current'.tasks.length) :
    (∃ index, label.moves index = some index' ∧ index < current.tasks.length) ∨
      ∃ head request, label = .other (.spawn (head, request)) ∧ index' = current.tasks.length := by
  have others (taken : Nat) (within : index' < (current.tasks.eraseIdx taken).length)
      (present : taken < current.tasks.length) :
      ∃ index, (if taken = index then none else
        some (if taken < index then index - 1 else index)) = some index' ∧
          index < current.tasks.length := by
    rw [List.length_eraseIdx_of_lt present] at within
    by_cases earlier : index' < taken
    · refine ⟨index', ?_, by omega⟩
      rw [if_neg (by omega), if_neg (by omega)]
    · refine ⟨index' + 1, ?_, by omega⟩
      rw [if_neg (by omega), if_pos (by omega), Nat.add_sub_cancel]
  cases label with
  | enter taken =>
      rcases AppState.serve_enter step with ⟨_, present, _, _, tasks⟩
      rw [tasks] at within
      exact Or.inl (others taken within (List.getElem?_eq_some_iff.mp present).1)
  | watch expired =>
      rw [AppState.serve_watch step] at within
      exact Or.inl ⟨index', rfl, within⟩
  | other label =>
      cases label with
      | start operation => exact operation.elim
      | dropTask taken outcome =>
          rcases Option.bind_eq_some_iff.mp step with ⟨_, present, mapped⟩
          rcases Option.map_eq_some_iff.mp mapped with ⟨_, _, rfl⟩
          exact Or.inl (others taken within (List.getElem?_eq_some_iff.mp present).1)
      | stepTask stepped outcome =>
          rcases AppState.serve_stepTask step with ⟨_, _, _, _, _, _, tasks⟩
          rw [tasks, List.length_set] at within
          exact Or.inl ⟨index', rfl, within⟩
      | spawn task =>
          obtain rfl := Option.some.inj step
          have grown : index' < (current.tasks ++ [_]).length := within
          rw [List.length_append, List.length_singleton] at grown
          by_cases old : index' < current.tasks.length
          · exact Or.inl ⟨index', rfl, old⟩
          · exact Or.inr ⟨task.1, task.2, rfl, by omega⟩
      | finish =>
          simp only [AppState.serve, WebLabel.lift, Pool.step] at step
          split at step
          · cases step
            exact Or.inl ⟨index', rfl, within⟩
          · cases step
      | noise event =>
          rcases Option.map_eq_some_iff.mp step with ⟨_, _, rfl⟩
          exact Or.inl ⟨index', rfl, within⟩
      | step outcome | drop outcome =>
          rcases Option.bind_eq_some_iff.mp step with ⟨_, _, mapped⟩
          rcases Option.map_eq_some_iff.mp mapped with ⟨_, _, rfl⟩
          exact Or.inl ⟨index', rfl, within⟩

/-- The request has shown the credential since it came in. -/
def HttpRequest.Shown (next : Step (WebConfiguration W) (ServerLabel O N))
    (config : Configuration.Config) (head : RequestHead) (request : HttpRequest)
    (spawned current : WebConfiguration W) (credential : Credential) : Prop :=
  ∃ earlier, Reachable next spawned earlier ∧ Reachable next earlier current ∧
    request.Shows config head earlier.memory credential

/-- A handler stays under the authority of what its request has shown. -/
theorem authorized_of_handles {before spawned current : WebConfiguration W} {head : RequestHead}
    {request : HttpRequest} {index : Nat}
    (spawn : app.serve config initialUrl answer world before (.other (.spawn (head, request))) =
      some spawned)
    (handles : Handles (app.serve config initialUrl answer world) spawned before.tasks.length
      current index) :
    ∃ program : HttpRoutine, current.tasks[index]? = some program ∧
      program.Authorized (request.authority config head) (request.Entitles initialUrl)
        (request.Shown (app.serve config initialUrl answer world) config head spawned current) := by
  induction handles with
  | refl =>
      obtain rfl := Option.some.inj spawn
      refine ⟨app.handle config initialUrl head request, ?_,
        handle_authorized app initialUrl request ⟨_, .refl, .refl, trivial⟩⟩
      show (before.tasks ++ [_])[before.tasks.length]? = _
      rw [List.getElem?_concat_length]
      rfl
  | @tail current current' index index' label reached step moved ih =>
      rcases ih with ⟨program, present, authorized⟩
      have onward : Reachable (app.serve config initialUrl answer world) current current' :=
        .single trivial step
      have kept : ∀ credential,
          request.Shown (app.serve config initialUrl answer world) config head spawned current
            credential →
          request.Shown (app.serve config initialUrl answer world) config head spawned current'
            credential := by
        rintro credential ⟨earlier, since, until', shows⟩
        exact ⟨earlier, since, until'.trans onward, shows⟩
      rcases AppState.serve_task step moved present with
        same | ⟨outcome, after, advanced, present', memory⟩
      · exact ⟨program, same, authorized.mono kept⟩
      · refine ⟨after.1, present', (authorized.advance advanced).2.1.mono fun credential => ?_⟩
        rintro (shown | shows)
        · exact kept credential shown
        · exact ⟨current, reached.reaches, onward, shows⟩

/-- What a handler does next is allowed by what its request has shown. -/
theorem allowed_of_handles {before spawned current current' : WebConfiguration W}
    {head : RequestHead} {request : HttpRequest} {index : Nat} {outcome : Option O}
    (spawn : app.serve config initialUrl answer world before (.other (.spawn (head, request))) =
      some spawned)
    (handles : Handles (app.serve config initialUrl answer world) spawned before.tasks.length
      current index)
    (step : app.serve config initialUrl answer world current (.other (.stepTask index outcome)) =
      some current') :
    current'.world = current.world ∧ ∃ credential,
      request.Shown (app.serve config initialUrl answer world) config head spawned current
        credential ∧
      request.Allows credential current.memory current'.memory := by
  rcases authorized_of_handles spawn handles with ⟨program, present, authorized⟩
  rcases AppState.serve_stepTask step with ⟨found, after, running, advanced, memory, worlds, _⟩
  obtain rfl := Option.some.inj (present.symm.trans running)
  rcases authorized.advance advanced with ⟨⟨credential, held, allowed⟩, _, world'⟩
  refine ⟨worlds.trans world', credential, ?_, by rw [memory]; exact allowed⟩
  rcases held with shown | shows
  · exact shown
  · exact ⟨current, handles.reaches, .refl, shows⟩

/-- What a handler has come to is what its request has shown entitles it to. -/
theorem entitled_of_handles {before spawned current : WebConfiguration W} {head : RequestHead}
    {request : HttpRequest} {index : Nat} {result : Except AppError HttpOutcome}
    (spawn : app.serve config initialUrl answer world before (.other (.spawn (head, request))) =
      some spawned)
    (handles : Handles (app.serve config initialUrl answer world) spawned before.tasks.length
      current index)
    (finished : current.tasks[index]? = some (.done result)) :
    ∃ credential,
      request.Shown (app.serve config initialUrl answer world) config head spawned current
        credential ∧
      request.Entitles initialUrl credential result := by
  rcases authorized_of_handles spawn handles with ⟨program, present, authorized⟩
  obtain rfl := Option.some.inj (present.symm.trans finished)
  exact authorized

/-- Whatever a handler does next, and whatever it has come to, its request has shown
a credential that allows it since it came in. -/
theorem accounted_of_handles {before spawned current : WebConfiguration W} {head : RequestHead}
    {request : HttpRequest} {index : Nat}
    (spawn : app.serve config initialUrl answer world before (.other (.spawn (head, request))) =
      some spawned)
    (handles : Handles (app.serve config initialUrl answer world) spawned before.tasks.length
      current index) :
    (∀ outcome current', app.serve config initialUrl answer world current
        (.other (.stepTask index outcome)) = some current' →
      current'.world = current.world ∧ ∃ credential,
        request.Shown (app.serve config initialUrl answer world) config head spawned current
          credential ∧
        request.Allows credential current.memory current'.memory) ∧
    ∀ result, current.tasks[index]? = some (.done result) → ∃ credential,
      request.Shown (app.serve config initialUrl answer world) config head spawned current
        credential ∧
      request.Entitles initialUrl credential result :=
  ⟨fun _ _ step => allowed_of_handles spawn handles step,
    fun _ finished => entitled_of_handles spawn handles finished⟩

/-- Every handler of the server is the handler of a request that came in. -/
theorem handles_of_reaches {memory : Daemon} {state : W} {current : WebConfiguration W}
    {index : Nat}
    (reaches : Reachable (app.serve config initialUrl answer world) (.idle memory state) current)
    (within : index < current.tasks.length) :
    ∃ before spawned head request,
      Reachable (app.serve config initialUrl answer world) (.idle memory state) before ∧
      app.serve config initialUrl answer world before (.other (.spawn (head, request))) =
        some spawned ∧
      Handles (app.serve config initialUrl answer world) spawned before.tasks.length current
        index := by
  induction reaches generalizing index with
  | refl => exact absurd within (Nat.not_lt_zero index)
  | @tail middle target label reached _ step ih =>
      rcases AppState.serve_origin step within with ⟨earlier, moved, present⟩ |
        ⟨head, request, rfl, rfl⟩
      · rcases ih present with ⟨before, spawned, head, request, started, spawn, handles⟩
        exact ⟨before, spawned, head, request, started, spawn, handles.tail step moved⟩
      · exact ⟨middle, target, head, request, reached, step, .refl⟩

/-- Every operation that gets the mutex is what a request asked for in the name of a
client whose live cookie and token it had shown, from an allowed origin. -/
theorem asked_of_reaches {memory : Daemon} {state : W} {current current' : WebConfiguration W}
    {index : Nat}
    (reaches : Reachable (app.serve config initialUrl answer world) (.idle memory state) current)
    (step : app.serve config initialUrl answer world current (.enter index) = some current') :
    ∃ operation context before spawned head request,
      Reachable (app.serve config initialUrl answer world) (.idle memory state) before ∧
      app.serve config initialUrl answer world before (.other (.spawn (head, request))) =
        some spawned ∧
      request.Shown (app.serve config initialUrl answer world) config head spawned current
        (.token context) ∧
      request.Asks initialUrl context operation ∧
      current'.holder = some (do return (← app.api initialUrl operation).answer) ∧
      current'.memory = current.memory ∧ current'.tasks = current.tasks.eraseIdx index := by
  rcases AppState.serve_enter step with ⟨operation, present, holder, same, tasks⟩
  rcases handles_of_reaches reaches (List.getElem?_eq_some_iff.mp present).1 with
    ⟨before, spawned, head, request, started, spawn, handles⟩
  rcases entitled_of_handles spawn handles present with ⟨credential, shown, entitled⟩
  cases entitled with
  | operation _ context operation asks =>
      exact ⟨operation, context, before, spawned, head, request, started, spawn, shown, asks,
        holder, same, tasks⟩

end Runs

/-! ## A client and its requests -/

namespace Sample

/-- A request of the first client, with the token against forgeries in its header. -/
def clientHead : RequestHead where
  headers := [("x-xanhtab-csrf",
    (Encoding.urlSafeNoPad (bytes 2)).toList.map fun c => UInt8.ofNat c.toNat)]
  session := some (Encoding.urlSafeNoPad (bytes 1))

def server : Step (WebConfiguration Unit) (ServerLabel Unit Empty) :=
  app.serve {} (url "example.com") willing AppState.still

/-- The first client pairs and asks for a session. -/
def requestsSession : List (ServerLabel Unit Empty) :=
  [.other (.spawn ({}, .exchangePairing (some (Encoding.urlSafeNoPad (bytes 0))))),
    .other (.stepTask 0 none), .other (.spawn (clientHead, .startSession (some none))),
    .other (.stepTask 1 none)]

/-- Its session is opened. -/
def servesSession : List (ServerLabel Unit Empty) :=
  .enter 1 :: List.replicate 8 (.other (.step (some ()))) ++ [.other .finish]

end Sample

theorem asked_of_requestsSession :
    ∃ current current' : WebConfiguration Unit,
      Sample.server current (.enter 1) = some current' ∧
      ∃ operation context before spawned head request,
        Reachable Sample.server (.idle Sample.daemon ()) before ∧
        Sample.server before (.other (.spawn (head, request))) = some spawned ∧
        request.Shown Sample.server {} head spawned current (.token context) ∧
        request.Asks (Sample.url "example.com") context operation ∧
        current'.memory = current.memory := by
  have executed : (((run Sample.server (.idle Sample.daemon ()) Sample.requestsSession).bind
      fun current => (Sample.server current (.enter 1)).map fun current' =>
        current'.holder.isSome)) = some true := by
    decide +kernel
  rcases Option.bind_eq_some_iff.mp executed with ⟨current, reached, executed⟩
  rcases Option.map_eq_some_iff.mp executed with ⟨current', entered, _⟩
  rcases asked_of_reaches (reachable_of_run reached) entered with
    ⟨operation, context, before, spawned, head, request, started, spawn, shown, asks, _, same, _⟩
  exact ⟨current, current', entered, operation, context, before, spawned, head, request, started,
    spawn, shown, asks, same⟩

/-- The client sets the profile of its stream, and has shown what allows that. -/
theorem accounted_of_setsProfile :
    ∃ (spawned current current' : WebConfiguration Unit) (credential : Credential),
      current.memory.session.snapshot.streamProfile = .fullHd30 ∧
      current'.memory.session.snapshot.streamProfile = .sd10 ∧
      (HttpRequest.setStreamProfile 1 (some .sd10)).Shown Sample.server {} Sample.clientHead spawned
        current credential ∧
      (HttpRequest.setStreamProfile 1 (some .sd10)).Allows credential current.memory
        current'.memory := by
  have executed : (((run Sample.server (.idle Sample.daemon ())
      (Sample.requestsSession ++ Sample.servesSession)).bind fun before =>
      (Sample.server before
        (.other (.spawn (Sample.clientHead, .setStreamProfile 1 (some .sd10))))).bind fun spawned =>
      (run Sample.server spawned [.other (.stepTask 1 none), .other (.stepTask 1 none)]).bind
        fun current => (Sample.server current (.other (.stepTask 1 none))).map fun current' =>
          (before.tasks.length, current.memory.session.snapshot.streamProfile,
            current'.memory.session.snapshot.streamProfile))) = some (1, .fullHd30, .sd10) := by
    decide +kernel
  rcases Option.bind_eq_some_iff.mp executed with ⟨before, _, executed⟩
  rcases Option.bind_eq_some_iff.mp executed with ⟨spawned, spawn, executed⟩
  rcases Option.bind_eq_some_iff.mp executed with ⟨current, followed, executed⟩
  rcases Option.map_eq_some_iff.mp executed with ⟨current', step, values⟩
  simp only [Prod.mk.injEq] at values
  rcases values with ⟨position, found, changed⟩
  have handles : Handles Sample.server spawned before.tasks.length current 1 := by
    rw [position]
    refine Handles.of_run .refl followed fun label member => ?_
    simp only [List.mem_cons, List.not_mem_nil, or_false, or_self] at member
    rw [member]
    rfl
  rcases (accounted_of_handles spawn handles).1 none current' step with
    ⟨_, credential, shown, allowed⟩
  exact ⟨spawned, current, current', credential, found, changed, shown, allowed⟩

end XanhTab
