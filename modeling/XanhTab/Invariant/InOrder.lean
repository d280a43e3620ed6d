import XanhTab.Daemon.Establish
import XanhTab.Daemon.SocketEgress
import XanhTab.Program.Outcome

/-!
# Requests that are handled in order

A request that the daemon has given up is still with the helper, and nothing
keeps it from being handled after a later one: the daemon may then be left with
a policy that it does not know of.  If the tasks of the helper take the mutex in
the order in which the requests were sent then an active session has its policy,
and no request is left that could change it.
-/

namespace XanhTab

open Program Contract Transition

/-! ## The order of the requests -/

/-- A response of success means that the mode is committed. -/
def Concluded (command : EgressCommand) (result : EgressCommand × EgressResponse)
    (state : NetworkState) : Prop :=
  result.2.ok = true → ∀ mode, command = .apply mode → state.activeMode = some mode

namespace Netd

variable {config : NetworkConfig}

theorem transition_concludes (mode : EgressMode) (state : NetworkState) :
    (transition config mode).Concludes
      (fun result after => ∀ response, result = .ok response → after.activeMode = some mode)
      state := by
  have failed : ∀ error state, (restoreKillSwitch config error).Concludes
      (fun result after => ∀ response, result = .ok response → after.activeMode = some mode)
      state := by
    intro error state
    have killed : ∀ (finish : Except String Unit → NetRoutine (Except String EgressResponse)),
        (∀ result, ∃ text, finish result = .done (.error text)) → ∀ state,
        (killSwitch config >>= finish).Concludes
          (fun result after => ∀ response, result = .ok response → after.activeMode = some mode)
          state := by
      intro finish fails state
      refine (Concludes.unknown (killSwitch config) state).bind fun result state _ => ?_
      rcases fails result with ⟨text, ended⟩
      rw [ended]
      exact nofun
    refine (Concludes.unknown (teardownWireguard config) state).bind fun torn state _ => ?_
    cases torn with
    | ok _ => exact killed _ (fun result => by cases result <;> exact ⟨_, rfl⟩) state
    | error _ => exact killed _ (fun result => by cases result <;> exact ⟨_, rfl⟩) state
  refine (Concludes.unknown (killSwitch config) _).bind fun held state _ => ?_
  cases held with
  | error _ => exact nofun
  | ok _ =>
      refine (Concludes.unknown (transitionInner config mode) state).bind fun inner state _ => ?_
      cases inner with
      | error error => exact failed error state
      | ok _ => exact fun _ _ => rfl

theorem handle_concludes (command : EgressCommand) (state : NetworkState) :
    (handle config command).Concludes (Concluded command) state := by
  cases command with
  | apply mode =>
      refine (transition_concludes mode state).bind fun result after committed => ?_
      cases result with
      | error _ => exact nofun
      | ok response =>
          rintro _ _ ⟨⟩
          exact committed response rfl
  | reset =>
      refine (Concludes.unknown _ state).bind fun result after _ => ?_
      cases result with
      | error _ => exact nofun
      | ok _ => exact fun _ _ => nofun
  | status =>
      refine (Concludes.unknown _ state).bind fun result after _ => ?_
      cases result with
      | error _ => exact nofun
      | ok _ => exact fun _ _ => nofun

end Netd

/-- No older request is still waiting when a task takes the mutex. -/
def LinkEvent.InOrder (link : Link) : LinkEvent → Prop
  | take connection => ∀ request ∈ link.waiting, connection ≤ request.1
  | refuse _ | step _ | expire _ | respond => True

instance (link : Link) (event : LinkEvent) : Decidable (event.InOrder link) := by
  cases event <;> unfold LinkEvent.InOrder <;> infer_instance

namespace Link

/-- The requests that have arrived, from the first response to the last sent. -/
def line (link : Link) : List Nat :=
  (link.answered.map Prod.fst).reverse ++ link.handling.toList.map NetdTask.connection ++
    link.waiting.map Prod.fst

/-- The helper handles its requests in order. -/
structure Sound (link : Link) : Prop where
  ordered : link.line.Pairwise (· < ·)
  known : ∀ connection ∈ link.line, connection < link.connections
  running : ∀ handled, link.handling = some handled →
    handled.program.Concludes (Concluded handled.command) link.state
  latest : link.handling = none → ∀ response ∈ link.answered.head?,
    Concluded response.2.1 response.2 link.state

/-- Nothing is in flight, and the mode is committed. -/
structure Calm (mode : EgressMode) (link : Link) : Prop where
  waiting : link.waiting = []
  handling : link.handling = none
  active : link.state.activeMode = some mode

/-- The newest connection, over which nothing has been sent. -/
structure Fresh (connection : Nat) (link : Link) : Prop where
  newest : link.connections = connection + 1
  unsent : connection ∉ link.line

/-- The newest connection carries this request, if any. -/
structure Sent (connection : Nat) (command : EgressCommand) (link : Link) : Prop where
  newest : link.connections = connection + 1
  waiting : ∀ request ∈ link.waiting, request.1 = connection → request.2 = command
  handling : ∀ handled, link.handling = some handled → handled.connection = connection →
    handled.command = command
  answered : ∀ response ∈ link.answered, response.1 = connection → response.2.1 = command

variable {config : NetworkConfig} {link link' : Link} {event : LinkEvent} {connection : Nat}
  {command : EgressCommand} {mode : EgressMode}

/-! ### What a step of the helper keeps -/

theorem line_release (handled : NetdTask) (response : EgressResponse)
    (busy : link.handling = some handled) : (link.release handled response).line = link.line := by
  simp [line, release, busy]

/-- In order, the request that a task takes up is the first one that waits. -/
theorem waiting_of_take (sound : link.Sound) (inOrder : (LinkEvent.take connection).InOrder link)
    (found : link.waiting.lookup connection = some command) :
    link.waiting = (connection, command) :: link.without connection := by
  have ordered : (link.waiting.map Prod.fst).Pairwise (· < ·) :=
    (List.pairwise_append.mp sound.ordered).2.1
  unfold without
  unfold LinkEvent.InOrder at inOrder
  cases listed : link.waiting with
  | nil =>
      rw [listed] at found
      cases found
  | cons first rest =>
      rw [listed] at found inOrder ordered
      rcases List.pairwise_cons.mp ordered with ⟨first_lt, _⟩
      have later : ∀ request ∈ rest, first.1 < request.1 :=
        fun request member => first_lt _ (List.mem_map_of_mem member)
      have same : first.1 = connection := by
        rcases List.lookup_eq_some_iff.mp found with ⟨front, back, split, _⟩
        cases front with
        | nil => rw [(List.cons.inj split).1]
        | cons _ front =>
            have member : (connection, command) ∈ rest := by
              rw [(List.cons.inj split).2]
              simp
            have below := inOrder first List.mem_cons_self
            have above := later _ member
            omega
      subst same
      have kept : rest.filter (fun request => request.1 ≠ first.1) = rest :=
        List.filter_eq_self.mpr fun request member =>
          decide_eq_true (Nat.ne_of_gt (later request member))
      have command_eq : first.2 = command := by
        rw [List.lookup_cons_self] at found
        exact Option.some.inj found
      rw [List.filter_cons_of_neg (by simp), kept, ← command_eq]

/-- What a step of the helper leaves, in order or not. -/
structure Kept (link link' : Link) : Prop where
  connections : link'.connections = link.connections
  waiting : link'.waiting ⊆ link.waiting
  handling : ∀ handled', link'.handling = some handled' →
    (∃ handled, link.handling = some handled ∧ handled.connection = handled'.connection ∧
      handled.command = handled'.command) ∨
    (handled'.connection, handled'.command) ∈ link.waiting
  answered : ∀ response ∈ link'.answered, response ∈ link.answered ∨
    ∃ handled, link.handling = some handled ∧ response.1 = handled.connection ∧
      response.2.1 = handled.command

theorem Kept.released {handled : NetdTask} {response : EgressResponse}
    (busy : link.handling = some handled) (connections : link'.connections = link.connections)
    (waiting : link'.waiting = link.waiting) (free : link'.handling = none)
    (answered : link'.answered = (handled.connection, handled.command, response) :: link.answered) :
    Kept link link' := by
  refine ⟨connections, waiting ▸ List.Subset.refl _, fun _ other => ?_, fun entry member => ?_⟩
  · rw [free] at other
    cases other
  · rw [answered] at member
    rcases List.mem_cons.mp member with rfl | old
    · exact Or.inr ⟨handled, busy, rfl, rfl⟩
    · exact Or.inl old

theorem kept_of_evolve (moved : link.evolve config event = some link') : Kept link link' := by
  have fewer : ∀ connection, link.without connection ⊆ link.waiting :=
    fun connection => List.filter_subset_self _
  cases event with
  | take connection =>
      simp only [evolve] at moved
      split at moved
      · cases moved
      · rename_i free
        rcases Option.map_eq_some_iff.mp moved with ⟨command, found, rfl⟩
        refine ⟨rfl, fewer connection, ?_, fun _ member => Or.inl member⟩
        rintro _ ⟨⟩
        rcases List.lookup_eq_some_iff.mp found with ⟨front, back, split, _⟩
        exact Or.inr (split ▸ List.mem_append_right front List.mem_cons_self)
  | refuse connection =>
      cases moved
      exact ⟨rfl, fewer connection, fun handled busy => Or.inl ⟨handled, busy, rfl, rfl⟩,
        fun _ member => Or.inl member⟩
  | step outcome =>
      rcases Option.bind_eq_some_iff.mp moved with ⟨handled, busy, stepped⟩
      rcases Option.map_eq_some_iff.mp stepped with ⟨after, _, rfl⟩
      refine ⟨rfl, List.Subset.refl _, ?_, fun _ member => Or.inl member⟩
      rintro _ ⟨⟩
      exact Or.inl ⟨handled, busy, rfl, rfl⟩
  | expire outcome =>
      rcases Option.bind_eq_some_iff.mp moved with ⟨handled, busy, stepped⟩
      rcases Option.map_eq_some_iff.mp stepped with ⟨kernel, _, rfl⟩
      exact .released busy rfl rfl rfl rfl
  | respond =>
      rcases Option.bind_eq_some_iff.mp moved with ⟨handled, busy, stepped⟩
      split at stepped
      · cases stepped
        exact .released busy rfl rfl rfl rfl
      · cases stepped

theorem Sent.evolve (sent : link.Sent connection command)
    (moved : link.evolve config event = some link') : link'.Sent connection command := by
  have kept := kept_of_evolve moved
  constructor
  · exact kept.connections.trans sent.newest
  · exact fun request member => sent.waiting request (kept.waiting member)
  · intro handled' busy same
    rcases kept.handling handled' busy with ⟨handled, before, equal, carried⟩ | waited
    · exact carried ▸ sent.handling handled before (equal.trans same)
    · exact sent.waiting _ waited same
  · intro response member same
    rcases kept.answered response member with old | ⟨handled, before, equal, carried⟩
    · exact sent.answered response old same
    · exact carried.trans (sent.handling handled before (equal.symm.trans same))

theorem mem_line : connection ∈ link.line ↔
    (∃ response ∈ link.answered, response.1 = connection) ∨
    (∃ handled, link.handling = some handled ∧ handled.connection = connection) ∨
    ∃ request ∈ link.waiting, request.1 = connection := by
  simp [line]

theorem Fresh.evolve (fresh : link.Fresh connection)
    (moved : link.evolve config event = some link') : link'.Fresh connection := by
  have kept := kept_of_evolve moved
  refine ⟨kept.connections.trans fresh.newest, fun listed => fresh.unsent ?_⟩
  rw [mem_line] at listed ⊢
  rcases listed with ⟨response, member, same⟩ | ⟨handled', busy, same⟩ | ⟨request, member, same⟩
  · rcases kept.answered response member with old | ⟨handled, before, equal, _⟩
    · exact Or.inl ⟨response, old, same⟩
    · exact Or.inr (Or.inl ⟨handled, before, equal.symm.trans same⟩)
  · rcases kept.handling handled' busy with ⟨handled, before, equal, _⟩ | waited
    · exact Or.inr (Or.inl ⟨handled, before, equal.trans same⟩)
    · exact Or.inr (Or.inr ⟨_, waited, same⟩)
  · exact Or.inr (Or.inr ⟨request, kept.waiting member, same⟩)

/-- A helper that has not been asked anything. -/
theorem Sound.empty (kernel : Kernel) : ({ kernel } : Link).Sound := by
  constructor
  · exact .nil
  · exact fun _ member => nomatch member
  · rintro _ ⟨⟩
  · rintro _ _ ⟨⟩

/-- A helper with nothing in flight does nothing. -/
theorem Calm.evolve (calm : link.Calm mode) (moved : link.evolve config event = some link') :
    link' = link := by
  cases event with
  | take connection =>
      simp only [Link.evolve, calm.handling, calm.waiting] at moved
      cases moved
  | refuse connection =>
      simp only [Link.evolve, without, calm.waiting, List.filter_nil] at moved
      rw [← Option.some.inj moved, ← calm.waiting]
  | step outcome | expire outcome | respond =>
      simp only [Link.evolve, calm.handling] at moved
      cases moved

/-- The line is as it was, and the task that held the mutex has responded. -/
theorem Sound.released {handled : NetdTask} {response : EgressResponse} (sound : link.Sound)
    (busy : link.handling = some handled) {kernel : Kernel}
    (concluded : Concluded handled.command (handled.command, response) link.state) :
    ({ link.release handled response with kernel := kernel } : Link).Sound := by
  have same : ({ link.release handled response with kernel := kernel } : Link).line = link.line :=
    line_release handled response busy
  constructor
  · rw [same]
    exact sound.ordered
  · rw [same]
    exact sound.known
  · rintro _ ⟨⟩
  · rintro _ _ ⟨⟩
    exact concluded

theorem Sound.evolve (sound : link.Sound) (inOrder : event.InOrder link)
    (moved : link.evolve config event = some link') : link'.Sound := by
  cases event with
  | take connection =>
      simp only [Link.evolve] at moved
      split at moved
      · cases moved
      · rename_i free
        rcases Option.map_eq_some_iff.mp moved with ⟨command, found, rfl⟩
        have first := waiting_of_take sound inOrder found
        have same : ({ link with
            waiting := link.without connection
            handling := some ⟨connection, command, Netd.handle config command⟩ } : Link).line =
            link.line := by
          unfold line
          rw [free, first]
          simp
        constructor
        · rw [same]
          exact sound.ordered
        · rw [same]
          exact sound.known
        · rintro _ ⟨⟩
          exact Netd.handle_concludes command link.state
        · rintro ⟨⟩
  | refuse connection =>
      cases moved
      have fewer : ({ link with waiting := link.without connection } : Link).line.Sublist
          link.line :=
        List.Sublist.append_left (List.filter_sublist.map Prod.fst) _
      exact ⟨sound.ordered.sublist fewer, fun other member => sound.known other (fewer.subset member),
        sound.running, sound.latest⟩
  | step outcome =>
      rcases Option.bind_eq_some_iff.mp moved with ⟨handled, busy, stepped⟩
      rcases Option.map_eq_some_iff.mp stepped with ⟨after, advanced, rfl⟩
      have same : ({ link with
          state := after.2.1
          kernel := after.2.2
          handling := some { handled with program := after.1 } } : Link).line = link.line := by
        simp [line, busy]
      constructor
      · rw [same]
        exact sound.ordered
      · rw [same]
        exact sound.known
      · rintro _ ⟨⟩
        exact (sound.running handled busy).advance advanced
      · rintro ⟨⟩
  | expire outcome =>
      rcases Option.bind_eq_some_iff.mp moved with ⟨handled, busy, stepped⟩
      rcases Option.map_eq_some_iff.mp stepped with ⟨kernel, _, rfl⟩
      exact sound.released busy nofun
  | respond =>
      rcases Option.bind_eq_some_iff.mp moved with ⟨handled, busy, stepped⟩
      split at stepped
      · rename_i result finished
        cases stepped
        have concluded := sound.running handled busy
        rw [finished] at concluded
        exact sound.released busy concluded
      · cases stepped

/-! ### What a step of the client keeps -/

theorem Sound.deliver (sound : link.Sound) (fresh : link.Fresh connection)
    (command : EgressCommand) : (link.deliver connection command).Sound := by
  have longer : (link.deliver connection command).line = link.line ++ [connection] := by
    simp [line, Link.deliver]
  have below : ∀ other ∈ link.line, other < connection := by
    intro other member
    have known := sound.known other member
    rw [fresh.newest] at known
    have different : other ≠ connection := fun same => fresh.unsent (same ▸ member)
    omega
  constructor
  · rw [longer, List.pairwise_append]
    refine ⟨sound.ordered, List.pairwise_singleton _ _, fun other member last lists => ?_⟩
    rw [List.mem_singleton.mp lists]
    exact below other member
  · rw [longer]
    intro other member
    rcases List.mem_append.mp member with old | new
    · exact sound.known other old
    · rw [List.mem_singleton.mp new]
      exact fresh.newest ▸ Nat.lt_succ_self connection
  · exact sound.running
  · exact sound.latest

theorem Fresh.deliver (fresh : link.Fresh connection) (command : EgressCommand) :
    (link.deliver connection command).Sent connection command := by
  have unsent := fresh.unsent
  rw [mem_line] at unsent
  constructor
  · exact fresh.newest
  · intro request member same
    rcases List.mem_append.mp member with old | new
    · exact absurd (Or.inr (Or.inr ⟨request, old, same⟩)) unsent
    · rw [List.mem_singleton.mp new]
  · exact fun handled busy same => absurd (Or.inr (Or.inl ⟨handled, busy, same⟩)) unsent
  · exact fun response member same => absurd (Or.inl ⟨response, member, same⟩) unsent

/-- A response over the newest connection is the last one, and nothing is left
in flight. -/
theorem calm_of_answered (sound : link.Sound) (sent : link.Sent connection (.apply mode))
    {found : EgressCommand × EgressResponse}
    (answered : link.answered.lookup connection = some found) (success : found.2.ok = true) :
    link.Calm mode := by
  have newest : ∀ other ∈ link.line, other ≤ connection := by
    intro other member
    have known := sound.known other member
    rw [sent.newest] at known
    exact Nat.le_of_lt_succ known
  rcases List.pairwise_append.mp sound.ordered with ⟨front, _, behind⟩
  rcases List.pairwise_append.mp front with ⟨responses, _, ahead⟩
  have listed : connection ∈ (link.answered.map Prod.fst).reverse := by
    rcases List.lookup_eq_some_iff.mp answered with ⟨before, after, split, _⟩
    simp [split]
  have free : link.handling = none := by
    cases busy : link.handling with
    | none => rfl
    | some handled =>
        have later := ahead connection listed handled.connection (by simp [busy])
        have bound := newest handled.connection (mem_line.mpr (Or.inr (Or.inl ⟨handled, busy, rfl⟩)))
        omega
  have empty : link.waiting = [] := by
    refine List.eq_nil_iff_forall_not_mem.mpr fun request member => ?_
    have later := behind connection (List.mem_append_left _ listed) request.1
      (List.mem_map_of_mem member)
    have bound := newest request.1 (mem_line.mpr (Or.inr (Or.inr ⟨request, member, rfl⟩)))
    omega
  refine ⟨empty, free, ?_⟩
  cases responded : link.answered with
  | nil =>
      rw [responded] at answered
      cases answered
  | cons last rest =>
      have last_mem : last ∈ link.answered := responded ▸ List.mem_cons_self
      have same : last.1 = connection := by
        have bound := newest last.1 (mem_line.mpr (Or.inl ⟨last, last_mem, rfl⟩))
        rw [responded, List.map_cons, List.reverse_cons] at responses listed
        rcases List.mem_append.mp listed with earlier | latest
        · have later := (List.pairwise_append.mp responses).2.2 connection earlier last.1
            List.mem_cons_self
          omega
        · exact (List.mem_singleton.mp latest).symm
      have carried := sent.answered last last_mem same
      have told : found = last.2 := by
        rw [responded, ← same, List.lookup_cons_self] at answered
        exact (Option.some.inj answered).symm
      rw [told] at success
      exact sound.latest free last (by simp [responded]) success mode carried

end Link

/-! ## The contract -/

/-- The helper takes a step in order, or none. -/
def Link.Goes (config : NetworkConfig) (link link' : Link) : Prop :=
  link' = link ∨ ∃ event : LinkEvent, event.InOrder link ∧ link.evolve config event = some link'

/-- The policy of an active session is committed, with nothing in flight. -/
structure Agrees (data : SessionData) (link : Link) : Prop where
  sound : link.Sound
  calm : data.snapshot.phase = .active → link.Calm data.snapshot.egress

def inOrderContract (config : NetworkConfig) :
    Contract Daemon LinkCall Response Link LinkOutcome where
  always daemon link := Agrees daemon.session link
  rely before link after link' := SettingsStep before.session after.session ∧
    link.Goes config link'

namespace inOrderContract

variable {config : NetworkConfig}

/-- What a request of the daemon does to the helper as a whole. -/
def summary : Summary Call Call.Reply Link
  | .egressApply mode, _, reply, link => link.Sound ∧ (reply = .ok () → link.Calm mode)
  | .egressReset, _, _, link => link.Sound
  | .browserStart .., link, _, link' | .browserStop, link, _, link'
  | .browserNavigate _, link, _, link' | .clearRuntimeDir, link, _, link'
  | .writePairingFile _, link, _, link' => link' = link

/-- No step of the helper ends it. -/
def Lasting (config : NetworkConfig) (fact : Link → Prop) : Prop :=
  ∀ ⦃link link'⦄ ⦃event : LinkEvent⦄, link.evolve config event = some link' → fact link → fact link'

theorem lasts {fact : Link → Prop} (lasting : Lasting config fact) {link link' : Link}
    (goes : link.Goes config link') (holds : fact link) : fact link' := by
  rcases goes with rfl | ⟨event, _, moved⟩
  · exact holds
  · exact lasting moved holds

theorem sound_of_goes {link link' : Link} (sound : link.Sound) (goes : link.Goes config link') :
    link'.Sound := by
  rcases goes with rfl | ⟨event, inOrder, moved⟩
  · exact sound
  · exact sound.evolve inOrder moved

theorem lasting_calm (mode : EgressMode) : Lasting config (Link.Calm mode) := by
  intro link link' event moved calm
  rw [calm.evolve moved]
  exact calm

/-! ### The requests of the client -/

/-- While the session is not active it stays as it is, and something is known of
the helper. -/
def knowing (data : SessionData) (inactive : data.snapshot.phase ≠ .active) {fact : Link → Prop}
    (lasting : Lasting config fact) : (inOrderContract config).Assertion where
  holds daemon link := daemon.session = data ∧ fact link
  stable := by
    rintro before link after link' _ ⟨settings, goes⟩ _ ⟨rfl, holds⟩
    exact ⟨settings.eq_of_inactive inactive, lasts lasting goes holds⟩

theorem total : (inOrderContract config).Total where
  rest _ _ _ _ := trivial
  unread _ _ _ _ _ := trivial

/-- A call of the client, from what it does to the helper. -/
theorem asks {request : LinkCall} {data : SessionData}
    (inactive : data.snapshot.phase ≠ .active) {fact : Link → Prop}
    {later : request.Reply → Link → Prop} (lasting : Lasting config fact)
    (lastingLater : ∀ reply, Lasting config (later reply))
    (steps : ∀ outcome link reply link', link.Sound → fact link →
      Link.answer request outcome link = some (reply, link') →
      link'.Sound ∧ later reply link') :
    (inOrderContract config).Spec Link.answer (knowing data inactive lasting)
      (ask true request : LinkRoutine request.Reply)
      fun reply => knowing data inactive (lastingLater reply) := by
  apply Spec.ask total
  rintro daemon link good ⟨rfl, holds⟩ outcome reply link' answered _ _
  rcases steps outcome link reply link' good.2.sound holds answered with ⟨sound, known⟩
  exact ⟨trivial, ⟨sound, fun active => absurd active inactive⟩, rfl, known⟩

/-- The client has a new connection. -/
def Connected (reply : Except AppError Nat) (link : Link) : Prop :=
  ∀ connection, reply = .ok connection → link.Fresh connection

/-- The client has sent its request. -/
def Written (connection : Nat) (command : EgressCommand) (reply : Except AppError Unit)
    (link : Link) : Prop :=
  reply = .ok () → link.Sent connection command

/-- The client has read a response of success. -/
def Granted (command : EgressCommand) (reply : Except AppError EgressResponse) (link : Link) :
    Prop :=
  ∀ response, reply = .ok response → response.ok = true → ∀ mode, command = .apply mode →
    link.Calm mode

theorem lasting_connected (reply : Except AppError Nat) : Lasting config (Connected reply) :=
  fun _ _ _ moved holds connection same => (holds connection same).evolve moved

theorem lasting_written (connection : Nat) (command : EgressCommand)
    (reply : Except AppError Unit) : Lasting config (Written connection command reply) :=
  fun _ _ _ moved holds same => (holds same).evolve moved

theorem lasting_granted (command : EgressCommand) (reply : Except AppError EgressResponse) :
    Lasting config (Granted command reply) :=
  fun _ _ _ moved holds response same success mode carried =>
    lasting_calm mode moved (holds response same success mode carried)

/-- The client has taken its request for a success. -/
def Accepted {α : Type} (command : EgressCommand) (reply : Except AppError α) (link : Link) :
    Prop :=
  reply.isOk = true → ∀ mode, command = .apply mode → link.Calm mode

theorem lasting_accepted {α : Type} (command : EgressCommand) (reply : Except AppError α) :
    Lasting config (Accepted command reply) :=
  fun _ _ _ moved holds success mode carried => lasting_calm mode moved (holds success mode carried)

theorem lasting_true : Lasting config fun _ => True :=
  fun _ _ _ _ _ => trivial

section Client

variable {data : SessionData} (inactive : data.snapshot.phase ≠ .active)

theorem connect :
    (inOrderContract config).Spec Link.answer (knowing data inactive lasting_true)
      SocketEgress.connect fun reply => knowing data inactive (lasting_connected reply) := by
  apply asks inactive lasting_true lasting_connected
  intro outcome link reply link' sound _ answered
  cases outcome with
  | proceeds =>
      cases answered
      refine ⟨⟨sound.ordered, fun other member => ?_, sound.running, sound.latest⟩, ?_⟩
      · exact Nat.lt_succ_of_lt (sound.known other member)
      · rintro _ ⟨⟩
        exact ⟨rfl, fun listed => Nat.lt_irrefl _ (sound.known _ listed)⟩
  | broken _ _ | late _ =>
      cases answered
      exact ⟨sound, nofun⟩
  | browser _ | files _ | garbled _ => cases answered

theorem writeAll (connection : Nat) (command : EgressCommand) :
    (inOrderContract config).Spec Link.answer
      (knowing data inactive (lasting_connected (.ok connection)))
      (SocketEgress.writeAll connection command)
      fun reply => knowing data inactive (lasting_written connection command reply) := by
  apply asks inactive (lasting_connected _) (lasting_written connection command)
  intro outcome link reply link' sound connected answered
  have fresh := connected connection rfl
  have given : ∀ arrived, (link.deliverIf arrived connection command).Sound := by
    intro arrived
    cases arrived with
    | false => exact sound
    | true => exact sound.deliver fresh command
  cases outcome with
  | proceeds =>
      cases answered
      exact ⟨sound.deliver fresh command, fun _ => fresh.deliver command⟩
  | broken _ arrived | late arrived =>
      cases answered
      exact ⟨given arrived, nofun⟩
  | browser _ | files _ | garbled _ => cases answered

theorem readLine (connection : Nat) (command : EgressCommand) :
    (inOrderContract config).Spec Link.answer
      (knowing data inactive (lasting_written connection command (.ok ())))
      (SocketEgress.readLine connection)
      fun reply => knowing data inactive (lasting_granted command reply) := by
  apply asks inactive (lasting_written _ _ _) (lasting_granted command)
  intro outcome link reply link' sound written answered
  have sent := written rfl
  cases outcome with
  | proceeds =>
      rcases Option.map_eq_some_iff.mp answered with ⟨found, present, equal⟩
      cases equal
      refine ⟨sound, ?_⟩
      rintro _ ⟨⟩ success mode rfl
      exact Link.calm_of_answered sound sent present success
  | broken _ _ | garbled _ | late _ =>
      cases answered
      exact ⟨sound, nofun⟩
  | browser _ | files _ => cases answered

theorem request (command : EgressCommand) :
    (inOrderContract config).Spec Link.answer (knowing data inactive lasting_true)
      (SocketEgress.request command)
      fun reply => knowing data inactive (lasting_accepted command reply) := by
  refine Spec.andThen (connect inactive) (fun _ _ _ _ known => ⟨known.1, nofun⟩) fun connection => ?_
  refine Spec.andThen (writeAll inactive connection command) (fun _ _ _ _ known => ⟨known.1, nofun⟩)
    fun _ => ?_
  refine Spec.andThen (readLine inactive connection command) (fun _ _ _ _ known => ⟨known.1, nofun⟩)
    fun response => ?_
  split
  · rename_i success
    exact Spec.done fun _ _ _ known => ⟨known.1, fun _ => known.2 response rfl success⟩
  · exact Spec.done fun _ _ _ known => ⟨known.1, nofun⟩

theorem succeed (command : EgressCommand) :
    (inOrderContract config).Spec Link.answer (knowing data inactive lasting_true)
      (SocketEgress.succeed command)
      fun reply => knowing data inactive (lasting_accepted command reply) := by
  apply Spec.bind (request inactive command)
  intro reply
  cases reply with
  | error _ => exact Spec.done fun _ _ _ known => ⟨known.1, nofun⟩
  | ok response => exact Spec.done fun _ _ _ known => ⟨known.1, fun _ => known.2 rfl⟩

end Client

/-! ### The requests as a whole -/

/-- The session is not active where a request to the helper is about to be made:
the request may fail, and leave no policy. -/
theorem inactive_of_admits {request : Call} {daemon : Daemon} {link : Link}
    (good : (inOrderContract config).Good daemon link)
    (admits : (inOrderContract config).Admits summary request daemon link)
    (fails : ∃ reply, summary request link reply { kernel := link.kernel }) :
    daemon.session.snapshot.phase ≠ .active := by
  intro active
  rcases fails with ⟨reply, allowed⟩
  have kept := (admits daemon link .refl good reply _ allowed trivial).2
  cases (kept.calm active).active

/-- The session has not changed, so that the interference may as well have come
before the request. -/
theorem meets_of_inactive {request : Call} {daemon daemon' : Daemon} {link link' : Link}
    {reply : request.Reply} (good : (inOrderContract config).Good daemon link)
    (same : daemon'.session = daemon.session) (allowed : summary request link reply link') :
    (inOrderContract config).Meets summary request daemon link reply daemon' link' := by
  have kept : Agrees daemon'.session link := by
    rw [same]
    exact good.2
  have settings : SettingsStep daemon.session daemon'.session := by
    rw [same]
    exact .same
  exact ⟨link, .single ⟨⟨settings, Or.inl rfl⟩, trivial, kept⟩, ⟨trivial, kept⟩, allowed⟩

/-- A call to another backend, which leaves the helper alone. -/
theorem carries_backend {awaits : Bool} {request : Call} {daemon : Daemon} {link : Link}
    (plain : ∀ link reply link', summary request link reply link' ↔ link' = link)
    (silent : ∀ outcome link reply link',
      Link.answer (.backend request) outcome link = some (reply, link') → link' = link) :
    (inOrderContract config).Safe Link.answer
      ((inOrderContract config).Meets summary request daemon link)
      (ask awaits (LinkCall.backend request) : LinkRoutine request.Reply) daemon link := by
  intro daemon' link' disturbed good'
  refine ⟨fun _ _ => trivial, fun outcome reply link'' answered _ => ?_⟩
  obtain rfl := silent outcome link' reply link'' answered
  refine ⟨fun _ _ => ⟨trivial, good'.2, trivial⟩, fun _ => ⟨trivial, good'.2, ?_⟩⟩
  intro later after disturbed' good''
  exact ⟨after, disturbed.trans disturbed', good'', (plain _ _ _).mpr rfl⟩

theorem carries :
    (inOrderContract config).Carries Link.answer summary SocketEgress.carry := by
  intro awaits request daemon link good admits
  cases request with
  | egressApply mode =>
      have inactive := inactive_of_admits good admits ⟨.error .internal, .empty _, nofun⟩
      apply Triple.relax (succeed inactive (.apply mode)) ?_ daemon link good
        ⟨rfl, trivial⟩
      intro reply daemon' link' good' known
      refine meets_of_inactive good known.1 ⟨good'.2.sound, ?_⟩
      rintro rfl
      exact known.2 rfl mode rfl
  | egressReset =>
      have inactive := inactive_of_admits good admits ⟨.error .internal, .empty _⟩
      apply Triple.relax (succeed inactive .reset) ?_ daemon link good ⟨rfl, trivial⟩
      intro reply daemon' link' good' known
      exact meets_of_inactive good known.1 good'.2.sound
  | browserStart | browserStop | browserNavigate | clearRuntimeDir | writePairingFile =>
      refine carries_backend (fun _ _ _ => Iff.rfl) ?_
      intro outcome link reply link' answered
      cases outcome <;> cases answered
      rfl

/-! ### The operations -/

/-- The contract over the requests of the operations. -/
abbrev outer (config : NetworkConfig) :
    Contract Daemon Call Response Link (Effects Call Call.Reply Link) :=
  (inOrderContract config).summarized summary

theorem quiet : (outer config).Quiet where
  rest _ _ _ _ := trivial
  unread _ _ _ _ dropped := nomatch dropped.1
  publish _ _ _ _ good _ := ⟨trivial, good.2⟩

/-- The session is not active; something is known of it, and of the helper. -/
def dormant (known : SessionData → Prop) {fact : Link → Prop} (lasting : Lasting config fact) :
    (outer config).Assertion where
  holds daemon link := daemon.session.snapshot.phase ≠ .active ∧ known daemon.session ∧ fact link
  stable := by
    rintro before link after link' _ ⟨settings, goes⟩ _ ⟨inactive, holds, known⟩
    rw [settings.eq_of_inactive inactive]
    exact ⟨inactive, holds, lasts lasting goes known⟩

/-- The session is not active. -/
def inactive : (outer config).Assertion :=
  dormant (fun _ => True) lasting_true

/-- The mode is committed, and the session is about to be active in it. -/
def ready (known : SessionData → Prop) (mode : EgressMode) : (outer config).Assertion :=
  dormant known (lasting_calm mode)

/-- A call to another backend. -/
theorem callBackend {awaits : Bool} {request : Call} {pre : (outer config).Assertion}
    (plain : ∀ link reply link', summary request link reply link' → link' = link) :
    (outer config).Spec Effects.answer pre (ask awaits request : Routine request.Reply)
      fun _ => pre := by
  apply Spec.ask quiet.toTotal
  intro daemon link good holds effects reply link' answered assumed _
  obtain rfl := plain link reply link' (assumed reply link' answered)
  exact ⟨trivial, good.2, holds⟩

/-- A call to the helper. -/
theorem callEgress {awaits : Bool} {request : Call} {known : SessionData → Prop}
    {later : request.Reply → Link → Prop} (lasting : ∀ reply, Lasting config (later reply))
    (does : ∀ link reply link', summary request link reply link' → link'.Sound ∧ later reply link') :
    (outer config).Spec Effects.answer (dormant known lasting_true)
      (ask awaits request : Routine request.Reply) fun reply => dormant known (lasting reply) := by
  apply Spec.ask quiet.toTotal
  rintro daemon link good ⟨inactive, holds, _⟩ effects reply link' answered assumed _
  rcases does link reply link' (assumed reply link' answered) with ⟨sound, settled⟩
  exact ⟨trivial, ⟨sound, fun active => absurd active inactive⟩, inactive, holds, settled⟩

theorem reset {known : SessionData → Prop} :
    (outer config).Spec Effects.answer (dormant known lasting_true) Routine.egressReset
      fun _ => dormant known lasting_true :=
  callEgress (fun _ => lasting_true) fun _ _ _ sound => ⟨sound, trivial⟩

theorem apply (mode : EgressMode) {known : SessionData → Prop} :
    (outer config).Spec Effects.answer (dormant known lasting_true) (Routine.egressApply mode)
      (.either (fun _ => ready known mode) fun _ => inactive) := by
  have lasting : ∀ reply : Except AppError Unit,
      Lasting config fun link => reply = .ok () → link.Calm mode :=
    fun _ _ _ _ moved holds same => lasting_calm mode moved (holds same)
  have applied : (outer config).Spec Effects.answer (dormant known lasting_true)
      (Routine.egressApply mode) fun reply => dormant known (lasting reply) :=
    callEgress lasting fun _ _ _ does => does
  apply Spec.relax applied
  intro reply daemon link _ ⟨dormant, holds, settled⟩
  cases reply with
  | ok _ => exact ⟨dormant, holds, settled rfl⟩
  | error _ => exact ⟨dormant, trivial, trivial⟩

theorem publish {event : String} {known : SessionData → Prop} {fact : Link → Prop}
    {lasting : Lasting config fact} :
    (outer config).Spec Effects.answer (dormant known lasting) (SessionManager.publish event)
      fun _ => dormant known lasting :=
  Spec.publish quiet (fun _ _ => trivial) fun _ _ _ _ holds => holds

/-- A commit that leaves the session inactive. -/
theorem commitInactive {event : String} {update : Daemon → SessionData}
    {pre : (outer config).Assertion}
    (updates : ∀ daemon, (update daemon).snapshot.phase ≠ .active) :
    (outer config).Spec Effects.answer pre (SessionManager.commit event update)
      fun _ => .trivial :=
  Spec.commit quiet (fun _ _ _ _ _ holds => holds) fun daemon _ good _ _ _ =>
    ⟨trivial, ⟨good.2.sound, fun active => absurd active (updates daemon)⟩, trivial⟩

/-- A commit that makes a session active in the mode that is committed. -/
theorem commitActive {event : String} {update : Daemon → SessionData}
    {known : SessionData → Prop} {mode : EgressMode}
    (updates : ∀ daemon, known daemon.session → (update daemon).snapshot.egress = mode) :
    (outer config).Spec Effects.answer (ready known mode) (SessionManager.commit event update)
      fun _ => .trivial := by
  apply Spec.commit quiet fun _ _ _ _ _ holds => holds
  rintro daemon link good ⟨_, holds, calm⟩ _ _
  refine ⟨trivial, ⟨good.2.sound, fun _ => ?_⟩, trivial⟩
  rw [updates daemon holds]
  exact calm

def startOutline (manager : SessionManager) (client : Uuid) (url : Url) :
    StartOutline (outer config) Effects.answer manager client url .trivial fun _ => .trivial where
  starting _ _ mode := dormant (fun data => data.snapshot.egress = mode) lasting_true
  launching _ _ mode := ready (fun data => data.snapshot.egress = mode) mode
  launched _ _ mode := ready (fun data => data.snapshot.egress = mode) mode
  stopping := inactive
  resetting := inactive
  clearing := inactive
  failing := inactive
  entry := by
    apply Spec.transactBy quiet.toTotal (beginStart_cases manager client url)
    intro daemon link good _ after outcome _ _
    cases outcome with
    | busy _ _ | blocked _ | conflict _ _ _ => exact ⟨trivial, good.2, trivial⟩
    | begun _ _ _ => exact ⟨trivial, ⟨good.2.sound, nofun⟩, nofun, rfl, trivial⟩
  announce _ _ _ := publish
  apply _ _ mode := apply mode
  launch _ _ mode := Spec.either (callBackend fun _ _ _ same => same) (fun _ _ holds => holds)
    fun _ _ holds => ⟨holds.1, trivial, trivial⟩
  stop := callBackend fun _ _ _ same => same
  reset := reset
  clear := callBackend fun _ _ _ same => same
  fail _ := commitInactive fun _ => nofun
  activate _ _ _ := commitActive fun _ same => same

def burnOutline (manager : SessionManager) :
    BurnOutline (outer config) Effects.answer manager .trivial fun _ => .trivial where
  burning := inactive
  resetting _ := inactive
  clearing _ := inactive
  burned _ := inactive
  entry := by
    apply Spec.transactBy quiet.toTotal beginBurn_cases
    intro daemon link good _ after outcome _ _
    cases outcome with
    | idle _ => exact ⟨trivial, good.2, trivial⟩
    | burning _ => exact ⟨trivial, ⟨good.2.sound, nofun⟩, nofun, trivial, trivial⟩
  announce := publish
  stop := Spec.split (callBackend fun _ _ _ same => same)
  reset _ := Spec.split reset
  clear _ := Spec.split (callBackend fun _ _ _ same => same)
  idle := commitInactive fun _ => nofun
  fail _ _ _ := commitInactive fun _ => nofun

def navigateOutline (manager : SessionManager) (client : Uuid) (command : NavigationCommand) :
    NavigateOutline (outer config) Effects.answer manager client command .trivial
      fun _ => .trivial where
  navigating := .trivial
  navigated := .trivial
  entry := by
    apply Spec.transactBy quiet.toTotal (beginNavigation_cases manager client command)
    intro daemon link good _ after outcome _ _
    cases outcome with
    | refused _ _ => exact ⟨trivial, good.2, trivial⟩
    | blocked _ _ _ _ | begun _ _ => exact ⟨trivial, ⟨good.2.sound, good.2.calm⟩, trivial⟩
  request := Spec.split (callBackend fun _ _ _ same => same)
  commit := by
    apply Spec.commit quiet fun _ _ _ _ _ holds => holds
    intro daemon link good _ _ _
    refine ⟨trivial, ⟨good.2.sound, fun active => ?_⟩, trivial⟩
    cases command <;> exact good.2.calm active

def restartOutline (id : Uuid) (url : Url) (profile : StreamProfile) (mode : EgressMode) :
    RestartOutline (outer config) Effects.answer id url profile mode inactive
      (ready (fun _ => True) mode) inactive where
  clearing := inactive
  applying := inactive
  launching := ready (fun _ => True) mode
  reset := Spec.split reset
  clear := Spec.split (callBackend fun _ _ _ same => same)
  apply := apply mode
  launch := Spec.either (callBackend fun _ _ _ same => same) (fun _ _ holds => holds)
    fun _ _ holds => ⟨holds.1, trivial, trivial⟩

theorem draw :
    (outer config).Spec Effects.answer inactive (sync Daemon.newUuid : Routine Uuid)
      fun _ => inactive :=
  Spec.transact quiet.toTotal fun _ _ good holds _ _ => ⟨trivial, good.2, holds⟩

def switchOutline (client : Uuid) (mode : EgressMode) :
    SwitchOutline (outer config) Effects.answer client mode .trivial fun _ => .trivial where
  switching _ _ _ := inactive
  stopping _ _ _ _ := inactive
  resetting _ _ _ _ := inactive
  switched _ _ _ _ := ready (fun _ => True) mode
  attempted _ _ _ := inactive
  rollbackStopping _ _ _ _ := inactive
  rollbackResetting _ _ _ _ := inactive
  rolledBack _ _ _ previous := ready (fun _ => True) previous
  lost := inactive
  entry := by
    apply Spec.transactBy quiet.toTotal (beginSwitch_cases client)
    intro daemon link good _ after outcome _ _
    cases outcome with
    | refused _ _ => exact ⟨trivial, good.2, trivial⟩
    | absent _ _ => exact ⟨trivial, ⟨good.2.sound, nofun⟩, trivial⟩
    | begun _ _ _ => exact ⟨trivial, ⟨good.2.sound, nofun⟩, nofun, trivial, trivial⟩
  announce _ _ _ := publish
  draw _ _ _ := draw
  stop _ _ _ _ := Spec.split (callBackend fun _ _ _ same => same)
  attempt id url profile _ := restartOutline id url profile mode
  commit _ _ _ _ := commitActive fun _ _ => rfl
  redraw _ _ _ := draw
  restop _ _ _ _ := callBackend fun _ _ _ same => same
  rollback id url profile previous := restartOutline id url profile previous
  commitRollback _ _ _ _ _ := commitActive fun _ _ => rfl
  fail _ := commitInactive fun _ => nofun

theorem specs (manager : SessionManager) :
    SessionSpecs (outer config) Effects.answer manager .trivial where
  quiet := quiet
  reflexive _ _ := trivial
  atRest _ _ := Iff.rfl
  finish _ _ _ := Iff.rfl
  start client url := (startOutline manager client url).sound
  forceBurn := (burnOutline manager).sound
  navigate client command := (navigateOutline manager client command).sound
  switchEgress client mode := (switchOutline client mode).sound

theorem blind : Blind (outer config) Effects.answer .trivial where
  auth _ _ _ _ good _ _ _ := ⟨trivial, good.2, trivial⟩
  pairingFile _ _ reply _ _ link' good _ answered assumed _ := by
    obtain rfl := assumed reply link' answered
    exact ⟨trivial, good.2, trivial⟩

/-! ### The service -/

/-- The helper, whose tasks take the mutex in order. -/
def evolveInOrder (config : NetworkConfig) (event : LinkEvent) (link : Link) : Option Link :=
  if event.InOrder link then link.evolve config event else none

theorem goes_of_evolveInOrder {event : LinkEvent} {link link' : Link}
    (moved : evolveInOrder config event link = some link') : link.Goes config link' := by
  unfold evolveInOrder at moved
  split at moved
  · rename_i inOrder
    exact Or.inr ⟨event, inOrder, moved⟩
  · cases moved

theorem interference :
    Interference (outer config) fun event _ link => evolveInOrder config event link where
  request daemon link daemon' good step _ _ := by
    refine ⟨⟨step.session, Or.inl rfl⟩, good.2.sound, fun active => ?_⟩
    rw [step.session.phase] at active
    rw [step.session.egress]
    exact good.2.calm active
  clock _ _ _ _ good _ _ := ⟨⟨.same, Or.inl rfl⟩, good.2⟩
  world event daemon link link' good moved _ := by
    have goes := goes_of_evolveInOrder moved
    refine ⟨⟨.same, goes⟩, sound_of_goes good.2.sound goes, fun active => ?_⟩
    exact lasts (lasting_calm _) goes (good.2.calm active)

theorem established (app : AppState) :
    (inOrderContract config).Established (app.linkedBy (evolveInOrder config)) where
  operation op :=
    Triple.interpret carries
      (((specs app.sessions).established_service blind interference).operation op)
  task request daemon link _ := by
    refine Contract.Steady.of_local (request_local app request).interpret ?_ daemon link
    intro daemon link daemon' good step _ _
    exact interference.request daemon link daemon' good step trivial trivial
  noise event daemon link daemon' link' good changed _ :=
    interference.noise good changed trivial
  resting _ _ _ _ _ _ _ _ := trivial
  finished _ _ _ _ _ := trivial

theorem initial {app : AppState} {daemon : Daemon} (booted : app.Booted daemon) (kernel : Kernel) :
    (inOrderContract config).Holds Link.answer
      (.idle daemon { kernel } : Config Daemon LinkCall LinkCall.Reply Response Link) := by
  have idle : daemon.session.snapshot.phase ≠ .active := by
    rw [booted.session]
    nofun
  constructor
  · exact ⟨trivial, .empty kernel, fun active => absurd active idle⟩
  · exact fun _ => trivial
  · rintro program ⟨⟩
  · rintro program ⟨⟩

end inOrderContract

/-! ## The result -/

/-- The mode is committed, and whatever the helper does with the requests that
are still in flight, it stays so. -/
def Link.Settled (config : NetworkConfig) (mode : EgressMode) (link : Link) : Prop :=
  ∀ link', Reachable (fun (link : Link) event => link.evolve config event) link link' →
    link'.state.activeMode = some mode

theorem Link.Calm.settled {config : NetworkConfig} {mode : EgressMode} {link : Link}
    (calm : link.Calm mode) : link.Settled config mode := by
  intro link' reachable
  have same : link' = link := by
    induction reachable with
    | refl => rfl
    | tail _ _ moved ih =>
        rw [ih] at moved
        exact calm.evolve moved
  rw [same]
  exact calm.active

abbrev LinkedConfig :=
  Config Daemon LinkCall LinkCall.Reply Response Link

abbrev LinkedLabel :=
  Pool.Label Lifecycle Request (Environment LinkEvent) LinkOutcome

/-- If a task of the helper takes the mutex in this step then no older request
is still waiting. -/
def TakenInOrder (config : LinkedConfig) : LinkedLabel → Prop
  | .noise (.world event) => event.InOrder config.world
  | _ => True

theorem reaches_of_inOrder {app : AppState} {network : NetworkConfig}
    {source target : LinkedConfig}
    (reaches : ReachableUnder (app.linked network).step TakenInOrder source target) :
    (app.linkedBy (inOrderContract.evolveInOrder network)).Reaches source target := by
  induction reaches with
  | refl => exact .refl
  | @tail middle target label _ inOrder step ih =>
      have guarded : (app.linkedBy (inOrderContract.evolveInOrder network)).step middle label =
          some target := by
        cases label with
        | noise event =>
            cases event with
            | elapse _ | setClock _ => exact step
            | world event =>
                have same : inOrderContract.evolveInOrder network event middle.world =
                    middle.world.evolve network event := if_pos inOrder
                rw [← step]
                simp only [Pool.step, AppState.linkedBy, AppState.environment, same]
        | _ => exact step
      exact ih.tail trivial guarded

/-- If the tasks of the helper take the mutex in the order in which the requests
were sent then, whenever the session is active, the mode of the snapshot is
committed, and no request that is in flight can change it. -/
theorem settled_of_inOrder {app : AppState} {network : NetworkConfig} {daemon : Daemon}
    {kernel : Kernel} {config : LinkedConfig} (booted : app.Booted daemon)
    (reaches : ReachableUnder (app.linked network).step TakenInOrder (.idle daemon { kernel })
      config)
    (active : config.memory.session.snapshot.phase = .active) :
    config.world.Settled network config.memory.session.snapshot.egress := by
  have holds := (inOrderContract.established app).sound (inOrderContract.initial booted kernel)
    (fun _ _ => trivial) (Pool.reachesUnder_free _ (reaches_of_inOrder reaches))
  exact (holds.good.2.calm active).settled

namespace Sample

/-- The helper takes up a request and carries it out; the adapter of a mode may
have to be validated and reached. -/
def handled (connection : Nat) (adapter : List NetOutcome) : List LinkEvent :=
  let ranWell : LinkEvent := .step (some (.ran .succeeded true))
  [.take connection, .step none] ++ List.replicate 7 ranWell ++
    [.step (some (.present false)), .step (some (.listed (.ok []))),
      .step (some (.listed (.ok [])))] ++
    adapter.map (fun outcome => .step (some outcome)) ++ [ranWell, .step none, .respond]

def helper (events : List LinkEvent) : List LinkedLabel :=
  events.map fun event => .noise (.world event)

def linkSteps (count : Nat) (outcome : LinkOutcome) : List LinkedLabel :=
  List.replicate count (.step (some outcome))

/-- A request is sent and handled, and its response is read. -/
def granted (connection : Nat) : List LinkedLabel :=
  linkSteps 2 .proceeds ++ helper (handled connection []) ++ linkSteps 1 .proceeds

/-- The browser is stopped, the policy reset, and the directory cleared. -/
def wiped (connection : Nat) : List LinkedLabel :=
  linkSteps 1 (.browser (.ok ())) ++ granted connection ++ linkSteps 1 (.files (.ok ()))

/-- The first client starts a session and switches to Tor.  The daemon gives the
request up while it waits for the response. -/
def givenUp : List LinkedLabel :=
  openSession LinkOutcome.proceeds 4 ++ granted 0 ++ linkSteps 3 (.browser (.ok ())) ++
    [.finish, .start (.switchEgress ⟨0, 1⟩ 1 .tor)] ++ linkSteps 6 .proceeds ++ wiped 1 ++
    linkSteps 2 .proceeds ++ linkSteps 1 (.late false) ++ linkSteps 1 .proceeds

/-- The helper carries out the request that was given up. -/
def afterwards : List LinkEvent :=
  handled 2 [.located (.ok ⟨.v4 0, 9050⟩), .checked (.ok ())]

/-- The switch is rolled back. -/
def rollsBack : List LinkedLabel :=
  wiped 3 ++ granted 4 ++ linkSteps 3 (.browser (.ok ())) ++ [.finish]

def takesInOrder (config : LinkedConfig) : LinkedLabel → Bool
  | .noise (.world event) => decide (event.InOrder config.world)
  | _ => true

theorem takenInOrder_of_takesInOrder (config : LinkedConfig) (label : LinkedLabel)
    (accepted : takesInOrder config label = true) : TakenInOrder config label := by
  cases label with
  | noise event =>
      cases event with
      | world event =>
          have ordered : event.InOrder config.world := of_decide_eq_true accepted
          exact ordered
      | elapse _ | setClock _ => trivial
  | _ => trivial

end Sample

/-- If the request that was given up has its turn before the rollback then the
session has the policy that it shows. -/
theorem settled_of_rollsBack :
    ∃ config : LinkedConfig, config.memory.session.snapshot.phase = .active ∧
      config.memory.session.snapshot.egress = .direct ∧ config.world.answered.length = 5 ∧
      config.world.Settled {} .direct := by
  let next := (Sample.app.linked {}).step
  have executed : ((run (guarded next Sample.takesInOrder) (.idle Sample.daemon { kernel := ⟨[]⟩ })
      (Sample.givenUp ++ Sample.helper Sample.afterwards ++ Sample.rollsBack)).map fun config =>
        (config.memory.session.snapshot.phase, config.memory.session.snapshot.egress,
          config.world.answered.length)) = some (.active, .direct, 5) := by
    decide +kernel
  rcases Option.map_eq_some_iff.mp executed with ⟨config, reached, values⟩
  simp only [Prod.mk.injEq] at values
  rcases values with ⟨active, direct, answered⟩
  have settled := settled_of_inOrder Sample.daemon_booted
    (reachableUnder_of_run Sample.takenInOrder_of_takesInOrder reached) active
  rw [direct] at settled
  exact ⟨config, active, direct, answered, settled⟩

/-- A request that was given up and has its turn after the rollback puts the
helper into a mode that the session does not show. -/
theorem not_settled_of_afterwards :
    ¬ ∀ (app : AppState) (network : NetworkConfig) (daemon : Daemon) (kernel : Kernel)
      (config : LinkedConfig), app.Booted daemon →
      (app.linked network).Reaches (.idle daemon { kernel }) config → config.holder = none →
      config.memory.session.snapshot.phase = .active →
      config.world.Settled network config.memory.session.snapshot.egress := by
  intro always
  let next := (Sample.app.linked {}).step
  have executed : ((run next (.idle Sample.daemon { kernel := ⟨[]⟩ })
      (Sample.givenUp ++ Sample.rollsBack)).bind fun config =>
        (run (fun (link : Link) event => link.evolve {} event) config.world
          Sample.afterwards).map fun link =>
            ((config.holder.isNone, config.memory.session.snapshot.phase),
              config.memory.session.snapshot.egress, link.state.activeMode)) =
      some ((true, .active), .direct, some .tor) := by
    decide +kernel
  rcases Option.bind_eq_some_iff.mp executed with ⟨config, reached, executed⟩
  rcases Option.map_eq_some_iff.mp executed with ⟨link, moved, values⟩
  simp only [Prod.mk.injEq] at values
  rcases values with ⟨⟨free, active⟩, direct, tor⟩
  have settled := always Sample.app {} Sample.daemon ⟨[]⟩ config Sample.daemon_booted
    (reachable_of_run reached) (Option.isNone_iff_eq_none.mp free) active link
    (reachable_of_run moved)
  rw [direct, tor] at settled
  cases settled

end XanhTab
