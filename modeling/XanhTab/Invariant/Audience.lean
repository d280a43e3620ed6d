import XanhTab.Daemon.Subscription
import XanhTab.Program.Record

/-!
# Who an event socket listens to

An event socket sends whatever is published until it reads that a session is
burning or idle.  If it is to show nothing of another client then no other client
may take the lease before the socket is bound to read such an event.  A session
that ends always publishes one, but the socket may have subscribed after it, or
may skip it when it falls behind.
-/

namespace XanhTab

open Program Transition

/-! ## What sockets send -/

/-- No event socket has shown a session of another client than the one it was
authorised for, and every relay was opened while its client still held the lease
that it was authorised under. -/
structure Isolated (daemon : Daemon) : Prop where
  shown : ∀ delivery ∈ daemon.deliveries, ∀ event, delivery.content = some event →
    event.MeantFor delivery.client
  relayed : ∀ delivery ∈ daemon.deliveries, delivery.content = none →
    delivery.current.controller = some delivery.client

theorem Isolated.deliver {daemon : Daemon} (isolated : Isolated daemon) (client id : Uuid)
    {content : Option ServerEvent}
    (shown : ∀ event, content = some event → event.MeantFor client)
    (relayed : content = none → daemon.session.controller = some client) :
    Isolated (daemon.deliver client id content) where
  shown delivery member := by
    rcases List.mem_append.mp member with old | new
    · exact isolated.shown delivery old
    · rw [List.mem_singleton.mp new]
      exact shown
  relayed delivery member := by
    rcases List.mem_append.mp member with old | new
    · exact isolated.relayed delivery old
    · rw [List.mem_singleton.mp new]
      exact relayed

theorem Isolated.of_deliveries {daemon daemon' : Daemon} (isolated : Isolated daemon)
    (same : daemon'.deliveries = daemon.deliveries) : Isolated daemon' := by
  constructor
  · rw [same]
    exact isolated.shown
  · rw [same]
    exact isolated.relayed

/-! ## What a socket waits for -/

/-- What a socket will send of these events is meant for its client. -/
def Proper (client : Uuid) : List ServerEvent → Prop
  | [] => True
  | event :: rest => event.MeantFor client ∧ (event.Closes ∨ Proper client rest)

namespace Proper

variable {client : Uuid} {events : List ServerEvent}

theorem concat (proper : Proper client events) {event : ServerEvent}
    (meant : (∃ earlier ∈ events, earlier.Closes) ∨ event.MeantFor client) :
    Proper client (events ++ [event]) := by
  induction events with
  | nil =>
      rcases meant with ⟨_, member, _⟩ | meant
      · exact nomatch member
      · exact ⟨meant, Or.inr trivial⟩
  | cons first rest ih =>
      refine ⟨proper.1, ?_⟩
      by_cases closes : first.Closes
      · exact Or.inl closes
      · refine Or.inr (ih (proper.2.resolve_left closes) (meant.imp_left ?_))
        rintro ⟨earlier, member, closing⟩
        rcases List.mem_cons.mp member with rfl | later
        · exact absurd closing closes
        · exact ⟨earlier, later, closing⟩

/-- Events that do not close the socket may be skipped. -/
theorem drop (proper : Proper client events) {count : Nat}
    (open_ : ∀ event ∈ events.take count, ¬ event.Closes) :
    Proper client (events.drop count) := by
  induction events generalizing count with
  | nil => simpa using proper
  | cons first rest ih =>
      cases count with
      | zero => exact proper
      | succ count =>
          have stays := open_ first List.mem_cons_self
          exact ih (proper.2.resolve_left stays) fun event member =>
            open_ event (List.mem_cons_of_mem _ member)

end Proper

/-- A socket of the client may wait at the position: what it will send is meant
for the client, and it belongs to the client of the era or is bound to close. -/
structure Waits (era : Uuid) (events : List ServerEvent) (client : Uuid) (position : Nat) :
    Prop where
  proper : Proper client (events.drop position)
  bound : client = era ∨ ClosesFrom position events

namespace Waits

variable {era client : Uuid} {events : List ServerEvent} {position : Nat}

/-- A socket that has just subscribed. -/
theorem subscribed (events : List ServerEvent) : Waits era events era events.length where
  proper := by
    rw [List.drop_length]
    trivial
  bound := Or.inl rfl

theorem published (waits : Waits era events client position) {event : ServerEvent}
    (heard : ClosesFrom position events ∨ event.MeantFor client) :
    Waits era (events ++ [event]) client position := by
  have unread : (events ++ [event]).drop position = events.drop position ∨
      (events ++ [event]).drop position = events.drop position ++ [event] := by
    rw [List.drop_append]
    cases position - events.length with
    | zero => exact Or.inr rfl
    | succ beyond => exact Or.inl (by simp)
  constructor
  · rcases unread with same | grown
    · rw [same]
      exact waits.proper
    · rw [grown]
      exact waits.proper.concat heard
  · refine waits.bound.imp_right ?_
    rintro ⟨closing, member, closes⟩
    refine ⟨closing, ?_, closes⟩
    rcases unread with same | grown
    · rw [same]
      exact member
    · rw [grown]
      exact List.mem_append_left _ member

/-- The socket reads the next event. -/
theorem read (waits : Waits era events client position) {event : ServerEvent}
    (next : events[position]? = some event) :
    event.MeantFor client ∧ (¬ event.Closes → Waits era events client (position + 1)) := by
  rcases List.getElem?_eq_some_iff.mp next with ⟨within, equal⟩
  have unread : events.drop position = event :: events.drop (position + 1) := by
    rw [List.drop_eq_getElem_cons within, equal]
  have proper := waits.proper
  rw [unread] at proper
  refine ⟨proper.1, fun stays => ⟨proper.2.resolve_left stays, waits.bound.imp_right ?_⟩⟩
  rintro ⟨closing, member, closes⟩
  rw [unread] at member
  rcases List.mem_cons.mp member with rfl | later
  · exact absurd closes stays
  · exact ⟨closing, later, closes⟩

/-- The socket falls behind and skips some events. -/
theorem lagged (waits : Waits era events client position) {oldest : Nat}
    (forward : position ≤ oldest)
    (skipped : ∀ event ∈ (events.drop position).take (oldest - position), ¬ event.Closes) :
    Waits era events client oldest := by
  have rest : events.drop oldest = (events.drop position).drop (oldest - position) := by
    rw [List.drop_drop, Nat.add_sub_cancel' forward]
  constructor
  · rw [rest]
    exact waits.proper.drop skipped
  · refine waits.bound.imp_right ?_
    rintro ⟨closing, member, closes⟩
    refine ⟨closing, ?_, closes⟩
    rw [← List.take_append_drop (oldest - position) (events.drop position)] at member
    rcases List.mem_append.mp member with passed | later
    · exact absurd closes (skipped closing passed)
    · rw [rest]
      exact later

/-- Another client takes the lease. -/
theorem handover (waits : Waits era events client position) {next : Uuid}
    (leaving : client = next ∨ ClosesFrom position events) : Waits next events client position :=
  ⟨waits.proper, leaving⟩

end Waits

/-! ## What is known of a task -/

/-- What is known of an authorised event socket. -/
structure Subscriber.Attends (era : Uuid) (events : List ServerEvent) (subscriber : Subscriber) :
    Prop where
  greeted : subscriber.Greeted ∨ subscriber.client = era
  sends : ∀ event next, subscriber.stage = .sending event next →
    event.MeantFor subscriber.client
  waits : ∀ position, subscriber.position = some position →
    Waits era events subscriber.client position

namespace Subscriber.Attends

variable {era client id : Uuid} {events : List ServerEvent} {turns : List Turn} {position : Nat}

theorem subscribing (same : client = era) :
    Attends era events ⟨client, id, turns, .subscribing⟩ where
  greeted := Or.inr same
  sends _ _ sending := by cases sending
  waits _ next := by cases next

theorem greeting (same : client = era)
    (waits : ∀ rest, Turn.remaining turns = some rest → Waits era events client position) :
    Attends era events ⟨client, id, turns, .greeting position⟩ where
  greeted := Or.inr same
  sends _ _ sending := by cases sending
  waits _ next := by
    rcases Option.map_eq_some_iff.mp next with ⟨rest, remaining, rfl⟩
    exact waits rest remaining

theorem sending {event : ServerEvent} {next : Option Nat} (meant : event.MeantFor client)
    (waits : ∀ position rest, next = some position → Turn.remaining turns = some rest →
      Waits era events client position) :
    Attends era events ⟨client, id, turns, .sending event next⟩ where
  greeted := Or.inl trivial
  sends _ _ sending := by
    cases sending
    exact meant
  waits _ looks := by
    rcases Option.bind_eq_some_iff.mp looks with ⟨position, goesOn, mapped⟩
    rcases Option.map_eq_some_iff.mp mapped with ⟨rest, remaining, rfl⟩
    exact waits position rest goesOn remaining

theorem receiving (waits : Waits era events client position) :
    Attends era events ⟨client, id, turns, .receiving position⟩ where
  greeted := Or.inl trivial
  sends _ _ sending := by cases sending
  waits _ next := by
    cases next
    exact waits

end Subscriber.Attends

/-- What is known of a task.  Sockets that have been authorised may have been so
in the era of the client that held the lease last. -/
inductive Placed (app : AppState) (era : Uuid) (daemon : Daemon) : Routine Response → Prop
  | copies {program : Routine Response} : Copies program → Placed app era daemon program
  | seeks {program : Routine Response} : Seeks app program → Placed app era daemon program
  | attends (subscriber : Subscriber) : subscriber.Attends era daemon.events →
      Placed app era daemon (subscriber.program app)
  | relays (client id : Uuid) : daemon.session.controller = some client →
      Placed app era daemon (AppState.opensRelay client id)

/-- Nobody holds the lease, or the client of the era does. -/
def Reigns (era : Uuid) (daemon : Daemon) : Prop :=
  daemon.session.controller = none ∨ daemon.session.controller = some era

namespace Placed

variable {app : AppState} {era : Uuid} {daemon daemon' : Daemon} {program : Routine Response}

theorem request (request : Request) : Placed app era daemon (app.request request) := by
  rcases request_copies_or_seeks request with copies | seeks
  · exact .copies copies
  · exact .seeks seeks

/-- A socket that has just been authorised. -/
theorem admitted (reigns : Reigns era daemon) (admitted : Admitted app daemon program) :
    Placed app era daemon program := by
  rcases admitted with ⟨client, id, control, ⟨turns, rfl⟩ | rfl⟩
  · have same : client = era := by
      rcases reigns with nobody | held
      · cases control.symm.trans nobody
      · exact Option.some.inj (control.symm.trans held)
    exact .attends ⟨client, id, turns, .subscribing⟩ (.subscribing same)
  · exact .relays client id control

/-- The loop of an event socket goes on, or has ended. -/
theorem loop {client id : Uuid} {position : Nat} {turns : List Turn}
    (waits : ∀ rest, Turn.remaining turns = some rest →
      Waits era daemon.events client position) :
    Placed app era daemon (do
      app.eventLoop client id position turns
      return .unit (.ok ())) := by
  rw [AppState.eventLoop_of_remaining]
  cases remaining : Turn.remaining turns with
  | none => exact .copies trivial
  | some rest =>
      exact .attends ⟨client, id, rest, .receiving position⟩ (.receiving (waits rest remaining))

/-- Something is published, and the sockets that will look at it may show it. -/
theorem published (placed : Placed app era daemon program) {event : ServerEvent}
    (events : daemon'.events = daemon.events ++ [event])
    (controller : daemon'.session.controller = daemon.session.controller)
    (heard : ∀ subscriber : Subscriber, program = subscriber.program app →
      ∀ position, subscriber.position = some position →
        Waits era daemon.events subscriber.client position →
          ClosesFrom position daemon.events ∨ event.MeantFor subscriber.client) :
    Placed app era daemon' program := by
  cases placed with
  | copies copies => exact .copies copies
  | seeks seeks => exact .seeks seeks
  | attends subscriber attends =>
      refine .attends subscriber ⟨attends.greeted, attends.sends, fun position next => ?_⟩
      have waits := attends.waits position next
      rw [events]
      exact waits.published (heard subscriber rfl position next waits)
  | relays client id control => exact .relays client id (controller.trans control)

/-- Nothing is published, and no socket that waits for its relay loses the lease. -/
theorem kept (placed : Placed app era daemon program) (events : daemon'.events = daemon.events)
    (held : ∀ client id, program = AppState.opensRelay client id →
      daemon.session.controller = some client → daemon'.session.controller = some client) :
    Placed app era daemon' program := by
  cases placed with
  | copies copies => exact .copies copies
  | seeks seeks => exact .seeks seeks
  | attends subscriber attends =>
      refine .attends subscriber ?_
      rw [events]
      exact attends
  | relays client id control => exact .relays client id (held client id rfl control)

/-- Another client takes the lease. -/
theorem handover (placed : Placed app era daemon program) {next : Uuid}
    (leaving : ∀ subscriber : Subscriber, program = subscriber.program app →
      subscriber.client = next ∨ subscriber.Leaving daemon.events) :
    Placed app next daemon program := by
  cases placed with
  | copies copies => exact .copies copies
  | seeks seeks => exact .seeks seeks
  | attends subscriber attends =>
      have leaves := leaving subscriber rfl
      refine .attends subscriber ⟨?_, attends.sends, fun position looks => ?_⟩
      · exact leaves.symm.imp_left And.left
      · exact (attends.waits position looks).handover
          (leaves.imp_right fun leaves => leaves.2 position looks)
  | relays client id control => exact .relays client id control

end Placed

/-- The deliveries after the next section of a program. -/
def Routine.sent {α : Type} (daemon : Daemon) : Routine α → List Delivery
  | .access _ update _ => (update daemon).deliveries
  | .done _ | .call _ _ _ => daemon.deliveries

theorem Copies.sent {program : Routine Response} (copies : Copies program) (daemon : Daemon) :
    Routine.sent daemon program = daemon.deliveries := by
  cases program with
  | done result | call awaits request next => rfl
  | access awaits update next =>
      rcases copies with ⟨event, data, _, rfl, _⟩ | sections
      · rfl
      · exact (sections daemon).1.deliveries

theorem Seeks.sent {app : AppState} {program : Routine Response} (seeks : Seeks app program)
    (daemon : Daemon) : Routine.sent daemon program = daemon.deliveries := by
  cases program with
  | done result | call awaits request next => rfl
  | access awaits update next => exact (seeks daemon).1.deliveries

/-- A signaling socket that waits for its relay belongs to the holder of the lease. -/
theorem Placed.control {app : AppState} {era client id : Uuid} {daemon : Daemon}
    (placed : Placed app era daemon (AppState.opensRelay client id)) :
    daemon.session.controller = some client := by
  have relay : Routine.sent daemon (AppState.opensRelay client id) =
      daemon.deliveries ++ [⟨client, id, none, daemon.session⟩] := rfl
  generalize AppState.opensRelay client id = program at placed relay
  cases placed with
  | copies copies =>
      rw [copies.sent] at relay
      simp at relay
  | seeks seeks =>
      rw [seeks.sent] at relay
      simp at relay
  | attends subscriber attends =>
      rcases subscriber with ⟨other, number, turns, stage⟩
      cases stage with
      | subscribing | greeting position | receiving position =>
          have silent : daemon.deliveries =
              daemon.deliveries ++ [⟨client, id, none, daemon.session⟩] := relay
          simp at silent
      | sending event next =>
          have different := List.append_cancel_left relay
          cases different
  | relays other number control =>
      have same := List.append_cancel_left relay
      injection same with same
      injection same with same
      rw [← same]
      exact control

/-! ## The steps of an event socket -/

/-- The socket skips no event that would close it when it looks for the next one. -/
def KeepsUp (app : AppState) (daemon : Daemon) (program : Routine Response) : Prop :=
  ∀ client id turns position, program = app.receives client id turns position →
    ∀ event ∈ (daemon.events.drop position).take
      (daemon.events.length - app.eventCapacity - position), ¬ event.Closes

section Subscriber

variable {app : AppState} {era client id : Uuid} {daemon : Daemon} {turns : List Turn}
  {position : Nat}

/-- The socket subscribes. -/
theorem placed_of_subscribing (same : client = era) :
    Placed app era daemon (app.greets client id turns daemon.events.length) := by
  subst same
  exact .attends ⟨client, id, turns, .greeting daemon.events.length⟩
    (.greeting rfl fun _ _ => .subscribed daemon.events)

/-- The socket takes its first snapshot. -/
theorem placed_of_greeting (same : client = era) (reigns : Reigns era daemon)
    (waits : ∀ rest, Turn.remaining turns = some rest →
      Waits era daemon.events client position) :
    Placed app era daemon (app.sends client id turns
      { event := "session.snapshot", publishedAt := daemon.utc
        session := daemon.session.snapshot, controller := daemon.session.controller }
      (some position)) := by
  subst same
  refine .attends ⟨client, id, turns, .sending _ (some position)⟩ (.sending reigns ?_)
  rintro _ rest ⟨⟩ remaining
  exact waits rest remaining

/-- The socket looks for an event. -/
theorem placed_of_receiving (waits : Waits era daemon.events client position)
    (keepsUp : KeepsUp app daemon (app.receives client id turns position)) :
    Placed app era daemon (do
      app.turn client id turns position (daemon.receive app.eventCapacity position)
      return .unit (.ok ())) := by
  rcases daemon.receive_cases app.eventCapacity position with
    pending | ⟨forward, lagged⟩ | ⟨event, next, found⟩
  · rw [pending]
    exact .loop fun _ _ => waits
  · rw [lagged]
    exact .loop fun _ _ => waits.lagged forward (keepsUp client id turns position rfl)
  · rw [found, AppState.turn_event]
    rcases waits.read next with ⟨meant, later⟩
    refine .attends ⟨client, id, turns, .sending event _⟩ (.sending meant ?_)
    intro position' rest goesOn _
    split at goesOn
    · cases goesOn
    · rename_i stays
      cases goesOn
      exact later stays

/-- The socket has sent an event. -/
theorem placed_of_sending {next : Option Nat}
    (waits : ∀ position rest, next = some position → Turn.remaining turns = some rest →
      Waits era daemon.events client position) :
    Placed app era daemon (app.goesOn client id turns next) := by
  cases next with
  | none => exact .copies trivial
  | some position => exact .loop fun rest remaining => waits position rest rfl remaining

end Subscriber

/-! ## The steps of a task -/

/-- What a step of a task leaves. -/
structure TaskStep (app : AppState) (era : Uuid) (before : Daemon) (program : Routine Response)
    (after : Daemon) (rest : Routine Response) : Prop where
  placed : Placed app era after rest
  isolated : Isolated after
  events : after.events = before.events ∨ ∃ event data,
    after = EventBus.publish event data before ∧ Publishes program data

section Task

variable {app : AppState} {era : Uuid} {daemon : Daemon} {W O : Type}
  {answer : Answer Call Call.Reply W O} {outcome : Option O} {state : W}
  {program : Routine Response} {after : Routine Response × Daemon × W}

/-- A program that publishes copies only takes a step. -/
theorem Copies.advance (copies : Copies program)
    (advanced : program.advance answer outcome daemon state = some after) :
    Copies after.1 ∧ UpToDate after.2.1 after.1 ∧
      (Mute daemon after.2.1 ∨ ∃ event data,
        after.2.1 = EventBus.publish event data daemon ∧ Publishes program data) := by
  cases program with
  | done result => cases advanced
  | access awaits update next =>
      cases advanced
      rcases copies with ⟨event, data, rfl, rfl, later⟩ | sections
      · exact ⟨(later daemon).2, (later daemon).1.upToDate _,
          Or.inr ⟨event, data, rfl, event, next, rfl⟩⟩
      · rcases sections daemon with ⟨mute, current, later⟩
        exact ⟨later, current, Or.inl mute⟩
  | call awaits request next =>
      rcases Option.bind_eq_some_iff.mp advanced with ⟨chosen, _, replied⟩
      rcases Option.map_eq_some_iff.mp replied with ⟨answered, _, rfl⟩
      exact ⟨(copies answered.1).2, (copies answered.1).1.upToDate _, Or.inl (.refl daemon)⟩

theorem Copies.taskStep (copies : Copies program) (isolated : Isolated daemon)
    (advanced : program.advance answer outcome daemon state = some after) :
    TaskStep app era daemon program after.2.1 after.1 := by
  rcases copies.advance advanced with ⟨later, _, mute | ⟨event, data, published, publishes⟩⟩
  · exact ⟨.copies later, isolated.of_deliveries mute.deliveries, Or.inl mute.events⟩
  · have deliveries : after.2.1.deliveries = daemon.deliveries := by
      rw [published]
      rfl
    exact ⟨.copies later, isolated.of_deliveries deliveries,
      Or.inr ⟨event, data, published, publishes⟩⟩

theorem Seeks.taskStep (seeks : Seeks app program) (isolated : Isolated daemon)
    (reigns : Reigns era after.2.1)
    (advanced : program.advance answer outcome daemon state = some after) :
    TaskStep app era daemon program after.2.1 after.1 := by
  cases program with
  | done result => cases advanced
  | access awaits update next =>
      cases advanced
      rcases seeks daemon with ⟨mute, later | admitted⟩
      · exact ⟨.seeks later, isolated.of_deliveries mute.deliveries, Or.inl mute.events⟩
      · exact ⟨.admitted reigns admitted, isolated.of_deliveries mute.deliveries,
          Or.inl mute.events⟩
  | call awaits request next =>
      rcases Option.bind_eq_some_iff.mp advanced with ⟨chosen, _, replied⟩
      rcases Option.map_eq_some_iff.mp replied with ⟨answered, _, rfl⟩
      exact ⟨.seeks (seeks answered.1), isolated, Or.inl rfl⟩

theorem Subscriber.Attends.taskStep {subscriber : Subscriber}
    (attends : subscriber.Attends era daemon.events) (isolated : Isolated daemon)
    (reigns : Reigns era daemon) (keepsUp : KeepsUp app daemon (subscriber.program app))
    (advanced : (subscriber.program app).advance answer outcome daemon state = some after) :
    TaskStep app era daemon (subscriber.program app) after.2.1 after.1 := by
  rcases subscriber with ⟨client, id, turns, stage⟩
  cases stage with
  | subscribing =>
      have same : client = era := attends.greeted.resolve_left False.elim
      cases advanced
      exact ⟨placed_of_subscribing same, isolated, Or.inl rfl⟩
  | greeting position =>
      have same : client = era := attends.greeted.resolve_left False.elim
      cases advanced
      refine ⟨placed_of_greeting same reigns fun rest remaining => ?_, isolated, Or.inl rfl⟩
      exact attends.waits position (by simp [Subscriber.position, remaining])
  | sending event next =>
      have meant := attends.sends event next rfl
      cases advanced
      refine ⟨placed_of_sending fun position rest goesOn remaining => ?_, ?_, Or.inl rfl⟩
      · exact attends.waits position (by simp [Subscriber.position, goesOn, remaining])
      · apply isolated.deliver
        · rintro _ ⟨⟩
          exact meant
        · exact nofun
  | receiving position =>
      have waits := attends.waits position rfl
      have looks : Subscriber.program app ⟨client, id, turns, .receiving position⟩ =
          app.receives client id turns position := rfl
      rw [looks] at keepsUp advanced ⊢
      rw [AppState.receives_eq] at advanced
      cases advanced
      exact ⟨placed_of_receiving waits keepsUp, isolated, Or.inl rfl⟩

theorem relay_taskStep {client id : Uuid} (isolated : Isolated daemon)
    (control : daemon.session.controller = some client)
    (advanced : (AppState.opensRelay client id).advance answer outcome daemon state =
      some after) :
    TaskStep app era daemon (AppState.opensRelay client id) after.2.1 after.1 := by
  cases advanced
  refine ⟨.copies trivial, ?_, Or.inl rfl⟩
  apply isolated.deliver
  · intro event impossible
    cases impossible
  · exact fun _ => control

theorem Placed.taskStep (placed : Placed app era daemon program) (isolated : Isolated daemon)
    (reigns : Reigns era daemon) (reigns' : Reigns era after.2.1)
    (keepsUp : KeepsUp app daemon program)
    (advanced : program.advance answer outcome daemon state = some after) :
    TaskStep app era daemon program after.2.1 after.1 := by
  cases placed with
  | copies copies => exact copies.taskStep isolated advanced
  | seeks seeks => exact seeks.taskStep isolated reigns' advanced
  | attends subscriber attends => exact attends.taskStep isolated reigns keepsUp advanced
  | relays client id control => exact relay_taskStep isolated control advanced

end Task

/-! ## What a run has to avoid -/

def TakesLease (client : Uuid) (before after : Daemon) : Prop :=
  after.session.controller = some client ∧ before.session.controller ≠ some client

def LosesLease (client : Uuid) (before after : Daemon) : Prop :=
  before.session.controller = some client ∧ after.session.controller ≠ some client

section Runs

variable {app : AppState} {W O N : Type} {answer : Answer Call Call.Reply W O}
  {world : N → Daemon → W → Option W}

/-- The steps that leave the sockets to their clients. -/
structure Orderly (app : AppState) (answer : Answer Call Call.Reply W O)
    (world : N → Daemon → W → Option W) (config : Config Daemon Call Call.Reply Response W)
    (label : Pool.Label Lifecycle Request (Environment N) O) : Prop where
  /-- A client that takes the lease finds no event socket of another client, except
  those that have taken their first snapshot and are bound to close. -/
  handover : ∀ config' client, (app.service answer world).step config label = some config' →
    TakesLease client config.memory config'.memory →
    ∀ subscriber : Subscriber, subscriber.program app ∈ config.tasks →
      subscriber.client = client ∨ subscriber.Leaving config.memory.events
  /-- A settings operation publishes its copy to no socket of another client. -/
  settings : ∀ index outcome program data, label = .stepTask index outcome →
    config.tasks[index]? = some program → Publishes program data →
    ∀ subscriber : Subscriber, subscriber.program app ∈ config.tasks →
      ∀ position, subscriber.position = some position →
        ClosesFrom position config.memory.events ∨ data.controller = none ∨
          data.controller = some subscriber.client
  /-- A socket that has fallen behind skips no event that would close it. -/
  overflow : ∀ index outcome program, label = .stepTask index outcome →
    config.tasks[index]? = some program → KeepsUp app config.memory program
  /-- A client that loses the lease has no signaling socket that is authorised and
  still waits for its upstream server. -/
  release : ∀ config' client, (app.service answer world).step config label = some config' →
    LosesLease client config.memory config'.memory →
    ∀ id, AppState.opensRelay client id ∉ config.tasks

/-- Where the tasks stand in an orderly run, in the era of the last client that
took the lease. -/
structure Seated (app : AppState) (era : Uuid) (config : Config Daemon Call Call.Reply Response W) :
    Prop where
  reigns : Reigns era config.memory
  tasks : ∀ program ∈ config.tasks, Placed app era config.memory program
  holder : ∀ program, config.holder = some program →
    Copies program ∧ UpToDate config.memory program
  isolated : Isolated config.memory

namespace Seated

variable {era : Uuid} {config config' : Config Daemon Call Call.Reply Response W}

/-- Nothing happens to the memory. -/
theorem same (seated : Seated app era config) (memory : config'.memory = config.memory)
    (tasks : ∀ program ∈ config'.tasks, program ∈ config.tasks ∨
      ∃ request, program = app.request request)
    (holder : ∀ program, config'.holder = some program → config.holder = some program ∨
      ∃ op, program = app.lifecycle op) : Seated app era config' where
  reigns := by
    rw [memory]
    exact seated.reigns
  tasks program member := by
    rw [memory]
    rcases tasks program member with old | ⟨request, rfl⟩
    · exact seated.tasks program old
    · exact .request request
  holder program running := by
    rw [memory]
    rcases holder program running with old | ⟨op, rfl⟩
    · exact seated.holder program old
    · have candid := lifecycle_candid app op
      exact ⟨candid.2, candid.1.upToDate _⟩
  isolated := by
    rw [memory]
    exact seated.isolated

/-- The operation goes. -/
theorem unheld (seated : Seated app era config) (state : W) :
    Seated app era { config with world := state, holder := none } := by
  refine seated.same rfl (fun _ member => Or.inl member) ?_
  intro _ running
  cases running

/-- The clocks move. -/
theorem clock (seated : Seated app era config) (now : Instant) (utc : DateTime) (state : W) :
    Seated app era { config with
      memory := { config.memory with now := now, utc := utc }, world := state } where
  reigns := seated.reigns
  tasks program member := (seated.tasks program member).kept rfl fun _ _ _ control => control
  holder := seated.holder
  isolated := seated.isolated.of_deliveries rfl

/-- A task takes a step. -/
theorem stepTask {index : Nat} {outcome : Option O} (seated : Seated app era config)
    (framed : config.Framed LifecycleStep RequestStep)
    (orderly : Orderly app answer world config (.stepTask index outcome))
    (step : (app.service answer world).step config (.stepTask index outcome) = some config') :
    Seated app era config' := by
  have lease := (foreign_of_step framed (by trivial) (by exact id) step).session.controller
  rcases Option.bind_eq_some_iff.mp step with ⟨program, running, mapped⟩
  rcases Option.map_eq_some_iff.mp mapped with ⟨after, advanced, rfl⟩
  have reigns : Reigns era after.2.1 := by
    unfold Reigns
    rw [lease]
    exact seated.reigns
  have taken := (seated.tasks program (List.mem_of_getElem? running)).taskStep seated.isolated
    seated.reigns reigns (orderly.overflow index outcome program rfl running) advanced
  have others : ∀ other ∈ config.tasks, Placed app era after.2.1 other := by
    intro other member
    rcases taken.events with same | ⟨event, data, published, publishes⟩
    · exact (seated.tasks other member).kept same fun _ _ _ control => lease.trans control
    · have events : after.2.1.events = (EventBus.publish event data config.memory).events := by
        rw [published]
      apply (seated.tasks other member).published events lease
      rintro subscriber rfl position looks _
      exact orderly.settings index outcome program data rfl running publishes subscriber member
        position looks
  constructor
  · exact reigns
  · intro other member
    rcases List.mem_or_eq_of_mem_set member with old | rfl
    · exact others other old
    · exact taken.placed
  · intro holder holds
    have known := seated.holder holder holds
    exact ⟨known.1, fun data publishes => (known.2 data publishes).trans lease.symm⟩
  · exact taken.isolated

/-- What an operation publishes may be shown to every socket that looks at it. -/
theorem published {program : Routine Response} {event : String} {data : SessionData}
    (seated : Seated app era config) (holds : config.holder = some program)
    (publishes : Publishes program data) {other : Routine Response}
    (member : other ∈ config.tasks) :
    Placed app era (EventBus.publish event data config.memory) other := by
  have current := (seated.holder program holds).2 data publishes
  have events : (EventBus.publish event data config.memory).events = config.memory.events ++
      [{ event, publishedAt := config.memory.utc, session := data.snapshot
         controller := data.controller }] := rfl
  apply (seated.tasks other member).published events rfl
  rintro subscriber rfl position looks waits
  rcases waits.bound with same | closes
  · right
    show data.controller = none ∨ data.controller = some subscriber.client
    rw [current, same]
    exact seated.reigns
  · exact Or.inl closes

/-- Nobody takes the lease. -/
theorem unclaimed (seated : Seated app era config) {after : Daemon}
    (mute : Mute config.memory after)
    (lease : after.session.controller = config.memory.session.controller ∨
      after.session.controller = none)
    (held : ∀ client id, AppState.opensRelay client id ∈ config.tasks →
      config.memory.session.controller = some client → after.session.controller = some client) :
    Reigns era after ∧ ∀ program ∈ config.tasks, Placed app era after program := by
  constructor
  · rcases lease with same | nobody
    · unfold Reigns
      rw [same]
      exact seated.reigns
    · exact Or.inl nobody
  · intro program member
    apply (seated.tasks program member).kept mute.events
    rintro client id rfl
    exact held client id member

/-- The operation takes a step. -/
theorem step {outcome : Option O} (seated : Seated app era config)
    (orderly : Orderly app answer world config (.step outcome))
    (step : (app.service answer world).step config (.step outcome) = some config') :
    ∃ era', Seated app era' config' := by
  have handover := orderly.handover config'
  have release := orderly.release config'
  rcases Option.bind_eq_some_iff.mp step with ⟨program, running, mapped⟩
  rcases Option.map_eq_some_iff.mp mapped with ⟨after, advanced, rfl⟩
  rcases (seated.holder program running).1.advance advanced with ⟨later, current, effect⟩
  have holder : ∀ rest, some after.1 = some rest → Copies rest ∧ UpToDate after.2.1 rest := by
    rintro rest ⟨⟩
    exact ⟨later, current⟩
  rcases effect with mute | ⟨event, data, published, publishes⟩
  · have isolated := seated.isolated.of_deliveries mute.deliveries
    have held : ∀ client id, AppState.opensRelay client id ∈ config.tasks →
        config.memory.session.controller = some client →
          after.2.1.session.controller = some client := by
      intro client id member control
      by_contra lost
      exact release client step ⟨control, lost⟩ id member
    cases lease : after.2.1.session.controller with
    | none =>
        have kept := seated.unclaimed mute (Or.inr lease) held
        exact ⟨era, kept.1, kept.2, holder, isolated⟩
    | some client =>
        by_cases taken : config.memory.session.controller = some client
        · have kept := seated.unclaimed mute (Or.inl (lease.trans taken.symm)) held
          exact ⟨era, kept.1, kept.2, holder, isolated⟩
        · have leaving := handover client step ⟨lease, taken⟩
          refine ⟨client, Or.inr lease, fun program member => ?_, holder, isolated⟩
          have next : Placed app client config.memory program :=
            (seated.tasks program member).handover fun subscriber same =>
              leaving subscriber (same ▸ member)
          apply next.kept mute.events
          rintro other id rfl
          exact held other id member
  · have same : after.2.1.session = config.memory.session := by rw [published]; rfl
    refine ⟨era, ?_, ?_, holder, ?_⟩
    · unfold Reigns
      show after.2.1.session.controller = none ∨ _
      rw [same]
      exact seated.reigns
    · show ∀ program ∈ config.tasks, Placed app era after.2.1 program
      rw [published]
      exact fun program member => seated.published running publishes member
    · show Isolated after.2.1
      rw [published]
      exact seated.isolated.of_deliveries rfl

/-- Every orderly step leaves every task in its place. -/
theorem next {label : Pool.Label Lifecycle Request (Environment N) O}
    (seated : Seated app era config) (framed : config.Framed LifecycleStep RequestStep)
    (orderly : Orderly app answer world config label)
    (step : (app.service answer world).step config label = some config') :
    ∃ era', Seated app era' config' := by
  cases label with
  | step outcome => exact seated.step orderly step
  | stepTask index outcome => exact ⟨era, seated.stepTask framed orderly step⟩
  | start op =>
      simp only [Pool.step] at step
      split at step
      · cases step
        refine ⟨era, seated.same rfl (fun _ member => Or.inl member) ?_⟩
        rintro _ ⟨⟩
        exact Or.inr ⟨op, rfl⟩
      · cases step
  | drop outcome =>
      rcases Option.bind_eq_some_iff.mp step with ⟨_, _, mapped⟩
      rcases Option.map_eq_some_iff.mp mapped with ⟨_, _, rfl⟩
      exact ⟨era, seated.unheld _⟩
  | finish =>
      simp only [Pool.step] at step
      split at step
      · cases step
        exact ⟨era, seated.unheld _⟩
      · cases step
  | spawn task =>
      cases step
      refine ⟨era, seated.same rfl (fun program member => ?_) fun _ running => Or.inl running⟩
      refine (List.mem_append.mp member).imp_right fun new => ⟨task, ?_⟩
      exact List.mem_singleton.mp new
  | dropTask index outcome =>
      rcases Option.bind_eq_some_iff.mp step with ⟨_, _, mapped⟩
      rcases Option.map_eq_some_iff.mp mapped with ⟨_, _, rfl⟩
      exact ⟨era, seated.same rfl
        (fun program member => Or.inl (List.mem_of_mem_eraseIdx member))
        fun _ running => Or.inl running⟩
  | noise event =>
      rcases Option.map_eq_some_iff.mp step with ⟨after, changed, rfl⟩
      cases event with
      | elapse duration | setClock utc =>
          cases changed
          exact ⟨era, seated.clock _ _ _⟩
      | world event =>
          rcases Option.map_eq_some_iff.mp changed with ⟨_, _, rfl⟩
          exact ⟨era, seated.clock _ _ _⟩

end Seated

/-- In an orderly run no event socket shows a session of another client, and a
signaling socket that has been authorised for a client opens its relay while
that client still holds the lease. -/
theorem isolated_of_orderly {daemon : Daemon} {state : W}
    {config : Config Daemon Call Call.Reply Response W} (booted : app.Booted daemon)
    (reaches : ReachableUnder (app.service answer world).step (Orderly app answer world)
      (.idle daemon state) config) :
    Isolated config.memory ∧ ∀ client id, AppState.opensRelay client id ∈ config.tasks →
      config.memory.session.controller = some client := by
  have start : Seated app 0 (.idle daemon state) := by
    constructor
    · left
      show daemon.session.controller = none
      rw [booted.session]
      rfl
    · exact fun _ member => absurd member List.not_mem_nil
    · exact fun _ running => by cases running
    · constructor
      · show ∀ delivery ∈ daemon.deliveries, _
        rw [booted.deliveries]
        exact fun _ member => absurd member List.not_mem_nil
      · show ∀ delivery ∈ daemon.deliveries, _
        rw [booted.deliveries]
        exact fun _ member => absurd member List.not_mem_nil
  have reached : (∃ era, Seated app era config) ∧ config.Framed LifecycleStep RequestStep := by
    apply reaches.invariant ⟨⟨0, start⟩, .idle daemon state⟩
    rintro config label config' ⟨⟨era, seated⟩, framed⟩ orderly step
    have bounded := (service_framed app answer world).step framed step
    exact ⟨seated.next framed orderly step, bounded.1⟩
  rcases reached.1 with ⟨era, seated⟩
  exact ⟨seated.isolated, fun client id member => (seated.tasks _ member).control⟩

end Runs

/-! ## Sockets that finish in time, and sockets that do not -/

theorem Subscriber.not_isDone (app : AppState) (subscriber : Subscriber) :
    (subscriber.program app).isDone = false := by
  rcases subscriber with ⟨client, id, turns, stage⟩
  cases stage <;> rfl

theorem Subscriber.silent (app : AppState) (subscriber : Subscriber) :
    Silent (subscriber.program app) := by
  rcases subscriber with ⟨client, id, turns, stage⟩
  cases stage with
  | subscribing => exact .of_events fun _ => rfl
  | greeting position => exact .awaited
  | sending event next => exact .of_events fun _ => rfl
  | receiving position => exact .of_events fun _ => rfl

namespace Sample

/-- The message that presents the ticket of a draw. -/
def presents (draw : Nat) : FirstMessage :=
  .text 100 (some ⟨"authenticate", Encoding.urlSafeNoPad (bytes draw)⟩)

def taskSteps (index count : Nat) : List (ServiceLabel Unit Empty) :=
  List.replicate count (.stepTask index none)

def operationSteps (count : Nat) : List (ServiceLabel Unit Empty) :=
  List.replicate count (.step (some ()))

/-- The first client starts a session and gets a ticket for each kind of socket. -/
def holdsTickets : List (ServiceLabel Unit Empty) :=
  openSession () 8 ++ [.finish, .spawn (.issueTicket ⟨0, 1⟩ .events)] ++ taskSteps 1 1 ++
    [.spawn (.issueTicket ⟨0, 1⟩ .signaling)] ++ taskSteps 2 1

/-- The second client pairs and takes the lease. -/
def secondStarts : List (ServiceLabel Unit Empty) :=
  [.finish, .spawn (.exchangePairing (Encoding.urlSafeNoPad (bytes 5)))] ++ taskSteps 5 1 ++
    [.start (.startSession ⟨2, 2⟩ (url "example.org"))] ++ operationSteps 2

/-- Both sockets are authorised before the session is burned, and go on when the
second client has started one. -/
def lateSockets : List (ServiceLabel Unit Empty) :=
  holdsTickets ++ [.spawn (.eventSocket 1 (presents 3) []),
    .spawn (.signalSocket 1 (presents 4) (.ok ()))] ++ taskSteps 3 4 ++ taskSteps 4 4 ++
    [.start (.burnControllerSession ⟨0, 1⟩ 1)] ++ operationSteps 14 ++ secondStarts ++
    taskSteps 3 3 ++ taskSteps 4 1

/-- The relay is opened before the session is burned, and the event socket reads
that it is burning. -/
def promptSockets : List (ServiceLabel Unit Empty) :=
  holdsTickets ++ [.spawn (.signalSocket 1 (presents 4) (.ok ()))] ++ taskSteps 3 5 ++
    [.spawn (.eventSocket 1 (presents 3) [.event, .event])] ++ taskSteps 4 7 ++
    [.start (.burnControllerSession ⟨0, 1⟩ 1)] ++ operationSteps 6 ++ taskSteps 4 2 ++
    operationSteps 8 ++ secondStarts

/-- The lease changes hands while no task is under way, and a task takes a step
while no other is. -/
def changesAlone (config : Config Daemon Call Call.Reply Response Unit)
    (label : ServiceLabel Unit Empty) : Bool :=
  ((app.service willing AppState.still).step config label).all (fun after =>
    after.memory.session.controller = config.memory.session.controller ∨
      config.tasks.all Program.isDone) &&
  match label with
  | .stepTask index _ => (config.tasks.eraseIdx index).all Program.isDone &&
      decide (config.memory.events.length ≤ app.eventCapacity)
  | _ => true

theorem orderly_of_changesAlone (config : Config Daemon Call Call.Reply Response Unit)
    (label : ServiceLabel Unit Empty) (alone : changesAlone config label = true) :
    Orderly app willing AppState.still config label := by
  rcases (Bool.and_eq_true _ _).mp alone with ⟨changes, steps⟩
  have idle : ∀ config', (app.service willing AppState.still).step config label = some config' →
      config'.memory.session.controller ≠ config.memory.session.controller →
        ∀ program ∈ config.tasks, program.isDone = true := by
    intro config' step different
    rw [step] at changes
    exact List.all_eq_true.mp ((of_decide_eq_true changes).resolve_left different)
  have others : ∀ index outcome program, label = .stepTask index outcome →
      config.tasks[index]? = some program → ∀ subscriber : Subscriber,
        subscriber.program app ∈ config.tasks → subscriber.program app = program := by
    rintro index outcome program rfl running subscriber member
    have rest := ((Bool.and_eq_true _ _).mp steps).1
    rcases eq_or_mem_eraseIdx running member with same | other
    · exact same
    · have ended := List.all_eq_true.mp rest _ other
      rw [subscriber.not_isDone] at ended
      cases ended
  constructor
  · intro config' client step ⟨takes, held⟩ subscriber member
    have ended := idle config' step (by rw [takes]; exact Ne.symm held) _ member
    rw [subscriber.not_isDone] at ended
    cases ended
  · intro index outcome program data stepped running publishes subscriber member
    have same := others index outcome program stepped running subscriber member
    rw [← same] at publishes
    exact absurd publishes (subscriber.silent app data)
  · rintro index outcome program rfl running client id turns position _
    have few : config.memory.events.length ≤ app.eventCapacity :=
      of_decide_eq_true ((Bool.and_eq_true _ _).mp steps).2
    rw [Nat.sub_eq_zero_of_le few, Nat.zero_sub, List.take_zero]
    exact fun _ member => absurd member List.not_mem_nil
  · intro config' client step ⟨held, loses⟩ id member
    have ended := idle config' step (by rw [held]; exact loses) _ member
    cases ended

end Sample

/-- Sockets that have finished by the time another client takes the lease. -/
theorem isolated_of_promptSockets :
    ∃ config : Config Daemon Call Call.Reply Response Unit,
      config.memory.session.controller = some 2 ∧ config.memory.deliveries.length = 3 ∧
        Isolated config.memory := by
  have executed : ((run (guarded (Sample.app.service Sample.willing AppState.still).step
      Sample.changesAlone) (.idle Sample.daemon ()) Sample.promptSockets).map fun config =>
        (config.memory.session.controller, config.memory.deliveries.length)) =
      some (some 2, 3) := by
    decide +kernel
  rcases Option.map_eq_some_iff.mp executed with ⟨config, reached, values⟩
  rcases Prod.mk.inj values with ⟨controller, deliveries⟩
  exact ⟨config, controller, deliveries, (isolated_of_orderly Sample.daemon_booted
    (reachableUnder_of_run Sample.orderly_of_changesAlone reached)).1⟩

/-- Two sockets that were authorised for the first client.  One shows it the
session of the second client, the other opens a relay when the session of the
first has been burned. -/
theorem not_isolated_of_lateSockets :
    ∃ config : Config Daemon Call Call.Reply Response Unit,
      (Sample.app.service Sample.willing AppState.still).Reaches (.idle Sample.daemon ()) config ∧
      (∃ delivery ∈ config.memory.deliveries, delivery.client = 0 ∧ delivery.sessionId = 1 ∧
        ∃ event, delivery.content = some event ∧ event.controller = some 2) ∧
      (∃ delivery ∈ config.memory.deliveries, delivery.client = 0 ∧ delivery.sessionId = 1 ∧
        delivery.content = none ∧ delivery.current.controller = some 2 ∧
        delivery.current.snapshot.id = some 3) ∧
      ¬ Isolated config.memory := by
  have executed : ((run (Sample.app.service Sample.willing AppState.still).step
      (.idle Sample.daemon ()) Sample.lateSockets).map fun config =>
        (config.memory.deliveries.any fun delivery => delivery.client = 0 ∧
          delivery.sessionId = 1 ∧ delivery.content.any fun event => event.controller = some 2,
        config.memory.deliveries.any fun delivery => delivery.client = 0 ∧
          delivery.sessionId = 1 ∧ delivery.content = none ∧
          delivery.current.controller = some 2 ∧ delivery.current.snapshot.id = some 3)) =
      some (true, true) := by
    decide +kernel
  rcases Option.map_eq_some_iff.mp executed with ⟨config, reached, values⟩
  rcases Prod.mk.inj values with ⟨shown, relayed⟩
  rcases List.any_eq_true.mp shown with ⟨first, member, shows⟩
  rcases of_decide_eq_true shows with ⟨client, session, other⟩
  rcases Option.any_eq_true _ _ |>.mp other with ⟨event, content, control⟩
  rcases List.any_eq_true.mp relayed with ⟨second, member', opens⟩
  rcases of_decide_eq_true opens with ⟨client', session', relay, control', replaced⟩
  refine ⟨config, reachable_of_run reached,
    ⟨first, member, client, session, event, content, of_decide_eq_true control⟩,
    ⟨second, member', client', session', relay, control', replaced⟩, fun isolated => ?_⟩
  have held := isolated.relayed second member' relay
  rw [control', client'] at held
  cases held

end XanhTab
