import XanhTab.Invariant.Session
import XanhTab.Transition.Simulation

/-!
# The session protocol

The state machine that the daemon publishes of its session.  A session is
started for one client, becomes active, is followed by a successor of the same
client when its egress is switched, and ends in a burn; what fails on the way is
shown as failed.  Every run of the service is a path of this machine, whatever
the backends do and wherever an operation is dropped.

On the machine it is plain that an identifier stands for one stretch of a run
and that a client loses the session by a burn only.
-/

namespace XanhTab

open Program Contract Transition Relation

/-! ## The machine -/

/-- A session with the client that holds it. -/
structure Tenancy where
  session : Uuid
  client : Uuid
  deriving DecidableEq, Repr

/-- The session as the protocol has it, and how many identifiers are taken. -/
structure Occupancy where
  phase : SessionPhase
  tenancy : Option Tenancy
  drawn : Nat
  deriving DecidableEq, Repr

namespace Occupancy

/-- One move of the protocol, where the identifiers are drawn in this order. -/
inductive Move (ids : Nat ↪ Uuid) : Occupancy → Occupancy → Prop
  | enter (before : Occupancy) (number : Nat) (client : Uuid) (drawn : Nat) :
      before.phase = .idle ∨ before.phase = .failed →
      (∀ held, before.tenancy = some held → held.client = client) →
      before.drawn ≤ number → number < drawn →
      Move ids before ⟨.starting, some ⟨ids number, client⟩, drawn⟩
  | activate (tenancy : Tenancy) (drawn : Nat) :
      Move ids ⟨.starting, some tenancy, drawn⟩ ⟨.active, some tenancy, drawn⟩
  | abort (tenancy : Tenancy) (drawn : Nat) :
      Move ids ⟨.starting, some tenancy, drawn⟩ ⟨.failed, some tenancy, drawn⟩
  | tear (phase : SessionPhase) (tenancy : Option Tenancy) (drawn : Nat) : phase ≠ .idle →
      Move ids ⟨phase, tenancy, drawn⟩ ⟨.burning, tenancy, drawn⟩
  | clear (tenancy : Option Tenancy) (drawn : Nat) :
      Move ids ⟨.burning, tenancy, drawn⟩ ⟨.idle, none, drawn⟩
  | jam (tenancy : Option Tenancy) (drawn : Nat) :
      Move ids ⟨.burning, tenancy, drawn⟩ ⟨.failed, none, drawn⟩
  | renew (number successor : Nat) (client : Uuid) (drawn : Nat) :
      number < successor → successor < drawn →
      Move ids ⟨.burning, some ⟨ids number, client⟩, drawn⟩
        ⟨.active, some ⟨ids successor, client⟩, drawn⟩
  | lose (tenancy : Tenancy) (drawn : Nat) :
      Move ids ⟨.burning, some tenancy, drawn⟩ ⟨.failed, some tenancy, drawn⟩
  | draw (phase : SessionPhase) (tenancy : Option Tenancy) (drawn drawn' : Nat) :
      drawn ≤ drawn' → Move ids ⟨phase, tenancy, drawn⟩ ⟨phase, tenancy, drawn'⟩

variable {ids : Nat ↪ Uuid}

/-- The identifier with this number is that of a session of the past. -/
structure Past (ids : Nat ↪ Uuid) (number : Nat) (occupancy : Occupancy) : Prop where
  drawn : number < occupancy.drawn
  later : ∀ held, occupancy.tenancy = some held →
    ∃ later, ids later = held.session ∧ number < later

variable {before after : Occupancy} {tenancy : Tenancy} {number : Nat} {client : Uuid}

/-- A session of the past is not the one that is held. -/
theorem Past.absent {occupancy : Occupancy} (past : Past ids number occupancy) :
    occupancy.tenancy ≠ some ⟨ids number, client⟩ := by
  intro held
  rcases past.later _ held with ⟨later, same, above⟩
  exact Nat.ne_of_gt above (ids.injective same)

theorem Move.past (move : Move ids before after) (past : Past ids number before) :
    Past ids number after := by
  cases move with
  | enter _ fresh client drawn _ _ unused taken =>
      have above := Nat.lt_of_lt_of_le past.drawn unused
      refine ⟨Nat.lt_trans above taken, ?_⟩
      rintro held ⟨⟩
      exact ⟨fresh, rfl, above⟩
  | activate tenancy drawn => exact ⟨past.drawn, past.later⟩
  | abort tenancy drawn => exact ⟨past.drawn, past.later⟩
  | tear phase tenancy drawn _ => exact ⟨past.drawn, past.later⟩
  | clear tenancy drawn => exact ⟨past.drawn, fun _ impossible => nomatch impossible⟩
  | jam tenancy drawn => exact ⟨past.drawn, fun _ impossible => nomatch impossible⟩
  | renew held successor client drawn later _ =>
      refine ⟨past.drawn, ?_⟩
      rcases past.later _ rfl with ⟨current, same, above⟩
      rintro held ⟨⟩
      rw [ids.injective same] at above
      exact ⟨successor, rfl, Nat.lt_trans above later⟩
  | lose tenancy drawn => exact ⟨past.drawn, past.later⟩
  | draw phase tenancy drawn drawn' more =>
      exact ⟨Nat.lt_of_lt_of_le past.drawn more, past.later⟩

/-- A move keeps the session with its client or makes it one of the past. -/
theorem Move.present_or_past (move : Move ids before after)
    (held : before.tenancy = some ⟨ids number, client⟩) (taken : number < before.drawn) :
    (after.tenancy = some ⟨ids number, client⟩ ∧ number < after.drawn) ∨
      Past ids number after := by
  cases move with
  | enter _ fresh _ drawn _ _ unused bound =>
      have above := Nat.lt_of_lt_of_le taken unused
      refine Or.inr ⟨Nat.lt_trans above bound, ?_⟩
      rintro held ⟨⟩
      exact ⟨fresh, rfl, above⟩
  | activate _ drawn => exact Or.inl ⟨held, taken⟩
  | abort _ drawn => exact Or.inl ⟨held, taken⟩
  | tear phase _ drawn _ => exact Or.inl ⟨held, taken⟩
  | clear _ drawn => exact Or.inr ⟨taken, fun _ impossible => nomatch impossible⟩
  | jam _ drawn => exact Or.inr ⟨taken, fun _ impossible => nomatch impossible⟩
  | renew current successor _ drawn later _ =>
      have same : current = number :=
        ids.injective (congrArg Tenancy.session (Option.some.inj held))
      refine Or.inr ⟨taken, ?_⟩
      rintro held ⟨⟩
      exact ⟨successor, rfl, same ▸ later⟩
  | lose _ drawn => exact Or.inl ⟨held, taken⟩
  | draw phase _ drawn drawn' more => exact Or.inl ⟨held, Nat.lt_of_lt_of_le taken more⟩

/-- A move takes the session from its client by ending a burn only. -/
theorem Move.client_or_burned (move : Move ids before after)
    (held : before.tenancy = some tenancy) :
    (∃ successor, after.tenancy = some successor ∧ successor.client = tenancy.client) ∨
      (before.phase = .burning ∧ after.tenancy = none ∧
        (after.phase = .idle ∨ after.phase = .failed)) := by
  cases move with
  | enter _ number client drawn _ same _ _ =>
      exact Or.inl ⟨⟨ids number, client⟩, rfl, (same _ held).symm⟩
  | activate _ drawn => exact Or.inl ⟨tenancy, held, rfl⟩
  | abort _ drawn => exact Or.inl ⟨tenancy, held, rfl⟩
  | tear phase _ drawn _ => exact Or.inl ⟨tenancy, held, rfl⟩
  | clear _ drawn => exact Or.inr ⟨rfl, rfl, Or.inl rfl⟩
  | jam _ drawn => exact Or.inr ⟨rfl, rfl, Or.inr rfl⟩
  | renew number successor client drawn _ _ =>
      obtain rfl := Option.some.inj held
      exact Or.inl ⟨⟨ids successor, client⟩, rfl, rfl⟩
  | lose _ drawn => exact Or.inl ⟨tenancy, held, rfl⟩
  | draw phase _ drawn drawn' _ => exact Or.inl ⟨tenancy, held, rfl⟩

end Occupancy

/-! ## The view of the daemon -/

namespace Daemon

/-- The session with its client, when both are shown. -/
def tenancy (daemon : Daemon) : Option Tenancy :=
  match daemon.session.snapshot.id, daemon.session.controller with
  | some session, some client => some ⟨session, client⟩
  | _, _ => none

def occupancy (daemon : Daemon) : Occupancy :=
  ⟨daemon.session.snapshot.phase, daemon.tenancy, daemon.rng.uuids⟩

variable {daemon daemon' : Daemon}

theorem tenancy_eq_some_iff {session client : Uuid} :
    daemon.tenancy = some ⟨session, client⟩ ↔
      daemon.session.snapshot.id = some session ∧ daemon.session.controller = some client := by
  unfold tenancy
  cases daemon.session.snapshot.id with
  | none => simp
  | some id =>
      cases daemon.session.controller with
      | none => simp
      | some holder => simp

theorem tenancy_congr (id : daemon'.session.snapshot.id = daemon.session.snapshot.id)
    (controller : daemon'.session.controller = daemon.session.controller) :
    daemon'.tenancy = daemon.tenancy := by
  unfold tenancy
  rw [id, controller]

theorem tenancy_of_unheld (unheld : daemon.session.controller = none) : daemon.tenancy = none := by
  unfold tenancy
  rw [unheld]
  cases daemon.session.snapshot.id <;> rfl

theorem tenancy_settings (settings : SettingsStep daemon.session daemon'.session) :
    daemon'.tenancy = daemon.tenancy :=
  tenancy_congr settings.id settings.controller

end Daemon

/-! ## The contract -/

/-- Every step of an operation is a move of the protocol or is not seen. -/
def protocolContract (app : AppState) (ids : Nat ↪ Uuid) (W O : Type) :
    Contract Daemon Call Response W O where
  given daemon _ := daemon.session.WellFormed app.sessions
  always daemon _ := daemon.rng.ids = ids ∧
    ∀ held, daemon.tenancy = some held → daemon.rng.Taken held.session
  rely before _ after _ := SettingsStep before.session after.session ∧
    before.rng.Advances after.rng
  guarantee before _ after _ := after.occupancy = before.occupancy ∨
    before.occupancy.Move ids after.occupancy

namespace protocolContract

variable {app : AppState} {ids : Nat ↪ Uuid} {W O N : Type}
  {answer : Answer Call Call.Reply W O} {world : N → Daemon → W → Option W}

theorem quiet : (protocolContract app ids W O).Quiet where
  rest _ _ _ _ := trivial
  unread _ _ _ _ _ := trivial
  publish _ _ _ _ good _ := ⟨Or.inl rfl, good.2⟩

/-- A property of phase, session and holder that later draws do not disturb. -/
def standing (property : Occupancy → Prop)
    (lasts : ∀ phase tenancy drawn drawn', drawn ≤ drawn' → property ⟨phase, tenancy, drawn⟩ →
      property ⟨phase, tenancy, drawn'⟩) : (protocolContract app ids W O).Assertion where
  holds daemon _ := property daemon.occupancy
  stable := by
    intro daemon _ daemon' _ _ relied _ holds
    have phase := relied.1.phase
    have tenancy := Daemon.tenancy_settings relied.1
    have later := lasts _ _ _ _ relied.2.uuids holds
    unfold Daemon.occupancy
    rw [phase, tenancy]
    exact later

/-- The session is in the phase, held under the tenancy. -/
def held (phase : SessionPhase) (tenancy : Tenancy) : (protocolContract app ids W O).Assertion :=
  standing (fun occupancy => occupancy.phase = phase ∧ occupancy.tenancy = some tenancy)
    fun _ _ _ _ _ holds => holds

/-- The session is in the phase, held by somebody. -/
def occupied (phase : SessionPhase) : (protocolContract app ids W O).Assertion :=
  standing (fun occupancy => occupancy.phase = phase ∧ ∃ tenancy,
    occupancy.tenancy = some tenancy) fun _ _ _ _ _ holds => holds

def burning : (protocolContract app ids W O).Assertion :=
  standing (fun occupancy => occupancy.phase = .burning) fun _ _ _ _ _ holds => holds

/-- A successor has been drawn for a session that is being replaced. -/
def replacing (session : Uuid) : (protocolContract app ids W O).Assertion :=
  standing (fun occupancy => occupancy.phase = .burning ∧
      ∃ number client successor, occupancy.tenancy = some ⟨ids number, client⟩ ∧
        ids successor = session ∧ number < successor ∧ successor < occupancy.drawn)
    fun _ _ _ _ more holds => by
      rcases holds with ⟨phase, number, client, successor, present, named, later, taken⟩
      exact ⟨phase, number, client, successor, present, named, later,
        Nat.lt_of_lt_of_le taken more⟩

/-- A call changes nothing that the contract speaks of. -/
theorem ask {awaits : Bool} {request : Call} {pre : (protocolContract app ids W O).Assertion}
    {post : Call.Reply request → (protocolContract app ids W O).Assertion}
    (holds : ∀ reply daemon state state', pre.holds daemon state →
      (post reply).holds daemon state') :
    (protocolContract app ids W O).Spec answer pre
      (.ask awaits request : Routine (Call.Reply request)) post :=
  Spec.ask quiet.toTotal fun daemon state good satisfied _ reply state' _ _ _ =>
    ⟨Or.inl rfl, good.2, holds reply daemon state state' satisfied⟩

/-- A commit is correct when its update is a move that keeps to what is drawn. -/
theorem commit {event : String} {update : Daemon → SessionData}
    {pre : (protocolContract app ids W O).Assertion}
    (moves : ∀ daemon state, (protocolContract app ids W O).Good daemon state →
      pre.holds daemon state →
      daemon.occupancy.Move ids { daemon with session := update daemon }.occupancy ∧
        ∀ held, { daemon with session := update daemon }.tenancy = some held →
          daemon.rng.Taken held.session) :
    (protocolContract app ids W O).Spec answer pre (SessionManager.commit event update)
      fun _ => .trivial :=
  Spec.commit quiet (fun _ _ _ _ _ _ => trivial) fun daemon state good satisfied _ _ =>
    ⟨Or.inr (moves daemon state good satisfied).1,
      ⟨good.2.1, (moves daemon state good satisfied).2⟩, trivial⟩

/-- An update that sets the phase only. -/
theorem commitPhase {event : String} {update : Daemon → SessionData}
    {phase : SessionPhase} {pre : (protocolContract app ids W O).Assertion}
    (id : ∀ daemon, (update daemon).snapshot.id = daemon.session.snapshot.id)
    (controller : ∀ daemon, (update daemon).controller = daemon.session.controller)
    (target : ∀ daemon, (update daemon).snapshot.phase = phase)
    (moves : ∀ daemon state, pre.holds daemon state →
      daemon.occupancy.Move ids ⟨phase, daemon.tenancy, daemon.rng.uuids⟩) :
    (protocolContract app ids W O).Spec answer pre (SessionManager.commit event update)
      fun _ => .trivial := by
  apply commit
  intro daemon state good satisfied
  have same : { daemon with session := update daemon }.tenancy = daemon.tenancy :=
    Daemon.tenancy_congr (id daemon) (controller daemon)
  have seen : { daemon with session := update daemon }.occupancy =
      ⟨phase, daemon.tenancy, daemon.rng.uuids⟩ := by
    unfold Daemon.occupancy
    rw [same, target]
  rw [seen, same]
  exact ⟨moves daemon state satisfied, good.2.2⟩

/-- An update after which nobody holds the session. -/
theorem commitUnheld {event : String} {update : Daemon → SessionData} {phase : SessionPhase}
    (controller : ∀ daemon, (update daemon).controller = none)
    (target : ∀ daemon, (update daemon).snapshot.phase = phase)
    (moves : ∀ tenancy drawn,
      Occupancy.Move ids ⟨.burning, tenancy, drawn⟩ ⟨phase, none, drawn⟩) :
    (protocolContract app ids W O).Spec answer burning (SessionManager.commit event update)
      fun _ => .trivial := by
  apply commit
  intro daemon state _ satisfied
  have unheld : { daemon with session := update daemon }.tenancy = none :=
    Daemon.tenancy_of_unheld (controller daemon)
  have seen : { daemon with session := update daemon }.occupancy =
      ⟨phase, none, daemon.rng.uuids⟩ := by
    unfold Daemon.occupancy
    rw [unheld, target]
  have start : daemon.occupancy = ⟨.burning, daemon.tenancy, daemon.rng.uuids⟩ := by
    have phase : daemon.session.snapshot.phase = .burning := satisfied
    unfold Daemon.occupancy
    rw [phase]
  rw [seen, unheld, start]
  exact ⟨moves _ _, fun _ impossible => nomatch impossible⟩

/-! ### Outlines -/

def startOutline (client : Uuid) (url : Url) :
    StartOutline (protocolContract app ids W O) answer app.sessions client url .trivial
      fun _ => .trivial where
  starting id _ _ := held .starting ⟨id, client⟩
  launching id _ _ := held .starting ⟨id, client⟩
  launched id _ _ := held .starting ⟨id, client⟩
  stopping := occupied .starting
  resetting := occupied .starting
  clearing := occupied .starting
  failing := occupied .starting
  entry := by
    apply Spec.transactBy quiet.toTotal (beginStart_cases app.sessions client url)
    intro daemon state good _ after outcome _ _
    cases outcome with
    | busy _ _ => exact ⟨Or.inl rfl, good.2, trivial⟩
    | blocked _ => exact ⟨Or.inl rfl, good.2, trivial⟩
    | conflict _ _ _ => exact ⟨Or.inl rfl, good.2, trivial⟩
    | begun phase lease _ =>
        refine ⟨Or.inr ?_, ⟨good.2.1, ?_⟩, rfl, rfl⟩
        · rw [← good.2.1]
          refine Occupancy.Move.enter daemon.occupancy daemon.rng.uuids client _ phase ?_
            (Nat.le_refl _) (Nat.lt_succ_self _)
          rintro ⟨session, holder⟩ present
          have controller := (Daemon.tenancy_eq_some_iff.mp present).2
          rcases lease with free | mine
          · rw [free] at controller
            cases controller
          · exact (Option.some.inj (mine.symm.trans controller)).symm
        · rintro held ⟨⟩
          exact daemon.rng.taken_newUuid
  announce _ _ _ := Spec.publish quiet (fun _ _ => Or.inl rfl) fun _ _ _ _ holds => holds
  apply _ _ _ := Spec.either (ask fun _ _ _ _ holds => holds) (fun _ _ holds => holds)
    fun _ _ holds => ⟨holds.1, _, holds.2⟩
  launch _ _ _ := Spec.either (ask fun _ _ _ _ holds => holds) (fun _ _ holds => holds)
    fun _ _ holds => ⟨holds.1, _, holds.2⟩
  stop := ask fun _ _ _ _ holds => holds
  reset := ask fun _ _ _ _ holds => holds
  clear := ask fun _ _ _ _ holds => holds
  fail _ := commitPhase (fun _ => rfl) (fun _ => rfl) (fun _ => rfl) fun daemon _ holds => by
    rcases holds with ⟨phase, tenancy, present⟩
    unfold Daemon.occupancy at phase present ⊢
    dsimp only at phase present
    rw [phase, present]
    exact .abort tenancy _
  activate id _ _ := commitPhase (fun _ => rfl) (fun _ => rfl) (fun _ => rfl)
    fun daemon _ holds => by
      rcases holds with ⟨phase, present⟩
      unfold Daemon.occupancy at phase present ⊢
      dsimp only at phase present
      rw [phase, present]
      exact .activate ⟨id, client⟩ _

/-- The section that begins a burn or a switch. -/
theorem tears {daemon : Daemon} (busy : daemon.session.snapshot.phase ≠ .idle) :
    daemon.occupancy.Move ids { daemon with session := daemon.session.burning }.occupancy :=
  .tear _ _ _ busy

def burnOutline :
    BurnOutline (protocolContract app ids W O) answer app.sessions .trivial fun _ => .trivial where
  burning := burning
  resetting _ := burning
  clearing _ := burning
  burned _ := burning
  entry := by
    apply Spec.transactBy quiet.toTotal beginBurn_cases
    intro daemon state good _ after outcome _ _
    cases outcome with
    | idle _ => exact ⟨Or.inl rfl, good.2, trivial⟩
    | burning busy => exact ⟨Or.inr (tears busy), good.2, rfl⟩
  announce := Spec.publish quiet (fun _ _ => Or.inl rfl) fun _ _ _ _ holds => holds
  stop := Spec.split (ask fun _ _ _ _ holds => holds)
  reset _ := Spec.split (ask fun _ _ _ _ holds => holds)
  clear _ := Spec.split (ask fun _ _ _ _ holds => holds)
  idle := commitUnheld (fun _ => rfl) (fun _ => rfl) .clear
  fail _ _ _ := commitUnheld (fun _ => rfl) (fun _ => rfl) .jam

def navigateOutline (client : Uuid) (command : NavigationCommand) :
    NavigateOutline (protocolContract app ids W O) answer app.sessions client command .trivial
      fun _ => .trivial where
  navigating := .trivial
  navigated := .trivial
  entry := by
    apply Spec.transactBy quiet.toTotal (beginNavigation_cases app.sessions client command)
    intro daemon state good _ after outcome _ _
    cases outcome with
    | refused _ _ => exact ⟨Or.inl rfl, good.2, trivial⟩
    | blocked _ _ _ _ => exact ⟨Or.inl rfl, good.2, trivial⟩
    | begun _ _ => exact ⟨Or.inl rfl, good.2, trivial⟩
  request := ask fun reply _ _ _ _ => by cases reply <;> trivial
  commit := by
    apply Spec.commit quiet fun _ _ _ _ _ _ => trivial
    intro daemon state good _ _ _
    have phase : (daemon.session.navigated command daemon.utc).snapshot.phase =
        daemon.session.snapshot.phase := by cases command <;> rfl
    have tenancy : { daemon with session := daemon.session.navigated command daemon.utc }.tenancy =
        daemon.tenancy := by cases command <;> rfl
    refine ⟨Or.inl ?_, ⟨good.2.1, ?_⟩, trivial⟩
    · unfold Daemon.occupancy
      rw [tenancy, phase]
    · intro held present
      rw [tenancy] at present
      exact good.2.2 held present

/-- A successor is drawn for a session that is held. -/
theorem occupied_of_replacing {session : Uuid} {daemon : Daemon} {state : W}
    (holds : (replacing session : (protocolContract app ids W O).Assertion).holds daemon state) :
    (occupied .burning : (protocolContract app ids W O).Assertion).holds daemon state := by
  rcases holds with ⟨phase, number, client, successor, present, _⟩
  exact ⟨phase, _, present⟩

def restartOutline (id : Uuid) (url : Url) (profile : StreamProfile) (mode : EgressMode) :
    RestartOutline (protocolContract app ids W O) answer id url profile mode (replacing id)
      (replacing id) (occupied .burning) where
  clearing := replacing id
  applying := replacing id
  launching := replacing id
  reset := Spec.either (ask fun _ _ _ _ holds => holds) (fun _ _ holds => holds)
    fun _ _ holds => occupied_of_replacing holds
  clear := Spec.either (ask fun _ _ _ _ holds => holds) (fun _ _ holds => holds)
    fun _ _ holds => occupied_of_replacing holds
  apply := Spec.either (ask fun _ _ _ _ holds => holds) (fun _ _ holds => holds)
    fun _ _ holds => occupied_of_replacing holds
  launch := Spec.either (ask fun _ _ _ _ holds => holds) (fun _ _ holds => holds)
    fun _ _ holds => occupied_of_replacing holds

/-- The draw of a successor. -/
theorem drawSuccessor :
    (protocolContract app ids W O).Spec answer (occupied .burning)
      (sync Daemon.newUuid : Routine Uuid) replacing := by
  apply Spec.transact quiet.toTotal
  intro daemon state good holds _ _
  rcases holds with ⟨phase, tenancy, present⟩
  have advances := Rng.Advances.newUuid daemon.rng
  rcases good.2.2 tenancy present with ⟨number, below, named⟩
  refine ⟨Or.inr (.draw _ _ _ _ advances.uuids), ⟨good.2.1, ?_⟩, phase, number, tenancy.client,
    daemon.rng.uuids, ?_, ?_, below, Nat.lt_succ_self _⟩
  · exact fun held kept => (good.2.2 held kept).of_advances advances
  · rw [← good.2.1, named]
    exact present
  · rw [← good.2.1]
    rfl

/-- The commit that ends a switch or its rollback. -/
theorem commitSuccessor {event : String} {id : Uuid} {update : Daemon → SessionData}
    (phase : ∀ daemon, (update daemon).snapshot.phase = .active)
    (session : ∀ daemon, (update daemon).snapshot.id = some id)
    (controller : ∀ daemon, (update daemon).controller = daemon.session.controller) :
    (protocolContract app ids W O).Spec answer (replacing id) (SessionManager.commit event update)
      fun _ => .trivial := by
  apply commit
  rintro daemon state good ⟨burns, number, client, successor, present, rfl, later, drawn⟩
  have kept := (Daemon.tenancy_eq_some_iff.mp present).2
  have renewed : { daemon with session := update daemon }.tenancy =
      some ⟨ids successor, client⟩ :=
    Daemon.tenancy_eq_some_iff.mpr ⟨session daemon, (controller daemon).trans kept⟩
  have seen : { daemon with session := update daemon }.occupancy =
      ⟨.active, some ⟨ids successor, client⟩, daemon.rng.uuids⟩ := by
    unfold Daemon.occupancy
    rw [renewed, phase]
  have start : daemon.occupancy =
      ⟨.burning, some ⟨ids number, client⟩, daemon.rng.uuids⟩ := by
    unfold Daemon.occupancy at burns present ⊢
    dsimp only at burns present
    rw [burns, present]
  rw [seen, renewed, start]
  refine ⟨.renew number successor client _ later drawn, ?_⟩
  rintro held ⟨⟩
  exact ⟨successor, drawn, by rw [good.2.1]⟩

def switchOutline (client : Uuid) (mode : EgressMode) :
    SwitchOutline (protocolContract app ids W O) answer client mode .trivial fun _ => .trivial where
  switching _ _ _ := occupied .burning
  stopping id _ _ _ := replacing id
  resetting id _ _ _ := replacing id
  switched id _ _ _ := replacing id
  attempted _ _ _ := occupied .burning
  rollbackStopping id _ _ _ := replacing id
  rollbackResetting id _ _ _ := replacing id
  rolledBack id _ _ _ := replacing id
  lost := occupied .burning
  entry := by
    apply Spec.transactBy quiet.toTotal (beginSwitch_cases client)
    intro daemon state good _ after outcome _ _
    have busy : ensureActiveLease daemon.session client = .ok () →
        daemon.session.snapshot.phase ≠ .idle := by
      intro lease idle
      rw [(ensureActiveLease_eq_ok_iff.mp lease).2] at idle
      cases idle
    cases outcome with
    | refused _ _ => exact ⟨Or.inl rfl, good.2, trivial⟩
    | absent lease _ => exact ⟨Or.inr (tears (busy lease)), good.2, trivial⟩
    | begun url lease _ =>
        have controller := (ensureActiveLease_eq_ok_iff.mp lease).1
        have identified := good.1.identified
        rw [controller] at identified
        rcases Option.isSome_iff_exists.mp identified with ⟨session, shown⟩
        exact ⟨Or.inr (tears (busy lease)), good.2, rfl, ⟨session, client⟩,
          Daemon.tenancy_eq_some_iff.mpr ⟨shown, controller⟩⟩
  announce _ _ _ := Spec.publish quiet (fun _ _ => Or.inl rfl) fun _ _ _ _ holds => holds
  draw _ _ _ := drawSuccessor
  stop _ _ _ _ := Spec.either (ask fun _ _ _ _ holds => holds) (fun _ _ holds => holds)
    fun _ _ holds => occupied_of_replacing holds
  attempt id url profile _ := restartOutline id url profile mode
  commit _ _ _ _ := commitSuccessor (fun _ => rfl) (fun _ => rfl) fun _ => rfl
  redraw _ _ _ := drawSuccessor
  restop _ _ _ _ := ask fun _ _ _ _ holds => holds
  rollback id url profile previous := restartOutline id url profile previous
  commitRollback _ _ _ _ _ := commitSuccessor (fun _ => rfl) (fun _ => rfl) fun _ => rfl
  fail _ := commitPhase (fun _ => rfl) (fun _ => rfl) (fun _ => rfl) fun daemon _ holds => by
    rcases holds with ⟨phase, tenancy, present⟩
    unfold Daemon.occupancy at phase present ⊢
    dsimp only at phase present
    rw [phase, present]
    exact .lose tenancy _

theorem specs : SessionSpecs (protocolContract app ids W O) answer app.sessions .trivial where
  quiet := quiet
  reflexive _ _ := Or.inl rfl
  atRest _ _ := Iff.rfl
  finish _ _ _ := Iff.rfl
  start client url := (startOutline client url).sound
  forceBurn := burnOutline.sound
  navigate client command := (navigateOutline client command).sound
  switchEgress client mode := (switchOutline client mode).sound

theorem blind : Blind (protocolContract app ids W O) answer .trivial where
  auth _ _ _ _ good _ advances _ :=
    ⟨Or.inr (.draw _ _ _ _ advances.uuids), ⟨advances.ids.trans good.2.1,
      fun held present => (good.2.2 held present).of_advances advances⟩, trivial⟩
  pairingFile _ _ _ _ _ _ good _ _ _ _ := ⟨Or.inl rfl, good.2, trivial⟩

theorem interference : Interference (protocolContract app ids W O) world where
  request _ _ _ good step _ _ := by
    refine ⟨⟨step.session, step.auth.advances⟩, step.auth.advances.ids.trans good.2.1,
      fun held present => ?_⟩
    rw [Daemon.tenancy_settings step.session] at present
    exact (good.2.2 held present).of_advances step.auth.advances
  clock _ _ _ _ good _ _ := ⟨⟨.same, .refl _⟩, good.2⟩
  world _ _ _ _ good _ _ := ⟨⟨.same, .refl _⟩, good.2⟩

theorem established : (protocolContract app ids W O).Established (app.service answer world) :=
  specs.established_service blind interference

end protocolContract

/-! ## The simulation -/

section Runs

variable {app : AppState} {W O N : Type} {answer : Answer Call Call.Reply W O}
  {world : N → Daemon → W → Option W} {daemon : Daemon} {state : W}

/-- The service as the protocol sees it. -/
abbrev Config.occupancy (config : Config Daemon Call Call.Reply Response W) : Occupancy :=
  config.memory.occupancy

theorem protocolContract.holds_of_reaches {config : Config Daemon Call Call.Reply Response W}
    (booted : app.Booted daemon)
    (reaches : (app.service answer world).Reaches (.idle daemon state) config) :
    (protocolContract app daemon.rng.ids W O).Holds (app.service answer world).answer config := by
  have free : daemon.tenancy = none := by
    apply Daemon.tenancy_of_unheld
    rw [booted.session]
    rfl
  have initial : (protocolContract app daemon.rng.ids W O).Holds (app.service answer world).answer
      (.idle daemon state) := by
    refine .idle ⟨booted.wellFormed, rfl, fun held present => ?_⟩ trivial
    rw [free] at present
    cases present
  exact protocolContract.established.sound initial
    (fun _ reached => wellFormed_of_reaches booted reached.reachable)
    (Pool.reachesUnder_free _ reaches)

/-- What a step of the service shows of the session. -/
theorem occupancy_of_step {config config' : Config Daemon Call Call.Reply Response W}
    {label : Pool.Label Lifecycle Request (Environment N) O} (booted : app.Booted daemon)
    (reaches : (app.service answer world).Reaches (.idle daemon state) config)
    (step : (app.service answer world).step config label = some config') :
    config'.occupancy = config.occupancy ∨
      config.occupancy.Move daemon.rng.ids config'.occupancy := by
  have holds := protocolContract.holds_of_reaches (O := O) booted reaches
  have reaches' : (app.service answer world).Reaches (.idle daemon state) config' :=
    reaches.tail trivial step
  have moves := (protocolContract.established.kept holds (Assumptions.free_allowed config label)
    (wellFormed_of_reaches booted reaches') step).2
  rcases moves with relied | guaranteed | ⟨same, _⟩
  · refine Or.inr ?_
    have phase := relied.1.phase
    have tenancy := Daemon.tenancy_settings relied.1
    unfold Config.occupancy Daemon.occupancy
    rw [phase, tenancy]
    exact .draw _ _ _ _ relied.2.uuids
  · exact guaranteed
  · unfold Config.occupancy
    rw [same]
    exact Or.inl rfl

/-- What every move of the protocol keeps, every run of the service keeps. -/
theorem occupancy_kept_of_reaches {config config' : Config Daemon Call Call.Reply Response W}
    {Kept : Occupancy → Prop} (booted : app.Booted daemon)
    (kept : ∀ before after : Occupancy, Kept before → before.Move daemon.rng.ids after →
      Kept after)
    (reaches : (app.service answer world).Reaches (.idle daemon state) config)
    (onward : (app.service answer world).Reaches config config')
    (holds : Kept config.occupancy) : Kept config'.occupancy := by
  have simulates : Simulates (app.service answer world).step (fun _ _ => True)
      (.idle daemon state) Config.occupancy (Occupancy.Move daemon.rng.ids) :=
    fun _ _ _ reached _ step => occupancy_of_step booted reached step
  exact simulates.keeps kept reaches onward holds

/-- Every step of every run of the service is a move of the session protocol or
is not seen of the session. -/
theorem protocol_simulates_service (booted : app.Booted daemon) :
    Simulates (app.service answer world).step (fun _ _ => True) (.idle daemon state)
      Config.occupancy (Occupancy.Move daemon.rng.ids) := by
  intro config label config' reaches _ step
  exact occupancy_of_step booted reaches step

/-- The protocol simulates the sample deployment. -/
theorem protocol_simulates_sample :
    Simulates (Sample.app.service Sample.told AppState.still).step (fun _ _ => True)
      (.idle Sample.daemon ()) Config.occupancy (Occupancy.Move Sample.daemon.rng.ids) :=
  protocol_simulates_service Sample.daemon_booted

/-- A session that is shown has a client, and its identifier has been drawn. -/
theorem tenancy_of_reaches {config : Config Daemon Call Call.Reply Response W} {session : Uuid}
    (booted : app.Booted daemon)
    (reaches : (app.service answer world).Reaches (.idle daemon state) config)
    (shown : config.memory.session.snapshot.id = some session) :
    ∃ client number, config.memory.session.controller = some client ∧
      daemon.rng.ids number = session ∧
      config.occupancy.tenancy = some ⟨daemon.rng.ids number, client⟩ ∧
      number < config.occupancy.drawn := by
  have identified := (wellFormed_of_reaches booted reaches).identified
  rw [shown] at identified
  rcases Option.isSome_iff_exists.mp identified.symm with ⟨client, holder⟩
  have present := Daemon.tenancy_eq_some_iff.mpr ⟨shown, holder⟩
  have good := (protocolContract.holds_of_reaches (O := O) booted reaches).good.2
  rcases good.2 _ present with ⟨number, taken, named⟩
  rw [good.1] at named
  exact ⟨client, number, holder, named, named ▸ present, taken⟩

/-- Once a session is one of the past it stays so. -/
theorem past_of_reaches {config config' : Config Daemon Call Call.Reply Response W}
    {number : Nat} (booted : app.Booted daemon)
    (reaches : (app.service answer world).Reaches (.idle daemon state) config)
    (onward : (app.service answer world).Reaches config config')
    (past : Occupancy.Past daemon.rng.ids number config.occupancy) :
    Occupancy.Past daemon.rng.ids number config'.occupancy :=
  occupancy_kept_of_reaches booted (fun _ _ past move => move.past past) reaches onward past

/-- From a session on, a run keeps it with its client or leaves it for good. -/
theorem present_or_past_of_reaches {config config' : Config Daemon Call Call.Reply Response W}
    {number : Nat} {client : Uuid} (booted : app.Booted daemon)
    (reaches : (app.service answer world).Reaches (.idle daemon state) config)
    (onward : (app.service answer world).Reaches config config')
    (present : config.occupancy.tenancy = some ⟨daemon.rng.ids number, client⟩)
    (taken : number < config.occupancy.drawn) :
    (config'.occupancy.tenancy = some ⟨daemon.rng.ids number, client⟩ ∧
        number < config'.occupancy.drawn) ∨
      Occupancy.Past daemon.rng.ids number config'.occupancy := by
  have kept : ∀ before after : Occupancy,
      ((before.tenancy = some ⟨daemon.rng.ids number, client⟩ ∧ number < before.drawn) ∨
        Occupancy.Past daemon.rng.ids number before) → before.Move daemon.rng.ids after →
      ((after.tenancy = some ⟨daemon.rng.ids number, client⟩ ∧ number < after.drawn) ∨
        Occupancy.Past daemon.rng.ids number after) := by
    rintro before after (⟨held, bound⟩ | past) move
    · exact move.present_or_past held bound
    · exact Or.inr (move.past past)
  exact occupancy_kept_of_reaches booted kept reaches onward (Or.inl ⟨present, taken⟩)

/-- An identifier stands for one stretch of a run: between two states that show
the same session every state shows it, held by the same client. -/
theorem session_interval_of_reaches {first middle last : Config Daemon Call Call.Reply Response W}
    {session : Uuid} (booted : app.Booted daemon)
    (reaches : (app.service answer world).Reaches (.idle daemon state) first)
    (between : (app.service answer world).Reaches first middle)
    (onward : (app.service answer world).Reaches middle last)
    (shown : first.memory.session.snapshot.id = some session)
    (again : last.memory.session.snapshot.id = some session) :
    middle.memory.session.snapshot.id = some session ∧
      middle.memory.session.controller = first.memory.session.controller ∧
      last.memory.session.controller = first.memory.session.controller := by
  rcases tenancy_of_reaches booted reaches shown with
    ⟨client, number, holder, named, present, taken⟩
  have reached := reaches.trans between
  rcases tenancy_of_reaches booted (reached.trans onward) again with
    ⟨client', number', _, named', still, _⟩
  obtain rfl : number' = number := daemon.rng.ids.injective (named'.trans named.symm)
  have here : middle.occupancy.tenancy = some ⟨daemon.rng.ids number', client⟩ := by
    rcases present_or_past_of_reaches booted reaches between present taken with stays | past
    · exact stays.1
    · exact absurd still (past_of_reaches booted reached onward past).absent
  have there : last.occupancy.tenancy = some ⟨daemon.rng.ids number', client⟩ := by
    rcases present_or_past_of_reaches booted reaches (between.trans onward) present taken with
      stays | past
    · exact stays.1
    · exact absurd still past.absent
  have shown' := Daemon.tenancy_eq_some_iff.mp here
  have shown'' := Daemon.tenancy_eq_some_iff.mp there
  exact ⟨named ▸ shown'.1, shown'.2.trans holder.symm, shown''.2.trans holder.symm⟩

/-- The session passes from one client to another through the end of a burn
only, after which nobody holds it. -/
theorem burned_of_handover {first last : Config Daemon Call Call.Reply Response W}
    {client other : Uuid} (booted : app.Booted daemon)
    (reaches : (app.service answer world).Reaches (.idle daemon state) first)
    (onward : (app.service answer world).Reaches first last)
    (held : first.memory.session.controller = some client)
    (passed : last.memory.session.controller = some other) (different : other ≠ client) :
    ∃ before label after, (app.service answer world).Reaches first before ∧
      (app.service answer world).step before label = some after ∧
      (app.service answer world).Reaches after last ∧
      before.memory.session.controller = some client ∧
      before.memory.session.snapshot.phase = .burning ∧
      after.memory.session.controller = none ∧
      (after.memory.session.snapshot.phase = .idle ∨
        after.memory.session.snapshot.phase = .failed) := by
  have gone : ¬ last.memory.session.controller = some client :=
    fun kept => different (Option.some.inj (passed.symm.trans kept))
  have left : ∃ before label after, (app.service answer world).Reaches first before ∧ True ∧
      (app.service answer world).step before label = some after ∧
      (app.service answer world).Reaches after last ∧
      before.memory.session.controller = some client ∧
      ¬ after.memory.session.controller = some client :=
    ReachableUnder.leaves onward held gone
  rcases left with ⟨before, label, after, reached, _, step, rest, holds, lost⟩
  have reached' := reaches.trans reached
  have formed := wellFormed_of_reaches booted reached'
  have formed' := wellFormed_of_reaches booted (reached'.tail trivial step)
  have shown := formed.identified
  rw [holds] at shown
  rcases Option.isSome_iff_exists.mp shown with ⟨session, shown⟩
  have present := Daemon.tenancy_eq_some_iff.mpr ⟨shown, holds⟩
  have burned : before.occupancy.phase = .burning ∧ after.occupancy.tenancy = none ∧
      (after.occupancy.phase = .idle ∨ after.occupancy.phase = .failed) := by
    rcases occupancy_of_step booted reached' step with same | move
    · have kept := congrArg Occupancy.tenancy same
      exact absurd (Daemon.tenancy_eq_some_iff.mp (kept.trans present)).2 lost
    · rcases move.client_or_burned present with ⟨⟨session', client'⟩, kept, rfl⟩ | burned
      · exact absurd (Daemon.tenancy_eq_some_iff.mp kept).2 lost
      · exact burned
  refine ⟨before, label, after, reached, step, rest, holds, burned.1, ?_, burned.2.2⟩
  cases holder : after.memory.session.controller with
  | none => rfl
  | some client' =>
      have shown' := formed'.identified
      rw [holder] at shown'
      rcases Option.isSome_iff_exists.mp shown' with ⟨session', shown'⟩
      have present' := Daemon.tenancy_eq_some_iff.mpr ⟨shown', holder⟩
      rw [show after.memory.tenancy = none from burned.2.1] at present'
      cases present'

end Runs

namespace Sample

/-- The first client's session is burned, and the second client starts one. -/
def handsOn : List (ServiceLabel Bool Empty) :=
  [.finish, .start (.burnControllerSession ⟨0, 1⟩ 1)] ++ List.replicate 14 (.step (some true)) ++
    [.finish, .spawn (.exchangePairing (Encoding.urlSafeNoPad (bytes 3))), .stepTask 1 none,
      .start (.startSession ⟨2, 2⟩ (url "example.org"))] ++
    List.replicate 8 (.step (some true))

end Sample

/-- A start keeps its session and its client until it is active. -/
theorem session_interval_of_openSession :
    ∃ first last : Config Daemon Call Call.Reply Response Unit,
      first.memory.session.snapshot.phase = .starting ∧
      last.memory.session.snapshot.phase = .active ∧
      last.memory.session.controller = first.memory.session.controller := by
  have executed : ((run (Sample.app.service Sample.told AppState.still).step
      (.idle Sample.daemon ()) (Sample.openSession true 3)).bind fun first =>
        (run (Sample.app.service Sample.told AppState.still).step first
          (List.replicate 5 (.step (some true)))).map fun last =>
            (first.memory.session.snapshot.phase, first.memory.session.snapshot.id,
              last.memory.session.snapshot.phase, last.memory.session.snapshot.id)) =
      some (.starting, some 1, .active, some 1) := by
    decide +kernel
  rcases Option.bind_eq_some_iff.mp executed with ⟨first, reached, mapped⟩
  rcases Option.map_eq_some_iff.mp mapped with ⟨last, onward, values⟩
  simp only [Prod.mk.injEq] at values
  rcases values with ⟨starting, shown, active, again⟩
  exact ⟨first, last, starting, active,
    (session_interval_of_reaches Sample.daemon_booted (reachable_of_run reached) .refl
      (reachable_of_run onward) shown again).2.2⟩

/-- The second client has a session after the first one's was burned. -/
theorem burned_of_handsOn :
    ∃ before after : Config Daemon Call Call.Reply Response Unit,
      before.memory.session.controller = some 0 ∧
      before.memory.session.snapshot.phase = .burning ∧
      after.memory.session.controller = none := by
  have executed : ((run (Sample.app.service Sample.told AppState.still).step
      (.idle Sample.daemon ()) (Sample.openSession true 8)).bind fun first =>
        (run (Sample.app.service Sample.told AppState.still).step first Sample.handsOn).map
          fun last => (first.memory.session.controller, last.memory.session.controller)) =
      some (some 0, some 2) := by
    decide +kernel
  rcases Option.bind_eq_some_iff.mp executed with ⟨first, reached, mapped⟩
  rcases Option.map_eq_some_iff.mp mapped with ⟨last, onward, values⟩
  simp only [Prod.mk.injEq] at values
  rcases burned_of_handover Sample.daemon_booted (reachable_of_run reached)
      (reachable_of_run onward) values.1 values.2 (by decide) with
    ⟨before, _, after, _, _, _, held, burning, freed, _⟩
  exact ⟨before, after, held, burning, freed⟩

end XanhTab
