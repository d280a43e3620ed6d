import XanhTab.Daemon.Publication
import XanhTab.Invariant.Session
import XanhTab.Program.Record

/-!
# The events as reports

What the published events say about the session.  Every operation publishes
after it has released the lock, so an event may be late.  If no change comes
between another change and its publication, the events report the states of the
session in the order in which it goes through them, and the last event shows the
session as it is.

That a session does not come back to life is a matter of its identifier, which
is drawn for every session that starts; it holds of the session in any run.
-/

namespace XanhTab

open Program Transition

/-! ## Sessions that have ended -/

/-- A session is shown at or before a snapshot that is not live. -/
def Retired (shown : List SessionSnapshot) (id : Uuid) : Prop :=
  ∃ snapshot ended : SessionSnapshot,
    ([snapshot, ended].Sublist shown ∨ (snapshot = ended ∧ ended ∈ shown)) ∧ ¬ ended.Live ∧
      snapshot.id = some id

/-- No session is shown live after it has ended. -/
def Unrevived (shown : List SessionSnapshot) : Prop :=
  ∀ (earlier : List SessionSnapshot) (snapshot : SessionSnapshot) (id : Uuid),
    (earlier ++ [snapshot]).Sublist shown → snapshot.Live → snapshot.id = some id →
      ¬ Retired earlier id

theorem Unrevived.sublist {shown shown' : List SessionSnapshot} (unrevived : Unrevived shown)
    (sublist : shown'.Sublist shown) : Unrevived shown' :=
  fun earlier snapshot id within => unrevived earlier snapshot id (within.trans sublist)

theorem sublist_concat {α : Type} {xs ys : List α} {x y : α}
    (sublist : (xs ++ [x]).Sublist (ys ++ [y])) :
    (xs ++ [x]).Sublist ys ∨ (x = y ∧ xs.Sublist ys) := by
  rcases List.sublist_append_iff.mp sublist with ⟨first, second, split, within, last⟩
  rcases List.sublist_singleton.mp last with rfl | rfl
  · rw [List.append_nil] at split
    rw [split]
    exact Or.inl within
  · rcases List.append_inj' split rfl with ⟨rfl, same⟩
    exact Or.inr ⟨List.singleton_inj.mp same, within⟩

theorem Retired.sublist {shown shown' : List SessionSnapshot} {id : Uuid}
    (retired : Retired shown id) (sublist : shown.Sublist shown') : Retired shown' id := by
  rcases retired with ⟨snapshot, ended, pair | ⟨same, member⟩, past, identified⟩
  · exact ⟨snapshot, ended, Or.inl (pair.trans sublist), past, identified⟩
  · exact ⟨snapshot, ended, Or.inr ⟨same, sublist.subset member⟩, past, identified⟩

/-- A live snapshot retires nothing. -/
theorem Retired.of_concat {shown : List SessionSnapshot} {last : SessionSnapshot} {id : Uuid}
    (retired : Retired (shown ++ [last]) id) (live : last.Live) : Retired shown id := by
  rcases retired with ⟨snapshot, ended, pair | ⟨same, member⟩, past, identified⟩
  · have split : ([snapshot] ++ [ended]).Sublist (shown ++ [last]) := pair
    rcases sublist_concat split with within | ⟨equal, _⟩
    · exact ⟨snapshot, ended, Or.inl within, past, identified⟩
    · rw [equal] at past
      exact absurd live past
  · rcases List.mem_append.mp member with old | new
    · exact ⟨snapshot, ended, Or.inr ⟨same, old⟩, past, identified⟩
    · rw [List.mem_singleton.mp new] at past
      exact absurd live past

/-- What is retired has been shown. -/
theorem Retired.shown {shown : List SessionSnapshot} {id : Uuid} (retired : Retired shown id) :
    ∃ snapshot ∈ shown, snapshot.id = some id := by
  rcases retired with ⟨snapshot, ended, pair | ⟨same, member⟩, _, identified⟩
  · exact ⟨snapshot, pair.subset List.mem_cons_self, identified⟩
  · exact ⟨snapshot, same ▸ member, identified⟩

/-! ## The session and its record -/

/-- What a record of the session says of it. -/
structure Recorded (visited : List SessionSnapshot) (daemon : Daemon) : Prop where
  current : daemon.session.snapshot ∈ visited
  issued : ∀ snapshot ∈ visited, ∀ id, snapshot.id = some id → daemon.rng.Taken id
  fresh : daemon.session.snapshot.Live → ∀ id, daemon.session.snapshot.id = some id →
    ¬ Retired visited id
  unrevived : Unrevived visited

/-- What an operation knows is true. -/
structure Knows (visited : List SessionSnapshot) (daemon : Daemon) (known : Knowledge) : Prop where
  issued : ∀ id, known.drawn = some id → daemon.rng.Taken id
  unused : ∀ id, known.drawn = some id → ∀ snapshot ∈ visited, snapshot.id ≠ some id
  live : known.live = true → daemon.session.snapshot.Live

section Record

variable {visited : List SessionSnapshot} {before after : Daemon} {known known' : Knowledge}

theorem Recorded.extend (recorded : Recorded visited before)
    (advances : before.rng.Advances after.rng)
    (issued : ∀ id, after.session.snapshot.id = some id → after.rng.Taken id)
    (fresh : after.session.snapshot.Live → ∀ id, after.session.snapshot.id = some id →
      ¬ Retired visited id) :
    Recorded (visited ++ [after.session.snapshot]) after where
  current := List.mem_append_right _ List.mem_cons_self
  issued := by
    intro snapshot member id identified
    rcases List.mem_append.mp member with old | new
    · exact (recorded.issued snapshot old id identified).of_advances advances
    · rw [List.mem_singleton.mp new] at identified
      exact issued id identified
  fresh := fun live id identified retired => fresh live id identified (retired.of_concat live)
  unrevived := by
    intro earlier snapshot id within live identified retired
    rcases sublist_concat within with old | ⟨equal, old⟩
    · exact recorded.unrevived earlier snapshot id old live identified retired
    · rw [equal] at live identified
      exact fresh live id identified (retired.sublist old)

/-- A step that keeps the identifier and revives nothing. -/
theorem Recorded.keep (recorded : Recorded visited before)
    (advances : before.rng.Advances after.rng)
    (id : after.session.snapshot.id = before.session.snapshot.id)
    (phase : after.session.snapshot.Live → before.session.snapshot.Live) :
    Recorded (visited ++ [after.session.snapshot]) after := by
  apply recorded.extend advances
  · intro id' identified
    rw [id] at identified
    exact (recorded.issued _ recorded.current id' identified).of_advances advances
  · intro live id' identified
    rw [id] at identified
    exact recorded.fresh (phase live) id' identified

theorem Knows.keep (knows : Knows visited before known) (recorded : Recorded visited before)
    (advances : before.rng.Advances after.rng)
    (id : after.session.snapshot.id = before.session.snapshot.id)
    (drawn : known'.drawn = known.drawn)
    (live : known'.live = true → after.session.snapshot.Live) :
    Knows (visited ++ [after.session.snapshot]) after known' where
  issued := by
    intro id' equal
    rw [drawn] at equal
    exact (knows.issued id' equal).of_advances advances
  unused := by
    intro id' equal snapshot member
    rw [drawn] at equal
    rcases List.mem_append.mp member with old | new
    · exact knows.unused id' equal snapshot old
    · rw [List.mem_singleton.mp new, id]
      exact knows.unused id' equal _ recorded.current
  live := live

/-- An identifier that is not taken has not been shown. -/
theorem Recorded.unused (recorded : Recorded visited before) {id : Uuid}
    (new : ¬ before.rng.Taken id) : ∀ snapshot ∈ visited, snapshot.id ≠ some id :=
  fun snapshot member identified => new (recorded.issued snapshot member id identified)

/-- A step that shows an identifier for the first time. -/
theorem Recorded.renew (recorded : Recorded visited before)
    (advances : before.rng.Advances after.rng) {id : Uuid}
    (identified : after.session.snapshot.id = some id) (taken : after.rng.Taken id)
    (unused : ∀ snapshot ∈ visited, snapshot.id ≠ some id) :
    Recorded (visited ++ [after.session.snapshot]) after := by
  apply recorded.extend advances
  · intro id' equal
    rw [identified] at equal
    rw [← Option.some.inj equal]
    exact taken
  · intro _ id' equal retired
    rw [identified] at equal
    rcases retired.shown with ⟨snapshot, member, used⟩
    exact unused snapshot member (used.trans equal.symm)

/-- An operation that has drawn nothing. -/
theorem Knows.of_undrawn {live : Bool} (lives : live = true → after.session.snapshot.Live) :
    Knows visited after ⟨none, live⟩ where
  issued := by
    intro id equal
    cases equal
  unused := by
    intro id equal
    cases equal
  live := lives

/-- A section of an operation keeps the record and what the operation knows. -/
theorem Renewal.recorded (renewal : Renewal known before after known')
    (recorded : Recorded visited before) (knows : Knows visited before known) :
    Recorded (visited ++ [after.session.snapshot]) after ∧
      Knows (visited ++ [after.session.snapshot]) after known' := by
  cases renewal with
  | same same advances =>
      have id : after.session.snapshot.id = before.session.snapshot.id := by
        rw [same]
      constructor
      · apply recorded.keep advances id
        rw [same]
        exact fun live => live
      · apply knows.keep recorded advances id rfl
        rw [same]
        exact knows.live
  | keep id phase advances =>
      constructor
      · exact recorded.keep advances id (phase knows.live)
      · exact knows.keep recorded advances id rfl fun live => by cases live
  | draw drawn same advances new taken =>
      have id : after.session.snapshot.id = before.session.snapshot.id := by
        rw [same]
      constructor
      · apply recorded.keep advances id
        rw [same]
        exact fun live => live
      · constructor
        · intro id' equal
          obtain rfl := Option.some.inj equal
          exact taken
        · intro id' equal snapshot member
          obtain rfl := Option.some.inj equal
          rcases List.mem_append.mp member with old | new'
          · exact recorded.unused new snapshot old
          · rw [List.mem_singleton.mp new', id]
            exact recorded.unused new _ recorded.current
        · rw [same]
          exact knows.live
  | start drawn identified live advances new taken =>
      constructor
      · exact recorded.renew advances identified taken (recorded.unused new)
      · exact .of_undrawn fun _ => live
  | renew drawn drew identified advances =>
      constructor
      · exact recorded.renew advances identified ((knows.issued drawn drew).of_advances advances)
          (knows.unused drawn drew)
      · exact .of_undrawn fun live => by cases live
  | clear cleared advances =>
      constructor
      · apply recorded.extend advances
        · intro id identified
          rw [cleared] at identified
          cases identified
        · intro _ id identified
          rw [cleared] at identified
          cases identified
      · constructor
        · exact fun id equal => (knows.issued id equal).of_advances advances
        · intro id equal snapshot member
          rcases List.mem_append.mp member with old | new
          · exact knows.unused id equal snapshot old
          · rw [List.mem_singleton.mp new, cleared]
            exact fun none => by cases none
        · intro live
          cases live

end Record

/-! ## The record of a run -/

/-- The record is true, and the operation that runs conducts itself accordingly. -/
structure Tracked {W : Type} (visited : List SessionSnapshot)
    (config : Config Daemon Call Call.Reply Response W) : Prop where
  recorded : Recorded visited config.memory
  holder : ∀ program, config.holder = some program →
    ∃ known, Conducts Renewal known program ∧ Knows visited config.memory known

section Tracked

variable {app : AppState} {W O N : Type} {answer : Answer Call Call.Reply W O}
  {world : N → Daemon → W → Option W} {visited : List SessionSnapshot}
  {config config' : Config Daemon Call Call.Reply Response W}

/-- The memory after a step of the operation that runs, and what it knows then. -/
theorem Conducts.recorded {known : Knowledge} {program : Routine Response} {outcome : Option O}
    {daemon : Daemon} {state : W} {after : Routine Response × Daemon × W}
    (conducts : Conducts Renewal known program) (recorded : Recorded visited daemon)
    (knows : Knows visited daemon known) (page : HasPage daemon)
    (advanced : program.advance answer outcome daemon state = some after) :
    Recorded (visited ++ [after.2.1.session.snapshot]) after.2.1 ∧
      ∃ known', Conducts Renewal known' after.1 ∧
        Knows (visited ++ [after.2.1.session.snapshot]) after.2.1 known' := by
  cases program with
  | done result => cases advanced
  | access awaits update next =>
      cases advanced
      rcases conducts with ⟨event, data, here, publishes, later⟩ | sections
      · rw [publishes]
        have kept := (Renewal.same rfl (.refl _) :
          Renewal known daemon (EventBus.publish event data daemon) known).recorded recorded knows
        exact ⟨kept.1, known, (later daemon).2, kept.2⟩
      · rcases sections daemon page with ⟨_, _, known', moved, later⟩
        have kept := moved.recorded recorded knows
        exact ⟨kept.1, known', later, kept.2⟩
  | call awaits request next =>
      rcases Option.bind_eq_some_iff.mp advanced with ⟨chosen, _, replied⟩
      rcases Option.map_eq_some_iff.mp replied with ⟨answered, _, rfl⟩
      have kept := (Renewal.same rfl (.refl _) :
        Renewal known daemon daemon known).recorded recorded knows
      exact ⟨kept.1, known, (conducts answered.1).2, kept.2⟩

/-- Nothing but an operation touches the identity of the session. -/
theorem identity_of_other {label : Pool.Label Lifecycle Request (Environment N) O}
    (framed : config.Framed LifecycleStep RequestStep) (foreign : ¬ label.Own)
    (step : (app.service answer world).step config label = some config') :
    config'.memory.session.snapshot.id = config.memory.session.snapshot.id ∧
      config'.memory.session.snapshot.phase = config.memory.session.snapshot.phase ∧
      config.memory.rng.Advances config'.memory.rng := by
  have advances := ((service_framed app answer world).step framed step).2
  cases label with
  | step outcome => exact absurd trivial foreign
  | stepTask index outcome =>
      exact ⟨advances.1.session.id, advances.1.session.phase, advances.1.auth.advances⟩
  | drop outcome =>
      have same : config'.memory = config.memory := advances
      rw [same]
      exact ⟨rfl, rfl, .refl _⟩
  | start op | finish | spawn task | dropTask index outcome =>
      rw [advances.1]
      exact ⟨rfl, rfl, .refl _⟩
  | noise event =>
      cases event with
      | elapse duration | setClock utc =>
          rw [← (Prod.mk.inj (Option.some.inj advances)).1]
          exact ⟨rfl, rfl, .refl _⟩
      | world event =>
          rcases Option.map_eq_some_iff.mp advances with ⟨_, _, equal⟩
          rw [← (Prod.mk.inj equal).1]
          exact ⟨rfl, rfl, .refl _⟩

/-- The operation that runs after a step that is not its own has run before, or
has just been started. -/
theorem holder_of_other {label : Pool.Label Lifecycle Request (Environment N) O}
    {program : Routine Response} (foreign : ¬ label.Own)
    (step : (app.service answer world).step config label = some config')
    (running : config'.holder = some program) :
    config.holder = some program ∨ ∃ op, program = app.lifecycle op := by
  cases label with
  | step outcome => exact absurd trivial foreign
  | start op =>
      rw [Contract.entered step] at running
      exact Or.inr ⟨op, (Option.some.inj running).symm⟩
  | drop outcome =>
      rcases Option.bind_eq_some_iff.mp step with ⟨_, _, mapped⟩
      rcases Option.map_eq_some_iff.mp mapped with ⟨_, _, rfl⟩
      cases running
  | finish =>
      simp only [Pool.step] at step
      split at step
      · cases step
        cases running
      · cases step
  | spawn task =>
      cases step
      exact Or.inl running
  | stepTask index outcome | dropTask index outcome =>
      rcases Option.bind_eq_some_iff.mp step with ⟨_, _, mapped⟩
      rcases Option.map_eq_some_iff.mp mapped with ⟨_, _, rfl⟩
      exact Or.inl running
  | noise event =>
      rcases Option.map_eq_some_iff.mp step with ⟨_, _, rfl⟩
      exact Or.inl running

theorem Tracked.step {label : Pool.Label Lifecycle Request (Environment N) O}
    (tracked : Tracked visited config) (framed : config.Framed LifecycleStep RequestStep)
    (page : HasPage config.memory)
    (step : (app.service answer world).step config label = some config') :
    Tracked (visited ++ [config'.memory.session.snapshot]) config' := by
  by_cases own : label.Own
  · cases label with
    | step outcome =>
        rcases Option.bind_eq_some_iff.mp step with ⟨program, running, mapped⟩
        rcases Option.map_eq_some_iff.mp mapped with ⟨after, advanced, rfl⟩
        rcases tracked.holder program running with ⟨known, conducts, knows⟩
        rcases conducts.recorded tracked.recorded knows page advanced with
          ⟨recorded, known', conducts', knows'⟩
        refine ⟨recorded, fun program' running' => ?_⟩
        obtain rfl := Option.some.inj running'
        exact ⟨known', conducts', knows'⟩
    | _ => exact own.elim
  · rcases identity_of_other framed own step with ⟨id, phase, advances⟩
    have live : config'.memory.session.snapshot.Live ↔ config.memory.session.snapshot.Live := by
      unfold SessionSnapshot.Live
      rw [phase]
    refine ⟨tracked.recorded.keep advances id live.mp, fun program running => ?_⟩
    rcases holder_of_other own step running with before | ⟨op, rfl⟩
    · rcases tracked.holder program before with ⟨known, conducts, knows⟩
      exact ⟨known, conducts, knows.keep tracked.recorded advances id rfl
        fun still => live.mpr (knows.live still)⟩
    · refine ⟨⟨none, false⟩, (lifecycle_opens app op).2, .of_undrawn fun still => ?_⟩
      cases still

end Tracked

/-! ## The events of a run -/

/-- The snapshots that have been published, oldest first. -/
def Daemon.reports (daemon : Daemon) : List SessionSnapshot :=
  daemon.events.map ServerEvent.session

/-- Every change is published before the next one is made: nothing changes the
session while a copy of it waits to be published, and nothing that is about to
announce its change is dropped. -/
structure Prompt {W O : Type} {Op Task Noise : Type}
    (pool : Pool Daemon Call Call.Reply Response W O Op Task Noise)
    (config : Config Daemon Call Call.Reply Response W) (label : Pool.Label Op Task Noise O) :
    Prop where
  change : ∀ config', pool.step config label = some config' →
    config'.memory.session.snapshot ≠ config.memory.session.snapshot →
      ∀ program ∈ config.programs, Silent program
  drop : ∀ program, label.dropped config = some program → ¬ Announces program

/-- The program stands at a section under no lock. -/
def unlocked : Routine Response → Bool
  | .access false _ _ => true
  | _ => false

/-- No copy waits while the session changes, and nothing is dropped. -/
def promptly {W O : Type} {Op Task Noise : Type}
    (pool : Pool Daemon Call Call.Reply Response W O Op Task Noise)
    (config : Config Daemon Call Call.Reply Response W) (label : Pool.Label Op Task Noise O) :
    Bool :=
  (label.dropped config).isNone &&
    (config.programs.all (fun program => !unlocked program) ||
      (pool.step config label).all fun config' =>
        config'.memory.session.snapshot = config.memory.session.snapshot)

theorem prompt_of_promptly {W O : Type} {Op Task Noise : Type}
    {pool : Pool Daemon Call Call.Reply Response W O Op Task Noise}
    {config : Config Daemon Call Call.Reply Response W} {label : Pool.Label Op Task Noise O}
    (accepted : promptly pool config label = true) : Prompt pool config label := by
  rcases Bool.and_eq_true_iff.mp accepted with ⟨kept, waits⟩
  constructor
  · intro config' step changed program member data publishes
    rcases Bool.or_eq_true_iff.mp waits with none | same
    · rcases publishes with ⟨event, next, rfl⟩
      have locked := List.all_eq_true.mp none _ member
      simp [unlocked] at locked
    · rw [step] at same
      simp only [Option.all_some, decide_eq_true_eq] at same
      exact changed same
  · intro program dropped
    rw [dropped] at kept
    cases kept

/-- What the events, the programs and the record have to do with each other. -/
structure Accounted {W : Type} (visited : List SessionSnapshot)
    (config : Config Daemon Call Call.Reply Response W) : Prop where
  conducts : ∀ program ∈ config.programs, Conducts Untracked () program
  copies : ∀ program ∈ config.programs, ∀ data, Publishes program data →
    data.snapshot = config.memory.session.snapshot
  latest : (∃ program ∈ config.programs, Owes program) ∨
    ∀ last, config.memory.reports.getLast? = some last → last = config.memory.session.snapshot
  ordered : config.memory.reports.Sublist visited

section Accounted

variable {app : AppState} {W O N : Type} {answer : Answer Call Call.Reply W O}
  {world : N → Daemon → W → Option W} {visited : List SessionSnapshot}
  {config config' : Config Daemon Call Call.Reply Response W}

/-- A step of a program publishes a copy, or it reports what it changes. -/
inductive Speaks (program : Routine Response) (before after : Daemon) (next : Routine Response) :
    Prop
  | publishes (event : String) (data : SessionData) : Publishes program data →
      after = EventBus.publish event data before → Silent next → Speaks program before after next
  | changes : after.events = before.events → Reports before after next →
      (Owes program → Owes next) → Speaks program before after next

theorem Conducts.speaks {program : Routine Response} {outcome : Option O} {daemon : Daemon}
    {state : W} {after : Routine Response × Daemon × W}
    (conducts : Conducts Untracked () program) (page : HasPage daemon)
    (advanced : program.advance answer outcome daemon state = some after) :
    Speaks program daemon after.2.1 after.1 ∧ Conducts Untracked () after.1 := by
  cases program with
  | done result => cases advanced
  | access awaits update next =>
      cases advanced
      rcases conducts with ⟨event, data, rfl, rfl, later⟩ | sections
      · exact ⟨.publishes event data ⟨event, next, rfl⟩ rfl (later daemon).1, (later daemon).2⟩
      · rcases sections daemon page with ⟨events, reports, _, _, later⟩
        refine ⟨.changes events reports ?_, later⟩
        rintro (⟨data, event, next', equal⟩ | ⟨update', next', equal, copies⟩)
        · cases equal
          have lengths := congrArg List.length events
          simp [EventBus.publish] at lengths
        · cases equal
          exact Or.inl ⟨_, (copies daemon).2⟩
  | call awaits request next =>
      rcases Option.bind_eq_some_iff.mp advanced with ⟨chosen, _, replied⟩
      rcases Option.map_eq_some_iff.mp replied with ⟨answered, _, rfl⟩
      refine ⟨.changes rfl (.unchanged rfl (conducts answered.1).1) ?_, (conducts answered.1).2⟩
      rintro (⟨data, event, next', equal⟩ | ⟨update', next', equal, _⟩) <;> cases equal

/-- A step that leaves the session and the events alone. -/
theorem Accounted.silent (reported : Accounted visited config)
    (session : config'.memory.session = config.memory.session)
    (events : config'.memory.events = config.memory.events)
    (conducts : ∀ program ∈ config'.programs, Conducts Untracked () program)
    (came : ∀ program ∈ config'.programs, Silent program ∨ program ∈ config.programs)
    (left : ∀ program ∈ config.programs, Owes program → program ∈ config'.programs) :
    Accounted (visited ++ [config'.memory.session.snapshot]) config' where
  conducts := conducts
  copies := by
    intro program member data publishes
    rw [session]
    rcases came program member with silent | old
    · exact absurd publishes (silent data)
    · exact reported.copies program old data publishes
  latest := by
    rcases reported.latest with ⟨program, member, owes⟩ | last
    · exact Or.inl ⟨program, left program member owes, owes⟩
    · right
      unfold Daemon.reports
      rw [session, events]
      exact last
  ordered := by
    unfold Daemon.reports
    rw [events]
    exact reported.ordered.trans (List.sublist_append_left _ _)

/-- A step of a program. -/
theorem Accounted.advance {label : Pool.Label Lifecycle Request (Environment N) O}
    {program next : Routine Response} (reported : Accounted visited config)
    (prompt : Prompt (app.service answer world) config label)
    (step : (app.service answer world).step config label = some config')
    (running : program ∈ config.programs)
    (speaks : Speaks program config.memory config'.memory next)
    (conducts : Conducts Untracked () next) (present : next ∈ config'.programs)
    (came : ∀ other ∈ config'.programs, other = next ∨ other ∈ config.programs)
    (left : ∀ other ∈ config.programs, other = program ∨ other ∈ config'.programs) :
    Accounted (visited ++ [config'.memory.session.snapshot]) config' := by
  have conducts' : ∀ other ∈ config'.programs, Conducts Untracked () other := by
    intro other member
    rcases came other member with rfl | old
    · exact conducts
    · exact reported.conducts other old
  cases speaks with
  | publishes event data publishes after silent =>
      have session : config'.memory.session = config.memory.session := by
        rw [after]
        rfl
      have reports : config'.memory.reports =
          config.memory.reports ++ [config'.memory.session.snapshot] := by
        rw [session, ← reported.copies program running data publishes, after]
        simp [Daemon.reports, EventBus.publish]
      constructor
      · exact conducts'
      · intro other member copy publishes'
        rw [session]
        rcases came other member with rfl | old
        · exact absurd publishes' (silent copy)
        · exact reported.copies other old copy publishes'
      · right
        intro last found
        rw [reports, List.getLast?_concat] at found
        exact (Option.some.inj found).symm
      · rw [reports]
        exact reported.ordered.append (List.Sublist.refl _)
  | changes events reports owes =>
      constructor
      · exact conducts'
      · intro other member copy publishes
        rcases came other member with rfl | old
        · exact reports.truthful copy publishes
        · by_cases same : config'.memory.session.snapshot = config.memory.session.snapshot
          · rw [same]
            exact reported.copies other old copy publishes
          · exact absurd publishes (prompt.change config' step same other old copy)
      · by_cases same : config'.memory.session.snapshot = config.memory.session.snapshot
        · rcases reported.latest with ⟨other, member, pending⟩ | last
          · rcases left other member with rfl | kept
            · exact Or.inl ⟨next, present, owes pending⟩
            · exact Or.inl ⟨other, kept, pending⟩
          · right
            unfold Daemon.reports
            rw [same, events]
            exact last
        · rcases reports.reported with unchanged | pending
          · exact absurd unchanged same
          · exact Or.inl ⟨next, present, pending⟩
      · unfold Daemon.reports
        rw [events]
        exact reported.ordered.trans (List.sublist_append_left _ _)

/-- A program that has a change to report is not at its end, and cannot be
dropped where it publishes. -/
theorem announces_of_owes {program : Routine Response} {outcome : Option O} {state state' : W}
    (owes : Owes program) (dropped : program.abandon answer outcome state = some state') :
    Announces program := by
  rcases owes with ⟨data, event, next, rfl⟩ | announces
  · cases dropped
  · exact announces

theorem not_owes_done (result : Response) : ¬ Owes (.done result : Routine Response) := by
  rintro (⟨data, event, next, equal⟩ | ⟨update, next, equal, _⟩) <;> cases equal

theorem Accounted.step {label : Pool.Label Lifecycle Request (Environment N) O}
    (reported : Accounted visited config) (page : HasPage config.memory)
    (prompt : Prompt (app.service answer world) config label)
    (step : (app.service answer world).step config label = some config') :
    Accounted (visited ++ [config'.memory.session.snapshot]) config' := by
  cases Pool.Shifts.of_step step with
  | advances running advanced memory present came left =>
      rcases (reported.conducts _ running).speaks page advanced with ⟨speaks, conducts⟩
      rw [← memory] at speaks
      exact reported.advance prompt step running speaks conducts present came left
  | @enters program entered memory came left =>
      have opens : Opens Untracked () program := by
        rcases entered with ⟨op, rfl⟩ | ⟨task, rfl⟩
        · exact (lifecycle_opens app op : Opens Renewal ⟨none, false⟩ _).untracked
        · exact request_opens app task
      apply reported.silent (by rw [memory]) (by rw [memory])
      · intro other member
        rcases came other member with rfl | old
        · exact opens.2
        · exact reported.conducts other old
      · intro other member
        rcases came other member with rfl | old
        · exact Or.inl opens.1
        · exact Or.inr old
      · exact fun other member _ => left other member
  | @leaves program gone memory came left =>
      apply reported.silent (by rw [memory]) (by rw [memory])
      · exact fun other member => reported.conducts other (came other member)
      · exact fun other member => Or.inr (came other member)
      · intro other member owes
        rcases left other member with rfl | kept
        · rcases gone with ⟨result, rfl⟩ | ⟨dropped, outcome, state, abandoned⟩
          · exact absurd owes (not_owes_done result)
          · exact absurd (announces_of_owes owes abandoned) (prompt.drop other dropped)
        · exact kept
  | @noise event changed programs =>
      have same : config'.memory.session = config.memory.session ∧
          config'.memory.events = config.memory.events := by
        cases event with
        | elapse duration | setClock utc =>
            rw [← (Prod.mk.inj (Option.some.inj changed)).1]
            exact ⟨rfl, rfl⟩
        | world event =>
            rcases Option.map_eq_some_iff.mp changed with ⟨_, _, equal⟩
            rw [← (Prod.mk.inj equal).1]
            exact ⟨rfl, rfl⟩
      apply reported.silent same.1 same.2
      · rw [programs]
        exact reported.conducts
      · rw [programs]
        exact fun other member => Or.inr member
      · rw [programs]
        exact fun other member _ => member

end Accounted

/-! ## The result -/

/-- The events tell the truth about the session, in order. -/
structure Truthful {W : Type} (visited : List SessionSnapshot)
    (config : Config Daemon Call Call.Reply Response W) : Prop where
  ordered : config.memory.reports.Sublist visited
  latest : config.Resting → ∀ last, config.memory.reports.getLast? = some last →
    last = config.memory.session.snapshot
  unrevived : Unrevived config.memory.reports

theorem hasPage_of_wellFormed {manager : SessionManager} {daemon : Daemon}
    (formed : daemon.session.WellFormed manager) : HasPage daemon :=
  fun active => formed.located.trans (formed.active active).1

/-- A daemon that has just booted has published nothing. -/
theorem tracked_of_booted {app : AppState} {W : Type} {daemon : Daemon} {state : W}
    (booted : app.Booted daemon) :
    Tracked [daemon.session.snapshot] (.idle daemon state) ∧
      Accounted [daemon.session.snapshot] (.idle daemon state) := by
  have unidentified : daemon.session.snapshot.id = none := by
    rw [booted.session]
    rfl
  have single : ∀ snapshot ∈ [daemon.session.snapshot], ∀ id, snapshot.id ≠ some id := by
    intro snapshot member id identified
    rw [List.mem_singleton.mp member, unidentified] at identified
    cases identified
  constructor
  · constructor
    · constructor
      · exact List.mem_cons_self
      · exact fun snapshot member id identified => absurd identified (single snapshot member id)
      · exact fun _ id identified => absurd identified (single _ List.mem_cons_self id)
      · intro earlier snapshot id within _ identified
        have member := within.subset (List.mem_append_right earlier List.mem_cons_self)
        exact absurd identified (single snapshot member id)
    · rintro program ⟨⟩
  · have silent : (Config.idle daemon state : Config Daemon Call Call.Reply Response W).memory.reports
        = [] := by
      show daemon.events.map ServerEvent.session = []
      rw [booted.events]
      rfl
    constructor
    · rintro program ⟨⟩
    · rintro program ⟨⟩
    · right
      rw [silent]
      rintro last ⟨⟩
    · rw [silent]
      exact List.nil_sublist _

/-- In a run in which every change is published before the next one is made, the
published snapshots appear in the order in which the session was in them, the
last one is the current one while nothing is under way, and no session is
reported live after it has been reported ended. -/
theorem truthful_of_visits {app : AppState} {W O N : Type} {answer : Answer Call Call.Reply W O}
    {world : N → Daemon → W → Option W} {daemon : Daemon} {state : W}
    {config : Config Daemon Call Call.Reply Response W} {visited : List SessionSnapshot}
    (booted : app.Booted daemon)
    (visits : Visits (app.service answer world) (Prompt (app.service answer world))
      (·.session.snapshot) (.idle daemon state) config visited) :
    Truthful visited config := by
  have both : Tracked visited config ∧ Accounted visited config := by
    induction visits with
    | refl => exact tracked_of_booted booted
    | tail visits prompt step ih =>
        have framed := (service_framed app answer world).reaches (.idle daemon state) visits.reaches
        have page := hasPage_of_wellFormed (wellFormed_of_reaches booted visits.reaches)
        exact ⟨ih.1.step framed page step, ih.2.step page prompt step⟩
  rcases both with ⟨tracked, reported⟩
  constructor
  · exact reported.ordered
  · intro resting
    rcases reported.latest with ⟨program, member, owes⟩ | last
    · rcases resting program member with ⟨result, rfl⟩
      exact absurd owes (not_owes_done result)
    · exact last
  · exact tracked.recorded.unrevived.sublist reported.ordered

/-! ## Runs -/

namespace Sample

/-- A settings request has written, and publishes only after its session has been
burned. -/
def overtakes : List (ServiceLabel Unit Empty) :=
  openSession () 8 ++ [.finish, .spawn (.setStreamProfile 0 .sd10), .stepTask 1 none,
    .start (.burnControllerSession ⟨0, 1⟩ 1)] ++ List.replicate 14 (.step (some ())) ++
    [.finish, .stepTask 1 none]

/-- A session is opened, a settings request comes, and the session is burned. -/
def inTurn : List (ServiceLabel Unit Empty) :=
  openSession () 8 ++ [.finish, .spawn (.setStreamProfile 0 .sd10), .stepTask 1 none,
    .stepTask 1 none, .start (.burnControllerSession ⟨0, 1⟩ 1)] ++
    List.replicate 14 (.step (some ())) ++ [.finish]

end Sample

/-- A copy that is published late shows a session that has been burned as active,
and no event comes after it. -/
theorem not_truthful_of_overtaken :
    ¬ ∀ (config : Config Daemon Call Call.Reply Response Unit) (visited : List SessionSnapshot),
      Visits (Sample.app.service Sample.willing AppState.still) (fun _ _ => True)
        (·.session.snapshot) (.idle Sample.daemon ()) config visited →
      Truthful visited config := by
  intro always
  have executed : (run (guarded (Sample.app.service Sample.willing AppState.still).step
      fun _ _ => true) (.idle Sample.daemon ()) Sample.overtakes).map
      (fun config => (decide config.Resting, config.memory.reports.getLast?.map (·.phase),
        config.memory.session.snapshot.phase)) = some (true, some .active, .idle) := by
    decide +kernel
  rcases Option.map_eq_some_iff.mp executed with ⟨config, reached, values⟩
  simp only [Prod.mk.injEq, decide_eq_true_eq] at values
  rcases values with ⟨resting, reported, current⟩
  rcases Option.map_eq_some_iff.mp reported with ⟨last, found, active⟩
  rcases Visits.of_run (fun _ _ _ => trivial) Visits.refl reached with ⟨visited, visits⟩
  have shown := (always config visited visits).latest resting last found
  rw [shown, current] at active
  cases active

/-- A run in which every change is published in turn. -/
theorem truthful_of_visits_in_turn :
    ∃ (config : Config Daemon Call Call.Reply Response Unit) (visited : List SessionSnapshot),
      config.Resting ∧ config.memory.reports.map (·.phase) =
        [.starting, .active, .active, .burning, .idle] ∧ Truthful visited config := by
  have executed : (run (guarded (Sample.app.service Sample.willing AppState.still).step
      (promptly (Sample.app.service Sample.willing AppState.still)))
      (.idle Sample.daemon ()) Sample.inTurn).map
      (fun config => (decide config.Resting, config.memory.reports.map (·.phase))) =
        some (true, [.starting, .active, .active, .burning, .idle]) := by
    decide +kernel
  rcases Option.map_eq_some_iff.mp executed with ⟨config, reached, values⟩
  simp only [Prod.mk.injEq, decide_eq_true_eq] at values
  rcases values with ⟨resting, phases⟩
  rcases Visits.of_run (fun _ _ accepted => prompt_of_promptly accepted) Visits.refl reached with
    ⟨visited, visits⟩
  exact ⟨config, visited, resting, phases, truthful_of_visits Sample.daemon_booted visits⟩

end XanhTab
