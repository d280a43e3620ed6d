import XanhTab.Daemon.Lifecycle
import XanhTab.Invariant.AutoBurn
import XanhTab.Program.Follow

/-!
# The decision to burn for inactivity

A tick of the watchdog reads the threshold, then the idle time, and then enters
the burning phase, each under a lock of its own.  It holds the lifecycle mutex,
but the settings operations do not take it.  A tick that is not disturbed by one
of them burns only what is due at the moment of its entry.
-/

namespace XanhTab

open Program Transition

/-! ## What stands between reading and burning -/

/-- What a tick has read of the session still stands after a step of others:
once it has read the threshold, this is neither raised nor disabled, and once it
has read the idle time, there is no new activity. -/
structure Heeds (taken : List (Daemon × Daemon)) (before after : Daemon) : Prop where
  threshold : 1 ≤ taken.length → before.session.snapshot.autoBurnSeconds ≠ 0 →
    after.session.snapshot.autoBurnSeconds ≠ 0 ∧
      after.session.snapshot.autoBurnSeconds ≤ before.session.snapshot.autoBurnSeconds
  activity : 2 ≤ taken.length → after.session.lastActivity = before.session.lastActivity

/-- The section does not enter the burning phase. -/
def Stays (before after : Daemon) : Prop :=
  after.session.snapshot.phase = .burning → before.session.snapshot.phase = .burning

namespace Stays

variable {α : Type}

theorem of_session_eq {before after : Daemon} (same : after.session = before.session) :
    Stays before after := by
  intro burning
  rw [same] at burning
  exact burning

theorem of_sameSession {program : Routine α} (same : program.Sections SameSession) :
    program.Sections Stays :=
  same.mono fun _ _ => of_session_eq

theorem commit (event : String) {update : Daemon → SessionData}
    (elsewhere : ∀ daemon, (update daemon).snapshot.phase ≠ .burning) :
    (SessionManager.commit event update).Sections Stays := by
  have updated : (lock fun daemon => (update daemon, { daemon with session := update daemon }) :
      Routine SessionData).Sections Stays :=
    Sections.transact fun daemon burning => absurd burning (elsewhere daemon)
  refine Sections.bind updated fun data => ?_
  refine Sections.bind (of_sameSession (SameSession.transact fun _ => rfl)) fun _ => trivial

end Stays

/-- The next section may enter the burning phase, but no later one does. -/
def Enters {α : Type} (program : Routine α) : Prop :=
  ∃ awaits update next, program = .access awaits update next ∧
    ∀ daemon, (next daemon).Sections Stays

/-- The program reads the idle time and burns only if it reaches the threshold. -/
def Measures {α : Type} (threshold : Duration) (program : Routine α) : Prop :=
  ∃ awaits update next, program = .access awaits update next ∧ ∀ daemon, update daemon = daemon ∧
    ((next daemon).Sections Stays ∨
      threshold ≤ daemon.now - daemon.session.lastActivity ∧ Enters (next daemon))

/-- The program reads the threshold and goes on only if it is set in an active
session. -/
def Looks {α : Type} (program : Routine α) : Prop :=
  ∃ awaits update next, program = .access awaits update next ∧ ∀ daemon, update daemon = daemon ∧
    ((next daemon).Sections Stays ∨
      Duration.ofSeconds daemon.session.snapshot.autoBurnSeconds ≠ 0 ∧
        Measures (Duration.ofSeconds daemon.session.snapshot.autoBurnSeconds) (next daemon))

section Bind

variable {α β : Type} {program : Routine α} {rest : α → Routine β} {threshold : Duration}

theorem Enters.bind (enters : Enters program) (stays : ∀ result, (rest result).Sections Stays) :
    Enters (program >>= rest) := by
  rcases enters with ⟨awaits, update, next, rfl, later⟩
  exact ⟨awaits, update, _, rfl, fun daemon => Sections.bind (later daemon) stays⟩

theorem Measures.bind (measures : Measures threshold program)
    (stays : ∀ result, (rest result).Sections Stays) : Measures threshold (program >>= rest) := by
  rcases measures with ⟨awaits, update, next, rfl, later⟩
  refine ⟨awaits, update, _, rfl, fun daemon => ⟨(later daemon).1, ?_⟩⟩
  rcases (later daemon).2 with ended | ⟨reached, enters⟩
  · exact Or.inl (Sections.bind ended stays)
  · exact Or.inr ⟨reached, enters.bind stays⟩

theorem Looks.bind (looks : Looks program) (stays : ∀ result, (rest result).Sections Stays) :
    Looks (program >>= rest) := by
  rcases looks with ⟨awaits, update, next, rfl, later⟩
  refine ⟨awaits, update, _, rfl, fun daemon => ⟨(later daemon).1, ?_⟩⟩
  rcases (later daemon).2 with ended | ⟨enabled, measures⟩
  · exact Or.inl (Sections.bind ended stays)
  · exact Or.inr ⟨enabled, measures.bind stays⟩

end Bind

theorem forceBurn_enters (manager : SessionManager) : Enters manager.forceBurn := by
  refine ⟨true, _, _, rfl, fun daemon => ?_⟩
  show ((done (SessionManager.beginBurn daemon).1 : Routine _) >>= _).Sections Stays
  rw [done_bind]
  cases (SessionManager.beginBurn daemon).1 with
  | some snapshot => trivial
  | none =>
      refine Sections.bind (Stays.of_sameSession (SameSession.publish _)) fun _ => ?_
      refine Sections.bind (Permits.stopBrowser _) fun _ => ?_
      refine Sections.bind (Permits.resetEgress _) fun _ => ?_
      refine Sections.bind (Permits.clearRuntime _) fun failures => ?_
      dsimp only
      split
      · refine Sections.bind (Stays.commit _ fun daemon => ?_) fun _ => trivial
        simp [SessionManager.initialData, SessionManager.initialSnapshot]
      · refine Sections.bind (Stays.commit _ fun daemon => ?_) fun _ => trivial
        simp [SessionData.failed]

theorem burnAndRotate_enters (app : AppState) : Enters (app.burnAndRotate none) := by
  refine (forceBurn_enters app.sessions).bind fun burnResult => ?_
  refine Sections.bind (Stays.of_sameSession (SameSession.revokeAndRotate app)) fun pairingResult => ?_
  cases burnResult <;> cases pairingResult <;> trivial

theorem measures_of_enters {α : Type} {burn : Routine α} (early : α) (threshold : Duration)
    (enters : Enters burn) :
    Measures threshold ((read fun daemon => daemon.now - daemon.session.lastActivity) >>=
      fun idleFor => if idleFor < threshold then done early else burn) := by
  refine ⟨true, _, _, rfl, fun daemon => ⟨rfl, ?_⟩⟩
  show Sections Stays (if daemon.now - daemon.session.lastActivity < threshold then _ else burn) ∨ _
  by_cases idle : daemon.now - daemon.session.lastActivity < threshold
  · left
    rw [if_pos idle]
    trivial
  · right
    refine ⟨Nat.not_lt.mp idle, ?_⟩
    show Enters (if daemon.now - daemon.session.lastActivity < threshold then _ else burn)
    rw [if_neg idle]
    exact enters

theorem looks_of_measures {α : Type} {measure : SessionSnapshot → Routine α} (skipped : α)
    (measures : ∀ snapshot, Measures (Duration.ofSeconds snapshot.autoBurnSeconds)
      (measure snapshot)) :
    Looks (read (·.session.snapshot) >>= fun snapshot =>
      if snapshot.phase ≠ .active ∨ Duration.ofSeconds snapshot.autoBurnSeconds = 0 then
        done skipped
      else measure snapshot) := by
  refine ⟨true, _, _, rfl, fun daemon => ⟨rfl, ?_⟩⟩
  dsimp only [Program.bind]
  by_cases skips : daemon.session.snapshot.phase ≠ .active ∨
      Duration.ofSeconds daemon.session.snapshot.autoBurnSeconds = 0
  · left
    rw [if_pos skips]
    trivial
  · right
    rw [if_neg skips]
    exact ⟨fun disabled => skips (Or.inr disabled), measures _⟩

/-- The tick looks, measures and enters, in this order. -/
theorem autoBurnIfDue_looks (app : AppState) : Looks app.autoBurnIfDue := by
  apply looks_of_measures
  intro snapshot
  apply measures_of_enters
  refine (burnAndRotate_enters app).bind fun result => ?_
  cases result <;> trivial

/-! ## The tick among others -/

/-- What a tick, the daemon and the steps taken satisfy together. -/
inductive Ticks : Routine Response → Daemon → List (Daemon × Daemon) → Prop
  | looks {program : Routine Response} {daemon : Daemon} {taken : List (Daemon × Daemon)} :
      taken.length = 0 → Looks program → Ticks program daemon taken
  | measures {program : Routine Response} {daemon : Daemon} {taken : List (Daemon × Daemon)}
      (threshold : Duration) : taken.length = 1 → Measures threshold program →
      daemon.session.snapshot.autoBurnSeconds ≠ 0 →
      Duration.ofSeconds daemon.session.snapshot.autoBurnSeconds ≤ threshold →
      Ticks program daemon taken
  | enters {program : Routine Response} {daemon : Daemon} {taken : List (Daemon × Daemon)} :
      taken.length = 2 → Enters program → Due daemon → Ticks program daemon taken
  | stays {program : Routine Response} {daemon : Daemon} {taken : List (Daemon × Daemon)} :
      program.Sections Stays → Ticks program daemon taken

theorem Duration.ofSeconds_ne_zero {seconds : Nat} (nonzero : seconds ≠ 0) :
    Duration.ofSeconds seconds ≠ 0 := by
  exact Nat.mul_ne_zero nonzero (by decide)

theorem Duration.ofSeconds_le {seconds seconds' : Nat} (le : seconds ≤ seconds') :
    Duration.ofSeconds seconds ≤ Duration.ofSeconds seconds' :=
  Nat.mul_le_mul_right _ le

theorem Ticks.carried : Follows.Carried Ticks where
  access := by
    intro awaits update next daemon taken ticks
    cases ticks with
    | looks none looks =>
        rcases looks with ⟨_, _, _, same, later⟩
        cases same
        rcases later daemon with ⟨kept, ended | ⟨enabled, measures⟩⟩
        · exact .stays ended
        · rw [kept]
          refine .measures _ (by simp [none]) measures (fun disabled => enabled ?_) (Nat.le_refl _)
          rw [disabled]
          rfl
    | measures threshold one measures enabled below =>
        rcases measures with ⟨_, _, _, same, later⟩
        cases same
        rcases later daemon with ⟨kept, ended | ⟨reached, enters⟩⟩
        · exact .stays ended
        · rw [kept]
          exact .enters (by simp [one]) enters
            ⟨Duration.ofSeconds_ne_zero enabled, Nat.le_trans below reached⟩
    | enters _ enters _ =>
        rcases enters with ⟨_, _, _, same, later⟩
        cases same
        exact .stays (later daemon)
    | stays stays => exact .stays (stays daemon).2
  call := by
    intro awaits request next reply daemon taken ticks
    cases ticks with
    | looks _ looks =>
        rcases looks with ⟨_, _, _, same, _⟩
        cases same
    | measures _ _ measures _ _ =>
        rcases measures with ⟨_, _, _, same, _⟩
        cases same
    | enters _ enters _ =>
        rcases enters with ⟨_, _, _, same, _⟩
        cases same
    | stays stays => exact .stays (stays reply)

/-- The decision stands as long as what it was taken on does. -/
theorem Ticks.heeded {program : Routine Response} {before after : Daemon}
    {taken : List (Daemon × Daemon)} (ticks : Ticks program before taken)
    (heeds : Heeds taken before after) (later : before.now ≤ after.now) :
    Ticks program after taken := by
  cases ticks with
  | looks none looks => exact .looks none looks
  | measures threshold one measures enabled below =>
      rcases heeds.threshold (Nat.le_of_eq one.symm) enabled with ⟨enabled', lowered⟩
      exact .measures threshold one measures enabled'
        (Nat.le_trans (Duration.ofSeconds_le lowered) below)
  | enters two enters due =>
      have enabled : before.session.snapshot.autoBurnSeconds ≠ 0 := by
        intro disabled
        apply due.enabled
        rw [disabled]
        rfl
      rcases heeds.threshold (by omega) enabled with ⟨enabled', lowered⟩
      refine .enters two enters ⟨Duration.ofSeconds_ne_zero enabled', ?_⟩
      rw [heeds.activity (Nat.le_of_eq two.symm)]
      calc Duration.ofSeconds after.session.snapshot.autoBurnSeconds
          ≤ Duration.ofSeconds before.session.snapshot.autoBurnSeconds :=
            Duration.ofSeconds_le lowered
        _ ≤ before.now - before.session.lastActivity := due.elapsed
        _ ≤ after.now - before.session.lastActivity := Nat.sub_le_sub_right later _
  | stays stays => exact .stays stays

/-! ## The result -/

section Result

variable {app : AppState} {W O N : Type} {answer : Answer Call Call.Reply W O}
  {world : N → Daemon → W → Option W}

/-- Time does not go back in the steps of the others. -/
theorem now_le_of_other {config config' : Config Daemon Call Call.Reply Response W}
    {label : Pool.Label Lifecycle Request (Environment N) O}
    (framed : config.Framed LifecycleStep RequestStep)
    (foreign : ¬ Subject.operation.Owns label) (goesOn : ¬ Subject.operation.Ends label)
    (step : (app.service answer world).step config label = some config') :
    config.memory.now ≤ config'.memory.now := by
  have advances := ((service_framed app answer world).step framed step).2
  cases label with
  | step outcome => exact absurd trivial foreign
  | drop outcome | finish => exact absurd trivial goesOn
  | stepTask index outcome => exact Nat.le_of_eq advances.1.now.symm
  | start op | spawn task | dropTask index outcome =>
      exact Nat.le_of_eq (congrArg Daemon.now advances.1.symm)
  | noise event =>
      cases event with
      | elapse duration =>
          rw [← (Prod.mk.inj (Option.some.inj advances)).1]
          exact Nat.le_add_right _ _
      | setClock utc =>
          have same : config.memory.now = config'.memory.now := by
            rw [← (Prod.mk.inj (Option.some.inj advances)).1]
          exact Nat.le_of_eq same
      | world event =>
          rcases Option.map_eq_some_iff.mp advances with ⟨_, _, equal⟩
          exact Nat.le_of_eq (congrArg Daemon.now (Prod.mk.inj equal).1)

/-- A tick that is heeded enters the burning phase only if the session is due at
that moment, whatever settings operations have been served by then. -/
theorem due_of_enters {daemon : Daemon} {state : W} {outcome : Option O}
    {config opened deciding entered : Config Daemon Call Call.Reply Response W}
    {taken : List (Daemon × Daemon)}
    (reaches : (app.service answer world).Reaches (.idle daemon state) config)
    (started : (app.service answer world).step config (.start .autoBurnIfDue) = some opened)
    (follows : Follows (app.service answer world) Heeds opened .operation .operation deciding taken)
    (step : (app.service answer world).step deciding (.step outcome) = some entered)
    (before : deciding.memory.session.snapshot.phase ≠ .burning)
    (burning : entered.memory.session.snapshot.phase = .burning) : Due deciding.memory := by
  have pool_framed := service_framed app answer world
  have framed := (pool_framed.step (pool_framed.reaches (.idle daemon state) reaches) started).1
  obtain rfl := Contract.entered started
  have looks : Looks (app.lifecycle .autoBurnIfDue) :=
    (autoBurnIfDue_looks app).bind fun _ => trivial
  have ticking : ∃ program, Subject.operation.program deciding = some program ∧
      Ticks program deciding.memory taken := by
    refine follows.invariant Ticks.carried ?_ rfl (.looks rfl looks)
    intro current before after label taken program followed foreign goesOn heeds step ticks
    obtain rfl := followed.eq_operation
    exact ticks.heeded heeds
      (now_le_of_other (pool_framed.reaches framed followed.reaches) foreign goesOn step)
  rcases ticking with ⟨program, running, ticks⟩
  have owns : Subject.operation.Owns
      (.step outcome : Pool.Label Lifecycle Request (Environment N) O) := trivial
  rcases Subject.advance_of_owns owns step with
    ⟨program', chosen, after, present, advanced, _, memory⟩
  obtain rfl := Option.some.inj (running.symm.trans present)
  rw [memory] at burning
  cases ticks with
  | looks _ looks =>
      rcases looks with ⟨_, _, _, rfl, later⟩
      cases advanced
      dsimp only at burning
      rw [(later deciding.memory).1] at burning
      exact absurd burning before
  | measures _ _ measures _ _ =>
      rcases measures with ⟨_, _, _, rfl, later⟩
      cases advanced
      dsimp only at burning
      rw [(later deciding.memory).1] at burning
      exact absurd burning before
  | enters _ _ due => exact due
  | stays stays =>
      cases program with
      | done result => cases advanced
      | access awaits update next =>
          cases advanced
          exact absurd ((stays deciding.memory).1 burning) before
      | call awaits request next =>
          rcases Option.bind_eq_some_iff.mp advanced with ⟨_, _, replied⟩
          rcases Option.map_eq_some_iff.mp replied with ⟨_, _, rfl⟩
          exact absurd burning before

end Result

/-! ## Runs -/

namespace Sample

/-- The first client opens a session and forgets it until it is due. -/
def neglected : List (ServiceLabel Unit Empty) :=
  openSession () 8 ++ [.finish, .noise (.elapse (Duration.ofSeconds 1800))]

/-- The tick reads threshold and idle time. -/
def reads : List (ServiceLabel Unit Empty) :=
  [.step none, .step none]

/-- The first client asks for an earlier inactivity burn, and forgets the session again. -/
def lowers : List (ServiceLabel Unit Empty) :=
  [.spawn (.setAutoBurnSeconds 0 600), .stepTask 1 none, .stepTask 1 none,
    .noise (.elapse (Duration.ofSeconds 1800))]

/-- A step of others that does not raise the threshold. -/
def heedsThreshold (config : Config Daemon Call Call.Reply Response Unit)
    (label : ServiceLabel Unit Empty) : Bool :=
  let lower target :=
    target.memory.session.snapshot.autoBurnSeconds ≠ 0 &&
      target.memory.session.snapshot.autoBurnSeconds ≤ config.memory.session.snapshot.autoBurnSeconds
  match label with
  | .step _ | .drop _ | .finish => false
  | label => ((app.service willing AppState.still).step config label).all lower

/-- The first client disables the inactivity burn and is told so. -/
def disables : List (ServiceLabel Unit Empty) :=
  [.spawn (.setAutoBurnSeconds 0 0), .stepTask 1 none, .stepTask 1 none]

end Sample

/-- A tick that has read the old values burns a session although its client was
told that there will be no inactivity burn. -/
theorem not_due_of_disables :
    ¬ ∀ (config opened deciding entered : Config Daemon Call Call.Reply Response Unit)
      (taken : List (Daemon × Daemon)) (index : Nat) (shown : SessionSnapshot),
      (Sample.app.service Sample.willing AppState.still).Reaches (.idle Sample.daemon ()) config →
      (Sample.app.service Sample.willing AppState.still).step config (.start .autoBurnIfDue) =
        some opened →
      Follows (Sample.app.service Sample.willing AppState.still) (fun _ _ _ => True) opened
        .operation .operation deciding taken →
      (Subject.task index).result deciding = some (.snapshot (.ok shown)) →
      (Sample.app.service Sample.willing AppState.still).step deciding (.step none) =
        some entered →
      deciding.memory.session.snapshot.phase ≠ .burning →
      entered.memory.session.snapshot.phase = .burning → Due deciding.memory := by
  intro always
  have executed : (((run (Sample.app.service Sample.willing AppState.still).step
      (.idle Sample.daemon ()) Sample.neglected).bind fun config =>
      ((Sample.app.service Sample.willing AppState.still).step config
        (.start .autoBurnIfDue)).bind fun opened =>
      (run (Sample.app.service Sample.willing AppState.still).step opened
        (Sample.reads ++ Sample.disables)).bind fun deciding =>
      ((Sample.app.service Sample.willing AppState.still).step deciding (.step none)).bind
        fun entered => (((Subject.task 1).result deciding).bind Response.shown).map fun shown =>
          (shown.autoBurnSeconds, deciding.memory.session.snapshot.autoBurnSeconds,
            deciding.memory.session.snapshot.phase, entered.memory.session.snapshot.phase))) =
      some (0, 0, .active, .burning) := by
    decide +kernel
  rcases Option.bind_eq_some_iff.mp executed with ⟨config, reached, executed⟩
  rcases Option.bind_eq_some_iff.mp executed with ⟨opened, started, executed⟩
  rcases Option.bind_eq_some_iff.mp executed with ⟨deciding, followed, executed⟩
  rcases Option.bind_eq_some_iff.mp executed with ⟨entered, step, executed⟩
  rcases Option.map_eq_some_iff.mp executed with ⟨shown, told, values⟩
  rcases Option.bind_eq_some_iff.mp told with ⟨response, finished, told⟩
  obtain rfl := Response.eq_of_shown told
  simp only [Prod.mk.injEq] at values
  rcases values with ⟨_, disabled, active, burning⟩
  have notBurning : deciding.memory.session.snapshot.phase ≠ .burning := by
    simp [active]
  have follows : ∃ taken, Follows (Sample.app.service Sample.willing AppState.still)
      (fun _ _ _ => True) opened .operation .operation deciding taken := by
    apply Follows.of_run .refl followed
    simp [Sample.reads, Sample.disables, Subject.Owns, Subject.Ends, Subject.after]
  rcases follows with ⟨taken, follows⟩
  have due := always config opened deciding entered taken 1 shown (reachable_of_run reached)
    started follows finished step notBurning burning
  apply due.enabled
  rw [disabled]
  rfl

/-- A step that the check accepts is one of others, and is heeded by a tick that has read
the threshold only. -/
theorem Sample.heeds_of_heedsThreshold {taken : List (Daemon × Daemon)} (one : taken.length = 1)
    (config : Config Daemon Call Call.Reply Response Unit) (label : ServiceLabel Unit Empty)
    (target : Config Daemon Call Call.Reply Response Unit)
    (heeds : Sample.heedsThreshold config label = true)
    (step : (Sample.app.service Sample.willing AppState.still).step config label = some target) :
    ¬ Subject.operation.Owns label ∧ ¬ Subject.operation.Ends label ∧
      Subject.operation.after label = Subject.operation ∧
        Heeds taken config.memory target.memory := by
  have lower (accepted : ((Sample.app.service Sample.willing AppState.still).step config label).all
      (fun target => target.memory.session.snapshot.autoBurnSeconds ≠ 0 &&
        target.memory.session.snapshot.autoBurnSeconds ≤
          config.memory.session.snapshot.autoBurnSeconds) = true) :
      Heeds taken config.memory target.memory := by
    rw [step, Option.all_some, Bool.and_eq_true, decide_eq_true_eq, decide_eq_true_eq] at accepted
    exact ⟨fun _ _ => accepted, fun two => by omega⟩
  cases label with
  | step _ | drop _ | finish => cases heeds
  | start _ | spawn _ | stepTask _ _ | dropTask _ _ | noise _ =>
      exact ⟨id, id, rfl, lower heeds⟩

/-- A session that is forgotten is burned when it is due, with the threshold lowered
while the tick reads it. -/
theorem due_of_enters_of_neglected :
    ∃ deciding entered : Config Daemon Call Call.Reply Response Unit,
      (Sample.app.service Sample.willing AppState.still).step deciding (.step none) =
        some entered ∧
      deciding.memory.session.snapshot.phase = .active ∧
      deciding.memory.session.snapshot.autoBurnSeconds = 600 ∧
      entered.memory.session.snapshot.phase = .burning ∧ Due deciding.memory := by
  have executed : (((run (Sample.app.service Sample.willing AppState.still).step
      (.idle Sample.daemon ()) Sample.neglected).bind fun config =>
      ((Sample.app.service Sample.willing AppState.still).step config
        (.start .autoBurnIfDue)).bind fun opened =>
      ((Sample.app.service Sample.willing AppState.still).step opened (.step none)).bind fun read =>
      (run (guarded (Sample.app.service Sample.willing AppState.still).step Sample.heedsThreshold)
        read Sample.lowers).bind fun lowered =>
      ((Sample.app.service Sample.willing AppState.still).step lowered (.step none)).bind
        fun deciding =>
      ((Sample.app.service Sample.willing AppState.still).step deciding (.step none)).map
        fun entered => (deciding.memory.session.snapshot.phase,
          deciding.memory.session.snapshot.autoBurnSeconds,
          entered.memory.session.snapshot.phase))) =
      some (.active, 600, .burning) := by
    decide +kernel
  rcases Option.bind_eq_some_iff.mp executed with ⟨config, reached, executed⟩
  rcases Option.bind_eq_some_iff.mp executed with ⟨opened, started, executed⟩
  rcases Option.bind_eq_some_iff.mp executed with ⟨read, first, executed⟩
  rcases Option.bind_eq_some_iff.mp executed with ⟨lowered, settings, executed⟩
  rcases Option.bind_eq_some_iff.mp executed with ⟨deciding, second, executed⟩
  rcases Option.map_eq_some_iff.mp executed with ⟨entered, step, values⟩
  simp only [Prod.mk.injEq] at values
  rcases values with ⟨active, threshold, burning⟩
  have notBurning : deciding.memory.session.snapshot.phase ≠ .burning := by
    simp [active]
  have owns : Subject.operation.Owns (.step none : Sample.ServiceLabel Unit Empty) := trivial
  have measured : Follows (Sample.app.service Sample.willing AppState.still) Heeds opened
      .operation .operation read [(opened.memory, read.memory)] :=
    Follows.refl.own owns first
  have follows := (measured.others_of_run (Sample.heeds_of_heedsThreshold rfl) settings).own
    owns second
  exact ⟨deciding, entered, step, active, threshold, burning,
    due_of_enters (reachable_of_run reached) started follows step notBurning burning⟩

end XanhTab
