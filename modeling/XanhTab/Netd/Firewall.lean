import XanhTab.Netd.Handler
import XanhTab.Program.Rules
import XanhTab.Transition.Simulation

/-!
# The mode of the network helper and its firewall

While no request is handled, the mode that the helper remembers describes the
rules that were committed last: the allow policy of the mode or, when there is
no mode, rules that drop all output of the browser.

A transition clears the mode before its first command.  When the kill switch
cannot be put in place, or when the deadline drops the transition, it ends with
whatever rules are in force at that point.  An observer keeps account of how far
a handler has come, and the runs considered here are those in which no handler
ends so before it has closed the firewall.
-/

namespace XanhTab

open Program Transition

/-! ## Commands -/

/-- A command of the kill-switch plan with the result ends the plan. -/
def CommandResult.stops (spec : CommandSpec) : CommandResult → Bool
  | succeeded => false
  | failed stderr => !Netd.ignores true false spec stderr
  | broken _ => true

namespace Kernel

/-- The kernel that a dropped handler leaves, given the call that it waited for. -/
def afterDrop (inFlight : Option (NetCall × Option NetOutcome)) (kernel : Kernel) : Kernel :=
  match inFlight with
  | some (.run spec, some (.ran result commits)) => kernel.after spec result commits
  | _ => kernel

theorem afterDrop_unsent (request : NetCall) (kernel : Kernel) :
    kernel.afterDrop (some (request, none)) = kernel := by
  cases request <;> rfl

theorem afterDrop_unread {request : NetCall} {outcome : NetOutcome} {kernel after : Kernel}
    {reply : request.Reply} (answered : answer request outcome kernel = some (reply, after)) :
    kernel.afterDrop (some (request, some outcome)) = after := by
  cases request <;> cases outcome <;> cases answered <;> rfl

theorem answer_run {spec : CommandSpec} {outcome : NetOutcome} {kernel after : Kernel}
    {result : CommandResult} (answered : answer (.run spec) outcome kernel = some (result, after)) :
    ∃ commits, outcome = .ran result commits ∧ after = kernel.after spec result commits := by
  cases outcome with
  | ran result commits =>
      cases answered
      exact ⟨commits, rfl, rfl⟩
  | present _ | listed _ | located _ | checked _ => cases answered

end Kernel

/-- The command is carried out, whether or not this is observed. -/
def CommandResult.carriesOut (commits : Bool) : CommandResult → Bool
  | succeeded => true
  | failed _ => false
  | broken _ => commits

/-- A command that is not carried out, or has no script, leaves the rules alone. -/
theorem Kernel.rules_after {spec : CommandSpec} {result : CommandResult} {commits : Bool}
    (idle : result.carriesOut commits = true → spec.stdin = none) (kernel : Kernel) :
    (kernel.after spec result commits).rules = kernel.rules := by
  cases result with
  | succeeded => exact CommandSpec.execute_of_stdin (idle rfl) kernel.rules
  | failed _ => rfl
  | broken _ =>
      cases commits with
      | true => exact CommandSpec.execute_of_stdin (idle rfl) kernel.rules
      | false => rfl

/-- A command that is carried out has been executed. -/
theorem Kernel.rules_of_carriesOut {spec : CommandSpec} {result : CommandResult} {commits : Bool}
    (carriedOut : result.carriesOut commits = true) (kernel : Kernel) :
    (kernel.after spec result commits).rules = spec.execute kernel.rules := by
  cases result with
  | succeeded => rfl
  | failed _ => cases carriedOut
  | broken _ =>
      obtain rfl : commits = true := carriedOut
      rfl

/-- A call that cannot change the rules. -/
def NetCall.Quiet (request : NetCall) : Prop :=
  ∀ outcome kernel reply after, Kernel.answer request outcome kernel = some (reply, after) →
    after.rules = kernel.rules

theorem NetCall.quiet_run {spec : CommandSpec} (silent : spec.stdin = none) :
    (NetCall.run spec).Quiet := by
  intro outcome kernel result after answered
  rcases Kernel.answer_run answered with ⟨commits, _, rfl⟩
  exact Kernel.rules_after (fun _ => silent) kernel

theorem NetCall.quiet_of_inspects {request : NetCall} (inspects : request.Inspects) :
    request.Quiet := by
  intro outcome kernel reply after answered
  cases request with
  | run spec => exact inspects.elim
  | interfaceExists | showRules _ | validateProxy _ | validateWireguardConfig | connect _ =>
      cases outcome <;> cases answered
      rfl

/-! ## How far a handler has come -/

/-- The handler that took the mutex last has not closed the firewall yet and found
this mode remembered, has closed it, or has opened it. -/
inductive Stage
  | opening (found : Option EgressMode)
  | closed
  | opened
  deriving DecidableEq

namespace Stage

variable (config : NetworkConfig)

/-- No mode can be in force. -/
def Secure : Stage → Prop
  | opening found => found = none
  | closed => True
  | opened => False

instance (stage : Stage) : Decidable stage.Secure := by
  cases stage <;> unfold Secure <;> infer_instance

/-- The transaction of the kill switch is carried out. -/
def closes : NetCall → Option NetOutcome → Bool
  | .run spec, some (.ran result commits) =>
      spec = nftTransaction config none none && result.carriesOut commits
  | _, _ => false

/-- A plan of the kill switch ends with this command. -/
def stops : NetCall → Option NetOutcome → Bool
  | .run spec, some (.ran result _) => spec ∈ killSwitchPlan config && result.stops spec
  | _, _ => false

/-- Another transaction is carried out. -/
def opens : NetCall → Option NetOutcome → Bool
  | .run spec, some (.ran result commits) =>
      spec ≠ nftTransaction config none none && spec.stdin.isSome && result.carriesOut commits
  | _, _ => false

def after (request : NetCall) (outcome : Option NetOutcome) (stage : Stage) : Stage :=
  if closes config request outcome then .closed
  else if opens config request outcome then .opened else stage

def note (current : NetConfiguration) (label : NetLabel) (stage : Stage) : Stage :=
  match label, current.asks with
  | .start _, _ => .opening current.memory.activeMode
  | .step outcome, some request => stage.after config request outcome
  | .drop outcome, some request => stage.after config request outcome
  | _, _ => stage

end Stage

/-- No plan of the kill switch ends early, and the deadline drops no handler, where a
mode can be in force, unless that command closes the firewall; and no handler is
dropped at a command that opens the firewall. -/
def Netd.ClosesInTime (config : NetworkConfig) (current : NetConfiguration × Stage) :
    NetLabel → Prop
  | .step outcome => ∀ request ∈ current.1.asks, Stage.stops config request outcome = true →
      current.2.Secure ∨ Stage.closes config request outcome = true
  | .drop outcome =>
      (current.2.Secure ∧
        ∀ request ∈ current.1.asks, Stage.opens config request outcome = false) ∨
      ∃ request ∈ current.1.asks, Stage.closes config request outcome = true
  | _ => True

instance (config : NetworkConfig) (current : NetConfiguration × Stage) (label : NetLabel) :
    Decidable (Netd.ClosesInTime config current label) := by
  cases label <;> unfold Netd.ClosesInTime <;> infer_instance

/-- The helper, with an observer that keeps account of its handler. -/
def Netd.watched (config : NetworkConfig) : Step (NetConfiguration × Stage) NetLabel :=
  Transition.watched (Netd.pool config).step (Stage.note config)

/-! ## The contract -/

/-- When a command of the kill-switch plan ends the plan, or a handler is
dropped, the output of the browser is dropped by the rules in force. -/
def Netd.heldOnFailure (config : NetworkConfig) :
    Assumptions NetworkState NetCall (Noted Kernel Resolved) NetOutcome where
  reply request outcome _ world := ∀ spec result commits, request = .run spec →
    outcome = .ran result commits → spec ∈ killSwitchPlan config → result.stops spec = true →
    Held config (world.state.after spec result commits).rules
  drop inFlight _ world := Held config (world.state.afterDrop inFlight).rules

def firewallContract (config : NetworkConfig) : Contract NetworkState NetCall
    (EgressCommand × EgressResponse) (Noted Kernel Resolved) NetOutcome where
  always state world := ∀ mode, state.activeMode = some mode →
    Allows config mode (world.notes.endpoint mode) world.state.rules
  atRest state world := state.activeMode = none → Held config world.state.rules
  finish result state world := (state.activeMode = none → Held config world.state.rules) ∧
    (result.1 = .status →
      result.2.detail = "browser UID is held by the transition kill-switch" →
      Held config world.state.rules)
  rely state world state' world' := state' = state ∧ world' = world
  assume := Netd.heldOnFailure config

namespace firewallContract

variable {config : NetworkConfig}

/-- The helper answers, and notes what it has validated. -/
abbrev answer : Answer NetCall NetCall.Reply (Noted Kernel Resolved) NetOutcome :=
  Answer.noting Resolved.note Kernel.answer

/-- Nothing interferes with a handler. -/
theorem stable (assertion : NetworkState → Noted Kernel Resolved → Prop) :
    (firewallContract config).Stable assertion := by
  rintro state world _ _ _ ⟨rfl, rfl⟩ _ holds
  exact holds

def asserting (holds : NetworkState → Noted Kernel Resolved → Prop) :
    (firewallContract config).Assertion where
  holds := holds
  stable := stable holds

/-- The mode is cleared, and the rules in force and the notes have the property. -/
def cleared (property : List NftRule → Resolved → Prop) : (firewallContract config).Assertion :=
  asserting fun state world =>
    state.activeMode = none ∧ property world.state.rules world.notes

abbrev unknown : (firewallContract config).Assertion :=
  cleared fun _ _ => True

abbrev held : (firewallContract config).Assertion :=
  cleared fun rules _ => Held config rules

def resting : (firewallContract config).Assertion :=
  asserting fun state world => state.activeMode = none → Held config world.state.rules

abbrev Outline (config : NetworkConfig) {α : Type} (pre : (firewallContract config).Assertion)
    (program : NetRoutine α) (post : α → (firewallContract config).Assertion) : Prop :=
  (firewallContract config).Spec answer pre program post

theorem done {α : Type} {result : α} {property : List NftRule → Resolved → Prop} :
    Outline config (cleared property) (.done result)
      fun _ => cleared property :=
  Contract.Spec.done fun _ _ _ holds => holds

theorem forget {α : Type} {property : List NftRule → Resolved → Prop} {program : NetRoutine α}
    {post : α → (firewallContract config).Assertion}
    (outline : Outline config unknown program post) :
    Outline config (cleared property) program post :=
  outline.weaken fun _ _ _ holds => ⟨holds.1, trivial⟩

/-- A call of a transition, from what its admitted outcomes do to the rules. -/
theorem call {α : Type} {awaits : Bool} {request : NetCall} {next : request.Reply → NetRoutine α}
    {property : List NftRule → Resolved → Prop} {post : α → (firewallContract config).Assertion}
    (after : request.Reply → List NftRule → Resolved → Prop)
    (steps : ∀ state world, property world.state.rules world.notes →
      ∀ outcome reply kernel', Kernel.answer request outcome world.state = some (reply, kernel') →
      (Netd.heldOnFailure config).reply request outcome state world →
      after reply kernel'.rules (Resolved.note request reply world.notes))
    (rest : ∀ reply, Outline config (cleared (after reply)) (next reply) post) :
    Outline config (cleared property) (.call awaits request next) post := by
  refine Contract.Triple.bind (Contract.Triple.ask (stable _)
    (fun reply => (cleared (after reply)).stable) ?_ ?_ ?_) rest
  · intro _ state world _ _ dropped _
    rwa [← world.state.afterDrop_unsent request]
  · intro _ state world _ satisfied outcome reply world' answered dropped _
    have kept := (Answer.noting_eq_some answered).1
    refine ⟨trivial, fun mode active => ?_, fun _ => ?_⟩
    · rw [satisfied.1] at active
      cases active
    · rw [← Kernel.afterDrop_unread kept]
      exact dropped
  · intro state world _ satisfied outcome reply world' answered assumed _
    obtain ⟨given, noted⟩ := Answer.noting_eq_some answered
    refine ⟨trivial, fun mode active => ?_, satisfied.1, ?_⟩
    · rw [satisfied.1] at active
      cases active
    · rw [noted]
      exact steps state world satisfied.2 outcome reply world'.state given assumed

theorem callQuiet {α : Type} {awaits : Bool} {request : NetCall}
    {next : request.Reply → NetRoutine α} {property : List NftRule → Resolved → Prop}
    {post : α → (firewallContract config).Assertion} (quiet : request.Quiet)
    (unnoted : ∀ reply known, Resolved.note request reply known = known)
    (rest : ∀ reply, Outline config (cleared property) (next reply) post) :
    Outline config (cleared property) (.call awaits request next) post := by
  refine call (fun _ => property) (fun state world holds outcome reply kernel' answered _ => ?_)
    rest
  rw [quiet outcome world.state reply kernel' answered, unnoted]
  exact holds

/-! ## Plans -/

theorem runPlan_silent {allowExistingTable ignoreFailures : Bool} {plan : List CommandSpec}
    {property : List NftRule → Resolved → Prop} (silent : ∀ spec ∈ plan, spec.stdin = none) :
    Outline config (cleared property)
      (Netd.runPlan allowExistingTable ignoreFailures plan) fun _ => cleared property := by
  induction plan with
  | nil => exact done
  | cons spec rest ih =>
      have remaining := ih fun later member => silent later (List.mem_cons_of_mem spec member)
      refine callQuiet (NetCall.quiet_run (silent spec List.mem_cons_self)) (fun _ _ => rfl)
        fun result => ?_
      cases result with
      | succeeded => exact remaining
      | broken detail => exact done
      | failed stderr =>
          dsimp only
          split
          · exact remaining
          · exact done

/-- A command of the kill-switch plan, from what holds when it does not end the plan. -/
theorem callKillSwitch {α : Type} {spec : CommandSpec} {next : CommandResult → NetRoutine α}
    {post : α → (firewallContract config).Assertion} (passed : List NftRule → Prop)
    (member : spec ∈ killSwitchPlan config)
    (passes : ∀ (result : CommandResult) commits (kernel : Kernel), result.stops spec = false →
      passed (kernel.after spec result commits).rules)
    (rest : ∀ result, Outline config
      (cleared fun rules _ => if result.stops spec then Held config rules else passed rules)
      (next result) post) :
    Outline config unknown (.call true (.run spec) next) post := by
  refine call (fun result rules _ =>
      if result.stops spec then Held config rules else passed rules)
    (fun state world _ outcome result kernel' answered assumed => ?_) rest
  rcases Kernel.answer_run answered with ⟨commits, rfl, rfl⟩
  by_cases stops : result.stops spec = true
  · rw [if_pos stops]
    exact assumed spec result commits rfl rfl member stops
  · rw [if_neg stops]
    exact passes result commits world.state (Bool.eq_false_of_not_eq_true stops)

theorem runTransaction :
    Outline config unknown
      (Netd.runPlan true false [nftTransaction config none none]) fun _ => held := by
  refine callKillSwitch (Held config) (by simp [killSwitchPlan]) ?_ fun result => ?_
  · intro result commits kernel passes
    cases result with
    | succeeded =>
        show Held config ((nftTransaction config none none).execute kernel.rules)
        rw [nftTransaction_execute]
        exact held_killSwitch config
    | failed stderr =>
        simp [CommandResult.stops, Netd.ignores, Netd.ignorableExistingTable, nftTransaction,
          addTable] at passes
    | broken detail => cases passes
  · simp only [ite_self]
    cases result with
    | succeeded | broken _ => exact done
    | failed stderr =>
        dsimp only
        split
        · exact done
        · exact done

/-- The kill switch holds the browser, or it fails while the browser is held. -/
theorem killSwitch :
    Outline config unknown (Netd.killSwitch config) fun _ => held := by
  refine callKillSwitch (fun _ => True) List.mem_cons_self (fun _ _ _ _ => trivial)
    fun result => ?_
  cases result with
  | succeeded => exact runTransaction
  | broken detail => exact done
  | failed stderr =>
      by_cases ignored : Netd.ignores true false addTable stderr = true
      · simp only [CommandResult.stops, ignored]
        exact runTransaction
      · simp only [CommandResult.stops, ignored]
        exact done

theorem teardown {property : List NftRule → Resolved → Prop} :
    Outline config (cleared property)
      (Netd.teardownWireguard config) fun _ => cleared property := by
  have family : ∀ ipv6, Outline config (cleared property)
      (Netd.checkFamily config ipv6) fun _ => cleared property := by
    intro ipv6
    refine callQuiet (NetCall.quiet_of_inspects trivial) (fun _ _ => rfl) fun reply => ?_
    cases reply with
    | error _ => exact done
    | ok lines =>
        show Outline config _ (if _ then _ else _) _
        split
        · exact done
        · exact done
  refine Contract.Spec.andThen
    (runPlan_silent fun _ member => stdin_of_mem_teardown member)
    (fun _ _ _ _ holds => holds) fun _ => ?_
  refine callQuiet (NetCall.quiet_of_inspects trivial) (fun _ _ => rfl) fun present => ?_
  cases present with
  | true => exact done
  | false =>
      exact Contract.Spec.andThen (family false) (fun _ _ _ _ holds => holds) fun _ => family true

/-! ## Transitions -/

/-- The firewall is closed, and the endpoint is the one that was noted. -/
abbrev ready (mode : EgressMode) (endpoint : Option SocketAddr) :
    (firewallContract config).Assertion :=
  cleared fun rules notes =>
    Held config rules ∧ (mode.usesProxy = true → notes.endpoint mode = endpoint)

/-- What a validation leaves. -/
def resolved (mode : EgressMode) :
    Except String (Option SocketAddr) → (firewallContract config).Assertion
  | .ok endpoint => ready mode endpoint
  | .error _ => unknown

/-- What the inner part of a transition leaves. -/
def opened (mode : EgressMode) : Except String Unit → (firewallContract config).Assertion
  | .ok _ => cleared fun rules notes => Allows config mode (notes.endpoint mode) rules
  | .error _ => unknown

theorem endpointFor (mode : EgressMode) :
    Outline config held (Netd.endpointFor mode) (resolved mode) := by
  unfold Netd.endpointFor
  split
  · refine call (fun reply rules notes => Held config rules ∧
        ∀ endpoint, reply = .ok endpoint → notes.endpoint mode = some endpoint)
      (fun state world holds outcome reply kernel' answered _ => ?_) fun reply => ?_
    · refine ⟨?_, ?_⟩
      · have inspects : (NetCall.validateProxy mode).Inspects := trivial
        rw [NetCall.quiet_of_inspects inspects outcome world.state reply kernel' answered]
        exact holds
      · rintro endpoint rfl
        simp [Resolved.note, Resolved.endpoint]
    · cases reply with
      | error error => exact Contract.Spec.done fun _ _ _ holds => ⟨holds.1, trivial⟩
      | ok endpoint =>
          exact Contract.Spec.done fun _ _ _ holds =>
            ⟨holds.1, holds.2.1, fun _ => holds.2.2 endpoint rfl⟩
  · rename_i plain
    exact Contract.Spec.done fun _ _ _ holds =>
      ⟨holds.1, holds.2, fun proxied => absurd proxied plain⟩

theorem activatePolicy (mode : EgressMode) (endpoint : Option SocketAddr) :
    Outline config (ready mode endpoint) (Netd.activatePolicy config mode endpoint)
      (opened mode) := by
  by_cases refused : mode.usesProxy = true ∧ endpoint = none
  · have plan : activePolicyPlan config mode endpoint =
        .error "proxy egress requires a validated endpoint" := if_pos refused
    unfold Netd.activatePolicy
    rw [plan]
    exact forget (Contract.Spec.done fun _ _ _ holds => holds)
  · have plan : activePolicyPlan config mode endpoint =
        .ok [nftTransaction config (some mode) endpoint] := if_neg refused
    unfold Netd.activatePolicy
    rw [plan]
    refine call (fun result rules notes => result = CommandResult.succeeded →
        Allows config mode (notes.endpoint mode) rules)
      (fun state world holds outcome result kernel' answered _ => ?_) fun result => ?_
    · rcases Kernel.answer_run answered with ⟨commits, _, rfl⟩
      rintro rfl
      have committed : (world.state.after (nftTransaction config (some mode) endpoint) .succeeded
          commits).rules = policyRules config (some mode) endpoint :=
        nftTransaction_execute config (some mode) endpoint world.state.rules
      rw [committed]
      exact Allows.of_policy (fun proxied absent => refused ⟨proxied, absent⟩) holds.2
    · cases result with
      | succeeded => exact Contract.Spec.done fun _ _ _ holds => ⟨holds.1, holds.2 rfl⟩
      | broken detail => exact Contract.Spec.done fun _ _ _ holds => ⟨holds.1, trivial⟩
      | failed stderr => exact Contract.Spec.done fun _ _ _ holds => ⟨holds.1, trivial⟩

theorem setupWireguard {property : List NftRule → Resolved → Prop} (mode : EgressMode) :
    Outline config (cleared property) (Netd.setupWireguard config mode)
      fun _ => cleared property := by
  unfold Netd.setupWireguard
  split
  · refine callQuiet (NetCall.quiet_of_inspects trivial) (fun _ _ => rfl) fun reply => ?_
    cases reply with
    | error _ => exact done
    | ok _ => exact runPlan_silent fun _ member => stdin_of_mem_setup member
  · exact done

theorem transitionInner (mode : EgressMode) :
    Outline config held (Netd.transitionInner config mode) (opened mode) := by
  have probed : ∀ endpoint, Outline config (ready mode endpoint) (Netd.probeProxy endpoint)
      fun _ => ready mode endpoint := by
    intro endpoint
    cases endpoint with
    | none => exact done
    | some endpoint =>
        exact callQuiet (NetCall.quiet_of_inspects trivial) (fun _ _ => rfl) fun _ => done
  refine Contract.Spec.andThen teardown (fun _ _ _ _ holds => ⟨holds.1, trivial⟩) fun _ => ?_
  refine Contract.Spec.andThen (endpointFor mode) (fun _ _ _ _ holds => holds) fun endpoint => ?_
  have prepared : Outline config (ready mode endpoint) (Netd.setupWireguard config mode)
      fun _ => ready mode endpoint := setupWireguard mode
  refine Contract.Spec.andThen prepared (fun _ _ _ _ holds => ⟨holds.1, trivial⟩) fun _ => ?_
  exact Contract.Spec.andThen (probed endpoint) (fun _ _ _ _ holds => ⟨holds.1, trivial⟩)
    fun _ => activatePolicy mode endpoint

theorem restoreKillSwitch (error : String) :
    Outline config unknown (Netd.restoreKillSwitch config error) fun _ => held := by
  apply Contract.Spec.bind teardown
  intro cleanup
  cases cleanup with
  | ok _ =>
      apply Contract.Spec.bind killSwitch
      intro result
      cases result with
      | ok _ => exact done
      | error _ => exact done
  | error _ =>
      apply Contract.Spec.bind killSwitch
      intro result
      cases result with
      | ok _ => exact done
      | error _ => exact done

theorem transition (mode : EgressMode) :
    Outline config resting (Netd.transition config mode) fun _ => resting := by
  have clear : Outline config resting
      (.sync fun state => ((), { state with activeMode := none }) : NetRoutine Unit)
      fun _ => unknown := by
    refine Contract.Triple.transact resting.stable (fun _ => stable _) nofun ?_
    intro state kernel _ _ _ _
    exact ⟨trivial, fun _ active => (nomatch active), rfl, trivial⟩
  have remember : Outline config (opened mode (.ok ()))
      (.sync fun state => ((), { state with activeMode := some mode }) : NetRoutine Unit)
      fun _ => resting := by
    refine Contract.Triple.transact (stable _) (fun _ => resting.stable) nofun ?_
    intro state kernel _ holds _ _
    refine ⟨trivial, fun mode' active => ?_, fun idle => (nomatch idle)⟩
    obtain rfl := Option.some.inj active
    exact holds.2
  refine Contract.Spec.bind clear fun _ => ?_
  refine Contract.Spec.andThen killSwitch (fun _ _ _ _ holds _ => holds.2) fun _ => ?_
  refine Contract.Spec.bind (transitionInner mode) fun result => ?_
  cases result with
  | error error => exact (restoreKillSwitch error).relax fun _ _ _ _ holds _ => holds.2
  | ok _ =>
      exact Contract.Spec.bind remember fun _ => Contract.Spec.done fun _ _ _ holds => holds

theorem status : Outline config resting (Netd.execute config .status) fun result =>
    asserting fun state world => (state.activeMode = none → Held config world.state.rules) ∧
      result = .ok (Netd.statusResponse state) := by
  refine Contract.Triple.transact resting.stable (fun _ => stable _) nofun ?_
  intro state kernel good rest _ _
  exact ⟨trivial, good.2, rest, rfl⟩

/-- A transition meets the contract, and a status tells what it finds. -/
theorem handle (command : EgressCommand) :
    Outline config resting (Netd.handle config command)
      fun result => asserting ((firewallContract config).finish result) := by
  have answered : ∀ {changing : EgressCommand} (response : EgressResponse), changing ≠ .status →
      Outline config resting (.done (changing, response))
        fun result => asserting ((firewallContract config).finish result) := by
    intro changing response changes
    exact Contract.Spec.done fun _ _ _ rest => ⟨rest, fun status => absurd status changes⟩
  cases command with
  | apply mode =>
      apply Contract.Spec.bind (transition mode)
      intro result
      cases result with
      | ok response => exact answered response (by simp)
      | error error => exact answered _ (by simp)
  | reset =>
      apply Contract.Spec.bind (transition .direct)
      intro result
      cases result with
      | ok response => exact answered response (by simp)
      | error error => exact answered _ (by simp)
  | status =>
      refine Contract.Spec.bind status fun result => ?_
      cases result with
      | error _ =>
          apply Contract.Spec.done
          intro _ _ _ found
          cases found.2
      | ok response =>
          refine Contract.Spec.done fun state kernel _ found => ⟨found.1, fun _ detail => ?_⟩
          have equal : response = Netd.statusResponse state := Except.ok.inj found.2
          rw [equal] at detail
          apply found.1
          cases active : state.activeMode with
          | none => rfl
          | some mode => simp [Netd.statusResponse, active] at detail

theorem established (config : NetworkConfig) :
    (firewallContract config).Established (Netd.pool config) where
  operation command := handle command
  task task := task.elim
  noise event := event.elim
  resting := by
    rintro state kernel _ _ _ ⟨rfl, rfl⟩ _ rest
    exact rest
  finished _ _ _ _ finished := finished.1

end firewallContract

/-! ## The initial kernel -/

namespace Netd

variable {config : NetworkConfig}

theorem rules_of_runPlan {allowExistingTable ignoreFailures : Bool} {plan : List CommandSpec}
    {state state' : NetworkState} {kernel kernel' : Kernel} {result : Except String Unit}
    (silent : ∀ spec ∈ plan, spec.stdin = none)
    (ends : (runPlan allowExistingTable ignoreFailures plan).Ends Kernel.answer state kernel
      result state' kernel') : kernel'.rules = kernel.rules := by
  induction plan generalizing kernel with
  | nil => rw [ends.2.2]
  | cons spec rest ih =>
      rcases ends with ⟨outcome, reply, middle, answered, ends⟩
      have kept := NetCall.quiet_run (silent spec List.mem_cons_self) _ _ _ _ answered
      have later : ∀ spec ∈ rest, spec.stdin = none :=
        fun other member => silent other (List.mem_cons_of_mem spec member)
      rw [← kept]
      cases reply with
      | succeeded => exact ih later ends
      | broken _ => rw [ends.2.2]
      | failed stderr =>
          dsimp only at ends
          split at ends
          · exact ih later ends
          · rw [ends.2.2]

theorem rules_of_transaction {state state' : NetworkState} {kernel kernel' : Kernel}
    (ends : (runPlan true false [nftTransaction config none none]).Ends Kernel.answer state kernel
      (.ok ()) state' kernel') : kernel'.rules = policyRules config none none := by
  rcases ends with ⟨outcome, reply, middle, answered, ends⟩
  rcases Kernel.answer_run answered with ⟨commits, _, rfl⟩
  cases reply with
  | succeeded =>
      rw [← ends.2.2]
      exact nftTransaction_execute config none none kernel.rules
  | broken _ => cases ends.1
  | failed stderr =>
      dsimp only at ends
      rw [if_neg (by simp [ignores, ignorableExistingTable, nftTransaction, addTable])] at ends
      cases ends.1

/-- A kill switch that succeeds is in force. -/
theorem rules_of_killSwitch {state state' : NetworkState} {kernel kernel' : Kernel}
    (ends : (killSwitch config).Ends Kernel.answer state kernel (.ok ()) state' kernel') :
    kernel'.rules = policyRules config none none := by
  rcases ends with ⟨outcome, reply, middle, _, ends⟩
  cases reply with
  | succeeded => exact rules_of_transaction ends
  | broken _ => cases ends.1
  | failed stderr =>
      dsimp only at ends
      split at ends
      · exact rules_of_transaction ends
      · cases ends.1

theorem rules_of_call {α : Type} {awaits : Bool} {request : NetCall}
    {next : request.Reply → NetRoutine α} {state state' : NetworkState} {kernel kernel' : Kernel}
    {result : α} (quiet : request.Quiet)
    (ends : (Program.call awaits request next).Ends Kernel.answer state kernel result state'
      kernel') :
    ∃ reply middle, middle.rules = kernel.rules ∧
      (next reply).Ends Kernel.answer state middle result state' kernel' := by
  rcases ends with ⟨outcome, reply, middle, answered, ends⟩
  exact ⟨reply, middle, quiet outcome kernel reply middle answered, ends⟩

theorem rules_of_checkFamily {ipv6 : Bool} {state state' : NetworkState} {kernel kernel' : Kernel}
    {result : Except String Unit}
    (ends : (checkFamily config ipv6).Ends Kernel.answer state kernel result state' kernel') :
    kernel'.rules = kernel.rules := by
  have quiet : (NetCall.showRules ipv6).Quiet := NetCall.quiet_of_inspects trivial
  rcases rules_of_call quiet ends with ⟨reply, middle, kept, ends⟩
  rw [← kept]
  cases reply with
  | error _ => rw [ends.2.2]
  | ok lines =>
      change Program.Ends Kernel.answer (if _ then _ else _) _ _ _ _ _ at ends
      split at ends
      · rw [ends.2.2]
      · rw [ends.2.2]

/-- The teardown leaves the rules alone. -/
theorem rules_of_teardown {state state' : NetworkState} {kernel kernel' : Kernel}
    {result : Except String Unit}
    (ends : (teardownWireguard config).Ends Kernel.answer state kernel result state' kernel') :
    kernel'.rules = kernel.rules := by
  rcases ends_bind.mp ends with ⟨removed, _, _, planned, ends⟩
  rw [← rules_of_runPlan (fun _ member => stdin_of_mem_teardown member) planned]
  cases removed with
  | error _ => rw [ends.2.2]
  | ok _ =>
      have quiet : NetCall.interfaceExists.Quiet := NetCall.quiet_of_inspects trivial
      rcases rules_of_call quiet ends with ⟨present, _, kept, ends⟩
      rw [← kept]
      cases present with
      | true => rw [ends.2.2]
      | false =>
          rcases ends_bind.mp ends with ⟨first, _, _, checked, ends⟩
          rw [← rules_of_checkFamily checked]
          cases first with
          | error _ => rw [ends.2.2]
          | ok _ => exact rules_of_checkFamily ends

theorem held_of_initialized {kernel : Kernel} (initialized : Initialized config kernel) :
    Held config kernel.rules := by
  rcases initialized with ⟨before, ends⟩
  rcases ends_bind.mp ends with ⟨first, state, middle, switched, ends⟩
  cases first with
  | error _ => cases ends.1
  | ok _ =>
      rw [rules_of_teardown ends, rules_of_killSwitch switched]
      exact held_killSwitch config

end Netd

/-! ## The result of the contract -/

/-- The firewall agrees with the mode that the helper remembers, whenever the
mutex is free, and with what a status says of it. -/
structure FirewallAgrees (config : NetworkConfig) (reached : NetConfiguration) : Prop where
  allowed : reached.holder = none → ∀ mode, reached.memory.activeMode = some mode →
    Allows config mode (reached.world.notes.endpoint mode) reached.world.state.rules
  held : reached.holder = none → reached.memory.activeMode = none →
    Held config reached.world.state.rules
  reported : ∀ response, reached.result = some (.status, response) →
    response.detail = "browser UID is held by the transition kill-switch" →
    ∀ mode endpoint, ¬ Allows config mode endpoint reached.world.state.rules

/-- What the contract says of the runs that it admits. -/
theorem firewallContract.agrees {config : NetworkConfig} {kernel : Kernel} {notes : Resolved}
    {reached : NetConfiguration} (initialized : Netd.Initialized config kernel)
    (reaches : (Netd.pool config).ReachesUnder (Netd.heldOnFailure config)
      (.idle {} ⟨kernel, notes⟩) reached) : FirewallAgrees config reached := by
  have initial : (firewallContract config).Holds (Netd.pool config).answer
      (.idle {} ⟨kernel, notes⟩ : NetConfiguration) :=
    .idle ⟨trivial, fun _ active => nomatch active⟩ fun _ => Netd.held_of_initialized initialized
  have holds := (firewallContract.established config).sound initial (fun _ _ => trivial) reaches
  constructor
  · exact fun _ => holds.good.2
  · exact holds.rest
  · intro response finished detail mode endpoint allows
    have running := Config.holder_of_result finished
    have told := holds.holder _ running _ _ .refl holds.good
    exact allows.not_held (told.2 rfl detail)

/-! ## What the observer knows -/

namespace Stage

variable {config : NetworkConfig} {stage : Stage}

theorem secure_after {request : NetCall} {outcome : Option NetOutcome}
    (closing : (stage.Secure ∧ opens config request outcome = false) ∨
      closes config request outcome = true) : (stage.after config request outcome).Secure := by
  unfold after
  split
  · trivial
  · rename_i unclosed
    rcases closing with ⟨secure, unopened⟩ | closed
    · rw [if_neg (by simp [unopened])]
      exact secure
    · exact absurd closed unclosed

/-- No command of the kill switch opens the firewall. -/
theorem opens_of_stops {request : NetCall} {outcome : Option NetOutcome}
    (stopped : stops config request outcome = true) : opens config request outcome = false := by
  unfold stops at stopped
  split at stopped
  · rename_i spec result commits
    simp only [Bool.and_eq_true, decide_eq_true_eq, killSwitchPlan, List.mem_cons,
      List.not_mem_nil, or_false] at stopped
    rcases stopped.1 with rfl | rfl
    · simp [opens, addTable]
    · simp [opens]
  · cases stopped

/-- Where the observer takes the firewall for closed after a request, it is closed,
whether or not the reply is read. -/
theorem held_afterDrop {kernel : Kernel} {request : NetCall} {outcome : Option NetOutcome}
    (holds : stage.Secure → Held config kernel.rules)
    (secure : (stage.after config request outcome).Secure) :
    Held config (kernel.afterDrop (some (request, outcome))).rules := by
  cases request with
  | run spec =>
      cases outcome with
      | none => exact holds secure
      | some outcome =>
          cases outcome with
          | ran result commits =>
              show Held config (kernel.after spec result commits).rules
              unfold after at secure
              split at secure
              · rename_i closed
                simp only [closes, Bool.and_eq_true, decide_eq_true_eq] at closed
                rw [Kernel.rules_of_carriesOut closed.2, closed.1, nftTransaction_execute]
                exact held_killSwitch config
              · rename_i unclosed
                split at secure
                · exact secure.elim
                · rename_i unopened
                  rw [Kernel.rules_after fun carriedOut => ?_]
                  · exact holds secure
                  · by_cases switch : spec = nftTransaction config none none
                    · exact absurd (by simp [closes, switch, carriedOut]) unclosed
                    · simpa [opens, switch, carriedOut] using unopened
          | present _ | listed _ | located _ | checked _ => exact holds secure
  | interfaceExists | showRules _ | validateProxy _ | validateWireguardConfig | connect _ =>
      cases outcome <;> exact holds secure

variable {current : NetConfiguration × Stage} {label : NetLabel}

theorem allowed (alone : current.1.tasks = [])
    (holds : current.2.Secure → Held config current.1.world.state.rules)
    (inTime : Netd.ClosesInTime config current label) :
    (Netd.heldOnFailure config).Allowed current.1 label := by
  cases label with
  | step outcome =>
      intro program running
      cases program with
      | done _ | access _ _ _ => trivial
      | call awaits request _ =>
          rintro chosen rfl spec result commits rfl rfl member stopped
          have asked : .run spec ∈ current.1.asks := by simp [Config.asks, running]
          have plan : stops config (.run spec) (some (.ran result commits)) = true := by
            simp [stops, member, stopped]
          have secure : (current.2.after config (.run spec) (some (.ran result commits))).Secure :=
            secure_after ((inTime _ asked plan).imp_left fun secure =>
              ⟨secure, opens_of_stops plan⟩)
          exact held_afterDrop holds secure
  | drop outcome =>
      intro program running
      cases program with
      | done _ => trivial
      | access _ _ _ =>
          rcases inTime with ⟨secure, _⟩ | ⟨request, asked, _⟩
          · exact holds secure
          · simp [Config.asks, running] at asked
      | call awaits request _ =>
          have asks : current.1.asks = some request := by simp [Config.asks, running]
          refine held_afterDrop holds (secure_after ?_)
          rcases inTime with ⟨secure, unopened⟩ | ⟨other, asked, closed⟩
          · exact Or.inl ⟨secure, unopened request asks⟩
          · obtain rfl := Option.some.inj (asks.symm.trans asked)
            exact Or.inr closed
  | stepTask index outcome =>
      intro program running
      simp [alone] at running
  | start _ | finish | spawn _ | dropTask _ _ | noise _ => trivial

/-- What the observer takes for closed stays closed, and what it finds closed when a
handler begins was. -/
theorem held_of_step {config' : NetConfiguration} (alone : current.1.tasks = [])
    (holds : current.2.Secure → Held config current.1.world.state.rules)
    (rest : current.1.holder = none → current.1.memory.activeMode = none →
      Held config current.1.world.state.rules)
    (step : (Netd.pool config).step current.1 label = some config')
    (secure : (note config current.1 label current.2).Secure) :
    Held config config'.world.state.rules := by
  cases label with
  | start command =>
      simp only [Pool.step] at step
      split at step
      · rename_i free
        cases step
        exact rest free secure
      · cases step
  | step outcome =>
      rcases Option.bind_eq_some_iff.mp step with ⟨program, running, mapped⟩
      rcases Option.map_eq_some_iff.mp mapped with ⟨after, advanced, rfl⟩
      cases program with
      | done _ => cases advanced
      | access _ _ _ =>
          cases advanced
          exact holds (by simpa [note, Config.asks, running] using secure)
      | call _ request _ =>
          rcases Option.bind_eq_some_iff.mp advanced with ⟨chosen, rfl, replied⟩
          rcases Option.map_eq_some_iff.mp replied with ⟨answered, given, rfl⟩
          have answer := (Answer.noting_eq_some given).1
          have closed : (current.2.after config request (some chosen)).Secure := by
            simpa [note, Config.asks, running] using secure
          have held := held_afterDrop holds closed
          rwa [Kernel.afterDrop_unread answer] at held
  | drop outcome =>
      rcases Option.bind_eq_some_iff.mp step with ⟨program, running, mapped⟩
      rcases Option.map_eq_some_iff.mp mapped with ⟨world, dropped, rfl⟩
      cases program with
      | done _ => cases dropped
      | access awaits _ _ =>
          cases awaits <;> cases dropped
          exact holds (by simpa [note, Config.asks, running] using secure)
      | call awaits request _ =>
          have closed : (current.2.after config request outcome).Secure := by
            simpa [note, Config.asks, running] using secure
          have held := held_afterDrop holds closed
          cases awaits with
          | false => cases dropped
          | true =>
              cases outcome with
              | none =>
                  cases dropped
                  rwa [Kernel.afterDrop_unsent] at held
              | some chosen =>
                  rcases Option.map_eq_some_iff.mp dropped with ⟨answered, given, rfl⟩
                  rwa [Kernel.afterDrop_unread (Answer.noting_eq_some given).1] at held
  | finish =>
      simp only [Pool.step] at step
      split at step
      · rename_i result finished
        cases step
        exact holds (by simpa [note, Config.asks, finished] using secure)
      · cases step
  | spawn task => exact task.elim
  | stepTask index outcome | dropTask index outcome =>
      simp [Pool.step, alone] at step
  | noise event => exact event.elim

/-- The helper spawns no tasks. -/
theorem alone_of_step {config' : NetConfiguration} (alone : current.1.tasks = [])
    (step : (Netd.pool config).step current.1 label = some config') : config'.tasks = [] := by
  cases label with
  | start _ | finish =>
      simp only [Pool.step] at step
      split at step <;> cases step
      exact alone
  | step outcome | drop outcome =>
      rcases Option.bind_eq_some_iff.mp step with ⟨program, _, mapped⟩
      rcases Option.map_eq_some_iff.mp mapped with ⟨after, _, rfl⟩
      exact alone
  | spawn task => exact task.elim
  | stepTask index outcome | dropTask index outcome =>
      simp [Pool.step, alone] at step
  | noise event => exact event.elim

end Stage

/-! ## The result -/

/-- The firewall agrees with the helper in all runs in which no handler ends before
it has closed the firewall. -/
theorem firewall_agrees_of_reaches {config : NetworkConfig} {kernel : Kernel}
    {current : NetConfiguration × Stage} (initialized : Netd.Initialized config kernel)
    (reaches : ReachableUnder (Netd.watched config) (Netd.ClosesInTime config)
      (.idle {} ⟨kernel, none⟩, .closed) current) : FirewallAgrees config current.1 := by
  have known : (Netd.pool config).ReachesUnder (Netd.heldOnFailure config)
      (.idle {} ⟨kernel, none⟩) current.1 ∧ current.1.tasks = [] ∧
      (current.2.Secure → Held config current.1.world.state.rules) := by
    induction reaches with
    | refl => exact ⟨.refl, rfl, fun _ => Netd.held_of_initialized initialized⟩
    | tail _ inTime step ih =>
        obtain ⟨reached, alone, holds⟩ := ih
        obtain ⟨moved, noted⟩ := watched_eq_some step
        refine ⟨reached.tail (Stage.allowed alone holds inTime) moved,
          Stage.alone_of_step alone moved, fun secure => ?_⟩
        rw [noted] at secure
        exact Stage.held_of_step alone holds
          (firewallContract.agrees initialized reached).held moved secure
  exact firewallContract.agrees initialized known.1

namespace Sample

def success : NetLabel :=
  .step (some (.ran .succeeded false))

/-- A teardown that finds nothing left. -/
def tornDown : List NetLabel :=
  List.replicate 5 success ++
    [.step (some (.present false)), .step (some (.listed (.ok []))),
      .step (some (.listed (.ok [])))]

/-- A handler that has closed the firewall and torn down. -/
def begun (mode : EgressMode) : List NetLabel :=
  [.start (.apply mode), .step none, success, success] ++ tornDown

/-- Tor, whose proxy is validated and there; then WARP, whose handler the deadline
drops while it connects to the proxy. -/
def expires : List NetLabel :=
  begun .tor ++ [.step (some (.located (.ok ⟨.v4 0x7f000001, 9050⟩))),
    .step (some (.checked (.ok ()))), success, .step none, .finish] ++
  begun .warp ++ [.step (some (.located (.ok ⟨.v4 0x7f000001, 40000⟩))), .drop none]

/-- Direct egress, and then a request for Tor whose first command fails. -/
def unheld : List NetLabel :=
  begun .direct ++ [success, .step none, .finish, .start (.apply .tor), .step none,
    .step (some (.ran (.failed "Operation not permitted") false)), .finish]

def heldKernel : Kernel :=
  ⟨policyRules {} none none⟩

theorem heldKernel_initialized : Netd.Initialized {} heldKernel :=
  ⟨⟨[]⟩, .ran .succeeded false, .succeeded, _, rfl, .ran .succeeded false, .succeeded, _, rfl,
    .ran .succeeded false, .succeeded, _, rfl, .ran .succeeded false, .succeeded, _, rfl,
    .ran .succeeded false, .succeeded, _, rfl, .ran .succeeded false, .succeeded, _, rfl,
    .ran .succeeded false, .succeeded, _, rfl, .present false, false, _, rfl,
    .listed (.ok []), .ok [], _, rfl, .listed (.ok []), .ok [], _, rfl, rfl, rfl, rfl⟩

end Sample

/-- After a handler was dropped in time, a status says that the browser is held. -/
theorem firewall_agrees_of_expires :
    ∃ reached : NetConfiguration × Stage,
      reached.1.world.notes = some (.warp, ⟨.v4 0x7f000001, 40000⟩) ∧
      reached.1.result = some (.status, Netd.statusResponse {}) ∧ FirewallAgrees {} reached.1 := by
  have executed : ((run (guarded (Netd.watched {}) fun current label =>
        decide (Netd.ClosesInTime {} current label))
      (.idle {} ⟨Sample.heldKernel, none⟩, .closed)
      (Sample.expires ++ [.start .status, .step none])).map fun reached =>
        (reached.1.world.notes, reached.1.result)) =
      some (some (.warp, ⟨.v4 0x7f000001, 40000⟩), some (.status, Netd.statusResponse {})) := by
    decide +kernel
  rcases Option.map_eq_some_iff.mp executed with ⟨reached, executed, values⟩
  rcases Prod.mk.inj values with ⟨notes, result⟩
  exact ⟨reached, notes, result, firewall_agrees_of_reaches Sample.heldKernel_initialized
    (reachableUnder_of_run (fun _ _ inTime => of_decide_eq_true inTime) executed)⟩

/-- A status says that the browser is held while its output is accepted. -/
theorem not_agrees_of_unheld :
    ¬ ∀ (kernel : Kernel) (reached : NetConfiguration), Netd.Initialized {} kernel →
      (Netd.pool {}).Reaches (.idle {} ⟨kernel, none⟩) reached → FirewallAgrees {} reached := by
  intro always
  have executed : ((run (Netd.pool {}).step (.idle {} ⟨Sample.heldKernel, none⟩)
      (Sample.unheld ++ [.start .status, .step none])).map fun reached =>
        (reached.result, reached.world.state.rules)) =
      some (some (.status, Netd.statusResponse {}), policyRules {} (some .direct) none) := by
    decide +kernel
  rcases Option.map_eq_some_iff.mp executed with ⟨reached, executed, values⟩
  rcases Prod.mk.inj values with ⟨result, rules⟩
  have agrees := always Sample.heldKernel reached Sample.heldKernel_initialized
    (reachable_of_run executed)
  exact agrees.reported _ result rfl .direct none ⟨nofun, rules⟩

end XanhTab
