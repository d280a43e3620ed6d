import Mathlib.Logic.Function.Basic
import XanhTab.Netd.Handler
import XanhTab.Program.Rules

/-!
# The mode of the network helper and the routing of the browser

Beside the rules of its firewall a mode needs a routing: WireGuard sends the
browser through an interface and a table of its own, and in every other mode
nothing of that may be left.  The commands of the plans are read as what they do
to a host, which is the kernel of the firewall together with its routing.

No failure is excluded here.  What a command leaves of the routing when it does
not succeed is open, so that a plan which ignores failures says nothing by
itself: that a teardown has worked is known from the inspection at its end only.
-/

namespace XanhTab

open Program Transition

/-! ## The routing -/

/-- The dedicated interface, whether the default route of the dedicated table
goes through it, and the lines of `ip rule show`, the latter two for each family
of addresses. -/
structure Routing where
  link : Bool
  routed : Bool → Bool
  rules : Bool → List String

/-- The line in which a rule for a range of users is shown. -/
def ruleLine (priority range table : String) : String :=
  priority ++ ":\tfrom all " ++ ("uidrange " ++ range) ++ " " ++ ("lookup " ++ table)

namespace Routing

def setRouted (ipv6 value : Bool) (routing : Routing) : Routing :=
  { routing with routed := Function.update routing.routed ipv6 value }

def setRules (ipv6 : Bool) (lines : List String) (routing : Routing) : Routing :=
  { routing with rules := Function.update routing.rules ipv6 lines }

/-- What `ip` does when it succeeds.  The routes through an interface go with it. -/
def ip (ipv6 : Bool) (routing : Routing) : List String → Routing
  | ["route", "replace", "default", "dev", device, "table", table] =>
      if device = wireguardInterface ∧ table = wireguardRouteTable then
        routing.setRouted ipv6 true
      else routing
  | ["route", "flush", "table", table] =>
      if table = wireguardRouteTable then routing.setRouted ipv6 false else routing
  | ["rule", "add", "priority", priority, "uidrange", range, "lookup", table] =>
      routing.setRules ipv6 (ruleLine priority range table :: routing.rules ipv6)
  | ["rule", "del", "priority", priority, "uidrange", range, "lookup", table] =>
      routing.setRules ipv6 ((routing.rules ipv6).erase (ruleLine priority range table))
  | ["link", "delete", "dev", device] =>
      if device = wireguardInterface then { routing with link := false, routed := fun _ => false }
      else routing
  | _ => routing

/-- What a command does to the routing when it succeeds.  The file of `wg-quick`
is named after the interface and switches its own routes off, both of which are
validated. -/
def execute (spec : CommandSpec) (routing : Routing) : Routing :=
  if spec.program = wgQuickProgram then { routing with link := true }
  else if spec.program = ipProgram then
    match spec.args with
    | "-6" :: args => routing.ip true args
    | args => routing.ip false args
  else routing

/-- The routing after a command with the result, given what it leaves when it
does not succeed. -/
def after (spec : CommandSpec) (result : CommandResult) (routing left : Routing) : Routing :=
  match result with
  | .succeeded => routing.execute spec
  | .failed _ | .broken _ => left

end Routing

/-! ## Hosts -/

structure Host where
  kernel : Kernel
  routing : Routing

inductive HostOutcome
  | ran (result : CommandResult) (commits : Bool) (left : Routing)
  | seen
  | listed (failure : Option String)
  | located (reply : Except String SocketAddr)
  | checked (reply : Except String Unit)

namespace Host

/-- The inspections tell what is the case, unless they fail. -/
def answer : Answer NetCall NetCall.Reply Host HostOutcome
  | .run spec, .ran result commits left, host =>
      some (result, ⟨host.kernel.after spec result commits, host.routing.after spec result left⟩)
  | .interfaceExists, .seen, host => some (host.routing.link, host)
  | .showRules ipv6, .listed none, host => some (.ok (host.routing.rules ipv6), host)
  | .showRules _, .listed (some error), host => some (.error error, host)
  | .validateProxy _, .located reply, host => some (reply, host)
  | .validateWireguardConfig, .checked reply, host | .connect _, .checked reply, host =>
      some (reply, host)
  | _, _, _ => none

end Host

/-! ## What the helper is responsible for -/

/-- A line that `policy_rule_remains` looks for. -/
def dedicated (config : NetworkConfig) (line : String) : Bool :=
  Netd.contains line ("uidrange " ++ uidRange config) &&
    Netd.contains line ("lookup " ++ wireguardRouteTable)

/-- The part of a routing that is the helper's: the interface, the table, and how
many dedicated rules there are. -/
structure Arrangement where
  link : Bool
  routed : Bool → Bool
  dedicated : Bool → Nat

def Routing.arrangement (config : NetworkConfig) (routing : Routing) : Arrangement where
  link := routing.link
  routed := routing.routed
  dedicated ipv6 := (routing.rules ipv6).countP (XanhTab.dedicated config)

/-- Other programs add and remove rules of their own. -/
def Host.disturb (config : NetworkConfig) (ipv6 : Bool) (lines : List String) (host : Host) :
    Option Host :=
  if lines.countP (dedicated config) = (host.routing.rules ipv6).countP (dedicated config) then
    some { host with routing := host.routing.setRules ipv6 lines }
  else none

namespace Arrangement

def setRouted (ipv6 : Bool) (arrangement : Arrangement) : Arrangement :=
  { arrangement with routed := Function.update arrangement.routed ipv6 true }

def setDedicated (ipv6 : Bool) (number : Nat) (arrangement : Arrangement) : Arrangement :=
  { arrangement with dedicated := Function.update arrangement.dedicated ipv6 number }

/-- Nothing of WireGuard is left that would concern the browser. -/
def Removed (arrangement : Arrangement) : Prop :=
  arrangement.link = false ∧ ∀ ipv6, arrangement.dedicated ipv6 = 0

/-- The browser is sent through the dedicated interface, by one rule for each
family of addresses. -/
def Tunnelled (arrangement : Arrangement) : Prop :=
  arrangement.link = true ∧
    ∀ ipv6, arrangement.routed ipv6 = true ∧ arrangement.dedicated ipv6 = 1

/-- The arrangement that a mode needs. -/
def For (mode : EgressMode) (arrangement : Arrangement) : Prop :=
  if mode = .wireGuard then arrangement.Tunnelled else arrangement.Removed

end Arrangement

abbrev HostConfiguration :=
  Config NetworkState NetCall NetCall.Reply (EgressCommand × EgressResponse) (Noted Host Resolved)

/-- The helper serving requests on a host on which others set up rules too. -/
def Netd.hostPool (config : NetworkConfig) : Pool NetworkState NetCall NetCall.Reply
    (EgressCommand × EgressResponse) (Noted Host Resolved) HostOutcome EgressCommand Empty
    (Bool × List String) where
  answer := Answer.noting Resolved.note Host.answer
  operation := Netd.handle config
  task task := task.elim
  noise event state host := (host.state.disturb config event.1 event.2).map fun disturbed =>
    (state, { host with state := disturbed })

/-! ## What the commands do to an arrangement -/

/-- A text contains any part of it. -/
theorem Netd.contains_append (before part after : String) :
    Netd.contains (before ++ part ++ after) part = true := by
  unfold Netd.contains
  rw [List.any_eq_true]
  refine ⟨part.toList ++ after.toList, ?_, List.isPrefixOf_iff_prefix.mpr (List.prefix_append _ _)⟩
  rw [List.mem_tails, String.toList_append, String.toList_append, List.append_assoc]
  exact List.suffix_append _ _

theorem dedicated_ruleLine (config : NetworkConfig) (priority : String) :
    dedicated config (ruleLine priority (uidRange config) wireguardRouteTable) = true := by
  unfold dedicated ruleLine
  rw [Bool.and_eq_true]
  constructor
  · rw [String.append_assoc]
    exact Netd.contains_append _ _ _
  · rw [← String.append_empty (s := _ ++ ("lookup " ++ wireguardRouteTable))]
    exact Netd.contains_append _ _ _

namespace Routing

variable {config : NetworkConfig}

theorem execute_of_nft {spec : CommandSpec} (nft : spec.program = nftProgram) (routing : Routing) :
    routing.execute spec = routing := by
  unfold execute
  rw [nft, if_neg (by decide), if_neg (by decide)]

theorem arrangement_setRules (ipv6 : Bool) (lines : List String) (routing : Routing) :
    (routing.setRules ipv6 lines).arrangement config =
      (routing.arrangement config).setDedicated ipv6
        (lines.countP (XanhTab.dedicated config)) := by
  unfold arrangement setRules
  congr 1
  exact Function.comp_update (List.countP (XanhTab.dedicated config)) routing.rules ipv6 lines

/-- What the commands of the setup plan do, in their order. -/
theorem arrangement_up (routing : Routing) :
    (routing.execute { program := wgQuickProgram, args := ["up", config.wireguardConfig] }
      ).arrangement config = { routing.arrangement config with link := true } :=
  rfl

theorem arrangement_route (ipv6 : Bool) (routing : Routing) :
    (routing.execute (ipCommand ipv6 ["route", "replace", "default", "dev", wireguardInterface,
      "table", wireguardRouteTable])).arrangement config =
      (routing.arrangement config).setRouted ipv6 := by
  cases ipv6 <;> rfl

theorem arrangement_rule (ipv6 : Bool) (routing : Routing) :
    (routing.execute (ipCommand ipv6 ["rule", "add", "priority", wireguardRulePriority,
      "uidrange", uidRange config, "lookup", wireguardRouteTable])).arrangement config =
      (routing.arrangement config).setDedicated ipv6
        ((routing.arrangement config).dedicated ipv6 + 1) := by
  have added : routing.execute (ipCommand ipv6 ["rule", "add", "priority", wireguardRulePriority,
      "uidrange", uidRange config, "lookup", wireguardRouteTable]) =
      routing.setRules ipv6
        (ruleLine wireguardRulePriority (uidRange config) wireguardRouteTable ::
          routing.rules ipv6) := by
    cases ipv6 <;> rfl
  rw [added, arrangement_setRules, List.countP_cons_of_pos (dedicated_ruleLine config _)]
  rfl

theorem arrangement_show (routing : Routing) :
    (routing.execute { program := wgProgram, args := ["show", wireguardInterface] }
      ).arrangement config = routing.arrangement config :=
  rfl

end Routing

/-- What others do to the rules leaves the arrangement alone. -/
theorem Host.arrangement_of_disturb {config : NetworkConfig} {ipv6 : Bool} {lines : List String}
    {host host' : Host} (disturbed : host.disturb config ipv6 lines = some host') :
    host'.kernel = host.kernel ∧
      host'.routing.arrangement config = host.routing.arrangement config := by
  unfold Host.disturb at disturbed
  split at disturbed
  · rename_i same
    obtain rfl := Option.some.inj disturbed
    refine ⟨rfl, ?_⟩
    rw [Routing.arrangement_setRules, same]
    exact congrArg (Arrangement.mk host.routing.link host.routing.routed)
      (Function.update_eq_self ipv6 (host.routing.arrangement config).dedicated)
  · cases disturbed

/-! ## The contract -/

/-- The host is set up for the mode, with the endpoint if the mode needs one. -/
structure Host.Serves (config : NetworkConfig) (mode : EgressMode)
    (proxyEndpoint : Option SocketAddr) (host : Host) : Prop where
  firewall : Allows config mode proxyEndpoint host.kernel.rules
  routing : (host.routing.arrangement config).For mode

/-- The mode that a command asks for. -/
def EgressCommand.requested : EgressCommand → Option EgressMode
  | apply mode => some mode
  | reset => some .direct
  | status => none

def hostContract (config : NetworkConfig) :
    Contract NetworkState NetCall (EgressCommand × EgressResponse) (Noted Host Resolved)
      HostOutcome where
  always state host := ∀ mode, state.activeMode = some mode →
    host.state.Serves config mode (host.notes.endpoint mode)
  finish result state _ := ∀ mode, result.1.requested = some mode → result.2.ok = true →
    state.activeMode = some mode
  rely state host state' host' := state' = state ∧ host'.notes = host.notes ∧
    host'.state.kernel = host.state.kernel ∧
    host'.state.routing.arrangement config = host.state.routing.arrangement config

namespace hostContract

variable {config : NetworkConfig}

theorem total : (hostContract config).Total where
  rest _ _ _ _ := trivial
  unread _ _ _ _ _ := trivial

/-- The helper answers, and notes what it has validated. -/
abbrev answer : Answer NetCall NetCall.Reply (Noted Host Resolved) HostOutcome :=
  Answer.noting Resolved.note Host.answer

/-- The mode is cleared, and the notes and the arrangement have these properties. -/
def cleared (noted : Resolved → Prop) (property : Arrangement → Prop) :
    (hostContract config).Assertion where
  holds state host := state.activeMode = none ∧ noted host.notes ∧
    property (host.state.routing.arrangement config)
  stable := by
    rintro state host _ host' _ ⟨rfl, notes, _, same⟩ _ holds
    rw [same, notes]
    exact holds

/-- The mode is cleared, and the host is set up for a mode. -/
def serving (mode : EgressMode) : (hostContract config).Assertion where
  holds state host :=
    state.activeMode = none ∧ host.state.Serves config mode (host.notes.endpoint mode)
  stable := by
    rintro state host _ host' _ ⟨rfl, notes, kernel, same⟩ _ ⟨idle, firewall, routing⟩
    refine ⟨idle, ?_, ?_⟩
    · rwa [kernel, notes]
    · rwa [same]

/-- Nothing is known. -/
def anything : (hostContract config).Assertion where
  holds _ _ := True
  stable _ _ _ _ _ _ _ _ := trivial

abbrev unknown : (hostContract config).Assertion :=
  cleared (fun _ => True) fun _ => True

/-- The property holds if there was no error. -/
def ends (noted : Resolved → Prop) (property : Arrangement → Prop) :
    Except String Unit → (hostContract config).Assertion
  | .ok _ => cleared noted property
  | .error _ => unknown

abbrev Outline (config : NetworkConfig) {α : Type} (pre : (hostContract config).Assertion)
    (program : NetRoutine α) (post : α → (hostContract config).Assertion) : Prop :=
  (hostContract config).Spec answer pre program post

variable {α : Type} {noted : Resolved → Prop} {property : Arrangement → Prop}

theorem done {result : α} : Outline config (cleared noted property) (.done result) fun _ =>
    cleared noted property :=
  Contract.Spec.done fun _ _ _ holds => holds

theorem failed {error : String} {after : Arrangement → Prop} :
    Outline config (cleared noted property) (.done (.error error)) (ends noted after) :=
  Contract.Spec.done fun _ _ _ holds => ⟨holds.1, trivial, trivial⟩

/-- A call of a transition, from what its outcomes do to the arrangement. -/
theorem call {awaits : Bool} {request : NetCall} {next : request.Reply → NetRoutine α}
    {post : α → (hostContract config).Assertion} (after : request.Reply → Arrangement → Prop)
    (steps : ∀ host, property (host.routing.arrangement config) → ∀ outcome reply host',
      Host.answer request outcome host = some (reply, host') →
      after reply (host'.routing.arrangement config))
    (unnoted : ∀ reply known, Resolved.note request reply known = known)
    (rest : ∀ reply, Outline config (cleared noted (after reply)) (next reply) post) :
    Outline config (cleared noted property) (.call awaits request next) post := by
  refine Contract.Spec.bind (Contract.Spec.ask total ?_) rest
  intro state host _ satisfied outcome reply host' answered _ _
  obtain ⟨given, notes⟩ := Answer.noting_eq_some answered
  refine ⟨trivial, fun mode active => ?_, satisfied.1, ?_,
    steps host.state satisfied.2.2 outcome reply host'.state given⟩
  · rw [satisfied.1] at active
    cases active
  · rw [notes, unnoted]
    exact satisfied.2.1

/-- An inspection leaves the host as it is. -/
theorem host_of_inspects {request : NetCall} (inspects : request.Inspects) {outcome : HostOutcome}
    {host host' : Host} {reply : request.Reply}
    (answered : Host.answer request outcome host = some (reply, host')) : host' = host := by
  cases request with
  | run spec => exact inspects.elim
  | interfaceExists | validateProxy _ | validateWireguardConfig | connect _ =>
      cases outcome <;> cases answered
      rfl
  | showRules ipv6 =>
      cases outcome with
      | listed failure => cases failure <;> cases answered <;> rfl
      | ran _ _ _ | seen | located _ | checked _ => cases answered

theorem callInspecting {awaits : Bool} {request : NetCall} {next : request.Reply → NetRoutine α}
    {post : α → (hostContract config).Assertion} (inspects : request.Inspects)
    (unnoted : ∀ reply known, Resolved.note request reply known = known)
    (rest : ∀ reply, Outline config (cleared noted property) (next reply) post) :
    Outline config (cleared noted property) (.call awaits request next) post := by
  refine call (fun _ => property) (fun host holds outcome reply host' answered => ?_) unnoted rest
  rw [host_of_inspects inspects answered]
  exact holds

/-! ## Teardown -/

/-- Of a plan by itself nothing is known. -/
theorem runPlan {allowExistingTable ignoreFailures : Bool} {plan : List CommandSpec} :
    Outline config unknown (Netd.runPlan allowExistingTable ignoreFailures plan) fun _ =>
      unknown := by
  induction plan with
  | nil => exact done
  | cons spec rest ih =>
      refine call (fun _ _ => True) (fun _ _ _ _ _ _ => trivial) (fun _ _ => rfl)
        fun result => ?_
      cases result with
      | succeeded => exact ih
      | broken detail => exact done
      | failed stderr =>
          dsimp only
          split
          · exact ih
          · exact done

/-- A family that passes the check has no dedicated rule. -/
theorem checkFamily (ipv6 : Bool) :
    Outline config (cleared noted property) (Netd.checkFamily config ipv6)
      (ends noted fun arrangement => property arrangement ∧ arrangement.dedicated ipv6 = 0) := by
  refine call (fun reply arrangement => property arrangement ∧ ∀ lines, reply = .ok lines →
    lines.countP (dedicated config) = arrangement.dedicated ipv6) ?_ (fun _ _ => rfl)
    fun reply => ?_
  · intro host holds outcome reply host' answered
    rw [host_of_inspects (by trivial) answered]
    refine ⟨holds, ?_⟩
    rintro lines rfl
    cases outcome with
    | listed failure =>
        cases failure with
        | none =>
            cases answered
            rfl
        | some error => cases answered
    | ran _ _ _ | seen | located _ | checked _ => cases answered
  · cases reply with
    | error error => exact failed
    | ok lines =>
        show Outline config _ (if lines.any (dedicated config) then _ else _) _
        split
        · exact failed
        · rename_i absent
          refine Contract.Spec.done fun _ _ _ holds => ⟨holds.1, holds.2.1, holds.2.2.1, ?_⟩
          rw [← holds.2.2.2 lines rfl, List.countP_eq_zero]
          exact List.any_eq_false.mp (Bool.eq_false_of_not_eq_true absent)

theorem ends_of_error {after after' : Arrangement → Prop} (error : String) (state : NetworkState)
    (host : Noted Host Resolved) (_ : (hostContract config).Good state host)
    (holds : (ends noted after (.error error) : (hostContract config).Assertion).holds state host) :
    (ends noted after' (.error error) : (hostContract config).Assertion).holds state host :=
  holds

/-- A teardown that succeeds has removed everything, although all its commands
may have failed. -/
theorem teardown :
    Outline config unknown (Netd.teardownWireguard config)
      (ends (fun _ => True) Arrangement.Removed) := by
  refine Contract.Spec.andThen runPlan (fun _ _ _ _ holds => holds) fun _ => ?_
  refine call (fun present arrangement => present = arrangement.link) ?_ (fun _ _ => rfl)
    fun present => ?_
  · intro host _ outcome present host' answered
    cases outcome with
    | seen =>
        cases answered
        rfl
    | ran _ _ _ | listed _ | located _ | checked _ => cases answered
  · cases present with
    | true => exact failed
    | false =>
        refine Contract.Spec.andThen (checkFamily false) ends_of_error fun _ => ?_
        refine (checkFamily true).relax fun result _ _ _ holds => ?_
        cases result with
        | error error => exact holds
        | ok _ =>
            refine ⟨holds.1, holds.2.1, holds.2.2.1.1.symm, fun ipv6 => ?_⟩
            cases ipv6 with
            | false => exact holds.2.2.1.2
            | true => exact holds.2.2.2

/-! ## Setup -/

/-- A command of the setup plan, from what it does when it succeeds. -/
theorem stage {spec : CommandSpec} {rest : List CommandSpec} {after : Arrangement → Prop}
    (middle : Arrangement → Prop)
    (succeeds : ∀ routing : Routing, property (routing.arrangement config) →
      middle ((routing.execute spec).arrangement config))
    (remaining : Outline config (cleared noted middle) (Netd.runPlan false false rest)
      (ends noted after)) :
    Outline config (cleared noted property) (Netd.runPlan false false (spec :: rest))
      (ends noted after) := by
  refine call (fun result arrangement => result = CommandResult.succeeded → middle arrangement)
    ?_ (fun _ _ => rfl) fun result => ?_
  · intro host holds outcome result host' answered
    cases outcome with
    | ran outcome commits left =>
        cases answered
        rintro rfl
        exact succeeds host.routing holds
    | seen | listed _ | located _ | checked _ => cases answered
  · cases result with
    | succeeded => exact remaining.weaken fun _ _ _ holds => ⟨holds.1, holds.2.1, holds.2.2 rfl⟩
    | broken detail => exact failed
    | failed stderr => exact failed

/-- What holds in the middle of the setup, given the families that have their
route and those that have their rule. -/
def Half (routes rules : List Bool) (arrangement : Arrangement) : Prop :=
  arrangement.link = true ∧ (∀ ipv6 ∈ routes, arrangement.routed ipv6 = true) ∧
    (∀ ipv6 ∈ rules, arrangement.dedicated ipv6 = 1) ∧
    ∀ ipv6, ipv6 ∉ rules → arrangement.dedicated ipv6 = 0

theorem Half.route {routes rules : List Bool} (added : Bool) {arrangement : Arrangement}
    (half : Half routes rules arrangement) :
    Half (added :: routes) rules (arrangement.setRouted added) := by
  refine ⟨half.1, fun ipv6 routed => ?_, half.2.2⟩
  by_cases same : ipv6 = added
  · rw [same]
    exact Function.update_self ..
  · exact (Function.update_of_ne same ..).trans
      (half.2.1 ipv6 ((List.mem_cons.mp routed).resolve_left same))

theorem Half.rule {routes rules : List Bool} {added : Bool} (absent : added ∉ rules)
    {arrangement : Arrangement} (half : Half routes rules arrangement) :
    Half routes (added :: rules)
      (arrangement.setDedicated added (arrangement.dedicated added + 1)) := by
  refine ⟨half.1, half.2.1, fun ipv6 ruled => ?_, fun ipv6 unruled => ?_⟩
  · by_cases same : ipv6 = added
    · subst same
      show Function.update _ _ _ _ = 1
      rw [Function.update_self, half.2.2.2 ipv6 absent]
    · exact (Function.update_of_ne same ..).trans
        (half.2.2.1 ipv6 ((List.mem_cons.mp ruled).resolve_left same))
  · rw [List.mem_cons, not_or] at unruled
    exact (Function.update_of_ne unruled.1 ..).trans (half.2.2.2 ipv6 unruled.2)

/-- Where nothing was left, the setup plan installs the tunnel. -/
theorem setupPlan :
    Outline config (cleared noted Arrangement.Removed)
      (Netd.runPlan false false (wireguardSetupPlan config)) (ends noted Arrangement.Tunnelled) := by
  refine stage (Half [] []) (fun routing removed => ?_) ?_
  · rw [Routing.arrangement_up]
    exact ⟨rfl, fun _ listed => absurd listed List.not_mem_nil,
      fun _ listed => absurd listed List.not_mem_nil, fun ipv6 _ => removed.2 ipv6⟩
  refine stage (Half [false] []) (fun routing half => ?_) ?_
  · rw [Routing.arrangement_route]
    exact half.route false
  refine stage (Half [true, false] []) (fun routing half => ?_) ?_
  · rw [Routing.arrangement_route]
    exact half.route true
  refine stage (Half [true, false] [false]) (fun routing half => ?_) ?_
  · rw [Routing.arrangement_rule]
    exact half.rule (by simp)
  refine stage (Half [true, false] [true, false]) (fun routing half => ?_) ?_
  · rw [Routing.arrangement_rule]
    exact half.rule (by simp)
  refine stage (Half [true, false] [true, false]) (fun routing half => ?_) ?_
  · rw [Routing.arrangement_show]
    exact half
  refine Contract.Spec.done fun state host _ holds =>
    ⟨holds.1, holds.2.1, holds.2.2.1, fun ipv6 => ?_⟩
  have listed : ipv6 ∈ [true, false] := by cases ipv6 <;> simp
  exact ⟨holds.2.2.2.1 ipv6 listed, holds.2.2.2.2.1 ipv6 listed⟩

theorem setupWireguard (mode : EgressMode) :
    Outline config (cleared noted Arrangement.Removed) (Netd.setupWireguard config mode)
      (ends noted (Arrangement.For mode)) := by
  unfold Netd.setupWireguard
  split
  · rename_i wireguard
    subst wireguard
    refine callInspecting trivial (fun _ _ => rfl) fun reply => ?_
    cases reply with
    | error error => exact failed
    | ok _ => exact setupPlan
  · rename_i other
    refine Contract.Spec.done fun _ _ _ holds => ⟨holds.1, holds.2.1, ?_⟩
    unfold Arrangement.For
    rw [if_neg other]
    exact holds.2.2

/-! ## Transitions -/

/-- What the inner part of a transition leaves. -/
def inner (mode : EgressMode) : Except String Unit → (hostContract config).Assertion
  | .ok _ => serving mode
  | .error _ => unknown

/-- The endpoint is the one that was noted, if the mode needs one. -/
def Names (mode : EgressMode) (endpoint : Option SocketAddr) (known : Resolved) : Prop :=
  mode.usesProxy = true → known.endpoint mode = endpoint

/-- What a validation leaves. -/
def resolved (mode : EgressMode) :
    Except String (Option SocketAddr) → (hostContract config).Assertion
  | .ok endpoint => cleared (Names mode endpoint) Arrangement.Removed
  | .error _ => unknown

theorem endpointFor (mode : EgressMode) :
    Outline config (cleared noted Arrangement.Removed) (Netd.endpointFor mode)
      (resolved mode) := by
  unfold Netd.endpointFor
  split
  · have validated : Outline config (cleared noted Arrangement.Removed)
        (.ask false (.validateProxy mode)) fun reply : Except String SocketAddr =>
          resolved mode (reply.map some) := by
      refine Contract.Spec.ask total ?_
      intro state host _ satisfied outcome reply host' answered _ _
      obtain ⟨given, notes⟩ := Answer.noting_eq_some answered
      refine ⟨trivial, fun mode active => ?_, ?_⟩
      · rw [satisfied.1] at active
        cases active
      · cases reply with
        | error error => exact ⟨satisfied.1, trivial, trivial⟩
        | ok endpoint =>
            have inspects : (NetCall.validateProxy mode).Inspects := trivial
            refine ⟨satisfied.1, fun _ => ?_, ?_⟩
            · rw [notes]
              simp [Resolved.note, Resolved.endpoint]
            · rw [host_of_inspects inspects given]
              exact satisfied.2.2
    exact Contract.Spec.bind validated fun reply => Contract.Spec.done fun _ _ _ holds => holds
  · rename_i plain
    exact Contract.Spec.done fun _ _ _ holds =>
      ⟨holds.1, fun proxied => absurd proxied plain, holds.2.2⟩

/-- The last command of a transition does not touch the routing. -/
theorem activatePolicy (mode : EgressMode) (endpoint : Option SocketAddr) :
    Outline config (cleared (Names mode endpoint) (Arrangement.For mode))
      (Netd.activatePolicy config mode endpoint) (inner mode) := by
  by_cases refused : mode.usesProxy = true ∧ endpoint = none
  · have plan : activePolicyPlan config mode endpoint =
        .error "proxy egress requires a validated endpoint" := if_pos refused
    unfold Netd.activatePolicy
    rw [plan]
    exact Contract.Spec.done fun _ _ _ holds => ⟨holds.1, trivial, trivial⟩
  · have plan : activePolicyPlan config mode endpoint =
        .ok [nftTransaction config (some mode) endpoint] := if_neg refused
    unfold Netd.activatePolicy
    rw [plan]
    let activated (result : CommandResult) : (hostContract config).Assertion :=
      if result = .succeeded then serving mode else unknown
    have committed : Outline config (cleared (Names mode endpoint) (Arrangement.For mode))
        (.ask true (.run (nftTransaction config (some mode) endpoint))) activated := by
      refine Contract.Spec.ask total ?_
      intro state host _ satisfied outcome result host' answered _ _
      refine ⟨trivial, fun mode' active => ?_, ?_⟩
      · rw [satisfied.1] at active
        cases active
      · cases outcome with
        | ran outcome commits left =>
            cases answered
            cases outcome with
            | succeeded =>
                refine ⟨satisfied.1, ?_, ?_⟩
                · show Allows config mode (host.notes.endpoint mode)
                    ((nftTransaction config (some mode) endpoint).execute host.state.kernel.rules)
                  rw [nftTransaction_execute]
                  exact Allows.of_policy (fun proxied absent => refused ⟨proxied, absent⟩)
                    satisfied.2.1
                · show ((host.state.routing.execute _).arrangement config).For mode
                  rw [Routing.execute_of_nft rfl]
                  exact satisfied.2.2
            | failed stderr => exact ⟨satisfied.1, trivial, trivial⟩
            | broken detail => exact ⟨satisfied.1, trivial, trivial⟩
        | seen | listed _ | located _ | checked _ => cases answered
    refine Contract.Spec.bind committed fun result => ?_
    cases result with
    | succeeded => exact Contract.Spec.done fun _ _ _ holds => holds
    | broken detail => exact Contract.Spec.done fun _ _ _ holds => holds
    | failed stderr => exact Contract.Spec.done fun _ _ _ holds => holds

theorem transitionInner (mode : EgressMode) :
    Outline config unknown (Netd.transitionInner config mode) (inner mode) := by
  have probed : ∀ endpoint, Outline config (cleared (Names mode endpoint) (Arrangement.For mode))
      (Netd.probeProxy endpoint) fun _ => cleared (Names mode endpoint) (Arrangement.For mode) := by
    intro endpoint
    cases endpoint with
    | none => exact done
    | some endpoint => exact callInspecting trivial (fun _ _ => rfl) fun _ => done
  refine Contract.Spec.andThen teardown (fun _ _ _ _ holds => holds) fun _ => ?_
  refine Contract.Spec.andThen (endpointFor mode) (fun _ _ _ _ holds => holds) fun endpoint => ?_
  have prepared : Outline config (resolved mode (.ok endpoint)) (Netd.setupWireguard config mode)
      (ends (Names mode endpoint) (Arrangement.For mode)) := setupWireguard mode
  refine Contract.Spec.andThen prepared (fun _ _ _ _ holds => holds) fun _ => ?_
  exact Contract.Spec.andThen (probed endpoint) (fun _ _ _ _ holds => ⟨holds.1, trivial, trivial⟩)
    fun _ => activatePolicy mode endpoint

theorem restoreKillSwitch (error : String) :
    Outline config unknown (Netd.restoreKillSwitch config error) fun result =>
      anything.also (∀ response, result ≠ .ok response) := by
  have killed : ∀ cleanup, Outline config (ends (fun _ => True) Arrangement.Removed cleanup)
      (Netd.killSwitch config) fun _ => unknown := by
    intro cleanup
    refine Contract.Spec.weaken runPlan ?_
    cases cleanup with
    | ok _ | error _ => exact fun _ _ _ holds => ⟨holds.1, trivial, trivial⟩
  refine Contract.Spec.bind teardown fun cleanup => ?_
  cases cleanup with
  | ok _ | error _ =>
      apply Contract.Spec.bind (killed _)
      intro result
      cases result with
      | ok _ | error _ => exact Contract.Spec.done fun _ _ _ _ => ⟨trivial, by simp⟩

/-- A transition that succeeds ends in its mode. -/
def transitioned (mode : EgressMode) (result : Except String EgressResponse) :
    (hostContract config).Assertion where
  holds state _ := ∀ response, result = .ok response → state.activeMode = some mode
  stable := by
    rintro state host _ host' _ ⟨rfl, _⟩ _ holds
    exact holds

theorem transition (mode : EgressMode) :
    Outline config anything (Netd.transition config mode) (transitioned mode) := by
  have clear : Outline config anything
      (.sync fun state => ((), { state with activeMode := none }) : NetRoutine Unit)
      fun _ => unknown := by
    refine Contract.Spec.transact total ?_
    intro state host _ _ _ _
    exact ⟨trivial, fun _ active => (nomatch active), rfl, trivial, trivial⟩
  have remember : Outline config (serving mode)
      (.sync fun state => ((), { state with activeMode := some mode }) : NetRoutine Unit)
      fun _ => transitioned mode (.ok
        { ok := true
          activeMode := mode
          detail := "egress policy applied after fail-closed transition" }) := by
    refine Contract.Spec.transact total ?_
    intro state host _ holds _ _
    refine ⟨trivial, fun mode' active => ?_, fun _ _ => rfl⟩
    obtain rfl := Option.some.inj active
    exact holds.2
  refine Contract.Spec.bind clear fun _ => ?_
  refine Contract.Spec.andThen runPlan (fun _ _ _ _ _ _ failure => nomatch failure) fun _ => ?_
  refine Contract.Spec.bind (transitionInner mode) fun result => ?_
  cases result with
  | error error =>
      exact (restoreKillSwitch error).relax fun _ _ _ _ holds response succeeded =>
        absurd succeeded (holds.2 response)
  | ok _ => exact Contract.Spec.bind remember fun _ => Contract.Spec.done fun _ _ _ holds => holds

def finished (result : EgressCommand × EgressResponse) : (hostContract config).Assertion where
  holds := (hostContract config).finish result
  stable := by
    rintro state host _ host' _ ⟨rfl, _⟩ _ holds
    exact holds

theorem handle (command : EgressCommand) :
    Outline config anything (Netd.handle config command) finished := by
  have succeeded : ∀ {asked : EgressCommand} {mode : EgressMode} (response : EgressResponse),
      asked.requested = some mode →
      Outline config (transitioned mode (.ok response)) (.done (asked, response)) finished := by
    intro asked mode response requested
    refine Contract.Spec.done fun state host _ holds mode' again _ => ?_
    rw [← Option.some.inj (requested.symm.trans again)]
    exact holds response rfl
  have refused : ∀ {pre : (hostContract config).Assertion} (asked : EgressCommand)
      (response : EgressResponse), response.ok = false →
      Outline config pre (.done (asked, response)) finished := by
    intro pre asked response failure
    exact Contract.Spec.done fun _ _ _ _ _ _ success =>
      absurd success (Bool.eq_false_iff.mp failure)
  cases command with
  | apply mode =>
      refine Contract.Spec.bind (transition mode) fun result => ?_
      cases result with
      | ok response => exact succeeded response rfl
      | error error => exact refused (.apply mode) _ rfl
  | reset =>
      refine Contract.Spec.bind (transition .direct) fun result => ?_
      cases result with
      | ok response => exact succeeded response rfl
      | error error => exact refused .reset _ rfl
  | status =>
      have looked : Outline config anything (Netd.execute config .status) fun _ => anything :=
        Contract.Spec.transact total fun _ _ good _ _ _ => ⟨trivial, good.2, trivial⟩
      refine Contract.Spec.bind looked fun result => ?_
      cases result with
      | ok response =>
          exact Contract.Spec.done fun _ _ _ _ _ requested => (nomatch requested)
      | error error =>
          exact Contract.Spec.done fun _ _ _ _ _ requested => (nomatch requested)

theorem established (config : NetworkConfig) :
    (hostContract config).Established (Netd.hostPool config) where
  operation command := handle command
  task task := task.elim
  noise event state host state' host' good changed _ := by
    rcases Option.map_eq_some_iff.mp changed with ⟨after, disturbed, equal⟩
    obtain ⟨rfl, rfl⟩ := Prod.mk.inj equal
    have same := Host.arrangement_of_disturb disturbed
    refine ⟨⟨rfl, rfl, same⟩, fun mode active => ?_⟩
    obtain ⟨firewall, routing⟩ := good.2 mode active
    constructor
    · rwa [same.1]
    · rwa [same.2]
  resting _ _ _ _ _ _ _ _ := trivial
  finished _ _ _ _ _ := trivial

end hostContract

/-! ## The result -/

/-- The host agrees with the mode that the helper remembers and with the proxy that
was validated for it, and a request that has succeeded is remembered. -/
structure HostAgrees (config : NetworkConfig) (reached : HostConfiguration) : Prop where
  serves : ∀ mode, reached.memory.activeMode = some mode →
    reached.world.state.Serves config mode (reached.world.notes.endpoint mode)
  acknowledged : ∀ command response mode, reached.result = some (command, response) →
    command.requested = some mode → response.ok = true → reached.memory.activeMode = some mode

/-- The host agrees with the helper in all runs, whatever fails, is cut short by
the deadline or is done by others. -/
theorem host_agrees_of_reaches {config : NetworkConfig} {host : Host}
    {reached : HostConfiguration}
    (reaches : (Netd.hostPool config).Reaches (.idle {} ⟨host, none⟩) reached) :
    HostAgrees config reached := by
  have initial : (hostContract config).Holds (Netd.hostPool config).answer
      (.idle {} ⟨host, none⟩ : HostConfiguration) :=
    .idle ⟨trivial, fun _ active => nomatch active⟩ trivial
  have holds := (hostContract.established config).sound initial (fun _ _ => trivial)
    ((Netd.hostPool config).reachesUnder_free reaches)
  constructor
  · exact holds.good.2
  · intro command response mode finished requested succeeded
    have running := Config.holder_of_result finished
    exact holds.holder _ running _ _ .refl holds.good mode requested succeeded

namespace Sample

abbrev HostLabel := Pool.Label EgressCommand Empty (Bool × List String) HostOutcome

/-- Before the helper has set anything up. -/
def bare : Routing where
  link := false
  routed _ := false
  rules _ := ["32766:\tfrom all lookup main"]

def works : HostLabel :=
  .step (some (.ran .succeeded true bare))

/-- WireGuard is requested where there is nothing to tear down, so that all these
commands fail; another program adds a rule during the setup. -/
def tunnels : List HostLabel :=
  [.start (.apply .wireGuard), .step none, works, works] ++
    List.replicate 5 (.step (some (.ran (.failed "No such process") false bare))) ++
    [.step (some .seen), .step (some (.listed none)), .step (some (.listed none)),
      .step (some (.checked (.ok ()))), works, works, works, works,
      .noise (false, bare.rules false ++ ["32767:\tfrom all lookup default",
        "10000:\tfrom all uidrange 988-988 lookup 51820"]),
      works, works, works, .step none]

end Sample

/-- Once WireGuard has been acknowledged, both families have their rule. -/
theorem host_agrees_of_tunnels :
    ∃ reached : HostConfiguration, reached.memory.activeMode = some .wireGuard ∧
      reached.world.state.routing.rules true =
        ["10000:\tfrom all uidrange 988-988 lookup 51820", "32766:\tfrom all lookup main"] ∧
      HostAgrees {} reached := by
  have executed : ((run (Netd.hostPool {}).step (.idle {} ⟨⟨⟨[]⟩, Sample.bare⟩, none⟩)
      Sample.tunnels).map fun reached =>
        (reached.memory.activeMode, reached.world.state.routing.rules true)) =
      some (some .wireGuard, ["10000:\tfrom all uidrange 988-988 lookup 51820",
        "32766:\tfrom all lookup main"]) := by
    decide +kernel
  rcases Option.map_eq_some_iff.mp executed with ⟨reached, executed, values⟩
  rcases Prod.mk.inj values with ⟨mode, rules⟩
  exact ⟨reached, mode, rules, host_agrees_of_reaches (reachable_of_run executed)⟩

end XanhTab
