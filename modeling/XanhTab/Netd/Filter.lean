import XanhTab.Netd.Script
import XanhTab.Program.Requests

/-!
# What the policies do to packets

The meaning of the plans as nft executes them, for every table that was there
before, and the table during a transition that has put its kill switch in place.
-/

namespace XanhTab

open Program Transition

namespace Netd

/-- Execute the commands of a plan, each of which has to succeed. -/
def commitPlan (plan : List CommandSpec) (table : Nft.Table) : Option Nft.Table :=
  plan.foldlM (fun table spec => spec.commit table) table

/-- What a mode lets the browser send. -/
def Permits (mode : EgressMode) (proxyEndpoint : Option SocketAddr) (packet : Nft.Packet) : Prop :=
  match mode with
  | .direct => True
  | .tor | .warp | .proxy => ∃ endpoint, proxyEndpoint = some endpoint ∧
      packet.daddr = endpoint.ip ∧ packet.dport = some endpoint.port
  | .wireGuard => packet.oifname = wireguardInterface

/-- Every packet of the browser is dropped. -/
def HoldsBrowser (config : NetworkConfig) (table : Nft.Table) : Prop :=
  ∀ packet : Nft.Packet, packet.skuid = some config.browserUid → Nft.verdict packet table = .drop

/-! ## Transactions -/

section Transaction

variable {config : NetworkConfig}

/-- A transaction commits on every table, and its rules alone decide afterwards. -/
theorem commit_transaction (config : NetworkConfig) (mode : Option EgressMode)
    (proxyEndpoint : Option SocketAddr) (chains : List Nft.Chain) :
    ∃ after, (nftTransaction config mode proxyEndpoint).commit (some chains) = some after ∧
      ∀ packet, Nft.verdict packet after =
        Nft.rulesVerdict packet ((policyRules config mode proxyEndpoint).map
          NftRule.expressions) := by
  have read := readScript_transaction config mode proxyEndpoint
  rcases Nft.commit_of_read read chains with ⟨after, committed, holding⟩
  refine ⟨some after, ?_, holding.verdict⟩
  rw [← committed]
  exact if_pos rfl

/-- There has to be a table. -/
theorem commit_transaction_none (config : NetworkConfig) (mode : Option EgressMode)
    (proxyEndpoint : Option SocketAddr) :
    (nftTransaction config mode proxyEndpoint).commit none = none := by
  have read := readScript_transaction config mode proxyEndpoint
  have unfolded : (nftTransaction config mode proxyEndpoint).commit none =
      Nft.commit tableName (nftTransaction config mode proxyEndpoint).script none := if_pos rfl
  rw [unfolded]
  unfold Nft.commit
  rw [read]
  rfl

theorem commit_addTable (table : Nft.Table) : addTable.commit table = some (some (table.getD [])) := by
  have read : Nft.readScript addTable.script = some [.addTable tableName] := by decide +kernel
  have unfolded : addTable.commit table = Nft.commit tableName addTable.script table := if_pos rfl
  rw [unfolded]
  unfold Nft.commit
  rw [read]
  rfl

theorem commit_of_program {spec : CommandSpec} (other : spec.program ≠ nftProgram)
    (table : Nft.Table) : spec.commit table = some table :=
  if_neg other

/-! ## Verdicts -/

theorem verdict_drop (uid : Nat) (packet : Nft.Packet) :
    Nft.rulesVerdict packet [(NftRule.drop uid).expressions] = .drop ↔ packet.skuid = some uid := by
  by_cases browser : packet.skuid = some uid
  · simp [Nft.rulesVerdict, Nft.ruleVerdict, NftRule.expressions, Nft.Expr.passes, browser]
  · simp [Nft.rulesVerdict, Nft.ruleVerdict, NftRule.expressions, Nft.Expr.passes, browser]

/-- Other users are not concerned by any policy. -/
theorem verdict_of_other {uid : Nat} {packet : Nft.Packet} {rules : List NftRule}
    (about : ∀ rule ∈ rules, ∃ rest, rule.expressions = .skuid uid :: rest)
    (other : packet.skuid ≠ some uid) :
    Nft.rulesVerdict packet (rules.map NftRule.expressions) = .accept := by
  induction rules with
  | nil => rfl
  | cons rule rest ih =>
      rcases about rule List.mem_cons_self with ⟨exprs, start⟩
      have others := ih fun later member => about later (List.mem_cons_of_mem _ member)
      have passes : Nft.Expr.passes packet (.skuid uid) = false := by
        simpa [Nft.Expr.passes] using other
      simp [Nft.rulesVerdict, start, Nft.ruleVerdict, passes, others]

theorem skuid_of_mem {mode : Option EgressMode} {proxyEndpoint : Option SocketAddr}
    {rule : NftRule} (member : rule ∈ policyRules config mode proxyEndpoint) :
    ∃ rest, rule.expressions = .skuid config.browserUid :: rest := by
  have owned : ∀ rule ∈ policyRules config mode proxyEndpoint,
      (∃ endpoint, rule = .acceptEndpoint config.browserUid endpoint) ∨
        (∃ interface, rule = .acceptInterface config.browserUid interface) ∨
          rule = .drop config.browserUid := by
    intro rule member
    cases mode with
    | none => simp_all [policyRules]
    | some mode =>
        cases mode with
        | direct => cases member
        | wireGuard =>
            simp only [policyRules, List.mem_cons, List.not_mem_nil, or_false] at member
            rcases member with rfl | rfl
            · exact .inr (.inl ⟨_, rfl⟩)
            · exact .inr (.inr rfl)
        | tor | warp | proxy =>
            cases proxyEndpoint with
            | none => exact .inr (.inr (List.mem_singleton.mp member))
            | some endpoint =>
                simp only [policyRules, proxyGuard, List.mem_cons, List.not_mem_nil,
                  or_false] at member
                rcases member with rfl | rfl
                · exact .inl ⟨_, rfl⟩
                · exact .inr (.inr rfl)
  rcases owned rule member with ⟨endpoint, rfl⟩ | ⟨interface, rfl⟩ | rfl
  · exact ⟨_, rfl⟩
  · exact ⟨_, rfl⟩
  · exact ⟨_, rfl⟩

/-- The chain of the plans decides as nft does. -/
theorem rulesVerdict_expressions {uid : Nat} {packet : Nft.Packet} (user : packet.skuid = some uid)
    (rules : List NftRule) :
    Nft.rulesVerdict packet (rules.map NftRule.expressions) =
      chainVerdict ⟨uid, packet.oifname, packet.daddr, packet.dport⟩ rules := by
  induction rules with
  | nil => rfl
  | cons rule rest ih =>
      have decided : Nft.ruleVerdict packet rule.expressions =
          if rule.Matches ⟨uid, packet.oifname, packet.daddr, packet.dport⟩ then some rule.verdict
          else none := by
        cases rule with
        | acceptEndpoint owner endpoint =>
            by_cases owned : uid = owner <;> by_cases address : packet.daddr = endpoint.ip <;>
              by_cases port : packet.dport = some endpoint.port <;>
              simp [NftRule.expressions, NftRule.Matches, NftRule.verdict, Nft.ruleVerdict,
                Nft.Expr.passes, user, owned, address, port]
        | acceptInterface owner interface =>
            by_cases owned : uid = owner <;> by_cases leaves : packet.oifname = interface <;>
              simp [NftRule.expressions, NftRule.Matches, NftRule.verdict, Nft.ruleVerdict,
                Nft.Expr.passes, user, owned, leaves]
        | drop owner =>
            by_cases owned : uid = owner <;>
              simp [NftRule.expressions, NftRule.Matches, NftRule.verdict, Nft.ruleVerdict,
                Nft.Expr.passes, user, owned]
      rw [List.map_cons, Nft.rulesVerdict, decided, chainVerdict, ih]
      split
      · rfl
      · rfl

theorem verdict_proxyGuard {uid : Nat} {packet : Nft.Packet} (browser : packet.skuid = some uid)
    (endpoint : SocketAddr) :
    Nft.rulesVerdict packet ((proxyGuard uid endpoint).map NftRule.expressions) = .accept ↔
      packet.daddr = endpoint.ip ∧ packet.dport = some endpoint.port := by
  rw [rulesVerdict_expressions browser]
  by_cases meant : packet.daddr = endpoint.ip ∧ packet.dport = some endpoint.port
  · simp [proxyGuard, chainVerdict, NftRule.Matches, NftRule.verdict, meant]
  · simp [proxyGuard, chainVerdict, NftRule.Matches, NftRule.verdict, meant]

theorem verdict_interface {uid : Nat} {packet : Nft.Packet} (browser : packet.skuid = some uid)
    (interface : String) :
    Nft.rulesVerdict packet ([.acceptInterface uid interface, .drop uid].map
      NftRule.expressions) = .accept ↔ packet.oifname = interface := by
  rw [rulesVerdict_expressions browser]
  by_cases leaves : packet.oifname = interface
  · simp [chainVerdict, NftRule.Matches, NftRule.verdict, leaves]
  · simp [chainVerdict, NftRule.Matches, NftRule.verdict, leaves]

/-- What a policy accepts of the browser. -/
theorem verdict_of_browser {mode : EgressMode} {proxyEndpoint : Option SocketAddr}
    {packet : Nft.Packet} (needed : mode.usesProxy = true → proxyEndpoint ≠ none)
    (browser : packet.skuid = some config.browserUid) :
    Nft.rulesVerdict packet ((policyRules config (some mode) proxyEndpoint).map
      NftRule.expressions) = .accept ↔ Permits mode proxyEndpoint packet := by
  cases mode with
  | direct =>
      constructor
      · exact fun _ => trivial
      · exact fun _ => rfl
  | wireGuard => exact verdict_interface browser wireguardInterface
  | tor | warp | proxy =>
      cases proxyEndpoint with
      | none => exact (needed rfl rfl).elim
      | some endpoint =>
          constructor
          · exact fun accepted => ⟨endpoint, rfl, (verdict_proxyGuard browser endpoint).mp accepted⟩
          · rintro ⟨_, ⟨⟩, permitted⟩
            exact (verdict_proxyGuard browser endpoint).mpr permitted

/-! ## Plans -/

theorem commitPlan_cons (spec : CommandSpec) (rest : List CommandSpec) (table : Nft.Table) :
    commitPlan (spec :: rest) table = (spec.commit table).bind (commitPlan rest) :=
  rfl

theorem commitPlan_single (spec : CommandSpec) (table : Nft.Table) :
    commitPlan [spec] table = spec.commit table := by
  rw [commitPlan_cons]
  exact Option.bind_fun_some _

theorem commit_killSwitchPlan (config : NetworkConfig) (prior : Nft.Table) :
    ∃ after, commitPlan (killSwitchPlan config) prior = some after ∧
      ∀ packet, Nft.verdict packet after = .drop ↔ packet.skuid = some config.browserUid := by
  rcases commit_transaction config none none (prior.getD []) with ⟨after, committed, decides⟩
  refine ⟨after, ?_, ?_⟩
  · unfold killSwitchPlan
    rw [commitPlan_cons, commit_addTable, Option.bind_some, commitPlan_single, committed]
  · intro packet
    rw [decides packet]
    exact verdict_drop config.browserUid packet

theorem activePolicyPlan_eq_ok {mode : EgressMode} {proxyEndpoint : Option SocketAddr}
    {plan : List CommandSpec} (planned : activePolicyPlan config mode proxyEndpoint = .ok plan) :
    plan = [nftTransaction config (some mode) proxyEndpoint] ∧
      (mode.usesProxy = true → proxyEndpoint ≠ none) := by
  unfold activePolicyPlan at planned
  split at planned
  · cases planned
  · rename_i allowed
    cases planned
    exact ⟨rfl, fun proxied absent => allowed ⟨proxied, absent⟩⟩

theorem holdsBrowser_of_transaction {table after : Nft.Table}
    (committed : (nftTransaction config none none).commit table = some after) :
    HoldsBrowser config after := by
  cases table with
  | none =>
      rw [commit_transaction_none] at committed
      cases committed
  | some chains =>
      rcases commit_transaction config none none chains with ⟨result, executed, decides⟩
      rw [executed] at committed
      cases committed
      intro packet browser
      rw [decides packet]
      exact (verdict_drop config.browserUid packet).mpr browser

/-- What a policy decides once its plan has committed. -/
theorem verdict_of_activePolicyPlan {mode : EgressMode} {proxyEndpoint : Option SocketAddr}
    {plan : List CommandSpec} (planned : activePolicyPlan config mode proxyEndpoint = .ok plan)
    {prior after : Nft.Table} (committed : commitPlan plan prior = some after)
    (packet : Nft.Packet) :
    (packet.skuid ≠ some config.browserUid → Nft.verdict packet after = .accept) ∧
      (packet.skuid = some config.browserUid →
        (Nft.verdict packet after = .accept ↔ Permits mode proxyEndpoint packet)) := by
  rcases activePolicyPlan_eq_ok planned with ⟨rfl, needed⟩
  rw [commitPlan_single] at committed
  cases prior with
  | none =>
      rw [commit_transaction_none] at committed
      cases committed
  | some chains =>
      rcases commit_transaction config (some mode) proxyEndpoint chains with
        ⟨result, executed, decides⟩
      rw [executed] at committed
      cases committed
      rw [decides packet]
      constructor
      · exact verdict_of_other fun rule member => skuid_of_mem member
      · exact verdict_of_browser needed

theorem commits_activePolicyPlan {mode : EgressMode} {proxyEndpoint : Option SocketAddr}
    {plan : List CommandSpec} (planned : activePolicyPlan config mode proxyEndpoint = .ok plan)
    (chains : List Nft.Chain) : ∃ after, commitPlan plan (some chains) = some after := by
  rcases activePolicyPlan_eq_ok planned with ⟨rfl, _⟩
  rcases commit_transaction config (some mode) proxyEndpoint chains with ⟨after, committed, _⟩
  exact ⟨after, (commitPlan_single _ _).trans committed⟩

end Transaction

end Netd

/-! ## Transitions -/

/-- The table, and the commands that have taken effect on it so far. -/
structure Filter where
  table : Nft.Table
  executed : List CommandSpec := []

namespace Filter

def commit (spec : CommandSpec) (filter : Filter) : Option Filter :=
  (spec.commit filter.table).map fun table =>
    { table := table, executed := filter.executed ++ [spec] }

/-- A command that succeeds has taken effect and one that fails has not; of one
that is not observed to its end this is open. -/
def answer : Answer NetCall NetCall.Reply Filter NetOutcome
  | .run spec, .ran .succeeded _, filter =>
      (filter.commit spec).map fun after => (.succeeded, after)
  | .run _, .ran (.failed stderr) _, filter => some (.failed stderr, filter)
  | .run spec, .ran (.broken detail) commits, filter =>
      if commits then (filter.commit spec).map fun after => (.broken detail, after)
      else some (.broken detail, filter)
  | .interfaceExists, .present value, filter => some (value, filter)
  | .showRules _, .listed reply, filter => some (reply, filter)
  | .validateProxy _, .located reply, filter => some (reply, filter)
  | .validateWireguardConfig, .checked reply, filter | .connect _, .checked reply, filter =>
      some (reply, filter)
  | _, _, _ => none

/-- A call leaves the filter alone, or executes its command. -/
theorem answer_cases {request : NetCall} {outcome : NetOutcome} {filter after : Filter}
    {reply : request.Reply} (answered : answer request outcome filter = some (reply, after)) :
    after = filter ∨ ∃ spec, request = .run spec ∧ filter.commit spec = some after := by
  cases request with
  | run spec =>
      cases outcome with
      | ran result commits =>
          cases result with
          | succeeded =>
              rcases Option.map_eq_some_iff.mp answered with ⟨_, committed, equal⟩
              cases equal
              exact .inr ⟨spec, rfl, committed⟩
          | failed stderr =>
              cases answered
              exact .inl rfl
          | broken detail =>
              cases commits with
              | false =>
                  cases answered
                  exact .inl rfl
              | true =>
                  rcases Option.map_eq_some_iff.mp answered with ⟨_, committed, equal⟩
                  cases equal
                  exact .inr ⟨spec, rfl, committed⟩
      | present _ | listed _ | located _ | checked _ => cases answered
  | interfaceExists | showRules _ | validateProxy _ | validateWireguardConfig | connect _ =>
      cases outcome <;> cases answered
      exact .inl rfl

theorem commit_of_succeeded {spec : CommandSpec} {outcome : NetOutcome} {filter after : Filter}
    (answered : answer (.run spec) outcome filter = some (.succeeded, after)) :
    spec.commit filter.table = some after.table := by
  cases outcome with
  | ran result commits =>
      cases result with
      | succeeded =>
          rcases Option.map_eq_some_iff.mp answered with ⟨_, committed, equal⟩
          cases equal
          rcases Option.map_eq_some_iff.mp committed with ⟨table, executed, rfl⟩
          exact executed
      | failed stderr => cases answered
      | broken detail =>
          cases commits with
          | false => cases answered
          | true =>
              rcases Option.map_eq_some_iff.mp answered with ⟨_, _, equal⟩
              cases equal
  | present _ | listed _ | located _ | checked _ => cases answered

end Filter

namespace Netd

variable (config : NetworkConfig)

/-- The part of `transition` up to the kill switch. -/
def beginTransition : NetRoutine (Except String Unit) := do
  sync fun state => ((), { state with activeMode := none })
  killSwitch config

/-- The part of `transition` from the kill switch on. -/
def afterKillSwitch (mode : EgressMode) : NetRoutine (Except String EgressResponse) := do
  match ← transitionInner config mode with
  | .error error => restoreKillSwitch config error
  | .ok () =>
      sync fun state => ((), { state with activeMode := some mode })
      return .ok
        { ok := true
          activeMode := mode
          detail := "egress policy applied after fail-closed transition" }

/-- The response to a command with the result. -/
def respond (command : EgressCommand) :
    Except String EgressResponse → NetRoutine (EgressCommand × EgressResponse)
  | .ok response => return (command, response)
  | .error error => return (command, { ok := false, activeMode := .direct, detail := error })

/-- The mode that a command switches to. -/
def targetOf : EgressCommand → Option EgressMode
  | .apply mode => some mode
  | .reset => some .direct
  | .status => none

/-- The helper with the filter as its world. -/
def filterPool : Pool NetworkState NetCall NetCall.Reply (EgressCommand × EgressResponse) Filter
    NetOutcome EgressCommand Empty Empty where
  answer := Filter.answer
  operation := Netd.handle config
  task task := task.elim
  noise event := event.elim

variable {config}

theorem handle_eq {command : EgressCommand} {mode : EgressMode}
    (target : targetOf command = some mode) :
    handle config command =
      (beginTransition config).andThen (fun _ => afterKillSwitch config mode) >>=
        respond command := by
  cases command with
  | apply requested =>
      obtain rfl := Option.some.inj target
      rfl
  | reset =>
      obtain rfl := Option.some.inj target
      rfl
  | status => cases target

/-! ## What a transition executes -/

/-- A transaction of the policy that a transition ends with. -/
def IsFinal (config : NetworkConfig) (mode : EgressMode) (spec : CommandSpec) : Prop :=
  ∃ proxyEndpoint plan, activePolicyPlan config mode proxyEndpoint = .ok plan ∧ spec ∈ plan

/-- A request of a transition to the mode. -/
def OfTransition (config : NetworkConfig) (mode : EgressMode) (request : NetCall) : Prop :=
  ∀ spec, request = .run spec →
    spec ∈ killSwitchPlan config ∨ spec.program ≠ nftProgram ∨ IsFinal config mode spec

/-- The browser is held, or the final policy has been committed. -/
def Guarded (config : NetworkConfig) (mode : EgressMode) (filter : Filter) : Prop :=
  HoldsBrowser config filter.table ∨ ∃ spec ∈ filter.executed, IsFinal config mode spec

section Transition

variable {mode : EgressMode}

/-- The kill switch is not taken for a final policy. -/
theorem not_isFinal_of_killSwitch {spec : CommandSpec} (member : spec ∈ killSwitchPlan config) :
    ¬ IsFinal config mode spec := by
  rintro ⟨proxyEndpoint, plan, planned, listed⟩
  rcases activePolicyPlan_eq_ok planned with ⟨rfl, needed⟩
  obtain rfl := List.mem_singleton.mp listed
  simp only [killSwitchPlan, List.mem_cons, List.not_mem_nil, or_false] at member
  rcases member with table | switch
  · simp [nftTransaction, addTable] at table
  · cases mode with
    | direct | wireGuard => simp [nftTransaction, policyRules] at switch
    | tor | warp | proxy =>
        cases proxyEndpoint with
        | none => exact needed rfl rfl
        | some endpoint => simp [nftTransaction, policyRules, proxyGuard] at switch

theorem holdsBrowser_of_killSwitch {spec : CommandSpec} {table after : Nft.Table}
    (member : spec ∈ killSwitchPlan config) (committed : spec.commit table = some after)
    (holds : HoldsBrowser config table) : HoldsBrowser config after := by
  simp only [killSwitchPlan, List.mem_cons, List.not_mem_nil, or_false] at member
  rcases member with rfl | rfl
  · rw [commit_addTable] at committed
    cases committed
    exact holds
  · exact holdsBrowser_of_transaction committed

theorem guarded_of_commit {spec : CommandSpec} {filter after : Filter}
    (allowed : spec ∈ killSwitchPlan config ∨ spec.program ≠ nftProgram ∨ IsFinal config mode spec)
    (committed : filter.commit spec = some after) (guarded : Guarded config mode filter) :
    Guarded config mode after := by
  rcases Option.map_eq_some_iff.mp committed with ⟨table, executed, rfl⟩
  rcases guarded with holds | ⟨final, member, isFinal⟩
  · rcases allowed with switch | other | isFinal
    · exact .inl (holdsBrowser_of_killSwitch switch executed holds)
    · rw [commit_of_program other] at executed
      cases executed
      exact .inl holds
    · exact .inr ⟨spec, List.mem_append_right _ (List.mem_singleton_self spec), isFinal⟩
  · exact .inr ⟨final, List.mem_append_left _ member, isFinal⟩

/-- Every answer to a request of a transition keeps the browser guarded. -/
theorem guarded_of_answer (request : NetCall) (allowed : OfTransition config mode request)
    (outcome : NetOutcome) (filter : Filter) (reply : request.Reply) (after : Filter)
    (answered : Filter.answer request outcome filter = some (reply, after))
    (guarded : Guarded config mode filter) : Guarded config mode after := by
  rcases Filter.answer_cases answered with rfl | ⟨spec, rfl, committed⟩
  · exact guarded
  · exact guarded_of_commit (allowed spec rfl) committed guarded

theorem ofTransition_of_inspects {request : NetCall} (inspects : request.Inspects) :
    OfTransition config mode request := by
  rintro spec rfl
  exact inspects.elim

theorem uses_runPlan {allowed : NetCall → Prop} {allowExistingTable ignoreFailures : Bool}
    {plan : List CommandSpec} (each : ∀ spec ∈ plan, allowed (.run spec)) :
    (runPlan allowExistingTable ignoreFailures plan).Uses allowed := by
  induction plan with
  | nil => trivial
  | cons spec rest ih =>
      have others := ih fun later member => each later (List.mem_cons_of_mem spec member)
      refine ⟨each spec List.mem_cons_self, fun result => ?_⟩
      cases result with
      | succeeded => exact others
      | broken detail => trivial
      | failed stderr =>
          dsimp only
          split
          · exact others
          · trivial

theorem uses_killSwitch : (killSwitch config).Uses (OfTransition config mode) := by
  apply uses_runPlan
  rintro spec member _ ⟨⟩
  exact .inl member

theorem uses_teardown : (teardownWireguard config).Uses (OfTransition config mode) := by
  have planned : ∀ spec ∈ wireguardTeardownPlan config, OfTransition config mode (.run spec) := by
    rintro spec member _ ⟨⟩
    simp only [wireguardTeardownPlan, ipCommand, List.mem_cons, List.not_mem_nil,
      or_false] at member
    have other : ipProgram ≠ nftProgram := by decide
    rcases member with rfl | rfl | rfl | rfl | rfl <;> exact .inr (.inl other)
  have family : ∀ ipv6, (checkFamily config ipv6).Uses (OfTransition config mode) := by
    intro ipv6
    refine ⟨ofTransition_of_inspects trivial, fun reply => ?_⟩
    cases reply with
    | error _ => trivial
    | ok lines =>
        show Program.Uses _ (if _ then _ else _)
        split
        · trivial
        · trivial
  apply (uses_runPlan planned).andThen
  intro _
  refine ⟨ofTransition_of_inspects trivial, fun present => ?_⟩
  cases present with
  | true => trivial
  | false => exact (family false).andThen fun _ => family true

theorem uses_setupWireguard : (setupWireguard config mode).Uses (OfTransition config mode) := by
  have planned : ∀ spec ∈ wireguardSetupPlan config, OfTransition config mode (.run spec) := by
    rintro spec member _ ⟨⟩
    simp only [wireguardSetupPlan, ipCommand, List.mem_cons, List.not_mem_nil, or_false] at member
    have wgQuick : wgQuickProgram ≠ nftProgram := by decide
    have ip : ipProgram ≠ nftProgram := by decide
    have wg : wgProgram ≠ nftProgram := by decide
    rcases member with rfl | rfl | rfl | rfl | rfl | rfl
    · exact .inr (.inl wgQuick)
    · exact .inr (.inl ip)
    · exact .inr (.inl ip)
    · exact .inr (.inl ip)
    · exact .inr (.inl ip)
    · exact .inr (.inl wg)
  unfold setupWireguard
  split
  · refine ⟨ofTransition_of_inspects trivial, fun reply => ?_⟩
    cases reply with
    | error _ => trivial
    | ok _ => exact uses_runPlan planned
  · trivial

theorem uses_activatePolicy (proxyEndpoint : Option SocketAddr) :
    (activatePolicy config mode proxyEndpoint).Uses (OfTransition config mode) := by
  unfold activatePolicy
  split
  · trivial
  · rename_i plan planned
    apply uses_runPlan
    rintro spec member _ ⟨⟩
    exact .inr (.inr ⟨proxyEndpoint, plan, planned, member⟩)

theorem uses_transitionInner : (transitionInner config mode).Uses (OfTransition config mode) := by
  have located : (endpointFor mode).Uses (OfTransition config mode) := by
    unfold endpointFor
    split
    · exact ⟨ofTransition_of_inspects trivial, fun _ => trivial⟩
    · trivial
  have probed : ∀ endpoint, (probeProxy endpoint).Uses (OfTransition config mode) := by
    intro endpoint
    cases endpoint with
    | none => trivial
    | some endpoint => exact ⟨ofTransition_of_inspects trivial, fun _ => trivial⟩
  apply uses_teardown.andThen
  intro _
  apply located.andThen
  intro endpoint
  apply uses_setupWireguard.andThen
  intro _
  exact (probed endpoint).andThen fun _ => uses_activatePolicy endpoint

theorem uses_restoreKillSwitch (error : String) :
    (restoreKillSwitch config error).Uses (OfTransition config mode) := by
  apply uses_teardown.bind
  intro cleanup
  cases cleanup with
  | ok _ =>
      apply uses_killSwitch.bind
      intro result
      cases result with
      | ok _ => trivial
      | error _ => trivial
  | error _ =>
      apply uses_killSwitch.bind
      intro result
      cases result with
      | ok _ => trivial
      | error _ => trivial

theorem uses_afterKillSwitch (command : EgressCommand) :
    (afterKillSwitch config mode >>= respond command).Uses (OfTransition config mode) := by
  have answered : ∀ result, (respond command result).Uses (OfTransition config mode) := by
    intro result
    cases result with
    | ok _ => trivial
    | error _ => trivial
  apply Program.Uses.bind _ answered
  apply uses_transitionInner.bind
  intro result
  cases result with
  | ok _ => exact fun _ => trivial
  | error error => exact uses_restoreKillSwitch error

/-- A kill switch that succeeds holds the browser, whatever the table was before. -/
theorem holdsBrowser_of_begin {state state' : NetworkState} {filter held : Filter}
    (ends : (beginTransition config).Ends Filter.answer state filter (.ok ()) state' held) :
    HoldsBrowser config held.table := by
  have transacted : ∀ {before : Filter} {memory : NetworkState},
      (runPlan true false [nftTransaction config none none]).Ends Filter.answer memory before
        (.ok ()) state' held → HoldsBrowser config held.table := by
    rintro before memory ⟨outcome, reply, middle, answered, ends⟩
    cases reply with
    | succeeded =>
        rw [← ends.2.2]
        exact holdsBrowser_of_transaction (Filter.commit_of_succeeded answered)
    | broken _ => cases ends.1
    | failed stderr =>
        dsimp only at ends
        rw [if_neg (by simp [ignores, ignorableExistingTable, nftTransaction, addTable])] at ends
        cases ends.1
  rcases ends with ⟨outcome, reply, middle, _, ends⟩
  cases reply with
  | succeeded => exact transacted ends
  | broken _ => cases ends.1
  | failed stderr =>
      dsimp only at ends
      split at ends
      · exact transacted ends
      · cases ends.1

/-- From the kill switch on, a transition keeps the browser guarded. -/
theorem guarded_of_reaches {command : EgressCommand} {state : NetworkState} {held : Filter}
    (holds : HoldsBrowser config held.table)
    {reached : Config NetworkState NetCall NetCall.Reply (EgressCommand × EgressResponse) Filter}
    (reaches : ReachableUnder (filterPool config).step (fun _ label => label.Ongoing)
      ⟨state, held, some (afterKillSwitch config mode >>= respond command), []⟩ reached) :
    Guarded config mode reached.world := by
  apply Pool.invariant_of_uses guarded_of_answer (fun event => event.elim) ?_ (.inl holds) reaches
  constructor
  · rintro _ ⟨⟩
    exact uses_afterKillSwitch command
  · intro program member
    cases member

end Transition

end Netd

/-! ## The result -/

/-- What the scripts do to packets, and what the browser may send during a
transition. -/
structure PolicySemantics (config : NetworkConfig) : Prop where
  text : ∀ mode proxyEndpoint,
    (∀ used, mode = some used → used.usesProxy = true → proxyEndpoint ≠ none) →
    Netd.nftTransactionScript config mode proxyEndpoint =
      some (nftTransaction config mode proxyEndpoint).script
  killSwitch : ∀ prior, ∃ after, Netd.commitPlan (killSwitchPlan config) prior = some after ∧
    ∀ packet, Nft.verdict packet after = .drop ↔ packet.skuid = some config.browserUid
  commits : ∀ mode proxyEndpoint plan, activePolicyPlan config mode proxyEndpoint = .ok plan →
    ∀ chains, ∃ after, Netd.commitPlan plan (some chains) = some after
  policy : ∀ mode proxyEndpoint plan, activePolicyPlan config mode proxyEndpoint = .ok plan →
    ∀ prior after, Netd.commitPlan plan prior = some after → ∀ packet,
      (packet.skuid ≠ some config.browserUid → Nft.verdict packet after = .accept) ∧
      (packet.skuid = some config.browserUid →
        (Nft.verdict packet after = .accept ↔ Netd.Permits mode proxyEndpoint packet))
  distinct : ∀ mode, ∀ spec ∈ killSwitchPlan config, ¬ Netd.IsFinal config mode spec
  begins : ∀ command mode, Netd.targetOf command = some mode → Netd.handle config command =
    (Netd.beginTransition config).andThen (fun _ => Netd.afterKillSwitch config mode) >>=
      Netd.respond command
  transition : ∀ command mode state prior state' held,
    (Netd.beginTransition config).Ends Filter.answer state ⟨prior, []⟩ (.ok ()) state' held →
    ∀ reached, ReachableUnder (Netd.filterPool config).step (fun _ label => label.Ongoing)
      ⟨state', held, some (Netd.afterKillSwitch config mode >>= Netd.respond command), []⟩
      reached → Netd.Guarded config mode reached.world

/-- The scripts drop and accept what their policies say, for every table that
was there before, and a transition holds the browser until its final policy. -/
theorem policy_semantics (config : NetworkConfig) : PolicySemantics config where
  text _ _ needed := nftTransaction_script needed
  killSwitch := Netd.commit_killSwitchPlan config
  commits _ _ _ planned := Netd.commits_activePolicyPlan planned
  policy _ _ _ planned _ _ := Netd.verdict_of_activePolicyPlan planned
  distinct _ _ := Netd.not_isFinal_of_killSwitch
  begins _ _ := Netd.handle_eq
  transition _ _ _ _ _ _ begun _ := Netd.guarded_of_reaches (Netd.holdsBrowser_of_begin begun)

end XanhTab
