import XanhTab.Daemon.Model
import XanhTab.Netd.Nft

/-!
# Policies and plans of the network helper

The command plans of `netd.rs`, with the meaning of their nft transactions.  A
script is kept as the list of its lines rather than as their text.
-/

namespace XanhTab

structure SocketAddr where
  ip : IpAddr
  port : Nat
  deriving DecidableEq, Repr

/-- The part of the network configuration that plans are made from. -/
structure NetworkConfig where
  browserUid : Nat := 988
  wireguardConfig : String := "/etc/xanhtab/secrets/wg0.conf"

/-! ## The chain for the output of the browser -/

/-- A packet as the chain sees it.  The port is the destination port of TCP. -/
structure Packet where
  uid : Nat
  interface : String
  destination : IpAddr
  port : Option Nat
  deriving DecidableEq, Repr

/-- The rules that the scripts add. -/
inductive NftRule
  | acceptEndpoint (uid : Nat) (endpoint : SocketAddr)
  | acceptInterface (uid : Nat) (interface : String)
  | drop (uid : Nat)
  deriving DecidableEq, Repr

namespace NftRule

def Matches (packet : Packet) : NftRule → Prop
  | acceptEndpoint uid endpoint =>
      packet.uid = uid ∧ packet.destination = endpoint.ip ∧ packet.port = some endpoint.port
  | acceptInterface uid interface => packet.uid = uid ∧ packet.interface = interface
  | drop uid => packet.uid = uid

instance (packet : Packet) (rule : NftRule) : Decidable (rule.Matches packet) := by
  cases rule <;> unfold Matches <;> infer_instance

def verdict : NftRule → Verdict
  | acceptEndpoint _ _ | acceptInterface _ _ => .accept
  | drop _ => .drop

end NftRule

/-- The first rule that matches decides; the policy of the chain is to accept. -/
def chainVerdict (packet : Packet) : List NftRule → Verdict
  | [] => .accept
  | rule :: rest => if rule.Matches packet then rule.verdict else chainVerdict packet rest

/-- A line of a script. -/
inductive NftStatement
  | flushTable
  | addChain
  | addRule (rule : NftRule)
  deriving DecidableEq, Repr

/-- What a line does to the rules of the chain. -/
def NftStatement.execute (rules : List NftRule) : NftStatement → List NftRule
  | flushTable => []
  | addChain => rules
  | addRule rule => rules ++ [rule]

/-! ## Commands -/

def nftProgram : String := "/usr/sbin/nft"

def ipProgram : String := "/usr/sbin/ip"

def wgProgram : String := "/usr/bin/wg"

def wgQuickProgram : String := "/usr/bin/wg-quick"

def wireguardInterface : String := "wg0"

def wireguardRouteTable : String := "51820"

def wireguardRulePriority : String := "10000"

structure CommandSpec where
  program : String
  args : List String
  stdin : Option (List NftStatement) := none
  deriving DecidableEq, Repr

/-- What a command does to the rules of the chain when it succeeds. -/
def CommandSpec.execute (spec : CommandSpec) (rules : List NftRule) : List NftRule :=
  match spec.stdin with
  | none => rules
  | some script => script.foldl NftStatement.execute rules

/-- `add_proxy_guard`. -/
def proxyGuard (uid : Nat) (endpoint : SocketAddr) : List NftRule :=
  [.acceptEndpoint uid endpoint, .drop uid]

/-- The rules that a policy consists of; no mode stands for the kill switch.  A
proxy mode always comes with an endpoint, see `activePolicyPlan`. -/
def policyRules (config : NetworkConfig) (mode : Option EgressMode)
    (proxyEndpoint : Option SocketAddr) : List NftRule :=
  match mode with
  | none => [.drop config.browserUid]
  | some .direct => []
  | some .tor | some .warp | some .proxy =>
      match proxyEndpoint with
      | some endpoint => proxyGuard config.browserUid endpoint
      | none => [.drop config.browserUid]
  | some .wireGuard =>
      [.acceptInterface config.browserUid wireguardInterface, .drop config.browserUid]

def nftTransaction (config : NetworkConfig) (mode : Option EgressMode)
    (proxyEndpoint : Option SocketAddr) : CommandSpec :=
  { program := nftProgram
    args := ["-f", "-"]
    stdin := some (.flushTable :: .addChain ::
      (policyRules config mode proxyEndpoint).map .addRule) }

def addTable : CommandSpec :=
  { program := nftProgram, args := ["add", "table", "inet", "xanhtab"] }

def killSwitchPlan (config : NetworkConfig) : List CommandSpec :=
  [addTable, nftTransaction config none none]

def EgressMode.usesProxy : EgressMode → Bool
  | tor | warp | proxy => true
  | direct | wireGuard => false

def activePolicyPlan (config : NetworkConfig) (mode : EgressMode)
    (proxyEndpoint : Option SocketAddr) : Except String (List CommandSpec) :=
  if mode.usesProxy ∧ proxyEndpoint = none then
    .error "proxy egress requires a validated endpoint"
  else .ok [nftTransaction config (some mode) proxyEndpoint]

def uidRange (config : NetworkConfig) : String :=
  s!"{config.browserUid}-{config.browserUid}"

/-- `ip`, for one family of addresses. -/
def ipCommand (ipv6 : Bool) (args : List String) : CommandSpec :=
  { program := ipProgram, args := if ipv6 then "-6" :: args else args }

def wireguardSetupPlan (config : NetworkConfig) : List CommandSpec :=
  let route := ["route", "replace", "default", "dev", wireguardInterface, "table",
    wireguardRouteTable]
  let rule := ["rule", "add", "priority", wireguardRulePriority, "uidrange", uidRange config,
    "lookup", wireguardRouteTable]
  [{ program := wgQuickProgram, args := ["up", config.wireguardConfig] },
    ipCommand false route, ipCommand true route, ipCommand false rule, ipCommand true rule,
    { program := wgProgram, args := ["show", wireguardInterface] }]

def wireguardTeardownPlan (config : NetworkConfig) : List CommandSpec :=
  let rule := ["rule", "del", "priority", wireguardRulePriority, "uidrange", uidRange config,
    "lookup", wireguardRouteTable]
  let route := ["route", "flush", "table", wireguardRouteTable]
  [ipCommand false rule, ipCommand true rule, ipCommand false route, ipCommand true route,
    ipCommand false ["link", "delete", "dev", wireguardInterface]]

/-! ## What the plans do -/

theorem foldl_addRule (rules more : List NftRule) :
    (more.map NftStatement.addRule).foldl NftStatement.execute rules = rules ++ more := by
  induction more generalizing rules with
  | nil => simp
  | cons rule rest ih => simp [NftStatement.execute, ih]

/-- A transaction replaces whatever the chain contained. -/
theorem nftTransaction_execute (config : NetworkConfig) (mode : Option EgressMode)
    (proxyEndpoint : Option SocketAddr) (rules : List NftRule) :
    (nftTransaction config mode proxyEndpoint).execute rules =
      policyRules config mode proxyEndpoint := by
  simp [CommandSpec.execute, nftTransaction, NftStatement.execute, foldl_addRule]

/-- A command without a script leaves the chain alone. -/
theorem CommandSpec.execute_of_stdin {spec : CommandSpec} (silent : spec.stdin = none)
    (rules : List NftRule) : spec.execute rules = rules := by
  simp [CommandSpec.execute, silent]

theorem stdin_of_mem_setup {config : NetworkConfig} {spec : CommandSpec}
    (member : spec ∈ wireguardSetupPlan config) : spec.stdin = none := by
  simp only [wireguardSetupPlan, ipCommand, List.mem_cons, List.not_mem_nil, or_false] at member
  rcases member with rfl | rfl | rfl | rfl | rfl | rfl <;> rfl

theorem stdin_of_mem_teardown {config : NetworkConfig} {spec : CommandSpec}
    (member : spec ∈ wireguardTeardownPlan config) : spec.stdin = none := by
  simp only [wireguardTeardownPlan, ipCommand, List.mem_cons, List.not_mem_nil,
    or_false] at member
  rcases member with rfl | rfl | rfl | rfl | rfl <;> rfl

/-- The rules drop all output of the browser. -/
def Held (config : NetworkConfig) (rules : List NftRule) : Prop :=
  ∀ packet : Packet, packet.uid = config.browserUid → chainVerdict packet rules = .drop

/-- The rules are the allow policy of the mode, with the endpoint if the mode needs one. -/
def Allows (config : NetworkConfig) (mode : EgressMode) (proxyEndpoint : Option SocketAddr)
    (rules : List NftRule) : Prop :=
  (mode.usesProxy = true → proxyEndpoint ≠ none) ∧
    rules = policyRules config (some mode) proxyEndpoint

/-- Only a policy with a proxy depends on the endpoint. -/
theorem Allows.of_policy {config : NetworkConfig} {mode : EgressMode}
    {endpoint proxyEndpoint : Option SocketAddr}
    (needed : mode.usesProxy = true → endpoint ≠ none)
    (same : mode.usesProxy = true → proxyEndpoint = endpoint) :
    Allows config mode proxyEndpoint (policyRules config (some mode) endpoint) := by
  cases mode with
  | direct | wireGuard => exact ⟨nofun, rfl⟩
  | tor | warp | proxy =>
      rw [same rfl]
      exact ⟨needed, rfl⟩

/-- The kill switch drops a packet exactly if it is the browser's. -/
theorem killSwitch_verdict (config : NetworkConfig) (packet : Packet) :
    chainVerdict packet (policyRules config none none) = .drop ↔
      packet.uid = config.browserUid := by
  by_cases browser : packet.uid = config.browserUid
  · simp [policyRules, chainVerdict, NftRule.Matches, NftRule.verdict, browser]
  · simp [policyRules, chainVerdict, NftRule.Matches, browser]

theorem held_killSwitch (config : NetworkConfig) : Held config (policyRules config none none) :=
  fun packet browser => (killSwitch_verdict config packet).mpr browser

/-- No allow policy holds the browser. -/
theorem Allows.not_held {config : NetworkConfig} {mode : EgressMode}
    {proxyEndpoint : Option SocketAddr} {rules : List NftRule}
    (allows : Allows config mode proxyEndpoint rules) : ¬ Held config rules := by
  rcases allows with ⟨needed, rfl⟩
  intro held
  cases proxyEndpoint with
  | none =>
      have dropped := held
        { uid := config.browserUid, interface := wireguardInterface, destination := .v4 0
          port := none } rfl
      cases mode with
      | direct => cases dropped
      | wireGuard => simp [policyRules, chainVerdict, NftRule.Matches, NftRule.verdict] at dropped
      | tor | warp | proxy => exact needed rfl rfl
  | some endpoint =>
      have dropped := held
        { uid := config.browserUid, interface := wireguardInterface
          destination := endpoint.ip, port := some endpoint.port } rfl
      cases mode <;>
        simp [policyRules, proxyGuard, chainVerdict, NftRule.Matches, NftRule.verdict] at dropped

end XanhTab
