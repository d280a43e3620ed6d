import XanhTab.Netd.Plan
import XanhTab.Program.Noting

/-!
# The network helper

The request handler of `xanhtab-netd.rs`.  A handler holds the mutex of the
state from its first section to its response; at its deadline it is dropped at
the command that it is waiting for.  `dry_run`, which executes nothing, is left
out.
-/

namespace XanhTab

open Program

structure NetworkState where
  activeMode : Option EgressMode := none
  deriving DecidableEq, Repr

inductive EgressCommand
  | apply (mode : EgressMode)
  | reset
  | status
  deriving DecidableEq, Repr

structure EgressResponse where
  ok : Bool
  activeMode : EgressMode
  detail : String
  deriving DecidableEq, Repr

/-- How a command ends: with success, with another exit status, or unobserved,
because it could not be spawned, written to or waited for.  The text that it
wrote is kept trimmed. -/
inductive CommandResult
  | succeeded
  | failed (stderr : String)
  | broken (detail : String)
  deriving DecidableEq, Repr

/-- What a handler asks of the system.  The validations and the path check are
synchronous; `validateProxy` stands for `validate_proxy_url` and
`validate_proxy_url_file` with the values that the mode takes from the
configuration. -/
inductive NetCall
  | run (spec : CommandSpec)
  | interfaceExists
  | showRules (ipv6 : Bool)
  | validateProxy (mode : EgressMode)
  | validateWireguardConfig
  | connect (endpoint : SocketAddr)

abbrev NetCall.Reply : NetCall → Type
  | .run _ => CommandResult
  | .interfaceExists => Bool
  | .showRules _ => Except String (List String)
  | .validateProxy _ => Except String SocketAddr
  | .validateWireguardConfig | .connect _ => Except String Unit

/-- The request inspects the system only. -/
def NetCall.Inspects : NetCall → Prop
  | run _ => False
  | interfaceExists | showRules _ | validateProxy _ | validateWireguardConfig | connect _ => True

abbrev NetRoutine (α : Type) := Program NetworkState NetCall NetCall.Reply α

namespace Netd

variable (config : NetworkConfig)

/-! ## Plans -/

/-- `str::contains`. -/
def contains (text part : String) : Bool :=
  text.toList.tails.any part.toList.isPrefixOf

/-- The failure of `nft add table` that an existing table causes. -/
def ignorableExistingTable (spec : CommandSpec) (stderr : String) : Bool :=
  spec.program = nftProgram && spec.args = addTable.args && contains stderr "File exists"

/-- A failing command does not end the plan. -/
def ignores (allowExistingTable ignoreFailures : Bool) (spec : CommandSpec) (stderr : String) :
    Bool :=
  (allowExistingTable && ignorableExistingTable spec stderr) || ignoreFailures

def runPlan (allowExistingTable ignoreFailures : Bool) :
    List CommandSpec → NetRoutine (Except String Unit)
  | [] => done (.ok ())
  | spec :: rest => call true (.run spec) fun result =>
      match result with
      | .succeeded => runPlan allowExistingTable ignoreFailures rest
      | .broken detail => done (.error detail)
      | .failed stderr =>
          if ignores allowExistingTable ignoreFailures spec stderr then
            runPlan allowExistingTable ignoreFailures rest
          else done (.error (spec.program ++ " failed: " ++ stderr))

def killSwitch : NetRoutine (Except String Unit) :=
  runPlan true false (killSwitchPlan config)

/-- `policy_rule_remains`. -/
def policyRuleRemains (ipv6 : Bool) : NetRoutine (Except String Bool) :=
  call true (.showRules ipv6) fun reply =>
    done (reply.map fun lines => lines.any fun line =>
      contains line ("uidrange " ++ uidRange config) &&
        contains line ("lookup " ++ wireguardRouteTable))

def checkFamily (ipv6 : Bool) : NetRoutine (Except String Unit) :=
  (policyRuleRemains config ipv6).andThen fun remains =>
    if remains then
      return .error "dedicated WireGuard UID policy rule remained after teardown"
    else return .ok ()

def teardownWireguard : NetRoutine (Except String Unit) :=
  (runPlan false true (wireguardTeardownPlan config)).andThen fun _ =>
    call false .interfaceExists fun present =>
      if present then
        done (.error "dedicated WireGuard interface remained after teardown")
      else (checkFamily config false).andThen fun _ => checkFamily config true

/-! ## Transitions -/

/-- The endpoint of a proxy mode. -/
def endpointFor (mode : EgressMode) : NetRoutine (Except String (Option SocketAddr)) :=
  if mode.usesProxy then
    call false (.validateProxy mode) fun reply => done (reply.map some)
  else return .ok none

def setupWireguard (mode : EgressMode) : NetRoutine (Except String Unit) :=
  if mode = .wireGuard then
    call false .validateWireguardConfig fun reply =>
      match reply with
      | .error error => done (.error error)
      | .ok () => runPlan false false (wireguardSetupPlan config)
  else return .ok ()

def probeProxy (endpoint : Option SocketAddr) : NetRoutine (Except String Unit) :=
  match endpoint with
  | none => return .ok ()
  | some endpoint => call true (.connect endpoint) done

def activatePolicy (mode : EgressMode) (endpoint : Option SocketAddr) :
    NetRoutine (Except String Unit) :=
  match activePolicyPlan config mode endpoint with
  | .error error => return .error error
  | .ok plan => runPlan false false plan

def transitionInner (mode : EgressMode) : NetRoutine (Except String Unit) :=
  (teardownWireguard config).andThen fun _ =>
    (endpointFor mode).andThen fun endpoint =>
      (setupWireguard config mode).andThen fun _ =>
        (probeProxy endpoint).andThen fun _ => activatePolicy config mode endpoint

/-- What `transition` does after its inner part has failed. -/
def restoreKillSwitch (error : String) : NetRoutine (Except String EgressResponse) := do
  let failures ←
    match ← teardownWireguard config with
    | .ok () => (pure [error] : NetRoutine (List String))
    | .error cleanupError => pure [error, "WireGuard cleanup: " ++ cleanupError]
  match ← killSwitch config with
  | .ok () => return .error (String.intercalate "; " failures)
  | .error killError =>
      return .error (String.intercalate "; " (failures ++ ["kill-switch restore: " ++ killError]))

def transition (mode : EgressMode) : NetRoutine (Except String EgressResponse) := do
  sync fun state => ((), { state with activeMode := none })
  (killSwitch config).andThen fun _ => do
    match ← transitionInner config mode with
    | .error error => restoreKillSwitch config error
    | .ok () =>
        sync fun state => ((), { state with activeMode := some mode })
        return .ok
          { ok := true
            activeMode := mode
            detail := "egress policy applied after fail-closed transition" }

/-! ## Requests -/

def statusResponse (state : NetworkState) : EgressResponse :=
  { ok := state.activeMode.isSome
    activeMode := state.activeMode.getD .direct
    detail :=
      if state.activeMode.isSome then "egress policy active"
      else "browser UID is held by the transition kill-switch" }

def execute : EgressCommand → NetRoutine (Except String EgressResponse)
  | .apply mode => transition config mode
  | .reset => transition config .direct
  | .status => sync fun state => (.ok (statusResponse state), state)

/-- `handle`, from the lock on, with the command that it answers. -/
def handle (command : EgressCommand) : NetRoutine (EgressCommand × EgressResponse) := do
  match ← execute config command with
  | .ok response => return (command, response)
  | .error error => return (command, { ok := false, activeMode := .direct, detail := error })

def initializeNetwork : NetRoutine (Except String Unit) :=
  (killSwitch config).andThen fun _ => teardownWireguard config

end Netd

/-! ## The system -/

/-- The rules of the chain, as they were committed last. -/
structure Kernel where
  rules : List NftRule
  deriving DecidableEq, Repr

/-- The outcome of a call.  A transaction that fails is not committed; of one
that is not observed to its end this is open. -/
inductive NetOutcome
  | ran (result : CommandResult) (commits : Bool)
  | present (value : Bool)
  | listed (reply : Except String (List String))
  | located (reply : Except String SocketAddr)
  | checked (reply : Except String Unit)

namespace Kernel

/-- The kernel after a command with the result. -/
def after (spec : CommandSpec) (result : CommandResult) (commits : Bool) (kernel : Kernel) :
    Kernel :=
  match result with
  | .succeeded => { rules := spec.execute kernel.rules }
  | .failed _ => kernel
  | .broken _ => if commits then { rules := spec.execute kernel.rules } else kernel

def answer : Answer NetCall NetCall.Reply Kernel NetOutcome
  | .run spec, .ran result commits, kernel => some (result, kernel.after spec result commits)
  | .interfaceExists, .present value, kernel => some (value, kernel)
  | .showRules _, .listed reply, kernel => some (reply, kernel)
  | .validateProxy _, .located reply, kernel => some (reply, kernel)
  | .validateWireguardConfig, .checked reply, kernel | .connect _, .checked reply, kernel =>
      some (reply, kernel)
  | _, _, _ => none

end Kernel

/-- The proxy that was validated last, and for which mode. -/
abbrev Resolved := Option (EgressMode × SocketAddr)

namespace Resolved

def note : (request : NetCall) → request.Reply → Resolved → Resolved
  | .validateProxy mode, .ok endpoint, _ => some (mode, endpoint)
  | _, _, known => known

/-- The endpoint, if it was validated for the mode. -/
def endpoint (known : Resolved) (mode : EgressMode) : Option SocketAddr :=
  (known.filter fun validated => validated.1 = mode).map Prod.snd

end Resolved

abbrev NetConfiguration :=
  Config NetworkState NetCall NetCall.Reply (EgressCommand × EgressResponse)
    (Noted Kernel Resolved)

abbrev NetLabel := Pool.Label EgressCommand Empty Empty NetOutcome

/-- The helper serving requests, one at a time. -/
def Netd.pool (config : NetworkConfig) : Pool NetworkState NetCall NetCall.Reply
    (EgressCommand × EgressResponse) (Noted Kernel Resolved) NetOutcome EgressCommand Empty
    Empty where
  answer := Answer.noting Resolved.note Kernel.answer
  operation := Netd.handle config
  task task := task.elim
  noise event := event.elim

/-- The kernel that a successful `initialize_network` leaves. -/
def Netd.Initialized (config : NetworkConfig) (kernel : Kernel) : Prop :=
  ∃ before, (Netd.initializeNetwork config).Ends Kernel.answer {} before (.ok ()) {} kernel

end XanhTab
