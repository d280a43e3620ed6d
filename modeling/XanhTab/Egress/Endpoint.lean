import XanhTab.Config.Validate
import XanhTab.Netd.Firewall

/-!
# The endpoint of a proxy mode

Three places derive the proxy of a mode: the network helper from the
configuration, and the browser helper and the planned commands from literals and
the file of the proxy URL.  They agree on the proxy that the user brings, and on
a managed proxy if its literal is what has been configured.
-/

namespace XanhTab

open Program Text Reader Egress

/-- The address and port that a URL leads to. -/
def Url.endpoint (url : Url) : Option SocketAddr :=
  (hostAddress url).bind fun ip => url.portOrKnownDefault.map fun port => ⟨ip, port⟩

variable (crate : UrlCrate) (config : Configuration.NetworkConfig) (file : Option SecretFile)
  (mode : EgressMode)

/-! ## The network helper -/

/-- The validation that `transition_inner` makes for a mode. -/
def validateMode : Except String SocketAddr :=
  match mode with
  | .direct | .wireGuard => .error "the mode has no proxy"
  | .tor => (validateProxyUrl crate config.torProxy false).map ValidatedProxy.endpoint
  | .warp => (validateProxyUrl crate config.warpProxy false).map ValidatedProxy.endpoint
  | .proxy =>
      match parseSocketAddr config.proxyEndpoint.toList with
      | none => .error "invalid socket address syntax"
      | some expected =>
          (validateProxyUrlFile crate config.proxyUrlFile file (some expected) (some 0)).map
            ValidatedProxy.endpoint

/-- The kernel, for a helper whose validations give what they are told to. -/
def Kernel.answerWith (validate : EgressMode → Except String SocketAddr) :
    Answer NetCall NetCall.Reply Kernel NetOutcome
  | .validateProxy mode, _, kernel => some (validate mode, kernel)
  | request, outcome, kernel => Kernel.answer request outcome kernel

/-- A successful `transition_inner` can commit the policy for the endpoint. -/
def Commits (endpoint : SocketAddr) : Prop :=
  ∃ state before state' kernel,
    (Netd.transitionInner config.plans mode).Ends
      (Kernel.answerWith (validateMode crate config file)) state before (.ok ()) state' kernel ∧
    kernel.rules = policyRules config.plans (some mode) (some endpoint)

/-! ## The browser helper and the planned commands -/

/-- `proxy_for`. -/
def proxyFor : Except String (Option String) :=
  match mode with
  | .tor => .ok (some "socks5h://127.0.0.1:9050")
  | .warp => .ok (some "socks5h://127.0.0.1:40000")
  | .proxy =>
      match file.bind SecretFile.text with
      | none => .error ("failed to read " ++ config.proxyUrlFile)
      | some value =>
          (validateProxyUrl crate value true).map fun proxy => some (crate.display proxy.url)
  | _ => .ok none

/-- The endpoint that `command_plan` takes. -/
def plannedEndpoint : Option SocketAddr :=
  match mode with
  | .tor => (parseSocketAddr "127.0.0.1:9050".toList).map Prod.fst
  | .warp => (parseSocketAddr "127.0.0.1:40000".toList).map Prod.fst
  | .proxy => (parseSocketAddr config.proxyEndpoint.toList).map Prod.fst
  | _ => none

/-- `command_plan`, which fails only on a configuration that is not valid. -/
def commandPlan : Except String (List CommandSpec) :=
  (activePolicyPlan config.plans mode (plannedEndpoint config mode)).map fun active =>
    killSwitchPlan config.plans ++
      (if mode = .wireGuard then wireguardSetupPlan config.plans else []) ++ active

/-! ## Agreement -/

/-- Whatever the rules were, the commands leave the policy for the endpoint. -/
def Plans (endpoint : SocketAddr) : Prop :=
  ∃ plan, commandPlan config mode = .ok plan ∧
    ∀ rules, plan.foldl (fun rules spec => spec.execute rules) rules =
      policyRules config.plans (some mode) (some endpoint)

/-- The browser is told to use a proxy at the endpoint. -/
def Uses (endpoint : SocketAddr) : Prop :=
  ∃ text url, proxyFor crate config file mode = .ok (some text) ∧ crate.parse text = some url ∧
    url.endpoint = some endpoint

/-- The committed policy lets the browser through to the endpoint. -/
def LetsThrough (endpoint : SocketAddr) : Prop :=
  ∀ interface, chainVerdict ⟨config.browserUid, interface, endpoint.ip, some endpoint.port⟩
    (policyRules config.plans (some mode) (some endpoint)) = .accept

/-- The endpoint that is committed is the one used and the one planned, and the
browser can reach it. -/
def EndpointsAgree : Prop :=
  ∀ endpoint, Commits crate config file mode endpoint →
    Uses crate config file mode endpoint ∧ Plans config mode endpoint ∧
      LetsThrough config mode endpoint

/-- The managed proxy of the mode is configured where its literal says. -/
def NamesLiteral : Prop :=
  match mode with
  | .tor => ∃ url, crate.parse (String.ofList (trim config.torProxy.toList)) = some url ∧
      url.endpoint = some ⟨.v4 0x7f000001, 9050⟩
  | .warp => ∃ url, crate.parse (String.ofList (trim config.warpProxy.toList)) = some url ∧
      url.endpoint = some ⟨.v4 0x7f000001, 40000⟩
  | _ => True

/-- What the `url` crate does with the literals, and with its own serialisations. -/
structure ParsesProxies (crate : UrlCrate) : Prop where
  tor : crate.parse "socks5h://127.0.0.1:9050" =
    some { scheme := "socks5h", host := some "127.0.0.1", port := some 9050 }
  warp : crate.parse "socks5h://127.0.0.1:40000" =
    some { scheme := "socks5h", host := some "127.0.0.1", port := some 40000 }
  display : ∀ text url, crate.parse text = some url → crate.parse (crate.display url) = some url

variable {crate config file mode}

/-! ## What is validated -/

theorem endpoint_of_validateProxyUrl {raw : String} {allowCredentials : Bool}
    {proxy : ValidatedProxy} (validated : validateProxyUrl crate raw allowCredentials = .ok proxy) :
    crate.parse (String.ofList (trim raw.toList)) = some proxy.url ∧
      proxy.url.endpoint = some proxy.endpoint := by
  unfold validateProxyUrl at validated
  dsimp only at validated
  split at validated
  · cases validated
  · split at validated
    · cases validated
    · rename_i url parsed
      repeat' split at validated
      all_goals cases validated
      rename_i ip address _ port known
      refine ⟨parsed, ?_⟩
      unfold Url.endpoint
      rw [address, known]
      rfl

/-- The proxy of the file is the one that the firewall is configured for. -/
theorem validated_of_file {path : String} {expected : SocketAddr × Nat} {uid : Option Nat}
    {proxy : ValidatedProxy}
    (validated : validateProxyUrlFile crate path file (some expected) uid = .ok proxy) :
    expected = (proxy.endpoint, 0) ∧
      ∃ text, file.bind SecretFile.text = some text ∧
        validateProxyUrl crate text true = .ok proxy := by
  unfold validateProxyUrlFile at validated
  split at validated
  · cases validated
  · rename_i raw read
    split at validated
    · cases validated
    · rename_i found accepted
      split at validated
      · cases validated
      · rename_i matching
        cases validated
        refine ⟨?_, raw, ?_, accepted⟩
        · simpa using matching
        · unfold readSecretFile at read
          split at read
          · cases read
          · rename_i present
            repeat' split at read
            all_goals cases read
            assumption

/-! ## What is committed -/

namespace Netd

/-- Two policies of a mode with a proxy differ if their endpoints do. -/
theorem policyRules_inj {config : NetworkConfig} {mode : EgressMode} {first second : SocketAddr}
    (proxied : mode.usesProxy = true)
    (equal : policyRules config (some mode) (some first) =
      policyRules config (some mode) (some second)) : first = second := by
  cases mode with
  | direct | wireGuard => cases proxied
  | tor | warp | proxy =>
      simp only [policyRules, proxyGuard, List.cons.injEq, NftRule.acceptEndpoint.injEq] at equal
      exact equal.1.2

/-- A transition to a proxy mode that succeeds leaves the policy for the
endpoint that was validated. -/
theorem rules_of_transitionInner {config : NetworkConfig} {mode : EgressMode}
    {validate : EgressMode → Except String SocketAddr} {state state' : NetworkState}
    {kernel kernel' : Kernel} (proxied : mode.usesProxy = true)
    (ends : (transitionInner config mode).Ends (Kernel.answerWith validate) state kernel (.ok ())
      state' kernel') :
    ∃ endpoint, validate mode = .ok endpoint ∧
      kernel'.rules = policyRules config (some mode) (some endpoint) := by
  rcases ends_andThen_ok ends with ⟨_, state, kernel, _, ends⟩
  rcases ends_andThen_ok ends with ⟨located, state, kernel, found, ends⟩
  rcases ends_andThen_ok ends with ⟨_, state, kernel, _, ends⟩
  rcases ends_andThen_ok ends with ⟨_, state, kernel, _, ends⟩
  unfold endpointFor at found
  rw [if_pos proxied] at found
  rcases found with ⟨outcome, reply, middle, answered, mapped, _⟩
  obtain ⟨rfl, _⟩ := Prod.mk.inj (Option.some.inj answered)
  cases validated : validate mode with
  | error error =>
      rw [validated] at mapped
      cases mapped
  | ok endpoint =>
      rw [validated] at mapped
      cases mapped
      refine ⟨endpoint, rfl, ?_⟩
      have plan : activePolicyPlan config mode (some endpoint) =
          .ok [nftTransaction config (some mode) (some endpoint)] := if_neg (by simp)
      unfold activatePolicy at ends
      rw [plan] at ends
      rcases ends with ⟨outcome, result, after, ran, ends⟩
      rcases Kernel.answer_run ran with ⟨commits, _, rfl⟩
      cases result with
      | succeeded =>
          rw [← ends.2.2]
          exact nftTransaction_execute config (some mode) (some endpoint) kernel.rules
      | broken _ => cases ends.1
      | failed _ => cases ends.1

/-- The replies of a system in which all goes well. -/
def fairReply (validate : EgressMode → Except String SocketAddr) :
    (request : NetCall) → request.Reply
  | .run _ => .succeeded
  | .interfaceExists => false
  | .showRules _ => .ok []
  | .validateProxy mode => validate mode
  | .validateWireguardConfig | .connect _ => .ok ()

theorem fairReply_possible (validate : EgressMode → Except String SocketAddr) (request : NetCall)
    (kernel : Kernel) :
    ∃ outcome kernel', Kernel.answerWith validate request outcome kernel =
      some (fairReply validate request, kernel') := by
  cases request with
  | run spec => exact ⟨.ran .succeeded false, _, rfl⟩
  | interfaceExists => exact ⟨.present false, kernel, rfl⟩
  | showRules ipv6 => exact ⟨.listed (.ok []), kernel, rfl⟩
  | validateProxy mode => exact ⟨.checked (.ok ()), kernel, rfl⟩
  | validateWireguardConfig => exact ⟨.checked (.ok ()), kernel, rfl⟩
  | connect endpoint => exact ⟨.checked (.ok ()), kernel, rfl⟩

theorem complete_transitionInner {config : NetworkConfig} {mode : EgressMode}
    {validate : EgressMode → Except String SocketAddr} {endpoint : SocketAddr}
    (proxied : mode.usesProxy = true) (validated : validate mode = .ok endpoint)
    (state : NetworkState) :
    ((transitionInner config mode).complete (fairReply validate) state).1 = .ok () := by
  have removed : (teardownWireguard config).complete (fairReply validate) state =
      (.ok (), state) := rfl
  have located : (endpointFor mode).complete (fairReply validate) state =
      (.ok (some endpoint), state) := by
    unfold endpointFor
    rw [if_pos proxied]
    show ((validate mode).map some, state) = _
    rw [validated]
    rfl
  have plan : activePolicyPlan config mode (some endpoint) =
      .ok [nftTransaction config (some mode) (some endpoint)] := if_neg (by simp)
  unfold transitionInner andThen
  rw [complete_bind, removed]
  dsimp only
  rw [complete_bind, located]
  dsimp only
  have other : mode ≠ .wireGuard := by
    rintro rfl
    cases proxied
  unfold setupWireguard activatePolicy
  rw [if_neg other, plan]
  rfl

end Netd

/-- What a transition to a proxy mode commits is the endpoint that it validates. -/
theorem commits_iff (proxied : mode.usesProxy = true) {endpoint : SocketAddr} :
    Commits crate config file mode endpoint ↔
      validateMode crate config file mode = .ok endpoint := by
  constructor
  · rintro ⟨state, before, state', kernel, ends, committed⟩
    rcases Netd.rules_of_transitionInner proxied ends with ⟨other, validated, rules⟩
    rw [rules] at committed
    rw [← Netd.policyRules_inj proxied committed]
    exact validated
  · intro validated
    rcases ends_complete (Netd.fairReply_possible (validateMode crate config file))
      (Netd.transitionInner config.plans mode) {} ⟨[]⟩ with ⟨kernel, ends⟩
    rw [Netd.complete_transitionInner proxied validated] at ends
    rcases Netd.rules_of_transitionInner proxied ends with ⟨other, same, rules⟩
    rw [validated] at same
    cases same
    exact ⟨_, _, _, kernel, ends, rules⟩

/-! ## What is planned and used -/

theorem plans_iff (proxied : mode.usesProxy = true) {endpoint : SocketAddr} :
    Plans config mode endpoint ↔ plannedEndpoint config mode = some endpoint := by
  have other : mode ≠ .wireGuard := by
    rintro rfl
    cases proxied
  unfold Plans commandPlan
  rw [if_neg other]
  cases planned : plannedEndpoint config mode with
  | none =>
      have refused : activePolicyPlan config.plans mode none =
          .error "proxy egress requires a validated endpoint" := if_pos ⟨proxied, rfl⟩
      rw [refused]
      constructor
      · rintro ⟨plan, impossible, _⟩
        cases impossible
      · intro impossible
        cases impossible
  | some found =>
      have plan : activePolicyPlan config.plans mode (some found) =
          .ok [nftTransaction config.plans (some mode) (some found)] := if_neg (by simp)
      have leaves : ∀ rules : List NftRule,
          (killSwitchPlan config.plans ++ [] ++
            [nftTransaction config.plans (some mode) (some found)]).foldl
              (fun rules (spec : CommandSpec) => spec.execute rules) rules =
            policyRules config.plans (some mode) (some found) := by
        intro rules
        rw [List.foldl_append, List.foldl_cons, List.foldl_nil]
        exact nftTransaction_execute _ _ _ _
      rw [plan]
      constructor
      · rintro ⟨_, ⟨⟩, opened⟩
        rw [Netd.policyRules_inj proxied ((leaves []).symm.trans (opened []))]
      · rintro ⟨⟩
        exact ⟨_, rfl, leaves⟩

theorem letsThrough (proxied : mode.usesProxy = true) (endpoint : SocketAddr) :
    LetsThrough config mode endpoint := by
  intro interface
  cases mode with
  | direct | wireGuard => cases proxied
  | tor | warp | proxy => exact if_pos ⟨rfl, rfl, rfl⟩

theorem endpoint_local (scheme : String) (port : Nat) :
    Url.endpoint { scheme, host := some "127.0.0.1", port := some port } =
      some ⟨.v4 0x7f000001, port⟩ := by
  have address : hostAddress { scheme, host := some "127.0.0.1", port := some port } =
      some (.v4 0x7f000001) := by
    unfold hostAddress
    rw [Option.bind_some, String.toList_ofList]
    decide
  unfold Url.endpoint
  rw [address]
  rfl

/-- A managed proxy, of which the literals name one endpoint. -/
theorem endpointsAgree_managed {raw text : String} {proxy : ValidatedProxy} {url : Url}
    {literal : SocketAddr} (proxied : mode.usesProxy = true)
    (validates : validateMode crate config file mode =
      (validateProxyUrl crate raw false).map ValidatedProxy.endpoint)
    (accepted : validateProxyUrl crate raw false = .ok proxy)
    (told : proxyFor crate config file mode = .ok (some text))
    (parsed : crate.parse text = some url) (leads : url.endpoint = some literal)
    (planned : plannedEndpoint config mode = some literal) :
    EndpointsAgree crate config file mode ↔
      ∃ url, crate.parse (String.ofList (trim raw.toList)) = some url ∧
        url.endpoint = some literal := by
  rcases endpoint_of_validateProxyUrl accepted with ⟨configured, there⟩
  have commits : ∀ endpoint, Commits crate config file mode endpoint ↔
      proxy.endpoint = endpoint := by
    intro endpoint
    rw [commits_iff proxied, validates, accepted]
    exact ⟨Except.ok.inj, congrArg Except.ok⟩
  constructor
  · intro agree
    have planned' := (plans_iff proxied).mp (agree proxy.endpoint ((commits _).mpr rfl)).2.1
    refine ⟨proxy.url, configured, ?_⟩
    rw [there, ← planned', planned]
  · rintro ⟨named, found, names⟩ endpoint committed
    rw [configured] at found
    cases found
    rw [there, (commits endpoint).mp committed] at names
    cases names
    exact ⟨⟨text, url, told, parsed, leads⟩, (plans_iff proxied).mpr planned,
      letsThrough proxied literal⟩

/-- The proxy of the user is read from one file by all. -/
theorem endpointsAgree_proxy (parses : ParsesProxies crate) :
    EndpointsAgree crate config file .proxy := by
  intro endpoint committed
  rw [commits_iff rfl] at committed
  unfold validateMode at committed
  cases expected : parseSocketAddr config.proxyEndpoint.toList with
  | none =>
      rw [expected] at committed
      cases committed
  | some address =>
      rw [expected] at committed
      dsimp only at committed
      cases validated : validateProxyUrlFile crate config.proxyUrlFile file (some address)
        (some 0) with
      | error error =>
          rw [validated] at committed
          cases committed
      | ok proxy =>
          rw [validated] at committed
          cases committed
          rcases validated_of_file validated with ⟨rfl, text, read, accepted⟩
          rcases endpoint_of_validateProxyUrl accepted with ⟨parsed, leads⟩
          refine ⟨?_, ?_, letsThrough rfl proxy.endpoint⟩
          · refine ⟨crate.display proxy.url, proxy.url, ?_, parses.display _ _ parsed, leads⟩
            unfold proxyFor
            rw [read]
            dsimp only
            rw [accepted]
            rfl
          · rw [plans_iff rfl]
            unfold plannedEndpoint
            rw [expected]
            rfl

/-- The managed proxies of a valid configuration are accepted. -/
theorem Configuration.Config.managed_of_valid {config : Configuration.Config}
    (valid : config.validate crate = .ok ()) :
    (∃ proxy, validateProxyUrl crate config.network.torProxy false = .ok proxy) ∧
      ∃ proxy, validateProxyUrl crate config.network.warpProxy false = .ok proxy := by
  have managed : ∀ name raw, checkManagedProxy crate name raw = .ok () →
      ∃ proxy, validateProxyUrl crate raw false = .ok proxy := by
    intro name raw checked
    unfold checkManagedProxy at checked
    split at checked
    · cases checked
    · rename_i proxy accepted
      exact ⟨proxy, accepted⟩
  rw [Config.validate_eq_ok_iff] at valid
  rcases valid with ⟨_, _, _, _, network, _⟩
  unfold Config.checkNetwork at network
  rw [checkAll_eq_ok_iff, List.forall_mem_cons, List.forall_mem_cons, List.forall_mem_cons]
    at network
  rcases network with ⟨_, tor, warp, _⟩
  exact ⟨managed _ _ tor, managed _ _ warp⟩

/-- In a proxy mode the browser and the planned commands use the endpoint that
is committed, if and only if a managed proxy is where its literal says. -/
theorem endpointsAgree_iff {config : Configuration.Config}
    (valid : config.validate crate = .ok ()) (parses : ParsesProxies crate)
    (proxied : mode.usesProxy = true) :
    EndpointsAgree crate config.network file mode ↔ NamesLiteral crate config.network mode := by
  rcases Configuration.Config.managed_of_valid valid with ⟨⟨tor, torAccepted⟩, warp, warpAccepted⟩
  cases mode with
  | direct | wireGuard => cases proxied
  | proxy => exact iff_of_true (endpointsAgree_proxy parses) trivial
  | tor =>
      have planned : plannedEndpoint config.network .tor = some ⟨.v4 0x7f000001, 9050⟩ := by
        show (parseSocketAddr "127.0.0.1:9050".toList).map Prod.fst = _
        rw [String.toList_ofList]
        decide
      exact endpointsAgree_managed rfl rfl torAccepted rfl parses.tor (endpoint_local _ _) planned
  | warp =>
      have planned : plannedEndpoint config.network .warp = some ⟨.v4 0x7f000001, 40000⟩ := by
        show (parseSocketAddr "127.0.0.1:40000".toList).map Prod.fst = _
        rw [String.toList_ofList]
        decide
      exact endpointsAgree_managed rfl rfl warpAccepted rfl parses.warp (endpoint_local _ _) planned

theorem Configuration.Config.validate_torProxy {config : Configuration.Config} {raw : String}
    (valid : config.validate crate = .ok ())
    (managed : checkManagedProxy crate "tor_proxy" raw = .ok ()) :
    { config with network := { config.network with torProxy := raw } }.validate crate =
      .ok () := by
  rw [Config.validate_eq_ok_iff] at valid ⊢
  rcases valid with ⟨server, limits, paths, initial, network, signaling⟩
  refine ⟨server, limits, paths, initial, ?_, signaling⟩
  unfold Config.checkNetwork at network ⊢
  rw [checkAll_eq_ok_iff, List.forall_mem_cons, List.forall_mem_cons] at network ⊢
  exact ⟨network.1, managed, network.2.2⟩

namespace Sample

theorem tableCrate_parsesProxies : ParsesProxies tableCrate where
  tor := rfl
  warp := rfl
  display := by
    have displayed : ∀ entry ∈ urlTable,
        tableCrate.parse (tableCrate.display entry.2) = some entry.2 := by
      decide
    intro text url parsed
    rcases List.lookup_eq_some_iff.mp parsed with ⟨before, after, split, _⟩
    exact displayed (text, url) (split ▸ List.mem_append_right before List.mem_cons_self)

/-- The proxy at the port of the Tor Browser. -/
def movedProxy : ValidatedProxy :=
  ⟨{ scheme := "socks5", host := some "127.0.0.1", port := some 9150 },
    ⟨.v4 0x7f000001, 9150⟩⟩

/-- The defaults, but for the port of Tor. -/
def movedTor : Configuration.Config :=
  { network := { torProxy := "socks5://127.0.0.1:9150" } }

theorem movedTor_accepted :
    validateProxyUrl tableCrate "socks5://127.0.0.1:9150" false = .ok movedProxy := by
  apply Configuration.validateProxyUrl_local rfl
  · rw [String.toList_ofList]
    decide
  · rw [String.toList_ofList]
    decide
  · rw [String.toList_ofList]
    decide

theorem movedTor_valid : movedTor.validate tableCrate = .ok () := by
  apply Configuration.Config.validate_torProxy
    (Configuration.Config.default_validate tableCrate_parsesDefaults)
  unfold Configuration.Config.checkManagedProxy
  rw [movedTor_accepted]
  rfl

end Sample

/-- With Tor at another port, the browser is pointed at one that the policy drops. -/
theorem not_endpointsAgree_of_movedTor :
    ¬ ∀ (crate : UrlCrate) (config : Configuration.Config) (file : Option SecretFile)
      (mode : EgressMode), config.validate crate = .ok () → ParsesProxies crate →
      mode.usesProxy = true → EndpointsAgree crate config.network file mode := by
  intro claim
  have agree := claim Sample.tableCrate Sample.movedTor none .tor Sample.movedTor_valid
    Sample.tableCrate_parsesProxies rfl
  have committed : Commits Sample.tableCrate Sample.movedTor.network none .tor
      ⟨.v4 0x7f000001, 9150⟩ := by
    rw [commits_iff rfl]
    show (validateProxyUrl Sample.tableCrate "socks5://127.0.0.1:9150" false).map
      ValidatedProxy.endpoint = _
    rw [Sample.movedTor_accepted]
    rfl
  rcases (agree _ committed).1 with ⟨text, url, told, parsed, leads⟩
  cases told
  cases parsed
  rw [endpoint_local] at leads
  cases leads

/-- The proxy of the defaults is where the browser expects it. -/
theorem endpointsAgree_iff_of_defaults :
    EndpointsAgree Sample.tableCrate {} none .warp := by
  have valid := Configuration.Config.default_validate Sample.tableCrate_parsesDefaults
  apply (endpointsAgree_iff valid Sample.tableCrate_parsesProxies rfl).mpr
  exact ⟨_, rfl, endpoint_local _ _⟩

end XanhTab
