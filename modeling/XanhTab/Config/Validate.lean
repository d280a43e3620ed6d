import XanhTab.Egress.Proxy
import XanhTab.Text.Path

/-!
# The configuration

`Config` of `config.rs` with its defaults, and `Config::validate`.  The checks
are made in groups, in the order of the source; the first that fails decides.
-/

namespace XanhTab.Configuration

open Text Reader Egress

/-! ## Sections -/

structure ServerConfig where
  listen : SocketAddr := ⟨.v4 0x7f000001, 8088⟩
  publicBaseUrl : String := "http://127.0.0.1:8088"
  staticDir : String := "web"
  tlsCert : Option String := none
  tlsKey : Option String := none
  secureCookies : Bool := false
  allowInsecureHttp : Bool := true
  allowedOrigins : List String := ["http://127.0.0.1:8088"]

structure SessionConfig where
  runtimeDir : String := "/run/xanhtab-session"
  pairingFile : String := "/run/xanhtab/pairing.txt"
  authTtlSeconds : Nat := 28800
  ticketTtlSeconds : Nat := 60
  autoBurnSeconds : Nat := 1800
  initialUrl : String := "xanhtab://home"
  initialProfile : StreamProfile := .fullHd30

structure BrowserConfig where
  enabled : Bool := false
  command : String := "/usr/local/libexec/xanhtab-browser"
  socket : String := "/run/xanhtab/browser.sock"
  stopTimeoutSeconds : Nat := 2
  ipcTimeoutSeconds : Nat := 2

structure SignalingConfig where
  enabled : Bool := false
  upstreamUri : String := "ws://127.0.0.1:8444"
  pluginDirectory : String := "/usr/lib/xanhtab/gstreamer-1.0"
  stunConfigFile : Option String := none
  turnConfigFile : Option String := none

structure NetworkConfig where
  enabled : Bool := false
  initialMode : EgressMode := .direct
  netdSocket : String := "/run/xanhtab/netd.sock"
  ipcTimeoutSeconds : Nat := 2
  controlUid : Option Nat := none
  browserUid : Nat := 988
  torProxy : String := "socks5://127.0.0.1:9050"
  warpProxy : String := "socks5://127.0.0.1:40000"
  wireguardConfig : String := "/etc/xanhtab/secrets/wg0.conf"
  proxyUrlFile : String := "/etc/xanhtab/secrets/proxy-url"
  proxyEndpoint : String := "127.0.0.1:1080"

structure Config where
  server : ServerConfig := {}
  session : SessionConfig := {}
  browser : BrowserConfig := {}
  signaling : SignalingConfig := {}
  network : NetworkConfig := {}

/-- The part of the network section that plans are made from. -/
def NetworkConfig.plans (network : NetworkConfig) : XanhTab.NetworkConfig :=
  { browserUid := network.browserUid, wireguardConfig := network.wireguardConfig }

/-! ## Parts of the checks -/

/-- `origin().ascii_serialization()`.  URLs of other schemes have opaque origins. -/
def originText (url : Url) : String :=
  if url.scheme ∈ ["http", "https", "ws", "wss", "ftp"] then
    url.scheme ++ "://" ++ url.host.getD "" ++ (url.port.elim "" fun port => ":" ++ toString port)
  else "null"

/-- The URL is an origin of the web: it has a host, but no path of its own and
no credentials, query or fragment. -/
def isOrigin (url : Url) : Bool :=
  url.path == "/" && url.query.isNone && url.fragment.isNone && url.username == "" &&
    url.password.isNone

def isWeb (url : Url) : Bool :=
  ["http", "https"].contains url.scheme && url.host.isSome

/-- The host without the brackets around it. -/
def unbracketed (host : List Char) : List Char :=
  if host.head? = some '[' ∧ host.tail.getLast? = some ']' then host.tail.dropLast else host

def isLoopbackHost (host : String) : Bool :=
  unbracketed host.toList == "localhost".toList ||
    (parseIpAddr (unbracketed host.toList)).any IpAddr.isLoopback

def isNormalizedAbsolute (path : String) : Bool :=
  Path.isAbsolute path.toList && (Path.components path.toList).all fun component =>
    match component with
    | .rootDir | .normal _ => true
    | .curDir | .parentDir => false

/-- Fail with the text unless the condition holds. -/
def check (condition : Bool) (error : String) : Except String Unit :=
  if condition then .ok () else .error error

/-- One check after the other. -/
def andThen (first second : Except String Unit) : Except String Unit :=
  first.bind fun _ => second

def checkAll : List (Except String Unit) → Except String Unit
  | [] => .ok ()
  | first :: rest => andThen first (checkAll rest)

/-- The paths that are there are absolute. -/
def checkAbsolute (paths : List (String × Option String)) (suffix : String) : Except String Unit :=
  checkAll (paths.map fun (name, path) =>
    check (path.all fun path => Path.isAbsolute path.toList) (name ++ suffix))

namespace Config

variable (crate : UrlCrate) (config : Config)

/-! ## The server section -/

/-- `public_base_url`, as far as it is checked on its own. -/
def publicUrl : Except String Url :=
  match crate.parse config.server.publicBaseUrl with
  | none => .error "public_base_url must be an absolute URL"
  | some url =>
      (checkAll
        [check (isWeb url) "public_base_url must be an HTTP(S) origin",
          check (isOrigin url)
            "public_base_url must not contain credentials, path, query, or fragment"]).map
        fun _ => url

def checkTls : Except String Unit :=
  checkAll
    [check (!("http://".toList.isPrefixOf config.server.publicBaseUrl.toList &&
        !config.server.allowInsecureHttp))
        "insecure public_base_url requires allow_insecure_http=true",
      check (config.server.tlsCert.isSome == config.server.tlsKey.isSome)
        "TLS certificate and key must be configured together",
      checkAbsolute [("server.tls_cert", config.server.tlsCert),
        ("server.tls_key", config.server.tlsKey)] " must be an absolute path",
      check (config.server.allowInsecureHttp ||
          (config.server.tlsCert.isSome && config.server.tlsKey.isSome))
        "TLS certificate and key are required outside development mode"]

/-- The serialisation of an allowed origin. -/
def normalizedOrigin (origin : String) : Except String String :=
  match crate.parse origin with
  | none => .error ("allowed origin is not an absolute URL: " ++ origin)
  | some url =>
      (check (isWeb url && isOrigin url)
        "allowed origins must be HTTP(S) origins without credentials or paths").map
        fun _ => originText url

/-- What depends on the public URL and the allowed origins. -/
def checkMode (publicUrl : Url) (normalizedOrigins : List String) : Except String Unit :=
  if config.server.allowInsecureHttp then
    check (config.server.listen.ip.isLoopback && publicUrl.host.any isLoopbackHost)
      "development mode must stay on loopback"
  else
    checkAll
      [check (publicUrl.scheme == "https") "production public_base_url must use HTTPS",
        check config.server.secureCookies "production requires secure cookies",
        check (config.browser.enabled && config.network.enabled && config.signaling.enabled)
          "production requires browser, network, and signaling backends",
        check (normalizedOrigins.all fun origin => "https://".toList.isPrefixOf origin.toList)
          "production allowed_origins must use HTTPS"]

def checkServer : Except String Unit :=
  (config.publicUrl crate).bind fun publicUrl =>
    (checkTls config).bind fun _ =>
      (config.server.allowedOrigins.mapM (normalizedOrigin crate)).bind fun normalizedOrigins =>
        andThen
          (check (normalizedOrigins.contains (originText publicUrl))
            "allowed_origins must include the public_base_url origin")
          (config.checkMode publicUrl normalizedOrigins)

/-! ## The other sections -/

def withinTimeout (seconds : Nat) : Bool :=
  1 ≤ seconds && seconds ≤ 30

def checkLimits : Except String Unit :=
  checkAll
    [check (300 ≤ config.session.authTtlSeconds) "auth_ttl_seconds must be at least 300",
      check (config.session.ticketTtlSeconds ≠ 0 && config.session.ticketTtlSeconds ≤ 300)
        "ticket_ttl_seconds must be between 1 and 300",
      check (withinTimeout config.browser.stopTimeoutSeconds &&
          withinTimeout config.browser.ipcTimeoutSeconds &&
          withinTimeout config.network.ipcTimeoutSeconds)
        "browser and network lifecycle timeouts must be between 1 and 30 seconds",
      check (config.network.browserUid ≠ 0) "browser_uid must not be root",
      check (config.network.controlUid.all fun uid => uid ≠ 0 && uid ≠ config.network.browserUid)
        "control_uid must be non-root and distinct from browser_uid",
      check (config.network.controlUid.isSome ||
          (config.server.allowInsecureHttp && !config.network.enabled))
        "network.control_uid is required whenever the real network backend is enabled"]

def checkPaths : Except String Unit :=
  checkAll
    [check (isNormalizedAbsolute config.session.runtimeDir &&
          Path.components config.session.runtimeDir.toList != [.rootDir] &&
          3 ≤ (Path.components config.session.runtimeDir.toList).length)
        "runtime_dir must be a specific normalized absolute directory",
      check (isNormalizedAbsolute config.session.pairingFile &&
          isNormalizedAbsolute config.browser.socket &&
          isNormalizedAbsolute config.network.netdSocket)
        "pairing and service socket paths must be normalized absolute paths",
      if config.server.allowInsecureHttp then .ok ()
      else
        andThen
          (checkAll ([("session.runtime_dir", config.session.runtimeDir),
              ("session.pairing_file", config.session.pairingFile),
              ("browser.socket", config.browser.socket),
              ("network.netd_socket", config.network.netdSocket)].map fun (name, path) =>
            check (Path.startsWith path.toList "/run".toList)
              ("production " ++ name ++ " must stay under /run")))
          (check (isNormalizedAbsolute config.server.staticDir &&
              isNormalizedAbsolute config.browser.command)
            "production static_dir and browser command must be absolute paths")]

def checkInitialUrl : Except String Unit :=
  check (crate.parse config.session.initialUrl).isSome "initial_url must be an absolute URL"

def checkProxyEndpoint : Except String Unit :=
  check (parseSocketAddr config.network.proxyEndpoint.toList).isSome
    "proxy_endpoint must be an IP address and port"

/-- The proxy of a managed mode. -/
def checkManagedProxy (name proxy : String) : Except String Unit :=
  match validateProxyUrl crate proxy false with
  | .error _ => .error ("network." ++ name ++ " is invalid")
  | .ok proxy =>
      check proxy.endpoint.ip.isLoopback ("network." ++ name ++ " must use a loopback endpoint")

def checkNetwork : Except String Unit :=
  checkAll
    [config.checkProxyEndpoint,
      checkManagedProxy crate "tor_proxy" config.network.torProxy,
      checkManagedProxy crate "warp_proxy" config.network.warpProxy,
      check (isNormalizedAbsolute config.network.wireguardConfig &&
          isNormalizedAbsolute config.network.proxyUrlFile)
        "network secret references must be normalized absolute paths",
      check (Path.fileStem config.network.wireguardConfig.toList == some "wg0".toList)
        "network.wireguard_config must target the dedicated wg0 interface"]

def checkSignaling : Except String Unit :=
  match crate.parse config.signaling.upstreamUri with
  | none => .error "signaling.upstream_uri must be an absolute WebSocket URL"
  | some uri =>
      checkAll
        [check (["ws", "wss"].contains uri.scheme) "signaling.upstream_uri must use ws or wss",
          check uri.host.isSome "signaling.upstream_uri must include a host",
          check (!config.signaling.enabled || uri.host.any isLoopbackHost)
            "signaling upstream must be loopback-only",
          check (Path.isAbsolute config.signaling.pluginDirectory.toList)
            "signaling.plugin_directory must be absolute",
          checkAbsolute [("signaling.stun_config_file", config.signaling.stunConfigFile),
            ("signaling.turn_config_file", config.signaling.turnConfigFile)]
            " must be an absolute secret file reference"]

/-- `Config::validate`. -/
def validate : Except String Unit :=
  checkAll
    [config.checkServer crate, config.checkLimits, config.checkPaths,
      config.checkInitialUrl crate, config.checkNetwork crate, config.checkSignaling crate]

end Config

/-! ## What a valid configuration satisfies -/

theorem check_eq_ok_iff {condition : Bool} {error : String} :
    check condition error = .ok () ↔ condition = true := by
  unfold check
  split
  · simp_all
  · simp_all

theorem checkAll_eq_ok_iff {checks : List (Except String Unit)} :
    checkAll checks = .ok () ↔ ∀ result ∈ checks, result = .ok () := by
  induction checks with
  | nil => simp [checkAll]
  | cons first rest ih =>
      unfold checkAll andThen
      cases first with
      | error error => simp [Except.bind]
      | ok _ =>
          rw [List.forall_mem_cons, ← ih]
          simp [Except.bind]

namespace Config

variable {crate : UrlCrate} {config : Config}

/-- A valid configuration passes each group of checks. -/
theorem validate_eq_ok_iff :
    config.validate crate = .ok () ↔
      config.checkServer crate = .ok () ∧ config.checkLimits = .ok () ∧
        config.checkPaths = .ok () ∧ config.checkInitialUrl crate = .ok () ∧
        config.checkNetwork crate = .ok () ∧ config.checkSignaling crate = .ok () := by
  unfold validate
  rw [checkAll_eq_ok_iff]
  simp

/-- The verdict on a configuration depends on the three settings through the
parse of the URL only. -/
theorem validate_settings (valid : config.validate crate = .ok ()) {text : String} {url : Url}
    (parsed : crate.parse text = some url) (profile : StreamProfile) (seconds : Nat) :
    { config with session := { config.session with
        initialUrl := text, initialProfile := profile, autoBurnSeconds := seconds } }.validate crate =
      .ok () := by
  rw [validate_eq_ok_iff] at valid ⊢
  rcases valid with ⟨server, limits, paths, _, network, signaling⟩
  refine ⟨server, limits, paths, ?_, network, signaling⟩
  unfold checkInitialUrl
  rw [check_eq_ok_iff, parsed]
  rfl

end Config

/-! ## The defaults -/

/-- The URLs of the defaults, with the components that the `url` crate gives them. -/
structure ParsesDefaults (crate : UrlCrate) : Prop where
  publicBaseUrl : crate.parse "http://127.0.0.1:8088" =
    some { scheme := "http", host := some "127.0.0.1", port := some 8088, path := "/" }
  initialUrl : crate.parse "xanhtab://home" = some { scheme := "xanhtab", host := some "home" }
  torProxy : crate.parse "socks5://127.0.0.1:9050" =
    some { scheme := "socks5", host := some "127.0.0.1", port := some 9050 }
  warpProxy : crate.parse "socks5://127.0.0.1:40000" =
    some { scheme := "socks5", host := some "127.0.0.1", port := some 40000 }
  upstreamUri : crate.parse "ws://127.0.0.1:8444" =
    some { scheme := "ws", host := some "127.0.0.1", port := some 8444, path := "/" }

theorem isLoopbackHost_local : isLoopbackHost "127.0.0.1" = true := by
  unfold isLoopbackHost
  rw [String.toList_ofList]
  decide

/-- A managed proxy at a port of the local host. -/
theorem validateProxyUrl_local {crate : UrlCrate} {text : String} {port : Nat}
    (parsed : crate.parse text = some { scheme := "socks5", host := some "127.0.0.1", port })
    (trimmed : trim text.toList = text.toList) (present : text.toList ≠ [])
    (short : utf8Length text.toList ≤ maxProxyUrlBytes) (allowCredentials : Bool) :
    validateProxyUrl crate text allowCredentials =
      .ok ⟨{ scheme := "socks5", host := some "127.0.0.1", port }, ⟨.v4 0x7f000001, port⟩⟩ := by
  have address : hostAddress { scheme := "socks5", host := some "127.0.0.1", port } =
      some (.v4 0x7f000001) := by
    unfold hostAddress
    rw [Option.bind_some, String.toList_ofList]
    decide
  have accepted : ¬ (text.toList = [] ∨ maxProxyUrlBytes < utf8Length text.toList) := by
    rintro (empty | long)
    · exact present empty
    · omega
  unfold validateProxyUrl
  dsimp only
  rw [trimmed, if_neg accepted, String.ofList_toList, parsed]
  simp only [address]
  simp [Url.portOrKnownDefault]

namespace Config

variable {crate : UrlCrate}

/-- The URL of the local host that is the default. -/
def localUrl : Url :=
  { scheme := "http", host := some "127.0.0.1", port := some 8088, path := "/" }

theorem originText_localUrl : originText localUrl = "http://127.0.0.1:8088" :=
  rfl

theorem local_publicUrl (parses : ParsesDefaults crate) (origins : List String) :
    ({ server := { allowedOrigins := origins } } : Config).publicUrl crate = .ok localUrl := by
  simp [publicUrl, parses.publicBaseUrl, checkAll, andThen, check, isWeb, isOrigin, Except.bind,
    Except.map, localUrl]

/-- The default origin may be written in any way that parses to it. -/
theorem local_checkServer (parses : ParsesDefaults crate) {origin : String}
    (parsed : crate.parse origin = some localUrl) :
    ({ server := { allowedOrigins := [origin] } } : Config).checkServer crate = .ok () := by
  have tls : ({ server := { allowedOrigins := [origin] } } : Config).checkTls = .ok () := by
    simp [checkTls, checkAll, checkAbsolute, andThen, check, Except.bind]
  have origins : ([origin] : List String).mapM (normalizedOrigin crate) =
      .ok ["http://127.0.0.1:8088"] := by
    simp [normalizedOrigin, parsed, check, isWeb, isOrigin, originText_localUrl, Except.map]
    simp [localUrl]
  have loopback : IpAddr.isLoopback (.v4 0x7f000001) = true := by decide
  unfold checkServer checkMode
  rw [local_publicUrl parses]
  simp only [Except.bind, tls, origins, originText_localUrl, loopback]
  simp [andThen, check, Except.bind, isLoopbackHost_local, localUrl]

theorem default_checkPaths : ({} : Config).checkPaths = .ok () := by
  have normalized : isNormalizedAbsolute "/run/xanhtab-session" = true ∧
      isNormalizedAbsolute "/run/xanhtab/pairing.txt" = true ∧
      isNormalizedAbsolute "/run/xanhtab/browser.sock" = true ∧
      isNormalizedAbsolute "/run/xanhtab/netd.sock" = true := by
    unfold isNormalizedAbsolute
    rw [String.toList_ofList, String.toList_ofList, String.toList_ofList, String.toList_ofList]
    decide
  have components : Path.components "/run/xanhtab-session".toList =
      [.rootDir, .normal ['r', 'u', 'n'], .normal "xanhtab-session".toList] := by
    rw [String.toList_ofList]
    decide
  have specific : Path.components "/run/xanhtab-session".toList ≠ [.rootDir] ∧
      3 ≤ (Path.components "/run/xanhtab-session".toList).length := by
    rw [components]
    exact ⟨by simp, by simp⟩
  unfold checkPaths
  rw [checkAll_eq_ok_iff, List.forall_mem_cons, List.forall_mem_cons, List.forall_mem_singleton,
    check_eq_ok_iff, check_eq_ok_iff]
  refine ⟨?_, ?_, rfl⟩
  · rw [Bool.and_eq_true, Bool.and_eq_true, bne_iff_ne, decide_eq_true_iff]
    exact ⟨⟨normalized.1, specific.1⟩, specific.2⟩
  · rw [Bool.and_eq_true, Bool.and_eq_true]
    exact ⟨⟨normalized.2.1, normalized.2.2.1⟩, normalized.2.2.2⟩

theorem default_checkNetwork (parses : ParsesDefaults crate) :
    ({} : Config).checkNetwork crate = .ok () := by
  have endpoint : (parseSocketAddr "127.0.0.1:1080".toList).isSome = true := by
    rw [String.toList_ofList]
    decide
  have tor : validateProxyUrl crate "socks5://127.0.0.1:9050" false =
      .ok ⟨{ scheme := "socks5", host := some "127.0.0.1", port := some 9050 },
        ⟨.v4 0x7f000001, 9050⟩⟩ := by
    apply validateProxyUrl_local parses.torProxy
    · rw [String.toList_ofList]
      decide
    · rw [String.toList_ofList]
      decide
    · rw [String.toList_ofList]
      decide
  have warp : validateProxyUrl crate "socks5://127.0.0.1:40000" false =
      .ok ⟨{ scheme := "socks5", host := some "127.0.0.1", port := some 40000 },
        ⟨.v4 0x7f000001, 40000⟩⟩ := by
    apply validateProxyUrl_local parses.warpProxy
    · rw [String.toList_ofList]
      decide
    · rw [String.toList_ofList]
      decide
    · rw [String.toList_ofList]
      decide
  have normalized : isNormalizedAbsolute "/etc/xanhtab/secrets/wg0.conf" = true ∧
      isNormalizedAbsolute "/etc/xanhtab/secrets/proxy-url" = true := by
    unfold isNormalizedAbsolute
    rw [String.toList_ofList, String.toList_ofList]
    decide
  have stem : Path.fileStem "/etc/xanhtab/secrets/wg0.conf".toList = some "wg0".toList := by
    rw [String.toList_ofList, String.toList_ofList]
    decide
  have loopback : IpAddr.isLoopback (.v4 0x7f000001) = true := by decide
  have managed : ∀ name proxy port,
      validateProxyUrl crate proxy false =
        .ok ⟨{ scheme := "socks5", host := some "127.0.0.1", port := some port },
          ⟨.v4 0x7f000001, port⟩⟩ →
      checkManagedProxy crate name proxy = .ok () := by
    intro name proxy port validated
    unfold checkManagedProxy
    rw [validated]
    exact check_eq_ok_iff.mpr loopback
  unfold checkNetwork checkProxyEndpoint
  rw [checkAll_eq_ok_iff, List.forall_mem_cons, List.forall_mem_cons, List.forall_mem_cons,
    List.forall_mem_cons, List.forall_mem_singleton, check_eq_ok_iff, check_eq_ok_iff,
    check_eq_ok_iff]
  refine ⟨endpoint, managed _ _ _ tor, managed _ _ _ warp, ?_, ?_⟩
  · rw [Bool.and_eq_true]
    exact normalized
  · rw [beq_iff_eq]
    exact stem

theorem default_checkSignaling (parses : ParsesDefaults crate) :
    ({} : Config).checkSignaling crate = .ok () := by
  have directory : Path.isAbsolute "/usr/lib/xanhtab/gstreamer-1.0".toList = true := by
    rw [String.toList_ofList]
    decide
  have upstream : crate.parse ({} : Config).signaling.upstreamUri = _ := parses.upstreamUri
  unfold checkSignaling
  rw [upstream]
  dsimp only
  rw [checkAll_eq_ok_iff, List.forall_mem_cons, List.forall_mem_cons, List.forall_mem_cons,
    List.forall_mem_cons, List.forall_mem_singleton, check_eq_ok_iff, check_eq_ok_iff,
    check_eq_ok_iff, check_eq_ok_iff]
  exact ⟨rfl, rfl, rfl, directory, rfl⟩

/-- The default configuration is valid, however its origin is written. -/
theorem local_validate (parses : ParsesDefaults crate) {origin : String}
    (parsed : crate.parse origin = some localUrl) :
    ({ server := { allowedOrigins := [origin] } } : Config).validate crate = .ok () := by
  rw [validate_eq_ok_iff]
  refine ⟨local_checkServer parses parsed, ?_, default_checkPaths, ?_,
    default_checkNetwork parses, default_checkSignaling parses⟩
  · simp [checkLimits, checkAll, andThen, check, Except.bind, withinTimeout]
  · simp [checkInitialUrl, check, parses.initialUrl]

/-- The default configuration is valid. -/
theorem default_validate (parses : ParsesDefaults crate) :
    ({} : Config).validate crate = .ok () :=
  local_validate parses parses.publicBaseUrl

end Config

end XanhTab.Configuration

namespace XanhTab

open XanhTab.Configuration

namespace Sample

/-- Some texts with the URLs that they are parsed to, serialisations first. -/
def urlTable : List (String × Url) :=
  [("http://127.0.0.1:8088/",
      { scheme := "http", host := some "127.0.0.1", port := some 8088, path := "/" }),
    ("http://127.0.0.1:8088",
      { scheme := "http", host := some "127.0.0.1", port := some 8088, path := "/" }),
    ("xanhtab://home", { scheme := "xanhtab", host := some "home" }),
    ("socks5://127.0.0.1:9050",
      { scheme := "socks5", host := some "127.0.0.1", port := some 9050 }),
    ("socks5://127.0.0.1:40000",
      { scheme := "socks5", host := some "127.0.0.1", port := some 40000 }),
    ("ws://127.0.0.1:8444/",
      { scheme := "ws", host := some "127.0.0.1", port := some 8444, path := "/" }),
    ("ws://127.0.0.1:8444",
      { scheme := "ws", host := some "127.0.0.1", port := some 8444, path := "/" }),
    ("xanhtab://settings", { scheme := "xanhtab", host := some "settings" }),
    ("file:///etc/hostname", { scheme := "file", path := "/etc/hostname" }),
    ("socks5://127.0.0.1:9150",
      { scheme := "socks5", host := some "127.0.0.1", port := some 9150 }),
    ("socks5h://127.0.0.1:9050",
      { scheme := "socks5h", host := some "127.0.0.1", port := some 9050 }),
    ("socks5h://127.0.0.1:40000",
      { scheme := "socks5h", host := some "127.0.0.1", port := some 40000 }),
    ("http://192.0.2.7:3128/",
      { scheme := "http", host := some "192.0.2.7", port := some 3128, path := "/" }),
    ("http://192.0.2.7:3128",
      { scheme := "http", host := some "192.0.2.7", port := some 3128, path := "/" }),
    ("https://xanhtab.local:8443/",
      { scheme := "https", host := some "xanhtab.local", port := some 8443, path := "/" }),
    ("https://xanhtab.local:8443",
      { scheme := "https", host := some "xanhtab.local", port := some 8443, path := "/" })]

/-- The `url` crate on these texts. -/
def tableCrate : UrlCrate where
  parse text := urlTable.lookup text
  display url := ((urlTable.find? fun entry => entry.2 = url).map Prod.fst).getD ""

theorem tableCrate_parsesDefaults : ParsesDefaults tableCrate where
  publicBaseUrl := rfl
  initialUrl := rfl
  torProxy := rfl
  warpProxy := rfl
  upstreamUri := rfl

end Sample

end XanhTab
