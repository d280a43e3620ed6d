import XanhTab.Blocklist.Hosts
import XanhTab.Config.Validate
import XanhTab.Daemon.Ledger

/-!
# Starting the daemon

`main` of `main.rs`, from the configuration file to the listener.  The first
pairing is published before anything is served; how it is served depends on the
TLS files and on the development mode.
-/

namespace XanhTab

open XanhTab.Configuration

/-- How requests are accepted. -/
inductive Listener
  | tls (listen : SocketAddr) (certificate key : String)
  | plain (listen : SocketAddr)
  deriving DecidableEq, Repr

inductive BootError
  | config (error : String)
  | blocklist (error : String)
  | emptyBlocklist
  | random
  | pairingFile (error : String)
  | certificate
  | tlsRequired
  deriving DecidableEq, Repr

/-- What `main` runs once it serves, with the text that it has written to the
pairing file. -/
structure Serving where
  app : AppState
  daemon : Daemon
  published : String
  listener : Listener

/-- The ledger holds the publication of the first pairing. -/
def Serving.ledger {W : Type} (serving : Serving) (world : W) : Ledger W :=
  ⟨[(.writePairingFile serving.published, true)], world⟩

namespace Configuration.Config

variable {F : Type} (crate : UrlCrate) (fst : FstCrate F) (config : Config)

/-- `ensure_runtime_blocklist`. -/
def ensureRuntimeBlocklist (blocklist : Blocklist F) : Except BootError Unit :=
  if !config.server.allowInsecureHttp && blocklist.len fst == 0 then .error .emptyBlocklist
  else .ok ()

/-- The state that `main` builds around a session manager. -/
def appState (blocklist : Blocklist F) : AppState where
  sessions :=
    { initialEgress := config.network.initialMode
      initialProfile := config.session.initialProfile
      initialAutoBurnSeconds := config.session.autoBurnSeconds
      blocklist := fun host => (blocklist.contains fst host.toList).1 }
  auth := ⟨Duration.ofSeconds config.session.authTtlSeconds,
    Duration.ofSeconds config.session.ticketTtlSeconds⟩
  publicBaseUrl := config.server.publicBaseUrl

/-- The last step of `main`, with whether the TLS files can be loaded. -/
def listener (loads : String → String → Bool) : Except BootError Listener :=
  match config.server.tlsCert, config.server.tlsKey with
  | some certificate, some key =>
      if loads certificate key then .ok (.tls config.server.listen certificate key)
      else .error .certificate
  | _, _ =>
      if config.server.allowInsecureHttp then .ok (.plain config.server.listen)
      else .error .tlsRequired

/-- `main`, with the blocklist file as it is opened, the random source, the
clocks, and whether the pairing file can be written. -/
def boot (opened : Except String (Option F)) (rng : Rng) (now : Instant) (utc : DateTime)
    (writes : String → Except String Unit) (loads : String → String → Bool) :
    Except BootError Serving :=
  match config.validate crate with
  | .error error => .error (.config error)
  | .ok () =>
    match opened with
    | .error error => .error (.blocklist error)
    | .ok file =>
      let blocklist := Blocklist.openFile file
      match config.ensureRuntimeBlocklist fst blocklist with
      | .error error => .error error
      | .ok () =>
        let app := config.appState fst blocklist
        match AuthManager.rotatePairing {} rng with
        | (none, _, _) => .error .random
        | (some pairing, auth, rng) =>
          let body := AuthManager.pairingFileBody pairing app.publicBaseUrl
          match writes body with
          | .error error => .error (.pairingFile error)
          | .ok () =>
            (config.listener loads).map fun listener =>
              { app, listener
                daemon := { session := app.sessions.initialData now, auth, rng, now, utc }
                published := body }

end Configuration.Config

/-! ## What is served -/

/-- The daemon that `main` runs once it serves. -/
structure Deployed {F : Type} (crate : UrlCrate) (fst : FstCrate F) (config : Configuration.Config)
    (blocklist : Blocklist F) (bytes : Bytes32) (loads : String → String → Bool)
    (serving : Serving) : Prop where
  valid : config.validate crate = .ok ()
  screened : config.server.allowInsecureHttp = false → blocklist.len fst ≠ 0
  app : serving.app = config.appState fst blocklist
  booted : serving.app.Booted serving.daemon
  pairing : serving.daemon.auth.pairingHash = some (hash (Encoding.urlSafeNoPad bytes)) ∧
    serving.daemon.auth.manualPairingHash = some (hash (Encoding.groupManualCode bytes))
  published : serving.published = AuthManager.pairingFileBody
    ⟨Encoding.urlSafeNoPad bytes, Encoding.groupManualCode bytes⟩ serving.app.publicBaseUrl
  listener : config.listener loads = .ok serving.listener

section Boot

variable {F : Type} {crate : UrlCrate} {fst : FstCrate F} {config : Configuration.Config}
  {opened : Except String (Option F)} {rng : Rng} {now : Instant} {utc : DateTime}
  {writes : String → Except String Unit} {loads : String → String → Bool} {serving : Serving}

theorem deployed_of_boot
    (serves : config.boot crate fst opened rng now utc writes loads = .ok serving) :
    ∃ file bytes, opened = .ok file ∧
      Deployed crate fst config (Blocklist.openFile file) bytes loads serving := by
  unfold Configuration.Config.boot at serves
  rcases valid : config.validate crate with error | _
  · rw [valid] at serves
    cases serves
  rw [valid] at serves
  rcases opened with error | file
  · cases serves
  dsimp only at serves
  rcases screened : config.ensureRuntimeBlocklist fst (Blocklist.openFile file) with error | _
  · rw [screened] at serves
    cases serves
  rw [screened] at serves
  unfold AuthManager.rotatePairing at serves
  rcases draw : rng.randomBytes with ⟨_ | bytes, rng'⟩
  · rw [draw] at serves
    cases serves
  rw [draw] at serves
  dsimp only at serves
  generalize text : AuthManager.pairingFileBody _ _ = body at serves
  rcases written : writes body with error | _
  · rw [written] at serves
    cases serves
  rw [written] at serves
  dsimp only at serves
  rcases listening : config.listener loads with error | listener
  · rw [listening] at serves
    cases serves
  rw [listening] at serves
  cases serves
  refine ⟨file, bytes, rfl, valid, ?_, rfl, ⟨rfl, ⟨rng,
    ⟨Encoding.urlSafeNoPad bytes, Encoding.groupManualCode bytes⟩, ?_⟩, rfl, rfl, rfl⟩, ⟨rfl, rfl⟩,
    text.symm, listening⟩
  · intro secure empty
    simp [Configuration.Config.ensureRuntimeBlocklist, secure, empty] at screened
  · unfold AuthManager.rotatePairing
    rw [draw]

/-- How a valid configuration is served. -/
theorem listener_cases (valid : config.validate crate = .ok ()) :
    (∃ certificate key, config.server.tlsCert = some certificate ∧
      config.server.tlsKey = some key ∧ config.listener loads =
        if loads certificate key then .ok (.tls config.server.listen certificate key)
        else .error .certificate) ∨
    config.server.allowInsecureHttp = true ∧
      config.listener loads = .ok (.plain config.server.listen) := by
  have server := (Configuration.Config.validate_eq_ok_iff.mp valid).1
  unfold Configuration.Config.checkServer at server
  rcases parsed : config.publicUrl crate with error | page
  · rw [parsed] at server
    cases server
  rw [parsed] at server
  rcases tls : config.checkTls with error | _
  · rw [tls] at server
    cases server
  rw [Configuration.Config.checkTls, checkAll_eq_ok_iff, List.forall_mem_cons,
    List.forall_mem_cons, List.forall_mem_cons, List.forall_mem_singleton, check_eq_ok_iff,
    check_eq_ok_iff, check_eq_ok_iff, beq_iff_eq, Bool.or_eq_true, Bool.and_eq_true] at tls
  rcases tls with ⟨_, together, _, required⟩
  unfold Configuration.Config.listener
  rcases first : config.server.tlsCert with _ | certificate
  · rcases required with insecure | ⟨present, _⟩
    · exact Or.inr ⟨insecure, if_pos insecure⟩
    · rw [first] at present
      cases present
  · rcases second : config.server.tlsKey with _ | key
    · rw [first, second] at together
      cases together
    · exact Or.inl ⟨certificate, key, rfl, rfl, rfl⟩

/-- What a valid configuration says of the mode that it is in. -/
theorem mode_of_valid (valid : config.validate crate = .ok ()) :
    (config.server.allowInsecureHttp = true ∧ config.server.listen.ip.isLoopback = true) ∨
    (config.server.allowInsecureHttp = false ∧ config.server.secureCookies = true ∧
      config.browser.enabled = true ∧ config.network.enabled = true ∧
      config.signaling.enabled = true) := by
  have server := (Configuration.Config.validate_eq_ok_iff.mp valid).1
  unfold Configuration.Config.checkServer at server
  rcases parsed : config.publicUrl crate with error | page
  · rw [parsed] at server
    cases server
  rw [parsed] at server
  rcases tls : config.checkTls with error | _
  · rw [tls] at server
    cases server
  rw [tls] at server
  rcases origins : config.server.allowedOrigins.mapM (Configuration.Config.normalizedOrigin crate) with
    error | normalized
  · rw [origins] at server
    cases server
  rw [origins] at server
  dsimp only [Except.bind] at server
  unfold andThen at server
  rcases listed : check (normalized.contains (originText page))
      "allowed_origins must include the public_base_url origin" with error | _
  · rw [listed] at server
    cases server
  rw [listed] at server
  dsimp only [Except.bind] at server
  unfold Configuration.Config.checkMode at server
  split at server
  · rename_i insecure
    rw [check_eq_ok_iff, Bool.and_eq_true] at server
    exact Or.inl ⟨insecure, server.1⟩
  · rename_i secure
    simp only [checkAll_eq_ok_iff, List.forall_mem_cons, check_eq_ok_iff,
      Bool.and_eq_true] at server
    exact Or.inr ⟨by simpa using secure, server.2.1, server.2.2.1.1.1, server.2.2.1.1.2,
      server.2.2.1.2⟩

/-- How far the daemon is exposed by what it serves. -/
structure Exposure (fst : FstCrate F) (config : Configuration.Config) (blocklist : Blocklist F)
    (loads : String → String → Bool) (serving : Serving) : Prop where
  plain : ∀ listen, serving.listener = .plain listen →
    listen.ip.isLoopback = true ∧ config.server.allowInsecureHttp = true
  production : config.server.allowInsecureHttp = false →
    ∃ certificate key, serving.listener = .tls config.server.listen certificate key ∧
      loads certificate key = true ∧ config.server.secureCookies = true ∧
      config.browser.enabled = true ∧ config.network.enabled = true ∧
      config.signaling.enabled = true ∧ blocklist.len fst ≠ 0

theorem Deployed.exposure {blocklist : Blocklist F} {bytes : Bytes32}
    (deployed : Deployed crate fst config blocklist bytes loads serving) :
    Exposure fst config blocklist loads serving := by
  have listening := deployed.listener
  rcases listener_cases deployed.valid with
    ⟨certificate, key, _, _, served⟩ | ⟨insecure, served⟩
  · rw [served] at listening
    split at listening
    · rename_i loaded
      have tls : serving.listener = .tls config.server.listen certificate key :=
        (Except.ok.inj listening).symm
      constructor
      · intro listen plain
        rw [tls] at plain
        cases plain
      · intro production
        rcases mode_of_valid deployed.valid with ⟨insecure, _⟩ | ⟨_, backends⟩
        · rw [production] at insecure
          cases insecure
        · exact ⟨certificate, key, tls, loaded, backends.1, backends.2.1, backends.2.2.1,
            backends.2.2.2, deployed.screened production⟩
    · cases listening
  · have plain : serving.listener = .plain config.server.listen :=
      (Except.ok.inj (served.symm.trans listening)).symm
    constructor
    · intro listen shown
      rcases mode_of_valid deployed.valid with ⟨_, loopback⟩ | ⟨production, _⟩
      · rw [plain] at shown
        cases shown
        exact ⟨loopback, insecure⟩
      · rw [insecure] at production
        cases production
    · intro production
      rw [insecure] at production
      cases production

/-- The last arm of `main` is not reached. -/
theorem boot_ne_tlsRequired (valid : config.validate crate = .ok ()) :
    config.boot crate fst opened rng now utc writes loads ≠ .error .tlsRequired := by
  intro refused
  unfold Configuration.Config.boot at refused
  rw [valid] at refused
  rcases opened with error | file
  · cases refused
  dsimp only at refused
  unfold Configuration.Config.ensureRuntimeBlocklist at refused
  split at refused
  · rename_i error screened
    split at screened <;> cases screened
    cases refused
  split at refused
  · cases refused
  split at refused
  · cases refused
  rcases listener_cases valid with ⟨certificate, key, _, _, served⟩ | ⟨_, served⟩
  · rw [served] at refused
    split at refused <;> cases refused
  · rw [served] at refused
    cases refused

/-- A valid configuration serves in the clear on the loopback interface only,
and otherwise over TLS with all its backends and a blocklist.  The arm of `main`
that says that TLS is required is never reached; files that are configured but
cannot be loaded still end it. -/
theorem exposure_of_boot (valid : config.validate crate = .ok ()) :
    config.boot crate fst opened rng now utc writes loads ≠ .error .tlsRequired ∧
    ∀ serving, config.boot crate fst opened rng now utc writes loads = .ok serving →
      ∃ file, opened = .ok file ∧
        Exposure fst config (Blocklist.openFile file) loads serving := by
  refine ⟨boot_ne_tlsRequired valid, fun serving serves => ?_⟩
  rcases deployed_of_boot serves with ⟨file, bytes, same, deployed⟩
  exact ⟨file, same, deployed.exposure⟩

end Boot

namespace Sample

/-- A source that never runs dry. -/
def inexhaustible : Rng :=
  { tape := fun n => some (bytes n) }

/-- `main` with the default configuration and without a blocklist. -/
def localBoot : Except BootError Serving :=
  ({} : Configuration.Config).boot tableCrate fst (.ok none) inexhaustible 0 0 (fun _ => .ok ())
    fun _ _ => false

def localServing : Serving where
  app := ({} : Configuration.Config).appState fst (Blocklist.openFile none)
  daemon :=
    { session := app.sessions.initialData 0
      auth := (AuthManager.rotatePairing {} inexhaustible).2.1
      rng := (AuthManager.rotatePairing {} inexhaustible).2.2 }
  published := AuthManager.pairingFileBody
    ⟨Encoding.urlSafeNoPad (bytes 0), Encoding.groupManualCode (bytes 0)⟩ "http://127.0.0.1:8088"
  listener := .plain ⟨.v4 0x7f000001, 8088⟩

theorem localBoot_serves : localBoot = .ok localServing := by
  unfold localBoot Configuration.Config.boot
  rw [Configuration.Config.default_validate tableCrate_parsesDefaults]
  rfl

/-- The configuration for production that is installed. -/
def production : Configuration.Config where
  server :=
    { listen := ⟨.v4 0, 8443⟩
      publicBaseUrl := "https://xanhtab.local:8443"
      staticDir := "/usr/share/xanhtab/web"
      tlsCert := some "/etc/xanhtab/tls/server.crt"
      tlsKey := some "/etc/xanhtab/tls/server.key"
      secureCookies := true
      allowInsecureHttp := false
      allowedOrigins := ["https://xanhtab.local:8443"] }
  browser := { enabled := true }
  signaling := { enabled := true }
  network :=
    { enabled := true
      ipcTimeoutSeconds := 10
      controlUid := some 987
      torProxy := "socks5h://127.0.0.1:9050"
      warpProxy := "socks5h://127.0.0.1:40000" }

theorem production_validate : production.validate tableCrate = .ok () := by
  decide +kernel

/-- A blocklist of one host. -/
def oneHost : KeySet :=
  ⟨["ads.example".toList], List.pairwise_singleton _ _⟩

/-- `main` with the configuration for production, whose TLS files can be loaded. -/
def productionBoot : Except BootError Serving :=
  production.boot tableCrate fst (.ok (some oneHost)) inexhaustible 0 0 (fun _ => .ok ())
    fun _ _ => true

def productionServing : Serving where
  app := production.appState fst (Blocklist.openFile (some oneHost))
  daemon :=
    { session := (production.appState fst
        (Blocklist.openFile (some oneHost))).sessions.initialData 0
      auth := (AuthManager.rotatePairing {} inexhaustible).2.1
      rng := (AuthManager.rotatePairing {} inexhaustible).2.2 }
  published := AuthManager.pairingFileBody
    ⟨Encoding.urlSafeNoPad (bytes 0), Encoding.groupManualCode (bytes 0)⟩
    "https://xanhtab.local:8443"
  listener := .tls ⟨.v4 0, 8443⟩ "/etc/xanhtab/tls/server.crt" "/etc/xanhtab/tls/server.key"

theorem productionBoot_serves : productionBoot = .ok productionServing := by
  unfold productionBoot Configuration.Config.boot
  rw [production_validate]
  rfl

end Sample

/-- The default configuration is served, and so is the one for production. -/
theorem exposure_of_bothModes :
    Exposure Sample.fst {} (Blocklist.openFile none) (fun _ _ => false) Sample.localServing ∧
    Exposure Sample.fst Sample.production (Blocklist.openFile (some Sample.oneHost))
      (fun _ _ => true) Sample.productionServing := by
  constructor
  · have valid := Configuration.Config.default_validate Sample.tableCrate_parsesDefaults
    rcases (exposure_of_boot valid).2 _ Sample.localBoot_serves with ⟨file, same, exposure⟩
    cases same
    exact exposure
  · rcases (exposure_of_boot Sample.production_validate).2 _ Sample.productionBoot_serves with
      ⟨file, same, exposure⟩
    cases same
    exact exposure

end XanhTab
