import XanhTab.Browser.Helper
import XanhTab.Config.Validate
import XanhTab.Daemon.Api

/-!
# The gates of a URL

A URL is looked at when it is configured as the initial one, when the API takes
it, and when the helper loads it.  The first gate asks for an absolute URL, the
second for a scheme, and the third for a scheme and a route.
-/

namespace XanhTab

open XanhTab.Configuration

/-- `Config::validate` accepts the URL as the initial one. -/
def AcceptedInitially (crate : UrlCrate) (url : Url) : Prop :=
  ∃ config : Configuration.Config, crate.parse config.session.initialUrl = some url ∧
    config.validate crate = .ok ()

/-- The helper can be told to load the URL. -/
def Resolves (args : Args) (url : Url) : Prop :=
  ∃ location, resolveLocation args url = .ok location ∧ checkPipelineArgs args location = .ok ()

/-- What one gate lets through is not refused by the next. -/
structure GatesAgree (crate : UrlCrate) (args : Args) (url : Url) : Prop where
  initial : AcceptedInitially crate url → validateNavigationUrl url = .ok ()
  navigable : validateNavigationUrl url = .ok () → Resolves args url

/-- The URL is a web page or the home page. -/
def Url.Routed (url : Url) : Prop :=
  url.scheme = "http" ∨ url.scheme = "https" ∨ url.scheme = "xanhtab" ∧ url.host = some "home"

variable {crate : UrlCrate} {args : Args} {url home : Url} {text : String}

/-! ## Each gate -/

theorem validateNavigationUrl_eq_ok_iff :
    validateNavigationUrl url = .ok () ↔
      url.scheme = "http" ∨ url.scheme = "https" ∨ url.scheme = "xanhtab" := by
  unfold validateNavigationUrl
  split
  · rename_i allowed
    exact ⟨fun _ => allowed, fun _ => rfl⟩
  · rename_i refused
    constructor
    · intro accepted
      cases accepted
    · intro allowed
      exact absurd allowed refused

/-- The initial URL of a valid configuration can be replaced by any other URL. -/
theorem Configuration.Config.validate_initialUrl {config : Configuration.Config}
    (valid : config.validate crate = .ok ()) (parsed : crate.parse text = some url) :
    { config with session := { config.session with initialUrl := text } }.validate crate =
      .ok () :=
  Config.validate_settings valid parsed config.session.initialProfile config.session.autoBurnSeconds

/-- The first gate lets every URL through. -/
theorem acceptedInitially (parses : ParsesDefaults crate) (parsed : crate.parse text = some url) :
    AcceptedInitially crate url :=
  ⟨_, parsed, Config.validate_initialUrl (Config.default_validate parses) parsed⟩

theorem resolves_of_web (web : url.scheme = "http" ∨ url.scheme = "https")
    (loopback : args.signalingIsLoopback = true) : Resolves args url := by
  have external : url.scheme ≠ "xanhtab" := by
    rcases web with http | https
    · rw [http]
      simp
    · rw [https]
      simp
  refine ⟨url, if_pos external, ?_⟩
  unfold checkPipelineArgs
  rw [if_neg, if_pos loopback]
  rcases web with http | https
  · simp [http]
  · simp [https]

theorem resolves_of_internal (internal : url.scheme = "xanhtab")
    (installed : args.internalHome = some home) (file : home.scheme = "file")
    (loopback : args.signalingIsLoopback = true) :
    Resolves args url ↔ url.host = some "home" := by
  unfold Resolves resolveLocation
  rw [if_neg (not_not_intro internal)]
  by_cases route : url.host = some "home"
  · rw [if_neg (not_not_intro route), installed]
    refine iff_of_true ⟨home, rfl, ?_⟩ route
    unfold checkPipelineArgs
    rw [if_neg, if_pos loopback]
    simp [file]
  · rw [if_pos route]
    refine iff_of_false ?_ route
    rintro ⟨location, resolved, _⟩
    cases resolved

/-! ## The three together -/

/-- The gates agree on a URL if and only if it is a web page or the home page. -/
theorem gatesAgree_iff (parses : ParsesDefaults crate) (parsed : crate.parse text = some url)
    (installed : args.internalHome = some home) (file : home.scheme = "file")
    (loopback : args.signalingIsLoopback = true) :
    GatesAgree crate args url ↔ url.Routed := by
  constructor
  · intro agree
    have allowed := agree.initial (acceptedInitially parses parsed)
    rcases validateNavigationUrl_eq_ok_iff.mp allowed with http | https | internal
    · exact Or.inl http
    · exact Or.inr (Or.inl https)
    · have resolves := agree.navigable allowed
      rw [resolves_of_internal internal installed file loopback] at resolves
      exact Or.inr (Or.inr ⟨internal, resolves⟩)
  · intro routed
    have allowed : validateNavigationUrl url = .ok () := by
      rw [validateNavigationUrl_eq_ok_iff]
      rcases routed with http | https | ⟨internal, _⟩
      · exact Or.inl http
      · exact Or.inr (Or.inl https)
      · exact Or.inr (Or.inr internal)
    refine ⟨fun _ => allowed, fun _ => ?_⟩
    rcases routed with http | https | ⟨internal, route⟩
    · exact resolves_of_web (Or.inl http) loopback
    · exact resolves_of_web (Or.inr https) loopback
    · exact (resolves_of_internal internal installed file loopback).mpr route

/-- The API accepts a route that the helper does not have, and the configuration
a scheme that the API refuses. -/
theorem not_gatesAgree_of_settings :
    ¬ (∀ (crate : UrlCrate) (args : Args) (text : String) (url home : Url),
      ParsesDefaults crate → crate.parse text = some url → args.internalHome = some home →
      home.scheme = "file" → args.signalingIsLoopback = true → GatesAgree crate args url) := by
  intro claim
  have agree := claim Sample.tableCrate
    { internalHome := some { scheme := "file", path := "/usr/share/xanhtab/web/home.html" } }
    "xanhtab://settings" { scheme := "xanhtab", host := some "settings" } _
    Sample.tableCrate_parsesDefaults rfl rfl rfl rfl
  rcases agree.navigable rfl with ⟨location, resolved, _⟩
  cases resolved

theorem gatesAgree_iff_of_file :
    ¬ GatesAgree Sample.tableCrate
      { internalHome := some { scheme := "file", path := "/usr/share/xanhtab/web/home.html" } }
      { scheme := "file", path := "/etc/hostname" } := by
  intro agree
  have parsed : Sample.tableCrate.parse "file:///etc/hostname" =
      some { scheme := "file", path := "/etc/hostname" } := rfl
  have routed := (gatesAgree_iff Sample.tableCrate_parsesDefaults parsed rfl rfl rfl).mp agree
  unfold Url.Routed at routed
  simp at routed

end XanhTab
