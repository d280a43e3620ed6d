import XanhTab.Daemon.Lifecycle

/-!
# The HTTP interface

The handlers of `api.rs` that lead to a lifecycle operation, from the point at
which the request is authenticated.  They refuse URLs of other schemes than
those that are meant to be navigated to, which no layer below them does.
-/

namespace XanhTab

open Program Contract

/-- `validate_navigation_url`. -/
def validateNavigationUrl (url : Url) : Except AppError Unit :=
  if url.scheme = "http" ∨ url.scheme = "https" ∨ url.scheme = "xanhtab" then .ok ()
  else .error (.invalidRequest "only http, https, and xanhtab URLs are allowed")

/-- Only an explicit navigation has a URL to be validated. -/
def NavigationCommand.validate : NavigationCommand → Except AppError Unit
  | .navigate url => validateNavigationUrl url
  | _ => .ok ()

/-- An authenticated request that leads to a lifecycle operation, or what the
watchdog does on its own. -/
inductive ApiOperation
  | startSession (context : AuthContext) (url : Option Url)
  | burnSession (context : AuthContext) (id : Uuid)
  | navigate (context : AuthContext) (id : Uuid) (command : NavigationCommand)
  | setEgress (context : AuthContext) (id : Uuid) (mode : EgressMode)
  | autoBurnIfDue
  | recoverExpiredAuth

namespace AppState

variable (app : AppState) (initialUrl : Url)

/-- `start_session`, which falls back on the configured URL. -/
def apiStartSession (context : AuthContext) (url : Option Url) : Routine Response :=
  match validateNavigationUrl (url.getD initialUrl) with
  | .error error => return .snapshot (.error error)
  | .ok () => app.lifecycle (.startSession context (url.getD initialUrl))

/-- `navigate`. -/
def apiNavigate (context : AuthContext) (id : Uuid) (command : NavigationCommand) :
    Routine Response :=
  match command.validate with
  | .error error => return .snapshot (.error error)
  | .ok () => app.lifecycle (.navigate context id command)

def api : ApiOperation → Routine Response
  | .startSession context url => app.apiStartSession initialUrl context url
  | .burnSession context id => app.lifecycle (.burnControllerSession context id)
  | .navigate context id command => app.apiNavigate context id command
  | .setEgress context id mode => app.lifecycle (.switchEgress context id mode)
  | .autoBurnIfDue => app.lifecycle .autoBurnIfDue
  | .recoverExpiredAuth => app.lifecycle .recoverExpiredAuth

variable {W O N : Type}

/-- The service as its clients reach it. -/
def apiService (answer : Answer Call Call.Reply W O) (world : N → Daemon → W → Option W) :
    Pool Daemon Call Call.Reply Response W O ApiOperation Request (Environment N) where
  answer := answer
  operation := app.api initialUrl
  task := app.request
  noise := environment world

end AppState

/-! ## What gets past the handlers -/

/-- The URL of the operation has been validated. -/
def Lifecycle.Validated : Lifecycle → Prop
  | .startSession _ url => validateNavigationUrl url = .ok ()
  | .navigate _ _ command => command.validate = .ok ()
  | _ => True

/-- A handler refuses the request, or leads to an operation that is validated. -/
theorem AppState.api_cases (app : AppState) (initialUrl : Url) (op : ApiOperation) :
    (∃ error, app.api initialUrl op = .done (.snapshot (.error error))) ∨
      ∃ accepted : Lifecycle, accepted.Validated ∧
        app.api initialUrl op = app.lifecycle accepted := by
  cases op with
  | startSession context url =>
      cases validated : validateNavigationUrl (url.getD initialUrl) with
      | error error =>
          exact Or.inl ⟨error, by simp only [AppState.api, AppState.apiStartSession, validated]; rfl⟩
      | ok _ =>
          refine Or.inr ⟨.startSession context (url.getD initialUrl), validated, ?_⟩
          simp only [AppState.api, AppState.apiStartSession, validated]
  | navigate context id command =>
      cases validated : command.validate with
      | error error =>
          exact Or.inl ⟨error, by simp only [AppState.api, AppState.apiNavigate, validated]; rfl⟩
      | ok _ =>
          refine Or.inr ⟨.navigate context id command, validated, ?_⟩
          simp only [AppState.api, AppState.apiNavigate, validated]
  | burnSession context id => exact Or.inr ⟨.burnControllerSession context id, trivial, rfl⟩
  | setEgress context id mode => exact Or.inr ⟨.switchEgress context id mode, trivial, rfl⟩
  | autoBurnIfDue => exact Or.inr ⟨.autoBurnIfDue, trivial, rfl⟩
  | recoverExpiredAuth => exact Or.inr ⟨.recoverExpiredAuth, trivial, rfl⟩

variable {W O N : Type} {answer : Answer Call Call.Reply W O} {world : N → Daemon → W → Option W}
  {app : AppState} {initialUrl : Url}

/-- What is established of the service holds of it as its clients reach it. -/
theorem established_apiService {contract : Contract Daemon Call Response W O}
    (established : contract.Established (app.service answer world))
    (refused : ∀ result memory state, contract.Good memory state →
      contract.atRest memory state → contract.finish result memory state)
    (stable : ∀ result, contract.Stable (contract.finish result)) :
    contract.Established (app.apiService initialUrl answer world) where
  operation op := by
    show contract.Triple answer contract.atRest (app.api initialUrl op) contract.finish
    rcases app.api_cases initialUrl op with ⟨error, equal⟩ | ⟨accepted, _, equal⟩
    · rw [equal]
      exact Triple.done (stable _) (refused _)
    · rw [equal]
      exact established.operation accepted
  task := established.task
  noise := established.noise
  resting := established.resting
  finished := established.finished

/-! ## Admissions -/

/-- A section admits validated URLs only. -/
def AdmitsValidated (before after : Daemon) : Prop :=
  ∀ admission ∈ after.admissions,
    admission ∈ before.admissions ∨ validateNavigationUrl admission.url = .ok ()

theorem AdmitsValidated.of_eq {before after : Daemon}
    (admissions : after.admissions = before.admissions) : AdmitsValidated before after := by
  intro admission member
  rw [admissions] at member
  exact Or.inl member

theorem AdmitsValidated.permits : Permits AdmitsValidated where
  quiet _ _ admissions := .of_eq admissions
  auth _ := .of_eq rfl

theorem AdmitsValidated.beginStart {manager : SessionManager} {client : Uuid} {url : Url}
    (validated : validateNavigationUrl url = .ok ()) (daemon : Daemon) :
    AdmitsValidated daemon (manager.beginStart client url daemon).2 := by
  have outcome := beginStart_cases manager client url daemon
  generalize manager.beginStart client url daemon = after at outcome
  cases outcome with
  | busy | conflict | blocked => exact .of_eq rfl
  | begun =>
      intro admission member
      rcases List.mem_append.mp member with old | new
      · exact Or.inl old
      · obtain rfl := List.mem_singleton.mp new
        exact Or.inr validated

theorem AdmitsValidated.beginNavigation {manager : SessionManager} {client : Uuid}
    {command : NavigationCommand} (validated : command.validate = .ok ()) (daemon : Daemon) :
    AdmitsValidated daemon (manager.beginNavigation client command daemon).2 := by
  have outcome := beginNavigation_cases manager client command daemon
  generalize manager.beginNavigation client command daemon = after at outcome
  cases outcome with
  | refused | blocked => exact .of_eq rfl
  | begun =>
      intro admission member
      rcases List.mem_append.mp member with old | new
      · exact Or.inl old
      · cases command with
        | navigate url =>
            obtain rfl := List.mem_singleton.mp new
            exact Or.inr validated
        | back | forward | reload | stop => cases new

theorem apiService_framed (app : AppState) (initialUrl : Url)
    (answer : Answer Call Call.Reply W O) (world : N → Daemon → W → Option W) :
    (app.apiService initialUrl answer world).Framed AdmitsValidated RequestStep where
  operation op := by
    show (app.api initialUrl op).Sections AdmitsValidated
    rcases app.api_cases initialUrl op with ⟨error, equal⟩ | ⟨accepted, validated, equal⟩
    · rw [equal]
      trivial
    · rw [equal]
      apply AdmitsValidated.permits.lifecycle
      · rintro context url rfl
        exact .beginStart validated
      · rintro context id command rfl
        exact .beginNavigation validated
  task := request_local app

/-- Every URL that is admitted has been validated. -/
theorem validated_of_reaches {daemon : Daemon} {state : W}
    {config : Config Daemon Call Call.Reply Response W} (booted : app.Booted daemon)
    (reaches : (app.apiService initialUrl answer world).Reaches (.idle daemon state) config) :
    ∀ admission ∈ config.memory.admissions, validateNavigationUrl admission.url = .ok () := by
  have keeps : (app.apiService initialUrl answer world).Keeps AdmitsValidated RequestStep
      fun daemon => ∀ admission ∈ daemon.admissions,
        validateNavigationUrl admission.url = .ok () := by
    constructor
    · intro before after initial step admission member
      rcases step admission member with old | validated
      · exact initial admission old
      · exact validated
    · intro before after initial step
      rw [step.admissions]
      exact initial
    · intro event before _ after _ initial changed
      cases event with
      | elapse duration | setClock utc =>
          rw [← (Prod.mk.inj (Option.some.inj changed)).1]
          exact initial
      | world event =>
          rcases Option.map_eq_some_iff.mp changed with ⟨_, _, equal⟩
          rw [← (Prod.mk.inj equal).1]
          exact initial
  apply keeps.reaches (apiService_framed app initialUrl answer world) _ (.idle daemon state) reaches
  show ∀ admission ∈ daemon.admissions, _
  rw [booted.admissions]
  exact fun _ member => nomatch member

end XanhTab
