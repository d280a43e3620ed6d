import XanhTab.Daemon.Api

/-!
# The settings endpoints

The handlers of `api.rs` for the settings of a session, from the point at which
the request is authenticated.  They check the session that the path names in a
section of its own and take no mutex, unlike the handlers that lead to a
lifecycle operation.
-/

namespace XanhTab

open Program

/-- A request that does not take the lifecycle mutex, the settings endpoints
included. -/
inductive ApiRequest
  | direct (request : Request)
  | setStreamProfile (context : AuthContext) (id : Uuid) (profile : StreamProfile)
  | setBlocklist (context : AuthContext) (id : Uuid) (enabled : Bool)
  | setAutoBurn (context : AuthContext) (id : Uuid) (seconds : Nat)

namespace AppState

/-- `require_session_id` of `api.rs`, and what the handler does next. -/
def forSession (id : Uuid) (setting : Routine (Except AppError SessionSnapshot)) :
    Routine Response := do
  return .snapshot (← (requireSessionId id).andThen fun _ => setting)

def apiSetStreamProfile (context : AuthContext) (id : Uuid) (profile : StreamProfile) :
    Routine Response :=
  forSession id (SessionManager.setStreamProfile context.clientId profile)

def apiSetBlocklist (context : AuthContext) (id : Uuid) (enabled : Bool) : Routine Response :=
  forSession id (SessionManager.setBlocklistEnabled context.clientId enabled)

def apiSetAutoBurn (context : AuthContext) (id : Uuid) (seconds : Nat) : Routine Response :=
  forSession id (SessionManager.setAutoBurnSeconds context.clientId seconds)

variable (app : AppState) (initialUrl : Url)

def apiRequest : ApiRequest → Routine Response
  | .direct request => app.request request
  | .setStreamProfile context id profile => apiSetStreamProfile context id profile
  | .setBlocklist context id enabled => apiSetBlocklist context id enabled
  | .setAutoBurn context id seconds => apiSetAutoBurn context id seconds

variable {W O N : Type}

/-- The service with all its session endpoints. -/
def endpointService (answer : Answer Call Call.Reply W O) (world : N → Daemon → W → Option W) :
    Pool Daemon Call Call.Reply Response W O ApiOperation ApiRequest (Environment N) where
  answer := answer
  operation := app.api initialUrl
  task := app.apiRequest
  noise := environment world

end AppState

/-! ## What the endpoints can change -/

theorem forSession_local (id : Uuid) {setting : Routine (Except AppError SessionSnapshot)}
    (bounded : setting.Local RequestStep) : (AppState.forSession id setting).Local RequestStep := by
  apply Local.bind
  · exact Local.andThen (read_local _) fun _ => bounded
  · exact fun _ => trivial

theorem apiRequest_local (app : AppState) (request : ApiRequest) :
    (app.apiRequest request).Local RequestStep := by
  cases request with
  | direct request => exact request_local app request
  | setStreamProfile context id profile =>
      apply forSession_local
      exact changeSetting_local _ _ _ fun data activity active =>
        .change profile _ _ activity active
  | setBlocklist context id enabled =>
      apply forSession_local
      exact changeSetting_local _ _ _ fun data activity active =>
        .change _ enabled _ activity active
  | setAutoBurn context id seconds =>
      apply forSession_local
      unfold SessionManager.setAutoBurnSeconds
      split
      · trivial
      · exact changeSetting_local _ _ _ fun data activity active =>
          .change _ _ seconds activity active

theorem endpointService_framed (app : AppState) (initialUrl : Url) {W O N : Type}
    (answer : Answer Call Call.Reply W O) (world : N → Daemon → W → Option W) :
    (app.endpointService initialUrl answer world).Framed AdmitsValidated RequestStep where
  operation := (apiService_framed app initialUrl answer world).operation
  task := apiRequest_local app

end XanhTab
