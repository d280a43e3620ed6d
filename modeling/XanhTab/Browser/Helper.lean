import XanhTab.Daemon.Model
import XanhTab.Program.Pool

/-!
# The browser helper

`Pipeline` and the command handler of `xanhtab-browser.rs`, with the requests
that `SocketBrowser` of `browser.rs` makes to it.  The helper serves one
connection at a time, in the order in which they are made; a request that the
daemon has given up is served before the next one, or never.
-/

namespace XanhTab

inductive BrowserCommand
  | start (sessionId : Uuid) (url : Url) (streamProfile : StreamProfile) (egress : EgressMode)
  | navigate (navigation : NavigationCommand)
  | stop
  deriving DecidableEq, Repr

/-- The URLs that a command names. -/
def BrowserCommand.urls : BrowserCommand → List Url
  | start _ url _ _ => [url]
  | navigate (.navigate url) => [url]
  | _ => []

def BrowserCommand.isStart : BrowserCommand → Bool
  | start .. => true
  | _ => false

structure BrowserResponse where
  ok : Bool
  detail : String
  deriving DecidableEq, Repr

/-- What `spawn` uses of the arguments of the helper.  The internal home page is
absent if its path is not absolute. -/
structure Args where
  internalHome : Option Url
  signalingIsLoopback : Bool := true

/-- A GStreamer pipeline that has been launched. -/
structure Child where
  location : Url
  profile : StreamProfile
  egress : EgressMode
  deriving DecidableEq, Repr

structure Pipeline where
  child : Option Child := none
  sessionId : Option Uuid := none
  profile : StreamProfile := .fullHd30
  egress : EgressMode := .direct
  history : List Url := []
  position : Nat := 0
  deriving DecidableEq, Repr

def resolveLocation (args : Args) (url : Url) : Except String Url :=
  if url.scheme ≠ "xanhtab" then .ok url
  else if url.host ≠ some "home" then .error "unsupported internal XanhTab route"
  else
    match args.internalHome with
    | none => .error "internal home path must be absolute"
    | some home => .ok home

/-- The checks of `pipeline_args`. -/
def checkPipelineArgs (args : Args) (location : Url) : Except String Unit :=
  if location.scheme ∉ ["http", "https", "file"] then .error "unsupported browser URL scheme"
  else if args.signalingIsLoopback then .ok ()
  else .error "embedded signaling server must bind a loopback host and non-zero port"

namespace Pipeline

def stop (pipeline : Pipeline) : Pipeline :=
  { pipeline with child := none }

/-- The proxy is looked up and the process launched as `launch` says. -/
def spawn (args : Args) (launch : Except String Unit) (url : Url) (pipeline : Pipeline) :
    Except String Unit × Pipeline :=
  match resolveLocation args url with
  | .error error => (.error error, pipeline)
  | .ok location =>
      match checkPipelineArgs args location with
      | .error error => (.error error, pipeline)
      | .ok () =>
          match launch with
          | .error error => (.error error, pipeline)
          | .ok () =>
              (.ok (),
                { pipeline with child := some ⟨location, pipeline.profile, pipeline.egress⟩ })

/-- The URL that a navigation selects, with history and position moved to it. -/
def select (navigation : NavigationCommand) (pipeline : Pipeline) : Option Url × Pipeline :=
  match navigation with
  | .navigate url =>
      let history := pipeline.history.take (pipeline.position + 1) ++ [url]
      (some url, { pipeline with history, position := history.length - 1 })
  | .back =>
      if 0 < pipeline.position then
        (pipeline.history[pipeline.position - 1]?,
          { pipeline with position := pipeline.position - 1 })
      else (none, pipeline)
  | .forward =>
      if pipeline.position + 1 < pipeline.history.length then
        (pipeline.history[pipeline.position + 1]?,
          { pipeline with position := pipeline.position + 1 })
      else (none, pipeline)
  | .reload => (pipeline.history[pipeline.position]?, pipeline)
  | .stop => (none, pipeline.stop)

/-- The pipeline of a session that is being started. -/
def started (pipeline : Pipeline) (sessionId : Uuid) (url : Url) (profile : StreamProfile)
    (egress : EgressMode) : Pipeline :=
  { pipeline.stop with sessionId := some sessionId, profile, egress, history := [url]
                       position := 0 }

/-- `Pipeline::apply`, with the URL that it was told to spawn. -/
def apply (args : Args) (launch : Except String Unit) (command : BrowserCommand)
    (pipeline : Pipeline) : Option Url × Except String Unit × Pipeline :=
  match command with
  | .start sessionId url profile egress =>
      (some url, (pipeline.started sessionId url profile egress).spawn args launch url)
  | .navigate navigation =>
      match pipeline.select navigation with
      | (none, pipeline) => (none, .ok (), pipeline)
      | (some url, pipeline) => (some url, pipeline.stop.spawn args launch url)
  | .stop => (none, .ok (), pipeline.stop)

end Pipeline

/-- A URL that the helper was told to spawn, and the command that told it so. -/
structure Spawn where
  command : BrowserCommand
  url : Url
  deriving DecidableEq, Repr

/-- The helper with everything it was ever told to spawn, oldest first. -/
structure Helper where
  pipeline : Pipeline := {}
  spawned : List Spawn := []
  deriving DecidableEq, Repr

/-- How the helper gets through a command before its deadline, or does not. -/
inductive Handling
  | completes (launch : Except String Unit)
  | expires

/-- How a request goes: the reply is read, the command is handled but the reply
is not read, or the command is never handled. -/
inductive Exchange
  | answered (handling : Handling)
  | unheard (handling : Handling) (error : AppError)
  | unserved (error : AppError)

namespace Helper

/-- `handle`, which resets the pipeline at its deadline. -/
def handle (args : Args) (handling : Handling) (command : BrowserCommand) (helper : Helper) :
    BrowserResponse × Helper :=
  match handling with
  | .expires => (⟨false, "browser command timed out"⟩, { helper with pipeline := {} })
  | .completes launch =>
      let applied := helper.pipeline.apply args launch command
      let spawned := helper.spawned ++ (applied.1.map fun url => ⟨command, url⟩).toList
      match applied.2 with
      | (.ok (), pipeline) => (⟨true, "browser command applied"⟩, { pipeline, spawned })
      | (.error error, pipeline) => (⟨false, error⟩, { pipeline, spawned })

/-- `SocketBrowser::request`. -/
def request (args : Args) (exchange : Exchange) (command : BrowserCommand) (helper : Helper) :
    Except AppError Unit × Helper :=
  match exchange with
  | .answered handling =>
      let handled := helper.handle args handling command
      (if handled.1.ok then .ok () else .error (.serviceUnavailable handled.1.detail), handled.2)
  | .unheard handling error => (.error error, (helper.handle args handling command).2)
  | .unserved error => (.error error, helper)

/-- The other calls of the daemon succeed or fail without the helper. -/
def other (exchange : Exchange) : Except AppError Unit :=
  match exchange with
  | .answered _ => .ok ()
  | .unheard _ error | .unserved error => .error error

/-- The helper as the world of the daemon. -/
def answer (args : Args) : Answer Call Call.Reply Helper Exchange
  | .browserStart id url profile egress, exchange, helper =>
      some (helper.request args exchange (.start id url profile egress))
  | .browserStop, exchange, helper => some (helper.request args exchange .stop)
  | .browserNavigate navigation, exchange, helper =>
      some (helper.request args exchange (.navigate navigation))
  | .egressApply _, exchange, helper | .egressReset, exchange, helper =>
      some (other exchange, helper)
  | .clearRuntimeDir, exchange, helper | .writePairingFile _, exchange, helper =>
      some ((other exchange).mapError AppError.display, helper)

end Helper

/-! ## What a command does -/

namespace Pipeline

variable {args : Args} {launch : Except String Unit} {pipeline : Pipeline}

/-- A spawn fails and changes nothing, or launches a pipeline under the settings
of the session. -/
theorem spawn_cases (args : Args) (launch : Except String Unit) (url : Url) (pipeline : Pipeline) :
    (∃ error, pipeline.spawn args launch url = (.error error, pipeline)) ∨
      ∃ location, resolveLocation args url = .ok location ∧
        pipeline.spawn args launch url = (.ok (),
          { pipeline with child := some ⟨location, pipeline.profile, pipeline.egress⟩ }) := by
  unfold spawn
  split
  · exact Or.inl ⟨_, rfl⟩
  · rename_i location resolved
    split
    · exact Or.inl ⟨_, rfl⟩
    · split
      · exact Or.inl ⟨_, rfl⟩
      · exact Or.inr ⟨location, resolved, rfl⟩

/-- A spawn changes nothing but the child. -/
theorem spawn_eq (args : Args) (launch : Except String Unit) (url : Url) (pipeline : Pipeline) :
    ∃ child, (pipeline.spawn args launch url).2 = { pipeline with child } := by
  rcases spawn_cases args launch url pipeline with ⟨error, failed⟩ | ⟨location, _, spawned⟩
  · exact ⟨pipeline.child, by rw [failed]⟩
  · exact ⟨_, by rw [spawned]⟩

/-- The position is that of an entry of the history, if there are any. -/
def Ranged (pipeline : Pipeline) : Prop :=
  (pipeline.history = [] ∧ pipeline.position = 0) ∨ pipeline.position < pipeline.history.length

/-- What a command does to a pipeline, and what it tells it to spawn. -/
structure Applied (command : BrowserCommand) (before : Pipeline) (told : Option Url)
    (after : Pipeline) : Prop where
  ranged : after.Ranged
  history : ∀ url ∈ after.history, url ∈ before.history ∨ url ∈ command.urls
  target : ∀ url, told = some url → after.history[after.position]? = some url ∧
    (url ∈ command.urls ∨ (command.urls = [] ∧ url ∈ before.history))
  quiet : told = none → command.urls = [] ∧ after.history = before.history ∧
    after.position = before.position
  kept : command.isStart = false → after.sessionId = before.sessionId ∧
    after.profile = before.profile ∧ after.egress = before.egress
  started : ∀ id url profile egress, command = .start id url profile egress →
    after.sessionId = some id ∧ after.profile = profile ∧ after.egress = egress
  reloaded : command = .navigate .reload →
    after.history[after.position]? = before.history[before.position]?

variable {command : BrowserCommand} {before after : Pipeline} {told : Option Url}

/-- The child does not matter. -/
theorem Applied.child (applied : Applied command before told after) (child : Option Child) :
    Applied command before told { after with child } where
  ranged := applied.ranged
  history := applied.history
  target := applied.target
  quiet := applied.quiet
  kept := applied.kept
  started := applied.started
  reloaded := applied.reloaded

/-- A pipeline that stays as it is. -/
theorem Applied.refl (urls : command.urls = []) (ranged : before.Ranged) :
    Applied command before none before where
  ranged := ranged
  history _ member := Or.inl member
  target _ impossible := nomatch impossible
  quiet _ := ⟨urls, rfl, rfl⟩
  kept _ := ⟨rfl, rfl, rfl⟩
  started := by
    rintro _ _ _ _ rfl
    cases urls
  reloaded _ := rfl

/-- The position moves to an entry of the history. -/
theorem Applied.moved {position : Nat} {url : Url} (urls : command.urls = [])
    (entry : before.history[position]? = some url)
    (stays : command = .navigate .reload → position = before.position) :
    Applied command before (some url) { before with position } where
  ranged := Or.inr (List.getElem?_eq_some_iff.mp entry).1
  history _ member := Or.inl member
  target := by
    rintro url ⟨⟩
    exact ⟨entry, Or.inr ⟨urls, List.mem_of_getElem? entry⟩⟩
  quiet impossible := nomatch impossible
  kept _ := ⟨rfl, rfl, rfl⟩
  started := by
    rintro _ _ _ _ rfl
    cases urls
  reloaded reload := by rw [stays reload]

theorem Applied.navigate (url : Url) (before : Pipeline) :
    Applied (.navigate (.navigate url)) before (some url)
      (before.select (.navigate url)).2 where
  ranged := by
    refine Or.inr ?_
    simp [select]
  history target member := by
    simp only [select, List.mem_append, List.mem_singleton] at member
    rcases member with old | new
    · exact Or.inl (List.mem_of_mem_take old)
    · exact Or.inr (by simp [BrowserCommand.urls, new])
  target := by
    rintro url ⟨⟩
    constructor
    · simp [select]
    · exact Or.inl (List.mem_singleton_self _)
  quiet impossible := nomatch impossible
  kept _ := ⟨rfl, rfl, rfl⟩
  started _ _ _ _ impossible := nomatch impossible
  reloaded impossible := nomatch impossible

/-- A navigation within the history. -/
theorem applied_select (navigation : NavigationCommand) (ranged : before.Ranged) :
    Applied (.navigate navigation) before (before.select navigation).1
      (before.select navigation).2 := by
  cases navigation with
  | navigate url => exact .navigate url before
  | back =>
      unfold select
      by_cases moves : 0 < before.position
      · have within : before.position - 1 < before.history.length := by
          rcases ranged with ⟨_, zero⟩ | below
          · omega
          · omega
        rw [if_pos moves, List.getElem?_eq_getElem within]
        exact .moved rfl (List.getElem?_eq_getElem within) nofun
      · rw [if_neg moves]
        exact .refl rfl ranged
  | forward =>
      unfold select
      by_cases within : before.position + 1 < before.history.length
      · rw [if_pos within, List.getElem?_eq_getElem within]
        exact .moved rfl (List.getElem?_eq_getElem within) nofun
      · rw [if_neg within]
        exact .refl rfl ranged
  | reload =>
      unfold select
      cases entry : before.history[before.position]? with
      | none => exact .refl rfl ranged
      | some url => exact .moved rfl entry fun _ => rfl
  | stop => exact (Applied.refl rfl ranged).child none

theorem applied_of_apply (args : Args) (launch : Except String Unit) (command : BrowserCommand)
    {before : Pipeline} (ranged : before.Ranged) :
    Applied command before (before.apply args launch command).1
      (before.apply args launch command).2.2 := by
  cases command with
  | start sessionId url profile egress =>
      rcases spawn_eq args launch url (before.started sessionId url profile egress) with
        ⟨child, equal⟩
      simp only [apply, equal]
      constructor
      · exact Or.inr (by simp [started])
      · exact fun _ member => Or.inr member
      · rintro url ⟨⟩
        exact ⟨rfl, Or.inl (List.mem_singleton_self _)⟩
      · nofun
      · nofun
      · rintro _ _ _ _ ⟨⟩
        exact ⟨rfl, rfl, rfl⟩
      · nofun
  | navigate navigation =>
      have applied := applied_select navigation ranged
      rcases selected : before.select navigation with ⟨_ | url, after⟩
      · rw [selected] at applied
        simp only [apply, selected]
        exact applied
      · rw [selected] at applied
        rcases spawn_eq args launch url after.stop with ⟨child, equal⟩
        simp only [apply, selected, equal]
        exact applied.child child
  | stop => exact (Applied.refl rfl ranged).child none

end Pipeline

/-! ## What a call does -/

/-- The URLs that a call names. -/
def Call.urls : Call → List Url
  | .browserStart _ url _ _ => [url]
  | .browserNavigate (.navigate url) => [url]
  | _ => []

namespace Helper

variable {args : Args} {before after : Helper}

/-- The helper has followed a command to its end. -/
def Follows (command : BrowserCommand) (before after : Helper) : Prop :=
  ∃ told, Pipeline.Applied command before.pipeline told after.pipeline ∧
    after.spawned = before.spawned ++ (told.map fun url => ⟨command, url⟩).toList

theorem follows_of_handle (launch : Except String Unit) (command : BrowserCommand)
    (ranged : before.pipeline.Ranged) :
    Follows command before (before.handle args (.completes launch) command).2 := by
  have applied := Pipeline.applied_of_apply args launch command ranged
  rcases result : before.pipeline.apply args launch command with ⟨told, outcome, pipeline⟩
  rw [result] at applied
  simp only [handle, result]
  cases outcome <;> exact ⟨told, applied, rfl⟩

/-- A request that is answered with success has been followed. -/
theorem follows_of_request {exchange : Exchange} {command : BrowserCommand}
    (ranged : before.pipeline.Ranged)
    (succeeded : (before.request args exchange command).1 = .ok ()) :
    Follows command before (before.request args exchange command).2 := by
  cases exchange with
  | answered handling =>
      cases handling with
      | completes launch => exact follows_of_handle launch command ranged
      | expires => simp [request, handle] at succeeded
  | unheard _ _ | unserved _ => cases succeeded

/-- What a call does to the helper.  It is told to spawn at most one URL, one
that the call names or one of the history. -/
structure Served (urls : List Url) (before after : Helper) : Prop where
  ranged : after.pipeline.Ranged
  history : ∀ url ∈ after.pipeline.history, url ∈ before.pipeline.history ∨ url ∈ urls
  spawned : after.spawned = before.spawned ∨ ∃ spawn,
    after.spawned = before.spawned ++ [spawn] ∧ spawn.command.urls = urls ∧
      (spawn.url ∈ urls ∨ (urls = [] ∧ spawn.url ∈ before.pipeline.history))

theorem Served.refl (urls : List Url) (ranged : before.pipeline.Ranged) :
    Served urls before before where
  ranged := ranged
  history _ member := Or.inl member
  spawned := Or.inl rfl

theorem Follows.served {command : BrowserCommand} (follows : Follows command before after) :
    Served command.urls before after := by
  rcases follows with ⟨told, applied, spawned⟩
  refine ⟨applied.ranged, applied.history, ?_⟩
  rw [spawned]
  cases told with
  | none => exact Or.inl (List.append_nil _)
  | some url => exact Or.inr ⟨⟨command, url⟩, rfl, rfl, (applied.target url rfl).2⟩

theorem served_of_handle (handling : Handling) (command : BrowserCommand)
    (ranged : before.pipeline.Ranged) :
    Served command.urls before (before.handle args handling command).2 := by
  cases handling with
  | expires => exact ⟨Or.inl ⟨rfl, rfl⟩, (fun _ member => nomatch member), Or.inl rfl⟩
  | completes launch => exact (follows_of_handle launch command ranged).served

theorem served_of_request (exchange : Exchange) (command : BrowserCommand)
    (ranged : before.pipeline.Ranged) :
    Served command.urls before (before.request args exchange command).2 := by
  cases exchange with
  | answered handling | unheard handling _ => exact served_of_handle handling command ranged
  | unserved _ => exact .refl _ ranged

theorem served_of_answer {request : Call} {exchange : Exchange} {reply : request.Reply}
    (ranged : before.pipeline.Ranged)
    (answered : answer args request exchange before = some (reply, after)) :
    Served request.urls before after := by
  cases request with
  | browserStart id url profile egress =>
      obtain rfl := congrArg Prod.snd (Option.some.inj answered)
      exact served_of_request exchange (.start id url profile egress) ranged
  | browserStop =>
      obtain rfl := congrArg Prod.snd (Option.some.inj answered)
      exact served_of_request exchange .stop ranged
  | browserNavigate navigation =>
      obtain rfl := congrArg Prod.snd (Option.some.inj answered)
      have served : Served (BrowserCommand.navigate navigation).urls before
          (before.request args exchange (.navigate navigation)).2 :=
        served_of_request exchange (.navigate navigation) ranged
      cases navigation <;> exact served
  | egressApply | egressReset | clearRuntimeDir | writePairingFile =>
      cases answered
      exact .refl _ ranged

/-- A call to the browser or for the policy is answered with success. -/
def Succeeded : (request : Call) → request.Reply → Prop
  | .browserStart .., reply | .browserStop, reply | .browserNavigate _, reply
  | .egressApply _, reply | .egressReset, reply => reply = .ok ()
  | .clearRuntimeDir, _ | .writePairingFile _, _ => True

/-- What a successful call does. -/
def Completes (request : Call) (before after : Helper) : Prop :=
  match request with
  | .browserStart id url profile egress => Follows (.start id url profile egress) before after
  | .browserStop => Follows .stop before after
  | .browserNavigate navigation => Follows (.navigate navigation) before after
  | _ => after = before

theorem completes_of_answer {request : Call} {exchange : Exchange} {reply : request.Reply}
    (ranged : before.pipeline.Ranged)
    (answered : answer args request exchange before = some (reply, after))
    (succeeded : Succeeded request reply) : Completes request before after := by
  cases request with
  | browserStart | browserStop | browserNavigate =>
      rcases Prod.mk.inj (Option.some.inj answered) with ⟨rfl, rfl⟩
      exact follows_of_request ranged succeeded
  | egressApply | egressReset | clearRuntimeDir | writePairingFile =>
      cases answered
      rfl

end Helper

namespace Sample

def args : Args :=
  { internalHome := none }

/-- The helper handles the request, and the pipeline is launched. -/
def launched : Exchange :=
  .answered (.completes (.ok ()))

end Sample

end XanhTab
