import XanhTab.Daemon.Api
import XanhTab.Invariant.Policy

/-!
# What the engine loads

Every location that the helper passes on is a web page or the home page that is
installed with it.  The scheme of a URL is checked at the HTTP interface alone;
what the helper is told to spawn has entered there, however long it has been
kept in the session or in the history of the helper.
-/

namespace XanhTab

open Program Contract Transition

/-- A location that may be loaded. -/
def Loadable (args : Args) (location : Url) : Prop :=
  location.scheme = "http" ∨ location.scheme = "https" ∨ args.internalHome = some location

theorem loadable_of_validated {args : Args} {url location : Url}
    (validated : validateNavigationUrl url = .ok ())
    (resolved : resolveLocation args url = .ok location) : Loadable args location := by
  unfold resolveLocation at resolved
  by_cases external : url.scheme ≠ "xanhtab"
  · rw [if_pos external] at resolved
    obtain rfl := Except.ok.inj resolved
    unfold validateNavigationUrl at validated
    split at validated
    · rename_i scheme
      rcases scheme with http | https | internal
      · exact Or.inl http
      · exact Or.inr (Or.inl https)
      · exact absurd internal external
    · cases validated
  · rw [if_neg external] at resolved
    split at resolved
    · cases resolved
    · split at resolved
      · cases resolved
      · rename_i home present
        obtain rfl := Except.ok.inj resolved
        exact Or.inr (Or.inr present)

/-! ## What the helper is running -/

namespace Pipeline

variable {args : Args} {launch : Except String Unit} {command : BrowserCommand}
  {before after : Pipeline} {told : Option Url} {result : Except String Unit}

theorem child_of_spawn {url : Url} (stopped : before.child = none)
    (spawned : before.spawn args launch url = (result, after)) (child : Child)
    (running : after.child = some child) : resolveLocation args url = .ok child.location := by
  rcases spawn_cases args launch url before with ⟨error, failed⟩ | ⟨location, resolved, launched⟩
  · rw [failed] at spawned
    rw [← (Prod.mk.inj spawned).2, stopped] at running
    cases running
  · rw [launched] at spawned
    rw [← (Prod.mk.inj spawned).2] at running
    obtain rfl := Option.some.inj running
    exact resolved

/-- A pipeline that runs after a command ran before it, or shows the URL that
the command was told to spawn. -/
theorem child_after (applied : before.apply args launch command = (told, result, after))
    (child : Child) (running : after.child = some child) :
    before.child = some child ∨
      ∃ url, told = some url ∧ resolveLocation args url = .ok child.location := by
  cases command with
  | start sessionId url profile egress =>
      rcases Prod.mk.inj applied with ⟨rfl, spawned⟩
      exact Or.inr ⟨url, rfl, child_of_spawn rfl spawned child running⟩
  | navigate navigation =>
      have kept : (before.select navigation).2.child = before.child ∨
          (before.select navigation).2.child = none := by
        cases navigation with
        | navigate url => exact Or.inl rfl
        | back =>
            unfold select
            by_cases moves : 0 < before.position
            · rw [if_pos moves]
              exact Or.inl rfl
            · rw [if_neg moves]
              exact Or.inl rfl
        | forward =>
            unfold select
            by_cases moves : before.position + 1 < before.history.length
            · rw [if_pos moves]
              exact Or.inl rfl
            · rw [if_neg moves]
              exact Or.inl rfl
        | reload => exact Or.inl rfl
        | stop => exact Or.inr rfl
      rcases selected : before.select navigation with ⟨_ | url, moved⟩
      · simp only [apply, selected, Prod.mk.injEq] at applied
        rcases applied with ⟨_, _, rfl⟩
        rw [selected] at kept
        rcases kept with same | stopped
        · exact Or.inl (same.symm.trans running)
        · rw [stopped] at running
          cases running
      · simp only [apply, selected, Prod.mk.injEq] at applied
        exact Or.inr ⟨url, applied.1.symm, child_of_spawn rfl applied.2 child running⟩
  | stop =>
      rcases Prod.mk.inj applied with ⟨_, rest⟩
      rw [← (Prod.mk.inj rest).2] at running
      cases running

end Pipeline

namespace Helper

variable {args : Args} {before after : Helper}

/-- The pipeline that is running was spawned from a URL that the helper was told. -/
def Traced (args : Args) (helper : Helper) : Prop :=
  ∀ child, helper.pipeline.child = some child →
    ∃ spawn ∈ helper.spawned, resolveLocation args spawn.url = .ok child.location

/-- What a request does to the helper, whatever becomes of it. -/
structure Notes (args : Args) (before after : Helper) : Prop where
  grows : after.spawned = before.spawned ∨ ∃ spawn, after.spawned = before.spawned ++ [spawn]
  traced : before.Traced args → after.Traced args

theorem Notes.refl (args : Args) (helper : Helper) : Notes args helper helper :=
  ⟨Or.inl rfl, id⟩

theorem notes_of_handle (handling : Handling) (command : BrowserCommand) :
    Notes args before (before.handle args handling command).2 := by
  cases handling with
  | expires => exact ⟨Or.inl rfl, fun _ child running => nomatch running⟩
  | completes launch =>
      rcases applied : before.pipeline.apply args launch command with ⟨told, result, pipeline⟩
      have after : (before.handle args (.completes launch) command).2 = ⟨pipeline,
          before.spawned ++ (told.map fun url => ⟨command, url⟩).toList⟩ := by
        simp only [handle, applied]
        cases result <;> rfl
      rw [after]
      constructor
      · cases told with
        | none => exact Or.inl (List.append_nil _)
        | some url => exact Or.inr ⟨⟨command, url⟩, rfl⟩
      · intro traced child running
        rcases Pipeline.child_after applied child running with old | ⟨url, rfl, resolved⟩
        · rcases traced child old with ⟨spawn, member, resolved⟩
          exact ⟨spawn, List.mem_append_left _ member, resolved⟩
        · exact ⟨⟨command, url⟩, List.mem_append_right _ (List.mem_singleton_self _), resolved⟩

theorem notes_of_request (exchange : Exchange) (command : BrowserCommand) :
    Notes args before (before.request args exchange command).2 := by
  cases exchange with
  | answered handling | unheard handling _ => exact notes_of_handle handling command
  | unserved _ => exact .refl args before

theorem notes_of_answer {request : Call} {exchange : Exchange} {reply : request.Reply}
    (answered : answer args request exchange before = some (reply, after)) :
    Notes args before after := by
  cases request with
  | browserStart | browserStop | browserNavigate =>
      obtain rfl := congrArg Prod.snd (Option.some.inj answered)
      exact notes_of_request exchange _
  | egressApply | egressReset | clearRuntimeDir | writePairingFile =>
      cases answered
      exact .refl args before

end Helper

theorem notes_of_step {app : AppState} {initialUrl : Url} {args : Args}
    {config config' : Config Daemon Call Call.Reply Response Helper}
    {label : Pool.Label ApiOperation Request (Environment Empty) Exchange}
    (step : (app.apiService initialUrl (Helper.answer args) AppState.still).step config label =
      some config') : Helper.Notes args config.world config'.world := by
  apply Pool.world_of_step ?_ ?_ ?_ step
  · exact Helper.Notes.refl args
  · exact fun _ _ _ _ _ answered => Helper.notes_of_answer answered
  · intro event memory helper memory' helper' changed
    cases event with
    | elapse duration | setClock utc =>
        cases changed
        exact .refl args helper
    | world event => exact event.elim

theorem traced_of_reaches {app : AppState} {initialUrl : Url} {args : Args} {daemon : Daemon}
    {config : Config Daemon Call Call.Reply Response Helper}
    (reaches : (app.apiService initialUrl (Helper.answer args) AppState.still).Reaches
      (.idle daemon {}) config) : config.world.Traced args := by
  induction reaches with
  | refl =>
      intro child impossible
      cases impossible
  | tail _ _ step ih => exact (notes_of_step step).traced ih

/-- A URL that the helper is told to spawn has been admitted. -/
theorem admitted_of_step {app : AppState} {initialUrl : Url} {args : Args} {daemon : Daemon}
    {config config' : Config Daemon Call Call.Reply Response Helper}
    {label : Pool.Label ApiOperation Request (Environment Empty) Exchange} {spawn : Spawn}
    (booted : app.Booted daemon)
    (reaches : (app.apiService initialUrl (Helper.answer args) AppState.still).Reaches
      (.idle daemon {}) config)
    (step : (app.apiService initialUrl (Helper.answer args) AppState.still).step config label =
      some config')
    (told : config'.world.spawned = config.world.spawned ++ [spawn]) :
    config.memory.Admitted spawn.url := by
  have established : (policyContract app.sessions).Established
      (app.apiService initialUrl (Helper.answer args) AppState.still) :=
    established_apiService (policyContract.established app args) (fun _ _ _ _ _ => trivial)
      fun _ _ _ _ _ _ _ _ _ => trivial
  rcases established.moves (policyContract.holds_of_booted args booted) (fun _ _ => trivial)
      (Pool.reachesUnder_free _ reaches) (Assumptions.free_allowed config label) step with
    relied | covered | ⟨_, same⟩
  · rw [relied.2.2] at told
    simp at told
  · exact (covered spawn told).admitted
  · rw [same] at told
    simp at told

/-! ## The result -/

/-- In every run of the service, every location that the helper was told to load
and every location that it is loading may be loaded. -/
theorem loadable_of_reaches {app : AppState} {initialUrl : Url} {args : Args} {daemon : Daemon}
    {config : Config Daemon Call Call.Reply Response Helper} (booted : app.Booted daemon)
    (reaches : (app.apiService initialUrl (Helper.answer args) AppState.still).Reaches
      (.idle daemon {}) config) :
    (∀ spawn ∈ config.world.spawned, ∀ location,
      resolveLocation args spawn.url = .ok location → Loadable args location) ∧
    ∀ child, config.world.pipeline.child = some child → Loadable args child.location := by
  have told : ∀ spawn ∈ config.world.spawned, ∀ location,
      resolveLocation args spawn.url = .ok location → Loadable args location := by
    intro spawn member location resolved
    rcases List.append_of_mem member with ⟨earlier, later, split⟩
    rcases Reachable.appended (fun config => config.world.spawned) rfl
        (fun _ _ _ step => (notes_of_step step).grows) reaches split with
      ⟨before, label, after, reached, step, _, same, grown⟩
    rw [← same] at grown
    rcases admitted_of_step booted reached step grown with ⟨admission, admitted, equal⟩
    have validated := validated_of_reaches booted reached admission admitted
    rw [equal] at validated
    exact loadable_of_validated validated resolved
  constructor
  · exact told
  · intro child running
    rcases traced_of_reaches reaches child running with ⟨spawn, member, resolved⟩
    exact told spawn member _ resolved

namespace Sample

def homeArgs : Args :=
  { internalHome := some { scheme := "file", path := "/usr/share/xanhtab/web/internal-home.html" } }

/-- The configured URL, under which a session is started. -/
def homeUrl : Url :=
  { scheme := "xanhtab", host := some "home" }

/-- The first client pairs, starts a session at the home page, asks for a local
file, and navigates to a web page. -/
def fileRequest : List (Pool.Label ApiOperation Request (Environment Empty) Exchange) :=
  [.spawn (.exchangePairing (Encoding.urlSafeNoPad (bytes 0))), .stepTask 0 none,
    .start (.startSession ⟨0, 1⟩ none)] ++
    List.replicate 8 (.step (some launched)) ++
    [.finish, .start (.navigate ⟨0, 1⟩ 1 (.navigate { scheme := "file", path := "/etc/shadow" })),
      .finish, .start (.navigate ⟨0, 1⟩ 1 (.navigate (url "example.org")))] ++
    List.replicate 4 (.step (some launched))

end Sample

/-- The home page is loaded first and a web page then; the file never is. -/
theorem loadable_of_fileRequest :
    ∃ config : Config Daemon Call Call.Reply Response Helper,
      config.world.spawned.map Spawn.url = [Sample.homeUrl, Sample.url "example.org"] ∧
        ∀ child, config.world.pipeline.child = some child →
          Loadable Sample.homeArgs child.location := by
  have executed : ((run (Sample.app.apiService Sample.homeUrl (Helper.answer Sample.homeArgs)
      AppState.still).step (.idle Sample.daemon {}) Sample.fileRequest).map fun config =>
        config.world.spawned.map Spawn.url) =
      some [Sample.homeUrl, Sample.url "example.org"] := by
    decide +kernel
  rcases Option.map_eq_some_iff.mp executed with ⟨config, reached, spawned⟩
  exact ⟨config, spawned,
    (loadable_of_reaches Sample.daemon_booted (reachable_of_run reached)).2⟩

end XanhTab
