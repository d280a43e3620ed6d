import XanhTab.Browser.Helper

/-!
# Sessions of the browser helper

The lines that the helper is sent, one connection after the other, and the
session that a launched pipeline belongs to.  A start replaces everything that
the helper knows of a session and a deadline resets it, but a stop only ends
the process, and a navigation does not ask whether there is a session.
-/

namespace XanhTab

open Transition

/-- What comes of a connection.  No line may be read before the deadline, and
the line that is read may be no command. -/
inductive Line
  | unread
  | malformed (error : String)
  | command (handling : Handling) (command : BrowserCommand)

/-- What a start says about its session. -/
structure Settings where
  sessionId : Uuid
  profile : StreamProfile
  egress : EgressMode
  deriving DecidableEq, Repr

/-- Whether there is a session, by the commands alone.  There is none after
start-up and after a deadline. -/
inductive Standing
  | absent
  | started (settings : Settings)
  | stopped
  deriving DecidableEq, Repr

def Standing.isStarted : Standing → Bool
  | started _ => true
  | _ => false

def Standing.after (standing : Standing) : Line → Standing
  | .command .expires _ => .absent
  | .command (.completes _) (.start sessionId _ profile egress) =>
      .started ⟨sessionId, profile, egress⟩
  | .command (.completes _) .stop => .stopped
  | _ => standing

/-- A pipeline that was launched, with the session of the `Pipeline` and the
standing at that time. -/
structure Launch where
  sessionId : Option Uuid
  child : Child
  standing : Standing
  deriving DecidableEq, Repr

namespace Helper

/-- `handle`, with the response if there is one. -/
def handleLine (args : Args) (line : Line) (helper : Helper) : Option BrowserResponse × Helper :=
  match line with
  | .unread => (none, helper)
  | .malformed error => (some ⟨false, "invalid browser command: " ++ error⟩, helper)
  | .command handling command =>
      (some (helper.handle args handling command).1, (helper.handle args handling command).2)

/-- The pipeline that the line launches, if `spawn` gets that far. -/
def launched (args : Args) (line : Line) (helper : Helper) : Option (Option Uuid × Child) :=
  match line with
  | .command (.completes launch) command =>
      match helper.pipeline.apply args launch command with
      | (some _, .ok (), pipeline) => pipeline.child.map fun child => (pipeline.sessionId, child)
      | _ => none
  | _ => none

end Helper

/-- The helper with every pipeline that it ever launched, oldest first. -/
structure HelperRun where
  helper : Helper := {}
  standing : Standing := .absent
  launches : List Launch := []
  deriving DecidableEq, Repr

/-- The helper serves one more connection. -/
def HelperRun.next (args : Args) : Step HelperRun Line
  | state, line =>
      some
        { helper := (state.helper.handleLine args line).2
          standing := state.standing.after line
          launches := state.launches ++ ((state.helper.launched args line).map fun launched =>
            ⟨launched.1, launched.2, state.standing.after line⟩).toList }

/-! ## What is launched -/

namespace Launch

/-- The pipeline was launched within a session, with the settings of its start. -/
def Belongs (launch : Launch) : Prop :=
  ∃ settings, launch.standing = .started settings ∧ launch.sessionId = some settings.sessionId ∧
    launch.child.profile = settings.profile ∧ launch.child.egress = settings.egress

end Launch

/-- Every pipeline was launched for the session started last, and a stopped one
is forgotten. -/
structure Faithful (state : HelperRun) : Prop where
  launches : ∀ launch ∈ state.launches, launch.Belongs
  forgotten : state.standing = .stopped → state.helper.pipeline.history = []

/-- No session is stopped, and there is no explicit navigation without one. -/
def Standing.orderly (standing : Standing) : Line → Bool
  | .command (.completes _) .stop => !standing.isStarted
  | .command (.completes _) (.navigate (.navigate _)) => standing.isStarted
  | _ => true

/-- The runs in which every line is in order. -/
def HelperRun.Orderly (state : HelperRun) (line : Line) : Prop :=
  state.standing.orderly line = true

namespace Pipeline

/-- The pipeline has the settings. -/
structure Holds (settings : Settings) (pipeline : Pipeline) : Prop where
  sessionId : pipeline.sessionId = some settings.sessionId
  profile : pipeline.profile = settings.profile
  egress : pipeline.egress = settings.egress

variable {args : Args} {launch : Except String Unit} {url : Url} {pipeline : Pipeline}

/-- What a command that succeeds was told to spawn is what it launched. -/
theorem child_of_apply {command : BrowserCommand} {after : Pipeline}
    (applied : pipeline.apply args launch command = (some url, .ok (), after)) :
    ∃ location, resolveLocation args url = .ok location ∧
      after.child = some ⟨location, after.profile, after.egress⟩ := by
  have spawned : ∀ (before : Pipeline) (target : Url),
      (some target, before.spawn args launch target) = (some url, .ok (), after) →
      ∃ location, resolveLocation args url = .ok location ∧
        after.child = some ⟨location, after.profile, after.egress⟩ := by
    intro before target equal
    rcases Prod.mk.inj equal with ⟨same, result⟩
    obtain rfl := Option.some.inj same
    rcases spawn_cases args launch target before with ⟨error, failed⟩ | ⟨location, resolved, launched⟩
    · rw [failed] at result
      cases result
    · rw [launched] at result
      rw [← (Prod.mk.inj result).2]
      exact ⟨location, resolved, rfl⟩
  cases command with
  | start sessionId target profile egress => exact spawned _ _ applied
  | navigate navigation =>
      simp only [apply] at applied
      split at applied
      · cases applied
      · exact spawned _ _ applied
  | stop => cases applied

end Pipeline

namespace Helper

variable {args : Args} {helper : Helper}

theorem handle_completes (launch : Except String Unit) (command : BrowserCommand) :
    (helper.handle args (.completes launch) command).2.pipeline =
      (helper.pipeline.apply args launch command).2.2 := by
  rcases applied : helper.pipeline.apply args launch command with ⟨told, outcome, pipeline⟩
  simp only [handle, applied]
  cases outcome with
  | error error => rfl
  | ok _ => rfl

/-- What is launched is what a command was told to spawn, under the settings of
the `Pipeline`. -/
theorem apply_of_launched {line : Line} {sessionId : Option Uuid} {child : Child}
    (launched : helper.launched args line = some (sessionId, child)) :
    ∃ launch command url after, line = .command (.completes launch) command ∧
      helper.pipeline.apply args launch command = (some url, .ok (), after) ∧
      after.sessionId = sessionId ∧ after.profile = child.profile ∧
      after.egress = child.egress ∧ resolveLocation args url = .ok child.location := by
  rcases line with _ | error | ⟨launch | _, command⟩
  · cases launched
  · cases launched
  · simp only [Helper.launched] at launched
    rcases applied : helper.pipeline.apply args launch command with ⟨_ | url, _ | _, after⟩ <;>
      rw [applied] at launched
    · cases launched
    · cases launched
    · cases launched
    · rcases Pipeline.child_of_apply applied with ⟨location, resolved, running⟩
      simp only [running, Option.map_some, Option.some.injEq, Prod.mk.injEq] at launched
      rcases launched with ⟨same, rfl⟩
      exact ⟨launch, command, url, after, rfl, applied, same, rfl, rfl, resolved⟩
  · cases launched

end Helper

/-! ## The invariant -/

/-- The `Pipeline` has the settings of the session, and knows no URL if there is
none. -/
structure Standing.Describes (standing : Standing) (pipeline : Pipeline) : Prop where
  ranged : pipeline.Ranged
  holds : ∀ settings, standing = .started settings → pipeline.Holds settings
  unknown : standing.isStarted = false → pipeline.history = []

namespace Standing.Describes

variable {standing : Standing} {args : Args} {launch : Except String Unit}
  {before after : Pipeline} {told : Option Url}

theorem absent : Standing.absent.Describes {} where
  ranged := Or.inl ⟨rfl, rfl⟩
  holds _ impossible := nomatch impossible
  unknown _ := rfl

/-- A start begins a session with its settings. -/
theorem start {sessionId : Uuid} {url : Url} {profile : StreamProfile} {egress : EgressMode}
    (applied : Pipeline.Applied (.start sessionId url profile egress) before told after) :
    (Standing.started ⟨sessionId, profile, egress⟩).Describes after where
  ranged := applied.ranged
  holds := by
    rintro settings ⟨⟩
    rcases applied.started sessionId url profile egress rfl with ⟨sameId, sameProfile, sameEgress⟩
    exact ⟨sameId, sameProfile, sameEgress⟩
  unknown impossible := nomatch impossible

/-- A command that starts no session keeps the settings.  If it names no URL
then none becomes known. -/
theorem keep {command : BrowserCommand} (describes : standing.Describes before)
    (applied : Pipeline.Applied command before told after) (other : command.isStart = false)
    (unnamed : standing.isStarted = false → command.urls = []) :
    standing.Describes after where
  ranged := applied.ranged
  holds settings started := by
    rcases applied.kept other with ⟨sameId, sameProfile, sameEgress⟩
    rcases describes.holds settings started with ⟨holdsId, holdsProfile, holdsEgress⟩
    constructor
    · rw [sameId, holdsId]
    · rw [sameProfile, holdsProfile]
    · rw [sameEgress, holdsEgress]
  unknown free := by
    apply List.eq_nil_iff_forall_not_mem.mpr
    intro url member
    rcases applied.history url member with old | new
    · rw [describes.unknown free] at old
      cases old
    · rw [unnamed free] at new
      cases new

/-- Without a session nothing is spawned, unless the command names a URL. -/
theorem told_eq_none {command : BrowserCommand} (describes : standing.Describes before)
    (applied : Pipeline.Applied command before told after)
    (free : standing.isStarted = false) (unnamed : command.urls = []) :
    told = none := by
  cases told with
  | none => rfl
  | some url =>
      rcases (applied.target url rfl).2 with named | ⟨_, known⟩
      · rw [unnamed] at named
        cases named
      · rw [describes.unknown free] at known
        cases known

/-- What one line does, if it is in order. -/
theorem line (args : Args) {helper : Helper} {line : Line} (describes : standing.Describes helper.pipeline)
    (orderly : standing.orderly line = true) :
    (standing.after line).Describes (helper.handleLine args line).2.pipeline := by
  rcases line with _ | error | ⟨launch | _, command⟩
  · exact describes
  · exact describes
  · have applied := Pipeline.applied_of_apply args launch command describes.ranged
    simp only [Helper.handleLine, Helper.handle_completes]
    cases command with
    | start sessionId url profile egress => exact .start applied
    | navigate navigation =>
        apply describes.keep applied rfl
        intro free
        cases navigation with
        | navigate url =>
            rw [show standing.isStarted = true from orderly] at free
            cases free
        | back | forward | reload | stop => rfl
    | stop =>
        have kept := describes.keep applied rfl fun _ => rfl
        constructor
        · exact kept.ranged
        · exact fun _ impossible => nomatch impossible
        · exact fun _ => kept.unknown (by simpa [Standing.orderly] using orderly)
  · exact absent

/-- What is launched by a line that is in order belongs to the session. -/
theorem belongs {helper : Helper} {line : Line} {sessionId : Option Uuid} {child : Child}
    (describes : standing.Describes helper.pipeline)
    (orderly : standing.orderly line = true)
    (launched : helper.launched args line = some (sessionId, child)) :
    Launch.Belongs ⟨sessionId, child, standing.after line⟩ := by
  have after := describes.line args orderly
  rcases Helper.apply_of_launched launched with
    ⟨launch, command, url, pipeline, rfl, result, rfl, profile, egress, _⟩
  have applied := Pipeline.applied_of_apply args launch command describes.ranged
  simp only [Helper.handleLine, Helper.handle_completes, result] at after applied
  cases reached : standing.after (.command (.completes launch) command) with
  | started settings =>
      rcases after.holds settings reached with ⟨sameId, sameProfile, sameEgress⟩
      exact ⟨settings, rfl, sameId, profile.symm.trans sameProfile, egress.symm.trans sameEgress⟩
  | absent | stopped =>
      cases command with
      | start sessionId url profile egress => cases reached
      | navigate navigation =>
          have same : standing = _ := reached
          have free : standing.isStarted = false := by
            rw [same]
            rfl
          have unnamed : (BrowserCommand.navigate navigation).urls = [] := by
            cases navigation with
            | navigate url =>
                rw [show standing.isStarted = true from orderly] at free
                cases free
            | back | forward | reload | stop => rfl
          exact nomatch describes.told_eq_none applied free unnamed
      | stop => cases result

end Standing.Describes

/-! ## The result -/

/-- In every run whose lines are in order, every pipeline was launched for the
session started last, and a stopped session is forgotten. -/
theorem faithful_of_reaches {args : Args} {state : HelperRun}
    (reaches : ReachableUnder (HelperRun.next args) HelperRun.Orderly {} state) : Faithful state := by
  have both : state.standing.Describes state.helper.pipeline ∧
      ∀ launch ∈ state.launches, launch.Belongs := by
    induction reaches with
    | refl =>
        constructor
        · exact .absent
        · exact fun _ member => nomatch member
    | @tail before after line _ orderly step ih =>
        obtain rfl := Option.some.inj step
        rcases ih with ⟨describes, belong⟩
        constructor
        · exact describes.line args orderly
        · intro launch member
          rcases List.mem_append.mp member with old | new
          · exact belong launch old
          · rcases Option.map_eq_some_iff.mp (Option.mem_toList.mp new) with
              ⟨⟨sessionId, child⟩, launched, rfl⟩
            exact describes.belongs orderly launched
  constructor
  · exact both.2
  · intro stopped
    apply both.1.unknown
    rw [stopped]
    rfl

namespace Sample

def page : Url :=
  { scheme := "https", host := some "example.com", path := "/" }

/-- The helper is told to start a session and gets as far as launching it. -/
def startsSession (sessionId : Uuid) (profile : StreamProfile) (egress : EgressMode) : Line :=
  .command (.completes (.ok ())) (.start sessionId page profile egress)

def reloadsPage : Line :=
  .command (.completes (.ok ())) (.navigate .reload)

/-- A session is stopped, and the stopped page is reloaded. -/
def stopReload : List Line :=
  [startsSession 1 .hd15 .tor, .command (.completes (.ok ())) .stop, reloadsPage]

/-- A reload runs into the deadline, and the next one finds no session. -/
def expiredReload : List Line :=
  [startsSession 1 .hd15 .tor, .command .expires (.navigate .reload), reloadsPage,
    startsSession 2 .sd10 .warp, reloadsPage]

end Sample

/-- The page of a stopped session is launched again, with its settings. -/
theorem not_faithful_of_stopReload :
    ¬ ∀ state, Reachable (HelperRun.next Sample.args) {} state → Faithful state := by
  intro always
  have executed : (run (HelperRun.next Sample.args) {} Sample.stopReload).map (fun state =>
      state.launches.map Launch.standing) =
      some [.started ⟨1, .hd15, .tor⟩, .stopped] := by
    decide +kernel
  rcases Option.map_eq_some_iff.mp executed with ⟨state, reached, launches⟩
  have stopped : Standing.stopped ∈ state.launches.map Launch.standing := by
    rw [launches]
    exact List.mem_cons_of_mem _ (List.mem_singleton_self _)
  rcases List.mem_map.mp stopped with ⟨launch, member, standing⟩
  rcases (always state (reachable_of_run reached)).launches launch member with
    ⟨settings, started, _⟩
  rw [standing] at started
  cases started

theorem faithful_of_expiredReload :
    ∃ state : HelperRun, state.launches.length = 3 ∧ Faithful state := by
  have executed : (run (guarded (HelperRun.next Sample.args) fun state line =>
      state.standing.orderly line) {} Sample.expiredReload).map (fun state =>
        state.launches.length) = some 3 := by
    decide +kernel
  rcases Option.map_eq_some_iff.mp executed with ⟨state, reached, launches⟩
  exact ⟨state, launches, faithful_of_reaches (reachableUnder_of_run (fun _ _ => id) reached)⟩

end XanhTab
