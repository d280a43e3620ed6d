import XanhTab.Browser.Helper
import XanhTab.Daemon.Api

/-!
# Navigations that fail

The helper moves its position, and for a new URL rewrites its history, before
it resolves and launches the target.  When that fails the move is not undone,
so that only a reload leaves the helper where it was.
-/

namespace XanhTab

namespace Pipeline

variable (args : Args) (launch : Except String Unit)

/-- The states that successful commands lead to. -/
inductive Succeeding : Pipeline → Prop
  | fresh : Succeeding {}
  | applied {pipeline : Pipeline} (launch : Except String Unit) (command : BrowserCommand) :
      Succeeding pipeline → (pipeline.apply args launch command).2.1 = .ok () →
      Succeeding (pipeline.apply args launch command).2.2

/-- The URL can be resolved and launched. -/
def Spawns (url : Url) : Prop :=
  ∃ location, resolveLocation args url = .ok location ∧
    checkPipelineArgs args location = .ok () ∧ launch = .ok ()

/-- The URL that a navigation leads to. -/
def target (navigation : NavigationCommand) (pipeline : Pipeline) : Option Url :=
  match navigation with
  | .navigate url => some url
  | .back => if 0 < pipeline.position then pipeline.history[pipeline.position - 1]? else none
  | .forward => pipeline.history[pipeline.position + 1]?
  | .reload => pipeline.history[pipeline.position]?
  | .stop => none

/-- The pipelines agree on where they are. -/
def SamePlace (before after : Pipeline) : Prop :=
  after.history = before.history ∧ after.position = before.position

/-- If the navigation fails then it leaves the helper where it was. -/
def KeepsPlace (navigation : NavigationCommand) (pipeline : Pipeline) : Prop :=
  ∀ error, (pipeline.apply args launch (.navigate navigation)).2.1 = .error error →
    SamePlace pipeline (pipeline.apply args launch (.navigate navigation)).2.2

variable {args launch} {pipeline after : Pipeline} {navigation : NavigationCommand}

theorem Succeeding.ranged (succeeding : Succeeding args pipeline) : pipeline.Ranged := by
  induction succeeding with
  | fresh => exact Or.inl ⟨rfl, rfl⟩
  | applied launch command _ _ ih => exact (applied_of_apply args launch command ih).ranged

/-- Spawning succeeds exactly if the URL can be resolved and launched. -/
theorem spawn_fst (args : Args) (launch : Except String Unit) (url : Url) (pipeline : Pipeline) :
    (pipeline.spawn args launch url).1 = .ok () ↔ Spawns args launch url := by
  unfold spawn Spawns
  constructor
  · intro spawned
    cases resolved : resolveLocation args url with
    | error error =>
        rw [resolved] at spawned
        cases spawned
    | ok location =>
        rw [resolved] at spawned
        dsimp only at spawned
        cases checked : checkPipelineArgs args location with
        | error error =>
            rw [checked] at spawned
            cases spawned
        | ok _ =>
            rw [checked] at spawned
            cases launch with
            | error error => cases spawned
            | ok _ => exact ⟨location, rfl, checked, rfl⟩
  · rintro ⟨location, resolved, checked, rfl⟩
    rw [resolved]
    dsimp only
    rw [checked]

theorem select_fst (navigation : NavigationCommand) (pipeline : Pipeline) :
    (pipeline.select navigation).1 = pipeline.target navigation := by
  cases navigation with
  | navigate _ | reload | stop => rfl
  | back =>
      simp only [select, target]
      by_cases later : 0 < pipeline.position
      · rw [if_pos later, if_pos later]
      · rw [if_neg later, if_neg later]
  | forward =>
      simp only [select, target]
      by_cases within : pipeline.position + 1 < pipeline.history.length
      · rw [if_pos within]
      · rw [if_neg within, List.getElem?_eq_none (Nat.le_of_not_lt within)]

/-- A navigation that leads to a URL moves, unless it is a reload. -/
theorem not_samePlace_select (ranged : pipeline.Ranged) (moves : navigation ≠ .reload) {url : Url}
    (leads : pipeline.target navigation = some url) :
    ¬ SamePlace pipeline (pipeline.select navigation).2 := by
  rintro ⟨history, position⟩
  cases navigation with
  | navigate url =>
      simp only [select] at history position
      have length := congrArg List.length history
      simp only [List.length_append, List.length_take, List.length_singleton] at length position
      rcases ranged with ⟨empty, _⟩ | within
      · rw [empty] at length
        simp at length
      · omega
  | back =>
      unfold target at leads
      unfold select at position
      by_cases later : 0 < pipeline.position
      · rw [if_pos later] at position
        dsimp only at position
        omega
      · rw [if_neg later] at leads
        cases leads
  | forward =>
      have within := (List.getElem?_eq_some_iff.mp leads).1
      unfold select at position
      rw [if_pos within] at position
      dsimp only at position
      omega
  | reload => exact moves rfl
  | stop => cases leads

/-- Whether a navigation fails depends on its target alone, and whether it moves
on the navigation. -/
theorem apply_navigate (args : Args) (launch : Except String Unit)
    (navigation : NavigationCommand) (pipeline : Pipeline) :
    ((pipeline.apply args launch (.navigate navigation)).2.1 = .ok () ↔
        ∀ url, pipeline.target navigation = some url → Spawns args launch url) ∧
      SamePlace (pipeline.select navigation).2
        (pipeline.apply args launch (.navigate navigation)).2.2 := by
  rw [← select_fst]
  rcases selected : pipeline.select navigation with ⟨_ | url, moved⟩
  · simp only [apply, selected]
    constructor
    · constructor
      · intro _ url impossible
        cases impossible
      · intro _
        trivial
    · exact ⟨rfl, rfl⟩
  · simp only [apply, selected]
    constructor
    · rw [spawn_fst]
      constructor
      · rintro spawns other ⟨⟩
        exact spawns
      · intro all
        exact all url rfl
    · rcases spawn_eq args launch url moved.stop with ⟨child, equal⟩
      rw [equal]
      exact ⟨rfl, rfl⟩

end Pipeline

open Pipeline

/-- A navigation leaves the helper where it was when it fails, if and only if it
is a reload or its target can be resolved and launched. -/
theorem keepsPlace_iff {args : Args} {launch : Except String Unit} {pipeline : Pipeline}
    {navigation : NavigationCommand} (reached : Succeeding args pipeline) :
    KeepsPlace args launch navigation pipeline ↔
      navigation = .reload ∨
        ∀ url, pipeline.target navigation = some url → Spawns args launch url := by
  rcases apply_navigate args launch navigation pipeline with ⟨outcome, moved⟩
  constructor
  · intro keeps
    by_cases reload : navigation = .reload
    · exact Or.inl reload
    · refine Or.inr ?_
      by_contra fails
      rcases not_forall.mp fails with ⟨url, unspawned⟩
      rcases Classical.not_imp.mp unspawned with ⟨leads, _⟩
      cases result : (pipeline.apply args launch (.navigate navigation)).2.1 with
      | ok _ => exact fails (outcome.mp result)
      | error error =>
          rcases keeps error result with ⟨history, position⟩
          apply not_samePlace_select reached.ranged reload leads
          exact ⟨moved.1.symm.trans history, moved.2.symm.trans position⟩
  · rintro (rfl | spawns) error failed
    · exact moved
    · rw [outcome.mpr spawns] at failed
      cases failed

namespace Sample

/-- The helper as it is packaged. -/
def packaged : Args :=
  { internalHome := some { scheme := "file", path := "/usr/share/xanhtab/web/internal-home.html" } }

/-- A route that the API accepts and the helper does not have. -/
def settingsUrl : Url :=
  { scheme := "xanhtab", host := some "settings" }

/-- The helper after a session has been started. -/
def started : Pipeline :=
  (({} : Pipeline).apply packaged (.ok ()) (.start 1 (url "example.org") .hd15 .direct)).2.2

/-- The helper after the route has been asked for. -/
def misled : Pipeline :=
  (started.apply packaged (.ok ()) (.navigate (.navigate settingsUrl))).2.2

theorem started_succeeding : Succeeding packaged started :=
  .applied (.ok ()) _ .fresh rfl

end Sample

/-- Asking for a route that the helper does not have fails, and moves it. -/
theorem not_keepsPlace_of_settingsUrl :
    ¬ ∀ (args : Args) (launch : Except String Unit) (pipeline : Pipeline)
      (navigation : NavigationCommand), Succeeding args pipeline →
      navigation.validate = .ok () → KeepsPlace args launch navigation pipeline := by
  intro claim
  have kept := claim Sample.packaged (.ok ()) Sample.started (.navigate Sample.settingsUrl)
    Sample.started_succeeding rfl "unsupported internal XanhTab route" rfl
  have moved : Sample.misled.position = 1 := rfl
  cases moved.symm.trans kept.2

/-- The page that was open can still be reloaded, at its old place only. -/
theorem keepsPlace_iff_of_started :
    KeepsPlace Sample.packaged (.ok ()) .reload Sample.started ∧
      ¬ KeepsPlace Sample.packaged (.ok ()) (.navigate Sample.settingsUrl) Sample.started := by
  constructor
  · exact (keepsPlace_iff Sample.started_succeeding).mpr (Or.inl rfl)
  · intro keeps
    rcases (keepsPlace_iff Sample.started_succeeding).mp keeps with reload | spawns
    · cases reload
    · rcases spawns Sample.settingsUrl rfl with ⟨location, resolved, _⟩
      cases resolved

end XanhTab
