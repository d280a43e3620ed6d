import XanhTab.Browser.Navigation
import XanhTab.Data.Zipper

/-!
# The history of the helper

The helper keeps its history as a list with an index.  While its launches
succeed, what it is told to spawn is what a browser would show that keeps one
stack of pages to go back to and one of pages to go forward to.
-/

namespace XanhTab

/-! ## Browser history -/

/-- What a navigation does to the history of a browser, and the page that it loads. -/
def NavigationCommand.browse (navigation : NavigationCommand) (history : Zipper Url) :
    Option Url × Zipper Url :=
  match navigation with
  | .navigate url => (some url, history.visit url)
  | .back => (history.goBack.map Zipper.current, history.goBack.getD history)
  | .forward => (history.goForward.map Zipper.current, history.goForward.getD history)
  | .reload => (some history.current, history)
  | .stop => (none, history)

/-- The pages that a sequence of navigations loads, and where it ends. -/
def browse (history : Zipper Url) : List NavigationCommand → List (Option Url) × Zipper Url
  | [] => ([], history)
  | navigation :: rest =>
      let browsed := browse (navigation.browse history).2 rest
      ((navigation.browse history).1 :: browsed.1, browsed.2)

namespace Pipeline

/-! ## Indices and subtractions -/

/-- A subtraction of the machine, which fails below zero. -/
def checkedSub (minuend subtrahend : Nat) : Option Nat :=
  if subtrahend ≤ minuend then some (minuend - subtrahend) else none

/-- `select`, with every subtraction and every index checked. -/
def checkedSelect (navigation : NavigationCommand) (pipeline : Pipeline) :
    Option (Option Url × Pipeline) :=
  match navigation with
  | .navigate url =>
      let history := pipeline.history.take (pipeline.position + 1) ++ [url]
      (checkedSub history.length 1).map fun position =>
        (some url, { pipeline with history, position })
  | .back =>
      if 0 < pipeline.position then
        (checkedSub pipeline.position 1).bind fun position =>
          pipeline.history[position]?.map fun url => (some url, { pipeline with position })
      else some (none, pipeline)
  | .forward =>
      if pipeline.position + 1 < pipeline.history.length then
        pipeline.history[pipeline.position + 1]?.map fun url =>
          (some url, { pipeline with position := pipeline.position + 1 })
      else some (none, pipeline)
  | .reload => some (pipeline.history[pipeline.position]?, pipeline)
  | .stop => some (none, pipeline.stop)

/-- Navigations that all succeed, with what each of them is told to spawn. -/
inductive Navigates (args : Args) : Pipeline → List NavigationCommand → List (Option Url) →
    Pipeline → Prop
  | nil (pipeline : Pipeline) : Navigates args pipeline [] [] pipeline
  | cons {pipeline next last : Pipeline} {navigation : NavigationCommand}
      {navigations : List NavigationCommand} {told : Option Url} {rest : List (Option Url)}
      (launch : Except String Unit) :
      pipeline.apply args launch (.navigate navigation) = (told, .ok (), next) →
      Navigates args next navigations rest last →
      Navigates args pipeline (navigation :: navigations) (told :: rest) last

/-! ## The abstraction -/

/-- The list with the index is the history. -/
structure Represents (pipeline : Pipeline) (history : Zipper Url) : Prop where
  entries : pipeline.history = history.toList
  position : pipeline.position = history.index

variable {args : Args} {pipeline next last : Pipeline} {history : Zipper Url}

theorem Represents.target (represents : Represents pipeline history)
    (navigation : NavigationCommand) :
    pipeline.target navigation = (navigation.browse history).1 := by
  cases navigation with
  | navigate url => rfl
  | back =>
      simp only [Pipeline.target, NavigationCommand.browse, represents.entries, represents.position]
      cases moved : history.goBack with
      | none =>
          rw [Zipper.goBack_eq_none_iff.mp moved, if_neg (Nat.lt_irrefl 0)]
          rfl
      | some earlier =>
          rcases Zipper.goBack_eq_some moved with ⟨same, index⟩
          have position : history.index - 1 = earlier.index := by omega
          rw [if_pos (by omega), position, ← same]
          exact earlier.getElem?_index
  | forward =>
      simp only [Pipeline.target, NavigationCommand.browse, represents.entries, represents.position]
      cases moved : history.goForward with
      | none =>
          rw [List.getElem?_eq_none (Zipper.goForward_eq_none_iff.mp moved)]
          rfl
      | some later =>
          rcases Zipper.goForward_eq_some moved with ⟨same, index⟩
          rw [← index, ← same]
          exact later.getElem?_index
  | reload =>
      simp only [Pipeline.target, NavigationCommand.browse, represents.entries, represents.position]
      exact history.getElem?_index
  | stop => rfl

theorem Represents.select (represents : Represents pipeline history)
    (navigation : NavigationCommand) :
    Represents (pipeline.select navigation).2 (navigation.browse history).2 := by
  rcases represents with ⟨entries, position⟩
  cases navigation with
  | navigate url =>
      have visited : (pipeline.select (.navigate url)).2.history = (history.visit url).toList := by
        rw [Zipper.toList_visit, ← entries, ← position]
        rfl
      constructor
      · exact visited
      · show (pipeline.select (.navigate url)).2.history.length - 1 = history.index + 1
        rw [visited, Zipper.toList_visit, Zipper.take_index_succ]
        simp [Zipper.index]
  | back =>
      simp only [Pipeline.select, NavigationCommand.browse]
      cases moved : history.goBack with
      | none =>
          rw [position, Zipper.goBack_eq_none_iff.mp moved, if_neg (Nat.lt_irrefl 0)]
          exact ⟨entries, position⟩
      | some earlier =>
          rcases Zipper.goBack_eq_some moved with ⟨same, index⟩
          rw [if_pos (by omega)]
          constructor
          · exact entries.trans same.symm
          · show pipeline.position - 1 = earlier.index
            omega
  | forward =>
      simp only [Pipeline.select, NavigationCommand.browse]
      cases moved : history.goForward with
      | none =>
          have last := Zipper.goForward_eq_none_iff.mp moved
          rw [entries, position, if_neg (Nat.not_lt.mpr last)]
          exact ⟨entries, position⟩
      | some later =>
          rcases Zipper.goForward_eq_some moved with ⟨same, index⟩
          have within := later.index_lt_length
          rw [same, index] at within
          rw [entries, position, if_pos within]
          constructor
          · exact same.symm
          · exact index.symm
  | reload | stop => exact ⟨entries, position⟩

/-- A navigation that succeeds does to the history what it does in a browser. -/
theorem Represents.navigates {navigation : NavigationCommand} {launch : Except String Unit}
    {told : Option Url} (represents : Represents pipeline history)
    (applied : pipeline.apply args launch (.navigate navigation) = (told, .ok (), next)) :
    told = (navigation.browse history).1 ∧ Represents next (navigation.browse history).2 := by
  have moved := (apply_navigate args launch navigation pipeline).2
  have spawned : (pipeline.apply args launch (.navigate navigation)).1 =
      (pipeline.select navigation).1 := by
    simp only [apply]
    split
    · rename_i selected
      rw [selected]
    · rename_i selected
      rw [selected]
  rw [applied] at moved spawned
  have selected := represents.select navigation
  constructor
  · rw [← represents.target, ← select_fst]
    exact spawned
  · constructor
    · exact moved.1.trans selected.entries
    · exact moved.2.trans selected.position

theorem Represents.run {navigations : List NavigationCommand} {told : List (Option Url)}
    (represents : Represents pipeline history)
    (navigates : Navigates args pipeline navigations told last) :
    told = (browse history navigations).1 ∧
      Represents last (browse history navigations).2 := by
  induction navigates generalizing history with
  | nil pipeline => exact ⟨rfl, represents⟩
  | cons launch applied _ ih =>
      rcases represents.navigates applied with ⟨spawned, represents⟩
      rcases ih represents with ⟨rest, ended⟩
      constructor
      · rw [spawned, rest]
        rfl
      · exact ended

/-- The machine checks nothing that can fail. -/
theorem Represents.checkedSelect_eq (represents : Represents pipeline history)
    (navigation : NavigationCommand) :
    pipeline.checkedSelect navigation = some (pipeline.select navigation) := by
  cases navigation with
  | navigate url => simp [checkedSelect, checkedSub, Pipeline.select]
  | back =>
      simp only [checkedSelect, Pipeline.select]
      by_cases later : 0 < pipeline.position
      · have within : pipeline.position - 1 < pipeline.history.length := by
          have range := history.index_lt_length
          rw [← represents.entries, ← represents.position] at range
          omega
        have subtracted : checkedSub pipeline.position 1 = some (pipeline.position - 1) :=
          if_pos later
        rw [if_pos later, if_pos later, subtracted, Option.bind_some,
          List.getElem?_eq_getElem within]
        rfl
      · rw [if_neg later, if_neg later]
  | forward =>
      simp only [checkedSelect, Pipeline.select]
      by_cases within : pipeline.position + 1 < pipeline.history.length
      · rw [if_pos within, if_pos within, List.getElem?_eq_getElem within]
        rfl
      · rw [if_neg within, if_neg within]
  | reload | stop => rfl

theorem represents_started (args : Args) (pipeline : Pipeline) (launch : Except String Unit)
    (sessionId : Uuid) (url : Url) (profile : StreamProfile) (egress : EgressMode) :
    Represents (pipeline.apply args launch (.start sessionId url profile egress)).2.2
      (.single url) := by
  rcases spawn_eq args launch url (pipeline.started sessionId url profile egress) with
    ⟨child, equal⟩
  simp only [apply, equal]
  exact ⟨rfl, rfl⟩

end Pipeline

open Pipeline

/-- After a start, navigations that succeed spawn what a browser with two stacks
would load, the position stays within the history, and no index or subtraction
of another navigation can fail. -/
theorem history_eq_browse {args : Args} {launch : Except String Unit}
    {pipeline first last : Pipeline} {sessionId : Uuid} {url : Url} {profile : StreamProfile}
    {egress : EgressMode} {begun : Option Url} {navigations : List NavigationCommand}
    {told : List (Option Url)}
    (starts : pipeline.apply args launch (.start sessionId url profile egress) =
      (begun, .ok (), first))
    (navigates : Navigates args first navigations told last) :
    begun = some url ∧ told = (browse (.single url) navigations).1 ∧
      last.history = (browse (.single url) navigations).2.toList ∧
      last.position < last.history.length ∧
      ∀ navigation, last.checkedSelect navigation = some (last.select navigation) := by
  have represents : Represents first (.single url) := by
    have started := represents_started args pipeline launch sessionId url profile egress
    rw [starts] at started
    exact started
  rcases represents.run navigates with ⟨same, ended⟩
  refine ⟨?_, same, ended.entries, ?_, ended.checkedSelect_eq⟩
  · exact (congrArg Prod.fst starts).symm
  · rw [ended.entries, ended.position]
    exact Zipper.index_lt_length _

namespace Sample

def pages : List NavigationCommand :=
  [.navigate (url "example.com"), .navigate (url "example.net"), .back, .back, .back, .stop,
    .forward, .navigate (url "example.edu"), .forward, .reload]

end Sample

/-- Two pages are visited and left again before a third takes their place. -/
theorem history_eq_browse_of_pages :
    ∃ told last, Navigates Sample.packaged Sample.started Sample.pages told last ∧
      told.map (Option.map Url.host) =
        [some (some "example.com"), some (some "example.net"), some (some "example.com"),
          some (some "example.org"), none, none, some (some "example.com"),
          some (some "example.edu"), none, some (some "example.edu")] ∧
      last.history.map Url.host =
        [some "example.org", some "example.com", some "example.edu"] := by
  have starts : ({} : Pipeline).apply Sample.packaged (.ok ())
      (.start 1 (Sample.url "example.org") .hd15 .direct) =
        (some (Sample.url "example.org"), .ok (), Sample.started) := rfl
  have navigates : ∃ told last,
      Navigates Sample.packaged Sample.started Sample.pages told last :=
    ⟨_, _, .cons (.ok ()) rfl (.cons (.ok ()) rfl (.cons (.ok ()) rfl (.cons (.ok ()) rfl
      (.cons (.ok ()) rfl (.cons (.ok ()) rfl (.cons (.ok ()) rfl (.cons (.ok ()) rfl
        (.cons (.ok ()) rfl (.cons (.ok ()) rfl (.nil _))))))))))⟩
  rcases navigates with ⟨told, last, navigates⟩
  rcases history_eq_browse starts navigates with ⟨_, spawned, entries, _⟩
  refine ⟨told, last, navigates, ?_, ?_⟩
  · rw [spawned]
    rfl
  · rw [entries]
    rfl

end XanhTab
