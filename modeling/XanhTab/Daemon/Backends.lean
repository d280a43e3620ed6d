import XanhTab.Daemon.Service

/-!
# The backends

A world with a browser, an egress policy and a runtime directory.  Every call
may fail.  A start or a stop that fails, or whose reply comes too late, may
leave browsers running, those of earlier starts and the one it was to start; a
failed policy change leaves the kill switch; a failed removal leaves any part
of the directory.

Browsers are tagged with the mode that they were started for, and with whether
they may have outlived a stop or a policy change that failed.  Files are
numbered in the order of their creation, and only a running browser creates
them.
-/

namespace XanhTab

open Program Transition

structure Browser where
  mode : EgressMode
  stopFailed : Bool := false
  applyFailed : Bool := false
  deriving DecidableEq, Repr

/-- A file with the session that was current when it was created. -/
structure RuntimeFile where
  number : Nat
  session : Option Uuid
  deriving DecidableEq, Repr

/-- The browsers that may be running, the committed policy, of which `none` is
the kill switch, and the runtime directory with the count of files so far. -/
structure Backends where
  browsers : List Browser := []
  policy : Option EgressMode := none
  files : List RuntimeFile := []
  created : Nat := 0
  deriving DecidableEq, Repr

/-- The outcome of a call.  A failure says what it leaves. -/
inductive Effect
  | succeeds
  | fails (error : AppError) (browsers : List Browser) (files : List RuntimeFile)

/-- What happens between calls. -/
inductive Accident
  | exit (browsers : List Browser)
  | create
  | remove (files : List RuntimeFile)

namespace Backends

/-- The browser has survived a stop. -/
def survived (browser : Browser) : Browser :=
  { browser with stopFailed := true }

/-- The browser was running when its policy could not be applied again. -/
def unserved (browser : Browser) : Browser :=
  { browser with applyFailed := true }

/-- A failing browser call that leaves some of the browsers. -/
def failBrowser (backends : Backends) (error : AppError) (left available : List Browser) :
    Option (Except AppError Unit × Backends) :=
  if left ⊆ available then some (.error error, { backends with browsers := left }) else none

/-- Answer a call. -/
def answer : Answer Call Call.Reply Backends Effect
  | .browserStart _ _ _ mode, .succeeds, backends =>
      some (.ok (), { backends with browsers := [{ mode }] })
  | .browserStart _ _ _ mode, .fails error left _, backends =>
      backends.failBrowser error left (backends.browsers ++ [{ mode }])
  | .browserStop, .succeeds, backends => some (.ok (), { backends with browsers := [] })
  | .browserStop, .fails error left _, backends =>
      backends.failBrowser error left (backends.browsers.map survived)
  | .browserNavigate _, .succeeds, backends => some (.ok (), backends)
  | .browserNavigate _, .fails error left _, backends =>
      backends.failBrowser error left backends.browsers
  | .egressApply mode, .succeeds, backends => some (.ok (), { backends with policy := some mode })
  | .egressApply _, .fails error _ _, backends =>
      some (.error error,
        { backends with browsers := backends.browsers.map unserved, policy := none })
  | .egressReset, .succeeds, backends => some (.ok (), { backends with policy := some .direct })
  | .egressReset, .fails error _ _, backends => some (.error error, { backends with policy := none })
  | .clearRuntimeDir, .succeeds, backends => some (.ok (), { backends with files := [] })
  | .clearRuntimeDir, .fails error _ left, backends =>
      if left ⊆ backends.files then
        some (.error error.display, { backends with files := left })
      else none
  | .writePairingFile _, .succeeds, backends => some (.ok (), backends)
  | .writePairingFile _, .fails error _ _, backends => some (.error error.display, backends)

/-- Browsers exit, and while one runs, files come and go. -/
def accident : Accident → Daemon → Backends → Option Backends
  | .exit left, _, backends =>
      if left ⊆ backends.browsers then some { backends with browsers := left } else none
  | .create, daemon, backends =>
      if backends.browsers = [] then none
      else some
        { backends with
          files := backends.files ++ [⟨backends.created, daemon.session.snapshot.id⟩]
          created := backends.created + 1 }
  | .remove left, _, backends =>
      if left ⊆ backends.files then some { backends with files := left } else none

/-! ## What the answers do -/

/-- What a reply says about the change that comes with it. -/
def Answers : (call : Call) → Backends → call.Reply → Backends → Prop
  | .browserStart _ _ _ mode, before, .ok _, after =>
      after = { before with browsers := [{ mode }] }
  | .browserStart _ _ _ mode, before, .error _, after =>
      ∃ left, left ⊆ before.browsers ++ [{ mode }] ∧
        after = { before with browsers := left }
  | .browserStop, before, .ok _, after => after = { before with browsers := [] }
  | .browserStop, before, .error _, after =>
      ∃ left, left ⊆ before.browsers.map survived ∧ after = { before with browsers := left }
  | .browserNavigate _, before, .ok _, after => after = before
  | .browserNavigate _, before, .error _, after =>
      ∃ left, left ⊆ before.browsers ∧ after = { before with browsers := left }
  | .egressApply mode, before, .ok _, after => after = { before with policy := some mode }
  | .egressApply _, before, .error _, after =>
      after = { before with browsers := before.browsers.map unserved, policy := none }
  | .egressReset, before, .ok _, after => after = { before with policy := some .direct }
  | .egressReset, before, .error _, after => after = { before with policy := none }
  | .clearRuntimeDir, before, .ok _, after => after = { before with files := [] }
  | .clearRuntimeDir, before, .error _, after =>
      ∃ left, left ⊆ before.files ∧ after = { before with files := left }
  | .writePairingFile _, before, _, after => after = before

theorem eq_of_failBrowser {backends after : Backends} {error : AppError}
    {left available : List Browser} {reply : Except AppError Unit}
    (failed : backends.failBrowser error left available = some (reply, after)) :
    reply = .error error ∧ left ⊆ available ∧ after = { backends with browsers := left } := by
  unfold failBrowser at failed
  split at failed
  · rename_i remain
    cases failed
    exact ⟨rfl, remain, rfl⟩
  · cases failed

theorem answers_of_answer {call : Call} {effect : Effect} {before after : Backends}
    {reply : call.Reply} (answered : answer call effect before = some (reply, after)) :
    Answers call before reply after := by
  cases call with
  | browserStart | browserStop | browserNavigate =>
      cases effect with
      | succeeds =>
          cases answered
          rfl
      | fails error left files =>
          rcases eq_of_failBrowser answered with ⟨rfl, remain, equal⟩
          exact ⟨left, remain, equal⟩
  | egressApply | egressReset | writePairingFile =>
      cases effect <;> cases answered <;> rfl
  | clearRuntimeDir =>
      cases effect with
      | succeeds =>
          cases answered
          rfl
      | fails error browsers left =>
          simp only [answer] at answered
          split at answered
          · rename_i remain
            cases answered
            exact ⟨left, remain, rfl⟩
          · cases answered

/-- Accidents start no browser and change no policy. -/
theorem browsers_subset_of_accident {event : Accident} {daemon : Daemon}
    {before after : Backends} (happened : accident event daemon before = some after) :
    after.browsers ⊆ before.browsers ∧ after.policy = before.policy := by
  cases event with
  | exit left =>
      simp only [accident] at happened
      split at happened
      · rename_i remain
        cases happened
        exact ⟨remain, rfl⟩
      · cases happened
  | create =>
      simp only [accident] at happened
      split at happened
      · cases happened
      · cases happened
        exact ⟨List.Subset.refl _, rfl⟩
  | remove left =>
      simp only [accident] at happened
      split at happened
      · cases happened
        exact ⟨List.Subset.refl _, rfl⟩
      · cases happened

end Backends

end XanhTab
