import XanhTab.Config.Validate
import XanhTab.Files.Tree

/-!
# Clearing the runtime directory

`clear_runtime_dir` of `session.rs`, on file trees without symbolic links, so that
the check for one at the path itself is left out.  The validation of a configuration
looks at each path alone: an endpoint may lie in the directory that is cleared.
-/

namespace XanhTab

open Files

/-- The names that a path without special components leads through. -/
def Path.place (path : List Char) : List (List Char) :=
  (components path).filterMap fun component =>
    match component with
    | .normal name => some name
    | .rootDir | .curDir | .parentDir => none

inductive ClearError
  /-- The path is not cleared at all. -/
  | refused (message : String)
  /-- A call to the operating system failed. -/
  | failed
  deriving DecidableEq, Repr

/-- The policy of the cleaner. -/
def isUnsafeRuntimePath (path : List Char) : Bool :=
  !Path.isAbsolute path || Path.components path == [.rootDir] ||
    (Path.components path).length < 3 ||
    (Path.components path).any fun component => component = .parentDir || component = .curDir

/-- `clear_runtime_dir`. -/
def clearRuntimeDir (fails : FileCall (List Char) → Bool) (path : String)
    (tree : Files.Tree (List Char)) : Except ClearError Unit × Files.Tree (List Char) :=
  if isUnsafeRuntimePath path.toList then
    (.error (.refused ("refusing to clear unsafe runtime path " ++ path)), tree)
  else
    let place := Path.place path.toList
    match createDirAll fails [] place tree with
    | (false, tree) => (.error .failed, tree)
    | (true, tree) =>
        if fails (.readDir place) then (.error .failed, tree)
        else
          match removeEach (removeEntry fails tree.depth) (tree.children place) tree with
          | (false, tree) => (.error .failed, tree)
          | (true, tree) => (.ok (), tree)

variable {fails : FileCall (List Char) → Bool} {path : String} {tree : Files.Tree (List Char)}

/-- What is not below the path is left alone. -/
theorem clearRuntimeDir_keeps {entry : Entry (List Char)} (there : entry ∈ tree.entries)
    (apart : ¬ Above (Path.place path.toList) entry.1) :
    entry ∈ (clearRuntimeDir fails path tree).2.entries := by
  unfold clearRuntimeDir
  split
  · exact there
  · have created : entry ∈ (createDirAll fails [] (Path.place path.toList) tree).2.entries :=
      createDirAll_keeps [] _ tree there
    dsimp only
    rcases made : createDirAll fails [] (Path.place path.toList) tree with ⟨_ | _, middle⟩
    · rw [made] at created
      exact created
    · rw [made] at created
      dsimp only at created ⊢
      split
      · exact created
      · have kept : entry ∈ (removeEach (removeEntry fails middle.depth)
            (middle.children (Path.place path.toList)) middle).2.entries := by
          refine removeEach_keeps (prunes_removeEntry _) _ middle created ?_
          intro child member below
          exact apart (Files.Tree.above_of_child member below)
        rcases removed : removeEach (removeEntry fails middle.depth)
            (middle.children (Path.place path.toList)) middle with ⟨_ | _, after⟩
        · rw [removed] at kept
          exact kept
        · rw [removed] at kept
          exact kept

theorem clearRuntimeDir_accepts (safe : isUnsafeRuntimePath path.toList = false) (message : String) :
    (clearRuntimeDir fails path tree).1 ≠ .error (.refused message) := by
  unfold clearRuntimeDir
  rw [if_neg (Bool.eq_false_iff.mp safe)]
  dsimp only
  split
  · simp
  · split
    · simp
    · split
      · simp
      · simp

/-- Without failures, nothing below the path is left. -/
theorem clearRuntimeDir_clears (safe : isUnsafeRuntimePath path.toList = false)
    {entry : Entry (List Char)} (there : entry ∈ tree.entries)
    (below : Above (Path.place path.toList) entry.1) :
    entry ∉ (clearRuntimeDir (fun _ => false) path tree).2.entries := by
  have existing : createDirAll (fun _ => false) [] (Path.place path.toList) tree = (true, tree) :=
    createDirAll_of_above [] (Path.place path.toList) there below
  unfold clearRuntimeDir
  rw [if_neg (Bool.eq_false_iff.mp safe)]
  dsimp only
  rw [existing]
  dsimp only
  rw [if_neg Bool.false_ne_true]
  have succeeded : (removeEach (removeEntry (fun _ => false) tree.depth)
      (tree.children (Path.place path.toList)) tree).1 = true := clear_succeeds
  have cleared := clear_clears tree.depth succeeded below
  rcases removed : removeEach (removeEntry (fun _ => false) tree.depth)
      (tree.children (Path.place path.toList)) tree with ⟨_ | _, after⟩
  · rw [removed] at succeeded
    cases succeeded
  · rw [removed] at cleared
    exact cleared

/-! ## Endpoints -/

open XanhTab.Configuration

/-- The paths of the appliance's own endpoints. -/
def Configuration.Config.endpoints (config : Configuration.Config) : List String :=
  [config.session.pairingFile, config.browser.socket, config.network.netdSocket]

/-- The runtime directory is cleared, and nothing else is lost. -/
structure Spares (config : Configuration.Config) (tree : Files.Tree (List Char))
    (cleared : Except ClearError Unit × Files.Tree (List Char)) : Prop where
  accepted : ∀ message, cleared.1 ≠ .error (.refused message)
  within : ∀ entry ∈ tree.entries, entry ∉ cleared.2.entries →
    Above (Path.place config.session.runtimeDir.toList) entry.1
  endpoints : ∀ path ∈ config.endpoints, ∀ entry ∈ tree.entries,
    entry.1 = Path.place path.toList → entry ∈ cleared.2.entries

section Validated

variable {crate : UrlCrate} {config : Configuration.Config}

/-- The cleaner takes what the validator takes. -/
theorem isUnsafeRuntimePath_of_validate (valid : config.validate crate = .ok ()) :
    isUnsafeRuntimePath config.session.runtimeDir.toList = false := by
  have paths := (Configuration.Config.validate_eq_ok_iff.mp valid).2.2.1
  unfold Configuration.Config.checkPaths at paths
  rw [checkAll_eq_ok_iff, List.forall_mem_cons, check_eq_ok_iff, Bool.and_eq_true,
    Bool.and_eq_true, bne_iff_ne, decide_eq_true_eq] at paths
  rcases paths.1 with ⟨⟨normalized, specific⟩, long⟩
  unfold isNormalizedAbsolute at normalized
  rw [Bool.and_eq_true, List.all_eq_true] at normalized
  unfold isUnsafeRuntimePath
  simp only [normalized.1, Bool.not_true, Bool.false_or, Bool.or_eq_false_iff, beq_eq_false_iff_ne,
    decide_eq_false_iff_not, List.any_eq_false]
  refine ⟨⟨specific, by omega⟩, ?_⟩
  intro component member special
  have regular := normalized.2 component member
  cases component with
  | rootDir | normal _ => simp at special
  | curDir | parentDir => simp at regular

/-- Clearing the runtime directory of a valid configuration spares the endpoints,
whatever fails, exactly if none of those that exist lies below the directory. -/
theorem spares_iff (valid : config.validate crate = .ok ()) (tree : Files.Tree (List Char)) :
    (∀ fails, Spares config tree (clearRuntimeDir fails config.session.runtimeDir tree)) ↔
      ∀ path ∈ config.endpoints, ∀ entry ∈ tree.entries, entry.1 = Path.place path.toList →
        ¬ Above (Path.place config.session.runtimeDir.toList) entry.1 := by
  have safe := isUnsafeRuntimePath_of_validate valid
  constructor
  · intro spares path listed entry there same below
    have lost := clearRuntimeDir_clears safe there below
    exact lost ((spares fun _ => false).endpoints path listed entry there same)
  · intro apart fails
    constructor
    · exact fun message => clearRuntimeDir_accepts safe message
    · intro entry there lost
      by_contra outside
      exact lost (clearRuntimeDir_keeps there outside)
    · intro path listed entry there same
      exact clearRuntimeDir_keeps there (apart path listed entry there same)

end Validated

namespace Sample

def run : List Char := ['r', 'u', 'n']

def session : List Char := "xanhtab-session".toList

def service : List Char := "xanhtab".toList

def pairing : List Char := "pairing.txt".toList

/-- A pairing file in the runtime directory, and one beside it. -/
def runtimeTree : Files.Tree (List Char) where
  entries := [([run], .directory), ([run, service], .directory), ([run, service, pairing], .other),
    ([run, session], .directory), ([run, session, pairing], .other)]
  named := by decide
  distinct := by
    unfold service session pairing
    rw [String.toList_ofList, String.toList_ofList, String.toList_ofList]
    decide
  parents := by
    unfold service session pairing
    rw [String.toList_ofList, String.toList_ofList, String.toList_ofList]
    decide

theorem place_session : Path.place "/run/xanhtab-session".toList = [run, session] := by
  unfold session
  rw [String.toList_ofList, String.toList_ofList]
  decide

theorem endpoints_default :
    ∀ path ∈ ({} : Configuration.Config).endpoints, [run, service] <+: Path.place path.toList := by
  have pairing : [run, service] <+: Path.place "/run/xanhtab/pairing.txt".toList := by
    unfold service
    rw [String.toList_ofList, String.toList_ofList]
    decide
  have browser : [run, service] <+: Path.place "/run/xanhtab/browser.sock".toList := by
    unfold service
    rw [String.toList_ofList, String.toList_ofList]
    decide
  have netd : [run, service] <+: Path.place "/run/xanhtab/netd.sock".toList := by
    unfold service
    rw [String.toList_ofList, String.toList_ofList]
    decide
  unfold Configuration.Config.endpoints
  rw [List.forall_mem_cons, List.forall_mem_cons, List.forall_mem_singleton]
  exact ⟨pairing, browser, netd⟩

/-- A configuration with its pairing file in the runtime directory. -/
def nested : Configuration.Config :=
  { session := { pairingFile := "/run/xanhtab-session/pairing.txt" } }

theorem nested_validate : nested.validate tableCrate = .ok () := by
  have valid := Configuration.Config.default_validate tableCrate_parsesDefaults
  rcases Configuration.Config.validate_eq_ok_iff.mp valid with
    ⟨server, limits, paths, url, network, signaling⟩
  refine Configuration.Config.validate_eq_ok_iff.mpr
    ⟨server, limits, ?_, url, network, signaling⟩
  have normalized : isNormalizedAbsolute "/run/xanhtab-session/pairing.txt" = true := by
    unfold isNormalizedAbsolute
    rw [String.toList_ofList]
    decide
  unfold Configuration.Config.checkPaths at paths ⊢
  rw [checkAll_eq_ok_iff, List.forall_mem_cons, List.forall_mem_cons, check_eq_ok_iff,
    check_eq_ok_iff] at paths ⊢
  rcases paths with ⟨directory, endpoints, _⟩
  simp only [Bool.and_eq_true] at directory endpoints ⊢
  exact ⟨directory, ⟨⟨normalized, endpoints.1.2⟩, endpoints.2⟩, by simp [nested]⟩

end Sample

/-- A valid configuration whose pairing file is destroyed by a burn. -/
theorem not_spares_of_nested :
    ¬ ∀ (crate : UrlCrate) (config : Configuration.Config) (tree : Files.Tree (List Char)),
      config.validate crate = .ok () →
        ∀ fails, Spares config tree (clearRuntimeDir fails config.session.runtimeDir tree) := by
  intro always
  have spares := always Sample.tableCrate Sample.nested Sample.runtimeTree Sample.nested_validate
    fun _ => false
  have there : ([Sample.run, Sample.session, Sample.pairing], Kind.other) ∈
      Sample.runtimeTree.entries := by
    simp [Sample.runtimeTree]
  have same : [Sample.run, Sample.session, Sample.pairing] =
      Path.place Sample.nested.session.pairingFile.toList := by
    unfold Sample.session Sample.pairing Sample.nested
    rw [String.toList_ofList, String.toList_ofList, String.toList_ofList]
    decide
  have below : Above (Path.place Sample.nested.session.runtimeDir.toList)
      [Sample.run, Sample.session, Sample.pairing] := by
    have place : Path.place Sample.nested.session.runtimeDir.toList = [Sample.run, Sample.session] :=
      Sample.place_session
    rw [place]
    exact ⟨⟨[Sample.pairing], rfl⟩, by simp⟩
  have lost := clearRuntimeDir_clears (isUnsafeRuntimePath_of_validate Sample.nested_validate)
    there below
  exact lost (spares.endpoints _ List.mem_cons_self _ there same)

theorem spares_of_default :
    Spares {} Sample.runtimeTree (clearRuntimeDir (fun _ => false)
      ({} : Configuration.Config).session.runtimeDir Sample.runtimeTree) := by
  refine (spares_iff (Configuration.Config.default_validate Sample.tableCrate_parsesDefaults)
    Sample.runtimeTree).mpr ?_ _
  intro path listed entry _ same below
  have inside : [Sample.run, Sample.service] <+: Path.place path.toList :=
    Sample.endpoints_default path listed
  have above := below.1
  rw [same, Sample.place_session] at above
  have equal := (List.prefix_of_prefix_length_le inside above (Nat.le_refl 2)).eq_of_length rfl
  revert equal
  unfold Sample.service Sample.session
  rw [String.toList_ofList, String.toList_ofList]
  decide

end XanhTab
