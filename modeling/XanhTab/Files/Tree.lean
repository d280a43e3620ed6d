import Mathlib.Data.List.Induction
import XanhTab.Data.Association

/-!
# File trees

Trees of directories and other files without symbolic links, and the calls that
create and remove them.  A tree is a list of entries in the order in which
directories are read; the root is there without an entry.  Any call may fail.
-/

namespace XanhTab.Files

universe u

variable {N : Type u}

inductive Kind
  | directory
  /-- A regular file, a socket or another file that holds no entries. -/
  | other
  deriving DecidableEq, Repr

/-- A place is given by the names that lead to it, and what is there. -/
abbrev Entry (N : Type u) := List N × Kind

/-- The first place is above the second one. -/
def Above (upper lower : List N) : Prop :=
  upper <+: lower ∧ upper ≠ lower

theorem Above.of_prefix {upper middle lower : List N} (above : Above middle lower)
    (start : upper <+: middle) : Above upper lower := by
  refine ⟨start.trans above.1, ?_⟩
  rintro rfl
  exact above.2 (above.1.eq_of_length (Nat.le_antisymm above.1.length_le start.length_le))

/-- The entries have distinct places and lie in directories. -/
structure Tree (N : Type u) where
  entries : List (Entry N)
  named : ∀ entry ∈ entries, entry.1 ≠ []
  distinct : (entries.map Prod.fst).Nodup
  parents : ∀ entry ∈ entries, entry.1.dropLast = [] ∨ (entry.1.dropLast, Kind.directory) ∈ entries

/-- A call to the operating system that may fail. -/
inductive FileCall (N : Type u)
  | makeDir (place : List N)
  | readDir (place : List N)
  | remove (place : List N)

/-- Nothing is lost but at or below a place, and nothing is new. -/
structure Prunes (place : List N) (before after : Tree N) : Prop where
  kept : ∀ entry ∈ before.entries, ¬ place <+: entry.1 → entry ∈ after.entries
  old : ∀ entry ∈ after.entries, entry ∈ before.entries

namespace Prunes

variable {place : List N} {first second third : Tree N}

theorem refl (place : List N) (tree : Tree N) : Prunes place tree tree :=
  ⟨fun _ there _ => there, fun _ there => there⟩

theorem trans (earlier : Prunes place first second) (later : Prunes place second third) :
    Prunes place first third :=
  ⟨fun entry there apart => later.kept entry (earlier.kept entry there apart) apart,
    fun entry there => earlier.old entry (later.old entry there)⟩

end Prunes

/-! ## Operations -/

variable [DecidableEq N]

namespace Tree

def kind (tree : Tree N) (place : List N) : Option Kind :=
  if place = [] then some .directory else tree.entries.lookup place

/-- The entries of a directory. -/
def children (tree : Tree N) (place : List N) : List (Entry N) :=
  tree.entries.filter fun entry => entry.1.dropLast = place

/-- No place is longer. -/
def depth (tree : Tree N) : Nat :=
  (tree.entries.map fun entry => entry.1.length).foldr max 0

/-- Remove a file or an empty directory. -/
def remove (tree : Tree N) (place : List N) : Option (Tree N) :=
  if empty : ∀ entry ∈ tree.entries, entry.1.dropLast ≠ place then
    some
      { entries := tree.entries.filter fun entry => entry.1 ≠ place
        named := fun entry member => tree.named entry (List.mem_of_mem_filter member)
        distinct := tree.distinct.sublist (List.filter_sublist.map Prod.fst)
        parents := fun entry member => by
          have there := List.mem_of_mem_filter member
          refine (tree.parents entry there).imp_right fun parent => ?_
          rw [List.mem_filter, decide_eq_true_eq]
          exact ⟨parent, empty entry there⟩ }
  else none

/-- Create a directory in one that is there. -/
def makeDir (tree : Tree N) (place : List N) : Option (Tree N) :=
  if free : place ≠ [] ∧ place ∉ tree.entries.map Prod.fst ∧
      (place.dropLast = [] ∨ (place.dropLast, Kind.directory) ∈ tree.entries) then
    some
      { entries := tree.entries ++ [(place, .directory)]
        named := fun entry member => by
          rcases List.mem_append.mp member with old | new
          · exact tree.named entry old
          · rw [List.mem_singleton.mp new]
            exact free.1
        distinct := by
          rw [List.map_append, List.map_singleton]
          refine List.nodup_append.mpr ⟨tree.distinct, List.nodup_singleton _, ?_⟩
          intro old there new only equal
          rw [equal, List.mem_singleton.mp only] at there
          exact free.2.1 there
        parents := fun entry member => by
          rcases List.mem_append.mp member with old | new
          · exact (tree.parents entry old).imp_right (List.mem_append_left _)
          · rw [List.mem_singleton.mp new]
            exact free.2.2.imp_right (List.mem_append_left _) }
  else none

end Tree

/-! ## Calls -/

section Calls

variable (fails : FileCall N → Bool)

/-- `unlink`, or `rmdir` of an empty directory. -/
def unlink (place : List N) (tree : Tree N) : Bool × Tree N :=
  if fails (.remove place) then (false, tree)
  else
    match tree.remove place with
    | some tree => (true, tree)
    | none => (false, tree)

/-- One entry after the other, up to the first failure. -/
def removeEach (removeEntry : Entry N → Tree N → Bool × Tree N) :
    List (Entry N) → Tree N → Bool × Tree N
  | [], tree => (true, tree)
  | entry :: rest, tree =>
      match removeEntry entry tree with
      | (true, tree) => removeEach removeEntry rest tree
      | (false, tree) => (false, tree)

/-- `remove_file`, or `remove_dir_all` of a directory of at most the given depth. -/
def removeEntry : Nat → Entry N → Tree N → Bool × Tree N
  | _, (place, .other), tree => unlink fails place tree
  | 0, (_, .directory), tree => (false, tree)
  | depth + 1, (place, .directory), tree =>
      if fails (.readDir place) then (false, tree)
      else
        match removeEach (removeEntry depth) (tree.children place) tree with
        | (true, tree) => unlink fails place tree
        | (false, tree) => (false, tree)

/-- `create_dir_all`, below a directory that is there. -/
def createDirAll (above : List N) : List N → Tree N → Bool × Tree N
  | [], tree => (true, tree)
  | name :: rest, tree =>
      match tree.kind (above ++ [name]) with
      | some .directory => createDirAll (above ++ [name]) rest tree
      | some .other => (false, tree)
      | none =>
          if fails (.makeDir (above ++ [name])) then (false, tree)
          else
            match tree.makeDir (above ++ [name]) with
            | some tree => createDirAll (above ++ [name]) rest tree
            | none => (false, tree)

end Calls

/-! ## What is removed -/

namespace Tree

variable {tree after : Tree N} {place : List N}

theorem mem_children {entry : Entry N} :
    entry ∈ tree.children place ↔ entry ∈ tree.entries ∧ entry.1.dropLast = place := by
  unfold children
  rw [List.mem_filter, decide_eq_true_eq]

theorem remove_eq_some (removed : tree.remove place = some after) :
    (∀ entry ∈ tree.entries, entry.1.dropLast ≠ place) ∧
      after.entries = tree.entries.filter fun entry => entry.1 ≠ place := by
  unfold remove at removed
  split at removed
  · rename_i empty
    rw [← Option.some.inj removed]
    exact ⟨empty, rfl⟩
  · cases removed

theorem prunes_of_remove (removed : tree.remove place = some after) :
    Prunes place tree after := by
  have entries := (remove_eq_some removed).2
  constructor
  · intro entry there apart
    rw [entries, List.mem_filter, decide_eq_true_eq]
    refine ⟨there, ?_⟩
    rintro rfl
    exact apart List.prefix_rfl
  · intro entry there
    rw [entries] at there
    exact List.mem_of_mem_filter there

omit [DecidableEq N] in
/-- Where something is below a place, something is in it. -/
theorem exists_child {name : N} {rest : List N} {kind : Kind}
    (there : (place ++ name :: rest, kind) ∈ tree.entries) :
    ∃ child ∈ tree.entries, child.1.dropLast = place := by
  induction rest using List.reverseRecOn generalizing kind with
  | nil => exact ⟨_, there, List.dropLast_concat⟩
  | append_singleton rest last ih =>
      have parent : (place ++ name :: (rest ++ [last])).dropLast = place ++ name :: rest := by
        rw [← List.cons_append, ← List.append_assoc, List.dropLast_concat]
      rcases tree.parents _ there with empty | above
      · rw [parent] at empty
        simp at empty
      · rw [parent] at above
        exact ih above

/-- Nothing is left at or below a place that is removed. -/
theorem remove_clears (removed : tree.remove place = some after) :
    ∀ entry ∈ after.entries, ¬ place <+: entry.1 := by
  rcases remove_eq_some removed with ⟨empty, entries⟩
  rintro ⟨_, kind⟩ there ⟨rest, rfl⟩
  rw [entries, List.mem_filter, decide_eq_true_eq] at there
  cases rest with
  | nil => exact there.2 (List.append_nil place)
  | cons name rest =>
      rcases exists_child there.1 with ⟨child, inside, within⟩
      exact empty child inside within

end Tree

section Calls

variable {fails : FileCall N → Bool} {place : List N} {tree : Tree N}

theorem prunes_unlink : Prunes place tree (unlink fails place tree).2 := by
  unfold unlink
  split
  · exact .refl place tree
  · split
    · rename_i removed
      exact Tree.prunes_of_remove removed
    · exact .refl place tree

theorem unlink_clears (removed : (unlink fails place tree).1 = true) :
    ∀ entry ∈ (unlink fails place tree).2.entries, ¬ place <+: entry.1 := by
  unfold unlink at removed ⊢
  split at removed
  · cases removed
  · rename_i allowed
    rw [if_neg allowed]
    split at removed
    · rename_i after found
      exact Tree.remove_clears found
    · cases removed

omit [DecidableEq N] in
/-- What no removal is about is kept. -/
theorem removeEach_keeps {each : Entry N → Tree N → Bool × Tree N}
    (step : ∀ entry tree, Prunes entry.1 tree (each entry tree).2) (entries : List (Entry N))
    (tree : Tree N) {other : Entry N} (there : other ∈ tree.entries)
    (apart : ∀ entry ∈ entries, ¬ entry.1 <+: other.1) :
    other ∈ (removeEach each entries tree).2.entries := by
  induction entries generalizing tree with
  | nil => exact there
  | cons entry rest ih =>
      have kept := (step entry tree).kept other there (apart entry List.mem_cons_self)
      unfold removeEach
      rcases removed : each entry tree with ⟨_ | _, middle⟩
      · rw [removed] at kept
        exact kept
      · rw [removed] at kept
        exact ih middle kept fun entry member => apart entry (List.mem_cons_of_mem _ member)

omit [DecidableEq N] in
theorem removeEach_old {each : Entry N → Tree N → Bool × Tree N}
    (step : ∀ entry tree, Prunes entry.1 tree (each entry tree).2) (entries : List (Entry N))
    (tree : Tree N) {other : Entry N} (there : other ∈ (removeEach each entries tree).2.entries) :
    other ∈ tree.entries := by
  induction entries generalizing tree with
  | nil => exact there
  | cons entry rest ih =>
      have old := (step entry tree).old other
      unfold removeEach at there
      rcases removed : each entry tree with ⟨_ | _, middle⟩
      · rw [removed] at old there
        exact old there
      · rw [removed] at old there
        exact old (ih middle there)

omit [DecidableEq N] in
theorem prunes_removeEach {each : Entry N → Tree N → Bool × Tree N}
    (step : ∀ entry tree, Prunes entry.1 tree (each entry tree).2) (entries : List (Entry N))
    (inside : ∀ entry ∈ entries, place <+: entry.1) (tree : Tree N) :
    Prunes place tree (removeEach each entries tree).2 :=
  ⟨fun _ there apart => removeEach_keeps step entries tree there fun entry member below =>
      apart ((inside entry member).trans below),
    fun _ there => removeEach_old step entries tree there⟩

/-- A removal loses nothing but at or below its place. -/
theorem prunes_removeEntry (depth : Nat) (entry : Entry N) (tree : Tree N) :
    Prunes entry.1 tree (removeEntry fails depth entry tree).2 := by
  induction depth generalizing entry tree with
  | zero =>
      rcases entry with ⟨place, _ | _⟩
      · exact .refl place tree
      · exact prunes_unlink
  | succ depth ih =>
      rcases entry with ⟨place, _ | _⟩
      · unfold removeEntry
        split
        · exact .refl place tree
        · have inside : ∀ child ∈ tree.children place, place <+: child.1 := by
            intro child member
            rw [← (Tree.mem_children.mp member).2]
            exact List.dropLast_prefix child.1
          have first := prunes_removeEach (fun entry tree => ih entry tree) _ inside tree
          rcases removed : removeEach (removeEntry fails depth) (tree.children place) tree with
            ⟨_ | _, middle⟩
          · rw [removed] at first
            exact first
          · rw [removed] at first
            exact first.trans prunes_unlink
      · exact prunes_unlink

omit [DecidableEq N] in
/-- Where all removals succeed, each has cleared its place. -/
theorem removeEach_clears {each : Entry N → Tree N → Bool × Tree N}
    (step : ∀ entry tree, Prunes entry.1 tree (each entry tree).2)
    (clears : ∀ entry tree, (each entry tree).1 = true →
      ∀ other ∈ (each entry tree).2.entries, ¬ entry.1 <+: other.1)
    (entries : List (Entry N)) (tree : Tree N) (removed : (removeEach each entries tree).1 = true) :
    ∀ entry ∈ entries, ∀ other ∈ (removeEach each entries tree).2.entries,
      ¬ entry.1 <+: other.1 := by
  induction entries generalizing tree with
  | nil => simp
  | cons first rest ih =>
      unfold removeEach at removed ⊢
      rcases done : each first tree with ⟨_ | _, middle⟩
      · rw [done] at removed
        cases removed
      · rw [done] at removed
        dsimp only at removed ⊢
        intro entry member other there
        rcases List.mem_cons.mp member with rfl | later
        · have cleared := clears entry tree
          rw [done] at cleared
          exact cleared rfl other (removeEach_old step rest middle there)
        · exact ih middle removed entry later other there

theorem removeEntry_clears (depth : Nat) (entry : Entry N) (tree : Tree N)
    (removed : (removeEntry fails depth entry tree).1 = true) :
    ∀ other ∈ (removeEntry fails depth entry tree).2.entries, ¬ entry.1 <+: other.1 := by
  cases depth with
  | zero =>
      rcases entry with ⟨place, _ | _⟩
      · cases removed
      · exact unlink_clears removed
  | succ depth =>
      rcases entry with ⟨place, _ | _⟩
      · unfold removeEntry at removed ⊢
        split at removed
        · cases removed
        · rename_i allowed
          rw [if_neg allowed]
          rcases inner : removeEach (removeEntry fails depth) (tree.children place) tree with
            ⟨_ | _, middle⟩
          · rw [inner] at removed
            cases removed
          · rw [inner] at removed
            exact unlink_clears removed
      · exact unlink_clears removed

/-- A tree in which nothing lies deeper than a removal goes. -/
def Shallow (tree : Tree N) (place : List N) (depth : Nat) : Prop :=
  ∀ entry ∈ tree.entries, place <+: entry.1 → entry.1.length < place.length + depth

/-- Without failures, everything in a directory is removed. -/
theorem removeEach_succeeds {depth : Nat}
    (step : ∀ entry (tree : Tree N), entry ∈ tree.entries → Shallow tree entry.1 depth →
      (removeEntry (fun _ => false) depth entry tree).1 = true)
    (entries : List (Entry N)) (tree : Tree N)
    (there : ∀ entry ∈ entries, entry ∈ tree.entries)
    (apart : entries.Pairwise fun first second => ¬ first.1 <+: second.1)
    (shallow : ∀ entry ∈ entries, Shallow tree entry.1 depth) :
    (removeEach (removeEntry (fun _ => false) depth) entries tree).1 = true := by
  induction entries generalizing tree with
  | nil => rfl
  | cons first rest ih =>
      rcases List.pairwise_cons.mp apart with ⟨separate, apart⟩
      have done := step first tree (there first List.mem_cons_self)
        (shallow first List.mem_cons_self)
      have prunes : Prunes first.1 tree (removeEntry (fun _ => false) depth first tree).2 :=
        prunes_removeEntry depth first tree
      unfold removeEach
      rcases removed : removeEntry (fun _ => false) depth first tree with ⟨_ | _, middle⟩
      · rw [removed] at done
        cases done
      · rw [removed] at prunes
        refine ih middle ?_ apart ?_
        · intro entry member
          exact prunes.kept entry (there entry (List.mem_cons_of_mem _ member))
            (separate entry member)
        · intro entry member other remaining
          exact shallow entry (List.mem_cons_of_mem _ member) other (prunes.old other remaining)

theorem unlink_succeeds (empty : ∀ entry ∈ tree.entries, entry.1.dropLast ≠ place) :
    (unlink (fun _ => false) place tree).1 = true := by
  unfold unlink Tree.remove
  rw [dif_pos empty]
  rfl

omit [DecidableEq N] in
/-- Two entries at one place are the same. -/
theorem Tree.entry_unique {first second : Entry N} (there : first ∈ tree.entries)
    (there' : second ∈ tree.entries) (same : first.1 = second.1) : first = second :=
  List.inj_on_of_nodup_map tree.distinct there there' same

omit [DecidableEq N] in
/-- A file that is no directory has nothing in it. -/
theorem Tree.empty_of_other (there : (place, Kind.other) ∈ tree.entries) :
    ∀ entry ∈ tree.entries, entry.1.dropLast ≠ place := by
  intro entry member within
  rcases tree.parents entry member with root | directory
  · exact tree.named _ there (within.symm.trans root)
  · rw [within] at directory
    cases Tree.entry_unique there directory rfl

/-- The entries of a directory lie beside each other. -/
theorem Tree.children_apart :
    (tree.children place).Pairwise fun first second => ¬ first.1 <+: second.1 := by
  have distinct : (tree.children place).Pairwise fun first second => first.1 ≠ second.1 :=
    (List.pairwise_map.mp tree.distinct).sublist List.filter_sublist
  refine distinct.imp_of_mem fun {first second} member member' differs below => differs ?_
  rcases Tree.mem_children.mp member with ⟨there, within⟩
  rcases Tree.mem_children.mp member' with ⟨there', within'⟩
  have lengths : first.1.length = second.1.length := by
    have long := List.length_pos_iff.mpr (tree.named _ there)
    have long' := List.length_pos_iff.mpr (tree.named _ there')
    have same := congrArg List.length (within.trans within'.symm)
    rw [List.length_dropLast, List.length_dropLast] at same
    omega
  exact below.eq_of_length lengths

/-- Without failures, whatever is removed is removed, if it is not too deep. -/
theorem removeEntry_succeeds (depth : Nat) (entry : Entry N) (tree : Tree N)
    (there : entry ∈ tree.entries) (shallow : Shallow tree entry.1 depth) :
    (removeEntry (fun _ => false) depth entry tree).1 = true := by
  induction depth generalizing entry tree with
  | zero =>
      have less := shallow entry there List.prefix_rfl
      omega
  | succ depth ih =>
      rcases entry with ⟨place, _ | _⟩
      · have children : (removeEach (removeEntry (fun _ => false) depth) (tree.children place)
            tree).1 = true := by
          refine removeEach_succeeds ih _ tree ?_ Tree.children_apart ?_
          · exact fun child member => (Tree.mem_children.mp member).1
          · intro child member other remaining below
            rcases Tree.mem_children.mp member with ⟨inside, within⟩
            have long := List.length_pos_iff.mpr (tree.named _ inside)
            have upper : place <+: child.1 := within ▸ List.dropLast_prefix child.1
            have less : other.1.length < place.length + (depth + 1) :=
              shallow other remaining (upper.trans below)
            have length := congrArg List.length within
            rw [List.length_dropLast] at length
            omega
        have pruning : ∀ entry (tree : Tree N),
            Prunes entry.1 tree (removeEntry (fun _ => false) depth entry tree).2 :=
          prunes_removeEntry depth
        have cleared := removeEach_clears pruning (removeEntry_clears depth) _ tree children
        have old : ∀ other ∈ _, other ∈ tree.entries := fun other =>
          removeEach_old pruning (tree.children place) tree
        unfold removeEntry
        rw [if_neg Bool.false_ne_true]
        rcases removed : removeEach (removeEntry (fun _ => false) depth) (tree.children place) tree
          with ⟨_ | _, middle⟩
        · rw [removed] at children
          cases children
        · rw [removed] at cleared old
          refine unlink_succeeds fun other remaining within => ?_
          have child := Tree.mem_children.mpr ⟨old other remaining, within⟩
          exact cleared other child other remaining List.prefix_rfl
      · exact unlink_succeeds (Tree.empty_of_other there)

omit [DecidableEq N] in
theorem Tree.length_le_depth {entry : Entry N} (there : entry ∈ tree.entries) :
    entry.1.length ≤ tree.depth := by
  unfold Tree.depth
  generalize tree.entries = entries at there
  induction entries with
  | nil => cases there
  | cons first rest ih =>
      rw [List.map_cons, List.foldr_cons]
      rcases List.mem_cons.mp there with rfl | later
      · exact Nat.le_max_left _ _
      · exact Nat.le_trans (ih later) (Nat.le_max_right _ _)

/-- What is below an entry of a directory is below the directory. -/
theorem Tree.above_of_child {child : Entry N} {lower : List N} (member : child ∈ tree.children place)
    (below : child.1 <+: lower) : Above place lower := by
  rcases Tree.mem_children.mp member with ⟨there, rfl⟩
  have shorter : child.1.dropLast.length < child.1.length := by
    have long := List.length_pos_iff.mpr (tree.named _ there)
    rw [List.length_dropLast]
    omega
  refine ⟨(List.dropLast_prefix child.1).trans below, ?_⟩
  intro equal
  have long := below.length_le
  rw [← equal] at long
  omega

/-- Without failures, a directory can be cleared. -/
theorem clear_succeeds :
    (removeEach (removeEntry (fun _ => false) tree.depth) (tree.children place) tree).1 = true := by
  refine removeEach_succeeds (removeEntry_succeeds tree.depth) _ tree ?_ Tree.children_apart ?_
  · exact fun child member => (Tree.mem_children.mp member).1
  · intro child member other there _
    have long := List.length_pos_iff.mpr (tree.named _ (Tree.mem_children.mp member).1)
    have short := Tree.length_le_depth there
    omega

/-- A directory that is cleared has nothing below it. -/
theorem clear_clears (depth : Nat) {entry : Entry N}
    (cleared : (removeEach (removeEntry fails depth) (tree.children place) tree).1 = true)
    (below : Above place entry.1) :
    entry ∉ (removeEach (removeEntry fails depth) (tree.children place) tree).2.entries := by
  intro remaining
  rcases entry with ⟨lower, kind⟩
  rcases below with ⟨⟨rest, rfl⟩, differs⟩
  cases rest with
  | nil => exact differs (List.append_nil place).symm
  | cons name rest =>
      rcases Tree.exists_child remaining with ⟨child, left, within⟩
      have old := removeEach_old (prunes_removeEntry depth) _ tree left
      exact removeEach_clears (prunes_removeEntry depth) (removeEntry_clears depth) _ tree cleared
        child (Tree.mem_children.mpr ⟨old, within⟩) child left List.prefix_rfl

/-! ## Directories that are created -/

theorem createDirAll_keeps (above names : List N) (tree : Tree N) {entry : Entry N}
    (there : entry ∈ tree.entries) : entry ∈ (createDirAll fails above names tree).2.entries := by
  induction names generalizing above tree with
  | nil => exact there
  | cons name rest ih =>
      unfold createDirAll
      split
      · exact ih _ tree there
      · exact there
      · split
        · exact there
        · split
          · rename_i after made
            refine ih _ after ?_
            unfold Tree.makeDir at made
            split at made
            · rw [← Option.some.inj made]
              exact List.mem_append_left _ there
            · cases made
          · exact there

omit [DecidableEq N] in
/-- What holds an entry is a directory. -/
theorem Tree.directory_of_above {entry : Entry N} (there : entry ∈ tree.entries)
    (above : Above place entry.1) : place = [] ∨ (place, Kind.directory) ∈ tree.entries := by
  rcases entry with ⟨_, kind⟩
  rcases above with ⟨⟨rest, rfl⟩, differs⟩
  cases rest with
  | nil => exact absurd (List.append_nil place).symm differs
  | cons name rest =>
      rcases Tree.exists_child there with ⟨child, inside, within⟩
      rw [← within]
      exact tree.parents child inside

theorem Tree.kind_of_above {entry : Entry N} (there : entry ∈ tree.entries)
    (above : Above place entry.1) : tree.kind place = some .directory := by
  unfold Tree.kind
  split
  · rfl
  · rename_i nonempty
    rcases Tree.directory_of_above there above with root | directory
    · exact absurd root nonempty
    · exact (Association.lookup_eq_some_iff tree.distinct).mpr directory

/-- Nothing is created above an entry. -/
theorem createDirAll_of_above (above names : List N) {entry : Entry N}
    (there : entry ∈ tree.entries) (lower : Above (above ++ names) entry.1) :
    createDirAll fails above names tree = (true, tree) := by
  induction names generalizing above with
  | nil => rfl
  | cons name rest ih =>
      have upper : Above (above ++ [name]) entry.1 := by
        refine lower.of_prefix ?_
        rw [List.append_cons above name rest]
        exact List.prefix_append _ rest
      unfold createDirAll
      rw [Tree.kind_of_above there upper]
      refine ih _ ?_
      rw [List.append_assoc]
      exact lower

end Calls

end XanhTab.Files
