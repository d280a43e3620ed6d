import Mathlib.Data.List.Basic

/-!
# Zippers

A nonempty list with a place in it, as the entries before the place, nearest
first, the entry there, and the entries after it.
-/

namespace XanhTab

universe u

structure Zipper (α : Type u) where
  back : List α
  current : α
  forward : List α
  deriving DecidableEq, Repr

namespace Zipper

variable {α : Type u} {zipper : Zipper α}

/-- A zipper of one entry. -/
def single (entry : α) : Zipper α :=
  ⟨[], entry, []⟩

/-- A new entry takes the place of those after the current one. -/
def visit (entry : α) (zipper : Zipper α) : Zipper α :=
  ⟨zipper.current :: zipper.back, entry, []⟩

/-- One entry back, if there is one. -/
def goBack (zipper : Zipper α) : Option (Zipper α) :=
  match zipper.back with
  | [] => none
  | entry :: rest => some ⟨rest, entry, zipper.current :: zipper.forward⟩

/-- One entry forward, if there is one. -/
def goForward (zipper : Zipper α) : Option (Zipper α) :=
  match zipper.forward with
  | [] => none
  | entry :: rest => some ⟨zipper.current :: zipper.back, entry, rest⟩

/-! ## The list with an index -/

def toList (zipper : Zipper α) : List α :=
  zipper.back.reverse ++ zipper.current :: zipper.forward

def index (zipper : Zipper α) : Nat :=
  zipper.back.length

theorem index_lt_length (zipper : Zipper α) : zipper.index < zipper.toList.length := by
  simp [index, toList]

@[simp]
theorem getElem?_index (zipper : Zipper α) : zipper.toList[zipper.index]? = some zipper.current := by
  simp [index, toList]

theorem take_index_succ (zipper : Zipper α) :
    zipper.toList.take (zipper.index + 1) = zipper.back.reverse ++ [zipper.current] := by
  have split : zipper.toList = (zipper.back.reverse ++ [zipper.current]) ++ zipper.forward := by
    simp [toList]
  have length : zipper.index + 1 = (zipper.back.reverse ++ [zipper.current]).length := by
    simp [index]
  rw [split, length, List.take_left]

theorem toList_visit (entry : α) (zipper : Zipper α) :
    (zipper.visit entry).toList = zipper.toList.take (zipper.index + 1) ++ [entry] := by
  rw [take_index_succ]
  simp [visit, toList]

/-- There is an entry to go back to exactly if the index is not the first. -/
theorem goBack_eq_none_iff : zipper.goBack = none ↔ zipper.index = 0 := by
  rcases zipper with ⟨_ | ⟨entry, rest⟩, current, forward⟩
  · exact ⟨fun _ => rfl, fun _ => rfl⟩
  · simp [goBack, index]

theorem goBack_eq_some {earlier : Zipper α} (moved : zipper.goBack = some earlier) :
    earlier.toList = zipper.toList ∧ earlier.index + 1 = zipper.index := by
  rcases zipper with ⟨_ | ⟨entry, rest⟩, current, forward⟩
  · cases moved
  · cases moved
    constructor
    · simp [toList]
    · rfl

/-- There is an entry to go forward to exactly if the index is not the last. -/
theorem goForward_eq_none_iff :
    zipper.goForward = none ↔ zipper.toList.length ≤ zipper.index + 1 := by
  rcases zipper with ⟨back, current, _ | ⟨entry, rest⟩⟩
  · simp [goForward, index, toList]
  · simp [goForward, index, toList]

theorem goForward_eq_some {later : Zipper α} (moved : zipper.goForward = some later) :
    later.toList = zipper.toList ∧ later.index = zipper.index + 1 := by
  rcases zipper with ⟨back, current, _ | ⟨entry, rest⟩⟩
  · cases moved
  · cases moved
    constructor
    · simp [toList]
    · rfl

end Zipper

end XanhTab
