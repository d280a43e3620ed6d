import XanhTab.Program.Pool

/-!
# Notes

A world together with notes of the replies that it has given.  The notes have no
influence on what a program does or finds.
-/

namespace XanhTab

universe u v w x y z

structure Noted (W : Type y) (H : Type z) where
  state : W
  notes : H

namespace Answer

variable {C : Type v} {ρ : C → Type w} {W O : Type y} {H : Type y}

/-- The same replies, which are noted. -/
def noting (note : (request : C) → ρ request → H → H) (answer : Answer C ρ W O) :
    Answer C ρ (Noted W H) O :=
  fun request outcome noted => (answer request outcome noted.state).map fun answered =>
    (answered.1, ⟨answered.2, note request answered.1 noted.notes⟩)

variable {note : (request : C) → ρ request → H → H} {answer : Answer C ρ W O} {request : C}
  {outcome : O} {noted noted' : Noted W H} {reply : ρ request}

theorem noting_eq_some
    (answered : noting note answer request outcome noted = some (reply, noted')) :
    answer request outcome noted.state = some (reply, noted'.state) ∧
      noted'.notes = note request reply noted.notes := by
  rcases Option.map_eq_some_iff.mp answered with ⟨⟨reply', state⟩, given, equal⟩
  cases equal
  exact ⟨given, rfl⟩

end Answer

/-- The request that the operation makes next. -/
def Config.asks {M : Type u} {C : Type v} {ρ : C → Type w} {α : Type x} {W : Type y}
    (config : Config M C ρ α W) : Option C :=
  match config.holder with
  | some (.call _ request _) => some request
  | _ => none

end XanhTab
