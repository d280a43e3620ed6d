import Mathlib.Data.List.Nodup

/-!
# Association lists

Lookups in lists of pairs in which no key comes twice.
-/

namespace XanhTab.Association

universe u v

variable {α : Type u} {β : Type v} [BEq α] [LawfulBEq α]
variable {entries : List (α × β)} {key : α} {value : β}

theorem mem_of_lookup (found : entries.lookup key = some value) : (key, value) ∈ entries := by
  rcases List.lookup_eq_some_iff.mp found with ⟨front, back, rfl, _⟩
  exact List.mem_append_right _ List.mem_cons_self

/-- Where no key comes twice, an entry is what is found under its key. -/
theorem lookup_eq_some_iff (distinct : (entries.map Prod.fst).Nodup) :
    entries.lookup key = some value ↔ (key, value) ∈ entries := by
  refine ⟨mem_of_lookup, ?_⟩
  induction entries with
  | nil => exact fun member => absurd member List.not_mem_nil
  | cons first rest ih =>
      rcases first with ⟨other, held⟩
      rw [List.map_cons, List.nodup_cons] at distinct
      intro member
      rcases List.mem_cons.mp member with equal | later
      · cases equal
        exact List.lookup_cons_self
      · have differs : key ≠ other := by
          rintro rfl
          exact distinct.1 (List.mem_map.mpr ⟨_, later, rfl⟩)
        rw [List.lookup_cons, beq_eq_false_iff_ne.mpr differs]
        exact ih distinct.2 later

theorem lookup_eq_none_iff : entries.lookup key = none ↔ key ∉ entries.map Prod.fst := by
  rw [List.lookup_eq_none_iff]
  simp only [List.mem_map, not_exists, not_and, bne_iff_ne, ne_eq]
  exact ⟨fun absent entry present equal => absent entry present equal.symm,
    fun absent entry present equal => absent entry present equal.symm⟩

end XanhTab.Association
