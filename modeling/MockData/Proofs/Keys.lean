import Mathlib.Data.List.Nodup

/-!
Keys: looking a record up by its own.
-/
namespace MockData

variable {α : Type} {key : α → String} {as : List α} {a : α} {id : String}

theorem key_of_find? (found : as.find? (key · = id) = some a) : key a = id := by
  simpa using List.find?_some found

theorem find?_key_eq_none_iff : as.find? (key · = id) = none ↔ id ∉ as.map key := by
  simp

theorem find?_of_mem (distinct : (as.map key).Nodup) (member : a ∈ as) :
    as.find? (key · = key a) = some a := by
  obtain ⟨before, after, rfl⟩ := List.append_of_mem member
  rw [List.map_append, List.map_cons, List.nodup_middle, List.nodup_cons] at distinct
  refine List.find?_eq_some_iff_append.mpr ⟨by simp, before, after, rfl, fun b earlier => ?_⟩
  have other : key b ≠ key a := by
    intro same
    exact distinct.1 (List.mem_append_left _ (same ▸ List.mem_map_of_mem earlier))
  simpa using other

end MockData
