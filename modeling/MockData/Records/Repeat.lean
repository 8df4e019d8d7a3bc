/-!
The earliest repetition in a list.
-/
namespace MockData

def firstRepeat? (seen : List String) : List String → Option String
  | [] => none
  | s :: rest => if s ∈ seen then some s else firstRepeat? (s :: seen) rest

theorem firstRepeat?_eq_none_iff {seen ls : List String} :
    firstRepeat? seen ls = none ↔ ls.Nodup ∧ ∀ s ∈ ls, s ∉ seen := by
  induction ls generalizing seen with
  | nil => simp [firstRepeat?]
  | cons s ls ih =>
    by_cases h : s ∈ seen
    · simp [firstRepeat?, h]
    · simp only [firstRepeat?, h, ↓reduceIte, ih, List.mem_cons, not_or, List.nodup_cons]
      constructor
      · exact fun ⟨nodup, fresh⟩ => ⟨⟨fun m => (fresh s m).1 rfl, nodup⟩,
          fun t m => m.elim (fun e => e ▸ h) (fun m => (fresh t m).2)⟩
      · exact fun ⟨⟨out, nodup⟩, fresh⟩ => ⟨nodup,
          fun t m => ⟨fun e => out (e ▸ m), fresh t (.inr m)⟩⟩

theorem exists_of_firstRepeat? {seen ls : List String} {s : String}
    (found : firstRepeat? seen ls = some s) : ∃ before after, ls = before ++ s :: after ∧
      (s ∈ before ∨ s ∈ seen) ∧ firstRepeat? seen before = none := by
  induction ls generalizing seen with
  | nil => simp [firstRepeat?] at found
  | cons t ls ih =>
    by_cases known : t ∈ seen
    · obtain rfl : t = s := by simpa [firstRepeat?, known] using found
      exact ⟨[], ls, rfl, .inr known, rfl⟩
    · rw [firstRepeat?, if_neg known] at found
      obtain ⟨before, after, rfl, stood, clear⟩ := ih found
      refine ⟨t :: before, after, rfl, ?_, by rw [firstRepeat?, if_neg known, clear]⟩
      rcases stood with earlier | seen
      · exact .inl (List.mem_cons_of_mem t earlier)
      · rcases List.mem_cons.mp seen with rfl | seen
        · exact .inl List.mem_cons_self
        · exact .inr seen

end MockData
