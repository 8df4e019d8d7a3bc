/-!
Changing one record of an ordered list: the first one that satisfies a test. Where no record does,
the list stays as it is.
-/
namespace MockData

def modifyFirst (p : α → Bool) (f : α → α) : List α → List α
  | [] => []
  | a :: as => if p a then f a :: as else a :: modifyFirst p f as

variable {p : α → Bool} {f : α → α} {as : List α}

theorem modifyFirst_of_find?_eq_none (h : as.find? p = none) : modifyFirst p f as = as := by
  induction as with
  | nil => rfl
  | cons a as ih =>
    by_cases ha : p a
    · simp [ha] at h
    · simp only [List.find?_cons, ha] at h
      simp [modifyFirst, ha, ih h]

theorem modifyFirst_append_cons {before after : List α} {a : α} (h : ∀ b ∈ before, p b = false)
    (ha : p a) : modifyFirst p f (before ++ a :: after) = before ++ f a :: after := by
  induction before with
  | nil => simp [modifyFirst, ha]
  | cons b before ih =>
    simp only [List.mem_cons, forall_eq_or_imp] at h
    simp [modifyFirst, h.1, ih h.2]

/-- Where the first record is that satisfies a test, and what is left of the list when it is
changed or taken out. -/
theorem exists_first {a : α} (found : as.find? p = some a) : ∃ before after,
    as = before ++ a :: after ∧ as.eraseP p = before ++ after ∧
      ∀ f, modifyFirst p f as = before ++ f a :: after := by
  obtain ⟨holds, before, after, rfl, fails⟩ := List.find?_eq_some_iff_append.mp found
  refine ⟨before, after, rfl, ?_, ?_⟩
  · rw [List.eraseP_append_right (a :: after) (by simpa using fails), List.eraseP_cons_of_pos holds]
  · intro f
    exact modifyFirst_append_cons (by simpa using fails) holds

theorem modifyFirst_id : modifyFirst p (fun a => a) as = as := by
  induction as with
  | nil => rfl
  | cons a as ih => by_cases h : p a <;> simp [modifyFirst, h, ih]

theorem find?_modifyFirst (kept : ∀ a, p (f a) = p a) :
    (modifyFirst p f as).find? p = (as.find? p).map f := by
  induction as with
  | nil => rfl
  | cons a as ih => by_cases h : p a <;> simp [modifyFirst, h, kept, ih]

theorem modifyFirst_modifyFirst {g : α → α} (kept : ∀ a, p (f a) = p a) :
    modifyFirst p g (modifyFirst p f as) = modifyFirst p (fun a => g (f a)) as := by
  induction as with
  | nil => rfl
  | cons a as ih => by_cases h : p a <;> simp [modifyFirst, h, kept, ih]

theorem modifyFirst_eq_iff {g : α → α} {a : α} (found : as.find? p = some a) :
    modifyFirst p f as = modifyFirst p g as ↔ f a = g a := by
  obtain ⟨before, after, -, -, modified⟩ := exists_first found
  rw [modified, modified]
  simp

end MockData
