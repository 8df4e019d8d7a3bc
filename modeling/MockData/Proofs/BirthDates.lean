import MockData.Proofs.Spellings
import MockData.Proofs.Validity

/-!
Birth dates in a table that the check passes. The check has no issue for a birth date that can be
read, and a day can be read from other texts than its full form. So it vouches for the full form of
all the others exactly in the tables where no day is spelled in another way.
-/
namespace MockData

namespace Customer

variable {cs : List Customer} {c : Customer} {issues : List DatasetIssue}

def IsClear (issues : List DatasetIssue) (c : Customer) : Prop :=
  ∀ issue ∈ issues, issue.code = "invalid_date_of_birth" → issue.recordId ≠ c.id

/-- In a table that is not refused, each birth date without an issue has the full form. -/
def VouchesForDates (cs : List Customer) : Prop :=
  ∀ issues, validate cs = .ok issues → ∀ c ∈ cs, IsClear issues c →
    Date.IsFullForm c.birthDate.toList

theorem validate_eq_ok_iff : validate cs = .ok issues ↔
    ¬ SharesId cs ∧ issues = cs.filterMap birthDateIssue? := by
  rw [validate, validateFrom_eq, ← nodup_ids_iff]
  cases found : firstRepeat? [] (cs.map (·.id)) with
  | some id =>
    obtain ⟨c, first, -⟩ := isFirstRepeat_of_firstRepeat? found
    have repeated : ¬ (cs.map (·.id)).Nodup := fun distinct =>
      nodup_ids_iff.mp distinct first.sharesId
    simp [repeated]
  | none =>
    have distinct := (firstRepeat?_eq_none_iff.mp found).1
    simp [distinct, eq_comm]

theorem isClear_iff (passed : validate cs = .ok issues) (member : c ∈ cs) :
    IsClear issues c ↔ Date.ofText? c.birthDate ≠ none := by
  obtain ⟨apart, rfl⟩ := validate_eq_ok_iff.mp passed
  rw [← birthDateIssue?_eq_none_iff]
  constructor
  · intro clear
    by_contra told
    obtain ⟨issue, found⟩ := Option.ne_none_iff_exists'.mp told
    obtain ⟨code, id, -⟩ := reports_birthDateIssue? found
    exact clear issue (List.mem_filterMap.mpr ⟨c, member, found⟩) code id
  · intro silent issue listed _ same
    obtain ⟨d, member', found⟩ := List.mem_filterMap.mp listed
    obtain ⟨-, id, -⟩ := reports_birthDateIssue? found
    have distinct := nodup_ids_iff.mpr apart
    obtain rfl := List.inj_on_of_nodup_map distinct member' member (id.symm.trans same)
    rw [silent] at found
    cases found

theorem vouchesForDates_iff (cs : List Customer) : VouchesForDates cs ↔ SharesId cs ∨
    ∀ c ∈ cs, ∀ s : Date.Spelling, s.text = c.birthDate.toList → s.date.isDay → s.InFull := by
  constructor
  · intro vouches
    by_cases shared : SharesId cs
    · exact .inl shared
    · refine .inr fun c member s spelled isDay => ?_
      have passed := validate_eq_ok_iff.mpr ⟨shared, rfl⟩
      have readable : Date.ofText? c.birthDate = some s.date := by
        rw [Date.ofText?, Date.ofChars?_eq_some_iff]
        exact ⟨s, spelled, rfl, isDay⟩
      have clear := (isClear_iff passed member).mpr (by simp [readable])
      have full := vouches _ passed c member clear
      rw [← spelled] at full
      exact (Date.Spelling.isFullForm_text_iff isDay).mp full
  · rintro (shared | plain) issues passed c member clear
    · exact absurd shared (validate_eq_ok_iff.mp passed).1
    · obtain ⟨d, readable⟩ := Option.ne_none_iff_exists'.mp ((isClear_iff passed member).mp clear)
      obtain ⟨s, spelled, rfl, isDay⟩ := Date.ofChars?_eq_some_iff.mp readable
      rw [← spelled]
      exact (Date.Spelling.isFullForm_text_iff isDay).mpr (plain c member s spelled isDay)

def briefTable : List Customer := [⟨"A", "An", "012345678901", "", "", "", "1990-1-5"⟩]

theorem not_vouchesForDates_brief :
    validate briefTable = .ok [] ∧ ¬ VouchesForDates briefTable := by
  have passed : validate briefTable = .ok [] := by decide +kernel
  refine ⟨passed, ?_⟩
  intro vouches
  have full := vouches [] passed _ (List.mem_singleton.mpr rfl) (by simp [IsClear])
  have length := Date.length_of_isFullForm full
  revert length
  decide

end Customer

end MockData
