import MockData.Customer.Validation
import MockData.Proofs.Lookups
import MockData.Records.Repeat

/-!
What the check of a table says of it. The check goes through the customers once and may stop on the
way, but its result is one of the table as a whole: it refuses a table in which an id comes again,
and else it has an issue for each birth date that cannot be read. In a table that it passes, an id
means one customer.
-/
namespace MockData

def DatasetIssue.Reports (issue : DatasetIssue) (c : Customer) : Prop :=
  issue.code = "invalid_date_of_birth" ∧ issue.recordId = c.id ∧
    issue.message = "date of birth is not YYYY-MM-DD: " ++ c.birthDate

namespace Customer

def SharesId (cs : List Customer) : Prop :=
  ∃ (i j : Nat) (a b : Customer), i < j ∧ cs[i]? = some a ∧ cs[j]? = some b ∧ a.id = b.id

def IsFirstRepeat (cs : List Customer) (c : Customer) : Prop :=
  ∃ before after, cs = before ++ c :: after ∧ c.id ∈ before.map (·.id) ∧ ¬ SharesId before

variable {cs : List Customer} {c : Customer}

theorem nodup_ids_iff : (cs.map (·.id)).Nodup ↔ ¬ SharesId cs := by
  rw [List.Nodup, List.pairwise_map, List.pairwise_iff_getElem]
  constructor
  · rintro distinct ⟨i, j, a, b, before, first, second, same⟩
    obtain ⟨hi, rfl⟩ := List.getElem?_eq_some_iff.mp first
    obtain ⟨hj, rfl⟩ := List.getElem?_eq_some_iff.mp second
    exact distinct i j hi hj before same
  · intro apart i j hi hj before same
    exact apart ⟨i, j, cs[i], cs[j], before, List.getElem?_eq_getElem hi,
      List.getElem?_eq_getElem hj, same⟩

/-- The check stops at the first repetition of an id, and else comes to the end with all issues. -/
theorem validateFrom_eq (seen : List String) (issues : List DatasetIssue) (cs : List Customer) :
    validateFrom seen issues cs =
      match firstRepeat? seen (cs.map (·.id)) with
      | some id => .error (.duplicateId id)
      | none => .ok (issues ++ cs.filterMap birthDateIssue?) := by
  induction cs generalizing seen issues with
  | nil => simp [validateFrom, firstRepeat?]
  | cons c cs ih =>
    by_cases known : c.id ∈ seen
    · simp [validateFrom, firstRepeat?, known]
    · have gathered : issues ++ (birthDateIssue? c).toList ++ cs.filterMap birthDateIssue? =
          issues ++ (c :: cs).filterMap birthDateIssue? := by
        cases found : birthDateIssue? c with
        | none => simp [found]
        | some issue => simp [found]
      rw [validateFrom, if_neg known, ih, List.map_cons, firstRepeat?, if_neg known, gathered]

theorem isFirstRepeat_of_firstRepeat? {id : String}
    (found : firstRepeat? [] (cs.map (·.id)) = some id) : ∃ c, IsFirstRepeat cs c ∧ c.id = id := by
  obtain ⟨front, back, split, stood, clear⟩ := exists_of_firstRepeat? found
  obtain ⟨before, rest, rfl, rfl, tail⟩ := List.map_eq_append_iff.mp split
  obtain ⟨c, after, rfl, rfl, -⟩ := List.map_eq_cons_iff.mp tail
  have earlier : c.id ∈ before.map (·.id) := stood.resolve_right List.not_mem_nil
  have distinct := (firstRepeat?_eq_none_iff.mp clear).1
  exact ⟨c, ⟨before, after, rfl, earlier, nodup_ids_iff.mp distinct⟩, rfl⟩

theorem IsFirstRepeat.sharesId (first : IsFirstRepeat cs c) : SharesId cs := by
  obtain ⟨before, after, rfl, earlier, -⟩ := first
  have repeated : ¬ ((before ++ c :: after).map (·.id)).Nodup := by
    rw [List.map_append, List.map_cons, List.nodup_middle, List.nodup_cons]
    exact fun distinct => distinct.1 (List.mem_append_left _ earlier)
  exact not_not.mp fun apart => repeated (nodup_ids_iff.mpr apart)

theorem reports_birthDateIssue? {issue : DatasetIssue} (found : birthDateIssue? c = some issue) :
    issue.Reports c := by
  rw [birthDateIssue?] at found
  split at found
  · cases found
  · cases found
    exact ⟨rfl, rfl, rfl⟩

theorem birthDateIssue?_eq_none_iff :
    birthDateIssue? c = none ↔ Date.ofText? c.birthDate ≠ none := by
  rw [birthDateIssue?, Option.ne_none_iff_isSome]
  split <;> simp [*]

theorem forall₂_birthDateIssues (cs : List Customer) :
    List.Forall₂ DatasetIssue.Reports (cs.filterMap birthDateIssue?)
      (cs.filter (Date.ofText? ·.birthDate = none)) := by
  induction cs with
  | nil => exact .nil
  | cons c cs ih =>
    cases found : birthDateIssue? c with
    | none =>
      have readable := birthDateIssue?_eq_none_iff.mp found
      rwa [List.filterMap_cons_none found, List.filter_cons_of_neg (by simpa using readable)]
    | some issue =>
      have unreadable : Date.ofText? c.birthDate = none := by
        by_contra readable
        rw [birthDateIssue?_eq_none_iff.mpr readable] at found
        cases found
      rw [List.filterMap_cons_some found, List.filter_cons_of_pos (by simpa using unreadable)]
      exact .cons (reports_birthDateIssue? found) ih

/-- What a check says of a table: whether it can be used, which id is in the way if it cannot, and
which birth dates are in doubt if it can; then its ids address its customers one by one. -/
structure Judges (result : Except DatasetError (List DatasetIssue)) (cs : List Customer) :
    Prop where
  refuses_iff : (∃ e, result = .error e) ↔ SharesId cs
  names : ∀ e, result = .error e → ∃ c, IsFirstRepeat cs c ∧
    e.message = "invalid dataset: duplicate customer id: " ++ c.id
  lists : ¬ SharesId cs → ∃ issues, result = .ok issues ∧
    issues.Forall₂ DatasetIssue.Reports (cs.filter (Date.ofText? ·.birthDate = none))
  finds : ∀ issues, result = .ok issues → ∀ c ∈ cs, (CustomerStore.mk cs).find? c.id = some c
  size_eq : ∀ issues, result = .ok issues → (Directory.ofCustomers cs).size = cs.length

theorem IsFirstRepeat.judges_error (first : IsFirstRepeat cs c) :
    Judges (.error (.duplicateId c.id)) cs where
  refuses_iff := ⟨fun _ => first.sharesId, fun _ => ⟨_, rfl⟩⟩
  names e told := by
    cases told
    exact ⟨c, first, rfl⟩
  lists apart := absurd first.sharesId apart
  finds _ passed := nomatch passed
  size_eq _ passed := nomatch passed

theorem judges_ok (distinct : (cs.map (·.id)).Nodup) :
    Judges (.ok (cs.filterMap birthDateIssue?)) cs where
  refuses_iff := ⟨nofun, fun shared => absurd shared (nodup_ids_iff.mp distinct)⟩
  names _ told := nomatch told
  lists _ := ⟨_, rfl, forall₂_birthDateIssues cs⟩
  finds _ _ c member := find?_of_mem distinct member
  size_eq _ _ := by
    rw [Directory.size_ofCustomers, List.toFinset_card_of_nodup distinct, List.length_map]

theorem validate_judges (cs : List Customer) : Judges (validate cs) cs := by
  rw [validate, validateFrom_eq]
  cases found : firstRepeat? [] (cs.map (·.id)) with
  | some id =>
    obtain ⟨c, first, rfl⟩ := isFirstRepeat_of_firstRepeat? found
    exact first.judges_error
  | none => exact judges_ok (firstRepeat?_eq_none_iff.mp found).1

example :
    let c : Customer := ⟨"A", "An", "012345678901", "", "", "", "15/01/1990"⟩
    let d : Customer := { c with id := "B", birthDate := "1990-01-15" }
    validate [c, d, c, d] = .error (.duplicateId "A") ∧ validate [c, d] = .ok
      [⟨"invalid_date_of_birth", "A", "date of birth is not YYYY-MM-DD: 15/01/1990"⟩] := by
  decide +kernel

end Customer

end MockData
