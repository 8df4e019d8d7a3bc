import MockData.Proofs.Keys
import MockData.Proofs.SavingBooks

/-!
Reshaping a list of books: what each becomes, which warnings are due, and that a report counts its
warnings by code as long as it records them one by one.
-/
namespace MockData

namespace Counts

variable {key : String} {n : UInt64} {entries : List (String × UInt64)}

theorem find?_setEntry (other : String) :
    (setEntry key n entries).find? (·.1 = other) =
      if key = other then some (key, n) else entries.find? (·.1 = other) := by
  induction entries with
  | nil => by_cases here : key = other <;> simp [setEntry, here]
  | cons p entries ih =>
    obtain ⟨k, m⟩ := p
    rw [setEntry]
    split
    · rename_i same
      by_cases here : k = other
      · simp [same, here]
      · simp [same, here]
    · rename_i differs
      split
      · rw [List.find?_cons]
        by_cases here : key = other
        · simp [here]
        · simp [here]
      · rw [List.find?_cons, List.find?_cons, ih]
        by_cases here : k = other
        · have elsewhere : key ≠ other := fun same => differs (same.trans here.symm)
          simp [here, elsewhere]
        · simp [here]

theorem get_insert (counts : Counts) (key other : String) (n : UInt64) :
    (counts.insert key n).get other = if key = other then n else counts.get other := by
  rw [get, insert, find?_setEntry]
  split
  · rfl
  · rfl

theorem eq_or_mem_of_mem_setEntry {p : String × UInt64} (member : p ∈ setEntry key n entries) :
    p = (key, n) ∨ p ∈ entries := by
  induction entries with
  | nil => simpa [setEntry] using member
  | cons q entries ih =>
    rw [setEntry] at member
    split at member
    · rename_i same
      rcases List.mem_cons.mp member with rfl | later
      · exact .inl (by rw [same])
      · exact .inr (List.mem_cons_of_mem q later)
    · split at member
      · rcases List.mem_cons.mp member with rfl | later
        · exact .inl rfl
        · exact .inr later
      · rcases List.mem_cons.mp member with rfl | later
        · exact .inr List.mem_cons_self
        · exact (ih later).imp_right (List.mem_cons_of_mem q)

end Counts

namespace RunReport

variable {r : RunReport}

def Tallied (r : RunReport) : Prop :=
  ∀ code, r.warningCount code = .ofNat (r.warnings.countP (·.code = code))

theorem tallied_start (runId startedAt pipeline output : String) :
    (start runId startedAt pipeline output).Tallied := fun _ => rfl

theorem Tallied.recordWarning (tallied : r.Tallied) (issue : RunIssue) :
    (r.recordWarning issue).Tallied := by
  intro code
  have before := tallied code
  rw [warningCount] at before
  rw [warningCount, RunReport.recordWarning, Counts.increment, Counts.get_insert]
  split
  · rename_i same
    rw [same, before]
    simp [same, List.countP_append, UInt64.ofNat_add]
  · rename_i differs
    rw [before]
    simp [differs, List.countP_append]

theorem Tallied.toNat_warningCount (tallied : r.Tallied) (small : r.warnings.length < UInt64.size)
    (code : String) : (r.warningCount code).toNat = r.warnings.countP (·.code = code) := by
  rw [tallied code]
  exact UInt64.toNat_ofNat_of_lt' (Nat.lt_of_le_of_lt List.countP_le_length small)

theorem Tallied.mem_of_zero (tallied : r.Tallied) {issue : RunIssue}
    (small : (r.recordWarning issue).warnings.length < UInt64.size) {code : String}
    (zero : (code, 0) ∈ (r.recordWarning issue).warningsByCode.entries) :
    (code, 0) ∈ r.warningsByCode.entries := by
  rcases Counts.eq_or_mem_of_mem_setEntry zero with new | old
  · have counted := (tallied.recordWarning issue).toNat_warningCount small issue.code
    have value : (r.recordWarning issue).warningCount issue.code = 0 := by
      rw [warningCount, RunReport.recordWarning, Counts.increment, Counts.get_insert, if_pos rfl]
      exact (Prod.mk.inj new).2.symm
    rw [value] at counted
    simp [RunReport.recordWarning, List.countP_append] at counted
  · exact old

structure Records (r : RunReport) (issues : List RunIssue) (r' : RunReport) : Prop where
  rest : r' = { r with warningsByCode := r'.warningsByCode, warnings := r.warnings ++ issues }
  tallied : r'.Tallied
  codes : ∀ code, code ∈ r'.warningsByCode.entries.map (·.1) ↔
    code ∈ r.warningsByCode.entries.map (·.1) ∨ ∃ issue ∈ issues, issue.code = code
  zeros : r'.warnings.length < UInt64.size →
    ∀ code, (code, 0) ∈ r'.warningsByCode.entries → (code, 0) ∈ r.warningsByCode.entries

theorem records_recordWarnings (tallied : r.Tallied) (issues : List RunIssue) :
    Records r issues (r.recordWarnings issues) := by
  induction issues generalizing r with
  | nil =>
    exact ⟨by simp [recordWarnings], tallied, by simp [recordWarnings], fun _ _ zero => zero⟩
  | cons issue issues ih =>
    have later := ih (tallied.recordWarning issue)
    have step : r.recordWarnings (issue :: issues) =
        (r.recordWarning issue).recordWarnings issues := rfl
    rw [step]
    refine ⟨?_, later.tallied, ?_, ?_⟩
    · refine later.rest.trans ?_
      simp [RunReport.recordWarning]
    · intro code
      rw [later.codes, RunReport.recordWarning, Counts.increment, Counts.entries_insert,
        Counts.mem_keys_setEntry]
      simp only [List.mem_cons, exists_eq_or_imp]
      grind
    · intro small code zero
      refine tallied.mem_of_zero ?_ (later.zeros small code zero)
      rw [later.rest] at small
      simp only [List.length_append] at small
      omega

end RunReport

namespace LegacyBook

/-- What a book becomes: it keeps its own texts, is joined with its customer, and its balance stops
at the greatest there is. -/
structure Becomes (d : Directory) (b : LegacyBook) (made : SavingBook) : Prop where
  id_eq : made.id = b.id
  typeId_eq : made.typeId = b.typeId
  openDate_eq : made.openDate = b.registerTime
  maturityDate_eq : made.maturityDate = b.maturityDate
  status_eq : made.status = b.status
  known : ∀ customer, d.get? b.customerId = some customer →
    made.citizenId = customer.citizenId ∧ made.customerName = customer.fullName
  unknown : d.get? b.customerId = none →
    made.citizenId = "000000000000" ∧ made.customerName = "Unknown Customer"
  balance_eq : made.balance.toInt = min (b.currentBalance.toNat : Int) Balance.greatest

def due (d : Directory) (b : LegacyBook) (made : SavingBook) : List RunIssue :=
  (if d.get? b.customerId = none then
    [⟨"warning", "unknown_customer_reference", "customer " ++ b.customerId ++ " not found",
      some b.id⟩]
    else [])
  ++ if made.balance.toInt ≠ b.currentBalance.toNat then
    [⟨"warning", "balance_out_of_range", "currentbalance " ++ toString b.currentBalance.toNat ++
      " exceeds 9223372036854775807", some b.id⟩]
    else []

theorem toInt_balance_reshape (b : LegacyBook) (customer : Identity) :
    (b.reshape customer).balance.toInt = min (b.currentBalance.toNat : Int) Balance.greatest := by
  rw [reshape, Balance.toInt_clamp]
  simp only [Balance.least, Balance.greatest]
  omega

theorem becomes_reshape (d : Directory) (b : LegacyBook) :
    b.Becomes d (b.reshape (d.resolve b.customerId).1) where
  id_eq := rfl
  typeId_eq := rfl
  openDate_eq := rfl
  maturityDate_eq := rfl
  status_eq := rfl
  known customer found := by simp [reshape, Directory.resolve, found]
  unknown missing := by simp [reshape, Directory.resolve, missing, Identity.unknown]
  balance_eq := b.toInt_balance_reshape _

/-- The range is checked apart from the clamping, and the two agree. -/
theorem isOutOfRange_iff (b : LegacyBook) (customer : Identity) :
    b.isOutOfRange ↔ (b.reshape customer).balance.toInt ≠ b.currentBalance.toNat := by
  rw [toInt_balance_reshape, isOutOfRange, decide_eq_true_iff]
  omega

theorem toString_greatest : toString Balance.greatest = "9223372036854775807" := by decide +kernel

theorem issues_eq_due (d : Directory) (b : LegacyBook) :
    b.issues (d.resolve b.customerId).2 = b.due d (b.reshape (d.resolve b.customerId).1) := by
  have range := b.isOutOfRange_iff (d.resolve b.customerId).1
  rw [issues, due]
  congr 1
  · cases found : d.get? b.customerId with
    | none => simp [Directory.resolve, found, RunIssue.warning, unknownCustomerCode]
    | some customer => simp [Directory.resolve, found]
  · by_cases out : b.isOutOfRange
    · rw [if_pos out, if_pos (range.mp out), toString_greatest]
      simp [RunIssue.warning, balanceRangeCode, String.append_assoc]
    · rw [if_neg out, if_neg fun differs => out (range.mpr differs)]

/-- What reshaping some books makes of them and of the report of the run. -/
structure Reshapes (d : Directory) (report : RunReport) (bs : List LegacyBook)
    (made : List SavingBook) (report' : RunReport) : Prop where
  becomes : List.Forall₂ (Becomes d) bs made
  warnings : report'.warnings = report.warnings ++ (List.zipWith (due d) bs made).flatten
  rest : report' = { report with
    warningsByCode := report'.warningsByCode
    warnings := report'.warnings }
  tallied : report'.Tallied
  counted : report'.warnings.length < UInt64.size → ∀ code,
    (report'.warningCount code).toNat = report'.warnings.countP (·.code = code)
  codes : ∀ code, code ∈ report'.warningsByCode.entries.map (·.1) ↔
    code ∈ report.warningsByCode.entries.map (·.1) ∨
      ∃ issue ∈ (List.zipWith (due d) bs made).flatten, issue.code = code
  zeros : report'.warnings.length < UInt64.size →
    ∀ code, (code, 0) ∈ report'.warningsByCode.entries →
    (code, 0) ∈ report.warningsByCode.entries

theorem zipWith_due (d : Directory) (bs : List LegacyBook) :
    (List.zipWith (due d) bs (bs.map fun b => b.reshape (d.resolve b.customerId).1)).flatten =
      bs.flatMap fun b => b.issues (d.resolve b.customerId).2 := by
  induction bs with
  | nil => rfl
  | cons b bs ih =>
    rw [List.map_cons, List.zipWith_cons_cons, List.flatten_cons, ih, List.flatMap_cons,
      issues_eq_due]

theorem reshapeAll_reshapes (d : Directory) {report : RunReport} (tallied : report.Tallied)
    (bs : List LegacyBook) :
    Reshapes d report bs (reshapeAll d report bs).1 (reshapeAll d report bs).2 := by
  rw [reshapeAll_eq]
  have records := RunReport.records_recordWarnings tallied
    (bs.flatMap fun b => b.issues (d.resolve b.customerId).2)
  refine ⟨?_, ?_, ?_, records.tallied, records.tallied.toNat_warningCount, ?_, records.zeros⟩
  · exact List.forall₂_map_right_iff.mpr (List.forall₂_same.mpr fun b _ => becomes_reshape d b)
  · rw [zipWith_due]
    exact congrArg RunReport.warnings records.rest
  · conv_lhs => rw [records.rest]
    rw [congrArg RunReport.warnings records.rest]
  · rw [zipWith_due]
    exact records.codes

def sampleReport : RunReport :=
  (RunReport.start "run" "2024-01-01T00:00:00Z" "saving_books" "out.js").recordWarning
    (.warning unknownCustomerCode "customer Z not found" none)

def sampleBooks : List LegacyBook := [
  ⟨"1", "A", "T", "2024-01-01", some "2025-01-01", 0, 7, 0.5, "active"⟩,
  ⟨"2", "B", "T", "2024-01-01", none, 0, 9223372036854775808, 0.5, "active"⟩,
  ⟨"3", "A", "T", "2024-01-01", none, 0, 9223372036854775807, 0.5, "closed"⟩]

theorem reshapeAll_reshapes_sample :
    let d := Directory.ofCustomers [⟨"A", "An", "012345678901", "", "", "", ""⟩]
    let result := reshapeAll d sampleReport sampleBooks
    sampleReport.Tallied ∧ Reshapes d sampleReport sampleBooks result.1 result.2 ∧
      result.2.warningsByCode.entries = [(balanceRangeCode, 1), (unknownCustomerCode, 2)] := by
  intro d result
  have tallied : sampleReport.Tallied :=
    (RunReport.tallied_start _ _ _ _).recordWarning _
  exact ⟨tallied, reshapeAll_reshapes d tallied sampleBooks, by decide +kernel⟩

end LegacyBook

end MockData
