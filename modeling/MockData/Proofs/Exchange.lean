import MockData.Customer.Json
import MockData.Proofs.Keys
import MockData.Proofs.Parts
import MockData.Report.Json
import MockData.SavingBook.Json

/-!
Records, changes, issues and reports are read back from their texts as they were.
-/
namespace MockData

open Json

namespace Counts

theorem setEntry_of_above {key : String} {n : UInt64} {entries : List (String × UInt64)}
    (above : ∀ k ∈ entries.map (·.1), k < key) :
    setEntry key n entries = entries ++ [(key, n)] := by
  induction entries with
  | nil => rfl
  | cons p rest ih =>
    obtain ⟨k, m⟩ := p
    have first : k < key := above k (by simp)
    have later := ih fun l member => above l (by simp [member])
    simp [setEntry, (String.ne_of_lt first).symm, String.lt_asymm first, later]

theorem ofList_entries (counts : Counts) : ofList counts.entries = counts := by
  have built : ∀ (later : List (String × UInt64)) (before all : Counts),
      all.entries = before.entries ++ later →
      later.foldl (fun counts p => counts.insert p.1 p.2) before = all := by
    intro later
    induction later with
    | nil =>
      intro before all split
      exact Counts.ext (by simpa using split.symm)
    | cons p later ih =>
      intro before all split
      have above : ∀ k ∈ before.entries.map (·.1), k < p.1 := by
        have ordered := all.ordered
        rw [split, List.map_append, List.pairwise_append] at ordered
        exact fun k member => ordered.2.2 k member p.1 (by simp)
      refine ih (before.insert p.1 p.2) all ?_
      rw [split, entries_insert, setEntry_of_above above, List.append_assoc, List.singleton_append]
  exact built counts.entries .empty counts rfl

end Counts

namespace Json.Record

/-- A value comes back from its text, in the compact style and in the pretty one. -/
structure Recovers {α : Type} (r : Record α) (write : α → Value) (a : α) : Prop where
  compact : r.ofText? ((write a).render .compact) = .ok a
  pretty : r.ofText? ((write a).render .pretty) = .ok a

theorem Recovers.of_takes {α : Type} {r : Record α} {write : α → Value} {a : α}
    (takes : ∀ {style : Style}, style.Plain → Takes r.read style (write a) a) :
    r.Recovers write a :=
  ⟨ofText?_render (takes Style.plain_compact), ofText?_render (takes Style.plain_pretty)⟩

end Json.Record

variable {style : Style}

theorem Customer.takes_toJson (plain : style.Plain) (c : Customer) :
    Takes Customer.jsonRecord.read style c.toJson c := by
  refine takes_record plain (by decide) ?_
  iterate 7 refine .required (takes_text _) ?_
  exact .done _

theorem CustomerPatch.takes_toJson (plain : style.Plain) (p : CustomerPatch) :
    Takes CustomerPatch.jsonRecord.read style p.toJson p := by
  refine takes_record plain (by decide) ?_
  simp only [List.flatMap_cons]
  iterate 7 refine .text? rfl ?_
  exact .done _

theorem SavingBook.takes_toJson (plain : style.Plain) (b : SavingBook) :
    Takes SavingBook.jsonRecord.read style b.toJson b := by
  refine takes_record plain (by decide) ?_
  iterate 5 refine .required (takes_text _) ?_
  refine .optional (takes_ofText? _) ?_
  refine .required (takes_int64 _) ?_
  exact .required (takes_text _) (.done _)

theorem RunIssue.takes_toJson (plain : style.Plain) (i : RunIssue) :
    Takes RunIssue.jsonRecord.read style i.toJson i := by
  rw [RunIssue.toJson, ← List.append_nil (Option.toList _)]
  refine takes_record plain (by decide) ?_
  iterate 3 refine .required (takes_text _) ?_
  exact .text? rfl (.done _)

theorem Counts.takes_toJson (plain : style.Plain) (counts : Counts) :
    Takes (pairs uint64) style counts.toJson counts.entries := by
  refine takes_pairs plain ?_
  rw [Counts.map, List.forall₂_map_left_iff]
  exact List.forall₂_same.mpr fun p _ => ⟨rfl, takes_uint64 p.2⟩

theorem RunReport.takes_toJson (plain : style.Plain) (r : RunReport) :
    Takes RunReport.jsonRecord.read style r.toJson r := by
  suffices taken : Takes RunReport.jsonRecord.read style r.toJson
      { r with warningsByCode := .ofList r.warningsByCode.entries } by
    rwa [Counts.ofList_entries] at taken
  have issues : Takes (items RunIssue.jsonRecord.read) style
      (.array (r.warnings.map RunIssue.toJson)) r.warnings := by
    refine takes_items plain ?_
    rw [List.forall₂_map_left_iff]
    exact List.forall₂_same.mpr fun i _ => ⟨i.takes_toJson plain, opens_object _⟩
  rw [RunReport.toJson, List.append_assoc]
  refine takes_record plain (by decide) ?_
  iterate 3 refine .required (takes_text _) ?_
  refine .required (takes_uint64 _) ?_
  refine .text? rfl ?_
  refine .required (takes_text _) ?_
  iterate 4 refine .required (takes_uint64 _) ?_
  refine .required (r.warningsByCode.takes_toJson plain) ?_
  exact .required issues (.done _)

theorem recovers_records :
    (∀ c, Customer.jsonRecord.Recovers Customer.toJson c) ∧
    (∀ p, CustomerPatch.jsonRecord.Recovers CustomerPatch.toJson p) ∧
    (∀ b, SavingBook.jsonRecord.Recovers SavingBook.toJson b) ∧
    (∀ i, RunIssue.jsonRecord.Recovers RunIssue.toJson i) ∧
    ∀ r, RunReport.jsonRecord.Recovers RunReport.toJson r :=
  ⟨fun c => .of_takes fun plain => c.takes_toJson plain,
    fun p => .of_takes fun plain => p.takes_toJson plain,
    fun b => .of_takes fun plain => b.takes_toJson plain,
    fun i => .of_takes fun plain => i.takes_toJson plain,
    fun r => .of_takes fun plain => r.takes_toJson plain⟩

def RunReport.sample : RunReport :=
  (RunReport.start "run \"7\"" "2024-01-31T00:00:00Z" "saving_books" "đầu\\ra.js").recordWarnings [
    .warning "unknown_customer_reference" "customer KH04 not found" "SB01",
    .warning "balance_out_of_range" "\t9223372036854775808" "SB02",
    .warning "unknown_customer_reference" "customer không rõ not found" none]

theorem recovers_sample_report : RunReport.sample.warningsByCode.entries =
      [("balance_out_of_range", 1), ("unknown_customer_reference", 2)] ∧
    RunReport.jsonRecord.Recovers RunReport.toJson RunReport.sample :=
  ⟨by decide +kernel, recovers_records.2.2.2.2 _⟩

end MockData
