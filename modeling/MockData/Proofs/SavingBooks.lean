import MockData.Proofs.Kinds
import MockData.Proofs.Modules
import MockData.SavingBook.Reshape
import MockData.SavingBook.Script

/-!
Saving books on the way from the former layout to the module of the new one. No block that the
pattern keeps is lost, and the module yields the books again.
-/
namespace MockData

open Script

namespace LegacyBook

theorem exists_ofBlock? {b : MatchedBlock}
    (has : List.Forall₂ Field.Has pattern.fields b.values) : ∃ book, ofBlock? b = some book := by
  obtain ⟨id, hasId⟩ := MatchedBlock.text?_of_has has "bookid" rfl
  obtain ⟨customer, hasCustomer⟩ := MatchedBlock.text?_of_has has "customerid" rfl
  obtain ⟨type, hasType⟩ := MatchedBlock.text?_of_has has "typeid" rfl
  obtain ⟨time, hasTime⟩ := MatchedBlock.text?_of_has has "registertime" rfl
  obtain ⟨maturity, foundMaturity, isNullable⟩ := MatchedBlock.get?_of_has has "maturitydate" rfl
  obtain ⟨date, hasDate⟩ := FieldValue.exists_nullable isNullable
  obtain ⟨deposit, foundDeposit, isDeposit⟩ := MatchedBlock.get?_of_has has "initialdeposit" rfl
  obtain ⟨first, hasFirst⟩ := FieldValue.exists_unsigned isDeposit
  obtain ⟨balance, foundBalance, isBalance⟩ := MatchedBlock.get?_of_has has "currentbalance" rfl
  obtain ⟨current, hasCurrent⟩ := FieldValue.exists_unsigned isBalance
  obtain ⟨interest, foundInterest, isInterest⟩ := MatchedBlock.get?_of_has has "interestrate" rfl
  obtain ⟨rate, hasRate⟩ := FieldValue.exists_decimal isInterest
  obtain ⟨status, hasStatus⟩ := MatchedBlock.text?_of_has has "status" rfl
  exact ⟨⟨id, customer, type, time, date, first, current, rate, status⟩, by
    simp [ofBlock?, hasId, hasCustomer, hasType, hasTime, foundMaturity, hasDate, foundDeposit,
      hasFirst, foundBalance, hasCurrent, foundInterest, hasRate, hasStatus]⟩

theorem length_filterMap_ofBlock? {bs : List MatchedBlock}
    (has : ∀ b ∈ bs, List.Forall₂ Field.Has pattern.fields b.values) :
    (bs.filterMap ofBlock?).length = bs.length := by
  induction bs with
  | nil => rfl
  | cons b bs ih =>
    obtain ⟨book, isBook⟩ := exists_ofBlock? (has b (by simp))
    have later := ih fun b' member => has b' (by simp [member])
    rw [List.filterMap_cons, isBook, List.length_cons, List.length_cons, later]

theorem length_extract (text : String) :
    (extract text).1.length + (extract text).2 = (Block.scan text.toList).length := by
  have all := Extraction.length_add_skipped pattern (Block.scan text.toList)
  have kept : ∀ b ∈ (Extraction.ofText pattern text).blocks,
      List.Forall₂ Field.Has pattern.fields b.values := fun _ member => Extraction.has_of_mem member
  have books := length_filterMap_ofBlock? kept
  simp only [extract, Extraction.ofText] at books ⊢
  omega

theorem recordWarnings_append (report : RunReport) (a b : List RunIssue) :
    report.recordWarnings (a ++ b) = (report.recordWarnings a).recordWarnings b :=
  List.foldl_append

theorem recordWarnings_eq (report : RunReport) (issues : List RunIssue) :
    ∃ counts, report.recordWarnings issues =
      { report with warningsByCode := counts, warnings := report.warnings ++ issues } := by
  induction issues generalizing report with
  | nil => exact ⟨report.warningsByCode, by simp [RunReport.recordWarnings]⟩
  | cons issue issues ih =>
    obtain ⟨counts, later⟩ := ih (report.recordWarning issue)
    refine ⟨counts, later.trans ?_⟩
    simp [RunReport.recordWarning]

theorem reshapeAll_eq (d : Directory) (report : RunReport) (bs : List LegacyBook) :
    reshapeAll d report bs = (bs.map fun b => b.reshape (d.resolve b.customerId).1,
      report.recordWarnings (bs.flatMap fun b => b.issues (d.resolve b.customerId).2)) := by
  induction bs generalizing report with
  | nil => rfl
  | cons b bs ih =>
    simp only [reshapeAll, ih, List.map_cons, List.flatMap_cons, recordWarnings_append]

theorem reshapeAll_books (d : Directory) (report : RunReport) (bs : List LegacyBook) :
    (reshapeAll d report bs).1 = bs.map fun b => b.reshape (d.resolve b.customerId).1 := by
  rw [reshapeAll_eq]

theorem reshapeAll_report (d : Directory) (report : RunReport) (bs : List LegacyBook) :
    ∃ counts warnings, (reshapeAll d report bs).2 =
      { report with warningsByCode := counts, warnings := warnings } := by
  rw [reshapeAll_eq]
  obtain ⟨counts, recorded⟩ := recordWarnings_eq report _
  exact ⟨counts, _, recorded⟩

theorem reshapeAll_warnings (d : Directory) (report : RunReport) (bs : List LegacyBook) :
    (reshapeAll d report bs).2.warnings =
      report.warnings ++ bs.flatMap fun b => b.issues (d.resolve b.customerId).2 := by
  rw [reshapeAll_eq]
  obtain ⟨counts, recorded⟩ := recordWarnings_eq report _
  rw [recorded]

theorem reshape_balance_nonneg (b : LegacyBook) (customer : Identity) :
    0 ≤ (b.reshape customer).balance.toInt := by
  rw [reshape, Balance.toInt_clamp]
  simp only [Balance.least, Balance.greatest]
  omega

end LegacyBook

namespace SavingBook

theorem fits_front (b : SavingBook) :
    List.Forall₂ Fits (b.entries.take 6) (pattern.fields.take 6) := by
  have date : Fits ("maturityDate", .ofText? b.maturityDate) ⟨"maturityDate", .nullable⟩ := by
    refine ⟨rfl, (rfl : isIdentifier "maturityDate"), ?_⟩
    cases b.maturityDate with
    | none => rfl
    | some s => rfl
  exact .cons (fits_text rfl _) (.cons (fits_text rfl _) (.cons (fits_text rfl _)
    (.cons (fits_text rfl _) (.cons (fits_text rfl _) (.cons date .nil)))))

theorem fits_entries {b : SavingBook} (nonneg : 0 ≤ b.balance.toInt) :
    List.Forall₂ Fits b.entries pattern.fields := by
  have balance : Fits ("balance", .int b.balance) ⟨"balance", .unsigned⟩ :=
    ⟨rfl, (rfl : isIdentifier "balance"), by simpa [Literal.isOfKind] using nonneg⟩
  exact List.rel_append b.fits_front (.cons balance (.cons (fits_text rfl _) .nil))

theorem surrounds : layout.Surrounds pattern 9 where
  front := by
    simp only [Layout.front, Layout.comment, layout, lines]
    decide +kernel
  back := by
    simp only [Layout.back, layout, Layout.comment, lines, Layout.helper, Helper.function,
      HelperKind.params, HelperKind.body, HelperKind.bindIndex, HelperKind.answerNull,
      HelperKind.search, Function.render, Statement.render, Step.render, Expr.render,
      Operand.render, Condition.render, Member.render, Search.render, Literal.render,
      String.intercalate, String.join_cons, String.join_nil, String.toList_append,
      List.flatMap_cons, List.flatMap_nil, List.map_cons, List.map_nil, List.cons_append,
      List.nil_append, List.append_nil]
    decide +kernel

def values (b : SavingBook) : Values := [
  ("bookId", .text b.id),
  ("citizenId", .text b.citizenId),
  ("customerName", .text b.customerName),
  ("typeSavingId", .text b.typeId),
  ("openDate", .text b.openDate),
  ("maturityDate", (b.maturityDate.map .text).getD .null),
  ("balance", .unsigned (UInt64.ofNat b.balance.toInt.toNat)),
  ("status", .text b.status)]

theorem map_entries_value (b : SavingBook) :
    b.entries.map (fun e => (e.1, e.2.value)) = b.values := by
  cases date : b.maturityDate with
  | none => simp [entries, values, date, Literal.ofText?, Literal.value]
  | some s => simp [entries, values, date, Literal.ofText?, Literal.value]

theorem ofText_moduleText {bs : List SavingBook} (nonneg : ∀ b ∈ bs, 0 ≤ b.balance.toInt) :
    (Extraction.ofText pattern (moduleText bs)).blocks.map (·.values) = bs.map values ∧
      (Extraction.ofText pattern (moduleText bs)).skipped = 9 := by
  have fits : ∀ r ∈ bs.map entries, List.Forall₂ Fits r pattern.fields := by
    intro r member
    obtain ⟨b, isBook, rfl⟩ := List.mem_map.mp member
    exact fits_entries (nonneg b isBook)
  obtain ⟨found, skipped⟩ := Layout.ofText_text surrounds fits
  refine ⟨?_, skipped⟩
  rw [moduleText, found, List.map_map]
  exact List.map_congr_left fun b _ => map_entries_value b

end SavingBook

end MockData
