import MockData.Customer.Script
import MockData.Proofs.Modules

/-!
Customers written as a module and read back. None of their seven texts can add, hide, split or
merge a block, whatever it says.
-/
namespace MockData.Customer

open Script

theorem fits_entries (c : Customer) : List.Forall₂ Fits c.entries pattern.fields := by
  exact .cons (fits_text rfl _) (.cons (fits_text rfl _) (.cons (fits_text rfl _)
    (.cons (fits_text rfl _) (.cons (fits_text rfl _) (.cons (fits_text rfl _)
      (.cons (fits_text rfl _) .nil))))))

theorem surrounds : layout.Surrounds pattern 5 where
  front := by
    simp only [Layout.front, Layout.comment, layout, lines]
    decide +kernel
  back := by
    simp only [Layout.back, layout, Layout.comment, lines, Layout.helper, Helper.function,
      HelperKind.params, HelperKind.body, HelperKind.bindIndex, HelperKind.answerNull,
      HelperKind.search, Function.render, Statement.render, Step.render, Expr.render,
      Operand.render, Condition.render, Member.render, Search.render, String.intercalate,
      String.join_cons, String.join_nil, String.toList_append, List.flatMap_cons,
      List.flatMap_nil, List.map_cons, List.map_nil, List.cons_append, List.nil_append,
      List.append_nil]
    decide +kernel

theorem ofBlock?_of_values (b : MatchedBlock) (c : Customer)
    (values : b.values = c.entries.map fun e => (e.1, e.2.value)) : ofBlock? b = some c := by
  simp [ofBlock?, MatchedBlock.text?, MatchedBlock.get?, values, entries, Literal.value,
    FieldValue.text?]

theorem filterMap_ofBlock? {bs : List MatchedBlock} {cs : List Customer}
    (values : bs.map (·.values) = cs.map fun c => c.entries.map fun e => (e.1, e.2.value)) :
    bs.filterMap ofBlock? = cs := by
  have same := MatchedBlock.filterMap_of_values ofBlock?_of_values values
  rwa [List.map_id'] at same

theorem fits_records (cs : List Customer) :
    ∀ r ∈ cs.map entries, List.Forall₂ Fits r pattern.fields := by
  intro r member
  obtain ⟨c, -, rfl⟩ := List.mem_map.mp member
  exact fits_entries c

theorem extract_moduleText (cs : List Customer) : extract (moduleText cs) = (cs, 5) := by
  obtain ⟨found, rest⟩ := Layout.ofText_text surrounds (fits_records cs)
  rw [List.map_map] at found
  simp only [extract, moduleText]
  rw [filterMap_ofBlock? found, rest]

/-- A list of customers has a module, and the module yields the list again. Its blocks are those
of the customers, each the customer's own record, and the five of the helpers behind them. -/
theorem extract_render (cs : List Customer) :
    ∃ text, layout.render (cs.map entries) = .ok text ∧ extract text = (cs, 5) ∧
      (Block.texts text.toList).take cs.length = cs.map (fun c => recordBlock c.entries) ∧
      (Block.scan text.toList).length = cs.length + 5 := by
  have blocks := Layout.texts_text surrounds.front
    fun r member => isIdentifier_of_fits (fits_records cs r member)
  refine ⟨moduleText cs, render_layout cs, extract_moduleText cs, ?_, ?_⟩
  · rw [moduleText, blocks, List.map_map]
    simp
  · have count := congrArg List.length blocks
    rw [List.length_append, surrounds.length_back] at count
    simpa [Block.texts, moduleText] using count

end MockData.Customer
