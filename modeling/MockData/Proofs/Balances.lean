import Mathlib.Algebra.BigOperators.Group.List.Basic
import Mathlib.Algebra.Ring.Int.Defs
import Mathlib.Data.List.Infix
import MockData.Proofs.Holdings

/-!
Changes of one balance after the other. They add up exactly as long as no sum on the way lies
beyond a limit, and then their order does not matter; a change is undone by its opposite exactly
if it has not met a limit.
-/
namespace MockData

namespace Balance

def SumsFit (b : Balance) (deltas : List Balance) : Prop :=
  ∀ front, front <+: deltas → Fits (b.toInt + (front.map (·.toInt)).sum)

instance (b : Balance) (deltas : List Balance) : Decidable (b.SumsFit deltas) :=
  decidable_of_iff (∀ front ∈ deltas.inits, Fits (b.toInt + (front.map (·.toInt)).sum))
    (by simp only [List.mem_inits, SumsFit])

variable {b delta : Balance} {deltas : List Balance}

theorem toInt_neg_of_ne (proper : delta ≠ Int64.minValue) : (-delta).toInt = -delta.toInt := by
  obtain ⟨above, below⟩ := fits_toInt delta
  have other : delta.toInt ≠ least := fun same =>
    proper (Int64.toInt_inj.mp (same.trans Int64.toInt_minValue.symm))
  simp only [least, greatest] at above below other
  rw [Int64.toInt_neg, Int.bmod_eq_of_le]
  · omega
  · omega

/-- What a limit has cut off does not come back. -/
theorem add_add_neg_eq_iff (proper : delta ≠ Int64.minValue) :
    (b.add delta).add (-delta) = b ↔ Fits (b.toInt + delta.toInt) := by
  obtain ⟨above, below⟩ := fits_toInt b
  obtain ⟨above', below'⟩ := fits_toInt (-delta)
  rw [toInt_neg_of_ne proper] at above' below'
  rw [← Int64.toInt_inj, toInt_add, toInt_add, toInt_neg_of_ne proper]
  simp only [Fits, least, greatest] at above below above' below' ⊢
  omega

theorem SumsFit.head (fit : b.SumsFit (delta :: deltas)) : Fits (b.toInt + delta.toInt) := by
  simpa using fit [delta] (by simp)

theorem SumsFit.tail (fit : b.SumsFit (delta :: deltas)) : (b.add delta).SumsFit deltas := by
  intro front begins
  have whole := fit (delta :: front) (List.cons_prefix_cons.mpr ⟨rfl, begins⟩)
  rw [List.map_cons, List.sum_cons, ← Int.add_assoc] at whole
  rwa [toInt_add_of_fits fit.head]

theorem toInt_foldl_add (fit : b.SumsFit deltas) :
    (deltas.foldl add b).toInt = b.toInt + (deltas.map (·.toInt)).sum := by
  induction deltas generalizing b with
  | nil => simp
  | cons delta deltas ih =>
    rw [List.foldl_cons, ih fit.tail, toInt_add_of_fits fit.head, List.map_cons, List.sum_cons,
      Int.add_assoc]

theorem foldl_add_perm {others : List Balance} (perm : others.Perm deltas)
    (fit : b.SumsFit deltas) (fit' : b.SumsFit others) :
    others.foldl add b = deltas.foldl add b := by
  rw [← Int64.toInt_inj, toInt_foldl_add fit, toInt_foldl_add fit', (perm.map _).sum_eq]

end Balance

theorem SavingBook.foldl_addBalance (b : SavingBook) (deltas : List Balance) :
    deltas.foldl addBalance b = { b with balance := deltas.foldl Balance.add b.balance } := by
  induction deltas generalizing b with
  | nil => rfl
  | cons delta deltas ih => exact ih (b.addBalance delta)

namespace SavingBookStore

variable {s : SavingBookStore} {id : String} {b : SavingBook}

theorem modify_modify {f : SavingBook → SavingBook} (keeps : ∀ b, (f b).id = b.id)
    (g : SavingBook → SavingBook) :
    (s.modify id f).modify id g = s.modify id fun b => g (f b) :=
  congrArg mk (modifyFirst_modifyFirst fun b => by rw [keeps])

theorem find?_modify {f : SavingBook → SavingBook} (keeps : ∀ b, (f b).id = b.id) :
    (s.modify id f).find? id = (s.find? id).map f :=
  find?_modifyFirst fun b => by rw [keeps]

theorem run_updateBalance (s : SavingBookStore) (id : String) (deltas : List Balance) :
    s.run (deltas.map (.updateBalance id)) = s.modify id (deltas.foldl SavingBook.addBalance) := by
  induction deltas generalizing s with
  | nil => exact congrArg mk modifyFirst_id.symm
  | cons delta deltas ih =>
    have keeps : ∀ b : SavingBook, (b.addBalance delta).id = b.id := fun _ => rfl
    exact (ih (s.modify id (·.addBalance delta))).trans (modify_modify keeps _)

theorem find?_run_updateBalance (found : s.find? id = some b) (deltas : List Balance) :
    (s.run (deltas.map (.updateBalance id))).find? id =
      some (deltas.foldl SavingBook.addBalance b) := by
  have keeps : ∀ b : SavingBook, (deltas.foldl SavingBook.addBalance b).id = b.id := by
    simp [SavingBook.foldl_addBalance]
  rw [run_updateBalance, find?_modify keeps, found, Option.map_some]

theorem run_updateBalance_eq_iff (found : s.find? id = some b) (deltas others : List Balance) :
    s.run (deltas.map (.updateBalance id)) = s.run (others.map (.updateBalance id)) ↔
      deltas.foldl Balance.add b.balance = others.foldl Balance.add b.balance := by
  rw [run_updateBalance, run_updateBalance, modify, modify, mk.injEq, modifyFirst_eq_iff found]
  simp [SavingBook.foldl_addBalance]

/-- Changes of a balance add up exactly, in any order, if no sum on the way lies beyond a limit;
and a change and then its opposite restore the store exactly if the first sum does not. -/
theorem updates_add_up (s : SavingBookStore) (id : String) (b : SavingBook)
    (found : s.find? id = some b) :
    (∀ deltas, b.balance.SumsFit deltas →
      (∃ b', (s.run (deltas.map (.updateBalance id))).find? id = some b' ∧
        b'.balance.toInt = b.balance.toInt + (deltas.map (·.toInt)).sum) ∧
      ∀ others, others.Perm deltas → b.balance.SumsFit others →
        s.run (others.map (.updateBalance id)) = s.run (deltas.map (.updateBalance id))) ∧
    ∀ delta, delta ≠ Int64.minValue →
      (s.run [.updateBalance id delta, .updateBalance id (-delta)] = s ↔
        Balance.Fits (b.balance.toInt + delta.toInt)) := by
  refine ⟨fun deltas fit => ⟨?_, fun others perm fit' => ?_⟩, fun delta proper => ?_⟩
  · refine ⟨_, find?_run_updateBalance found deltas, ?_⟩
    rw [SavingBook.foldl_addBalance, Balance.toInt_foldl_add fit]
  · exact (run_updateBalance_eq_iff found others deltas).mpr
      (Balance.foldl_add_perm perm fit fit')
  · exact (run_updateBalance_eq_iff found [delta, -delta] []).trans
      (Balance.add_add_neg_eq_iff proper)

theorem updates_add_up_limit :
    let s : SavingBookStore := ⟨[sampleBook "A" 9223372036854775800, sampleBook "A" 4]⟩
    let pay (deltas : List Balance) := s.run (deltas.map (.updateBalance "A"))
    (∃ b, (pay [7, -20, 12]).find? "A" = some b ∧ b.balance.toInt = 9223372036854775799) ∧
      pay [-20, 12, 7] = pay [7, -20, 12] ∧ pay [12, 7, -20] ≠ pay [7, -20, 12] ∧
      pay [7, -7] = s ∧ pay [8, -8] ≠ s := by
  intro s pay
  obtain ⟨sums, restores⟩ := updates_add_up s "A" _ rfl
  obtain ⟨exact', order⟩ := sums [7, -20, 12] (by decide)
  refine ⟨exact', order [-20, 12, 7] (by decide) (by decide), by decide, ?_, ?_⟩
  · exact (restores 7 (by decide)).mpr (by decide)
  · exact mt (restores 8 (by decide)).mp (by decide)

end SavingBookStore

end MockData
