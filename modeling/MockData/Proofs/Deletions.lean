import Mathlib.Logic.Function.Iterate
import MockData.Proofs.Identities

/-!
Deleting an id again and again. Several records may have one id, and each deletion takes the first
of those that are left; so they leave in their order, and the others stay in theirs. In between,
what else is asked about the id is about the first record that is left.
-/
namespace MockData

section Erasing

variable {p : α → Bool} {as front : List α} {a : α} {n i : Nat}

theorem iterate_eraseP_cons (fails : ¬ p a) :
    (List.eraseP p)^[n] (a :: as) = a :: (List.eraseP p)^[n] as := by
  induction n generalizing as with
  | zero => rfl
  | succ n ih =>
    rw [Function.iterate_succ_apply, List.eraseP_cons_of_neg fails, ih,
      Function.iterate_succ_apply]

theorem iterate_eraseP_append (counted : front.countP p = n) (back : List α) :
    (List.eraseP p)^[n] (front ++ back) = front.filter (!p ·) ++ back := by
  induction front generalizing n with
  | nil =>
    obtain rfl : 0 = n := counted
    rfl
  | cons a front ih =>
    -- a match takes up the first of the deletions, and any other record lets all of them pass
    by_cases holds : p a
    · rw [List.countP_cons_of_pos holds] at counted
      subst counted
      rw [Function.iterate_succ_apply, List.cons_append, List.eraseP_cons_of_pos holds, ih rfl,
        List.filter_cons_of_neg (by simpa using holds)]
    · rw [List.countP_cons_of_neg holds] at counted
      rw [List.cons_append, iterate_eraseP_cons holds, ih counted,
        List.filter_cons_of_pos (by simpa using holds), List.cons_append]

theorem iterate_eraseP_of_le (all : as.countP p ≤ n) :
    (List.eraseP p)^[n] as = as.filter (!p ·) := by
  have emptied : (List.eraseP p)^[as.countP p] (as ++ []) = as.filter (!p ·) ++ [] :=
    iterate_eraseP_append rfl []
  rw [List.append_nil, List.append_nil] at emptied
  have kept : (as.filter (!p ·)).eraseP p = as.filter (!p ·) :=
    List.eraseP_of_forall_not fun a member => by simpa using (List.mem_filter.mp member).2
  obtain ⟨m, rfl⟩ := Nat.exists_eq_add_of_le' all
  rw [Function.iterate_add_apply, emptied, Function.iterate_fixed kept]

theorem countP_take_of_findIdxs (place : (as.findIdxs p)[n]? = some i) :
    (as.take i).countP p = n := by
  obtain ⟨inside, rfl⟩ := List.getElem?_eq_some_iff.mp place
  rw [← List.countPBefore_eq_countP_take, List.getElem_findIdxs_eq_findIdxNth]
  exact List.countPBefore_findIdxNth_of_lt_countP (by simpa using inside)

theorem exists_of_findIdxs (place : (as.findIdxs p)[n]? = some i) :
    ∃ a, as[i]? = some a ∧ p a ∧ as.drop i = a :: as.drop (i + 1) := by
  obtain ⟨inside, holds⟩ :=
    List.mem_findIdxs_iff_exists_getElem_pos.mp (List.mem_of_getElem? place)
  exact ⟨as[i], List.getElem?_eq_getElem inside, holds, List.drop_eq_getElem_cons inside⟩

end Erasing

/-- Calls that take out the first record with an id, one after another: `told n` is the answer to
the call that comes after `n` others, and `left n` is what those have left. -/
structure Drains (key : α → String) (id : String) (as : List α) (told : Nat → Option α)
    (left : Nat → List α) : Prop where
  ascending : (as.findIdxs (key · = id)).Pairwise (· < ·)
  mem_places_iff : ∀ i, i ∈ as.findIdxs (key · = id) ↔ ∃ a, as[i]? = some a ∧ key a = id
  told_eq : ∀ n, told n = (as.findIdxs (key · = id))[n]?.bind (as[·]?)
  left_of_place : ∀ n i, (as.findIdxs (key · = id))[n]? = some i →
    left n = (as.take i).filter (key · ≠ id) ++ as.drop i
  left_of_le : ∀ n, (as.findIdxs (key · = id)).length ≤ n → left n = as.filter (key · ≠ id)

section Keys

variable {key : α → String} {id : String} {as : List α} {a : α} {n i : Nat}

theorem iterate_eraseP_of_place (place : (as.findIdxs (key · = id))[n]? = some i) :
    (List.eraseP (key · = id))^[n] as = (as.take i).filter (key · ≠ id) ++ as.drop i := by
  have left := iterate_eraseP_append (countP_take_of_findIdxs place) (as.drop i)
  rw [List.take_append_drop] at left
  simpa using left

theorem iterate_eraseP_of_places_le (all : (as.findIdxs (key · = id)).length ≤ n) :
    (List.eraseP (key · = id))^[n] as = as.filter (key · ≠ id) := by
  rw [List.length_findIdxs] at all
  simpa using iterate_eraseP_of_le all

theorem find?_filter_append (keyed : key a = id) (front back : List α) :
    (front.filter (key · ≠ id) ++ a :: back).find? (key · = id) = some a := by
  refine List.find?_eq_some_iff_append.mpr ⟨decide_eq_true keyed, _, back, rfl, fun b member => ?_⟩
  simpa using (List.mem_filter.mp member).2

theorem find?_filter_key (key : α → String) (id : String) (as : List α) :
    (as.filter (key · ≠ id)).find? (key · = id) = none := by
  refine List.find?_eq_none.mpr fun a member => ?_
  simpa using (List.mem_filter.mp member).2

theorem drains_iterate_eraseP (key : α → String) (id : String) (as : List α) :
    Drains key id as (fun n => ((List.eraseP (key · = id))^[n] as).find? (key · = id))
      (fun n => (List.eraseP (key · = id))^[n] as) where
  ascending := List.pairwise_findIdxs
  mem_places_iff i := by
    rw [List.mem_findIdxs_iff_exists_getElem_pos]
    constructor
    · rintro ⟨inside, keyed⟩
      exact ⟨as[i], List.getElem?_eq_getElem inside, of_decide_eq_true keyed⟩
    · rintro ⟨a, stands, keyed⟩
      obtain ⟨inside, rfl⟩ := List.getElem?_eq_some_iff.mp stands
      exact ⟨inside, decide_eq_true keyed⟩
  told_eq n := by
    cases place : (as.findIdxs (key · = id))[n]? with
    | some i =>
      obtain ⟨a, stands, keyed, here⟩ := exists_of_findIdxs place
      rw [iterate_eraseP_of_place place, Option.bind_some, stands, here]
      exact find?_filter_append (of_decide_eq_true keyed) _ _
    | none =>
      rw [iterate_eraseP_of_places_le (List.getElem?_eq_none_iff.mp place)]
      exact find?_filter_key key id as
  left_of_place n i place := iterate_eraseP_of_place place
  left_of_le n all := iterate_eraseP_of_places_le all

theorem Edit.run_replicate_erase (n : Nat) :
    Edit.run key as (List.replicate n (.erase id)) = (List.eraseP (key · = id))^[n] as := by
  induction n generalizing as with
  | zero => rfl
  | succ n ih => exact ih

end Keys

namespace CustomerStore

def deleting (s : CustomerStore) (id : String) (n : Nat) : CustomerStore :=
  s.run (List.replicate n (.delete id))

theorem customers_deleting (s : CustomerStore) (id : String) (n : Nat) :
    (s.deleting id n).customers = (List.eraseP (·.id = id))^[n] s.customers := by
  rw [deleting, customers_run, List.map_replicate]
  exact Edit.run_replicate_erase n

theorem delete_of_find?_eq_none {s : CustomerStore} {id : String} (missing : s.find? id = none) :
    s.delete id = (none, s) := by
  rw [delete, missing, List.eraseP_of_forall_not]
  simpa using List.find?_eq_none.mp missing

end CustomerStore

namespace SavingBookStore

def deleting (s : SavingBookStore) (id : String) (n : Nat) : SavingBookStore :=
  s.run (List.replicate n (.delete id))

theorem books_deleting (s : SavingBookStore) (id : String) (n : Nat) :
    (s.deleting id n).books = (List.eraseP (·.id = id))^[n] s.books := by
  rw [deleting, books_run, List.map_replicate]
  exact Edit.run_replicate_erase n

structure ActsOn (s : SavingBookStore) (id : String) (front : List SavingBook) (b : SavingBook)
    (back : List SavingBook) : Prop where
  books : s.books = front ++ b :: back
  delete : s.delete id = (some b, ⟨front ++ back⟩)
  updateBalance : ∀ delta, ∃ balance : Balance,
    balance.toInt = max Balance.least (min Balance.greatest (b.balance.toInt + delta.toInt)) ∧
      s.updateBalance id delta = (some ⟨{ b with balance := balance }, b.balance, balance⟩,
        ⟨front ++ { b with balance := balance } :: back⟩)
  close : s.close id = (some ⟨{ b with status := "closed", balance := 0 }, b.balance⟩,
    ⟨front ++ { b with status := "closed", balance := 0 } :: back⟩)

structure Ignores (s : SavingBookStore) (id : String) : Prop where
  delete : s.delete id = (none, s)
  updateBalance : ∀ delta, s.updateBalance id delta = (none, s)
  close : s.close id = (none, s)

variable {s : SavingBookStore} {id : String} {b : SavingBook} {front back : List SavingBook}

theorem actsOn_of_split (split : s.books = front ++ b :: back) (keyed : b.id = id)
    (others : ∀ d ∈ front, d.id ≠ id) : s.ActsOn id front b back := by
  have passed : ∀ d ∈ front, decide (d.id = id) = false := by simpa using others
  have found : s.find? id = some b := by
    rw [find?, split]
    exact List.find?_eq_some_iff_append.mpr ⟨decide_eq_true keyed, front, back, rfl,
      by simpa using others⟩
  have modified (f : SavingBook → SavingBook) : s.modify id f = ⟨front ++ f b :: back⟩ := by
    rw [modify, split, modifyFirst_append_cons passed (decide_eq_true keyed)]
  constructor
  · exact split
  · have erased : (b :: back).eraseP (·.id = id) = back :=
      List.eraseP_cons_of_pos (decide_eq_true keyed)
    rw [SavingBookStore.delete, found, split, List.eraseP_append_right _ (by simpa using others),
      erased]
  · intro delta
    refine ⟨b.balance.add delta, Balance.toInt_add b.balance delta, ?_⟩
    rw [SavingBookStore.updateBalance, found, modified, Option.map_some]
    rfl
  · rw [SavingBookStore.close, found, modified, Option.map_some]
    rfl

theorem ignores_of_find?_eq_none (missing : s.find? id = none) : s.Ignores id := by
  constructor
  · exact Prod.ext missing (delete_of_find?_eq_none missing)
  · intro delta
    rw [SavingBookStore.updateBalance, missing, modify_of_find?_eq_none missing, Option.map_none]
  · rw [SavingBookStore.close, missing, modify_of_find?_eq_none missing, Option.map_none]

end SavingBookStore

/-- Deletions of an id take the records with it in their order, and then none. While one is left,
what is asked about the id is about the first of these; when none is, it changes nothing. -/
theorem deletions_drain :
    (∀ (s : CustomerStore) id,
      Drains (·.id) id s.customers (fun n => ((s.deleting id n).delete id).1)
        (fun n => (s.deleting id n).customers) ∧
      ∀ n, (s.customers.findIdxs (·.id = id)).length ≤ n →
        (s.deleting id n).delete id = (none, s.deleting id n)) ∧
    ∀ (s : SavingBookStore) id,
      Drains (·.id) id s.books (fun n => ((s.deleting id n).delete id).1)
        (fun n => (s.deleting id n).books) ∧
      (∀ n i, (s.books.findIdxs (·.id = id))[n]? = some i → ∃ b, s.books[i]? = some b ∧
        (s.deleting id n).ActsOn id ((s.books.take i).filter (·.id ≠ id)) b
          (s.books.drop (i + 1))) ∧
      ∀ n, (s.books.findIdxs (·.id = id)).length ≤ n → (s.deleting id n).Ignores id := by
  constructor
  · intro s id
    have drains := drains_iterate_eraseP (·.id) id s.customers
    simp only [← CustomerStore.customers_deleting] at drains
    refine ⟨drains, fun n all => CustomerStore.delete_of_find?_eq_none ?_⟩
    rw [CustomerStore.find?, drains.left_of_le n all]
    exact find?_filter_key _ id s.customers
  · intro s id
    have drains := drains_iterate_eraseP (·.id) id s.books
    simp only [← SavingBookStore.books_deleting] at drains
    refine ⟨drains, fun n i place => ?_, fun n all => ?_⟩
    · obtain ⟨b, stands, keyed, here⟩ := exists_of_findIdxs place
      refine ⟨b, stands, SavingBookStore.actsOn_of_split ?_ (of_decide_eq_true keyed) ?_⟩
      · rw [drains.left_of_place n i place, here]
      · intro d member
        simpa using (List.mem_filter.mp member).2
    · refine SavingBookStore.ignores_of_find?_eq_none ?_
      rw [SavingBookStore.find?, drains.left_of_le n all]
      exact find?_filter_key _ id s.books

theorem deletions_drain_twins :
    let a := SavingBookStore.sampleBook "A" 30
    let b := SavingBookStore.sampleBook "B" 4
    let a' := SavingBookStore.sampleBook "A" 7
    let s : SavingBookStore := ⟨[a, b, a']⟩
    s.books.findIdxs (·.id = "A") = [0, 2] ∧ s.ActsOn "A" [] a [b, a'] ∧
      (s.deleting "A" 1).ActsOn "A" [b] a' [] ∧ (s.deleting "A" 2).Ignores "A" ∧
      (s.deleting "A" 2).books = [b] := by
  intro a b a' s
  have places : s.books.findIdxs (·.id = "A") = [0, 2] := by decide
  obtain ⟨drains, acts, ignores⟩ := deletions_drain.2 s "A"
  obtain ⟨_, first, before⟩ := acts 0 0 (by rw [places]; rfl)
  obtain ⟨_, second, after⟩ := acts 1 2 (by rw [places]; rfl)
  obtain rfl := Option.some.inj first
  obtain rfl := Option.some.inj second
  refine ⟨places, before, after, ignores 2 (by rw [places]; rfl), ?_⟩
  exact drains.left_of_le 2 (by rw [places]; rfl)

end MockData
