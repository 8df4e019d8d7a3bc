import Mathlib.Algebra.BigOperators.Group.List.Basic
import Mathlib.Algebra.Ring.Int.Defs
import MockData.SavingBook.Store

/-!
What a store holds in all. Over a run of requests the total of its balances changes by what is
added and paid in, and by what is left on books that are closed or deleted, and by nothing else.
-/
namespace MockData

section Sums

variable {α : Type} {p : α → Bool} {as : List α} {a : α}

theorem sum_modifyFirst (found : as.find? p = some a) (f : α → α) (amount : α → Int) :
    ((modifyFirst p f as).map amount).sum = (as.map amount).sum + amount (f a) - amount a := by
  obtain ⟨before, after, rfl, -, modified⟩ := exists_first found
  rw [modified]
  simp only [List.map_append, List.map_cons, List.sum_append, List.sum_cons]
  omega

theorem sum_eraseP (found : as.find? p = some a) (amount : α → Int) :
    ((as.eraseP p).map amount).sum = (as.map amount).sum - amount a := by
  obtain ⟨before, after, rfl, erased, -⟩ := exists_first found
  rw [erased]
  simp only [List.map_append, List.map_cons, List.sum_append, List.sum_cons]
  omega

end Sums

namespace SavingBookStore

structure Call where
  store : SavingBookStore
  request : Request
  answer : Answer

def calls (s : SavingBookStore) : List Request → List Call
  | [] => []
  | r :: rs => ⟨s, r, (s.answer r).1⟩ :: calls (s.answer r).2 rs

theorem mem_calls_iff {s : SavingBookStore} {rs : List Request} {c : Call} :
    c ∈ s.calls rs ↔ ∃ before r after, rs = before ++ r :: after ∧
      c = ⟨s.run before, r, ((s.run before).answer r).1⟩ := by
  induction rs generalizing s with
  | nil => simp [calls]
  | cons r rs ih =>
    simp only [calls, List.mem_cons, ih]
    constructor
    · rintro (rfl | ⟨before, r', after, rfl, rfl⟩)
      · exact ⟨[], r, rs, rfl, rfl⟩
      · exact ⟨r :: before, r', after, rfl, rfl⟩
    · rintro ⟨before, r', after, split, rfl⟩
      cases before with
      | nil =>
        obtain ⟨rfl, rfl⟩ := List.cons.inj split
        exact .inl rfl
      | cons first before =>
        obtain ⟨rfl, rfl⟩ := List.cons.inj split
        exact .inr ⟨before, r', after, rfl, rfl⟩

def total (s : SavingBookStore) : Int := (s.books.map (·.balance.toInt)).sum

namespace Call

def added (c : Call) : Int :=
  match c.request with
  | .add b => b.balance.toInt
  | _ => 0

def paidIn (c : Call) : Int :=
  match c.request, c.answer with
  | .updateBalance .., .change (some change) => change.after.toInt - change.before.toInt
  | _, _ => 0

def paidOut (c : Call) : Int :=
  match c.request, c.answer with
  | .close _, .closed (some closed) => closed.finalBalance.toInt
  | _, _ => 0

def deleted (c : Call) : Int :=
  match c.request, c.answer with
  | .delete _, .book (some b) => b.balance.toInt
  | _, _ => 0

/-- A change of a balance is told as it is: there is none if the book is not found, and else it
starts at the balance that a look-up has shown just before, and ends at the sum or at the limit
beyond which the sum lies. -/
def TellsChange (c : Call) : Prop :=
  ∀ id delta, c.request = .updateBalance id delta →
    (c.store.find? id = none ∧ c.answer = .change none) ∨
    ∃ b change, c.store.find? id = some b ∧ c.answer = .change (some change) ∧
      change.before = b.balance ∧ change.after.toInt =
        max Balance.least (min Balance.greatest (change.before.toInt + delta.toInt))

end Call

def Request.setsNoBalance : Request → Bool
  | .update _ p => p.balance.isNone
  | _ => true

variable {s : SavingBookStore} {id : String} {b : SavingBook}

theorem total_add (s : SavingBookStore) (b : SavingBook) :
    (s.add b).total = s.total + b.balance.toInt := by
  simp [total, add]

theorem total_modify (found : s.find? id = some b) (f : SavingBook → SavingBook) :
    (s.modify id f).total = s.total + (f b).balance.toInt - b.balance.toInt :=
  sum_modifyFirst found f _

theorem modify_of_find?_eq_none (missing : s.find? id = none) (f : SavingBook → SavingBook) :
    s.modify id f = s := by
  rw [modify, modifyFirst_of_find?_eq_none missing]

theorem total_delete (found : s.find? id = some b) :
    (s.delete id).2.total = s.total - b.balance.toInt :=
  sum_eraseP found _

theorem delete_of_find?_eq_none (missing : s.find? id = none) : (s.delete id).2 = s := by
  rw [delete, List.eraseP_of_forall_not]
  simpa using List.find?_eq_none.mp missing

theorem total_answer (s : SavingBookStore) {r : Request} (keeps : r.setsNoBalance) :
    let c : Call := ⟨s, r, (s.answer r).1⟩
    (s.answer r).2.total = s.total + c.added + c.paidIn - c.paidOut - c.deleted := by
  cases r with
  | find _ | findByCitizenId _ | findByType _ | findActive =>
    simp [answer, Call.added, Call.paidIn, Call.paidOut, Call.deleted]
  | add b => simp [answer, Call.added, Call.paidIn, Call.paidOut, Call.deleted, total_add]
  | update id p =>
    have same : ∀ b, (p.apply b).balance = b.balance := by
      intro b
      rw [SavingBookPatch.apply, Option.isNone_iff_eq_none.mp keeps, Option.getD_none]
    cases found : s.find? id with
    | none =>
      simp [answer, update, Call.added, Call.paidIn, Call.paidOut, Call.deleted,
        modify_of_find?_eq_none found]
    | some b =>
      simp [answer, update, Call.added, Call.paidIn, Call.paidOut, Call.deleted,
        total_modify found, same]
  | updateBalance id delta =>
    cases found : s.find? id with
    | none =>
      simp [answer, updateBalance, Call.added, Call.paidIn, Call.paidOut, Call.deleted, found,
        modify_of_find?_eq_none found]
    | some b =>
      simp only [answer, updateBalance, Call.added, Call.paidIn, Call.paidOut, Call.deleted, found,
        total_modify found, Option.map_some]
      omega
  | close id =>
    cases found : s.find? id with
    | none =>
      simp [answer, close, Call.added, Call.paidIn, Call.paidOut, Call.deleted, found,
        modify_of_find?_eq_none found]
    | some b =>
      simp [answer, close, Call.added, Call.paidIn, Call.paidOut, Call.deleted, found,
        total_modify found, SavingBook.closed]
  | delete id =>
    cases found : s.find? id with
    | none =>
      have missing : (s.delete id).1 = none := found
      simp [answer, Call.added, Call.paidIn, Call.paidOut, Call.deleted, missing,
        delete_of_find?_eq_none found]
    | some b =>
      have deleted : (s.delete id).1 = some b := found
      simp [answer, Call.added, Call.paidIn, Call.paidOut, Call.deleted, deleted,
        total_delete found]

theorem total_run (s : SavingBookStore) {rs : List Request} (keep : ∀ r ∈ rs, r.setsNoBalance) :
    (s.run rs).total = s.total + ((s.calls rs).map Call.added).sum
      + ((s.calls rs).map Call.paidIn).sum - ((s.calls rs).map Call.paidOut).sum
      - ((s.calls rs).map Call.deleted).sum := by
  induction rs generalizing s with
  | nil => simp [run, calls]
  | cons r rs ih =>
    have first := total_answer s (keep r (by simp))
    have later := ih (s.answer r).2 fun r' member => keep r' (by simp [member])
    have step : s.run (r :: rs) = (s.answer r).2.run rs := rfl
    simp only [step, calls, List.map_cons, List.sum_cons]
    omega

theorem tellsChange_of_mem {s : SavingBookStore} {rs : List Request} {c : Call}
    (member : c ∈ s.calls rs) : c.TellsChange := by
  obtain ⟨before, r, after, -, rfl⟩ := mem_calls_iff.mp member
  rintro id delta rfl
  cases found : (s.run before).find? id with
  | none => exact .inl ⟨rfl, by simp [answer, updateBalance, found]⟩
  | some b =>
    refine .inr ⟨b, ⟨b.addBalance delta, b.balance, (b.addBalance delta).balance⟩, rfl, ?_, rfl, ?_⟩
    · simp [answer, updateBalance, found]
    · exact Balance.toInt_add b.balance delta

/-- A run neither makes nor loses money: the total at the end is that at the start, with the books
that were added and what was paid in, and without what was paid out at closing and what was on
the books that were deleted. And every change of a balance is told as it is. -/
theorem run_conserves (s : SavingBookStore) {rs : List Request}
    (keep : ∀ r ∈ rs, r.setsNoBalance) :
    (s.run rs).total = s.total + ((s.calls rs).map Call.added).sum
      + ((s.calls rs).map Call.paidIn).sum - ((s.calls rs).map Call.paidOut).sum
      - ((s.calls rs).map Call.deleted).sum ∧
    ∀ c ∈ s.calls rs, c.TellsChange :=
  ⟨total_run s keep, fun _ member => tellsChange_of_mem member⟩

def sampleBook (id : String) (balance : Balance) : SavingBook :=
  ⟨id, "012345678901", "An", "T", "2024-01-01", none, balance, SavingBook.activeStatus⟩

/-- A run on two books with one id: a sum beyond the limit, which is paid out when the book is
closed, a second closing, a sum paid in after it, a book that takes another's id, one that is
deleted, and one that is not there. -/
def sampleRun : List Request := [
  .updateBalance "A" 9223372036854775807, .add (sampleBook "B" (-5)), .close "A", .close "A",
  .updateBalance "A" 7, .update "B" { SavingBookPatch.empty with id := some "A" },
  .add (sampleBook "D" 11), .delete "D", .delete "C", .find "A"]

theorem run_conserves_sample :
    let s : SavingBookStore := ⟨[sampleBook "A" 30, sampleBook "A" 4]⟩
    (∀ r ∈ sampleRun, r.setsNoBalance) ∧ (s.run sampleRun).total = 6 ∧
      ((s.calls sampleRun).map Call.added).sum = 6 ∧
      ((s.calls sampleRun).map Call.paidIn).sum = 9223372036854775784 ∧
      ((s.calls sampleRun).map Call.paidOut).sum = 9223372036854775807 ∧
      ((s.calls sampleRun).map Call.deleted).sum = 11 ∧
      (s.run sampleRun).total = s.total + ((s.calls sampleRun).map Call.added).sum
        + ((s.calls sampleRun).map Call.paidIn).sum - ((s.calls sampleRun).map Call.paidOut).sum
        - ((s.calls sampleRun).map Call.deleted).sum ∧
      ∀ c ∈ s.calls sampleRun, c.TellsChange := by
  intro s
  have keep : ∀ r ∈ sampleRun, r.setsNoBalance := by decide
  exact ⟨keep, by decide +kernel, by decide +kernel, by decide +kernel, by decide +kernel,
    by decide +kernel, run_conserves s keep⟩

end SavingBookStore

end MockData
