import MockData.Customer.Store
import MockData.Proofs.Keys
import MockData.SavingBook.Store

/-!
What requests do to a list of records with keys. Of whatever kind a request is, it keeps the list,
adds a record, changes the first one with a key, or takes that one out; how the keys of the list
change is said once, for these.
-/
namespace MockData

inductive Edit (α : Type)
  | keep
  | append (a : α)
  | change (id : String) (f : α → α)
  | erase (id : String)

namespace Edit

variable {α : Type} (key : α → String)

def apply : Edit α → List α → List α
  | keep, as => as
  | append a, as => as ++ [a]
  | change id f, as => modifyFirst (key · = id) f as
  | erase id, as => as.eraseP (key · = id)

def run (as : List α) (es : List (Edit α)) : List α := es.foldl (fun as e => e.apply key as) as

/-- A key comes to a list with a new record, or with a change of a record that had another key. -/
def Brings (as : List α) (id : String) : Edit α → Prop
  | append a => key a = id
  | change old f => ∃ a, as.find? (key · = old) = some a ∧ key (f a) = id ∧ id ≠ old
  | keep | erase _ => False

def BringNew (as : List α) : List (Edit α) → Prop
  | [] => True
  | e :: es => (∀ id, e.Brings key as id → id ∉ as.map key) ∧ BringNew (e.apply key as) es

variable {key} {as : List α} {a : α} {id : String} {e : Edit α} {es : List (Edit α)}

theorem not_mem_keys_erase (distinct : (as.map key).Nodup) :
    id ∉ ((erase id).apply key as).map key := by
  cases found : as.find? (key · = id) with
  | none =>
    have absent := find?_key_eq_none_iff.mp found
    exact fun member => absent ((List.eraseP_sublist.map key).subset member)
  | some a =>
    obtain ⟨before, after, rfl, erased, -⟩ := exists_first found
    rw [List.map_append, List.map_cons, List.nodup_middle, List.nodup_cons] at distinct
    rw [apply, erased, List.map_append, ← key_of_find? found]
    exact distinct.1

theorem mem_keys_apply (member : id ∈ (e.apply key as).map key) :
    id ∈ as.map key ∨ e.Brings key as id := by
  cases e with
  | keep => exact .inl member
  | append a =>
    rw [apply, List.map_append, List.mem_append] at member
    exact member.imp_right fun last => (List.mem_singleton.mp last).symm
  | erase old => exact .inl ((List.eraseP_sublist.map key).subset member)
  | change old f =>
    cases found : as.find? (key · = old) with
    | none =>
      rw [apply, modifyFirst_of_find?_eq_none found] at member
      exact .inl member
    | some a =>
      obtain ⟨before, after, split, -, modified⟩ := exists_first found
      have same := key_of_find? found
      rw [apply, modified] at member
      simp only [List.map_append, List.map_cons, List.mem_append, List.mem_cons] at member
      by_cases kept : id = old
      · exact .inl (by simp [split, kept, same])
      · rcases member with earlier | rfl | later
        · exact .inl (by simp [split, earlier])
        · exact .inr ⟨a, found, rfl, kept⟩
        · exact .inl (by simp [split, later])

theorem nodup_apply (distinct : (as.map key).Nodup)
    (new : ∀ id, e.Brings key as id → id ∉ as.map key) : ((e.apply key as).map key).Nodup := by
  cases e with
  | keep => exact distinct
  | append a =>
    rw [apply, List.map_append, List.nodup_append_comm]
    exact List.nodup_cons.mpr ⟨new (key a) rfl, distinct⟩
  | erase old => exact distinct.sublist (List.eraseP_sublist.map key)
  | change old f =>
    cases found : as.find? (key · = old) with
    | none => rwa [apply, modifyFirst_of_find?_eq_none found]
    | some a =>
      obtain ⟨before, after, split, -, modified⟩ := exists_first found
      have same := key_of_find? found
      have fresh := new (key (f a))
      rw [apply, modified]
      rw [split] at distinct fresh
      simp only [List.map_append, List.map_cons, List.nodup_middle, List.nodup_cons] at distinct ⊢
      by_cases kept : key (f a) = old
      · rwa [kept, ← same]
      · have absent := fresh ⟨a, split ▸ found, rfl, kept⟩
        simp only [List.map_append, List.map_cons, List.mem_append, List.mem_cons, not_or]
          at absent
        exact ⟨by simp [absent], distinct.2⟩

theorem nodup_run (distinct : (as.map key).Nodup) (new : BringNew key as es) :
    ((run key as es).map key).Nodup := by
  induction es generalizing as with
  | nil => exact distinct
  | cons e es ih => exact ih (nodup_apply distinct new.1) new.2

theorem exists_brings {ρ : Type} {edit : ρ → Edit α} {rs : List ρ} (absent : id ∉ as.map key)
    (there : id ∈ (run key as (rs.map edit)).map key) : ∃ before r after,
      rs = before ++ r :: after ∧ (edit r).Brings key (run key as (before.map edit)) id := by
  induction rs generalizing as with
  | nil => exact absurd there absent
  | cons r rs ih =>
    by_cases brings : (edit r).Brings key as id
    · exact ⟨[], r, rs, rfl, brings⟩
    · have absent' : id ∉ ((edit r).apply key as).map key := fun member =>
        (mem_keys_apply member).elim absent brings
      obtain ⟨before, r', after, rfl, later⟩ := ih absent' there
      exact ⟨r :: before, r', after, rfl, later⟩

end Edit

namespace CustomerStore

def Request.edit : Request → Edit Customer
  | .find _ | .findByCitizenId _ => .keep
  | .add c => .append c
  | .update id p => .change id p.apply
  | .delete id => .erase id

theorem customers_answer (s : CustomerStore) (r : Request) :
    (s.answer r).2.customers = r.edit.apply (·.id) s.customers := by
  cases r <;> rfl

theorem customers_run (s : CustomerStore) (rs : List Request) :
    (s.run rs).customers = Edit.run (·.id) s.customers (rs.map Request.edit) := by
  induction rs generalizing s with
  | nil => rfl
  | cons r rs ih =>
    rw [List.map_cons, Edit.run, List.foldl_cons, ← customers_answer]
    exact ih _

end CustomerStore

namespace SavingBookStore

def Request.edit : Request → Edit SavingBook
  | .find _ | .findByCitizenId _ | .findByType _ | .findActive => .keep
  | .add b => .append b
  | .update id p => .change id p.apply
  | .updateBalance id delta => .change id (·.addBalance delta)
  | .close id => .change id SavingBook.closed
  | .delete id => .erase id

theorem books_answer (s : SavingBookStore) (r : Request) :
    (s.answer r).2.books = r.edit.apply (·.id) s.books := by
  cases r <;> rfl

theorem books_run (s : SavingBookStore) (rs : List Request) :
    (s.run rs).books = Edit.run (·.id) s.books (rs.map Request.edit) := by
  induction rs generalizing s with
  | nil => rfl
  | cons r rs ih =>
    rw [List.map_cons, Edit.run, List.foldl_cons, ← books_answer]
    exact ih _

end SavingBookStore

end MockData
