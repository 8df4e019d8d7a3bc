import MockData.Proofs.Edits
import MockData.Proofs.Holdings

/-!
Stores in which no two records have one id. They stay so as long as an id that comes in is new to
the store, and then an id means one record: a look-up finds the record it was taken from, and a
deletion leaves none.
-/
namespace MockData

namespace CustomerStore

def Introduces (s : CustomerStore) (id : String) : Request → Prop
  | .add c => c.id = id
  | .update old p => (s.find? old).isSome ∧ p.id = some id ∧ id ≠ old
  | .find _ | .findByCitizenId _ | .delete _ => False

/-- An added customer has an id that is not in the store, and so has one whose id is changed. -/
def Admits (s : CustomerStore) : Request → Prop
  | .add c => s.find? c.id = none
  | .update id p => ∀ new ∈ p.id, new = id ∨ s.find? new = none
  | .find _ | .findByCitizenId _ | .delete _ => True

def AdmitsAll (s : CustomerStore) : List Request → Prop
  | [] => True
  | r :: rs => s.Admits r ∧ (s.answer r).2.AdmitsAll rs

instance (s : CustomerStore) : (r : Request) → Decidable (s.Admits r)
  | .add c => inferInstanceAs (Decidable (s.find? c.id = none))
  | .update id p => inferInstanceAs (Decidable (∀ new ∈ p.id, new = id ∨ s.find? new = none))
  | .find _ | .findByCitizenId _ | .delete _ => inferInstanceAs (Decidable True)

instance decidableAdmitsAll : (s : CustomerStore) → (rs : List Request) → Decidable (s.AdmitsAll rs)
  | _, [] => .isTrue trivial
  | s, r :: rs =>
    have := decidableAdmitsAll (s.answer r).2 rs
    inferInstanceAs (Decidable (s.Admits r ∧ (s.answer r).2.AdmitsAll rs))

/-- A store in which an id means one customer. A deleted id is found again only behind a request
that introduces it. -/
structure Identifies (s : CustomerStore) : Prop where
  nodup : (s.customers.map (·.id)).Nodup
  find?_id : ∀ c ∈ s.customers, s.find? c.id = some c
  find?_delete : ∀ id, (s.delete id).2.find? id = none
  introduced : ∀ id rs, ((s.delete id).2.run rs).find? id ≠ none → ∃ before r after,
    rs = before ++ r :: after ∧ ((s.delete id).2.run before).Introduces id r

theorem find?_eq_none_iff {s : CustomerStore} {id : String} :
    s.find? id = none ↔ id ∉ s.customers.map (·.id) := find?_key_eq_none_iff

theorem introduces_of_brings {s : CustomerStore} {id : String} {r : Request}
    (brings : r.edit.Brings (·.id) s.customers id) : s.Introduces id r := by
  cases r with
  | find _ | findByCitizenId _ | delete _ => exact brings
  | add c => exact brings
  | update old p =>
    obtain ⟨c, found, named, other⟩ := brings
    refine ⟨Option.isSome_iff_exists.mpr ⟨c, found⟩, ?_, other⟩
    cases given : p.id with
    | some new => simpa [CustomerPatch.apply, given] using named
    | none =>
      have same : c.id = id := by simpa [CustomerPatch.apply, given] using named
      exact absurd (same.symm.trans (key_of_find? found)) other

theorem Admits.find?_of_introduces {s : CustomerStore} {id : String} {r : Request}
    (admits : s.Admits r) (introduces : s.Introduces id r) : s.find? id = none := by
  cases r with
  | find _ | findByCitizenId _ | delete _ => cases introduces
  | add c => exact introduces ▸ admits
  | update old p =>
    obtain ⟨-, given, other⟩ := introduces
    exact (admits id given).resolve_left other

theorem AdmitsAll.bringNew {s : CustomerStore} {rs : List Request} (admits : s.AdmitsAll rs) :
    Edit.BringNew (·.id) s.customers (rs.map Request.edit) := by
  induction rs generalizing s with
  | nil => trivial
  | cons r rs ih =>
    refine ⟨fun id brings => find?_eq_none_iff.mp ?_, ?_⟩
    · exact admits.1.find?_of_introduces (introduces_of_brings brings)
    · rw [← customers_answer]
      exact ih admits.2

theorem identifies_of_nodup {s : CustomerStore} (nodup : (s.customers.map (·.id)).Nodup) :
    s.Identifies := by
  have gone (id : String) : (s.delete id).2.find? id = none :=
    find?_eq_none_iff.mpr (Edit.not_mem_keys_erase nodup)
  refine ⟨nodup, fun c member => find?_of_mem nodup member, gone, fun id rs found => ?_⟩
  rw [Ne, find?_eq_none_iff, not_not, customers_run] at found
  obtain ⟨before, r, after, split, brings⟩ :=
    Edit.exists_brings (find?_eq_none_iff.mp (gone id)) found
  rw [← customers_run] at brings
  exact ⟨before, r, after, split, introduces_of_brings brings⟩

end CustomerStore

namespace SavingBookStore

def Introduces (s : SavingBookStore) (id : String) : Request → Prop
  | .add b => b.id = id
  | .update old p => (s.find? old).isSome ∧ p.id = some id ∧ id ≠ old
  | .find _ | .findByCitizenId _ | .findByType _ | .findActive | .updateBalance .. | .close _
  | .delete _ => False

def Admits (s : SavingBookStore) : Request → Prop
  | .add b => s.find? b.id = none
  | .update id p => ∀ new ∈ p.id, new = id ∨ s.find? new = none
  | .find _ | .findByCitizenId _ | .findByType _ | .findActive | .updateBalance .. | .close _
  | .delete _ => True

def AdmitsAll (s : SavingBookStore) : List Request → Prop
  | [] => True
  | r :: rs => s.Admits r ∧ (s.answer r).2.AdmitsAll rs

instance (s : SavingBookStore) : (r : Request) → Decidable (s.Admits r)
  | .add b => inferInstanceAs (Decidable (s.find? b.id = none))
  | .update id p => inferInstanceAs (Decidable (∀ new ∈ p.id, new = id ∨ s.find? new = none))
  | .find _ | .findByCitizenId _ | .findByType _ | .findActive | .updateBalance .. | .close _
  | .delete _ => inferInstanceAs (Decidable True)

instance decidableAdmitsAll :
    (s : SavingBookStore) → (rs : List Request) → Decidable (s.AdmitsAll rs)
  | _, [] => .isTrue trivial
  | s, r :: rs =>
    have := decidableAdmitsAll (s.answer r).2 rs
    inferInstanceAs (Decidable (s.Admits r ∧ (s.answer r).2.AdmitsAll rs))

structure Identifies (s : SavingBookStore) : Prop where
  nodup : (s.books.map (·.id)).Nodup
  find?_id : ∀ b ∈ s.books, s.find? b.id = some b
  find?_delete : ∀ id, (s.delete id).2.find? id = none
  introduced : ∀ id rs, ((s.delete id).2.run rs).find? id ≠ none → ∃ before r after,
    rs = before ++ r :: after ∧ ((s.delete id).2.run before).Introduces id r

theorem find?_eq_none_iff {s : SavingBookStore} {id : String} :
    s.find? id = none ↔ id ∉ s.books.map (·.id) := find?_key_eq_none_iff

theorem introduces_of_brings {s : SavingBookStore} {id : String} {r : Request}
    (brings : r.edit.Brings (·.id) s.books id) : s.Introduces id r := by
  cases r with
  | find _ | findByCitizenId _ | findByType _ | findActive | delete _ => exact brings
  | add b => exact brings
  | updateBalance old _ | close old =>
    obtain ⟨b, found, rfl, other⟩ := brings
    exact absurd (key_of_find? found) other
  | update old p =>
    obtain ⟨b, found, named, other⟩ := brings
    refine ⟨Option.isSome_iff_exists.mpr ⟨b, found⟩, ?_, other⟩
    cases given : p.id with
    | some new => simpa [SavingBookPatch.apply, given] using named
    | none =>
      have same : b.id = id := by simpa [SavingBookPatch.apply, given] using named
      exact absurd (same.symm.trans (key_of_find? found)) other

theorem Admits.find?_of_introduces {s : SavingBookStore} {id : String} {r : Request}
    (admits : s.Admits r) (introduces : s.Introduces id r) : s.find? id = none := by
  cases r with
  | find _ | findByCitizenId _ | findByType _ | findActive | updateBalance _ _ | close _
  | delete _ => cases introduces
  | add b => exact introduces ▸ admits
  | update old p =>
    obtain ⟨-, given, other⟩ := introduces
    exact (admits id given).resolve_left other

theorem AdmitsAll.bringNew {s : SavingBookStore} {rs : List Request} (admits : s.AdmitsAll rs) :
    Edit.BringNew (·.id) s.books (rs.map Request.edit) := by
  induction rs generalizing s with
  | nil => trivial
  | cons r rs ih =>
    refine ⟨fun id brings => find?_eq_none_iff.mp ?_, ?_⟩
    · exact admits.1.find?_of_introduces (introduces_of_brings brings)
    · rw [← books_answer]
      exact ih admits.2

theorem identifies_of_nodup {s : SavingBookStore} (nodup : (s.books.map (·.id)).Nodup) :
    s.Identifies := by
  have gone (id : String) : (s.delete id).2.find? id = none :=
    find?_eq_none_iff.mpr (Edit.not_mem_keys_erase nodup)
  refine ⟨nodup, fun b member => find?_of_mem nodup member, gone, fun id rs found => ?_⟩
  rw [Ne, find?_eq_none_iff, not_not, books_run] at found
  obtain ⟨before, r, after, split, brings⟩ :=
    Edit.exists_brings (find?_eq_none_iff.mp (gone id)) found
  rw [← books_run] at brings
  exact ⟨before, r, after, split, introduces_of_brings brings⟩

end SavingBookStore

/-- Stores with distinct ids keep them so over every run that brings in only ids they do not have,
and in each state on the way an id means one record. -/
theorem identifies_run :
    (∀ (s : CustomerStore) rs, (s.customers.map (·.id)).Nodup → s.AdmitsAll rs →
      (s.run rs).Identifies) ∧
    ∀ (s : SavingBookStore) rs, (s.books.map (·.id)).Nodup → s.AdmitsAll rs →
      (s.run rs).Identifies := by
  constructor
  · intro s rs distinct admits
    refine CustomerStore.identifies_of_nodup ?_
    rw [CustomerStore.customers_run]
    exact Edit.nodup_run distinct admits.bringNew
  · intro s rs distinct admits
    refine SavingBookStore.identifies_of_nodup ?_
    rw [SavingBookStore.books_run]
    exact Edit.nodup_run distinct admits.bringNew

def sampleCustomer (id : String) : Customer := ⟨id, "An", "012345678901", "", "", "", "2000-01-01"⟩

def renameCustomer (id new : String) : CustomerStore.Request :=
  .update id { CustomerPatch.empty with id := some new }

def renameBook (id new : String) : SavingBookStore.Request :=
  .update id { SavingBookPatch.empty with id := some new }

theorem identifies_run_renamed :
    let s : CustomerStore := ⟨[sampleCustomer "A", sampleCustomer "B"]⟩
    let rs : List CustomerStore.Request := [renameCustomer "A" "C", .add (sampleCustomer "A"),
      renameCustomer "A" "A", .delete "B", renameCustomer "C" "B", .delete "D"]
    let t : SavingBookStore :=
      ⟨[SavingBookStore.sampleBook "A" 30, SavingBookStore.sampleBook "B" 4]⟩
    let qs : List SavingBookStore.Request := [renameBook "A" "C", .close "C",
      .add (SavingBookStore.sampleBook "A" 1), .updateBalance "A" 5, .delete "B",
      renameBook "C" "B", renameBook "D" "E"]
    ((s.customers.map (·.id)).Nodup ∧ s.AdmitsAll rs ∧
      (s.run rs).customers.map (·.id) = ["B", "A"] ∧ (s.run rs).Identifies) ∧
    (t.books.map (·.id)).Nodup ∧ t.AdmitsAll qs ∧
      (t.run qs).books.map (·.id) = ["B", "A"] ∧ (t.run qs).Identifies := by
  intro s rs t qs
  have distinct : (s.customers.map (·.id)).Nodup := by decide
  have distinct' : (t.books.map (·.id)).Nodup := by decide
  have admits : s.AdmitsAll rs := by decide
  have admits' : t.AdmitsAll qs := by decide
  exact ⟨⟨distinct, admits, by decide, identifies_run.1 s rs distinct admits⟩,
    distinct', admits', by decide, identifies_run.2 t qs distinct' admits'⟩

end MockData
