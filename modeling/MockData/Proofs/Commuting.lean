import MockData.Proofs.Edits
import MockData.Proofs.Identities

/-!
Requests about different ids do not get in each other's way. Each acts on the first record with its
id, wherever that stands by then; so it does not matter which of two comes first, though one may
take a record out and move those behind it.
-/
namespace MockData

section Replacing

def replaceFirst (p : α → Bool) (g : α → List α) : List α → List α
  | [] => []
  | a :: as => if p a then g a ++ as else a :: replaceFirst p g as

variable {p q : α → Bool} {f : α → α} {g h : α → List α} {as bs : List α}

theorem modifyFirst_eq_replaceFirst : modifyFirst p f as = replaceFirst p (fun a => [f a]) as := by
  induction as with
  | nil => rfl
  | cons a as ih => rw [modifyFirst, replaceFirst, ih, List.singleton_append]

theorem eraseP_eq_replaceFirst : as.eraseP p = replaceFirst p (fun _ => []) as := by
  induction as with
  | nil => rfl
  | cons a as ih =>
    by_cases first : p a
    · simp [replaceFirst, first]
    · simp [replaceFirst, first, ih]

theorem replaceFirst_append (fail : ∀ b ∈ bs, q b = false) :
    replaceFirst q h (bs ++ as) = bs ++ replaceFirst q h as := by
  induction bs with
  | nil => rfl
  | cons b bs ih =>
    rw [List.forall_mem_cons] at fail
    simp [replaceFirst, fail.1, ih fail.2]

/-- Two replacements may change places where neither test is met by what the other one acts on or
by what that gives way to. -/
theorem replaceFirst_comm (apart : ∀ a, p a → q a = false)
    (spared : ∀ a, p a → ∀ b ∈ g a, q b = false) (spared' : ∀ a, q a → ∀ b ∈ h a, p b = false) :
    replaceFirst p g (replaceFirst q h as) = replaceFirst q h (replaceFirst p g as) := by
  induction as with
  | nil => rfl
  | cons a as ih =>
    -- whichever test the record meets, the other replacement goes past what it gives way to
    by_cases first : p a
    · have other := apart a first
      simp only [replaceFirst, first, other, ↓reduceIte, Bool.false_eq_true]
      exact (replaceFirst_append (spared a first)).symm
    · by_cases second : q a
      · simp only [replaceFirst, first, second, ↓reduceIte, Bool.false_eq_true]
        exact replaceFirst_append (spared' a second)
      · simp only [replaceFirst, first, second, ih, Bool.false_eq_true, ↓reduceIte]

theorem find?_replaceFirst (apart : ∀ a, p a → q a = false)
    (spared : ∀ a, p a → ∀ b ∈ g a, q b = false) :
    (replaceFirst p g as).find? q = as.find? q := by
  induction as with
  | nil => rfl
  | cons a as ih =>
    by_cases first : p a
    · have passed : (g a).find? q = none := List.find?_eq_none.mpr (by simpa using spared a first)
      simp [replaceFirst, first, apart a first, passed]
    · simp [replaceFirst, first, List.find?_cons, ih]

end Replacing

namespace Edit

variable {key : α → String} {as : List α} {id id' : String} {e e' : Edit α}

def At (key : α → String) (id : String) : Edit α → Prop
  | change old f => old = id ∧ ∀ a, key (f a) = key a
  | erase old => old = id
  | keep | append _ => False

def remains : Edit α → α → List α
  | change _ f, a => [f a]
  | erase _, _ => []
  | keep, a | append _, a => [a]

theorem At.apply_eq (here : e.At key id) :
    e.apply key as = replaceFirst (key · = id) e.remains as := by
  cases e with
  | keep | append _ => cases here
  | change old f =>
    obtain ⟨rfl, -⟩ := here
    exact modifyFirst_eq_replaceFirst
  | erase old =>
    obtain rfl := here
    exact eraseP_eq_replaceFirst

theorem At.key_of_mem_remains (here : e.At key id) {a b : α} (member : b ∈ e.remains a) :
    key b = key a := by
  cases e with
  | keep | append _ => cases here
  | change old f =>
    obtain rfl := List.mem_singleton.mp member
    exact here.2 a
  | erase old => cases member

theorem At.spares (here : e.At key id) (differ : id ≠ id') (a : α) (own : decide (key a = id)) :
    ∀ b ∈ e.remains a, decide (key b = id') = false := by
  intro b member
  rw [here.key_of_mem_remains member, of_decide_eq_true own]
  exact decide_eq_false differ

theorem apart_of_ne (differ : id ≠ id') (a : α) (own : decide (key a = id)) :
    decide (key a = id') = false := by
  rw [of_decide_eq_true own]
  exact decide_eq_false differ

theorem At.apply_comm (first : e.At key id) (second : e'.At key id') (differ : id ≠ id') :
    e.apply key (e'.apply key as) = e'.apply key (e.apply key as) := by
  simp only [first.apply_eq, second.apply_eq]
  exact replaceFirst_comm (apart_of_ne differ) (first.spares differ) (second.spares differ.symm)

theorem At.find?_apply (here : e.At key id) (differ : id ≠ id') :
    (e.apply key as).find? (key · = id') = as.find? (key · = id') := by
  rw [here.apply_eq]
  exact find?_replaceFirst (apart_of_ne differ) (here.spares differ)

end Edit

structure Swap (answer : σ → ρ → τ × σ) (s : σ) (q r : ρ) : Prop where
  first : (answer (answer s r).2 q).1 = (answer s q).1
  second : (answer (answer s q).2 r).1 = (answer s r).1
  left : (answer (answer s q).2 r).2 = (answer (answer s r).2 q).2

/-- Where requests are edits of the records, two at different ids may change places if each is
answered by what a look-up of its id finds. -/
theorem Swap.of_edits {key : α → String} {answer : σ → ρ → τ × σ} {records : σ → List α}
    {edit : ρ → Edit α} {q r : ρ} {id id' : String} (extensional : Function.Injective records)
    (edits : ∀ s r, records (answer s r).2 = (edit r).apply key (records s))
    (first : (edit q).At key id) (second : (edit r).At key id') (differ : id ≠ id')
    (told : ∀ s t, (records s).find? (key · = id) = (records t).find? (key · = id) →
      (answer s q).1 = (answer t q).1)
    (told' : ∀ s t, (records s).find? (key · = id') = (records t).find? (key · = id') →
      (answer s r).1 = (answer t r).1) (s : σ) : Swap answer s q r where
  first := told _ _ (by rw [edits, second.find?_apply differ.symm])
  second := told' _ _ (by rw [edits, first.find?_apply differ])
  left := extensional (by simp only [edits, second.apply_comm first differ.symm])

namespace CustomerStore

/-- The request is to change or to take out the first customer with the id, and the change is not
one of the id. -/
def Request.Addresses (id : String) : Request → Prop
  | .update old p => old = id ∧ p.id = none
  | .delete old => old = id
  | .find _ | .findByCitizenId _ | .add _ => False

variable {r : Request} {id : String}

theorem Request.Addresses.at_edit (addresses : r.Addresses id) : r.edit.At (·.id) id := by
  cases r with
  | find _ | findByCitizenId _ | add _ => cases addresses
  | update old p =>
    obtain ⟨rfl, kept⟩ := addresses
    exact ⟨rfl, fun c => by rw [CustomerPatch.apply, kept, Option.getD_none]⟩
  | delete old => exact addresses

theorem Request.Addresses.answer_eq (addresses : r.Addresses id) (s t : CustomerStore)
    (same : s.find? id = t.find? id) : (s.answer r).1 = (t.answer r).1 := by
  cases r with
  | find _ | findByCitizenId _ | add _ => cases addresses
  | update old p =>
    obtain ⟨rfl, -⟩ := addresses
    exact congrArg (Option.map p.apply) same
  | delete old =>
    obtain rfl := addresses
    exact same

theorem customers_injective : Function.Injective customers := by
  rintro ⟨cs⟩ ⟨cs'⟩ rfl
  rfl

end CustomerStore

namespace SavingBookStore

def Request.Addresses (id : String) : Request → Prop
  | .update old p => old = id ∧ p.id = none
  | .updateBalance old _ | .close old | .delete old => old = id
  | .find _ | .findByCitizenId _ | .findByType _ | .findActive | .add _ => False

variable {r : Request} {id : String}

theorem Request.Addresses.at_edit (addresses : r.Addresses id) : r.edit.At (·.id) id := by
  cases r with
  | find _ | findByCitizenId _ | findByType _ | findActive | add _ => cases addresses
  | update old p =>
    obtain ⟨rfl, kept⟩ := addresses
    exact ⟨rfl, fun b => by rw [SavingBookPatch.apply, kept, Option.getD_none]⟩
  | updateBalance old _ | close old => exact ⟨addresses, fun _ => rfl⟩
  | delete old => exact addresses

theorem Request.Addresses.answer_eq (addresses : r.Addresses id) (s t : SavingBookStore)
    (same : s.find? id = t.find? id) : (s.answer r).1 = (t.answer r).1 := by
  cases r with
  | find _ | findByCitizenId _ | findByType _ | findActive | add _ => cases addresses
  | update old p =>
    obtain ⟨rfl, -⟩ := addresses
    exact congrArg (fun found => Answer.book (found.map p.apply)) same
  | updateBalance old delta =>
    obtain rfl := addresses
    simp only [answer, SavingBookStore.updateBalance, same]
  | close old =>
    obtain rfl := addresses
    simp only [answer, SavingBookStore.close, same]
  | delete old =>
    obtain rfl := addresses
    exact congrArg Answer.book same

theorem books_injective : Function.Injective books := by
  rintro ⟨bs⟩ ⟨bs'⟩ rfl
  rfl

end SavingBookStore

theorem requests_swap_of_ne :
    (∀ (s : CustomerStore) q r id id', q.Addresses id → r.Addresses id' → id ≠ id' →
      Swap CustomerStore.answer s q r) ∧
    ∀ (s : SavingBookStore) q r id id', q.Addresses id → r.Addresses id' → id ≠ id' →
      Swap SavingBookStore.answer s q r := by
  constructor
  · intro s q r id id' first second differ
    exact .of_edits CustomerStore.customers_injective CustomerStore.customers_answer
      first.at_edit second.at_edit differ first.answer_eq second.answer_eq s
  · intro s q r id id' first second differ
    exact .of_edits SavingBookStore.books_injective SavingBookStore.books_answer
      first.at_edit second.at_edit differ first.answer_eq second.answer_eq s

theorem requests_swap_of_ne_sample :
    let s : CustomerStore := ⟨[sampleCustomer "A", sampleCustomer "B", sampleCustomer "A"]⟩
    let named : CustomerPatch := { CustomerPatch.empty with fullName := some "Bình" }
    let t : SavingBookStore := ⟨["A", "B", "A", "B"].map (SavingBookStore.sampleBook · 30)⟩
    Swap CustomerStore.answer s (.delete "A") (.update "B" named) ∧
      (t.run [.delete "A", .updateBalance "B" (-40)]).books.map (fun b => (b.id, b.balance)) =
        [("B", -10), ("A", 30), ("B", 30)] ∧
      Swap SavingBookStore.answer t (.delete "A") (.updateBalance "B" (-40)) ∧
      Swap SavingBookStore.answer t (.close "A") (.delete "C") := by
  intro s named t
  refine ⟨requests_swap_of_ne.1 s _ _ "A" "B" rfl ⟨rfl, rfl⟩ (by decide), by decide +kernel, ?_, ?_⟩
  · exact requests_swap_of_ne.2 t _ _ "A" "B" rfl rfl (by decide)
  · exact requests_swap_of_ne.2 t _ _ "A" "C" rfl rfl (by decide)

end MockData
