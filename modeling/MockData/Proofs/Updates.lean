import MockData.Proofs.Identities

/-!
What an update does: to the fields of a record, to the list it stands in, and to what a look-up
finds afterwards. A record may be given the id of an earlier one, which a look-up then goes on to
find. As records may be alike in every field, the one that is found is told by its place.
-/
namespace MockData

section FirstMatch

variable {p q : α → Bool} {as : List α} {a : α} {i : Nat}

theorem exists_set_of_findIdx? (first : as.findIdx? p = some i) : ∃ a, as[i]? = some a ∧ p a ∧
    as.find? p = some a ∧ ∀ f, modifyFirst p f as = as.set i (f a) := by
  obtain ⟨inside, holds, fail⟩ := List.findIdx?_eq_some_iff_getElem.mp first
  have split : as = as.take i ++ as[i] :: as.drop (i + 1) := by simp
  have earlier : ∀ b ∈ as.take i, p b = false := by
    intro b member
    obtain ⟨j, hj, rfl⟩ := List.mem_take_iff_getElem.mp member
    simpa using fail j (by omega)
  refine ⟨as[i], List.getElem?_eq_getElem inside, holds, ?_, fun f => ?_⟩
  · rw [List.find?_eq_bind_findIdx?_getElem?, first, Option.bind_some,
      List.getElem?_eq_getElem inside]
  · rw [List.set_eq_take_append_cons_drop, if_pos inside]
    conv_lhs => rw [split]
    exact modifyFirst_append_cons earlier holds

theorem findIdx?_set_iff (inside : i < as.length) (holds : q a) :
    (as.set i a).findIdx? q = some i ↔ ∀ j < i, ∀ b ∈ as[j]?, q b = false := by
  rw [List.findIdx?_eq_some_iff_getElem]
  constructor
  · rintro ⟨_, _, fail⟩ j before b member
    obtain ⟨hj, rfl⟩ := List.getElem?_eq_some_iff.mp member
    have kept := fail j before
    rw [List.getElem_set_ne (by omega)] at kept
    simpa using kept
  · intro fail
    refine ⟨by simpa using inside, by simpa using holds, fun j before => ?_⟩
    rw [List.getElem_set_ne (by omega)]
    simpa using fail j before _ (List.getElem?_eq_getElem (by omega))

theorem find?_eq_none_of_findIdx? (absent : as.findIdx? p = none) : as.find? p = none := by
  rw [List.find?_eq_bind_findIdx?_getElem?, absent, Option.bind_none]

theorem exists_findIdx?_le (stands : as[i]? = some a) (holds : p a) :
    ∃ j ≤ i, as.findIdx? p = some j ∧ as.find? p = as[j]? := by
  obtain ⟨inside, rfl⟩ := List.getElem?_eq_some_iff.mp stands
  cases first : as.findIdx? p with
  | none =>
    have fails := List.findIdx?_eq_none_iff.mp first as[i] (List.getElem_mem inside)
    exact absurd holds (by simp [fails])
  | some j =>
    obtain ⟨_, _, fail⟩ := List.findIdx?_eq_some_iff_getElem.mp first
    refine ⟨j, Nat.not_lt.mp fun before => fail i before holds, rfl, ?_⟩
    rw [List.find?_eq_bind_findIdx?_getElem?, first, Option.bind_some]

end FirstMatch

section Keys

variable {key : α → String} {as : List α} {id : String} {i : Nat}

theorem key_ne_of_findIdx? (first : as.findIdx? (key · = id) = some i) :
    ∀ j < i, ∀ b ∈ as[j]?, key b ≠ id := by
  obtain ⟨_, _, fail⟩ := List.findIdx?_eq_some_iff_getElem.mp first
  intro j before b member
  obtain ⟨hj, rfl⟩ := List.getElem?_eq_some_iff.mp member
  simpa using fail j before

theorem finds_set_iff (inside : i < as.length) (a : α) :
    (as.set i a).findIdx? (key · = key a) = some i ∧
      (as.set i a).find? (key · = key a) = some a ↔ ∀ j < i, ∀ b ∈ as[j]?, key b ≠ key a := by
  have place := findIdx?_set_iff (q := (key · = key a)) inside (decide_eq_true rfl)
  simp only [decide_eq_false_iff_not] at place
  refine ⟨fun found => place.mp found.1, fun free => ⟨place.mpr free, ?_⟩⟩
  rw [List.find?_eq_bind_findIdx?_getElem?, place.mpr free, Option.bind_some,
    List.getElem?_set_self inside]

theorem shown_of_set (first : as.findIdx? (key · = id) = some i) (a : α) :
    (∃ j ≤ i, (as.set i a).findIdx? (key · = key a) = some j ∧
      (as.set i a).find? (key · = key a) = (as.set i a)[j]?) ∧
    ((as.set i a).findIdx? (key · = key a) = some i ∧
      (as.set i a).find? (key · = key a) = some a ↔ ∀ j < i, ∀ b ∈ as[j]?, key b ≠ key a) ∧
    (key a = id → ∀ j < i, ∀ b ∈ as[j]?, key b ≠ key a) := by
  obtain ⟨inside, -, -⟩ := List.findIdx?_eq_some_iff_getElem.mp first
  refine ⟨?_, finds_set_iff inside a, ?_⟩
  · exact exists_findIdx?_le (List.getElem?_set_self inside) (decide_eq_true rfl)
  · rintro rfl
    exact key_ne_of_findIdx? first

end Keys

def Sets (change : Option β) (old new : β) : Prop :=
  match change with
  | some value => new = value
  | none => new = old

theorem sets_getD {change : Option β} {old : β} : Sets change old (change.getD old) := by
  cases change <;> rfl

structure CustomerPatch.Turns (p : CustomerPatch) (c c' : Customer) : Prop where
  id : Sets p.id c.id c'.id
  fullName : Sets p.fullName c.fullName c'.fullName
  citizenId : Sets p.citizenId c.citizenId c'.citizenId
  address : Sets p.address c.address c'.address
  phone : Sets p.phone c.phone c'.phone
  email : Sets p.email c.email c'.email
  birthDate : Sets p.birthDate c.birthDate c'.birthDate

theorem CustomerPatch.turns_apply (p : CustomerPatch) (c : Customer) : p.Turns c (p.apply c) :=
  ⟨sets_getD, sets_getD, sets_getD, sets_getD, sets_getD, sets_getD, sets_getD⟩

/-- A book as it is after a change. A maturity date may be set to none. -/
structure SavingBookPatch.Turns (p : SavingBookPatch) (b b' : SavingBook) : Prop where
  id : Sets p.id b.id b'.id
  citizenId : Sets p.citizenId b.citizenId b'.citizenId
  customerName : Sets p.customerName b.customerName b'.customerName
  typeId : Sets p.typeId b.typeId b'.typeId
  openDate : Sets p.openDate b.openDate b'.openDate
  maturityDate : Sets p.maturityDate b.maturityDate b'.maturityDate
  balance : Sets p.balance b.balance b'.balance
  status : Sets p.status b.status b'.status

theorem SavingBookPatch.turns_apply (p : SavingBookPatch) (b : SavingBook) : p.Turns b (p.apply b) :=
  ⟨sets_getD, sets_getD, sets_getD, sets_getD, sets_getD, sets_getD, sets_getD, sets_getD⟩

namespace CustomerStore

def place? (s : CustomerStore) (id : String) : Option Nat := s.customers.findIdx? (·.id = id)

variable {s : CustomerStore} {id : String} {i : Nat}

theorem update_of_place?_eq_none (absent : s.place? id = none) (p : CustomerPatch) :
    s.update id p = (none, s) := by
  have missing : s.find? id = none := find?_eq_none_of_findIdx? absent
  rw [update, missing, modifyFirst_of_find?_eq_none missing, Option.map_none]

theorem update_of_place? (first : s.place? id = some i) (p : CustomerPatch) :
    ∃ c, s.customers[i]? = some c ∧ c.id = id ∧
      s.update id p = (some (p.apply c), ⟨s.customers.set i (p.apply c)⟩) := by
  obtain ⟨c, stands, own, found, changed⟩ := exists_set_of_findIdx? first
  refine ⟨c, stands, of_decide_eq_true own, ?_⟩
  rw [update, changed, find?, found, Option.map_some]

end CustomerStore

namespace SavingBookStore

def place? (s : SavingBookStore) (id : String) : Option Nat := s.books.findIdx? (·.id = id)

variable {s : SavingBookStore} {id : String} {i : Nat}

theorem update_of_place?_eq_none (absent : s.place? id = none) (p : SavingBookPatch) :
    s.update id p = (none, s) := by
  have missing : s.find? id = none := find?_eq_none_of_findIdx? absent
  rw [update, missing, modify, modifyFirst_of_find?_eq_none missing, Option.map_none]

theorem update_of_place? (first : s.place? id = some i) (p : SavingBookPatch) :
    ∃ b, s.books[i]? = some b ∧ b.id = id ∧
      s.update id p = (some (p.apply b), ⟨s.books.set i (p.apply b)⟩) := by
  obtain ⟨b, stands, own, found, changed⟩ := exists_set_of_findIdx? first
  refine ⟨b, stands, of_decide_eq_true own, ?_⟩
  rw [update, modify, changed, find?, found, Option.map_some]

end SavingBookStore

/-- An update answers with the first record of the id as the change turns it, and sets that place
and no other. A look-up of the id which the record then has finds it or one before it, and it is the
record itself exactly if none before it has that id; so it is if the id is not a new one. -/
theorem update_sets_first :
    (∀ (s : CustomerStore) (id : String) (p : CustomerPatch),
      (s.place? id = none → s.update id p = (none, s)) ∧
      ∀ i, s.place? id = some i → ∃ c c' t, s.customers[i]? = some c ∧ p.Turns c c' ∧
        s.update id p = (some c', t) ∧ t.customers = s.customers.set i c' ∧
        (∃ j ≤ i, t.place? c'.id = some j ∧ t.find? c'.id = t.customers[j]?) ∧
        (t.place? c'.id = some i ∧ t.find? c'.id = some c' ↔
          ∀ j < i, ∀ d ∈ s.customers[j]?, d.id ≠ c'.id) ∧
        (c'.id = c.id → ∀ j < i, ∀ d ∈ s.customers[j]?, d.id ≠ c'.id)) ∧
    ∀ (s : SavingBookStore) (id : String) (p : SavingBookPatch),
      (s.place? id = none → s.update id p = (none, s)) ∧
      ∀ i, s.place? id = some i → ∃ b b' t, s.books[i]? = some b ∧ p.Turns b b' ∧
        s.update id p = (some b', t) ∧ t.books = s.books.set i b' ∧
        (∃ j ≤ i, t.place? b'.id = some j ∧ t.find? b'.id = t.books[j]?) ∧
        (t.place? b'.id = some i ∧ t.find? b'.id = some b' ↔
          ∀ j < i, ∀ d ∈ s.books[j]?, d.id ≠ b'.id) ∧
        (b'.id = b.id → ∀ j < i, ∀ d ∈ s.books[j]?, d.id ≠ b'.id) := by
  constructor
  · intro s id p
    refine ⟨fun absent => CustomerStore.update_of_place?_eq_none absent p, fun i first => ?_⟩
    obtain ⟨c, stands, rfl, updated⟩ := CustomerStore.update_of_place? first p
    have shown := shown_of_set first (p.apply c)
    exact ⟨c, p.apply c, _, stands, p.turns_apply c, updated, rfl, shown⟩
  · intro s id p
    refine ⟨fun absent => SavingBookStore.update_of_place?_eq_none absent p, fun i first => ?_⟩
    obtain ⟨b, stands, rfl, updated⟩ := SavingBookStore.update_of_place? first p
    have shown := shown_of_set first (p.apply b)
    exact ⟨b, p.apply b, _, stands, p.turns_apply b, updated, rfl, shown⟩

theorem update_sets_first_renamed :
    let s : SavingBookStore := ⟨["A", "B", "C"].map (SavingBookStore.sampleBook · 30)⟩
    let named (id : String) : SavingBookPatch :=
      { SavingBookPatch.empty with id := some id, maturityDate := some none }
    s.place? "B" = some 1 ∧
      (∃ b t, s.update "B" (named "A") = (some b, t) ∧ b.id = "A" ∧
        ¬ (t.place? b.id = some 1 ∧ t.find? b.id = some b)) ∧
      ∃ b t, s.update "B" (named "C") = (some b, t) ∧ b.id = "C" ∧
        t.place? b.id = some 1 ∧ t.find? b.id = some b := by
  intro s named
  have first : s.place? "B" = some 1 := by decide
  refine ⟨first, ?_, ?_⟩
  · obtain ⟨_, b', t, _, turns, updated, -, -, found, -⟩ :=
      (update_sets_first.2 s "B" (named "A")).2 1 first
    have renamed : b'.id = "A" := turns.id
    refine ⟨b', t, updated, renamed, fun shown => ?_⟩
    exact found.mp shown 0 (by decide) (SavingBookStore.sampleBook "A" 30) rfl renamed.symm
  · obtain ⟨_, b', t, _, turns, updated, -, -, found, -⟩ :=
      (update_sets_first.2 s "B" (named "C")).2 1 first
    have renamed : b'.id = "C" := turns.id
    refine ⟨b', t, updated, renamed, found.mpr fun j before d member => ?_⟩
    obtain rfl : j = 0 := by omega
    obtain rfl := Option.some.inj member
    exact renamed ▸ by decide

end MockData
