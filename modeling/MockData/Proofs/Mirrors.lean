import MockData.Customer.Script
import MockData.Customer.Store
import MockData.Proofs.Companions
import MockData.SavingBook.Script
import MockData.SavingBook.Store

/-!
The functions of a module and the store of its records do the same, request by request: their
answers say the same, and they leave the same records.
-/
namespace MockData

open Script

namespace CustomerPatch

def entries (p : CustomerPatch) : Entries := .present [
  ("customerid", p.id.map .text),
  ("fullname", p.fullName.map .text),
  ("citizenid", p.citizenId.map .text),
  ("address", p.address.map .text),
  ("phone", p.phone.map .text),
  ("email", p.email.map .text),
  ("dateofbirth", p.birthDate.map .text)]

theorem spread_entries (p : CustomerPatch) (c : Customer) :
    (Bindings.spread [] c.entries.object).spread p.entries.object = (p.apply c).entries.object := by
  have copied : Bindings.spread [] c.entries.object = c.entries.object := by
    simp [Bindings.spread, Entries.object, Customer.entries, Bindings.put]
  rw [copied, entries, Entries.spread_present_cons (.text c.id) (by rfl),
    Entries.spread_present_cons (.text c.fullName) (by rfl),
    Entries.spread_present_cons (.text c.citizenId) (by rfl),
    Entries.spread_present_cons (.text c.address) (by rfl),
    Entries.spread_present_cons (.text c.phone) (by rfl),
    Entries.spread_present_cons (.text c.email) (by rfl),
    Entries.spread_present_cons (.text c.birthDate) (by rfl)]
  simp only [meaning_getD]
  rfl

end CustomerPatch

namespace CustomerStore

/-- A record or a change goes into a call as a new object, never as one that the module already
holds. -/
def companion : Companion CustomerStore Request (Option Customer) where
  answer := answer
  objects s := s.customers.map (·.entries.object)
  call
    | .find id => ⟨"findCustomerById", [.plain (.text id)]⟩
    | .findByCitizenId citizenId => ⟨"findCustomerByCitizenId", [.plain (.text citizenId)]⟩
    | .add c => ⟨"addCustomer", [.object c.entries.object]⟩
    | .update id p => ⟨"updateCustomer", [.plain (.text id), .object p.entries.object]⟩
    | .delete id => ⟨"deleteCustomer", [.plain (.text id)]⟩
  Allows _ _ := True
  Tells m v c := m.Means v (c.map (·.entries.object))

theorem agrees_answer {m : Machine} {s : CustomerStore} (depth : Nat)
    (holds : m.Holds (companion.objects s)) (r : Request) : ∃ e,
      Customer.layout.program.answer (depth + 1) m (companion.call r) = some e ∧
      companion.Agrees e (s.answer r) := by
  have ids : Exposes (fun c : Customer => c.entries.object) "customerid" (·.id) := fun _ => rfl
  have citizens : Exposes (fun c : Customer => c.entries.object) "citizenid" (·.citizenId) :=
    fun _ => rfl
  cases r with
  | find id =>
    have defined : Customer.layout.program.Defines "c"
      ⟨"findCustomerById", .findFirst ⟨"customerid", "customerid"⟩⟩ := rfl
    obtain ⟨v, answered, means⟩ :=
      means_invoke_findFirst depth id defined (by decide) (by decide) holds
    rw [companion, ids.find?] at means
    exact ⟨(v, m), answered, means, holds⟩
  | findByCitizenId citizenId =>
    have defined : Customer.layout.program.Defines "c"
      ⟨"findCustomerByCitizenId", .findFirst ⟨"citizenid", "citizenid"⟩⟩ := rfl
    obtain ⟨v, answered, means⟩ :=
      means_invoke_findFirst depth citizenId defined (by decide) (by decide) holds
    rw [companion, citizens.find?] at means
    exact ⟨(v, m), answered, means, holds⟩
  | add c =>
    have defined : Customer.layout.program.Defines "c" ⟨"addCustomer", .add "customer"⟩ := rfl
    have held := holds.push (p := c.entries.object)
    have list : companion.objects (s.add c) = companion.objects s ++ [c.entries.object] := by
      simp [companion, add]
    exact ⟨_, invoke_add depth defined (by decide), ⟨_, rfl, Machine.object?_new⟩, list ▸ held⟩
  | update id p =>
    have defined : Customer.layout.program.Defines "c"
      ⟨"updateCustomer", .update ⟨"customerid", "customerid"⟩⟩ := rfl
    obtain ⟨v, m', answered, means, held⟩ := invoke_update depth id defined (by decide) (by decide)
      (by decide) (by decide) (holds.allocate (p := p.entries.object)) Machine.object?_new
    rw [companion, ids.find?, Option.map_map] at means
    rw [companion, ids.modifyFirst fun c _ => p.spread_entries c] at held
    refine ⟨(v, m'), answered, ?_, held⟩
    simpa [answer, update, companion, find?, Function.comp_def, p.spread_entries] using means
  | delete id =>
    have defined : Customer.layout.program.Defines "c"
      ⟨"deleteCustomer", .delete ⟨"customerid", "customerid"⟩⟩ := rfl
    obtain ⟨v, m', answered, means, held⟩ := invoke_delete depth id defined (by decide) (by decide)
      (by decide) holds
    rw [companion, ids.find?] at means
    rw [companion, ids.eraseP] at held
    exact ⟨(v, m'), answered, means, held⟩

theorem allowsAll (s : CustomerStore) (rs : List Request) : companion.AllowsAll s rs := by
  induction rs generalizing s with
  | nil => trivial
  | cons r rs ih => exact ⟨trivial, ih _⟩

end CustomerStore

namespace SavingBookPatch

def entries (p : SavingBookPatch) : Entries := .present [
  ("bookId", p.id.map .text),
  ("citizenId", p.citizenId.map .text),
  ("customerName", p.customerName.map .text),
  ("typeSavingId", p.typeId.map .text),
  ("openDate", p.openDate.map .text),
  ("maturityDate", p.maturityDate.map .ofText?),
  ("balance", p.balance.map .int),
  ("status", p.status.map .text)]

theorem spread_entries (p : SavingBookPatch) (b : SavingBook) :
    (Bindings.spread [] b.entries.object).spread p.entries.object = (p.apply b).entries.object := by
  have copied : Bindings.spread [] b.entries.object = b.entries.object := by
    simp [Bindings.spread, Entries.object, SavingBook.entries, Bindings.put]
  rw [copied, entries, Entries.spread_present_cons (.text b.id) (by rfl),
    Entries.spread_present_cons (.text b.citizenId) (by rfl),
    Entries.spread_present_cons (.text b.customerName) (by rfl),
    Entries.spread_present_cons (.text b.typeId) (by rfl),
    Entries.spread_present_cons (.text b.openDate) (by rfl),
    Entries.spread_present_cons (.ofText? b.maturityDate) (by rfl),
    Entries.spread_present_cons (.int b.balance) (by rfl),
    Entries.spread_present_cons (.text b.status) (by rfl)]
  simp only [meaning_getD]
  rfl

end SavingBookPatch

namespace SavingBook

variable {b : SavingBook} {delta : Balance}

theorem put_balance (fits : Balance.Fits (b.balance.toInt + delta.toInt)) :
    b.entries.object.put "balance" (.number (b.balance.toInt + delta.toInt)) =
      (b.addBalance delta).entries.object := by
  rw [← Balance.toInt_add_of_fits fits]
  rfl

end SavingBook

namespace SavingBookStore

/-- As for customers, a record or a change goes into a call as a new object, never as one that the
module already holds. -/
def companion : Companion SavingBookStore Request Answer where
  answer := answer
  objects s := s.books.map (·.entries.object)
  call
    | .find id => ⟨"findSavingBookById", [.plain (.text id)]⟩
    | .findByCitizenId citizenId => ⟨"findSavingBooksByCitizenId", [.plain (.text citizenId)]⟩
    | .findByType typeId => ⟨"findSavingBooksByType", [.plain (.text typeId)]⟩
    | .findActive => ⟨"findActiveSavingBooks", []⟩
    | .add b => ⟨"addSavingBook", [.object b.entries.object]⟩
    | .update id p => ⟨"updateSavingBook", [.plain (.text id), .object p.entries.object]⟩
    | .updateBalance id delta =>
      ⟨"updateSavingBookBalance", [.plain (.text id), .plain (.number delta.toInt)]⟩
    | .close id => ⟨"closeSavingBook", [.plain (.text id)]⟩
    | .delete id => ⟨"deleteSavingBook", [.plain (.text id)]⟩
  Allows s
    | .updateBalance id delta => ∀ b ∈ s.find? id,
      Balance.least ≤ b.balance.toInt + delta.toInt ∧
        b.balance.toInt + delta.toInt ≤ Balance.greatest
    | _ => True
  Tells m v
    | .book b => m.Means v (b.map (·.entries.object))
    | .books bs => ∃ places, v = .list places ∧ m.Shows places (bs.map (·.entries.object))
    | .change none => v = .null
    | .change (some c) => ∃ place,
      m.Means v (some [("savingBook", .object place), ("balanceBefore", .number c.before.toInt),
        ("balanceAfter", .number c.after.toInt)]) ∧
      m.object? place = some c.book.entries.object
    | .closed c => m.Means v (c.map fun c =>
        c.book.entries.object ++ [("finalBalance", .number c.finalBalance.toInt)])

instance (s : SavingBookStore) : ∀ r, Decidable (companion.Allows s r)
  | .updateBalance id delta => inferInstanceAs (Decidable (∀ b ∈ s.find? id,
      Balance.least ≤ b.balance.toInt + delta.toInt ∧
        b.balance.toInt + delta.toInt ≤ Balance.greatest))
  | .find _ | .findByCitizenId _ | .findByType _ | .findActive | .add _ | .update _ _ | .close _
  | .delete _ => .isTrue trivial

theorem exposes_id : Exposes (fun b : SavingBook => b.entries.object) "bookId" (·.id) :=
  fun _ => rfl

theorem looks : SavingBook.layout.program.Defines "sb"
    ⟨"findSavingBookById", .findFirst ⟨"bookId", "bookId"⟩⟩ := rfl

theorem agrees_updateBalance {m : Machine} {s : SavingBookStore} (depth : Nat)
    (holds : m.Holds (companion.objects s)) {id : String} {delta : Balance}
    (allowed : companion.Allows s (.updateBalance id delta)) : ∃ e,
      SavingBook.layout.program.answer (depth + 2) m (companion.call (.updateBalance id delta)) =
        some e ∧ companion.Agrees e (s.answer (.updateBalance id delta)) := by
  have defined : SavingBook.layout.program.Defines "sb" ⟨"updateSavingBookBalance",
    .updateBalance ⟨"bookId", "findSavingBookById", "savingBook", "balance"⟩⟩ := rfl
  have apart : BalanceAccess.Apart ⟨"bookId", "findSavingBookById", "savingBook", "balance"⟩
    SavingBook.layout.program.list "sb" := by constructor <;> decide
  have looked : (companion.objects s).find? (·.has "bookId" id) =
    (s.find? id).map (·.entries.object) := exposes_id.find?
  cases found : s.find? id with
  | none =>
    rw [found, Option.map_none] at looked
    obtain ⟨v, m', answered, tells, held⟩ := invoke_updateBalance (n := 0) (d := delta.toInt)
      depth id defined looks apart holds (by simp [looked])
    rw [looked] at tells
    rw [modifyFirst_of_find?_eq_none looked] at held
    have told : (s.updateBalance id delta).1 = none := by simp [updateBalance, found]
    have same : (s.updateBalance id delta).2 = s := by
      rw [updateBalance, modify, modifyFirst_of_find?_eq_none found]
    refine ⟨(v, m'), answered, ?_, ?_⟩
    · rw [answer, told]
      exact tells
    · rw [answer, same]
      exact held
  | some b =>
    have fits : Balance.Fits (b.balance.toInt + delta.toInt) := allowed b found
    have paid := SavingBook.put_balance fits
    rw [found, Option.map_some] at looked
    obtain ⟨v, m', answered, tells, held⟩ := invoke_updateBalance (n := b.balance.toInt)
      (d := delta.toInt) depth id defined looks apart holds (by rw [looked]; rintro _ ⟨⟩; rfl)
    have pays : ∀ b', s.find? id = some b' → b'.entries.object.put "balance"
        (.number (b.balance.toInt + delta.toInt)) = (b'.addBalance delta).entries.object := by
      intro b' found'
      obtain rfl := Option.some.inj (found.symm.trans found')
      exact paid
    rw [looked] at tells
    rw [companion, exposes_id.modifyFirst pays] at held
    obtain ⟨place, means, there⟩ := tells
    have told : (s.updateBalance id delta).1 =
      some ⟨b.addBalance delta, b.balance, (b.addBalance delta).balance⟩ := by
      simp [updateBalance, found]
    refine ⟨(v, m'), answered, ?_, held⟩
    rw [answer, told]
    refine ⟨place, ?_, there.trans (congrArg some paid)⟩
    rw [SavingBook.addBalance, Balance.toInt_add_of_fits fits]
    exact means

theorem agrees_close {m : Machine} {s : SavingBookStore} (depth : Nat)
    (holds : m.Holds (companion.objects s)) (id : String) : ∃ e,
      SavingBook.layout.program.answer (depth + 2) m (companion.call (.close id)) = some e ∧
      companion.Agrees e (s.answer (.close id)) := by
  have defined : SavingBook.layout.program.Defines "sb" ⟨"closeSavingBook",
    .close ⟨"bookId", "findSavingBookById", "savingBook", "balance"⟩ "status"
      SavingBook.closedStatus⟩ := rfl
  have closes : ∀ b : SavingBook, (b.entries.object.put "status"
      (.text SavingBook.closedStatus)).put "balance" (.number 0) = b.closed.entries.object :=
    fun _ => rfl
  obtain ⟨v, m', answered, means, held⟩ :=
    invoke_close depth id defined looks (by constructor <;> decide) (by decide) holds
  rw [companion, exposes_id.find?, Option.map_map] at means
  rw [companion, exposes_id.modifyFirst fun b _ => closes b] at held
  have tells : companion.Tells m' v (.closed (s.close id).1) := by
    simp only [companion, close, Option.map_map]
    exact means
  exact ⟨(v, m'), answered, tells, held⟩

theorem agrees_answer {m : Machine} {s : SavingBookStore} (depth : Nat)
    (holds : m.Holds (companion.objects s)) {r : Request} (allowed : companion.Allows s r) : ∃ e,
      SavingBook.layout.program.answer (depth + 2) m (companion.call r) = some e ∧
      companion.Agrees e (s.answer r) := by
  cases r with
  | find id =>
    obtain ⟨v, answered, means⟩ :=
      means_invoke_findFirst (depth + 1) id looks (by decide) (by decide) holds
    rw [companion, exposes_id.find?] at means
    exact ⟨(v, m), answered, means, holds⟩
  | findByCitizenId citizenId =>
    have citizens : Exposes (fun b : SavingBook => b.entries.object) "citizenId" (·.citizenId) :=
      fun _ => rfl
    have defined : SavingBook.layout.program.Defines "sb"
      ⟨"findSavingBooksByCitizenId", .findAll ⟨"citizenId", "citizenId"⟩⟩ := rfl
    obtain ⟨kept, answered, shows⟩ :=
      invoke_findAll (depth + 1) citizenId defined (by decide) (by decide) holds
    rw [companion, citizens.filter] at shows
    exact ⟨(.list kept, m), answered, ⟨kept, rfl, shows⟩, holds⟩
  | findByType typeId =>
    have types : Exposes (fun b : SavingBook => b.entries.object) "typeSavingId" (·.typeId) :=
      fun _ => rfl
    have defined : SavingBook.layout.program.Defines "sb"
      ⟨"findSavingBooksByType", .findAll ⟨"typeSavingId", "typeSavingId"⟩⟩ := rfl
    obtain ⟨kept, answered, shows⟩ :=
      invoke_findAll (depth + 1) typeId defined (by decide) (by decide) holds
    rw [companion, types.filter] at shows
    exact ⟨(.list kept, m), answered, ⟨kept, rfl, shows⟩, holds⟩
  | findActive =>
    have statuses : Exposes (fun b : SavingBook => b.entries.object) "status" (·.status) :=
      fun _ => rfl
    have defined : SavingBook.layout.program.Defines "sb"
      ⟨"findActiveSavingBooks", .findWhere "status" SavingBook.activeStatus⟩ := rfl
    obtain ⟨kept, answered, shows⟩ := invoke_findWhere (depth + 1) defined holds
    rw [companion, statuses.filter] at shows
    exact ⟨(.list kept, m), answered, ⟨kept, rfl, shows⟩, holds⟩
  | add b =>
    have defined : SavingBook.layout.program.Defines "sb" ⟨"addSavingBook", .add "savingBook"⟩ :=
      rfl
    have held := holds.push (p := b.entries.object)
    have list : companion.objects (s.add b) = companion.objects s ++ [b.entries.object] := by
      simp [companion, add]
    exact ⟨_, invoke_add (depth + 1) defined (by decide), ⟨_, rfl, Machine.object?_new⟩,
      list ▸ held⟩
  | update id p =>
    have defined : SavingBook.layout.program.Defines "sb"
      ⟨"updateSavingBook", .update ⟨"bookId", "bookId"⟩⟩ := rfl
    obtain ⟨v, m', answered, means, held⟩ := invoke_update (depth + 1) id defined (by decide)
      (by decide) (by decide) (by decide) (holds.allocate (p := p.entries.object))
      Machine.object?_new
    rw [companion, exposes_id.find?, Option.map_map] at means
    rw [companion, exposes_id.modifyFirst fun b _ => p.spread_entries b] at held
    refine ⟨(v, m'), answered, ?_, held⟩
    simpa [answer, update, companion, find?, Function.comp_def, p.spread_entries] using means
  | updateBalance id delta => exact agrees_updateBalance depth holds allowed
  | close id => exact agrees_close depth holds id
  | delete id =>
    have defined : SavingBook.layout.program.Defines "sb"
      ⟨"deleteSavingBook", .delete ⟨"bookId", "bookId"⟩⟩ := rfl
    obtain ⟨v, m', answered, means, held⟩ := invoke_delete (depth + 1) id defined (by decide)
      (by decide) (by decide) holds
    rw [companion, exposes_id.find?] at means
    rw [companion, exposes_id.eraseP] at held
    exact ⟨(v, m'), answered, means, held⟩

end SavingBookStore

theorem Customer.readable_layout : Customer.layout.Readable :=
  ⟨by decide +kernel, by decide +kernel⟩

theorem SavingBook.readable_layout : SavingBook.layout.Readable :=
  ⟨by decide +kernel, by decide +kernel⟩

theorem Customer.isFree_entries (c : Customer) : ∀ e ∈ c.entries, isFree e.1 := by
  simp only [entries, List.forall_mem_cons]
  exact ⟨rfl, rfl, rfl, rfl, rfl, rfl, rfl, by simp⟩

theorem SavingBook.isFree_entries (b : SavingBook) : ∀ e ∈ b.entries, isFree e.1 := by
  simp only [entries, List.forall_mem_cons]
  exact ⟨rfl, rfl, rfl, rfl, rfl, rfl, rfl, rfl, by simp⟩

/-- Both modules are read from their texts, and what is read does what the stores do. -/
theorem modules_mirror_stores (depth : Nat) :
    (∀ (s : CustomerStore) (rs : List CustomerStore.Request),
      ∃ contents, Contents.ofText? (Customer.moduleText s.customers) = some contents ∧
        contents.program = Customer.layout.program ∧
        contents.Mirrors (depth + 1) CustomerStore.companion s rs) ∧
    ∀ (s : SavingBookStore) (rs : List SavingBookStore.Request),
      SavingBookStore.companion.AllowsAll s rs →
      ∃ contents, Contents.ofText? (SavingBook.moduleText s.books) = some contents ∧
        contents.program = SavingBook.layout.program ∧
        contents.Mirrors (depth + 2) SavingBookStore.companion s rs := by
  constructor
  · intro s rs
    have fields : ∀ r ∈ s.customers.map Customer.entries, ∀ e ∈ r, isFree e.1 := by
      intro r member
      obtain ⟨c, -, rfl⟩ := List.mem_map.mp member
      exact c.isFree_entries
    have program : (Customer.layout.contents (s.customers.map Customer.entries)).program =
      Customer.layout.program := rfl
    refine ⟨_, Customer.readable_layout.ofText?_text fields, program, ?_⟩
    exact Contents.mirrors_of_step program
      (fun _ _ r holds _ => CustomerStore.agrees_answer depth holds r) List.map_map
      (s.allowsAll rs)
  · intro s rs allowed
    have fields : ∀ r ∈ s.books.map SavingBook.entries, ∀ e ∈ r, isFree e.1 := by
      intro r member
      obtain ⟨b, -, rfl⟩ := List.mem_map.mp member
      exact b.isFree_entries
    have program : (SavingBook.layout.contents (s.books.map SavingBook.entries)).program =
      SavingBook.layout.program := rfl
    refine ⟨_, SavingBook.readable_layout.ofText?_text fields, program, ?_⟩
    exact Contents.mirrors_of_step program
      (fun _ _ _ holds allows => SavingBookStore.agrees_answer depth holds allows) List.map_map
      allowed

namespace SavingBookStore

def mirroredBook (id : String) (balance : Balance) : SavingBook :=
  ⟨id, "012345678901", "An", "T", "2024-01-01", "2025-01-01", balance, SavingBook.activeStatus⟩

def mirroredRequests : List Request := [
  .updateBalance "A" (-50), .close "A",
  .update "A" { SavingBookPatch.empty with id := some "B", maturityDate := some none },
  .add (mirroredBook "C" 7), .findActive, .delete "A", .find "A", .updateBalance "A" 1]

theorem mirrors_mirroredRequests :
    let s : SavingBookStore := ⟨[mirroredBook "A" 30, mirroredBook "A" 4]⟩
    companion.AllowsAll s mirroredRequests ∧
      ((SavingBook.layout.program.answers 2 (.load (companion.objects s))
        (mirroredRequests.map companion.call)).map fun outcomes => outcomes.map (·.1)) =
          some [.object 2, .object 3, .object 5, .object 6, .list [1, 6], .object 1, .undefined,
            .null] ∧
      ∃ contents, Contents.ofText? (SavingBook.moduleText s.books) = some contents ∧
        contents.program = SavingBook.layout.program ∧
        contents.Mirrors 2 companion s mirroredRequests := by
  intro s
  have allowed : companion.AllowsAll s mirroredRequests := by decide +kernel
  exact ⟨allowed, by decide +kernel, (modules_mirror_stores 0).2 s mirroredRequests allowed⟩

end SavingBookStore

end MockData
