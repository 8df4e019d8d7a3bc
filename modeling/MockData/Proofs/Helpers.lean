import MockData.Proofs.Places

/-!
What each kind of helper does to the list of a module. The names of a helper have to be apart from
one another and from the name of the list.
-/
namespace MockData.Script

def Bindings.has (o : Bindings) (field s : String) : Bool := o.get? field = some (.text s)

def Machine.Means (m : Machine) (v : Value) : Option Bindings → Prop
  | some o => ∃ place, v = .object place ∧ m.object? place = some o
  | none => v = .undefined ∨ v = .null

def Program.Defines (p : Program) (item : String) (h : Helper) : Prop :=
  p.functions.find? (·.name = h.name) = some (h.function p.list item)

variable {p : Program} {m : Machine} {os : List Bindings} {name item s : String} {key : Key}
  {depth : Nat} {env : Bindings}

theorem places?_self (free : env.get? p.list = none) :
    places? p.list env m p.list = some m.list := by
  simp [places?, free]

theorem invoke_of_defines {h : Helper} (defined : p.Defines item h) (arguments : List Value) :
    p.invoke (depth + 1) h.name arguments m =
      (execAll (Statement.exec (p.invoke depth) p.list) (h.kind.body p.list item)
        (parameters h.kind.params arguments) m).map Outcome.result := by
  rw [Program.Defines] at defined
  simp [Program.invoke, defined, Helper.function, Option.map_eq_bind, Function.comp_def]

theorem asks_matches {field : String} {value : Operand}
    (wanted : ∀ place, value.eval p.list ((item, .object place) :: env) m = some (.text s)) :
    Asks m (matches? p.list env m item field value) (·.has field s) := by
  intro place o there
  have property : (Operand.field item field).eval p.list ((item, .object place) :: env) m =
      some ((o.get? field).getD .undefined) := by
    simp [there]
  simp only [matches?, property, wanted, Option.bind_eq_bind, Option.bind_some, Bindings.has]
  cases o.get? field <;> simp [Value.same?]

theorem invoke_findFirst (depth : Nat) (s : String)
    (defined : p.Defines item ⟨name, .findFirst key⟩) (apart : item ≠ key.param)
    (free : key.param ≠ p.list) : ∃ test,
      Asks m test (·.has key.field s) ∧
      p.invoke (depth + 1) name [.text s] m = (firstPlace test m.list).map (·, m) := by
  have hidden : Bindings.get? p.list [(key.param, .text s)] = none := by simp [free]
  have asks : Asks m (matches? p.list [(key.param, .text s)] m item key.field (.name key.param))
      (·.has key.field s) := asks_matches (by simp [apart])
  refine ⟨_, asks, ?_⟩
  rw [invoke_of_defines defined]
  simp [HelperKind.body, HelperKind.params, HelperKind.search, places?_self hidden]
  cases firstPlace _ m.list <;> rfl

theorem means_invoke_findFirst (depth : Nat) (s : String)
    (defined : p.Defines item ⟨name, .findFirst key⟩) (apart : item ≠ key.param)
    (free : key.param ≠ p.list) (holds : m.Holds os) : ∃ v,
      p.invoke (depth + 1) name [.text s] m = some (v, m) ∧
      m.Means v (os.find? (·.has key.field s)) := by
  obtain ⟨test, asks, looked⟩ := invoke_findFirst (m := m) depth s defined apart free
  cases found : os.find? (·.has key.field s) with
  | none =>
    obtain ⟨missing, -⟩ := search_of_find?_eq_none asks holds.shows found
    exact ⟨.undefined, by simp [looked, missing], .inl rfl⟩
  | some o =>
    obtain ⟨i, place, there, finds⟩ := exists_finds asks holds.shows found
    exact ⟨.object place, by simp [looked, finds.firstPlace], place, rfl, there⟩

theorem invoke_findAll (depth : Nat) (s : String)
    (defined : p.Defines item ⟨name, .findAll key⟩) (apart : item ≠ key.param)
    (free : key.param ≠ p.list) (holds : m.Holds os) : ∃ kept,
      p.invoke (depth + 1) name [.text s] m = some (.list kept, m) ∧
      m.Shows kept (os.filter (·.has key.field s)) := by
  have hidden : Bindings.get? p.list [(key.param, .text s)] = none := by simp [free]
  have asks : Asks m (matches? p.list [(key.param, .text s)] m item key.field (.name key.param))
      (·.has key.field s) := asks_matches (by simp [apart])
  obtain ⟨kept, same, shown⟩ := keptPlaces_of_shows asks holds.shows
  refine ⟨kept, ?_, shown⟩
  rw [invoke_of_defines defined]
  simp [HelperKind.body, HelperKind.params, HelperKind.search, places?_self hidden, same]

theorem invoke_findWhere (depth : Nat) {field : String}
    (defined : p.Defines item ⟨name, .findWhere field s⟩) (holds : m.Holds os) : ∃ kept,
      p.invoke (depth + 1) name [] m = some (.list kept, m) ∧
      m.Shows kept (os.filter (·.has field s)) := by
  have hidden : Bindings.get? p.list [] = none := rfl
  have asks : Asks m (matches? p.list [] m item field (.literal (.text s))) (·.has field s) :=
    asks_matches (by simp)
  obtain ⟨kept, same, shown⟩ := keptPlaces_of_shows asks holds.shows
  refine ⟨kept, ?_, shown⟩
  rw [invoke_of_defines defined]
  simp [HelperKind.body, HelperKind.params, places?_self hidden, same]

theorem invoke_add (depth : Nat) {param : String} {place : Nat}
    (defined : p.Defines item ⟨name, .add param⟩) (free : param ≠ p.list) :
    p.invoke (depth + 1) name [.object place] m =
      some (.object place, { m with list := m.list ++ [place] }) := by
  have hidden : Bindings.get? p.list [(param, .object place)] = none := by simp [free]
  rw [invoke_of_defines defined]
  simp [HelperKind.body, HelperKind.params, places?_self hidden]

theorem exec_bindIndex (invoke : Invoke) (wanted : env.get? key.param = some (.text s))
    (apart : item ≠ key.param) (free : env.get? p.list = none) : ∃ test,
      Asks m test (·.has key.field s) ∧
      (HelperKind.bindIndex p.list item key).exec invoke p.list env m =
        (firstIndex test 0 m.list).map fun v => .going (("index", v) :: env) m := by
  have asks : Asks m (matches? p.list env m item key.field (.name key.param))
      (·.has key.field s) := asks_matches (by simp [apart, wanted])
  refine ⟨_, asks, ?_⟩
  simp [HelperKind.bindIndex, HelperKind.search, places?_self free]
  cases firstIndex _ 0 m.list <;> rfl

theorem invoke_delete (depth : Nat) (s : String)
    (defined : p.Defines item ⟨name, .delete key⟩) (apart : item ≠ key.param)
    (free : key.param ≠ p.list) (unbound : "index" ≠ p.list) (holds : m.Holds os) : ∃ v m',
      p.invoke (depth + 1) name [.text s] m = some (v, m') ∧
      m'.Means v (os.find? (·.has key.field s)) ∧ m'.Holds (os.eraseP (·.has key.field s)) := by
  have hidden : Bindings.get? p.list [(key.param, .text s)] = none := by simp [free]
  obtain ⟨test, asks, bound⟩ := exec_bindIndex (m := m) (p.invoke depth)
    (show Bindings.get? key.param [(key.param, .text s)] = some (.text s) by simp) apart hidden
  rw [invoke_of_defines defined]
  simp only [HelperKind.body, HelperKind.params, parameters, execAll, bound]
  cases found : os.find? (·.has key.field s) with
  | none =>
    obtain ⟨-, missing⟩ := search_of_find?_eq_none asks holds.shows found
    refine ⟨.null, m, by simp [missing, HelperKind.answerNull], .inr rfl, ?_⟩
    rwa [List.eraseP_of_forall_not (by simpa using found)]
  | some o =>
    obtain ⟨i, place, there, finds⟩ := exists_finds asks holds.shows found
    obtain ⟨inside, -⟩ := List.getElem?_eq_some_iff.mp finds.listed
    have start : spliceStart i m.list.length = i := by
      rw [spliceStart, if_neg (by omega), Int.toNat_natCast]
      omega
    refine ⟨.object place, { m with list := m.list.eraseIdx i }, ?_, ⟨place, rfl, there⟩, ?_⟩
    · have free' : Bindings.get? p.list [("index", .number i), (key.param, .text s)] = none := by
        simp [unbound, free]
      simp [finds.firstIndex, places?_self free', start, finds.listed]
    · rw [finds.erased]
      exact holds.remove

theorem invoke_update (depth : Nat) (s : String) {place : Nat} {updates : Bindings}
    (defined : p.Defines item ⟨name, .update key⟩) (apart : item ≠ key.param)
    (free : key.param ≠ p.list) (unbound : "index" ≠ p.list ∧ "updates" ≠ p.list)
    (named : key.param ≠ "updates") (holds : m.Holds os)
    (given : m.object? place = some updates) : ∃ v m',
      p.invoke (depth + 1) name [.text s, .object place] m = some (v, m') ∧
      m'.Means v ((os.find? (·.has key.field s)).map (Bindings.spread [] ·|>.spread updates)) ∧
      m'.Holds (modifyFirst (·.has key.field s) (Bindings.spread [] ·|>.spread updates) os) := by
  have hidden : Bindings.get? p.list [(key.param, .text s), ("updates", .object place)] = none := by
    simp [free, unbound]
  obtain ⟨test, asks, bound⟩ := exec_bindIndex (m := m) (p.invoke depth)
    (show Bindings.get? key.param [(key.param, .text s), ("updates", .object place)] =
      some (.text s) by simp) apart hidden
  rw [invoke_of_defines defined]
  simp only [HelperKind.body, HelperKind.params, parameters, execAll, bound]
  cases found : os.find? (·.has key.field s) with
  | none =>
    obtain ⟨-, missing⟩ := search_of_find?_eq_none asks holds.shows found
    refine ⟨.null, m, by simp [missing, HelperKind.answerNull], .inr rfl, ?_⟩
    rwa [modifyFirst_of_find?_eq_none found]
  | some o =>
    obtain ⟨i, target, there, finds⟩ := exists_finds asks holds.shows found
    obtain ⟨inside, -⟩ := List.getElem?_eq_some_iff.mp finds.listed
    have free' : Bindings.get? p.list
        [("index", .number i), (key.param, .text s), ("updates", .object place)] = none := by
      simp [unbound, free]
    have gathered : gather p.list
        [("index", .number i), (key.param, .text s), ("updates", .object place)] m
        [.spread (.item p.list "index"), .spread (.name "updates")] =
          some ((Bindings.spread [] o).spread updates) := by
      have nonneg : ¬ (i : Int) < 0 := by omega
      simp [gather, places?_self free', nonneg, finds.listed, there, named, given]
    refine ⟨.object m.objects.length,
      { (m.allocate ((Bindings.spread [] o).spread updates)).2 with
        list := m.list.set i m.objects.length }, ?_, ⟨_, rfl, Machine.object?_new⟩, ?_⟩
    · simp [finds.firstIndex, gathered, assign, places?_self free', inside, Machine.allocate]
    · rw [finds.modified]
      exact holds.replace

section Balances

variable {access : BalanceAccess} {field : String} {n d : Int}

structure BalanceAccess.Apart (access : BalanceAccess) (list item : String) : Prop where
  list : access.param ≠ list
  item : item ≠ access.param
  lookup : access.param ≠ access.lookup ∧ "amount" ≠ access.lookup
  amount : access.param ≠ "amount" ∧ access.binding ≠ "amount"
  binding : "oldBalance" ≠ access.binding ∧ "finalBalance" ≠ access.binding
  change : access.binding ≠ "balanceBefore" ∧ access.binding ≠ "balanceAfter"

theorem invoke_updateBalance (depth : Nat) (s : String)
    (defined : p.Defines item ⟨name, .updateBalance access⟩)
    (looks : p.Defines item ⟨access.lookup, .findFirst ⟨access.param, field⟩⟩)
    (apart : access.Apart p.list item) (holds : m.Holds os)
    (balance : ∀ o, os.find? (·.has field s) = some o →
      o.get? access.balance = some (.number n)) : ∃ v m',
      p.invoke (depth + 2) name [.text s, .number d] m = some (v, m') ∧
      (match os.find? (·.has field s) with
        | none => v = .null
        | some o => ∃ place, m'.Means v (some [(access.binding, .object place),
            ("balanceBefore", .number n), ("balanceAfter", .number (n + d))]) ∧
          m'.object? place = some (o.put access.balance (.number (n + d)))) ∧
      m'.Holds (modifyFirst (·.has field s) (·.put access.balance (.number (n + d))) os) := by
  obtain ⟨test, asks, looked⟩ := invoke_findFirst (m := m) depth s looks apart.item apart.list
  rw [invoke_of_defines defined]
  simp only [HelperKind.body, HelperKind.params, parameters]
  cases found : os.find? (·.has field s) with
  | none =>
    obtain ⟨missing, -⟩ := search_of_find?_eq_none asks holds.shows found
    refine ⟨.null, m, ?_, rfl, ?_⟩
    · simp [looked, missing, apart.lookup, HelperKind.answerNull]
    · rwa [modifyFirst_of_find?_eq_none found]
  | some o =>
    obtain ⟨i, place, there, finds⟩ := exists_finds asks holds.shows found
    have old := balance o found
    have now : (m.change place (·.put access.balance (.number (n + d)))).object? place =
        some (o.put access.balance (.number (n + d))) := Machine.object?_change there
    refine ⟨_, _, ?_, ⟨place, ⟨_, rfl, Machine.object?_new⟩, Machine.object?_allocate now⟩, ?_⟩
    · simp [looked, finds.firstPlace, apart.lookup, apart.amount, apart.binding, apart.change,
        there, old, now, assign, gather, Bindings.put, Machine.allocate]
    · rw [finds.modified]
      exact (holds.change finds.listed there).allocate

/-- A book is closed where it stands, and its copy in the answer has the balance it had. -/
theorem invoke_close (depth : Nat) (s : String) {status closed : String}
    (defined : p.Defines item ⟨name, .close access status closed⟩)
    (looks : p.Defines item ⟨access.lookup, .findFirst ⟨access.param, field⟩⟩)
    (apart : access.Apart p.list item) (other : status ≠ access.balance) (holds : m.Holds os) :
    let close (o : Bindings) := (o.put status (.text closed)).put access.balance (.number 0)
    let copy (o : Bindings) := (Bindings.spread [] (close o)).put "finalBalance"
      ((o.get? access.balance).getD .undefined)
    ∃ v m', p.invoke (depth + 2) name [.text s] m = some (v, m') ∧
      m'.Means v ((os.find? (·.has field s)).map copy) ∧
      m'.Holds (modifyFirst (·.has field s) close os) := by
  intro close copy
  obtain ⟨test, asks, looked⟩ := invoke_findFirst (m := m) depth s looks apart.item apart.list
  rw [invoke_of_defines defined]
  simp only [HelperKind.body, HelperKind.params, parameters]
  cases found : os.find? (·.has field s) with
  | none =>
    obtain ⟨missing, -⟩ := search_of_find?_eq_none asks holds.shows found
    refine ⟨.null, m, ?_, .inr rfl, ?_⟩
    · simp [looked, missing, apart.lookup, HelperKind.answerNull]
    · rwa [modifyFirst_of_find?_eq_none found]
  | some o =>
    obtain ⟨i, place, there, finds⟩ := exists_finds asks holds.shows found
    have marked : (m.change place (·.put status (.text closed))).object? place =
        some (o.put status (.text closed)) := Machine.object?_change there
    have emptied : ((m.change place (·.put status (.text closed))).change place
        (·.put access.balance (.number 0))).object? place = some (close o) :=
      Machine.object?_change marked
    have held := (holds.change finds.listed there).change
      (f := (·.put access.balance (.number 0))) finds.listed marked
    rw [List.set_set, ← finds.modified close] at held
    refine ⟨_, _, ?_, ⟨_, rfl, Machine.object?_new⟩, held.allocate⟩
    simp [looked, finds.firstPlace, apart.lookup, apart.binding, marked, emptied, assign, gather,
      Bindings.get?_put_of_ne other, Machine.allocate, copy]

end Balances

end MockData.Script
