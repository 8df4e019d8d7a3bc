import MockData.Script.Module

/-!
What the functions of a module do when they are called. Objects have places, and whoever knows the
place of an object sees every change of it; the list of records is a list of places. Numbers are
whole and exact. What has no meaning here, such as a name that nothing defines, answers nothing at
all.
-/
namespace MockData.Script

/-- `list` is what a filter answers: a new list, of the objects at its places. -/
inductive Value
  | undefined
  | null
  | number (n : Int)
  | text (s : String)
  | object (place : Nat)
  | list (places : List Nat)
  deriving DecidableEq, Repr

abbrev Bindings := List (String × Value)

namespace Bindings

@[simp] def get? (x : String) : Bindings → Option Value
  | [] => none
  | (y, v) :: rest => if y = x then some v else get? x rest

def put (x : String) (v : Value) : Bindings → Bindings
  | [] => [(x, v)]
  | (y, w) :: rest => if y = x then (y, v) :: rest else (y, w) :: put x v rest

def spread (o p : Bindings) : Bindings := p.foldl (fun o e => o.put e.1 e.2) o

end Bindings

structure Machine where
  objects : List Bindings
  list : List Nat
  deriving DecidableEq, Repr

namespace Machine

def object? (m : Machine) (place : Nat) : Option Bindings := m.objects[place]?

def allocate (m : Machine) (o : Bindings) : Value × Machine :=
  (.object m.objects.length, { m with objects := m.objects ++ [o] })

def change (m : Machine) (place : Nat) (f : Bindings → Bindings) : Machine :=
  { m with objects := m.objects.modify place f }

end Machine

def Literal.meaning : Literal → Value
  | .text s => .text s
  | .int n => .number n.toInt
  | .null => .null

@[simp] theorem Literal.meaning_text (s : String) : (Literal.text s).meaning = .text s := rfl

@[simp] theorem Literal.meaning_int (n : Int64) : (Literal.int n).meaning = .number n.toInt := rfl

@[simp] theorem Literal.meaning_null : Literal.null.meaning = .null := rfl

@[simp] def Value.truthy : Value → Bool
  | .undefined | .null => false
  | .number n => n ≠ 0
  | .text s => s ≠ ""
  | .object _ | .list _ => true

/-- Strict equality. Of two lists it is not asked. -/
def Value.same? : Value → Value → Option Bool
  | .list _, .list _ => none
  | v, w => some (v = w)

@[simp] def Value.ofPlace? : Option Nat → Value
  | some place => .object place
  | none => .undefined

structure Program where
  list : String
  functions : List Function

def Layout.functions (layout : Layout) : List Function :=
  layout.helpers.map (·.function layout.list layout.item)

def Layout.program (layout : Layout) : Program := ⟨layout.list, layout.functions⟩

section Execution

variable (list : String) (env : Bindings) (m : Machine)

def places? (x : String) : Option (List Nat) :=
  if x = list ∧ env.get? x = none then some m.list else none

@[simp] def Operand.eval : Operand → Option Value
  | .literal l => some l.meaning
  | .name x => env.get? x
  | .field x f => do
    match ← env.get? x with
    | .object place => return ((← m.object? place).get? f).getD .undefined
    | _ => none
  | .item xs index => do
    let places ← places? list env m xs
    match ← env.get? index with
    | .number n => return if n < 0 then .undefined else .ofPlace? places[n.toNat]?
    | _ => none

def matches? (item field : String) (value : Operand) (place : Nat) : Option Bool := do
  let inner := (item, .object place) :: env
  (← (Operand.field item field).eval list inner m).same? (← value.eval list inner m)

def firstPlace (test : Nat → Option Bool) : List Nat → Option Value
  | [] => some .undefined
  | place :: rest => do if ← test place then return .object place else firstPlace test rest

def keptPlaces (test : Nat → Option Bool) : List Nat → Option (List Nat)
  | [] => some []
  | place :: rest => do
    let keep ← test place
    let kept ← keptPlaces test rest
    return if keep then place :: kept else kept

def firstIndex (test : Nat → Option Bool) (index : Nat) : List Nat → Option Value
  | [] => some (.number (-1))
  | place :: rest => do
    if ← test place then return .number index else firstIndex test (index + 1) rest

@[simp] def Search.eval (test : Nat → Option Bool) (places : List Nat) : Search → Option Value
  | .find => firstPlace test places
  | .filter => (keptPlaces test places).map .list
  | .findIndex => firstIndex test 0 places

/-- Where a splice starts: an index below zero counts from the end, one past the end is the end. -/
def spliceStart (index : Int) (length : Nat) : Nat :=
  if index < 0 then (length + index).toNat else min index.toNat length

abbrev Invoke := String → List Value → Machine → Option (Value × Machine)

@[simp] def Expr.eval (invoke : Invoke) : Expr → Option (Value × Machine)
  | .operand o => do return (← o.eval list env m, m)
  | .search how xs item field value => do
    let places ← places? list env m xs
    return (← how.eval (matches? list env m item field value) places, m)
  | .call f x => do
    let v ← env.get? x
    if env.get? f = none then invoke f [v] m else none
  | .takeOut xs index => do
    let places ← places? list env m xs
    match ← env.get? index with
    | .number n =>
      let start := spliceStart n places.length
      return (.ofPlace? places[start]?, { m with list := places.eraseIdx start })
    | _ => none

@[simp] def Member.add (o : Bindings) : Member → Option Bindings
  | .spread p => do
    match ← p.eval list env m with
    | .object place => return o.spread (← m.object? place)
    | .undefined | .null => return o
    | _ => none
  | .same x => do return o.put x (← env.get? x)
  | .entry key p => do return o.put key (← p.eval list env m)

def gather (members : List Member) : Option Bindings := members.foldlM (Member.add list env m) []

def assign : Operand → Value → Option Machine
  | .field x f, v => do
    match ← env.get? x with
    | .object place => return m.change place (·.put f v)
    | _ => none
  | .item xs index, .object place => do
    let places ← places? list env m xs
    match ← env.get? index with
    | .number n =>
      if 0 ≤ n ∧ n.toNat < places.length then
        return { m with list := places.set n.toNat place }
      else none
    | _ => none
  | _, _ => none

inductive Outcome
  | going (env : Bindings) (m : Machine)
  | answered (v : Value) (m : Machine)
  deriving DecidableEq, Repr

/-- A call that no statement ends answers undefined. -/
@[simp] def Outcome.result : Outcome → Value × Machine
  | .going _ m => (.undefined, m)
  | .answered v m => (v, m)

@[simp] def Step.exec (invoke : Invoke) : Step → Option Outcome
  | .bind x e => do
    let (v, m) ← e.eval list env m invoke
    return .going ((x, v) :: env) m
  | .set place o => do return .going env (← assign list env m place (← o.eval list env m))
  | .merge place members => do
    let (v, m) := m.allocate (← gather list env m members)
    return .going env (← assign list env m place v)
  | .increase place x => do
    match ← place.eval list env m, ← env.get? x with
    | .number a, .number b => return .going env (← assign list env m place (.number (a + b)))
    | _, _ => none
  | .push xs x => do
    let places ← places? list env m xs
    match ← env.get? x with
    | .object place => return .going env { m with list := places ++ [place] }
    | _ => none
  | .answer e => do
    let (v, m) ← e.eval list env m invoke
    return .answered v m
  | .answerObject members => do
    let (v, m) := m.allocate (← gather list env m members)
    return .answered v m

@[simp] def Condition.holds : Condition → Option Bool
  | .present x => do return (← env.get? x).truthy
  | .found x => do return (← env.get? x) ≠ .number (-1)

end Execution

@[simp] def execAll {σ : Type} (exec : Bindings → Machine → σ → Option Outcome) :
    List σ → Bindings → Machine → Option Outcome
  | [], env, m => some (.going env m)
  | s :: rest, env, m => do
    match ← exec env m s with
    | .going env m => execAll exec rest env m
    | .answered v m => some (.answered v m)

@[simp] def Statement.exec (invoke : Invoke) (list : String) (env : Bindings) (m : Machine) :
    Statement → Option Outcome
  | .step s => s.exec list env m invoke
  | .guarded c steps => do
    if ← c.holds env then
      match ← execAll (fun env m s => s.exec list env m invoke) steps env m with
      | .going _ m => some (.going env m)
      | .answered v m => some (.answered v m)
    else some (.going env m)

/-- The variables a call begins with; a parameter without an argument is undefined. -/
@[simp] def parameters : List String → List Value → Bindings
  | [], _ => []
  | x :: xs, [] => (x, .undefined) :: parameters xs []
  | x :: xs, v :: vs => (x, v) :: parameters xs vs

def Program.invoke (p : Program) : (depth : Nat) → Invoke
  | 0, _, _, _ => none
  | depth + 1, name, arguments, m => do
    let f ← p.functions.find? (·.name = name)
    return (← execAll (Statement.exec (p.invoke depth) p.list) f.body
      (parameters f.params arguments) m).result

/-- What a caller hands over: a value, or an object of its own. -/
inductive Argument
  | plain (v : Value)
  | object (o : Bindings)
  deriving DecidableEq, Repr

structure Call where
  name : String
  arguments : List Argument
  deriving DecidableEq, Repr

def Machine.accept (m : Machine) : List Argument → List Value × Machine
  | [] => ([], m)
  | .plain v :: rest =>
    let (vs, m) := m.accept rest
    (v :: vs, m)
  | .object o :: rest =>
    let (v, m) := m.allocate o
    let (vs, m) := m.accept rest
    (v :: vs, m)

def Machine.load (records : List Bindings) : Machine := ⟨records, List.range records.length⟩

namespace Program

def answer (p : Program) (depth : Nat) (m : Machine) (c : Call) : Option (Value × Machine) :=
  p.invoke depth c.name (m.accept c.arguments).1 (m.accept c.arguments).2

def answers (p : Program) (depth : Nat) :
    Machine → List Call → Option (List (Value × Machine))
  | _, [] => some []
  | m, c :: cs => do
    let (v, m) ← p.answer depth m c
    return (v, m) :: (← p.answers depth m cs)

end Program

end MockData.Script
