import MockData.Json.Skip
import MockData.Json.Typed

/-!
Reading records. A record is an object with named members, in any order and with unknown ones
among them, or an array of all members in their order.
-/
namespace MockData.Json

/-- Whether a member may be absent. One that is `named` may be left out of an object but has its
place in an array. -/
inductive Absence
  | refused
  | named
  | allowed
  deriving DecidableEq, Repr

/-- A member of a record of type `α`; reading its value tells how the record changes. -/
structure Member (α : Type) where
  name : String
  absence : Absence
  read : Reader (α → α)

namespace Member

def required (name : String) (read : Reader β) (set : β → α → α) : Member α :=
  ⟨name, .refused, fun cs => (read cs).map fun p => (set p.1, p.2)⟩

def optional (absence : Absence) (name : String) (read : Reader β) (set : Option β → α → α) :
    Member α :=
  ⟨name, absence, fun cs => (orNull read cs).map fun p => (set p.1, p.2)⟩

end Member

structure Record (α : Type) where
  blank : α
  members : List (Member α)

namespace Record

def missing? (r : Record α) (seen : List String) : Option String :=
  (r.members.find? fun m => m.absence = .refused && m.name ∉ seen).map (·.name)

def membersFrom (r : Record α) :
    (fuel : Nat) → (first : Bool) → (seen : List String) → (a : α) → Reader α
  | 0, _, _, _, _ => .error .ended
  | fuel + 1, first, seen, a, cs => do
    match ← nextMember first cs with
    | .inr rest => match r.missing? seen with
      | some name => throw (.missing name)
      | none => return (a, rest)
    | .inl (name, cs) => match r.members.find? (·.name = name) with
      | none => membersFrom r fuel false seen a (← skipValue (← colon cs))
      | some m =>
        if name ∈ seen then throw (.duplicate name)
        let (change, cs) ← m.read (← colon cs)
        membersFrom r fuel false (name :: seen) (change a) cs

/-- Reads members by their place. An array may end early if it may do without the rest. -/
def placesFrom : (members : List (Member α)) → (first : Bool) → (a : α) → Reader α
  | [], _, a, cs => match dropBlanks cs with
    | [] => .error .ended
    | ']' :: rest => .ok (a, rest)
    | _ => .error .malformed
  | m :: ms, first, a, cs => do
    match ← nextItem first cs with
    | .inr rest =>
      if (m :: ms).all (·.absence = .allowed) then return (a, rest) else throw .mismatch
    | .inl cs =>
      let (change, cs) ← m.read cs
      placesFrom ms false (change a) cs

def read (r : Record α) : Reader α := fun cs =>
  match dropBlanks cs with
  | '\x7b' :: cs => r.membersFrom (cs.length + 1) true [] r.blank cs
  | '[' :: cs => placesFrom r.members true r.blank cs
  | cs => .error (mismatch cs)

def ofText? (r : Record α) (s : String) : Except Failure α := Reader.whole r.read s

end Record

end MockData.Json
