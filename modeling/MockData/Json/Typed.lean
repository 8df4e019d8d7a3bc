import MockData.Json.Number
import MockData.Json.Quoted

/-!
Readers for values of one type. A value of another type is a mismatch, but only after it has been
read itself when it has no parts.
-/
namespace MockData.Json

def mismatch (cs : List Char) : Failure :=
  let after {α : Type} (outcome : Except Failure α) : Failure := match outcome with
    | .ok _ => .mismatch
    | .error e => e
  match cs with
  | [] => .ended
  | 'n' :: cs => after (word ['u', 'l', 'l'] cs)
  | 't' :: cs => after (word ['r', 'u', 'e'] cs)
  | 'f' :: cs => after (word ['a', 'l', 's', 'e'] cs)
  | '"' :: cs => after (quotedRest cs)
  | '-' :: cs => after (unsignedNumber true cs)
  | '[' :: _ | '\x7b' :: _ => .mismatch
  | cs => if startsWithDigit cs then after (unsignedNumber false cs) else .malformed

def text : Reader String := fun cs =>
  match dropBlanks cs with
  | '"' :: cs => (quotedRest cs).map fun p => (String.ofList p.1, p.2)
  | cs => .error (mismatch cs)

def number : Reader Number := fun cs =>
  match dropBlanks cs with
  | '-' :: cs => unsignedNumber true cs
  | cs => if startsWithDigit cs then unsignedNumber false cs else .error (mismatch cs)

def numberAs (f : Number → Option α) : Reader α := fun cs => do
  let (n, rest) ← number cs
  match f n with
  | some a => return (a, rest)
  | none => throw .mismatch

def uint64 : Reader UInt64 := numberAs fun
  | .natural n => some n
  | _ => none

def int64 : Reader Int64 := numberAs fun
  | .natural n => if n.toNat ≤ 9223372036854775807 then some (Int64.ofInt n.toNat) else none
  | .negative n => some (Int64.ofInt (-n.toNat))
  | .real _ => none

def double : Reader Float := numberAs fun
  | .natural n => some n.toFloat
  | .negative n => some (-n.toFloat)
  | .real x => some x

def orNull (read : Reader α) : Reader (Option α) := fun cs =>
  match dropBlanks cs with
  | 'n' :: cs => (word ['u', 'l', 'l'] cs).map fun rest => (none, rest)
  | cs => (read cs).map fun p => (some p.1, p.2)

/-- Goes to the next part of an array, from just after its bracket or after a part. Answers where
the part starts, or what follows the closing bracket. -/
def nextItem (first : Bool) (cs : List Char) : Except Failure (List Char ⊕ List Char) :=
  match dropBlanks cs with
  | [] => .error .ended
  | ']' :: cs => .ok (.inr cs)
  | c :: cs =>
    if first then .ok (.inl (c :: cs))
    else if c = ',' then
      match dropBlanks cs with
      | [] => .error .ended
      | ']' :: _ => .error .malformed
      | cs => .ok (.inl cs)
    else .error .malformed

def nextMember (first : Bool) (cs : List Char) :
    Except Failure ((String × List Char) ⊕ List Char) :=
  let name (cs : List Char) : Except Failure ((String × List Char) ⊕ List Char) :=
    match cs with
    | [] => .error .ended
    | '"' :: cs => (quotedRest cs).map fun p => .inl (String.ofList p.1, p.2)
    | _ => .error .malformed
  match dropBlanks cs with
  | [] => .error .ended
  | '\x7d' :: cs => .ok (.inr cs)
  | c :: cs =>
    if first then name (c :: cs)
    else if c = ',' then name (dropBlanks cs)
    else .error .malformed

def colon (cs : List Char) : Except Failure (List Char) :=
  match dropBlanks cs with
  | [] => .error .ended
  | ':' :: cs => .ok cs
  | _ => .error .malformed

def itemsFrom (read : Reader α) : (fuel : Nat) → (first : Bool) → Reader (List α)
  | 0, _, _ => .error .ended
  | fuel + 1, first, cs => do
    match ← nextItem first cs with
    | .inr rest => return ([], rest)
    | .inl cs =>
      let (a, cs) ← read cs
      let (as, rest) ← itemsFrom read fuel false cs
      return (a :: as, rest)

/-- Reads an array; every part takes up a character at least. -/
def items (read : Reader α) : Reader (List α) := fun cs =>
  match dropBlanks cs with
  | '[' :: cs => itemsFrom read (cs.length + 1) true cs
  | cs => .error (mismatch cs)

def pairsFrom (read : Reader α) : (fuel : Nat) → (first : Bool) → Reader (List (String × α))
  | 0, _, _ => .error .ended
  | fuel + 1, first, cs => do
    match ← nextMember first cs with
    | .inr rest => return ([], rest)
    | .inl (name, cs) =>
      let (a, cs) ← read (← colon cs)
      let (as, rest) ← pairsFrom read fuel false cs
      return ((name, a) :: as, rest)

def pairs (read : Reader α) : Reader (List (String × α)) := fun cs =>
  match dropBlanks cs with
  | '\x7b' :: cs => pairsFrom read (cs.length + 1) true cs
  | cs => .error (mismatch cs)

end MockData.Json
