import MockData.Customer.Basic
import MockData.Records.FirstMatch

/-!
An ordered store of customers. Ids need not be unique: a look-up, a change and a deletion mean the
first customer with the id.
-/
namespace MockData

structure CustomerStore where
  customers : List Customer
  deriving DecidableEq, Repr

namespace CustomerStore

def size (s : CustomerStore) : Nat := s.customers.length

def isEmpty (s : CustomerStore) : Bool := s.customers.isEmpty

def find? (s : CustomerStore) (id : String) : Option Customer :=
  s.customers.find? (·.id = id)

def findByCitizenId? (s : CustomerStore) (citizenId : String) : Option Customer :=
  s.customers.find? (·.citizenId = citizenId)

def add (s : CustomerStore) (c : Customer) : CustomerStore := ⟨s.customers ++ [c]⟩

def update (s : CustomerStore) (id : String) (p : CustomerPatch) :
    Option Customer × CustomerStore :=
  ((s.find? id).map p.apply, ⟨modifyFirst (·.id = id) p.apply s.customers⟩)

def delete (s : CustomerStore) (id : String) : Option Customer × CustomerStore :=
  (s.find? id, ⟨s.customers.eraseP (·.id = id)⟩)

inductive Request
  | find (id : String)
  | findByCitizenId (citizenId : String)
  | add (c : Customer)
  | update (id : String) (p : CustomerPatch)
  | delete (id : String)
  deriving DecidableEq, Repr

def answer (s : CustomerStore) : Request → Option Customer × CustomerStore
  | .find id => (s.find? id, s)
  | .findByCitizenId citizenId => (s.findByCitizenId? citizenId, s)
  | .add c => (some c, s.add c)
  | .update id p => s.update id p
  | .delete id => s.delete id

def run (s : CustomerStore) (rs : List Request) : CustomerStore :=
  rs.foldl (fun s r => (s.answer r).2) s

end CustomerStore

end MockData
