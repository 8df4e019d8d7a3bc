/-!
Customers, and partial changes to one. Every field is a text and is kept as it came.
-/
namespace MockData

structure Customer where
  id : String
  fullName : String
  citizenId : String
  address : String
  phone : String
  email : String
  birthDate : String
  deriving DecidableEq, Repr

structure CustomerPatch where
  id : Option String
  fullName : Option String
  citizenId : Option String
  address : Option String
  phone : Option String
  email : Option String
  birthDate : Option String
  deriving DecidableEq, Repr

namespace CustomerPatch

def empty : CustomerPatch := ⟨none, none, none, none, none, none, none⟩

def apply (p : CustomerPatch) (c : Customer) : Customer where
  id := p.id.getD c.id
  fullName := p.fullName.getD c.fullName
  citizenId := p.citizenId.getD c.citizenId
  address := p.address.getD c.address
  phone := p.phone.getD c.phone
  email := p.email.getD c.email
  birthDate := p.birthDate.getD c.birthDate

@[simp] theorem empty_apply (c : Customer) : empty.apply c = c := rfl

end CustomerPatch

end MockData
