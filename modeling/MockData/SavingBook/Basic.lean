import MockData.Balance

/-!
Saving books, which carry their customer's citizen id and name, and partial changes to one.
-/
namespace MockData

structure SavingBook where
  id : String
  citizenId : String
  customerName : String
  typeId : String
  openDate : String
  maturityDate : Option String
  balance : Balance
  status : String
  deriving DecidableEq, Repr

namespace SavingBook

def activeStatus : String := "active"
def closedStatus : String := "closed"

def isActive (b : SavingBook) : Bool := b.status = activeStatus

def closed (b : SavingBook) : SavingBook := { b with status := closedStatus, balance := 0 }

def addBalance (b : SavingBook) (delta : Balance) : SavingBook :=
  { b with balance := b.balance.add delta }

end SavingBook

/-- New values for some of a book's fields. A maturity date may be changed to none at all. -/
structure SavingBookPatch where
  id : Option String
  citizenId : Option String
  customerName : Option String
  typeId : Option String
  openDate : Option String
  maturityDate : Option (Option String)
  balance : Option Balance
  status : Option String
  deriving DecidableEq, Repr

namespace SavingBookPatch

def empty : SavingBookPatch := ⟨none, none, none, none, none, none, none, none⟩

def apply (p : SavingBookPatch) (b : SavingBook) : SavingBook where
  id := p.id.getD b.id
  citizenId := p.citizenId.getD b.citizenId
  customerName := p.customerName.getD b.customerName
  typeId := p.typeId.getD b.typeId
  openDate := p.openDate.getD b.openDate
  maturityDate := p.maturityDate.getD b.maturityDate
  balance := p.balance.getD b.balance
  status := p.status.getD b.status

@[simp] theorem empty_apply (b : SavingBook) : empty.apply b = b := rfl

end SavingBookPatch

end MockData
