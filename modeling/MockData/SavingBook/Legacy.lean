import MockData.Block.Pattern
import MockData.Customer.Directory
import MockData.SavingBook.Basic

/-!
Saving books in their former layout. They name their customer by id, keep amounts without a sign,
and carry a first deposit and a rate that the new layout has no place for.
-/
namespace MockData

structure LegacyBook where
  id : String
  customerId : String
  typeId : String
  registerTime : String
  maturityDate : Option String
  initialDeposit : UInt64
  currentBalance : UInt64
  interestRate : Float
  status : String
  deriving Repr

namespace LegacyBook

def pattern : BlockPattern where
  fields := [
    ⟨"bookid", .text⟩, ⟨"customerid", .text⟩, ⟨"typeid", .text⟩, ⟨"registertime", .text⟩,
    ⟨"maturitydate", .nullable⟩, ⟨"initialdeposit", .unsigned⟩, ⟨"currentbalance", .unsigned⟩,
    ⟨"interestrate", .decimal⟩, ⟨"status", .text⟩]
  fields_ne_nil := by simp

def ofBlock? (b : MatchedBlock) : Option LegacyBook := do
  return {
    id := ← b.text? "bookid"
    customerId := ← b.text? "customerid"
    typeId := ← b.text? "typeid"
    registerTime := ← b.text? "registertime"
    maturityDate := ← (← b.get? "maturitydate").nullable?
    initialDeposit := ← (← b.get? "initialdeposit").unsigned?
    currentBalance := ← (← b.get? "currentbalance").unsigned?
    interestRate := ← (← b.get? "interestrate").decimal?
    status := ← b.text? "status" }

def extract (text : String) : List LegacyBook × Nat :=
  let found := Extraction.ofText pattern text
  (found.blocks.filterMap ofBlock?, found.skipped)

def isOutOfRange (b : LegacyBook) : Bool := Balance.greatest < b.currentBalance.toNat

def reshape (b : LegacyBook) (customer : Identity) : SavingBook where
  id := b.id
  citizenId := customer.citizenId
  customerName := customer.fullName
  typeId := b.typeId
  openDate := b.registerTime
  maturityDate := b.maturityDate
  balance := Balance.clamp b.currentBalance.toNat
  status := b.status

end LegacyBook

end MockData
