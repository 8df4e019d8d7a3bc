import MockData.Block.Pattern
import MockData.Customer.Basic
import MockData.Script.Module

/-!
The module of customers: its layout, and reading customers back from a text.
-/
namespace MockData.Customer

open Script

def entries (c : Customer) : Entries := [
  ("customerid", .text c.id),
  ("fullname", .text c.fullName),
  ("citizenid", .text c.citizenId),
  ("address", .text c.address),
  ("phone", .text c.phone),
  ("email", .text c.email),
  ("dateofbirth", .text c.birthDate)]

def layout : Layout where
  header := ["Mock data for Customers (Khách hàng)"]
  list := "mockCustomers"
  title := "Helper functions for customer data"
  item := "c"
  helpers := [
    ⟨"findCustomerById", .findFirst ⟨"customerid", "customerid"⟩⟩,
    ⟨"findCustomerByCitizenId", .findFirst ⟨"citizenid", "citizenid"⟩⟩,
    ⟨"addCustomer", .add "customer"⟩,
    ⟨"updateCustomer", .update ⟨"customerid", "customerid"⟩⟩,
    ⟨"deleteCustomer", .delete ⟨"customerid", "customerid"⟩⟩]

def moduleText (cs : List Customer) : String := layout.text (cs.map entries)

def pattern : BlockPattern where
  fields := [
    ⟨"customerid", .text⟩, ⟨"fullname", .text⟩, ⟨"citizenid", .text⟩, ⟨"address", .text⟩,
    ⟨"phone", .text⟩, ⟨"email", .text⟩, ⟨"dateofbirth", .text⟩]
  fields_ne_nil := by simp

def ofBlock? (b : MatchedBlock) : Option Customer := do
  return {
    id := ← b.text? "customerid"
    fullName := ← b.text? "fullname"
    citizenId := ← b.text? "citizenid"
    address := ← b.text? "address"
    phone := ← b.text? "phone"
    email := ← b.text? "email"
    birthDate := ← b.text? "dateofbirth" }

def extract (text : String) : List Customer × Nat :=
  let found := Extraction.ofText pattern text
  (found.blocks.filterMap ofBlock?, found.skipped)

theorem render_layout (cs : List Customer) :
    layout.render (cs.map entries) = .ok (moduleText cs) :=
  Layout.render_eq_ok.mpr ⟨rfl, rfl⟩

end MockData.Customer
