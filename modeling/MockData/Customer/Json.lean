import MockData.Customer.Basic
import MockData.Json.Record
import MockData.Json.Schema

/-!
Customers and changes to them in the data format. A change holds only the members it sets.
-/
namespace MockData

open Json

namespace Customer

def jsonRecord : Record Customer where
  blank := ⟨"", "", "", "", "", "", ""⟩
  members := [
    .required "customerid" text fun s c => { c with id := s },
    .required "fullname" text fun s c => { c with fullName := s },
    .required "citizenid" text fun s c => { c with citizenId := s },
    .required "address" text fun s c => { c with address := s },
    .required "phone" text fun s c => { c with phone := s },
    .required "email" text fun s c => { c with email := s },
    .required "dateofbirth" text fun s c => { c with birthDate := s }]

def toJson (c : Customer) : Value := .object [
  ("customerid", .text c.id), ("fullname", .text c.fullName), ("citizenid", .text c.citizenId),
  ("address", .text c.address), ("phone", .text c.phone), ("email", .text c.email),
  ("dateofbirth", .text c.birthDate)]

def schema : Schema where
  title := "CustomerRecord"
  description := "A customer as exposed by the generated `customers` module.\n\n"
    ++ "Field names serialize to the lowercase keys used by the frontend mock layer "
    ++ "(`customerid`, `fullname`, ...)."
  properties := [
    ⟨"customerid", .text, none⟩,
    ⟨"fullname", .text, none⟩,
    ⟨"citizenid", .text, "National identity number. Passed through verbatim."⟩,
    ⟨"address", .text, none⟩,
    ⟨"phone", .text, none⟩,
    ⟨"email", .text, none⟩,
    ⟨"dateofbirth", .text, "ISO date (`YYYY-MM-DD`)."⟩]

end Customer

namespace CustomerPatch

def jsonRecord : Record CustomerPatch where
  blank := .empty
  members := [
    .optional .allowed "customerid" text fun s p => { p with id := s },
    .optional .allowed "fullname" text fun s p => { p with fullName := s },
    .optional .allowed "citizenid" text fun s p => { p with citizenId := s },
    .optional .allowed "address" text fun s p => { p with address := s },
    .optional .allowed "phone" text fun s p => { p with phone := s },
    .optional .allowed "email" text fun s p => { p with email := s },
    .optional .allowed "dateofbirth" text fun s p => { p with birthDate := s }]

def toJson (p : CustomerPatch) : Value :=
  let member (name : String) (s : Option String) : Option (String × Value) :=
    s.map fun s => (name, .text s)
  .object ([
    member "customerid" p.id, member "fullname" p.fullName, member "citizenid" p.citizenId,
    member "address" p.address, member "phone" p.phone, member "email" p.email,
    member "dateofbirth" p.birthDate].flatMap Option.toList)

end CustomerPatch

end MockData
