import MockData.Json.Record
import MockData.Json.Schema
import MockData.SavingBook.Legacy

/-!
Saving books of either layout in the data format.
-/
namespace MockData

open Json

namespace SavingBook

def jsonRecord : Record SavingBook where
  blank := ⟨"", "", "", "", "", none, 0, ""⟩
  members := [
    .required "bookId" text fun s b => { b with id := s },
    .required "citizenId" text fun s b => { b with citizenId := s },
    .required "customerName" text fun s b => { b with customerName := s },
    .required "typeSavingId" text fun s b => { b with typeId := s },
    .required "openDate" text fun s b => { b with openDate := s },
    .optional .named "maturityDate" text fun s b => { b with maturityDate := s },
    .required "balance" int64 fun n b => { b with balance := n },
    .required "status" text fun s b => { b with status := s }]

def toJson (b : SavingBook) : Value := .object [
  ("bookId", .text b.id), ("citizenId", .text b.citizenId), ("customerName", .text b.customerName),
  ("typeSavingId", .text b.typeId), ("openDate", .text b.openDate),
  ("maturityDate", .ofText? b.maturityDate), ("balance", .number b.balance.toInt),
  ("status", .text b.status)]

def schema : Schema where
  title := "SavingBook"
  description := "Saving book in the new layout with denormalized customer fields."
  properties := [
    ⟨"bookId", .text, none⟩,
    ⟨"citizenId", .text, none⟩,
    ⟨"customerName", .text, none⟩,
    ⟨"typeSavingId", .text, none⟩,
    ⟨"openDate", .text, none⟩,
    ⟨"maturityDate", .optionalText, none⟩,
    ⟨"balance", .int64, "Signed so runtime balance updates may go below zero."⟩,
    ⟨"status", .text, none⟩]

end SavingBook

namespace LegacyBook

def jsonRecord : Record LegacyBook where
  blank := ⟨"", "", "", "", none, 0, 0, 0, ""⟩
  members := [
    .required "bookid" text fun s b => { b with id := s },
    .required "customerid" text fun s b => { b with customerId := s },
    .required "typeid" text fun s b => { b with typeId := s },
    .required "registertime" text fun s b => { b with registerTime := s },
    .optional .named "maturitydate" text fun s b => { b with maturityDate := s },
    .required "initialdeposit" uint64 fun n b => { b with initialDeposit := n },
    .required "currentbalance" uint64 fun n b => { b with currentBalance := n },
    .required "interestrate" double fun x b => { b with interestRate := x },
    .required "status" text fun s b => { b with status := s }]

def schema : Schema where
  title := "LegacySavingBook"
  description := "Saving book in the legacy layout, keyed to customers by `customerid`."
  properties := [
    ⟨"bookid", .text, none⟩,
    ⟨"customerid", .text, none⟩,
    ⟨"typeid", .text, none⟩,
    ⟨"registertime", .text, none⟩,
    ⟨"maturitydate", .optionalText, none⟩,
    ⟨"initialdeposit", .uint64, none⟩,
    ⟨"currentbalance", .uint64, none⟩,
    ⟨"interestrate", .double, none⟩,
    ⟨"status", .text, none⟩]

end LegacyBook

end MockData
