import MockData.Block.Pattern
import MockData.SavingBook.Basic
import MockData.Script.Module

/-!
The module of saving books: its layout, and the pattern of the books in it.
-/
namespace MockData.SavingBook

open Script

def entries (b : SavingBook) : Entries := [
  ("bookId", .text b.id),
  ("citizenId", .text b.citizenId),
  ("customerName", .text b.customerName),
  ("typeSavingId", .text b.typeId),
  ("openDate", .text b.openDate),
  ("maturityDate", .ofText? b.maturityDate),
  ("balance", .int b.balance),
  ("status", .text b.status)]

def layout : Layout where
  header := [
    "Mock data for SavingBooks (Sổ tiết kiệm)",
    "New structure with embedded customer data"]
  list := "mockSavingBooks"
  title := "Helper functions for savingbook data"
  item := "sb"
  helpers :=
    let access : BalanceAccess := ⟨"bookId", "findSavingBookById", "savingBook", "balance"⟩
    [ ⟨"findSavingBookById", .findFirst ⟨"bookId", "bookId"⟩⟩,
      ⟨"findSavingBooksByCitizenId", .findAll ⟨"citizenId", "citizenId"⟩⟩,
      ⟨"findSavingBooksByType", .findAll ⟨"typeSavingId", "typeSavingId"⟩⟩,
      ⟨"findActiveSavingBooks", .findWhere "status" activeStatus⟩,
      ⟨"addSavingBook", .add "savingBook"⟩,
      ⟨"updateSavingBook", .update ⟨"bookId", "bookId"⟩⟩,
      ⟨"updateSavingBookBalance", .updateBalance access⟩,
      ⟨"closeSavingBook", .close access "status" closedStatus⟩,
      ⟨"deleteSavingBook", .delete ⟨"bookId", "bookId"⟩⟩]

def moduleText (bs : List SavingBook) : String := layout.text (bs.map entries)

/-- Balances below zero are not found by it. -/
def pattern : BlockPattern where
  fields := [
    ⟨"bookId", .text⟩, ⟨"citizenId", .text⟩, ⟨"customerName", .text⟩, ⟨"typeSavingId", .text⟩,
    ⟨"openDate", .text⟩, ⟨"maturityDate", .nullable⟩, ⟨"balance", .unsigned⟩, ⟨"status", .text⟩]
  fields_ne_nil := by simp

theorem render_layout (bs : List SavingBook) :
    layout.render (bs.map entries) = .ok (moduleText bs) :=
  Layout.render_eq_ok.mpr ⟨rfl, rfl⟩

end MockData.SavingBook
