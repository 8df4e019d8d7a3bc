import MockData.Records.FirstMatch
import MockData.SavingBook.Basic

/-!
An ordered store of saving books. Ids need not be unique: what addresses one book by its id means
the first with it. Look-ups by citizen, by type and by status answer all books in order.
-/
namespace MockData

structure BalanceChange where
  book : SavingBook
  before : Balance
  after : Balance
  deriving DecidableEq, Repr

structure ClosedBook where
  book : SavingBook
  finalBalance : Balance
  deriving DecidableEq, Repr

structure SavingBookStore where
  books : List SavingBook
  deriving DecidableEq, Repr

namespace SavingBookStore

def size (s : SavingBookStore) : Nat := s.books.length

def isEmpty (s : SavingBookStore) : Bool := s.books.isEmpty

def find? (s : SavingBookStore) (id : String) : Option SavingBook := s.books.find? (·.id = id)

def findByCitizenId (s : SavingBookStore) (citizenId : String) : List SavingBook :=
  s.books.filter (·.citizenId = citizenId)

def findByType (s : SavingBookStore) (typeId : String) : List SavingBook :=
  s.books.filter (·.typeId = typeId)

def findActive (s : SavingBookStore) : List SavingBook := s.books.filter SavingBook.isActive

def add (s : SavingBookStore) (b : SavingBook) : SavingBookStore := ⟨s.books ++ [b]⟩

def modify (s : SavingBookStore) (id : String) (f : SavingBook → SavingBook) : SavingBookStore :=
  ⟨modifyFirst (·.id = id) f s.books⟩

def update (s : SavingBookStore) (id : String) (p : SavingBookPatch) :
    Option SavingBook × SavingBookStore :=
  ((s.find? id).map p.apply, s.modify id p.apply)

def updateBalance (s : SavingBookStore) (id : String) (delta : Balance) :
    Option BalanceChange × SavingBookStore :=
  ((s.find? id).map fun b => ⟨b.addBalance delta, b.balance, (b.addBalance delta).balance⟩,
    s.modify id (·.addBalance delta))

def close (s : SavingBookStore) (id : String) : Option ClosedBook × SavingBookStore :=
  ((s.find? id).map fun b => ⟨b.closed, b.balance⟩, s.modify id SavingBook.closed)

def delete (s : SavingBookStore) (id : String) : Option SavingBook × SavingBookStore :=
  (s.find? id, ⟨s.books.eraseP (·.id = id)⟩)

inductive Request
  | find (id : String)
  | findByCitizenId (citizenId : String)
  | findByType (typeId : String)
  | findActive
  | add (b : SavingBook)
  | update (id : String) (p : SavingBookPatch)
  | updateBalance (id : String) (delta : Balance)
  | close (id : String)
  | delete (id : String)
  deriving DecidableEq, Repr

inductive Answer
  | book (b : Option SavingBook)
  | books (bs : List SavingBook)
  | change (c : Option BalanceChange)
  | closed (c : Option ClosedBook)
  deriving DecidableEq, Repr

def answer (s : SavingBookStore) : Request → Answer × SavingBookStore
  | .find id => (.book (s.find? id), s)
  | .findByCitizenId citizenId => (.books (s.findByCitizenId citizenId), s)
  | .findByType typeId => (.books (s.findByType typeId), s)
  | .findActive => (.books s.findActive, s)
  | .add b => (.book (some b), s.add b)
  | .update id p => (.book (s.update id p).1, (s.update id p).2)
  | .updateBalance id delta => (.change (s.updateBalance id delta).1, (s.updateBalance id delta).2)
  | .close id => (.closed (s.close id).1, (s.close id).2)
  | .delete id => (.book (s.delete id).1, (s.delete id).2)

def run (s : SavingBookStore) (rs : List Request) : SavingBookStore :=
  rs.foldl (fun s r => (s.answer r).2) s

end SavingBookStore

end MockData
