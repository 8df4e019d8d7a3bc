import MockData.Customer.Basic

/-!
A directory of customers by id, for joining records that only name a customer. Of several
customers with one id the directory knows the first.
-/
namespace MockData

structure Identity where
  citizenId : String
  fullName : String
  deriving DecidableEq, Repr

/-- Stands in for a customer that is not in the directory. -/
def Identity.unknown : Identity := ⟨"000000000000", "Unknown Customer"⟩

def Customer.identity (c : Customer) : Identity := ⟨c.citizenId, c.fullName⟩

structure Directory where
  entries : List (String × Identity)
  nodup_ids : (entries.map (·.1)).Nodup := by decide

namespace Directory

def empty : Directory where
  entries := []

def get? (d : Directory) (id : String) : Option Identity :=
  (d.entries.find? (·.1 = id)).map (·.2)

def size (d : Directory) : Nat := d.entries.length

def isEmpty (d : Directory) : Bool := d.entries.isEmpty

def insert (d : Directory) (c : Customer) : Directory :=
  if h : c.id ∈ d.entries.map (·.1) then d
  else ⟨d.entries ++ [(c.id, c.identity)], by
    rw [List.map_append, List.nodup_append]
    refine ⟨d.nodup_ids, by simp, fun a ha b hb e => h ?_⟩
    simp only [List.map_cons, List.map_nil, List.mem_singleton] at hb
    exact (e.trans hb) ▸ ha⟩

def ofCustomers (cs : List Customer) : Directory := cs.foldl insert empty

def resolve (d : Directory) (id : String) : Identity × Bool :=
  match d.get? id with
  | some identity => (identity, true)
  | none => (.unknown, false)

end Directory

end MockData
