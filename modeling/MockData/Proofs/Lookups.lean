import Mathlib.Data.Finset.Card
import MockData.Customer.Directory
import MockData.Customer.Store
import MockData.Proofs.Keys

/-!
A directory beside a store of the same customers: what it tells of an id is what the store tells of
the first customer with that id. So it depends on the order of the customers only as far as they
share an id.
-/
namespace MockData

namespace Directory

theorem get?_eq_none_iff {d : Directory} {id : String} :
    d.get? id = none ↔ id ∉ d.entries.map (·.1) := by
  rw [get?, Option.map_eq_none_iff, find?_key_eq_none_iff]

theorem get?_insert (d : Directory) (c : Customer) (id : String) :
    (d.insert c).get? id = (d.get? id).or (if c.id = id then some c.identity else none) := by
  by_cases known : c.id ∈ d.entries.map (·.1)
  · have kept : d.insert c = d := dif_pos known
    rw [kept]
    split
    · rename_i same
      have told : d.get? id ≠ none := fun missing => get?_eq_none_iff.mp missing (same ▸ known)
      obtain ⟨identity, found⟩ := Option.ne_none_iff_exists'.mp told
      rw [found, Option.some_or]
    · rw [Option.or_none]
  · have grown : (d.insert c).entries = d.entries ++ [(c.id, c.identity)] := by
      rw [insert, dif_neg known]
    have last : ([(c.id, c.identity)].find? (·.1 = id)).map (·.2) =
        if c.id = id then some c.identity else none := by
      by_cases same : c.id = id
      · simp [same]
      · simp [same]
    rw [get?, grown, List.find?_append, Option.map_or, last, get?]

theorem get?_foldl_insert (d : Directory) (cs : List Customer) (id : String) :
    (cs.foldl insert d).get? id =
      (d.get? id).or ((cs.find? (·.id = id)).map Customer.identity) := by
  induction cs generalizing d with
  | nil => simp
  | cons c cs ih =>
    rw [List.foldl_cons, ih, get?_insert, Option.or_assoc]
    by_cases same : c.id = id
    · simp [same]
    · simp [same]

theorem get?_ofCustomers (cs : List Customer) (id : String) :
    (ofCustomers cs).get? id = ((CustomerStore.mk cs).find? id).map Customer.identity :=
  get?_foldl_insert empty cs id

theorem mem_ids_ofCustomers_iff {cs : List Customer} {id : String} :
    id ∈ (ofCustomers cs).entries.map (·.1) ↔ id ∈ cs.map (·.id) := by
  have missing : (ofCustomers cs).get? id = none ↔ id ∉ cs.map (·.id) := by
    rw [get?_ofCustomers, Option.map_eq_none_iff]
    exact find?_key_eq_none_iff
  rw [get?_eq_none_iff] at missing
  exact not_iff_not.mp missing

theorem size_ofCustomers (cs : List Customer) :
    (ofCustomers cs).size = (cs.map (·.id)).toFinset.card := by
  have same : (cs.map (·.id)).toFinset = ((ofCustomers cs).entries.map (·.1)).toFinset := by
    ext id
    rw [List.mem_toFinset, List.mem_toFinset, mem_ids_ofCustomers_iff]
  rw [same, List.toFinset_card_of_nodup (ofCustomers cs).nodup_ids, List.length_map, size]

/-- The directory tells of each id what the store finds for it, and stands in for a customer where
the store finds none. -/
structure Answers (d : Directory) (s : CustomerStore) : Prop where
  get?_eq : ∀ id, d.get? id = (s.find? id).map fun c => ⟨c.citizenId, c.fullName⟩
  flag : ∀ id, (d.resolve id).2 = (s.find? id).isSome
  known : ∀ id c, s.find? id = some c → (d.resolve id).1 = ⟨c.citizenId, c.fullName⟩
  unknown : ∀ id, s.find? id = none → (d.resolve id).1 = ⟨"000000000000", "Unknown Customer"⟩
  size_eq : d.size = (s.customers.map (·.id)).toFinset.card

theorem answers_ofCustomers (cs : List Customer) : (ofCustomers cs).Answers ⟨cs⟩ where
  get?_eq := get?_ofCustomers cs
  flag id := by
    rw [resolve, get?_ofCustomers]
    cases (CustomerStore.mk cs).find? id with
    | none => rfl
    | some c => rfl
  known id c found := by rw [resolve, get?_ofCustomers, found]; rfl
  unknown id missing := by rw [resolve, get?_ofCustomers, missing]; rfl
  size_eq := size_ofCustomers cs

end Directory

/-- The same customers in another order, in which those that share an id keep theirs. -/
def Rearranged (cs cs' : List Customer) : Prop :=
  ∀ id, cs'.filter (·.id = id) = cs.filter (·.id = id)

theorem rearranged_swap {c c' : Customer} (differ : c.id ≠ c'.id) (before after : List Customer) :
    Rearranged (before ++ c :: c' :: after) (before ++ c' :: c :: after) := by
  intro id
  rw [List.filter_append, List.filter_append]
  by_cases first : c.id = id
  · have second : c'.id ≠ id := fun same => differ (first.trans same.symm)
    simp [first, second]
  · simp [first, List.filter_cons]

theorem Rearranged.perm {cs cs' : List Customer} (rearranged : Rearranged cs cs') :
    cs'.Perm cs := by
  refine List.perm_iff_count.mpr fun c => ?_
  have counted (l : List Customer) : (l.filter (·.id = c.id)).count c = l.count c :=
    List.count_filter (decide_eq_true rfl)
  rw [← counted cs', rearranged c.id, counted cs]

theorem Rearranged.find?_eq {cs cs' : List Customer} (rearranged : Rearranged cs cs')
    (id : String) : (CustomerStore.mk cs').find? id = (CustomerStore.mk cs).find? id := by
  rw [CustomerStore.find?, CustomerStore.find?, ← List.head?_filter, rearranged id,
    List.head?_filter]

namespace Directory

theorem lookups_ofCustomers (cs : List Customer) :
    (ofCustomers cs).Answers ⟨cs⟩ ∧ ∀ cs', Rearranged cs cs' →
      (∀ id, (ofCustomers cs').get? id = (ofCustomers cs).get? id) ∧
      ∀ id, (ofCustomers cs').resolve id = (ofCustomers cs).resolve id := by
  refine ⟨answers_ofCustomers cs, fun cs' rearranged => ?_⟩
  have same : ∀ id, (ofCustomers cs').get? id = (ofCustomers cs).get? id := by
    intro id
    rw [get?_ofCustomers, get?_ofCustomers, rearranged.find?_eq]
  exact ⟨same, fun id => by rw [resolve, resolve, same]⟩

theorem lookups_ofCustomers_swapped :
    let first : Customer := ⟨"A", "An", "012345678901", "", "", "", ""⟩
    let second : Customer := ⟨"A", "Bình", "109876543210", "", "", "", ""⟩
    let other : Customer := ⟨"B", "Chi", "000000000000", "", "", "", ""⟩
    let d := ofCustomers [other, first, second]
    Rearranged [first, other, second] [other, first, second] ∧
      d.resolve "A" = (⟨"012345678901", "An"⟩, true) ∧ d.size = 2 ∧
      d.resolve "C" = (⟨"000000000000", "Unknown Customer"⟩, false) := by
  intro first second other d
  have rearranged : Rearranged [first, other, second] [other, first, second] :=
    rearranged_swap (by decide) [] [second]
  obtain ⟨-, same⟩ := (lookups_ofCustomers [first, other, second]).2 _ rearranged
  refine ⟨rearranged, (same "A").trans (by decide), ?_, (same "C").trans (by decide)⟩
  rw [(lookups_ofCustomers [other, first, second]).1.size_eq]
  decide

end Directory

end MockData
