import Mathlib.Data.List.InsertIdx
import Mathlib.Data.List.Nodup
import MockData.Proofs.Machines
import MockData.Records.FirstMatch

/-!
What stands at places. A list of records is held by a machine when its list has a place for each,
no two of them the same; changes through one place then leave the other records alone.
-/
namespace MockData.Script

namespace Bindings

variable {x y : String} {v : Value} {o : Bindings}

@[simp] theorem get?_put : (o.put x v).get? x = some v := by
  induction o with
  | nil => simp [put]
  | cons e o ih => by_cases same : e.1 = x <;> simp [put, same, ih]

theorem get?_put_of_ne (ne : x ≠ y) : (o.put x v).get? y = o.get? y := by
  induction o with
  | nil => simp [put, ne]
  | cons e o ih =>
    by_cases same : e.1 = x
    · simp [put, same, ne]
    · simp [put, same, ih]

theorem put_of_get? (there : o.get? x = some v) : o.put x v = o := by
  induction o with
  | nil => cases there
  | cons e o ih =>
    obtain ⟨z, w⟩ := e
    by_cases same : z = x
    · simp only [get?, same, if_true, Option.some.injEq] at there
      simp [put, same, there]
    · simp only [get?, same, if_false] at there
      simp [put, same, ih there]

end Bindings

namespace Machine

def Shows (m : Machine) (places : List Nat) (os : List Bindings) : Prop :=
  places.map m.object? = os.map some

structure Holds (m : Machine) (os : List Bindings) : Prop where
  shows : m.Shows m.list os
  distinct : m.list.Nodup

variable {m : Machine} {places : List Nat} {os : List Bindings} {o p : Bindings}
  {place other index : Nat} {f : Bindings → Bindings}

@[simp] theorem list_change : (m.change place f).list = m.list := rfl

theorem lt_of_object? (there : m.object? place = some o) : place < m.objects.length :=
  (List.getElem?_eq_some_iff.mp there).1

@[simp] theorem object?_new : (m.allocate o).2.object? m.objects.length = some o := by
  simp [allocate, object?]

theorem object?_allocate (there : m.object? place = some o) :
    (m.allocate p).2.object? place = some o := by
  rw [allocate, object?, List.getElem?_append_left (lt_of_object? there)]
  exact there

theorem object?_change (there : m.object? place = some o) :
    (m.change place f).object? place = some (f o) := by
  rw [object?] at there
  simp [change, object?, there]

theorem object?_change_of_ne (ne : place ≠ other) :
    (m.change place f).object? other = m.object? other := by
  simp [change, object?, ne]

theorem Shows.allocate (shows : m.Shows places os) : (m.allocate p).2.Shows places os := by
  rw [Shows, ← shows]
  refine List.map_congr_left fun place member => ?_
  have there : m.object? place ∈ os.map some := shows ▸ List.mem_map_of_mem member
  obtain ⟨o, -, same⟩ := List.mem_map.mp there
  rw [← same, object?_allocate same.symm]

theorem Holds.allocate (holds : m.Holds os) : (m.allocate p).2.Holds os :=
  ⟨holds.shows.allocate, holds.distinct⟩

theorem Holds.new (holds : m.Holds os) : m.objects.length ∉ m.list := by
  intro member
  have there : m.object? m.objects.length ∈ os.map some :=
    holds.shows ▸ List.mem_map_of_mem member
  simp [object?] at there

theorem Holds.change (holds : m.Holds os) (listed : m.list[index]? = some place)
    (there : m.object? place = some o) : (m.change place f).Holds (os.set index (f o)) := by
  refine ⟨?_, holds.distinct⟩
  obtain ⟨inside, -⟩ := List.getElem?_eq_some_iff.mp listed
  rw [Shows, list_change, List.map_set, ← holds.shows]
  refine List.ext_getElem? fun j => ?_
  by_cases same : index = j
  · subst same
    rw [List.getElem?_set_self (by simpa using inside), List.getElem?_map, listed,
      Option.map_some, object?_change there]
  · rw [List.getElem?_set_ne same, List.getElem?_map, List.getElem?_map]
    cases listed' : m.list[j]? with
    | none => rfl
    | some r =>
      have ne : place ≠ r := by
        rintro rfl
        exact same ((List.getElem?_inj inside holds.distinct).mp (listed.trans listed'.symm))
      simp [object?_change_of_ne ne]

theorem Holds.replace (holds : m.Holds os) :
    Holds { (m.allocate p).2 with list := m.list.set index m.objects.length }
      (os.set index p) where
  shows := by
    have kept : m.list.map (m.allocate p).2.object? = os.map some := holds.shows.allocate
    have new : (m.allocate p).2.object? m.objects.length = some p := object?_new
    change (m.list.set index m.objects.length).map (m.allocate p).2.object? = _
    rw [List.map_set, List.map_set, kept, new]
  distinct := List.Nodup.set holds.distinct holds.new

theorem Holds.push (holds : m.Holds os) :
    Holds { (m.allocate p).2 with list := m.list ++ [m.objects.length] } (os ++ [p]) where
  shows := by
    have kept : m.list.map (m.allocate p).2.object? = os.map some := holds.shows.allocate
    have new : (m.allocate p).2.object? m.objects.length = some p := object?_new
    change (m.list ++ [m.objects.length]).map (m.allocate p).2.object? = _
    rw [List.map_append, List.map_append, kept, List.map_singleton, new]
    rfl
  distinct := by
    change (m.list ++ [m.objects.length]).Nodup
    rw [List.nodup_append_comm]
    exact List.nodup_cons.mpr ⟨holds.new, holds.distinct⟩

theorem Holds.remove (holds : m.Holds os) :
    Holds { m with list := m.list.eraseIdx index } (os.eraseIdx index) where
  shows := by
    change (m.list.eraseIdx index).map m.object? = _
    rw [← List.eraseIdx_map, ← List.eraseIdx_map, holds.shows]
  distinct := holds.distinct.sublist (List.eraseIdx_sublist _ _)

theorem holds_load (os : List Bindings) : (load os).Holds os where
  shows := by
    refine List.ext_getElem? fun j => ?_
    by_cases inside : j < os.length
    · simp [load, object?, inside]
    · simp [load, inside]
  distinct := List.nodup_range

end Machine

section Searching

variable {m : Machine} {places : List Nat} {os : List Bindings} {o : Bindings}
  {test : Nat → Option Bool} {q : Bindings → Bool}

def Asks (m : Machine) (test : Nat → Option Bool) (q : Bindings → Bool) : Prop :=
  ∀ place o, m.object? place = some o → test place = some (q o)

theorem keptPlaces_of_shows (asks : Asks m test q) (shows : m.Shows places os) :
    ∃ kept, keptPlaces test places = some kept ∧ m.Shows kept (os.filter q) := by
  induction os generalizing places with
  | nil =>
    obtain rfl : places = [] := List.map_eq_nil_iff.mp shows
    exact ⟨[], rfl, rfl⟩
  | cons o os ih =>
    obtain ⟨place, rest, rfl, there, shows⟩ := List.map_eq_cons_iff.mp shows
    obtain ⟨kept, later, shown⟩ := ih shows
    have first := asks place o there
    cases passes : q o with
    | true =>
      refine ⟨place :: kept, by simp [keptPlaces, first, passes, later], ?_⟩
      rw [List.filter_cons_of_pos passes, Machine.Shows, List.map_cons, List.map_cons, there, shown]
    | false =>
      refine ⟨kept, by simp [keptPlaces, first, passes, later], ?_⟩
      rwa [List.filter_cons_of_neg (by simp [passes])]

theorem search_of_find?_eq_none (asks : Asks m test q) (shows : m.Shows places os)
    (missing : os.find? q = none) : firstPlace test places = some .undefined ∧
      ∀ n, firstIndex test n places = some (.number (-1)) := by
  induction os generalizing places with
  | nil =>
    obtain rfl : places = [] := List.map_eq_nil_iff.mp shows
    exact ⟨rfl, fun _ => rfl⟩
  | cons o os ih =>
    obtain ⟨place, rest, rfl, there, shows⟩ := List.map_eq_cons_iff.mp shows
    have fails : q o = false := by simpa using List.find?_eq_none.mp missing o (by simp)
    rw [List.find?_cons_of_neg (by simp [fails])] at missing
    obtain ⟨place', index⟩ := ih shows missing
    have first := asks place o there
    exact ⟨by simp [firstPlace, first, fails, place'], by simp [firstIndex, first, fails, index]⟩

/-- The first object that passes a test, by its index and by its place. -/
structure Finds (test : Nat → Option Bool) (q : Bindings → Bool) (places : List Nat)
    (os : List Bindings) (index place : Nat) (o : Bindings) : Prop where
  listed : places[index]? = some place
  object : os[index]? = some o
  firstPlace : firstPlace test places = some (.object place)
  firstIndex : ∀ n, firstIndex test n places = some (.number (n + index))
  modified : ∀ f, modifyFirst q f os = os.set index (f o)
  erased : os.eraseP q = os.eraseIdx index

theorem exists_finds (asks : Asks m test q) (shows : m.Shows places os)
    (found : os.find? q = some o) :
    ∃ index place, m.object? place = some o ∧ Finds test q places os index place o := by
  induction os generalizing places with
  | nil => cases found
  | cons p os ih =>
    obtain ⟨place, rest, rfl, there, shows⟩ := List.map_eq_cons_iff.mp shows
    have first := asks place p there
    cases passes : q p with
    | true =>
      rw [List.find?_cons_of_pos passes] at found
      obtain rfl := Option.some.inj found
      exact ⟨0, place, there, rfl, rfl, by simp [firstPlace, first, passes],
        by simp [firstIndex, first, passes], by simp [modifyFirst, passes], by simp [passes]⟩
    | false =>
      rw [List.find?_cons_of_neg (by simp [passes])] at found
      obtain ⟨index, place', there', finds⟩ := ih shows found
      have counted : ∀ n, firstIndex test n (place :: rest) =
          some (.number (n + (index + 1 : Nat))) := by
        intro n
        simp [firstIndex, first, passes, finds.firstIndex]
        omega
      exact ⟨index + 1, place', there', finds.listed, finds.object,
        by simp [firstPlace, first, passes, finds.firstPlace], counted,
        by simp [modifyFirst, passes, finds.modified], by simp [passes, finds.erased]⟩

end Searching

end MockData.Script
