import MockData.Proofs.Placing

/-!
Files that are written one after another. A file has what was last written under a path that
leads to it, and one that no such path leads to has what it had before.
-/
namespace MockData

open Disk Plan

namespace Disk

variable {d d' : Disk} {p : Path} {l m : Location} {data : ByteArray}

def Holds (d : Disk) (p : Path) (l : Location) (data : ByteArray) : Prop :=
  d.locate p = .ok l ∧ d.get? l = some (.file data)

theorem Holds.read (holds : d.Holds p l data) : d.read p = .ok data := read_eq_ok.mpr ⟨l, holds⟩

theorem Grown.holds (grown : Grown d d') (holds : d.Holds p l data) : d'.Holds p l data :=
  ⟨grown.locate holds.1, grown.get?_eq l _ holds.2⟩

theorem Alters.holds {touched : Location → Prop} (alters : Alters touched d d')
    (located : d.locate p = .ok l) (found : d'.get? l = some (.file data)) : d'.Holds p l data :=
  ⟨alters.locate located (by rw [found, Option.isSome_some]), found⟩

theorem Lands.eq_of_locate (lands : d.Lands p l) (located : d.locate p = .ok m) : m = l := by
  obtain ⟨k, s, placed, -, -, rfl⟩ := lands
  obtain ⟨-, -, above, parts, walked, -⟩ := place_eq_ok_some.mp placed
  have followed := (follow_eq_ok.mp (locate_eq_ok.mp located).2).1
  rw [parts] at followed
  obtain ⟨k', walked', last⟩ := walk_cons_eq_ok.mp followed
  obtain rfl : k = k' := Except.ok.inj (walked.symm.trans walked')
  obtain ⟨-, ⟨up, -⟩ | ⟨t, name, -, -, rfl⟩⟩ := step_eq_ok.mp last
  · cases up
  · cases name
    rfl

end Disk

structure Written where
  path : String
  text : String
  token : String
  deriving DecidableEq, Repr

namespace Written

variable {w : Written} {ws : List Written} {d d' : Disk} {q : Path} {l : Location}
  {old : ByteArray}

def plan (w : Written) : Plan DiskError Unit :=
  writeFile (.ofText w.path) w.text.toUTF8 w.token

def temporary? (w : Written) : Option String :=
  (Path.ofText w.path).fileName?.map (temporaryName · w.token)

def leadsTo (w : Written) (d : Disk) (l : Location) : Bool :=
  (d.locate (.ofText w.path)).toOption = some l

def last? (ws : List Written) (d : Disk) (l : Location) : Option Written :=
  ws.find? (·.leadsTo d l)

def dataAt (ws : List Written) (d : Disk) (l : Location) (old : ByteArray) : ByteArray :=
  match last? ws d l with
  | some w => w.text.toUTF8
  | none => old

/-- The writes have been done, of which the last one comes first. -/
inductive Done (d : Disk) : List Written → Disk → Prop
  | nil : Done d [] d
  | cons {ws : List Written} {w : Written} {d₁ d' : Disk} (earlier : Done d ws d₁)
      (ran : w.plan.run d₁ = (.ok (), d')) : Done d (w :: ws) d'

def Separate (ws : List Written) : Prop :=
  ws.Pairwise fun later earlier => later.temporary? ≠ (Path.ofText earlier.path).fileName?

theorem leadsTo_iff : w.leadsTo d l ↔ d.locate (.ofText w.path) = .ok l := by
  rw [leadsTo, decide_eq_true_iff]
  cases d.locate (.ofText w.path) with
  | ok m => simp [Except.toOption]
  | error e => simp [Except.toOption]

theorem last?_cons (w : Written) (ws : List Written) (d : Disk) (l : Location) :
    last? (w :: ws) d l = if w.leadsTo d l then some w else last? ws d l := by
  rw [last?, List.find?_cons]
  cases w.leadsTo d l <;> rfl

theorem of_mem_last? (last : w ∈ last? ws d l) : w ∈ ws ∧ w.leadsTo d l := by
  rw [last?, Option.mem_def] at last
  have leads := List.find?_some last
  exact ⟨List.mem_of_find?_eq_some last, leads⟩

theorem dataAt_cons (w : Written) (ws : List Written) (d : Disk) (l : Location)
    (old : ByteArray) : dataAt (w :: ws) d l old =
      if w.leadsTo d l then w.text.toUTF8 else dataAt ws d l old := by
  rw [dataAt, last?_cons]
  cases w.leadsTo d l <;> rfl

theorem dataAt_congr (same : ∀ w ∈ ws, w.leadsTo d' l = w.leadsTo d l) :
    dataAt ws d' l old = dataAt ws d l old := by
  induction ws with
  | nil => rfl
  | cons w ws ih =>
    rw [List.forall_mem_cons] at same
    rw [dataAt_cons, dataAt_cons, same.1, ih same.2]

theorem holds_self_of_run (ran : w.plan.run d = (.ok (), d')) :
    ∃ l, (Path.ofText w.path).fileName? = l.head? ∧ d'.Holds (.ofText w.path) l w.text.toUTF8 := by
  have writable := (writeFile_ok_iff d (.ofText w.path) _ _).mp (congrArg Prod.fst ran)
  obtain ⟨name, named, -⟩ := writable.beside
  obtain ⟨l, located, found⟩ := read_eq_ok.mp (read_of_writeFile ran)
  exact ⟨l, named.trans (head?_of_locate named located).symm, located, found⟩

theorem holds_of_run (ran : w.plan.run d = (.ok (), d')) (fresh : w.temporary? ≠ l.head?)
    (holds : d.Holds q l old) :
    d'.Holds q l (if w.leadsTo d' l then w.text.toUTF8 else old) := by
  have grown := grown_prepared d (.ofText w.path)
  have before := grown.holds holds
  have disk := writeFile_disk d (.ofText w.path) w.text.toUTF8 w.token
  rw [show ((writeFile (.ofText w.path) w.text.toUTF8 w.token).run d).2 = d' from
    congrArg Prod.snd ran] at disk
  obtain ⟨m, -, located, found⟩ := holds_self_of_run ran
  by_cases here : w.leadsTo d' l
  · obtain rfl : m = l := Except.ok.inj (located.symm.trans (leadsTo_iff.mp here))
    rw [if_pos here]
    rcases disk with same | ⟨name, -, alters⟩
    · exact ⟨same ▸ before.1, found⟩
    · exact alters.holds before.1 found
  · rw [if_neg here]
    rcases disk with same | ⟨name, named, alters⟩
    · exact same ▸ before
    · refine alters.holds before.1 ((alters.get?_eq l ?_).trans before.2)
      rintro (temporary | lands)
      · refine fresh ?_
        rw [temporary?, named, temporary]
        rfl
      · obtain rfl : m = l := (alters.lands.mpr lands).eq_of_locate located
        exact here (leadsTo_iff.mpr located)

theorem leadsTo_of_run (ran : w.plan.run d = (.ok (), d'))
    (fresh : ∀ v ∈ ws, w.temporary? ≠ (Path.ofText v.path).fileName?)
    (before : ∀ v ∈ ws, ∃ m, (Path.ofText v.path).fileName? = m.head? ∧
      d.Holds (.ofText v.path) m (dataAt ws d m .empty)) (l : Location) :
    ∀ v ∈ ws, v.leadsTo d' l = v.leadsTo d l := by
  intro v member
  obtain ⟨m, named, holds⟩ := before v member
  have after := holds_of_run ran (named ▸ fresh v member) holds
  rw [leadsTo, leadsTo, holds.1, after.1]

theorem holds_self_of_done (done : Done d ws d') (separate : Separate ws) :
    ∀ w ∈ ws, ∃ l, (Path.ofText w.path).fileName? = l.head? ∧
      d'.Holds (.ofText w.path) l (dataAt ws d' l .empty) := by
  induction done with
  | nil => exact fun w member => nomatch member
  | @cons ws w d₁ d' earlier ran ih =>
    rw [Separate, List.pairwise_cons] at separate
    have before := ih separate.2
    refine List.forall_mem_cons.mpr ⟨?_, ?_⟩
    · obtain ⟨l, named, holds⟩ := holds_self_of_run ran
      refine ⟨l, named, ?_⟩
      rwa [dataAt_cons, if_pos (leadsTo_iff.mpr holds.1)]
    · intro v member
      obtain ⟨l, named, holds⟩ := before v member
      refine ⟨l, named, ?_⟩
      rw [dataAt_cons, dataAt_congr (leadsTo_of_run ran separate.1 before l)]
      exact holds_of_run ran (named ▸ separate.1 v member) holds

/-- A file that was there before, under whatever path, has the last text written to it, or else
what it had. -/
theorem holds_of_done (done : Done d ws d') (separate : Separate ws)
    (fresh : ∀ w ∈ ws, w.temporary? ≠ l.head?) (holds : d.Holds q l old) :
    d'.Holds q l (dataAt ws d' l old) := by
  induction done with
  | nil => exact holds
  | @cons ws w d₁ d' earlier ran ih =>
    rw [Separate, List.pairwise_cons] at separate
    rw [List.forall_mem_cons] at fresh
    have before := holds_self_of_done earlier separate.2
    rw [dataAt_cons, dataAt_congr (leadsTo_of_run ran separate.1 before l)]
    exact holds_of_run ran fresh.1 (ih separate.2 fresh.2)

end Written

end MockData
