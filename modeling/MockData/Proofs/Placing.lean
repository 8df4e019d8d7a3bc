import MockData.Proofs.Writing

/-!
When a file can be written: the directories on the way to it can be made, and neither its name nor
the temporary one beside it stands for a directory then.
-/
namespace MockData

namespace Disk

variable {d d' : Disk} {p : Path} {l : Location}

def Free (d : Disk) (p : Path) : Prop := ∃ l, d.Lands p l ∧ ¬ d.isDirectory l

theorem Alters.lands {touched : Location → Prop} (alters : Alters touched d d') :
    d'.Lands p l ↔ d.Lands p l := by
  simp only [Lands, alters.place]

theorem Alters.free {touched : Location → Prop} (alters : Alters touched d d') :
    d'.Free p ↔ d.Free p := by
  simp only [Free, alters.lands, alters.isDirectory_eq]

theorem create_of_lands (lands : d.Lands p l) (noDirectory : ¬ d.isDirectory l) :
    d.create p = .ok (d.put l (.file .empty)) := by
  obtain ⟨m, s, placed, bare, short, rfl⟩ := lands
  refine bind_eq_ok.mpr ⟨(m, some s), placed, ?_⟩
  have noSlash : ¬ p.ending = .slash := by rw [bare]; simp
  exact throw_ite_eq_ok.mpr ⟨noSlash, throw_ite_eq_ok.mpr ⟨by simp [short],
    throw_ite_eq_ok.mpr ⟨noDirectory, rfl⟩⟩⟩

theorem append_of_locate {old : ByteArray} (located : d.locate p = .ok l)
    (found : d.get? l = some (.file old)) (data : ByteArray) :
    d.append p data = .ok (d.put l (.file (old ++ data))) := by
  refine bind_eq_ok.mpr ⟨l, located, ?_⟩
  simp only [found]
  rfl

theorem rename_of_lands {old new : Path} {m : Location} {data : ByteArray}
    (lands : d.Lands old l) (found : d.get? l = some (.file data)) (lands' : d.Lands new m)
    (noDirectory : ¬ (d.erase l).isDirectory m) :
    d.rename old new = .ok ((d.erase l).put m (.file data)) := by
  obtain ⟨k, s, placed, bare, -, rfl⟩ := lands
  obtain ⟨k', t, placed', bare', short, rfl⟩ := lands'
  have erased : Alters (fun _ => True) d (d.erase (s :: k)) :=
    Alters.erase trivial (not_isDirectory_of_file found)
  rw [erased.isDirectory_eq] at noDirectory
  refine bind_eq_ok.mpr ⟨_, placed, bind_eq_ok.mpr ⟨_, placed', ?_⟩⟩
  simp only [found]
  have noSlash : ¬ (old.ending = .slash ∨ new.ending = .slash) := by simp [bare, bare']
  exact throw_ite_eq_ok.mpr ⟨by simp [short], throw_ite_eq_ok.mpr ⟨noSlash,
    throw_ite_eq_ok.mpr ⟨noDirectory, rfl⟩⟩⟩

theorem alters_of_fill {d₁ d₂ : Disk} {data : ByteArray} (created : d.create p = .ok d₁)
    (appended : d₁.append p data = .ok d₂) : Alters (fun _ => True) d d₂ := by
  obtain ⟨l, s, -, -, noDirectory, rfl⟩ := create_eq_ok created
  obtain ⟨m, old, -, found, rfl⟩ := append_eq_ok appended
  exact (Alters.put_file trivial noDirectory .empty).trans
    (Alters.put_file trivial (not_isDirectory_of_file found) (old ++ data))

theorem exists_filled (free : d.Free p) (data : ByteArray) : ∃ l d₁ d₂, d.create p = .ok d₁ ∧
    d₁.append p data = .ok d₂ ∧ Alters (· = l) d d₂ ∧ d₂.Lands p l ∧
      d₂.get? l = some (.file data) := by
  obtain ⟨l, lands, noDirectory⟩ := free
  have nonempty := ne_nil_of_not_isDirectory noDirectory
  have there := get?_put_self d (.file .empty) nonempty
  have first : Alters (· = l) d (d.put l (.file .empty)) :=
    Alters.put_file (by rfl) noDirectory .empty
  have located := locate_of_lands (first.lands.mpr lands) (by rw [there, Option.isSome_some])
  have created := create_of_lands lands noDirectory
  have appended := append_of_locate located there data
  have filled := first.trans (Alters.put_file (by rfl)
    (not_isDirectory_of_file there) (.empty ++ data))
  refine ⟨l, _, _, created, appended, filled, filled.lands.mpr lands, ?_⟩
  rw [get?_put_self _ _ nonempty, ByteArray.empty_append]

theorem exists_renamed {old new : Path} {data : ByteArray} (lands : d.Lands old l)
    (found : d.get? l = some (.file data)) (free : d.Free new) :
    ∃ d', d.rename old new = .ok d' := by
  obtain ⟨m, lands', noDirectory⟩ := free
  have erased : Alters (fun _ => True) d (d.erase l) :=
    Alters.erase trivial (not_isDirectory_of_file found)
  rw [← erased.isDirectory_eq] at noDirectory
  exact ⟨_, rename_of_lands lands found lands' noDirectory⟩

theorem alters_of_rename {old new : Path} (renamed : d.rename old new = .ok d') :
    Alters (fun _ => True) d d' := by
  obtain ⟨l, s, m, t, data, -, -, found, -, -, noDirectory, rfl⟩ := rename_eq_ok renamed
  have erased : Alters (fun _ => True) d (d.erase (s :: l)) :=
    Alters.erase trivial (not_isDirectory_of_file found)
  rw [← erased.isDirectory_eq] at noDirectory
  exact erased.trans (Alters.put_file trivial noDirectory data)

theorem free_of_create (bare : p.ending = .bare) (created : d.create p = .ok d') : d.Free p := by
  obtain ⟨l, s, placed, short, noDirectory, -⟩ := create_eq_ok created
  exact ⟨s :: l, ⟨l, s, placed, bare, short, rfl⟩, noDirectory⟩

theorem free_of_rename {old new : Path} (renamed : d.rename old new = .ok d') : d.Free new := by
  obtain ⟨-, -, m, t, data, -, placed, -, short, bare, noDirectory, -⟩ := rename_eq_ok renamed
  exact ⟨t :: m, ⟨m, t, placed, bare, short, rfl⟩, noDirectory⟩

theorem check_eq_ok : check p = .ok () ↔
    p.hasNul = false ∧ p.isEmpty = false ∧ p.text.utf8ByteSize < 4096 := by
  rw [check, bind_eq_ok]
  simp only [checkNames, checkLength, throw_ite_eq_ok, Bool.not_eq_true, Nat.not_le, pure_eq_ok,
    and_true]
  constructor
  · rintro ⟨_, ⟨noNul, nonempty⟩, short⟩
    exact ⟨noNul, nonempty, short⟩
  · rintro ⟨noNul, nonempty, short⟩
    exact ⟨(), ⟨noNul, nonempty⟩, short⟩

theorem utf8ByteSize_parent_le (p : Path) : p.parent.text.utf8ByteSize ≤ p.text.utf8ByteSize := by
  obtain ⟨start, steps, tail⟩ := p
  cases steps with
  | nil => simp [Path.parent, Path.text, Path.textOfSteps]
  | cons step above =>
    simp only [Path.parent, Path.text, Path.textOfSteps, List.tail_cons, String.utf8ByteSize_append,
      String.utf8ByteSize_empty]
    omega

theorem locate_parent {s : String} (placed : d.place p = .ok (l, some s))
    (nonempty : p.parent.isEmpty = false) : d.locate p.parent = .ok l := by
  obtain ⟨checked, -, above, parts, walked, -⟩ := place_eq_ok_some.mp placed
  obtain ⟨noNul, -, short⟩ := check_eq_ok.mp checked
  have parts' : p.parent.parts = above := by
    have tail : p.parent.parts = p.parts.tail := List.map_tail
    rw [tail, parts, List.tail_cons]
  have noNul' : p.parent.hasNul = false := by
    rw [Path.hasNul, parts, List.any_cons, Bool.or_eq_false_iff] at noNul
    rw [Path.hasNul, parts']
    exact noNul.2
  have fits := Nat.lt_of_le_of_lt (utf8ByteSize_parent_le p) short
  refine locate_eq_ok.mpr
    ⟨check_eq_ok.mpr ⟨noNul', nonempty, fits⟩, follow_eq_ok.mpr ⟨?_, .inl rfl⟩⟩
  rw [parts']
  exact walked

theorem changed_of_ok {r : Except DiskError Disk} (changed : r = .ok d') :
    d.changed r = (.ok (), d') := by
  rw [changed]
  rfl

theorem perform_sync (located : d.locate p = .ok l) : d.perform (.sync p) = (.ok (), d) := by
  simp only [perform, located]
  rfl

end Disk

namespace Plan

open Disk

variable {d d' : Disk} {p : Path} {name token : String}

def exchange (p temporary : Path) : Plan DiskError Unit := do
  match ← attempt (.rename temporary p) with
  | .ok () => if p.parent.isEmpty then pure () else perform (.sync p.parent)
  | .error e =>
    discard (attempt (.remove temporary))
    fail e

theorem putInPlace_eq (named : p.fileName? = some name) (data : ByteArray) (token : String) :
    putInPlace p data token = (do
      let temporary := p.withFileName (temporaryName name token)
      perform (.create temporary)
      perform (.append temporary data)
      perform (.sync temporary)
      exchange p temporary) := by
  rw [putInPlace, named]
  rfl

theorem run_putInPlace_of_free (named : p.fileName? = some name)
    (beside : d.Free (p.withFileName (temporaryName name token))) (data : ByteArray) :
    ∃ l d₁, Alters (· = l) d d₁ ∧ d₁.Lands (p.withFileName (temporaryName name token)) l ∧
      d₁.get? l = some (.file data) ∧ (putInPlace p data token).run d =
        (exchange p (p.withFileName (temporaryName name token))).run d₁ := by
  rw [putInPlace_eq named]
  generalize p.withFileName (temporaryName name token) = temporary at beside
  obtain ⟨l, d₁, d₂, created, appended, filled, lands, found⟩ := exists_filled beside data
  have located := locate_of_lands lands (by rw [found, Option.isSome_some])
  have first : (perform (.create temporary)).run d = (.ok (), d₁) := changed_of_ok created
  have second : (perform (.append temporary data)).run d₁ = (.ok (), d₂) := changed_of_ok appended
  have third : (perform (.sync temporary)).run d₂ = (.ok (), d₂) := perform_sync located
  refine ⟨l, d₂, filled, lands, found, ?_⟩
  exact (run_bind_of_ok first).trans ((run_bind_of_ok second).trans (run_bind_of_ok third))

theorem run_exchange_of_rename {temporary : Path} (renamed : d.rename temporary p = .ok d') :
    (exchange p temporary).run d = (.ok (), d') := by
  have attempted : (attempt (.rename temporary p) : Plan DiskError _).run d =
      (.ok (.ok ()), d') := by
    have done : d.perform (.rename temporary p) = (.ok (), d') := changed_of_ok renamed
    rw [run_attempt, done]
  refine (run_bind_of_ok attempted).trans ?_
  cases empty : p.parent.isEmpty with
  | true => rfl
  | false =>
    obtain ⟨l, ⟨m, s, placed, -⟩, -⟩ :=
      (alters_of_rename renamed).free.mpr (free_of_rename renamed)
    exact perform_sync (locate_parent placed empty)

theorem putInPlace_of_free (named : p.fileName? = some name)
    (beside : d.Free (p.withFileName (temporaryName name token))) (free : d.Free p)
    (data : ByteArray) : ((putInPlace p data token).run d).1 = .ok () := by
  obtain ⟨l, d₁, filled, lands, found, ran⟩ := run_putInPlace_of_free named beside data
  obtain ⟨d₂, renamed⟩ := exists_renamed lands found (filled.free.mpr free)
  rw [ran, run_exchange_of_rename renamed]

theorem free_of_putInPlace {data : ByteArray}
    (ran : ((putInPlace p data token).run d).1 = .ok ()) : d.Free p ∧ ∃ name,
      p.fileName? = some name ∧ d.Free (p.withFileName (temporaryName name token)) := by
  cases named : p.fileName? with
  | none =>
    rw [putInPlace, named] at ran
    cases ran
  | some name =>
    have ran' : (putInPlace p data token).run d = (.ok (), ((putInPlace p data token).run d).2) :=
      Prod.ext ran rfl
    simp only [putInPlace, named] at ran'
    obtain ⟨⟨⟩, d₁, created, ran'⟩ := run_bind_eq_ok ran'
    obtain ⟨⟨⟩, d₂, appended, ran'⟩ := run_bind_eq_ok ran'
    obtain ⟨u, d₃, synced, ran'⟩ := run_bind_eq_ok ran'
    obtain ⟨r, d₄, attempted, ran'⟩ := run_bind_eq_ok ran'
    have filled := alters_of_fill (changed_eq_ok created) (changed_eq_ok appended)
    obtain rfl : d₂ = d₃ := congrArg Prod.snd synced
    have beside : d.Free (p.withFileName (temporaryName name token)) :=
      free_of_create rfl (changed_eq_ok created)
    cases r with
    | error e => cases ran'
    | ok u =>
      have outcome := Except.ok.inj (congrArg Prod.fst attempted)
      have after := congrArg Prod.snd attempted
      have renamed := changed_eq_ok (Prod.ext outcome after)
      exact ⟨filled.free.mp (free_of_rename renamed), name, rfl, beside⟩

structure Writable (d : Disk) (p : Path) (token : String) : Prop where
  directories : ((makeDirectories p.start p.steps.tail).run d).1 = .ok ()
  free : (prepared d p).Free p
  beside : ∃ name, p.fileName? = some name ∧
    (prepared d p).Free (p.withFileName (temporaryName name token))

theorem writeFile_ok_iff (d : Disk) (p : Path) (data : ByteArray) (token : String) :
    ((writeFile p data token).run d).1 = .ok () ↔ Writable d p token := by
  rw [writeFile_eq]
  constructor
  · intro ran
    obtain ⟨⟨⟩, d₁, made, placed⟩ := run_bind_eq_ok (Prod.ext ran rfl)
    obtain rfl : prepared d p = d₁ := congrArg Prod.snd made
    obtain ⟨free, beside⟩ := free_of_putInPlace (congrArg Prod.fst placed)
    exact ⟨congrArg Prod.fst made, free, beside⟩
  · rintro ⟨directories, free, name, named, beside⟩
    have made : (makeDirectories p.start p.steps.tail).run d = (.ok (), prepared d p) :=
      Prod.ext directories rfl
    rw [run_bind_of_ok made]
    exact putInPlace_of_free named beside free data

end Plan

end MockData
