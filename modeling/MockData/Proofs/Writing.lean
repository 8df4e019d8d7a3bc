import MockData.Disk.Write
import MockData.Proofs.Paths
import MockData.Proofs.Plans

/-!
Writing files whole. Directories are only added, what is put in place of the destination is all of
the data, and no other file is changed.
-/
namespace MockData

namespace Disk

variable {d d' : Disk} {p : Path}

theorem makeDirectory_eq_ok (made : d.makeDirectory p = .ok d') :
    ∃ l s, d.get? (s :: l) = none ∧ d' = d.put (s :: l) .directory := by
  obtain ⟨⟨l, name⟩, -, made⟩ := bind_eq_ok.mp made
  cases name with
  | none => cases made
  | some s =>
    obtain ⟨-, made⟩ := throw_ite_eq_ok.mp made
    obtain ⟨absent, made⟩ := throw_ite_eq_ok.mp made
    exact ⟨l, s, by simpa using absent, (pure_eq_ok.mp made).symm⟩

theorem grown_of_makeDirectory (made : d.makeDirectory p = .ok d') : Grown d d' := by
  obtain ⟨l, s, absent, rfl⟩ := makeDirectory_eq_ok made
  exact Grown.put absent _

theorem create_eq_ok (created : d.create p = .ok d') : ∃ l s, d.place p = .ok (l, some s) ∧
    isTooLong s = false ∧ ¬ d.isDirectory (s :: l) ∧ d' = d.put (s :: l) (.file .empty) := by
  obtain ⟨⟨l, name⟩, placed, created⟩ := bind_eq_ok.mp created
  cases name with
  | none => cases created
  | some s =>
    obtain ⟨-, created⟩ := throw_ite_eq_ok.mp created
    obtain ⟨short, created⟩ := throw_ite_eq_ok.mp created
    obtain ⟨noDirectory, created⟩ := throw_ite_eq_ok.mp created
    exact ⟨l, s, placed, by simpa using short, noDirectory, (pure_eq_ok.mp created).symm⟩

theorem append_eq_ok {data : ByteArray} (appended : d.append p data = .ok d') :
    ∃ l old, d.locate p = .ok l ∧ d.get? l = some (.file old) ∧
      d' = d.put l (.file (old ++ data)) := by
  obtain ⟨l, located, appended⟩ := bind_eq_ok.mp appended
  split at appended
  · rename_i old found
    exact ⟨l, old, located, found, (pure_eq_ok.mp appended).symm⟩
  · cases appended

theorem remove_eq_ok (removed : d.remove p = .ok d') :
    ∃ l, d.locate p = .ok l ∧ ¬ d.isDirectory l ∧ d' = d.erase l := by
  obtain ⟨l, located, removed⟩ := bind_eq_ok.mp removed
  obtain ⟨noDirectory, removed⟩ := throw_ite_eq_ok.mp removed
  exact ⟨l, located, noDirectory, (pure_eq_ok.mp removed).symm⟩

theorem rename_eq_ok {old new : Path} (renamed : d.rename old new = .ok d') :
    ∃ l s m t data, d.place old = .ok (l, some s) ∧ d.place new = .ok (m, some t) ∧
      d.get? (s :: l) = some (.file data) ∧ isTooLong t = false ∧ new.ending = .bare ∧
      ¬ d.isDirectory (t :: m) ∧ d' = (d.erase (s :: l)).put (t :: m) (.file data) := by
  obtain ⟨⟨l, oldName⟩, oldPlaced, renamed⟩ := bind_eq_ok.mp renamed
  obtain ⟨⟨m, newName⟩, newPlaced, renamed⟩ := bind_eq_ok.mp renamed
  match oldName, newName with
  | none, _ => cases renamed
  | some s, none => cases renamed
  | some s, some t =>
    simp only at renamed
    split at renamed
    · cases renamed
    · cases renamed
    · rename_i data found
      obtain ⟨short, renamed⟩ := throw_ite_eq_ok.mp renamed
      obtain ⟨noSlash, renamed⟩ := throw_ite_eq_ok.mp renamed
      obtain ⟨noDirectory, renamed⟩ := throw_ite_eq_ok.mp renamed
      have noDot := (place_eq_ok_some.mp newPlaced).2.1
      have bare : new.ending = .bare := by
        cases ending : new.ending with
        | bare => rfl
        | slash => exact absurd (.inr ending) noSlash
        | dot => exact absurd ending noDot
      exact ⟨l, s, m, t, data, oldPlaced, newPlaced, found, by simpa using short, bare, noDirectory,
        (pure_eq_ok.mp renamed).symm⟩

theorem Alters.of_create (created : d.create p = .ok d') :
    Alters (·.head? = p.fileName?) d d' := by
  obtain ⟨l, s, placed, -, noDirectory, rfl⟩ := create_eq_ok created
  exact Alters.put_file (fileName?_of_place placed).symm noDirectory _

theorem Alters.of_append {name : String} {data : ByteArray} (named : p.fileName? = some name)
    (appended : d.append p data = .ok d') : Alters (·.head? = p.fileName?) d d' := by
  obtain ⟨l, old, located, found, rfl⟩ := append_eq_ok appended
  have isTouched : l.head? = p.fileName? := by rw [head?_of_locate named located, named]
  exact Alters.put_file isTouched (not_isDirectory_of_file found) _

theorem Alters.of_remove {name : String} (named : p.fileName? = some name)
    (removed : d.remove p = .ok d') : Alters (·.head? = p.fileName?) d d' := by
  obtain ⟨l, located, noDirectory, rfl⟩ := remove_eq_ok removed
  have isTouched : l.head? = p.fileName? := by rw [head?_of_locate named located, named]
  exact Alters.erase isTouched noDirectory

theorem changed_keeps (kept : Disk → Prop) {r : Except DiskError Disk} (start : kept d)
    (step : ∀ d', r = .ok d' → kept d') : kept (d.changed r).2 := by
  cases r with
  | ok d' => exact step d' rfl
  | error e => exact start

theorem changed_eq_ok {r : Except DiskError Disk} {u : Unit} (ran : d.changed r = (.ok u, d')) :
    r = .ok d' := by
  cases r with
  | ok d₁ => simpa [changed] using ran
  | error e => simp [changed] at ran

def Lands (d : Disk) (p : Path) (l : Location) : Prop :=
  ∃ m s, d.place p = .ok (m, some s) ∧ p.ending = .bare ∧ isTooLong s = false ∧ l = s :: m

theorem locate_of_lands {l : Location} (lands : d.Lands p l) (there : (d.get? l).isSome) :
    d.locate p = .ok l := by
  obtain ⟨m, s, placed, bare, short, rfl⟩ := lands
  exact locate_of_place placed bare short there

theorem place_of_create_append {d₁ d₂ : Disk} {data : ByteArray} (bare : p.ending = .bare)
    (created : d.create p = .ok d₁) (appended : d₁.append p data = .ok d₂) :
    ∃ l s, d₂.place p = .ok (l, some s) ∧ d₂.get? (s :: l) = some (.file data) := by
  obtain ⟨l, s, placed, short, noDirectory, rfl⟩ := create_eq_ok created
  obtain ⟨m, old, located, found, rfl⟩ := append_eq_ok appended
  have there := get?_put_self d (.file .empty) (List.cons_ne_nil s l)
  have first : Alters (fun _ => True) d (d.put (s :: l) (.file .empty)) :=
    Alters.put_file trivial noDirectory .empty
  have placed₁ := first.place.mpr placed
  have here := locate_of_place placed₁ bare short (by rw [there, Option.isSome_some])
  obtain rfl : s :: l = m := Except.ok.inj (here.symm.trans located)
  obtain rfl : ByteArray.empty = old := Node.file.inj (Option.some.inj (there.symm.trans found))
  have second : Alters (fun _ => True) _ (Disk.put _ (s :: l) (.file (.empty ++ data))) :=
    Alters.put_file trivial (not_isDirectory_of_file there) (.empty ++ data)
  refine ⟨l, s, second.place.mpr placed₁, ?_⟩
  rw [get?_put_self _ _ (List.cons_ne_nil s l), ByteArray.empty_append]

theorem read_of_rename {old new : Path} {l : Location} {s : String} {data : ByteArray}
    (placed : d.place old = .ok (l, some s)) (found : d.get? (s :: l) = some (.file data))
    (renamed : d.rename old new = .ok d') : d'.read new = .ok data := by
  obtain ⟨l', s', m, t, data', oldPlaced, newPlaced, found', short, bare, noDirectory, rfl⟩ :=
    rename_eq_ok renamed
  obtain ⟨rfl, rfl⟩ : l = l' ∧ s = s' := by simpa using Except.ok.inj (placed.symm.trans oldPlaced)
  obtain rfl : data = data' := Node.file.inj (Option.some.inj (found.symm.trans found'))
  have erased : Alters (fun _ => True) d (d.erase (s :: l)) :=
    Alters.erase trivial (not_isDirectory_of_file found)
  rw [← erased.isDirectory_eq] at noDirectory
  have written := erased.trans (Alters.put_file trivial noDirectory data)
  have there := get?_put_self (d.erase (s :: l)) (.file data) (List.cons_ne_nil t m)
  have lands := locate_of_place (written.place.mpr newPlaced) bare short
    (by rw [there, Option.isSome_some])
  exact read_eq_ok.mpr ⟨_, lands, there⟩

end Disk

namespace Plan

open Disk

theorem only_makeDirectoryHere {allowed : Action → Prop} (make : ∀ q, allowed (.makeDirectory q))
    (look : ∀ q, allowed (.isDirectory q)) (p : Path) : (makeDirectoryHere p).Only allowed := by
  refine Only.bind (Only.attempt (make p)) fun r => ?_
  cases r with
  | ok u => exact trivial
  | error e =>
    refine Only.bind (Only.attempt (look p)) fun r => ?_
    match r with
    | .ok true => exact trivial
    | .ok false => exact trivial
    | .error e => exact trivial

theorem only_makeDirectories {allowed : Action → Prop} (make : ∀ q, allowed (.makeDirectory q))
    (look : ∀ q, allowed (.isDirectory q)) (start : PathStart) (steps : List PathStep) :
    (makeDirectories start steps).Only allowed := by
  induction steps with
  | nil =>
    rw [makeDirectories]
    split
    · exact trivial
    · exact only_makeDirectoryHere make look _
  | cons step above ih =>
    refine Only.bind (Only.attempt (make _)) fun r => ?_
    match r with
    | .ok () => exact trivial
    | .error .notFound => exact ih.bind fun _ => only_makeDirectoryHere make look _
    | .error .taken | .error .notDirectory | .error .isDirectory | .error .busy
    | .error .nameTooLong | .error .nulInPath | .error .noFileName | .error .notText
    | .error (.other _) =>
      refine Only.bind (Only.attempt (look _)) fun r => ?_
      match r with
      | .ok true => exact trivial
      | .ok false => exact trivial
      | .error e => exact trivial

def Adds : Action → Prop
  | .makeDirectory _ => True
  | a => a.isQuery

theorem only_adds (start : PathStart) (steps : List PathStep) :
    (makeDirectories start steps).Only Adds :=
  only_makeDirectories (fun _ => trivial) (fun _ => rfl) start steps

theorem grown_perform (d : Disk) {a : Action} (adds : Adds a) : Grown d (d.perform a).2 := by
  cases a with
  | makeDirectory p =>
    exact changed_keeps (Grown d) (Grown.refl d) fun _ made => grown_of_makeDirectory made
  | read p | probe p | isDirectory p | canonical p | sync p | elapsed => exact Grown.refl d
  | create p | append p data | rename old new | remove p => cases adds

theorem grown_makeDirectories (d : Disk) (start : PathStart) (steps : List PathStep) :
    Grown d ((makeDirectories start steps).run d).2 :=
  (only_adds start steps).run_keeps (Grown d)
    (fun _ _ adds grown => grown.trans (grown_perform _ adds)) (Grown.refl d)

def prepared (d : Disk) (p : Path) : Disk := ((makeDirectories p.start p.steps.tail).run d).2

theorem grown_prepared (d : Disk) (p : Path) : Grown d (prepared d p) :=
  grown_makeDirectories d p.start p.steps.tail

def putInPlace (p : Path) (data : ByteArray) (token : String) : Plan DiskError Unit :=
  match p.fileName? with
  | none => fail .noFileName
  | some name => do
    let temporary := p.withFileName (temporaryName name token)
    perform (.create temporary)
    perform (.append temporary data)
    perform (.sync temporary)
    match ← attempt (.rename temporary p) with
    | .ok () => if p.parent.isEmpty then pure () else perform (.sync p.parent)
    | .error e =>
      discard (attempt (.remove temporary))
      fail e

theorem writeFile_eq (p : Path) (data : ByteArray) (token : String) :
    writeFile p data token =
      makeDirectories p.start p.steps.tail >>= fun _ => putInPlace p data token := rfl

/-- Actions that make the file `temporary`, fill it, delete it, or have it take the name of `p`. -/
def Replaces (temporary p : Path) : Action → Prop
  | .create q | .append q _ | .remove q => q = temporary
  | .rename q r => q = temporary ∧ r = p
  | a => a.isQuery

theorem only_putInPlace {p : Path} {name : String} (named : p.fileName? = some name)
    (data : ByteArray) (token : String) : (putInPlace p data token).Only
      (Replaces (p.withFileName (temporaryName name token)) p) := by
  simp only [putInPlace, named]
  refine Only.bind (Only.perform rfl) fun _ => ?_
  refine Only.bind (Only.perform rfl) fun _ => ?_
  refine Only.bind (Only.perform (a := .sync _) rfl) fun _ => ?_
  refine Only.bind (Only.attempt ⟨rfl, rfl⟩) fun r => ?_
  cases r with
  | ok u =>
    cases p.parent.isEmpty with
    | true => exact trivial
    | false => exact Only.perform (a := .sync _) rfl
  | error e => exact ⟨rfl, fun _ => trivial⟩

def Touches (d : Disk) (temporary p : Path) (l : Location) : Prop :=
  l.head? = temporary.fileName? ∨ d.Lands p l

theorem alters_perform {d d₁ : Disk} {temporary p : Path} {name : String}
    (named : temporary.fileName? = some name) {a : Action} (replaces : Replaces temporary p a)
    (alters : Alters (Touches d temporary p) d d₁) :
    Alters (Touches d temporary p) d (d₁.perform a).2 := by
  cases a with
  | read q | probe q | isDirectory q | canonical q | sync q | elapsed => exact alters
  | makeDirectory q => cases replaces
  | create q =>
    obtain rfl : q = temporary := replaces
    exact changed_keeps (Alters _ d) alters fun d₂ created =>
      alters.trans ((Alters.of_create created).mono fun _ => .inl)
  | append q data =>
    obtain rfl : q = temporary := replaces
    exact changed_keeps (Alters _ d) alters fun d₂ appended =>
      alters.trans ((Alters.of_append named appended).mono fun _ => .inl)
  | remove q =>
    obtain rfl : q = temporary := replaces
    exact changed_keeps (Alters _ d) alters fun d₂ removed =>
      alters.trans ((Alters.of_remove named removed).mono fun _ => .inl)
  | rename q r =>
    obtain ⟨rfl, rfl⟩ := replaces
    refine changed_keeps (Alters _ d) alters fun d₂ renamed => alters.trans ?_
    obtain ⟨l, s, m, t, data, oldPlaced, newPlaced, found, short, bare, noDirectory, rfl⟩ :=
      rename_eq_ok renamed
    -- The old name goes first, but only directories lead to the new one, and they all stay.
    have isTouched : Touches d q r (s :: l) := .inl (fileName?_of_place oldPlaced).symm
    have erased := Alters.erase isTouched (not_isDirectory_of_file found)
    have lands : d.Lands r (t :: m) := ⟨m, t, alters.place.mp newPlaced, bare, short, rfl⟩
    refine erased.trans (Alters.put_file (.inr lands) ?_ data)
    rwa [erased.isDirectory_eq]

theorem alters_putInPlace (d : Disk) {p : Path} {name : String} (named : p.fileName? = some name)
    (data : ByteArray) (token : String) :
    Alters (Touches d (p.withFileName (temporaryName name token)) p) d
      ((putInPlace p data token).run d).2 :=
  (only_putInPlace named data token).run_keeps (Alters _ d)
    (fun _ _ replaces alters => alters_perform rfl replaces alters) (Alters.refl d)

theorem read_of_putInPlace {d d' : Disk} {p : Path} {data : ByteArray} {token : String}
    (ran : (putInPlace p data token).run d = (.ok (), d')) : d'.read p = .ok data := by
  cases named : p.fileName? with
  | none =>
    rw [putInPlace, named] at ran
    cases ran
  | some name =>
    simp only [putInPlace, named] at ran
    obtain ⟨⟨⟩, d₁, created, ran⟩ := run_bind_eq_ok ran
    obtain ⟨⟨⟩, d₂, appended, ran⟩ := run_bind_eq_ok ran
    obtain ⟨u, d₃, synced, ran⟩ := run_bind_eq_ok ran
    obtain ⟨r, d₄, attempted, ran⟩ := run_bind_eq_ok ran
    obtain ⟨l, s, placed, found⟩ :=
      place_of_create_append rfl (changed_eq_ok created) (changed_eq_ok appended)
    obtain rfl : d₂ = d₃ := congrArg Prod.snd synced
    cases r with
    | error e => cases ran
    | ok u =>
      have outcome := Except.ok.inj (congrArg Prod.fst attempted)
      have after := congrArg Prod.snd attempted
      have renamed := changed_eq_ok (Prod.ext outcome after)
      have looks : Only (·.isQuery) (if p.parent.isEmpty then pure () else
          perform (.sync p.parent) : Plan DiskError Unit) := by
        cases p.parent.isEmpty with
        | true => exact trivial
        | false => exact Only.perform (a := .sync _) rfl
      have kept : d₄ = d' := (looks.run_of_isQuery d₄).symm.trans (congrArg Prod.snd ran)
      exact kept ▸ read_of_rename placed found renamed

/-- Writing a file makes directories, and then it changes nothing but the file, if it has a name,
and those of the temporary name beside it. -/
theorem writeFile_disk (d : Disk) (p : Path) (data : ByteArray) (token : String) :
    ((writeFile p data token).run d).2 = prepared d p ∨
    ∃ name, p.fileName? = some name ∧
      Alters (Touches (prepared d p) (p.withFileName (temporaryName name token)) p)
        (prepared d p) ((writeFile p data token).run d).2 := by
  rw [writeFile_eq]
  cases made : (makeDirectories p.start p.steps.tail).run d with
  | mk r d₁ =>
    have there : prepared d p = d₁ := congrArg Prod.snd made
    rw [there]
    cases r with
    | error e => exact .inl (by rw [run_bind_of_error made])
    | ok u =>
      rw [run_bind_of_ok made]
      cases named : p.fileName? with
      | none => exact .inl (by rw [putInPlace, named, run_fail])
      | some name => exact .inr ⟨name, rfl, alters_putInPlace d₁ named data token⟩

theorem read_of_writeFile {d d' : Disk} {p : Path} {data : ByteArray} {token : String}
    (ran : (writeFile p data token).run d = (.ok (), d')) : d'.read p = .ok data := by
  rw [writeFile_eq] at ran
  obtain ⟨u, d₁, -, placed⟩ := run_bind_eq_ok ran
  exact read_of_putInPlace placed

end Plan

end MockData
