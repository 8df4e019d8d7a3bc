import MockData.Generation.Customers
import MockData.Proofs.Placing
import MockData.Proofs.Sparing

/-!
Runs that fail. Whatever the error is, the files are those from before, and an error that is not
one of the disk leaves no directory behind.
-/
namespace MockData

namespace Disk

/-- `d'` has the files of `d` and no others, and it has all its directories. -/
structure SameFiles (d d' : Disk) : Prop where
  file_iff : ∀ l data, d'.get? l = some (.file data) ↔ d.get? l = some (.file data)
  isDirectory : ∀ l, d.isDirectory l → d'.isDirectory l

namespace SameFiles

variable {d d' d'' : Disk}

theorem refl (d : Disk) : SameFiles d d := ⟨fun _ _ => Iff.rfl, fun _ inside => inside⟩

theorem trans (h : SameFiles d d') (h' : SameFiles d' d'') : SameFiles d d'' where
  file_iff l data := (h'.file_iff l data).trans (h.file_iff l data)
  isDirectory l inside := h'.isDirectory l (h.isDirectory l inside)

theorem of_get?_eq (same : ∀ l, d'.get? l = d.get? l) : SameFiles d d' where
  file_iff l data := by rw [same]
  isDirectory l inside := by rwa [Disk.isDirectory, same]

theorem makeDirectory {p : Path} (made : d.makeDirectory p = .ok d') : SameFiles d d' := by
  have grown := grown_of_makeDirectory made
  obtain ⟨l, s, absent, rfl⟩ := makeDirectory_eq_ok made
  constructor
  · intro m data
    by_cases same : m = s :: l
    · subst same
      rw [get?_put_self d _ (List.cons_ne_nil s l), absent]
      simp
    · rw [get?_put_of_ne d _ same]
  · intro m inside
    exact grown.isDirectory inside

end SameFiles

theorem remove_of_lands {d : Disk} {p : Path} {l : Location} {data : ByteArray}
    (lands : d.Lands p l) (found : d.get? l = some (.file data)) :
    d.remove p = .ok (d.erase l) := by
  have located := locate_of_lands lands (by rw [found, Option.isSome_some])
  exact bind_eq_ok.mpr ⟨l, located, throw_ite_eq_ok.mpr ⟨not_isDirectory_of_file found, rfl⟩⟩

theorem changed_of_error {d : Disk} {r : Except DiskError Disk} {e : DiskError}
    (refused : r = .error e) : d.changed r = (.error e, d) := by
  rw [refused]
  rfl

end Disk

namespace Plan

open Disk

variable {d d' : Disk} {p : Path} {name token : String} {data : ByteArray} {e : DiskError}

theorem sameFiles_perform (d : Disk) {a : Action} (adds : Adds a) :
    SameFiles d (d.perform a).2 := by
  cases a with
  | makeDirectory p =>
    exact changed_keeps (SameFiles d) (SameFiles.refl d) fun _ made => SameFiles.makeDirectory made
  | read p | probe p | isDirectory p | canonical p | sync p | elapsed => exact SameFiles.refl d
  | create p | append p data | rename old new | remove p => cases adds

theorem sameFiles_prepared (d : Disk) (p : Path) : SameFiles d (prepared d p) :=
  (only_adds p.start p.steps.tail).run_keeps (SameFiles d)
    (fun _ _ adds same => same.trans (sameFiles_perform _ adds)) (SameFiles.refl d)

def Untaken (d : Disk) (p : Path) (token : String) : Prop :=
  ∀ name l data, p.fileName? = some name →
    d.get? (temporaryName name token :: l) ≠ some (.file data)

theorem Untaken.of_sameFiles (untaken : Untaken d p token) (same : SameFiles d d') :
    Untaken d' p token := by
  intro name l data named found
  exact untaken name l data named ((same.file_iff _ _).mp found)

theorem Untaken.get?_of_lands {l : Location} (untaken : Untaken d p token)
    (named : p.fileName? = some name)
    (lands : d.Lands (p.withFileName (temporaryName name token)) l)
    (noDirectory : ¬ d.isDirectory l) : d.get? l = none := by
  obtain ⟨m, s, placed, -, -, rfl⟩ := lands
  obtain rfl : temporaryName name token = s := Option.some.inj (fileName?_of_place placed)
  cases found : d.get? (temporaryName name token :: m) with
  | none => rfl
  | some node =>
    cases node with
    | file data => exact absurd found (untaken name m data named)
    | directory => exact absurd (isDirectory_iff.mpr found) noDirectory

theorem run_putInPlace_of_error (named : p.fileName? = some name)
    (refused : d.create (p.withFileName (temporaryName name token)) = .error e)
    (data : ByteArray) : (putInPlace p data token).run d = (.error e, d) := by
  have first : (perform (.create (p.withFileName (temporaryName name token)))).run d =
      (.error e, d) := changed_of_error refused
  rw [putInPlace_eq named]
  exact run_bind_of_error first

theorem run_exchange_of_error {temporary : Path} {l : Location} (lands : d.Lands temporary l)
    (found : d.get? l = some (.file data)) (refused : d.rename temporary p = .error e) :
    (exchange p temporary).run d = (.error e, d.erase l) := by
  have attempted : (attempt (.rename temporary p) : Plan DiskError _).run d =
      (.ok (.error e), d) := by
    have done : d.perform (.rename temporary p) = (.error e, d) := changed_of_error refused
    rw [run_attempt, done]
  have removed : (attempt (.remove temporary) : Plan DiskError _).run d =
      (.ok (.ok ()), d.erase l) := by
    have done : d.perform (.remove temporary) = (.ok (), d.erase l) :=
      changed_of_ok (remove_of_lands lands found)
    rw [run_attempt, done]
  exact (run_bind_of_ok attempted).trans (run_bind_of_ok (run_bind_of_ok removed))

theorem get?_of_putInPlace_error (untaken : Untaken d p token)
    (ran : (putInPlace p data token).run d = (.error e, d')) : ∀ l, d'.get? l = d.get? l := by
  cases named : p.fileName? with
  | none =>
    rw [putInPlace, named] at ran
    cases ran
    exact fun _ => rfl
  | some name =>
    cases created : d.create (p.withFileName (temporaryName name token)) with
    | error e₁ =>
      -- There is no temporary file yet.
      rw [run_putInPlace_of_error named created] at ran
      cases ran
      exact fun _ => rfl
    | ok d₀ =>
      obtain ⟨l, d₁, filled, lands, found, exchanged⟩ :=
        run_putInPlace_of_free named (free_of_create rfl created) data
      rw [exchanged] at ran
      cases renamed : d₁.rename (p.withFileName (temporaryName name token)) p with
      | ok d₂ =>
        rw [run_exchange_of_rename renamed] at ran
        cases ran
      | error e₁ =>
        -- The temporary file is removed again, and there was nothing in its place before.
        rw [run_exchange_of_error lands found renamed] at ran
        cases ran
        have noDirectory := not_isDirectory_of_file found
        rw [filled.isDirectory_eq] at noDirectory
        have absent := untaken.get?_of_lands named (filled.lands.mp lands) noDirectory
        intro m
        by_cases same : m = l
        · subst same
          rw [get?_erase_self d₁ (ne_nil_of_not_isDirectory noDirectory), absent]
        · rw [get?_erase_of_ne d₁ same, filled.get?_eq m same]

theorem sameFiles_of_writeFile_error (untaken : Untaken d p token)
    (ran : (writeFile p data token).run d = (.error e, d')) : SameFiles d d' := by
  have same := sameFiles_prepared d p
  rw [writeFile_eq] at ran
  rcases run_bind_eq_error ran with refused | ⟨⟨⟩, d₁, made, placed⟩
  · obtain rfl : prepared d p = d' := congrArg Prod.snd refused
    exact same
  · obtain rfl : prepared d p = d₁ := congrArg Prod.snd made
    exact same.trans (.of_get?_eq (get?_of_putInPlace_error (untaken.of_sameFiles same) placed))

end Plan

namespace Generation

open Disk Plan

/-- What a run that ends with an error may have done to the disk. -/
structure Harmless (e : GenerationError) (d d' : Disk) : Prop where
  sameFiles : SameFiles d d'
  eq_of_early : (∀ cause, e ≠ .disk cause) → d' = d

variable {d d' : Disk} {e : GenerationError}

theorem Harmless.refl (e : GenerationError) (d : Disk) : Harmless e d d :=
  ⟨SameFiles.refl d, fun _ => rfl⟩

theorem harmless_of_writeModule {path text token : String}
    (untaken : Untaken d (.ofText path) token)
    (ran : (writeModule path text token).run d = (.error e, d')) : Harmless e d d' := by
  rcases run_bind_eq_error ran with wrote | ⟨⟨⟩, d₁, -, last⟩
  · obtain ⟨cause, rfl, failed⟩ := run_mapError_eq_error wrote
    exact ⟨sameFiles_of_writeFile_error untaken failed, fun early => absurd rfl (early cause)⟩
  · cases last

theorem harmless_of_written {path text token : String} {σ : Type}
    {finish : UInt64 → UInt64 → Run σ} (untaken : Untaken d (.ofText path) token)
    (ran : Plan.run d (do
      let bytes ← writeModule path text token
      let duration ← elapsed
      pure (finish bytes duration)) = (.error e, d')) : Harmless e d d' := by
  rcases run_bind_eq_error ran with wrote | ⟨bytes, d₁, -, last⟩
  · exact harmless_of_writeModule untaken wrote
  · cases last

theorem harmless_of_generateCustomers {stamp : Stamp} {output : String}
    {customers : List Customer} (untaken : Untaken d (.ofText output) stamp.moduleToken)
    (ran : (generateCustomers stamp output customers).run d = (.error e, d')) :
    Harmless e d d' := by
  rcases run_bind_eq_error ran with refused | ⟨issues, d₁, valid, wrote⟩
  · obtain rfl : d = d' := congrArg Prod.snd refused
    exact Harmless.refl e d
  · have looks : (mapError GenerationError.dataset
        (ofExcept (Customer.validate customers))).Only (·.isQuery) := Only.mapError trivial
    have kept := looks.run_of_isQuery d
    rw [valid] at kept
    obtain rfl : d₁ = d := kept
    exact harmless_of_written untaken wrote

theorem harmless_of_transformSavingBooks {stamp : Stamp} {options : SavingBookOptions}
    (untaken : Untaken d (.ofText options.output) stamp.moduleToken)
    (ran : (transformSavingBooks stamp options).run d = (.error e, d')) : Harmless e d d' := by
  rcases refused_or_writes stamp options d with ⟨-, kept⟩ | ⟨text, directory, writes⟩
  · rw [ran] at kept
    obtain rfl : d' = d := kept
    exact Harmless.refl e d'
  · rw [run_of_writes stamp writes] at ran
    exact harmless_of_written untaken ran

theorem harmless_of_error (stamp : Stamp) (d d' : Disk) (e : GenerationError) :
    (∀ output customers, Untaken d (.ofText output) stamp.moduleToken →
      (generateCustomers stamp output customers).run d = (.error e, d') → Harmless e d d') ∧
    ∀ options : SavingBookOptions, Untaken d (.ofText options.output) stamp.moduleToken →
      (transformSavingBooks stamp options).run d = (.error e, d') → Harmless e d d' := by
  constructor
  · intro output customers untaken ran
    exact harmless_of_generateCustomers untaken ran
  · intro options untaken ran
    exact harmless_of_transformSavingBooks untaken ran

def blockedDisk : Disk :=
  ⟨[(["savingBooks.js"], .file "[]".toUTF8), (["out"], .directory)], []⟩

/-- The directory is found only after another one has been made on the way to it. -/
def blocked : SavingBookOptions := { output := "new/../out" }

theorem untaken_blocked : Untaken blockedDisk (.ofText blocked.output) sampleStamp.moduleToken := by
  intro name l data named
  have last : (Path.ofText blocked.output).fileName? = some "out" := by decide +kernel
  obtain rfl : "out" = name := Option.some.inj (last.symm.trans named)
  have other : temporaryName "out" sampleStamp.moduleToken ≠ "savingBooks.js" ∧
      temporaryName "out" sampleStamp.moduleToken ≠ "out" := by decide +kernel
  simp [Disk.get?, blockedDisk, other.1.symm, other.2.symm]

theorem exists_error_of_isOk_eq_false {ε α : Type} {r : Except ε α × Disk}
    (failed : r.1.isOk = false) : ∃ e, r = (.error e, r.2) := by
  obtain ⟨outcome, d⟩ := r
  cases outcome with
  | ok a => cases failed
  | error e => exact ⟨e, rfl⟩

theorem harmless_of_error_blocked :
    (∃ e d', (generateCustomers sampleStamp blocked.output Customer.builtin).run blockedDisk =
      (.error e, d') ∧ d'.isDirectory ["new"] ∧ Harmless e blockedDisk d') ∧
    (∃ e d', (transformSavingBooks sampleStamp blocked).run blockedDisk = (.error e, d') ∧
      d'.isDirectory ["new"] ∧ Harmless e blockedDisk d') := by
  constructor
  · have outcome : ((generateCustomers sampleStamp blocked.output Customer.builtin).run
        blockedDisk).1.isOk = false ∧ ((generateCustomers sampleStamp blocked.output
          Customer.builtin).run blockedDisk).2.isDirectory ["new"] := by decide +kernel
    obtain ⟨e, ran⟩ := exists_error_of_isOk_eq_false outcome.1
    exact ⟨e, _, ran, outcome.2, (harmless_of_error _ _ _ e).1 _ _ untaken_blocked ran⟩
  · have outcome : ((transformSavingBooks sampleStamp blocked).run blockedDisk).1.isOk = false ∧
        ((transformSavingBooks sampleStamp blocked).run blockedDisk).2.isDirectory ["new"] := by
      decide +kernel
    obtain ⟨e, ran⟩ := exists_error_of_isOk_eq_false outcome.1
    exact ⟨e, _, ran, outcome.2, (harmless_of_error _ _ _ e).2 _ untaken_blocked ran⟩

end Generation

end MockData
