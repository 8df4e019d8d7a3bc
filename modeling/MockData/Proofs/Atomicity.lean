import MockData.Proofs.Failing
import MockData.Proofs.Faults
import MockData.Proofs.Overwriting

/-!
Writing a file on a disk that fails. Whichever steps fail, the file is the one from before or has
all of the data, and the other files are as they were.
-/
namespace MockData

namespace Disk

variable {d d' : Disk} {l : Location} {data : ByteArray}

def file? (d : Disk) (l : Location) : Option ByteArray :=
  match d.get? l with
  | some (.file data) => some data
  | _ => none

theorem file?_eq_some_iff : d.file? l = some data ↔ d.get? l = some (.file data) := by
  rw [file?]
  split
  · rename_i data' found
    simp [found]
  · rename_i other
    exact ⟨fun same => (nomatch same), fun found => absurd found (other data)⟩

theorem file?_of_get?_eq (same : d'.get? l = d.get? l) : d'.file? l = d.file? l := by
  rw [file?, same, ← file?]

theorem SameFiles.file?_eq (same : SameFiles d d') (l : Location) : d'.file? l = d.file? l := by
  ext data
  rw [file?_eq_some_iff, file?_eq_some_iff]
  exact same.file_iff l data

end Disk

namespace Plan

open Disk

/-- A write that came to this end: where the path leads now there is the file from before, or none
as before, or a file of all the data, and this last if the write succeeds; and the file that the
path led to before, and those that it does not lead to now, are still there. -/
structure Atomic (p : Path) (data : ByteArray) (d d' : Disk) (r : Except DiskError Unit) :
    Prop where
  destination : ∀ l, d'.locate p = .ok l → d'.file? l = d.file? l ∨ d'.file? l = some data
  previous : ∀ old, d.read p = .ok old → d'.read p = .ok old ∨ d'.read p = .ok data
  complete : r = .ok () → d'.read p = .ok data
  others : ∀ l old, d.file? l = some old → d'.locate p ≠ .ok l → d'.file? l = some old

def Filled (d : Disk) (temporary : Path) (data : ByteArray) (d' : Disk) : Prop :=
  ∃ d₁, d.create temporary = .ok d₁ ∧ d₁.append temporary data = .ok d'

/-- How putting a file in place may end, told by the step that it comes to. -/
inductive Delivery (p temporary : Path) (data : ByteArray) (d d' : Disk) :
    List (Action × DiskError) → Except DiskError Unit → Prop
  | unopened {faults : List (Action × DiskError)} {e : DiskError}
      (stops : Stops d (.create temporary) faults e d') :
      Delivery p temporary data d d' faults (.error e)
  | unfilled {d₁ : Disk} {faults : List (Action × DiskError)} {e : DiskError}
      (created : d.create temporary = .ok d₁)
      (stops : Stops d₁ (.append temporary data) faults e d') :
      Delivery p temporary data d d' faults (.error e)
  | unsettled {d₁ : Disk} {faults : List (Action × DiskError)} {e : DiskError}
      (filled : Filled d temporary data d₁) (stops : Stops d₁ (.sync temporary) faults e d') :
      Delivery p temporary data d d' faults (.error e)
  | removed {d₁ d₂ : Disk} {faults : List (Action × DiskError)} {e : DiskError}
      (filled : Filled d temporary data d₁) (stops : Stops d₁ (.rename temporary p) faults e d₂)
      (removed : d₂.remove temporary = .ok d') : Delivery p temporary data d d' faults (.error e)
  | unremoved {d₁ d₂ : Disk} {fs gs : List (Action × DiskError)} {e e' : DiskError}
      (filled : Filled d temporary data d₁) (stops : Stops d₁ (.rename temporary p) fs e d₂)
      (stops' : Stops d₂ (.remove temporary) gs e' d') :
      Delivery p temporary data d d' (fs ++ gs) (.error e)
  | renamed {d₁ : Disk} {faults : List (Action × DiskError)} {r : Except DiskError Unit}
      (filled : Filled d temporary data d₁) (renamed : d₁.rename temporary p = .ok d')
      (late : ∀ fault ∈ faults, fault.1 = .sync p.parent) :
      Delivery p temporary data d d' faults r

variable {p temporary : Path} {name token : String} {data : ByteArray} {d d₁ d' : Disk}
  {faults : List (Action × DiskError)} {r : Except DiskError Unit}

theorem eq_of_fares_sync {q : Path} {r : Except DiskError Unit}
    (fares : Fares faults (perform (.sync q)) d r d') :
    d' = d ∧ ∀ fault ∈ faults, fault.1 = .sync q := by
  rcases fares.of_perform with ⟨x, rfl, looked⟩ | ⟨e, ⟨-⟩ | ⟨⟨⟩⟩⟩
  · exact ⟨(congrArg Prod.snd looked).symm, by simp⟩
  · exact ⟨rfl, by simp⟩
  · exact ⟨rfl, by simp⟩

theorem delivery_of_exchange (filled : Filled d temporary data d₁)
    (fares : Fares faults (exchange p temporary) d₁ r d') :
    Delivery p temporary data d d' faults r := by
  rcases fares.of_attempt_bind with ⟨⟨⟩, d₂, ran, last⟩ | ⟨e, fs, gs, d₂, rfl, stops, last⟩
  · have renamed := changed_eq_ok ran
    by_cases empty : p.parent.isEmpty
    · simp only [empty, ↓reduceIte] at last
      obtain ⟨rfl, -, rfl⟩ := Fares.of_done last
      exact .renamed filled renamed (by simp)
    · simp only [empty, Bool.false_eq_true, ↓reduceIte] at last
      obtain ⟨rfl, late⟩ := eq_of_fares_sync last
      exact .renamed filled renamed late
  · have removal : Fares gs (.act (.remove temporary) fun _ => .done (.error e)) d₂ r d' := last
    rcases removal.of_act with ⟨⟨⟩, d₃, ran, ended⟩ | ⟨e', hs, is, d₃, rfl, stops', ended⟩
    · obtain ⟨rfl, rfl, rfl⟩ := Fares.of_done ended
      rw [List.append_nil]
      exact .removed filled stops (changed_eq_ok ran)
    · obtain ⟨rfl, rfl, rfl⟩ := Fares.of_done ended
      rw [List.append_nil]
      exact .unremoved filled stops stops'

theorem delivery_of_putInPlace (named : p.fileName? = some name)
    (fares : Fares faults (putInPlace p data token) d r d') :
    Delivery p (p.withFileName (temporaryName name token)) data d d' faults r := by
  rw [putInPlace_eq named] at fares
  rcases fares.of_perform_bind with ⟨⟨⟩, d₁, created, fares⟩ | ⟨e, rfl, stops⟩
  · rcases fares.of_perform_bind with ⟨⟨⟩, d₂, appended, fares⟩ | ⟨e, rfl, stops⟩
    · have filled : Filled d _ data d₂ := ⟨d₁, changed_eq_ok created, changed_eq_ok appended⟩
      rcases fares.of_perform_bind with ⟨x, d₃, settled, fares⟩ | ⟨e, rfl, stops⟩
      · obtain rfl : d₂ = d₃ := congrArg Prod.snd settled
        exact delivery_of_exchange filled fares
      · exact .unsettled filled stops
    · exact .unfilled (changed_eq_ok created) stops
  · exact .unopened stops

theorem temporaryName_ne (name token : String) : temporaryName name token ≠ name := by
  intro same
  have lengths := congrArg String.length same
  simp only [temporaryName, String.length_append] at lengths
  have dot : ".".length = 1 := rfl
  omega

theorem Filled.alters (filled : Filled d temporary data d')
    (named : temporary.fileName? = some name) : Alters (·.head? = some name) d d' := by
  obtain ⟨d₁, created, appended⟩ := filled
  rw [← named]
  exact (Alters.of_create created).trans (Alters.of_append named appended)

theorem Filled.read_of_rename (filled : Filled d temporary data d₁)
    (bare : temporary.ending = .bare) (renamed : d₁.rename temporary p = .ok d') :
    d'.read p = .ok data := by
  obtain ⟨d₀, created, appended⟩ := filled
  obtain ⟨l, s, placed, found⟩ := place_of_create_append bare created appended
  exact Disk.read_of_rename placed found renamed

theorem alters_of_fails_append (named : temporary.fileName? = some name)
    (failed : d.Fails (.append temporary data) d') : Alters (·.head? = some name) d d' := by
  cases failed with
  | clean a => exact .refl d
  | partly split written =>
    rw [← named]
    exact Alters.of_append named written

theorem Delivery.cases (delivery : Delivery p temporary data d d' faults r)
    (named : temporary.fileName? = some name) (bare : temporary.ending = .bare) :
    ((∃ e, r = .error e) ∧ Alters (·.head? = some name) d d') ∨
      (d'.read p = .ok data ∧ Alters (Touches d temporary p) d d') := by
  cases delivery with
  | unopened stops =>
    cases stops.fails
    exact .inl ⟨⟨_, rfl⟩, .refl d⟩
  | unfilled created stops =>
    have opened := Alters.of_create created
    rw [named] at opened
    exact .inl ⟨⟨_, rfl⟩, opened.trans (alters_of_fails_append named stops.fails)⟩
  | unsettled filled stops =>
    cases stops.fails
    exact .inl ⟨⟨_, rfl⟩, filled.alters named⟩
  | removed filled stops removed =>
    cases stops.fails
    have cleaned := Alters.of_remove named removed
    rw [named] at cleaned
    exact .inl ⟨⟨_, rfl⟩, (filled.alters named).trans cleaned⟩
  | unremoved filled stops stops' =>
    cases stops.fails
    cases stops'.fails
    exact .inl ⟨⟨_, rfl⟩, filled.alters named⟩
  | renamed filled renamed late =>
    refine .inr ⟨filled.read_of_rename bare renamed, ?_⟩
    have touches : Alters (Touches d temporary p) d _ :=
      (filled.alters named).mono fun l own => .inl (own.trans named.symm)
    have ran : Disk.perform _ (.rename temporary p) = (.ok (), d') := changed_of_ok renamed
    have done := alters_perform (a := .rename temporary p) named ⟨rfl, rfl⟩ touches
    rwa [ran] at done

theorem atomic_of_sameFiles (same : SameFiles d d') (grown : Grown d d') (e : DiskError) :
    Atomic p data d d' (.error e) where
  destination l _ := .inl (same.file?_eq l)
  previous old read := by
    obtain ⟨l, holds⟩ := read_eq_ok.mp read
    exact .inl (grown.holds holds).read
  complete := nofun
  others l old found _ := by rwa [same.file?_eq]

theorem Untaken.head?_ne {l : Location} {old : ByteArray} (untaken : Untaken d p token)
    (named : p.fileName? = some name) (found : d.file? l = some old) :
    l.head? ≠ some (temporaryName name token) := by
  intro own
  cases l with
  | nil => cases own
  | cons s l =>
    obtain rfl : s = temporaryName name token := Option.some.inj own
    exact untaken name l old named (file?_eq_some_iff.mp found)

section

variable (same : SameFiles d d₁) (untaken : Untaken d₁ p token) (named : p.fileName? = some name)
include same untaken named

theorem atomic_of_failed (grown : Grown d d₁)
    (alters : Alters (·.head? = some (temporaryName name token)) d₁ d') (e : DiskError) :
    Atomic p data d d' (.error e) := by
  have kept : ∀ l old, d.file? l = some old → d'.file? l = some old := by
    intro l old found
    rw [← same.file?_eq] at found
    rw [file?_of_get?_eq (alters.get?_eq l (untaken.head?_ne named found)), found]
  constructor
  case destination =>
    intro l located
    have spared : l.head? ≠ some (temporaryName name token) := by
      rw [head?_of_locate named located]
      exact fun own => temporaryName_ne name token (Option.some.inj own).symm
    exact .inl ((file?_of_get?_eq (alters.get?_eq l spared)).trans (same.file?_eq l))
  case previous =>
    intro old read
    obtain ⟨l, holds⟩ := read_eq_ok.mp read
    have found := file?_eq_some_iff.mp (kept l old (file?_eq_some_iff.mpr holds.2))
    exact .inl (alters.holds (grown.locate holds.1) found).read
  case complete => exact nofun
  case others => exact fun l old found _ => kept l old found

theorem atomic_of_replaced (read : d'.read p = .ok data)
    (alters : Alters (Touches d₁ (p.withFileName (temporaryName name token)) p) d₁ d')
    (r : Except DiskError Unit) : Atomic p data d d' r := by
  obtain ⟨m, located, there⟩ := read_eq_ok.mp read
  constructor
  case destination =>
    intro l located'
    obtain rfl : m = l := Except.ok.inj (located.symm.trans located')
    exact .inr (file?_eq_some_iff.mpr there)
  case previous => exact fun _ _ => .inr read
  case complete => exact fun _ => read
  case others =>
    intro l old found away
    rw [← same.file?_eq] at found
    have spared : ¬ Touches d₁ (p.withFileName (temporaryName name token)) p l := by
      rintro (own | lands)
      · exact untaken.head?_ne named found own
      · obtain rfl := (alters.lands.mpr lands).eq_of_locate located
        exact away located
    rw [file?_of_get?_eq (alters.get?_eq l spared), found]

end

theorem grown_of_fares {start : PathStart} {steps : List PathStep}
    (fares : Fares faults (makeDirectories start steps) d r d') : SameFiles d d' ∧ Grown d d' := by
  refine (only_adds start steps).fares_keeps (fun d' => SameFiles d d' ∧ Grown d d') ?_ ?_ fares
    ⟨.refl d, .refl d⟩
  · rintro d₁ a adds ⟨same, grown⟩
    exact ⟨same.trans (sameFiles_perform d₁ adds), grown.trans (grown_perform d₁ adds)⟩
  · rintro d₁ a d₂ adds kept (_ | _)
    · exact kept
    · cases adds

/-- Whichever steps of a write fail, the file is the one from before or has all of the data, and
the other files are as they were. -/
theorem atomic_of_fares (untaken : Untaken d p token)
    (fares : Fares faults (writeFile p data token) d r d') : Atomic p data d d' r := by
  rw [writeFile_eq] at fares
  rcases fares.of_bind with ⟨e, rfl, made⟩ | ⟨fs, gs, u, d₁, rfl, made, put⟩
  · obtain ⟨same, grown⟩ := grown_of_fares made
    exact atomic_of_sameFiles same grown e
  · obtain ⟨same, grown⟩ := grown_of_fares made
    have untaken := untaken.of_sameFiles same
    cases named : p.fileName? with
    | none =>
      rw [putInPlace, named] at put
      obtain ⟨rfl, rfl, rfl⟩ := Fares.of_done put
      exact atomic_of_sameFiles same grown _
    | some name =>
      rcases (delivery_of_putInPlace named put).cases rfl rfl with
        ⟨⟨e, rfl⟩, alters⟩ | ⟨read, alters⟩
      · exact atomic_of_failed same untaken named grown alters e
      · exact atomic_of_replaced same untaken named read alters r

def moduleDisk : Disk :=
  ⟨[(["mod.js", "out"], .file "old".toUTF8), (["out"], .directory)], []⟩

def halfwayDisk (written : ByteArray) : Disk :=
  (moduleDisk.put [".mod.js.7.tmp", "out"] (.file .empty)).put [".mod.js.7.tmp", "out"]
    (.file written)

def modulePath : Path := .ofText "out/mod.js"

def moduleTemporary : Path := modulePath.withFileName (temporaryName "mod.js" "7")

def fullDisk : DiskError := .other "No space left on device (os error 28)"

theorem untaken_moduleDisk : Untaken moduleDisk modulePath "7" := by
  intro name l data named
  have last : modulePath.fileName? = some "mod.js" := by decide +kernel
  obtain rfl : "mod.js" = name := Option.some.inj (last.symm.trans named)
  have other : temporaryName "mod.js" "7" ≠ "mod.js" ∧ temporaryName "mod.js" "7" ≠ "out" := by
    decide +kernel
  simp [Disk.get?, moduleDisk, other.1.symm, other.2.symm]

theorem fares_fullDisk : Fares [(.append moduleTemporary "new".toUTF8, fullDisk)]
    (writeFile modulePath "new".toUTF8 "7") moduleDisk (.error fullDisk)
      (halfwayDisk "n".toUTF8) := by
  have split : "new".toUTF8 = "n".toUTF8 ++ "ew".toUTF8 := rfl
  -- the directory is there, as a look at it shows, and the temporary file is opened
  exact .works (.works (.works (.fails (.partly split rfl) (.done _ _))))

def replacedDisk : Disk :=
  ((halfwayDisk "new".toUTF8).erase [".mod.js.7.tmp", "out"]).put ["mod.js", "out"]
    (.file "new".toUTF8)

theorem atomic_of_fares_fullDisk :
    Untaken moduleDisk modulePath "7" ∧
      Fares [(.append moduleTemporary "new".toUTF8, fullDisk)]
        (writeFile modulePath "new".toUTF8 "7") moduleDisk (.error fullDisk)
          (halfwayDisk "n".toUTF8) ∧
      Atomic modulePath "new".toUTF8 moduleDisk (halfwayDisk "n".toUTF8) (.error fullDisk) ∧
      (halfwayDisk "n".toUTF8).read modulePath = .ok "old".toUTF8 ∧
      Fares [(.sync modulePath.parent, fullDisk)] (writeFile modulePath "new".toUTF8 "7")
        moduleDisk (.error fullDisk) replacedDisk ∧
      Atomic modulePath "new".toUTF8 moduleDisk replacedDisk (.error fullDisk) ∧
      replacedDisk.read modulePath = .ok "new".toUTF8 := by
  have late : Fares [(.sync modulePath.parent, fullDisk)]
      (writeFile modulePath "new".toUTF8 "7") moduleDisk (.error fullDisk) replacedDisk :=
    .works (.works (.works (.works (.works (.works (.fails (.clean _) (.done _ _)))))))
  exact ⟨untaken_moduleDisk, fares_fullDisk, atomic_of_fares untaken_moduleDisk fares_fullDisk, rfl,
    late, atomic_of_fares untaken_moduleDisk late, rfl⟩

end Plan

end MockData
