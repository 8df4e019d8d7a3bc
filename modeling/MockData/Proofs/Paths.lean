import MockData.Disk.Basic

/-!
Where paths lead on a disk, and on a disk that has changed. A path leads to the same place as long
as the directories that it goes through stay.
-/
namespace MockData.Disk

theorem bind_eq_ok {ε α β : Type} {x : Except ε α} {f : α → Except ε β} {b : β} :
    x >>= f = .ok b ↔ ∃ a, x = .ok a ∧ f a = .ok b := by
  cases x with
  | ok a => simp [bind, Except.bind]
  | error e => simp [bind, Except.bind]

theorem pure_eq_ok {ε α : Type} {a b : α} : (pure a : Except ε α) = .ok b ↔ a = b := by
  simp [pure, Except.pure]

theorem throw_ite_eq_ok {ε α : Type} {c : Prop} [Decidable c] {e : ε} {x : Except ε α} {b : α} :
    (if c then throw e else x) = .ok b ↔ ¬ c ∧ x = .ok b := by
  by_cases holds : c
  · simp [holds, throw, throwThe, MonadExceptOf.throw]
  · simp [holds]

theorem step_eq_ok {d : Disk} {l m : Location} {part : PathPart} :
    d.step l part = .ok m ↔ d.isDirectory l ∧ ((part = .up ∧ m = l.tail) ∨
      ∃ s, part = .name s ∧ isTooLong s = false ∧ (d.get? (s :: l)).isSome ∧ m = s :: l) := by
  rw [step.eq_def]
  by_cases inside : d.isDirectory l
  · cases part with
    | up => simpa [inside] using eq_comm
    | name s =>
      by_cases long : isTooLong s
      · simp [inside, long]
      · by_cases there : (d.get? (s :: l)).isSome
        · simpa [inside, long, there] using eq_comm
        · simp [inside, long, there]
  · simp [inside]

theorem start_eq_of_cwd_eq {d d' : Disk} (cwd : d'.cwd = d.cwd) (p : Path) :
    d'.start p = d.start p := by
  rw [start, start, cwd]

theorem walk_cons_eq_ok {d : Disk} {start m : Location} {part : PathPart} {above : List PathPart} :
    d.walk start (part :: above) = .ok m ↔
      ∃ l, d.walk start above = .ok l ∧ d.step l part = .ok m := bind_eq_ok

theorem follow_eq_ok {d : Disk} {p : Path} {l : Location} :
    d.follow p = .ok l ↔
      d.walk (d.start p) p.parts = .ok l ∧ (p.ending = .bare ∨ d.isDirectory l) := by
  rw [follow, bind_eq_ok]
  constructor
  · rintro ⟨m, walked, last⟩
    split at last
    · cases last
    · rename_i admitted
      obtain rfl : m = l := pure_eq_ok.mp last
      refine ⟨walked, ?_⟩
      by_cases bare : p.ending = .bare
      · exact .inl bare
      · exact .inr (by simpa [bare] using admitted)
  · rintro ⟨walked, ends⟩
    refine ⟨l, walked, ?_⟩
    have admitted : ¬ (p.ending ≠ .bare ∧ !d.isDirectory l) := by
      rcases ends with bare | inside
      · simp [bare]
      · simp [inside]
    simp only [admitted]
    rfl

theorem locate_eq_ok {d : Disk} {p : Path} {l : Location} :
    d.locate p = .ok l ↔ check p = .ok () ∧ d.follow p = .ok l := by
  rw [locate, bind_eq_ok]
  constructor
  · rintro ⟨⟨⟩, checked, followed⟩
    exact ⟨checked, followed⟩
  · rintro ⟨checked, followed⟩
    exact ⟨(), checked, followed⟩

theorem canonical_eq_ok {d : Disk} {p : Path} {l : Location} :
    d.canonical p = .ok l ↔ checkNames p = .ok () ∧ d.follow p = .ok l ∧
      checkLength (locationText l).utf8ByteSize = .ok () := by
  simp only [canonical, bind_eq_ok]
  constructor
  · rintro ⟨⟨⟩, names, m, followed, ⟨⟩, fits, last⟩
    obtain rfl : m = l := pure_eq_ok.mp last
    exact ⟨names, followed, fits⟩
  · rintro ⟨names, followed, fits⟩
    exact ⟨(), names, l, followed, (), fits, rfl⟩

theorem eq_of_canonical_of_locate {d : Disk} {p : Path} {l m : Location}
    (canonical : d.canonical p = .ok l) (located : d.locate p = .ok m) : l = m := by
  have followed := (canonical_eq_ok.mp canonical).2.1
  exact Except.ok.inj (followed.symm.trans (locate_eq_ok.mp located).2)

/-- A place with a name is a directory at the end of all parts but the last, which is the name. -/
theorem place_eq_ok_some {d : Disk} {p : Path} {l : Location} {s : String} :
    d.place p = .ok (l, some s) ↔ check p = .ok () ∧ p.ending ≠ .dot ∧
      ∃ above, p.parts = .name s :: above ∧ d.walk (d.start p) above = .ok l ∧ d.isDirectory l := by
  rw [place, bind_eq_ok]
  constructor
  · rintro ⟨⟨⟩, checked, last⟩
    refine ⟨checked, ?_⟩
    split at last
    rename_i name above split'
    rw [bind_eq_ok] at last
    obtain ⟨m, walked, last⟩ := last
    split at last
    · rename_i inside
      obtain ⟨rfl, rfl⟩ := Prod.mk.inj (pure_eq_ok.mp last)
      split at split'
      · rename_i t rest ends parts
        obtain ⟨rfl, rfl⟩ : t = s ∧ rest = above := by simpa using split'
        exact ⟨by simp [ends], rest, parts, walked, inside⟩
      · rename_i t rest ends parts
        obtain ⟨rfl, rfl⟩ : t = s ∧ rest = above := by simpa using split'
        exact ⟨by simp [ends], rest, parts, walked, inside⟩
      · simp at split'
      · simp at split'
      · simp at split'
    · cases last
  · rintro ⟨checked, ends, above, parts, walked, inside⟩
    refine ⟨(), checked, ?_⟩
    cases ending : p.ending with
    | dot => exact absurd ending ends
    | bare => simp [parts, walked, inside, bind, Except.bind, pure, Except.pure]
    | slash => simp [parts, walked, inside, bind, Except.bind, pure, Except.pure]

theorem checkNames_of_check {p : Path} (checked : check p = .ok ()) : checkNames p = .ok () := by
  rw [check, bind_eq_ok] at checked
  obtain ⟨⟨⟩, names, -⟩ := checked
  exact names

theorem isDirectory_of_walk_cons {d : Disk} {start m : Location} {s : String}
    {above : List PathPart} (walked : d.walk start (.name s :: above) = .ok m) :
    ∃ l, m = s :: l ∧ d.isDirectory l := by
  obtain ⟨l, -, last⟩ := walk_cons_eq_ok.mp walked
  obtain ⟨inside, ⟨part, -⟩ | ⟨t, part, -, -, rfl⟩⟩ := step_eq_ok.mp last
  · cases part
  · cases part
    exact ⟨l, rfl, inside⟩

theorem head?_of_locate {d : Disk} {p : Path} {l : Location} {s : String}
    (named : p.fileName? = some s) (located : d.locate p = .ok l) : l.head? = some s := by
  have walked := (follow_eq_ok.mp (locate_eq_ok.mp located).2).1
  rw [Path.fileName?] at named
  split at named
  · rename_i t above parts
    obtain rfl : t = s := by simpa using named
    rw [parts] at walked
    obtain ⟨m, rfl, -⟩ := isDirectory_of_walk_cons walked
    rfl
  · cases named

theorem fileName?_of_place {d : Disk} {p : Path} {l : Location} {s : String}
    (placed : d.place p = .ok (l, some s)) : p.fileName? = some s := by
  obtain ⟨-, -, above, parts, -⟩ := place_eq_ok_some.mp placed
  rw [Path.fileName?, parts]

theorem locate_of_place {d : Disk} {p : Path} {l : Location} {s : String}
    (placed : d.place p = .ok (l, some s)) (bare : p.ending = .bare) (short : isTooLong s = false)
    (there : (d.get? (s :: l)).isSome) : d.locate p = .ok (s :: l) := by
  obtain ⟨checked, -, above, parts, walked, inside⟩ := place_eq_ok_some.mp placed
  refine locate_eq_ok.mpr ⟨checked, follow_eq_ok.mpr ⟨?_, .inl bare⟩⟩
  rw [parts]
  exact walk_cons_eq_ok.mpr ⟨l, walked, step_eq_ok.mpr ⟨inside, .inr ⟨s, rfl, short, there, rfl⟩⟩⟩

theorem read_eq_ok {d : Disk} {p : Path} {data : ByteArray} :
    d.read p = .ok data ↔ ∃ l, d.locate p = .ok l ∧ d.get? l = some (.file data) := by
  rw [read, bind_eq_ok]
  constructor
  · rintro ⟨l, located, found⟩
    refine ⟨l, located, ?_⟩
    split at found
    · rename_i data' file
      obtain rfl : data' = data := pure_eq_ok.mp found
      exact file
    · cases found
  · rintro ⟨l, located, file⟩
    refine ⟨l, located, ?_⟩
    rw [file]
    rfl

def IsTree (d : Disk) : Prop := ∀ l, (d.get? l).isSome → d.isDirectory l.tail

structure Grown (d d' : Disk) : Prop where
  cwd_eq : d'.cwd = d.cwd
  get?_eq : ∀ l n, d.get? l = some n → d'.get? l = some n

namespace Grown

theorem refl (d : Disk) : Grown d d := ⟨rfl, fun _ _ there => there⟩

theorem trans {d₁ d₂ d₃ : Disk} (h : Grown d₁ d₂) (h' : Grown d₂ d₃) : Grown d₁ d₃ where
  cwd_eq := h'.cwd_eq.trans h.cwd_eq
  get?_eq l n there := h'.get?_eq l n (h.get?_eq l n there)

theorem put {d : Disk} {l : Location} (absent : d.get? l = none) (n : Node) :
    Grown d (d.put l n) where
  cwd_eq := rfl
  get?_eq m k there := by
    have other : m ≠ l := by
      rintro rfl
      rw [absent] at there
      cases there
    rw [get?_put_of_ne d n other, there]

variable {d d' : Disk}

theorem isDirectory (grown : Grown d d') {l : Location} (inside : d.isDirectory l) :
    d'.isDirectory l :=
  isDirectory_iff.mpr (grown.get?_eq l _ (isDirectory_iff.mp inside))

theorem isSome (grown : Grown d d') {l : Location} (there : (d.get? l).isSome) :
    (d'.get? l).isSome := by
  obtain ⟨n, found⟩ := Option.isSome_iff_exists.mp there
  rw [grown.get?_eq l n found, Option.isSome_some]

theorem isDirectory_of_isSome (grown : Grown d d') {l : Location} (there : (d.get? l).isSome)
    (inside : d'.isDirectory l) : d.isDirectory l := by
  obtain ⟨n, found⟩ := Option.isSome_iff_exists.mp there
  have same := (grown.get?_eq l n found).symm.trans (isDirectory_iff.mp inside)
  rw [isDirectory_iff, found, same]

theorem walk (grown : Grown d d') {start l : Location} {parts : List PathPart}
    (walked : d.walk start parts = .ok l) : d'.walk start parts = .ok l := by
  induction parts generalizing l with
  | nil => exact walked
  | cons part above ih =>
    obtain ⟨m, walked, last⟩ := walk_cons_eq_ok.mp walked
    refine walk_cons_eq_ok.mpr ⟨m, ih walked, step_eq_ok.mpr ?_⟩
    obtain ⟨inside, ⟨up, rfl⟩ | ⟨s, name, short, there, rfl⟩⟩ := step_eq_ok.mp last
    · exact ⟨grown.isDirectory inside, .inl ⟨up, rfl⟩⟩
    · exact ⟨grown.isDirectory inside, .inr ⟨s, name, short, grown.isSome there, rfl⟩⟩

theorem follow (grown : Grown d d') {p : Path} {l : Location} (followed : d.follow p = .ok l) :
    d'.follow p = .ok l := by
  obtain ⟨walked, ends⟩ := follow_eq_ok.mp followed
  rw [← start_eq_of_cwd_eq grown.cwd_eq] at walked
  exact follow_eq_ok.mpr ⟨grown.walk walked, ends.imp_right grown.isDirectory⟩

theorem locate (grown : Grown d d') {p : Path} {l : Location} (located : d.locate p = .ok l) :
    d'.locate p = .ok l := by
  obtain ⟨checked, followed⟩ := locate_eq_ok.mp located
  exact locate_eq_ok.mpr ⟨checked, grown.follow followed⟩

end Grown

/-- `d'` has the directories of `d` and no others, and its files are those of `d` but for the ones
at certain locations. -/
structure Alters (touched : Location → Prop) (d d' : Disk) : Prop where
  cwd_eq : d'.cwd = d.cwd
  isDirectory_eq : ∀ l, d'.isDirectory l = d.isDirectory l
  get?_eq : ∀ l, ¬ touched l → d'.get? l = d.get? l

theorem get?_erase_self (d : Disk) {l : Location} (nonempty : l ≠ []) :
    (d.erase l).get? l = none := by
  simp [get?, erase, nonempty, List.find?_filter]

theorem ne_nil_of_not_isDirectory {d : Disk} {l : Location} (noDirectory : ¬ d.isDirectory l) :
    l ≠ [] := by
  rintro rfl
  exact noDirectory rfl

theorem not_isDirectory_of_file {d : Disk} {l : Location} {data : ByteArray}
    (found : d.get? l = some (.file data)) : ¬ d.isDirectory l := by
  rw [isDirectory_iff, found]
  simp

theorem walk_of_directories {d d' : Disk} (kept : ∀ l, d.isDirectory l → d'.isDirectory l)
    {start l : Location} {parts : List PathPart} (walked : d.walk start parts = .ok l)
    (inside : d.isDirectory l) : d'.walk start parts = .ok l := by
  induction parts generalizing l with
  | nil => exact walked
  | cons part above ih =>
    obtain ⟨m, walked, last⟩ := walk_cons_eq_ok.mp walked
    have inside' := (step_eq_ok.mp last).1
    refine walk_cons_eq_ok.mpr ⟨m, ih walked inside', step_eq_ok.mpr ⟨kept m inside', ?_⟩⟩
    obtain ⟨-, ⟨up, rfl⟩ | ⟨s, name, short, -, rfl⟩⟩ := step_eq_ok.mp last
    · exact .inl ⟨up, rfl⟩
    · have there := isDirectory_iff.mp (kept _ inside)
      exact .inr ⟨s, name, short, by rw [there, Option.isSome_some], rfl⟩

namespace Alters

variable {touched : Location → Prop}

theorem refl (d : Disk) : Alters touched d d := ⟨rfl, fun _ => rfl, fun _ _ => rfl⟩

theorem trans {d₁ d₂ d₃ : Disk} (h : Alters touched d₁ d₂) (h' : Alters touched d₂ d₃) :
    Alters touched d₁ d₃ where
  cwd_eq := h'.cwd_eq.trans h.cwd_eq
  isDirectory_eq l := (h'.isDirectory_eq l).trans (h.isDirectory_eq l)
  get?_eq l spared := (h'.get?_eq l spared).trans (h.get?_eq l spared)

theorem mono {touched' : Location → Prop} {d d' : Disk} (alters : Alters touched d d')
    (wider : ∀ l, touched l → touched' l) : Alters touched' d d' where
  cwd_eq := alters.cwd_eq
  isDirectory_eq := alters.isDirectory_eq
  get?_eq l spared := alters.get?_eq l fun isTouched => spared (wider l isTouched)

theorem put_file {d : Disk} {l : Location} (isTouched : touched l) (noDirectory : ¬ d.isDirectory l)
    (data : ByteArray) : Alters touched d (d.put l (.file data)) where
  cwd_eq := rfl
  isDirectory_eq m := by
    by_cases same : m = l
    · subst same
      rw [isDirectory, get?_put_self d _ (ne_nil_of_not_isDirectory noDirectory)]
      simpa [Node.isDirectory] using noDirectory
    · rw [isDirectory, isDirectory, get?_put_of_ne d _ same]
  get?_eq m spared := get?_put_of_ne d _ fun same => spared (same ▸ isTouched)

theorem erase {d : Disk} {l : Location} (isTouched : touched l) (noDirectory : ¬ d.isDirectory l) :
    Alters touched d (d.erase l) where
  cwd_eq := rfl
  isDirectory_eq m := by
    by_cases same : m = l
    · subst same
      rw [isDirectory, get?_erase_self d (ne_nil_of_not_isDirectory noDirectory)]
      simpa using noDirectory
    · rw [isDirectory, isDirectory, get?_erase_of_ne d same]
  get?_eq m spared := get?_erase_of_ne d fun same => spared (same ▸ isTouched)

theorem place {d d' : Disk} (alters : Alters touched d d') {p : Path} {l : Location} {s : String} :
    d'.place p = .ok (l, some s) ↔ d.place p = .ok (l, some s) := by
  rw [place_eq_ok_some, place_eq_ok_some, start_eq_of_cwd_eq alters.cwd_eq]
  constructor
  · rintro ⟨checked, ends, above, parts, walked, inside⟩
    have kept : ∀ l, d'.isDirectory l → d.isDirectory l := by
      intro l inside
      rwa [← alters.isDirectory_eq]
    exact ⟨checked, ends, above, parts, walk_of_directories kept walked inside, kept l inside⟩
  · rintro ⟨checked, ends, above, parts, walked, inside⟩
    have kept : ∀ l, d.isDirectory l → d'.isDirectory l := by
      intro l inside
      rwa [alters.isDirectory_eq]
    exact ⟨checked, ends, above, parts, walk_of_directories kept walked inside, kept l inside⟩

theorem locate {d d' : Disk} (alters : Alters touched d d') {p : Path} {l : Location}
    (located : d.locate p = .ok l) (there : (d'.get? l).isSome) : d'.locate p = .ok l := by
  obtain ⟨checked, followed⟩ := locate_eq_ok.mp located
  obtain ⟨walked, ends⟩ := follow_eq_ok.mp followed
  refine locate_eq_ok.mpr ⟨checked, follow_eq_ok.mpr ⟨?_, ?_⟩⟩
  · rw [start_eq_of_cwd_eq alters.cwd_eq]
    cases parts : p.parts with
    | nil => rwa [parts] at walked
    | cons part above =>
      rw [parts] at walked
      obtain ⟨m, walked, last⟩ := walk_cons_eq_ok.mp walked
      obtain ⟨inside, moves⟩ := step_eq_ok.mp last
      have kept : ∀ l, d.isDirectory l → d'.isDirectory l := by
        intro l inside
        rwa [alters.isDirectory_eq]
      refine walk_cons_eq_ok.mpr ⟨m, walk_of_directories kept walked inside, ?_⟩
      refine step_eq_ok.mpr ⟨kept m inside, ?_⟩
      rcases moves with up | ⟨s, name, short, -, rfl⟩
      · exact .inl up
      · exact .inr ⟨s, name, short, there, rfl⟩
  · rwa [alters.isDirectory_eq]

end Alters

end MockData.Disk
