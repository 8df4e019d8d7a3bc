import MockData.Proofs.Transform

/-!
Whether a run spares the file that it reads. The paths are compared before directories are made,
so a path that leads through a missing directory and back is taken for another file.
-/
namespace MockData.Generation

open Disk Plan

/-- What the input path names is as it was before, and an output path that would name the same
file is refused before anything is done. -/
structure Spares (stamp : Stamp) (options : SavingBookOptions) (d : Disk) : Prop where
  read_eq : ((transformSavingBooks stamp options).run d).2.read (.ofText options.input) =
    d.read (.ofText options.input)
  refuses : ∀ l, d.locate (.ofText options.input) = .ok l →
    (prepared d (.ofText options.output)).locate (.ofText options.output) = .ok l →
      ((transformSavingBooks stamp options).run d).1.isOk = false ∧
        ((transformSavingBooks stamp options).run d).2 = d

/-- All that a run needs before it writes is there, and the output names the input file once the
directories on the way to it are made, but not before. -/
structure Overlooks (options : SavingBookOptions) (d : Disk) : Prop where
  readable : ∃ text, ((readInput options.input).run d).1 = .ok text
  joins : ∃ directory, (options.customers.directory.run d).1 = .ok directory
  names : ∃ l, d.canonical (.ofText options.input) = .ok l ∧
    d.locate (.ofText options.output) ≠ .ok l ∧
      (prepared d (.ofText options.output)).locate (.ofText options.output) = .ok l

def Fresh (stamp : Stamp) (options : SavingBookOptions) (d : Disk) : Prop :=
  ∀ l name, d.locate (.ofText options.input) = .ok l →
    (Path.ofText options.output).fileName? = some name →
      l.head? ≠ some (temporaryName name stamp.moduleToken)

theorem only_readText (p : Path) : (readText p).Only (·.isQuery) := by
  refine Only.bind (Only.perform (a := .read _) rfl) fun data => ?_
  split
  · exact trivial
  · exact trivial

theorem only_readInput (path : String) : (readInput path).Only (·.isQuery) :=
  (only_readText (.ofText path)).mapError

theorem only_directory (source : CustomerSource) : source.directory.Only (·.isQuery) := by
  cases source with
  | builtin => exact trivial
  | file path => exact (only_readInput path).bind fun _ => trivial

theorem only_sameFile (input output : Path) : (sameFile input output).Only (·.isQuery) := by
  refine Only.bind (Only.perform (a := .canonical _) rfl) fun l => ?_
  refine Only.bind (Only.attempt (a := .probe _) rfl) fun r => ?_
  rcases r with e | there | there
  case ok.true => exact Only.bind (Only.perform (a := .canonical _) rfl) fun _ => trivial
  all_goals
    refine Only.bind (Only.attempt (a := .canonical _) rfl) fun r => ?_
    cases r with
    | error e => exact trivial
    | ok m =>
      cases output.fileName? with
      | none => exact trivial
      | some name => exact trivial

theorem sameFile_of_locate {d : Disk} {input output : Path} {l : Location}
    (canonical : d.canonical input = .ok l) (located : d.locate output = .ok l) :
    (sameFile input output).run d = (.ok true, d) := by
  obtain ⟨checked, followed⟩ := locate_eq_ok.mp located
  obtain ⟨-, -, fits⟩ := canonical_eq_ok.mp canonical
  have canonical' : d.canonical output = .ok l :=
    canonical_eq_ok.mpr ⟨checkNames_of_check checked, followed, fits⟩
  have first : (perform (.canonical input)).run d = (.ok l, d) :=
    Prod.ext canonical rfl
  have probed : (attempt (.probe output) : Plan DiskError _).run d = (.ok (.ok true), d) := by
    simp only [run_attempt, Disk.perform, located]
    rfl
  have second : (perform (.canonical output)).run d = (.ok l, d) :=
    Prod.ext canonical' rfl
  refine (run_bind_of_ok first).trans ((run_bind_of_ok probed).trans ?_)
  refine (run_bind_of_ok second).trans ?_
  simp

theorem walk_of_follow_parent {d : Disk} {p : Path} {m : Location} {name : String}
    (named : p.fileName? = some name)
    (followed : d.follow (if p.parent.isEmpty then .here else p.parent) = .ok m) :
    ∃ above, p.parts = .name name :: above ∧ d.walk (d.start p) above = .ok m := by
  obtain ⟨start, steps, tail⟩ := p
  cases steps with
  | nil => cases named
  | cons step above =>
    have last : step.part = .name name := by
      cases part : step.part with
      | up => simp [Path.fileName?, Path.parts, part] at named
      | name s => simpa [Path.fileName?, Path.parts, part] using named
    refine ⟨above.map (·.part), by simp [Path.parts, last], ?_⟩
    have walked := (follow_eq_ok.mp followed).1
    by_cases empty : (Path.mk start (step :: above) tail).parent.isEmpty
    · rw [if_pos empty] at walked
      simp only [Path.isEmpty, Bool.and_eq_true] at empty
      obtain ⟨⟨fromHere, alone⟩, -⟩ := empty
      obtain rfl : start = .nothing := of_decide_eq_true fromHere
      obtain rfl : above = [] := of_decide_eq_true alone
      exact walked
    · rw [if_neg empty] at walked
      exact walked

/-- An output that comes to name a file later on is not in the directory that its parent leads to
by now: a file there would have been named from the start. -/
theorem ne_of_canonical_parent {d : Disk} {output : Path} {l m : Location} {name : String}
    (inside : d.isDirectory l.tail) (there : (d.get? l).isSome)
    (notYet : d.locate output ≠ .ok l) (later : (prepared d output).locate output = .ok l)
    (named : output.fileName? = some name)
    (parent : d.canonical (if output.parent.isEmpty then .here else output.parent) = .ok m) :
    l ≠ name :: m := by
  rintro rfl
  have grown := grown_prepared d output
  obtain ⟨-, followed, -⟩ := canonical_eq_ok.mp parent
  obtain ⟨above, parts, walked⟩ := walk_of_follow_parent named followed
  obtain ⟨checked, followed'⟩ := locate_eq_ok.mp later
  obtain ⟨walked', ends⟩ := follow_eq_ok.mp followed'
  rw [parts] at walked'
  obtain ⟨m', -, last⟩ := walk_cons_eq_ok.mp walked'
  obtain ⟨-, ⟨up, -⟩ | ⟨s, part, short, -, same⟩⟩ := step_eq_ok.mp last
  · cases up
  · cases part
    have step := step_eq_ok.mpr ⟨inside, .inr ⟨name, rfl, short, there, rfl⟩⟩
    refine notYet (locate_eq_ok.mpr ⟨checked, follow_eq_ok.mpr ⟨?_, ?_⟩⟩)
    · rw [parts]
      exact walk_cons_eq_ok.mpr ⟨m, walked, step⟩
    · exact ends.imp_right (grown.isDirectory_of_isSome there)

theorem sameFile_of_overlooked {d : Disk} {input output : Path} {l : Location}
    (inside : d.isDirectory l.tail) (there : (d.get? l).isSome)
    (canonical : d.canonical input = .ok l) (notYet : d.locate output ≠ .ok l)
    (later : (prepared d output).locate output = .ok l) :
    (sameFile input output).run d = (.ok false, d) := by
  have first : (perform (.canonical input)).run d = (.ok l, d) :=
    Prod.ext canonical rfl
  have absent : (d.locate output).isOk = false := by
    cases located : d.locate output with
    | error e => rfl
    | ok m =>
      obtain rfl : m = l :=
        Except.ok.inj (((grown_prepared d output).locate located).symm.trans later)
      exact absurd located notYet
  have probed : (attempt (.probe output) : Plan DiskError _).run d = (.ok (.ok false), d) := by
    simp only [run_attempt, Disk.perform, absent]
  refine (run_bind_of_ok first).trans ((run_bind_of_ok probed).trans ?_)
  refine (run_bind_of_ok (run_attempt d _)).trans ?_
  cases parent : d.canonical (if output.parent.isEmpty then .here else output.parent) with
  | error e =>
    simp only [Disk.perform, parent]
    rfl
  | ok m =>
    cases named : output.fileName? with
    | none =>
      simp only [Disk.perform, parent]
      rfl
    | some name =>
      have other := ne_of_canonical_parent inside there notYet later named parent
      simp only [Disk.perform, parent]
      simp [other]

structure Writes (options : SavingBookOptions) (d : Disk) (text : String)
    (directory : Directory) : Prop where
  read : ((readInput options.input).run d).1 = .ok text
  differs : (sameFile (.ofText options.input) (.ofText options.output)).run d = (.ok false, d)
  joins : (options.customers.directory.run d).1 = .ok directory

theorem run_of_writes (stamp : Stamp) {options : SavingBookOptions} {d : Disk} {text : String}
    {directory : Directory} (writes : Writes options d text directory) :
    (transformSavingBooks stamp options).run d =
      (putOut stamp options (join stamp options directory text)).run d := by
  have compared := run_mapError d (sameFile (.ofText options.input) (.ofText options.output))
    GenerationError.disk
  rw [writes.differs] at compared
  rw [transformSavingBooks_eq, (only_readInput options.input).run_bind, writes.read]
  refine (run_bind_of_ok compared).trans ?_
  refine ((only_directory options.customers).run_bind _ d).trans ?_
  rw [writes.joins]

theorem refused_or_writes (stamp : Stamp) (options : SavingBookOptions) (d : Disk) :
    (((transformSavingBooks stamp options).run d).1.isOk = false ∧
      ((transformSavingBooks stamp options).run d).2 = d) ∨
    ∃ text directory, Writes options d text directory := by
  have looks := only_sameFile (.ofText options.input) (.ofText options.output)
  rw [transformSavingBooks_eq, (only_readInput options.input).run_bind]
  cases read : ((readInput options.input).run d).1 with
  | error e => exact .inl ⟨rfl, rfl⟩
  | ok text =>
    simp only
    rw [looks.mapError.run_bind, run_mapError]
    cases same : ((sameFile (.ofText options.input) (.ofText options.output)).run d).1 with
    | error e => exact .inl ⟨rfl, rfl⟩
    | ok same' =>
      cases same' with
      | true => exact .inl ⟨rfl, rfl⟩
      | false =>
        have differs : (sameFile (.ofText options.input) (.ofText options.output)).run d =
            (.ok false, d) := Prod.ext same (looks.run_of_isQuery d)
        have later := (only_directory options.customers).run_bind
          (fun directory => putOut stamp options (join stamp options directory text)) d
        cases joins : (options.customers.directory.run d).1 with
        | error e =>
          rw [joins] at later
          exact .inl ⟨congrArg (·.1.isOk) later, congrArg (·.2) later⟩
        | ok directory => exact .inr ⟨text, directory, read, differs, joins⟩

theorem writeModule_disk (path text token : String) (d : Disk) :
    ((writeModule path text token).run d).2 =
      ((writeFile (.ofText path) text.toUTF8 token).run d).2 := by
  have last : ∀ u : Unit, (pure (UInt64.ofNat text.utf8ByteSize) : GenerationPlan UInt64).Only
      (·.isQuery) := fun _ => trivial
  rw [writeModule, Only.run_bind_snd last, run_mapError]

theorem putOut_disk (stamp : Stamp) (options : SavingBookOptions)
    (joined : List SavingBook × RunReport) (d : Disk) :
    ((putOut stamp options joined).run d).2 = prepared d (.ofText options.output) ∨
    ∃ name, (Path.ofText options.output).fileName? = some name ∧
      Alters (Touches (prepared d (.ofText options.output))
          ((Path.ofText options.output).withFileName (temporaryName name stamp.moduleToken))
          (.ofText options.output))
        (prepared d (.ofText options.output)) ((putOut stamp options joined).run d).2 := by
  have timed : elapsed.Only (·.isQuery) := Only.mapError (Only.perform (a := .elapsed) rfl)
  rw [putOut, Only.run_bind_snd, writeModule_disk]
  · exact writeFile_disk d _ _ _
  · intro bytes
    exact timed.bind fun _ => trivial

theorem not_spares_of_overlooks {stamp : Stamp} {options : SavingBookOptions} {d : Disk}
    (tree : d.IsTree) (overlooks : Overlooks options d) : ¬ Spares stamp options d := by
  intro spares
  obtain ⟨⟨text, read⟩, ⟨directory, joins⟩, l, canonical, notYet, later⟩ := overlooks
  have found := (readInput_eq_ok (Prod.ext read rfl)).2
  obtain ⟨l', located, file⟩ := read_eq_ok.mp found
  obtain rfl : l = l' := eq_of_canonical_of_locate canonical located
  have there : (d.get? l).isSome := by rw [file, Option.isSome_some]
  have differs := sameFile_of_overlooked (tree l there) there canonical notYet later
  have writes : Writes options d text directory := ⟨read, differs, joins⟩
  have unchanged := (spares.refuses l located later).2
  rw [run_of_writes stamp writes] at unchanged
  -- Had the run left the disk as it was, the output would have named the input from the start.
  rcases putOut_disk stamp options (join stamp options directory text) d with
    same | ⟨name, named, alters⟩
  · rw [← same, unchanged] at later
    exact notYet later
  · rw [unchanged] at alters
    exact notYet (alters.locate later there)

theorem apart_of_writes {options : SavingBookOptions} {d : Disk} {text : String}
    {directory : Directory} {l : Location} (sees : ¬ Overlooks options d)
    (writes : Writes options d text directory)
    (located : d.locate (.ofText options.input) = .ok l) :
    (prepared d (.ofText options.output)).locate (.ofText options.output) ≠ .ok l := by
  intro later
  obtain ⟨l', d₁, canonical, -⟩ := run_bind_eq_ok writes.differs
  have canonical' : d.canonical (.ofText options.input) = .ok l' := congrArg Prod.fst canonical
  obtain rfl : l' = l := eq_of_canonical_of_locate canonical' located
  refine sees ⟨⟨text, writes.read⟩, ⟨directory, writes.joins⟩, l', canonical', ?_, later⟩
  intro already
  have same := (sameFile_of_locate canonical' already).symm.trans writes.differs
  cases same

theorem read_of_apart {stamp : Stamp} {options : SavingBookOptions} {d : Disk} {text : String}
    {directory : Directory} {l : Location} (fresh : Fresh stamp options d)
    (located : d.locate (.ofText options.input) = .ok l)
    (file : d.get? l = some (.file text.toUTF8))
    (apart : (prepared d (.ofText options.output)).locate (.ofText options.output) ≠ .ok l) :
    ((putOut stamp options (join stamp options directory text)).run d).2.read
      (.ofText options.input) = .ok text.toUTF8 := by
  have grown := grown_prepared d (.ofText options.output)
  have located' := grown.locate located
  have file' := grown.get?_eq l _ file
  rw [read_eq_ok]
  rcases putOut_disk stamp options (join stamp options directory text) d with
    same | ⟨name, named, alters⟩
  · exact ⟨l, by rw [same, located'], by rw [same, file']⟩
  · have untouched : ¬ Touches (prepared d (.ofText options.output))
        ((Path.ofText options.output).withFileName (temporaryName name stamp.moduleToken))
        (.ofText options.output) l := by
      rintro (temporary | lands)
      · exact fresh l name located named temporary
      · exact apart (locate_of_lands lands (by rw [file', Option.isSome_some]))
    have kept := (alters.get?_eq l untouched).trans file'
    exact ⟨l, alters.locate located' (by rw [kept, Option.isSome_some]), kept⟩

theorem spares_iff_not_overlooks {stamp : Stamp} {options : SavingBookOptions} {d : Disk}
    (tree : d.IsTree) (fresh : Fresh stamp options d) :
    Spares stamp options d ↔ ¬ Overlooks options d := by
  constructor
  · intro spares overlooks
    exact not_spares_of_overlooks tree overlooks spares
  · intro sees
    rcases refused_or_writes stamp options d with ⟨failed, kept⟩ | ⟨text, directory, writes⟩
    · exact ⟨by rw [kept], fun _ _ _ => ⟨failed, kept⟩⟩
    · have found := (readInput_eq_ok (Prod.ext writes.read rfl)).2
      obtain ⟨l, located, file⟩ := read_eq_ok.mp found
      have apart := apart_of_writes sees writes located
      constructor
      · rw [found, run_of_writes stamp writes]
        exact read_of_apart fresh located file apart
      · intro l' located' later
        obtain rfl : l' = l := Except.ok.inj (located'.symm.trans located)
        exact absurd later apart

def detour : SavingBookOptions := { output := "missing/../savingBooks.js" }

theorem isTree_sampleDisk : sampleDisk.IsTree := by
  intro l there
  by_cases root : l = []
  · rw [root]
    rfl
  · have file : ["savingBooks.js"] = l := by
      simpa [Disk.get?, root, sampleDisk] using there
    rw [← file]
    rfl

theorem locate_input_detour :
    sampleDisk.locate (.ofText detour.input) = .ok ["savingBooks.js"] := by decide +kernel

theorem fresh_detour : Fresh sampleStamp detour sampleDisk := by
  intro l name located named
  have isFile : (Path.ofText detour.output).fileName? = some "savingBooks.js" := by decide +kernel
  obtain rfl : "savingBooks.js" = name := Option.some.inj (isFile.symm.trans named)
  obtain rfl : ["savingBooks.js"] = l := Except.ok.inj (locate_input_detour.symm.trans located)
  decide +kernel

theorem spares_iff_not_overlooks_detour : sampleDisk.IsTree ∧ Fresh sampleStamp detour sampleDisk ∧
    (Spares sampleStamp detour sampleDisk ↔ ¬ Overlooks detour sampleDisk) :=
  ⟨isTree_sampleDisk, fresh_detour, spares_iff_not_overlooks isTree_sampleDisk fresh_detour⟩

theorem not_spares_detour : ¬ Spares sampleStamp detour sampleDisk := by
  intro spares
  have before : (sampleDisk.read (.ofText detour.input)).toOption.map ByteArray.size =
      some 171 := by decide +kernel
  have after : (((transformSavingBooks sampleStamp detour).run sampleDisk).2.read
      (.ofText detour.input)).toOption.map ByteArray.size = some 2177 := by decide +kernel
  rw [spares.read_eq, before] at after
  cases after

end MockData.Generation
