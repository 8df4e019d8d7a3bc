import MockData.Generation.Customers
import MockData.Proofs.Customers
import MockData.Proofs.Placing
import MockData.Proofs.Sparing

/-!
A run that joins saving books with the customers of another run. Going through a file changes
nothing: the books and the warnings are those of the customers themselves.
-/
namespace MockData

namespace Generation

open Disk Plan

theorem fromUTF8?_toUTF8 (s : String) : String.fromUTF8? s.toUTF8 = some s := by
  unfold String.fromUTF8?
  split
  · rfl
  · rename_i invalid
    exact absurd s.isValidUTF8 invalid

theorem run_readInput {d : Disk} {path text : String}
    (read : d.read (.ofText path) = .ok text.toUTF8) : (readInput path).run d = (.ok text, d) := by
  have found : (perform (.read (.ofText path))).run d = (.ok text.toUTF8, d) := Prod.ext read rfl
  have decoded : (readText (.ofText path)).run d = (.ok text, d) := by
    refine (run_bind_of_ok found).trans ?_
    simp only [fromUTF8?_toUTF8]
    rfl
  rw [readInput, run_mapError, decoded]
  rfl

theorem read_of_generateCustomers {stamp : Stamp} {module : String} {customers : List Customer}
    {d d' : Disk} {made : Run CustomerStore}
    (wrote : (generateCustomers stamp module customers).run d = (.ok made, d')) :
    d'.read (.ofText module) = .ok (Customer.moduleText customers).toUTF8 := by
  obtain ⟨issues, d₁, -, wrote⟩ := run_bind_eq_ok wrote
  obtain ⟨bytes, d₂, written, wrote⟩ := run_bind_eq_ok wrote
  obtain ⟨duration, d₃, timed, wrote⟩ := run_bind_eq_ok wrote
  obtain rfl : d₂ = d₃ := congrArg Prod.snd timed
  obtain rfl : d₂ = d' := congrArg Prod.snd wrote
  exact (writeModule_eq_ok written).1

theorem directory_of_read {d : Disk} {path : String} {customers : List Customer}
    (read : d.read (.ofText path) = .ok (Customer.moduleText customers).toUTF8) :
    ((CustomerSource.file path).directory.run d).1 = .ok (.ofCustomers customers) := by
  rw [CustomerSource.directory, run_bind_of_ok (run_readInput read), Customer.extract_moduleText]
  rfl

variable {stamp : Stamp} {options : SavingBookOptions} {joined : List SavingBook × RunReport}
  {d d' : Disk}

theorem writeModule_of_writable {path token : String} (writable : Writable d (.ofText path) token)
    (text : String) : ∃ bytes d', (writeModule path text token).run d = (.ok bytes, d') := by
  have outcome := (writeFile_ok_iff d (.ofText path) text.toUTF8 token).mpr writable
  have written : (mapError GenerationError.disk
      (writeFile (.ofText path) text.toUTF8 token)).run d =
        (.ok (), ((writeFile (.ofText path) text.toUTF8 token).run d).2) := by
    rw [run_mapError, outcome]
    rfl
  exact ⟨_, _, run_bind_of_ok written⟩

theorem exists_putOut_iff : (∃ r d', (putOut stamp options joined).run d = (.ok r, d')) ↔
    Writable d (.ofText options.output) stamp.moduleToken := by
  constructor
  · rintro ⟨r, d', ran⟩
    obtain ⟨bytes, d₁, wrote, -⟩ := run_bind_eq_ok ran
    obtain ⟨⟨⟩, d₂, written, -⟩ := run_bind_eq_ok wrote
    exact (writeFile_ok_iff _ _ _ _).mp (congrArg Prod.fst (run_mapError_eq_ok written))
  · intro writable
    obtain ⟨bytes, d', written⟩ :=
      writeModule_of_writable writable (SavingBook.moduleText joined.1)
    exact ⟨_, _, run_bind_of_ok written⟩

theorem of_putOut {r : Run SavingBookStore}
    (ran : (putOut stamp options joined).run d = (.ok r, d')) :
    r.store.books = joined.1 ∧ r.report.warnings = joined.2.warnings ∧
      d'.read (.ofText options.output) = .ok (SavingBook.moduleText joined.1).toUTF8 := by
  obtain ⟨bytes, d₁, written, ran⟩ := run_bind_eq_ok ran
  obtain ⟨duration, d₂, timed, ran⟩ := run_bind_eq_ok ran
  obtain rfl : d₁ = d₂ := congrArg Prod.snd timed
  cases ran
  exact ⟨rfl, rfl, (writeModule_eq_ok written).1⟩

/-- A run that ends with `r` and leaves the disk `d` has what reshaping former books makes of them,
whatever report that starts with. -/
structure Delivers (directory : Directory) (legacy : List LegacyBook) (output : String)
    (r : Run SavingBookStore) (d : Disk) : Prop where
  books (report : RunReport) : r.store.books = (LegacyBook.reshapeAll directory report legacy).1
  text (report : RunReport) : d.read (.ofText output) =
    .ok (SavingBook.moduleText (LegacyBook.reshapeAll directory report legacy).1).toUTF8
  warnings (report : RunReport) : (LegacyBook.reshapeAll directory report legacy).2.warnings =
    report.warnings ++ r.report.warnings

theorem delivers_of_putOut {directory : Directory} {text : String} {r : Run SavingBookStore}
    (ran : (putOut stamp options (join stamp options directory text)).run d = (.ok r, d')) :
    Delivers directory (LegacyBook.extract text).1 options.output r d' := by
  obtain ⟨books, warnings, written⟩ := of_putOut ran
  rw [join, LegacyBook.reshapeAll_books] at books written
  rw [join, LegacyBook.reshapeAll_warnings] at warnings
  constructor
  · intro report
    rw [books, LegacyBook.reshapeAll_books]
  · intro report
    rw [written, LegacyBook.reshapeAll_books]
  · intro report
    rw [LegacyBook.reshapeAll_warnings, warnings]
    rfl

theorem differs_of_transform {r : Run SavingBookStore}
    (ran : (transformSavingBooks stamp options).run d = (.ok r, d')) :
    (sameFile (.ofText options.input) (.ofText options.output)).run d = (.ok false, d) := by
  rcases refused_or_writes stamp options d with ⟨failed, -⟩ | ⟨_, _, writes⟩
  · rw [ran] at failed
    cases failed
  · exact writes.differs

/-- A run that takes its customers from the module of another run ends well exactly if its output
passes for another file than its input and can be written. It has then what these customers yield
without the way through a file. -/
theorem transform_generated {stamp : Stamp} (stamp' : Stamp) {module text : String}
    {customers : List Customer} {made : Run CustomerStore} {d d₁ d₂ : Disk}
    {options : SavingBookOptions}
    (wrote : (generateCustomers stamp module customers).run d = (.ok made, d₁))
    (kept : d₂.read (.ofText module) = d₁.read (.ofText module))
    (source : options.customers = .file module)
    (input : d₂.read (.ofText options.input) = .ok text.toUTF8) :
    ((∃ r d₃, (transformSavingBooks stamp' options).run d₂ = (.ok r, d₃)) ↔
      (sameFile (.ofText options.input) (.ofText options.output)).run d₂ = (.ok false, d₂) ∧
        Writable d₂ (.ofText options.output) stamp'.moduleToken) ∧
    ∀ r d₃, (transformSavingBooks stamp' options).run d₂ = (.ok r, d₃) →
      Delivers (.ofCustomers customers) (LegacyBook.extract text).1 options.output r d₃ := by
  have read := kept.trans (read_of_generateCustomers wrote)
  have joins : (options.customers.directory.run d₂).1 = .ok (.ofCustomers customers) := by
    rw [source, directory_of_read read]
  have goesOn (differs : (sameFile (.ofText options.input) (.ofText options.output)).run d₂ =
      (.ok false, d₂)) := run_of_writes stamp'
    ⟨congrArg Prod.fst (run_readInput input), differs, joins⟩
  refine ⟨⟨?_, ?_⟩, ?_⟩
  · rintro ⟨r, d₃, ran⟩
    have differs := differs_of_transform ran
    rw [goesOn differs] at ran
    exact ⟨differs, exists_putOut_iff.mp ⟨r, d₃, ran⟩⟩
  · rintro ⟨differs, writable⟩
    rw [goesOn differs]
    exact exists_putOut_iff.mpr writable
  · intro r d₃ ran
    rw [goesOn (differs_of_transform ran)] at ran
    exact delivers_of_putOut ran

def awkwardCustomers : List Customer := [
  ⟨"CUST001", "An \"\x7d\" \\", "012345678901", "customerid: \"CUST002\" // \x7b", "0", "", "?"⟩,
  ⟨"CUST002", "Bình", "1", "", "", "", "2000-01-01"⟩]

def chained : SavingBookOptions := { customers := .file "customers.js" }

def chainedDisk : Disk :=
  ((generateCustomers sampleStamp "customers.js" awkwardCustomers).run sampleDisk).2

theorem read_input_chained : chainedDisk.read (.ofText chained.input) = .ok sampleInput.toUTF8 := by
  have located : chainedDisk.locate (.ofText chained.input) = .ok ["savingBooks.js"] := by
    decide +kernel
  have found : chainedDisk.get? ["savingBooks.js"] = some (.file sampleInput.toUTF8) := by
    unfold chainedDisk
    rfl
  exact read_eq_ok.mpr ⟨_, located, found⟩

theorem differs_chained :
    (sameFile (.ofText chained.input) (.ofText chained.output)).run chainedDisk =
      (.ok false, chainedDisk) := by
  have compared : ((sameFile (.ofText chained.input) (.ofText chained.output)).run
      chainedDisk).1 = .ok false := by decide +kernel
  exact Prod.ext compared ((only_sameFile _ _).run_of_isQuery chainedDisk)

theorem writable_chained :
    Writable chainedDisk (.ofText chained.output) sampleStamp.moduleToken := by
  have written : ((writeFile (.ofText chained.output) .empty sampleStamp.moduleToken).run
      chainedDisk).1 = .ok () := by decide +kernel
  exact (writeFile_ok_iff _ _ _ _).mp written

theorem transform_generated_chained : ∃ made r d,
    (generateCustomers sampleStamp "customers.js" awkwardCustomers).run sampleDisk =
      (.ok made, chainedDisk) ∧
    chainedDisk.read (.ofText chained.input) = .ok sampleInput.toUTF8 ∧
    (transformSavingBooks sampleStamp chained).run chainedDisk = (.ok r, d) ∧
    Delivers (.ofCustomers awkwardCustomers) (LegacyBook.extract sampleInput).1 chained.output
      r d := by
  have ended : ((generateCustomers sampleStamp "customers.js" awkwardCustomers).run
      sampleDisk).1.isOk := by decide +kernel
  cases outcome : ((generateCustomers sampleStamp "customers.js" awkwardCustomers).run
      sampleDisk).1 with
  | error e =>
    rw [outcome] at ended
    cases ended
  | ok made =>
    have wrote : (generateCustomers sampleStamp "customers.js" awkwardCustomers).run sampleDisk =
        (.ok made, chainedDisk) := Prod.ext outcome rfl
    obtain ⟨ends, delivers⟩ := transform_generated sampleStamp wrote rfl
      (rfl : chained.customers = .file "customers.js") read_input_chained
    obtain ⟨r, d, ran⟩ := ends.mpr ⟨differs_chained, writable_chained⟩
    exact ⟨made, r, d, wrote, read_input_chained, ran, delivers r d ran⟩

end Generation

end MockData
