import MockData.Generation.SavingBooks
import MockData.Proofs.SavingBooks
import MockData.Proofs.Writing

/-!
Runs that reshape saving books, when they end well: what they count, and what they leave.
-/
namespace MockData.Generation

open Plan

theorem toUTF8_of_fromUTF8? {data : ByteArray} {s : String}
    (decoded : String.fromUTF8? data = some s) : s.toUTF8 = data := by
  unfold String.fromUTF8? at decoded
  split at decoded
  · cases decoded
    rfl
  · cases decoded

theorem readInput_eq_ok {path text : String} {d d' : Disk}
    (ran : (readInput path).run d = (.ok text, d')) :
    d' = d ∧ d.read (.ofText path) = .ok text.toUTF8 := by
  have read := run_mapError_eq_ok ran
  obtain ⟨data, d₁, found, last⟩ := run_bind_eq_ok read
  obtain ⟨taken, rfl⟩ := Prod.mk.inj found
  split at last
  · rename_i s decoded
    obtain ⟨rfl, rfl⟩ : s = text ∧ d = d' := by simpa using last
    exact ⟨rfl, taken.trans (congrArg Except.ok (toUTF8_of_fromUTF8? decoded).symm)⟩
  · cases last

theorem writeModule_eq_ok {path text token : String} {bytes : UInt64} {d d' : Disk}
    (ran : (writeModule path text token).run d = (.ok bytes, d')) :
    d'.read (.ofText path) = .ok text.toUTF8 ∧ bytes = UInt64.ofNat text.utf8ByteSize := by
  obtain ⟨⟨⟩, d₁, written, last⟩ := run_bind_eq_ok ran
  obtain ⟨rfl, rfl⟩ : UInt64.ofNat text.utf8ByteSize = bytes ∧ d₁ = d' := by simpa using last
  exact ⟨read_of_writeFile (run_mapError_eq_ok written), rfl⟩

def join (stamp : Stamp) (options : SavingBookOptions) (directory : Directory) (input : String) :
    List SavingBook × RunReport :=
  let (legacy, skipped) := LegacyBook.extract input
  LegacyBook.reshapeAll directory {
    RunReport.start stamp.runId stamp.startedAt "saving_books" options.output with
    input := some options.input
    recordsMatched := UInt64.ofNat legacy.length
    blocksSkipped := UInt64.ofNat skipped } legacy

def putOut (stamp : Stamp) (options : SavingBookOptions) (joined : List SavingBook × RunReport) :
    GenerationPlan (Run SavingBookStore) := do
  let bytes ← writeModule options.output (SavingBook.moduleText joined.1) stamp.moduleToken
  let duration ← elapsed
  pure {
    outputPath := options.output
    report := { joined.2 with
      bytesWritten := bytes
      recordsWritten := UInt64.ofNat joined.1.length
      durationMs := duration }
    store := ⟨joined.1⟩ }

theorem transformSavingBooks_eq (stamp : Stamp) (options : SavingBookOptions) :
    transformSavingBooks stamp options = (do
      let input ← readInput options.input
      if ← (sameFile (.ofText options.input) (.ofText options.output)).mapError .disk then
        fail (.sameInputOutput options.output)
      else
        let directory ← options.customers.directory
        putOut stamp options (join stamp options directory input)) := rfl

theorem join_matched (stamp : Stamp) (options : SavingBookOptions) (directory : Directory)
    (input : String) :
    (join stamp options directory input).2.recordsMatched =
      .ofNat (join stamp options directory input).1.length := by
  obtain ⟨counts, warnings, report⟩ := LegacyBook.reshapeAll_report directory _ _
  rw [join, report, LegacyBook.reshapeAll_books, List.length_map]

theorem join_blocks (stamp : Stamp) (options : SavingBookOptions) (directory : Directory)
    (input : String) :
    ∃ skipped, (join stamp options directory input).2.blocksSkipped = .ofNat skipped ∧
      (join stamp options directory input).1.length + skipped =
        (Block.scan input.toList).length := by
  obtain ⟨counts, warnings, report⟩ := LegacyBook.reshapeAll_report directory _ _
  refine ⟨(LegacyBook.extract input).2, ?_, ?_⟩
  · rw [join, report]
  · rw [join, LegacyBook.reshapeAll_books, List.length_map]
    exact LegacyBook.length_extract input

/-- The two counters are exact for every input that a machine can hold. -/
theorem join_counted (stamp : Stamp) (options : SavingBookOptions) (directory : Directory)
    {input : String} (small : input.length < UInt64.size) :
    (join stamp options directory input).2.recordsMatched.toNat +
      (join stamp options directory input).2.blocksSkipped.toNat =
        (Block.scan input.toList).length := by
  obtain ⟨skipped, blocks, total⟩ := join_blocks stamp options directory input
  have bound := Block.Scan.length_blocks_le .start input.toList
  have within : (Block.scan input.toList).length < UInt64.size := by
    rw [String.length_toList] at bound
    exact Nat.lt_of_le_of_lt bound small
  rw [join_matched, blocks, UInt64.toNat_ofNat_of_lt' (by omega),
    UInt64.toNat_ofNat_of_lt' (by omega), total]

theorem join_nonneg (stamp : Stamp) (options : SavingBookOptions) (directory : Directory)
    (input : String) : ∀ b ∈ (join stamp options directory input).1, 0 ≤ b.balance.toInt := by
  rw [join, LegacyBook.reshapeAll_books]
  intro b member
  obtain ⟨legacy, -, rfl⟩ := List.mem_map.mp member
  exact LegacyBook.reshape_balance_nonneg legacy _

/-- What a run from `d` to `d'` that ends with `r` has read as `input`, written as `output`, and
counted. -/
structure Accounts (options : SavingBookOptions) (d d' : Disk) (r : Run SavingBookStore)
    (input output : String) : Prop where
  read_input : d.read (.ofText options.input) = .ok input.toUTF8
  read_output : d'.read (.ofText options.output) = .ok output.toUTF8
  matched : r.report.recordsMatched = .ofNat r.store.size
  written : r.report.recordsWritten = .ofNat r.store.size
  bytes : r.report.bytesWritten = .ofNat output.utf8ByteSize
  blocks : ∃ skipped, r.report.blocksSkipped = .ofNat skipped ∧
    r.store.size + skipped = (Block.scan input.toList).length
  counted : input.length < UInt64.size → r.report.recordsMatched.toNat +
    r.report.blocksSkipped.toNat = (Block.scan input.toList).length
  nonneg : ∀ b ∈ r.store.books, 0 ≤ b.balance.toInt
  books : (Extraction.ofText SavingBook.pattern output).blocks.map (·.values) =
    r.store.books.map SavingBook.values
  helpers : (Extraction.ofText SavingBook.pattern output).skipped = 9

theorem transform_accounts {stamp : Stamp} {options : SavingBookOptions} {d d' : Disk}
    {r : Run SavingBookStore} (ran : (transformSavingBooks stamp options).run d = (.ok r, d')) :
    ∃ input output, Accounts options d d' r input output := by
  rw [transformSavingBooks_eq] at ran
  obtain ⟨input, d₁, read, ran⟩ := run_bind_eq_ok ran
  obtain ⟨same, d₂, compared, ran⟩ := run_bind_eq_ok ran
  cases same with
  | true => cases ran
  | false =>
    obtain ⟨directory, d₃, joined, ran⟩ := run_bind_eq_ok ran
    obtain ⟨bytes, d₄, wrote, ran⟩ := run_bind_eq_ok ran
    obtain ⟨duration, d₅, timed, ran⟩ := run_bind_eq_ok ran
    have nonneg := join_nonneg stamp options directory input
    obtain ⟨found, skipped⟩ := SavingBook.ofText_moduleText nonneg
    obtain ⟨readOutput, size⟩ := writeModule_eq_ok wrote
    obtain ⟨-, rfl⟩ := Prod.mk.inj timed
    cases ran
    exact ⟨input, SavingBook.moduleText (join stamp options directory input).1, {
      read_input := (readInput_eq_ok read).2
      read_output := readOutput
      matched := join_matched stamp options directory input
      written := rfl
      bytes := size
      blocks := join_blocks stamp options directory input
      counted := join_counted stamp options directory
      nonneg := nonneg
      books := found
      helpers := skipped }⟩

def sampleStamp : Stamp := ⟨"run", "2024-01-01T00:00:00Z", "module", "report"⟩

def sampleInput : String :=
  "[\x7b bookid: \"B1\", customerid: \"CUST001\", typeid: \"T\", registertime: \"2024\", " ++
    "maturitydate: null, initialdeposit: 1, currentbalance: 2, interestrate: 1.5, " ++
    "status: \"active\" \x7d]"

def sampleDisk : Disk := ⟨[(["savingBooks.js"], .file sampleInput.toUTF8)], []⟩

theorem transform_accounts_sample : ∃ r d' input output,
    (transformSavingBooks sampleStamp {}).run sampleDisk = (.ok r, d') ∧ r.store.size = 1 ∧
      Accounts {} sampleDisk d' r input output := by
  have single : ((transformSavingBooks sampleStamp {}).run sampleDisk).1.toOption.map
      (·.store.size) = some 1 := by decide +kernel
  cases ran : (transformSavingBooks sampleStamp {}).run sampleDisk with
  | mk outcome d' =>
    rw [ran] at single
    cases outcome with
    | error e => cases single
    | ok r =>
      obtain ⟨input, output, accounts⟩ := transform_accounts ran
      exact ⟨r, d', input, output, rfl, Option.some.inj single, accounts⟩

end MockData.Generation
