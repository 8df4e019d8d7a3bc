import MockData.Customer.Builtin
import MockData.Customer.Script
import MockData.Generation.Basic
import MockData.SavingBook.Reshape
import MockData.SavingBook.Script
import MockData.SavingBook.Store

/-!
The run that reads a module of saving books in their former layout, joins them with customers, and
writes them as a module in the new layout.
-/
namespace MockData.Generation

/-- Where the customers of the join come from: the built-in table, or a module of customers. -/
inductive CustomerSource
  | builtin
  | file (path : String)
  deriving DecidableEq, Repr

structure SavingBookOptions where
  input : String := "savingBooks.js"
  output : String := "savingBooks_new.js"
  customers : CustomerSource := .builtin
  deriving DecidableEq, Repr

def CustomerSource.directory : CustomerSource → GenerationPlan Directory
  | .builtin => pure (.ofCustomers Customer.builtin)
  | .file path => do
    let text ← readInput path
    pure (.ofCustomers (Customer.extract text).1)

def transformSavingBooks (stamp : Stamp) (options : SavingBookOptions) :
    GenerationPlan (Run SavingBookStore) := do
  let text ← readInput options.input
  if ← (Plan.sameFile (.ofText options.input) (.ofText options.output)).mapError .disk then
    Plan.fail (.sameInputOutput options.output)
  else
    let directory ← options.customers.directory
    let (legacy, skipped) := LegacyBook.extract text
    let start := {
      RunReport.start stamp.runId stamp.startedAt "saving_books" options.output with
      input := some options.input
      recordsMatched := UInt64.ofNat legacy.length
      blocksSkipped := UInt64.ofNat skipped }
    let (books, report) := LegacyBook.reshapeAll directory start legacy
    let bytes ← writeModule options.output (SavingBook.moduleText books) stamp.moduleToken
    let duration ← elapsed
    pure {
      outputPath := options.output
      report := { report with
        bytesWritten := bytes
        recordsWritten := UInt64.ofNat books.length
        durationMs := duration }
      store := ⟨books⟩ }

end MockData.Generation
