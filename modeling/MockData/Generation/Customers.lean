import MockData.Customer.Script
import MockData.Customer.Store
import MockData.Generation.Basic

/-!
The run that writes a table of customers as a module.
-/
namespace MockData.Generation

def issueWarning (i : DatasetIssue) : RunIssue := .warning i.code i.message (some i.recordId)

def defaultCustomersPath : String := "customers.js"

def generateCustomers (stamp : Stamp) (output : String) (customers : List Customer) :
    GenerationPlan (Run CustomerStore) := do
  let start := RunReport.start stamp.runId stamp.startedAt "customers" output
  let issues ← (Plan.ofExcept (Customer.validate customers)).mapError .dataset
  let report := start.recordWarnings (issues.map issueWarning)
  let bytes ← writeModule output (Customer.moduleText customers) stamp.moduleToken
  let duration ← elapsed
  pure {
    outputPath := output
    report := { report with
      bytesWritten := bytes
      recordsMatched := UInt64.ofNat customers.length
      recordsWritten := UInt64.ofNat customers.length
      durationMs := duration }
    store := ⟨customers⟩ }

end MockData.Generation
