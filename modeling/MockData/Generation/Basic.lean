import MockData.Customer.Validation
import MockData.Disk.Write
import MockData.Report.Json

/-!
What all runs share: how they fail, what they answer, and how they write modules and reports.
-/
namespace MockData.Generation

inductive GenerationError
  | missingInput (path : String) (cause : DiskError)
  | sameInputOutput (path : String)
  | dataset (cause : DatasetError)
  | disk (cause : DiskError)
  deriving DecidableEq, Repr

def GenerationError.message : GenerationError → String
  | .missingInput path cause => "input not readable at " ++ path ++ ": " ++ cause.message
  | .sameInputOutput path => "output path " ++ path ++ " is the input path"
  | .dataset cause => cause.message
  | .disk cause => "io error: " ++ cause.message

/-- What sets a run apart from all others; the tokens name its temporary files. -/
structure Stamp where
  runId : String
  startedAt : String
  moduleToken : String
  reportToken : String
  deriving DecidableEq, Repr

/-- What a run leaves behind: the path it wrote, its report, and a store of what it wrote. -/
structure Run (σ : Type) where
  outputPath : String
  report : RunReport
  store : σ

abbrev GenerationPlan := Plan GenerationError

def writeModule (path text token : String) : GenerationPlan UInt64 := do
  (Plan.writeFile (.ofText path) text.toUTF8 token).mapError .disk
  pure (UInt64.ofNat text.utf8ByteSize)

def writeReport (path : String) (report : RunReport) (token : String) : GenerationPlan Unit :=
  (Plan.writeFile (.ofText path) (report.toJson.render .pretty).toUTF8 token).mapError .disk

def readInput (path : String) : GenerationPlan String :=
  (Plan.readText (.ofText path)).mapError (.missingInput path)

def elapsed : GenerationPlan UInt64 := (Plan.perform .elapsed).mapError .disk

end MockData.Generation
