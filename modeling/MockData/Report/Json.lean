import MockData.Json.Record
import MockData.Json.Value
import MockData.Report.Basic

/-!
Reports and issues in the data format. An issue without a record and a report without an input
have no such member.
-/
namespace MockData

open Json

namespace RunIssue

def jsonRecord : Record RunIssue where
  blank := ⟨"", "", "", none⟩
  members := [
    .required "level" text fun s i => { i with level := s },
    .required "code" text fun s i => { i with code := s },
    .required "message" text fun s i => { i with message := s },
    .optional .allowed "record_id" text fun s i => { i with recordId := s }]

def toJson (i : RunIssue) : Value := .object ([
    ("level", .text i.level), ("code", .text i.code), ("message", .text i.message)]
  ++ (i.recordId.map fun s => ("record_id", .text s)).toList)

end RunIssue

namespace Counts

/-- Counts from pairs in any order; of two with one key the later is kept. -/
def ofList (ps : List (String × UInt64)) : Counts :=
  ps.foldl (fun counts p => counts.insert p.1 p.2) .empty

def toJson (counts : Counts) : Value := .object (counts.map fun p => (p.1, .number p.2.toNat))

end Counts

namespace RunReport

def jsonRecord : Record RunReport where
  blank := .start "" "" "" ""
  members := [
    .required "run_id" text fun s r => { r with runId := s },
    .required "pipeline" text fun s r => { r with pipeline := s },
    .required "started_at" text fun s r => { r with startedAt := s },
    .required "duration_ms" uint64 fun n r => { r with durationMs := n },
    .optional .allowed "input" text fun s r => { r with input := s },
    .required "output" text fun s r => { r with output := s },
    .required "records_matched" uint64 fun n r => { r with recordsMatched := n },
    .required "records_written" uint64 fun n r => { r with recordsWritten := n },
    .required "blocks_skipped" uint64 fun n r => { r with blocksSkipped := n },
    .required "bytes_written" uint64 fun n r => { r with bytesWritten := n },
    .required "warnings_by_code" (pairs uint64) fun ps r =>
      { r with warningsByCode := Counts.ofList ps },
    .required "warnings" (items RunIssue.jsonRecord.read) fun is r => { r with warnings := is }]

def toJson (r : RunReport) : Value := .object ([
    ("run_id", .text r.runId), ("pipeline", .text r.pipeline), ("started_at", .text r.startedAt),
    ("duration_ms", .number r.durationMs.toNat)]
  ++ (r.input.map fun s => ("input", .text s)).toList
  ++ [("output", .text r.output), ("records_matched", .number r.recordsMatched.toNat),
    ("records_written", .number r.recordsWritten.toNat),
    ("blocks_skipped", .number r.blocksSkipped.toNat),
    ("bytes_written", .number r.bytesWritten.toNat),
    ("warnings_by_code", r.warningsByCode.toJson),
    ("warnings", .array (r.warnings.map RunIssue.toJson))])

end RunReport

end MockData
