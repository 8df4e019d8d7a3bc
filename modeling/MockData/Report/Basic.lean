/-!
Reports of runs. A report carries the warnings of its run and counts them by code, and the counts
are in the order of the codes.
-/
namespace MockData

structure RunIssue where
  level : String
  code : String
  message : String
  recordId : Option String
  deriving DecidableEq, Repr

def RunIssue.warning (code message : String) (recordId : Option String) : RunIssue :=
  ⟨"warning", code, message, recordId⟩

namespace Counts

variable {key : String} {n : UInt64} {entries : List (String × UInt64)}

def setEntry (key : String) (n : UInt64) : List (String × UInt64) → List (String × UInt64)
  | [] => [(key, n)]
  | (k, m) :: rest =>
    if key = k then (k, n) :: rest
    else if key < k then (key, n) :: (k, m) :: rest
    else (k, m) :: setEntry key n rest

theorem mem_keys_setEntry {code : String} :
    code ∈ (setEntry key n entries).map (·.1) ↔ code = key ∨ code ∈ entries.map (·.1) := by
  induction entries with
  | nil => simp [setEntry]
  | cons p entries ih =>
    rw [setEntry]
    split
    · rename_i same
      simp [same]
    · split
      · simp
      · simp only [List.map_cons, List.mem_cons, ih]
        exact or_left_comm

theorem ordered_setEntry (ordered : (entries.map (·.1)).Pairwise (· < ·)) :
    ((setEntry key n entries).map (·.1)).Pairwise (· < ·) := by
  induction entries with
  | nil => simp [setEntry]
  | cons p rest ih =>
    obtain ⟨k, m⟩ := p
    rw [setEntry]
    obtain ⟨first, later⟩ := List.pairwise_cons.mp ordered
    split
    · exact ordered
    · rename_i other
      split
      · rename_i before
        refine List.pairwise_cons.mpr ⟨fun l member => ?_, ordered⟩
        rcases List.mem_cons.mp member with rfl | member
        · exact before
        · exact String.lt_trans before (first l member)
      · rename_i notBefore
        refine List.pairwise_cons.mpr ⟨fun l member => ?_, ih later⟩
        rcases mem_keys_setEntry.mp member with rfl | member
        · refine Decidable.byContradiction fun notAfter => other ?_
          exact String.le_antisymm (String.not_lt.mp notAfter) (String.not_lt.mp notBefore)
        · exact first l member

end Counts

/-- Numbers by key, in ascending order of the keys. -/
@[ext]
structure Counts where
  entries : List (String × UInt64)
  ordered : (entries.map (·.1)).Pairwise (· < ·) := by simp
  deriving DecidableEq, Repr

namespace Counts

variable {key : String} {n : UInt64}

def empty : Counts where
  entries := []

def insert (key : String) (n : UInt64) (counts : Counts) : Counts :=
  ⟨setEntry key n counts.entries, ordered_setEntry counts.ordered⟩

@[simp]
theorem entries_insert (counts : Counts) :
    (counts.insert key n).entries = setEntry key n counts.entries := rfl

def get (counts : Counts) (key : String) : UInt64 :=
  ((counts.entries.find? (·.1 = key)).map (·.2)).getD 0

def map {α : Type} (f : String × UInt64 → α) (counts : Counts) : List α := counts.entries.map f

def increment (counts : Counts) (key : String) : Counts :=
  counts.insert key (counts.get key + 1)

end Counts

structure RunReport where
  runId : String
  pipeline : String
  startedAt : String
  durationMs : UInt64
  input : Option String
  output : String
  recordsMatched : UInt64
  recordsWritten : UInt64
  blocksSkipped : UInt64
  bytesWritten : UInt64
  warningsByCode : Counts
  warnings : List RunIssue
  deriving DecidableEq, Repr

namespace RunReport

def start (runId startedAt pipeline output : String) : RunReport where
  runId := runId
  pipeline := pipeline
  startedAt := startedAt
  durationMs := 0
  input := none
  output := output
  recordsMatched := 0
  recordsWritten := 0
  blocksSkipped := 0
  bytesWritten := 0
  warningsByCode := .empty
  warnings := []

def recordWarning (r : RunReport) (issue : RunIssue) : RunReport :=
  { r with
    warningsByCode := r.warningsByCode.increment issue.code
    warnings := r.warnings ++ [issue] }

def recordWarnings (r : RunReport) (issues : List RunIssue) : RunReport :=
  issues.foldl recordWarning r

def warningCount (r : RunReport) (code : String) : UInt64 := r.warningsByCode.get code

end RunReport

end MockData
