import MockData.Disk.Plan

/-!
Writing files whole. The data goes to a new file beside the destination, which then takes the
destination's name, so that under that name there is never a part of the data.
-/
namespace MockData

namespace Plan

def makeDirectoryHere (p : Path) : Plan DiskError Unit := do
  match ← attempt (.makeDirectory p) with
  | .ok () => pure ()
  | .error e =>
    match ← attempt (.isDirectory p) with
    | .ok true => pure ()
    | _ => fail e

def makeDirectories (start : PathStart) : List PathStep → Plan DiskError Unit
  | [] => if start = .nothing then pure () else makeDirectoryHere ⟨start, [], ""⟩
  | step :: above => do
    let p : Path := ⟨start, step :: above, ""⟩
    match ← attempt (.makeDirectory p) with
    | .ok () => pure ()
    | .error .notFound =>
      makeDirectories start above
      makeDirectoryHere p
    | .error e =>
      match ← attempt (.isDirectory p) with
      | .ok true => pure ()
      | _ => fail e

def temporaryName (name token : String) : String := "." ++ name ++ "." ++ token ++ ".tmp"

def writeFile (p : Path) (data : ByteArray) (token : String) : Plan DiskError Unit := do
  makeDirectories p.start p.steps.tail
  match p.fileName? with
  | none => fail .noFileName
  | some name =>
    let temporary := p.withFileName (temporaryName name token)
    perform (.create temporary)
    perform (.append temporary data)
    perform (.sync temporary)
    match ← attempt (.rename temporary p) with
    | .ok () => if p.parent.isEmpty then pure () else perform (.sync p.parent)
    | .error e =>
      discard (attempt (.remove temporary))
      fail e

def readText (p : Path) : Plan DiskError String := do
  match String.fromUTF8? (← perform (.read p)) with
  | some s => pure s
  | none => fail .notText

/-- Whether `output` names the file that is at `input`. An output that is not there yet is taken
to be its own name in the directory before it. -/
def sameFile (input output : Path) : Plan DiskError Bool := do
  let l : Location ← perform (.canonical input)
  match ← attempt (.probe output) with
  | .ok true =>
    let m : Location ← perform (.canonical output)
    pure (decide (l = m))
  | _ =>
    let parent := if output.parent.isEmpty then .here else output.parent
    match ← attempt (.canonical parent), output.fileName? with
    | .ok m, some name => pure (decide (l = name :: m))
    | _, _ => pure false

end Plan

end MockData
