import MockData.Command.Run
import MockData.Moment
import Std.Time.Zoned

/-!
The command on a real disk.
-/
namespace MockData.Main

def causeOf : IO.Error → DiskError
  | .noFileOrDirectory .. => .notFound
  | .alreadyExists .. => .taken
  | e => .other (toString e)

def attempt (action : IO α) : IO (Except DiskError α) := do
  try
    return .ok (← action)
  catch e =>
    return .error (causeOf e)

def succeeds (action : IO α) : IO Bool := return (← attempt action).isOk

def isDirectory (path : String) : IO Bool := do
  match ← attempt (IO.FS.realPath path) with
  | .ok found => found.isDir
  | .error _ => return false

def locate (path : String) : IO Location := do
  let found ← IO.FS.realPath path
  return (found.toString.splitOn "/").reverse.filter (· ≠ "")

def append (path : String) (data : ByteArray) : IO Unit := do
  let file ← IO.FS.Handle.mk path .append
  file.write data
  file.flush

def perform (started : Nat) : (a : Action) → IO (Except DiskError a.Result)
  | .read p => attempt (IO.FS.readBinFile p.text)
  | .probe p => do return .ok (← succeeds (IO.FS.realPath p.text))
  | .isDirectory p => do return .ok (← isDirectory p.text)
  | .canonical p => attempt (locate p.text)
  | .makeDirectory p => attempt (IO.FS.createDir p.text)
  | .create p => attempt (IO.FS.writeBinFile p.text .empty)
  | .append p data => attempt (append p.text data)
  | .sync p => attempt (discard (IO.FS.realPath p.text))
  | .rename old new => attempt (IO.FS.rename old.text new.text)
  | .remove p => attempt (IO.FS.removeFile p.text)
  | .elapsed => do return .ok (UInt64.ofNat ((← IO.monoMsNow) - started))

def carryOut (started : Nat) : Plan ε α → IO (Except ε α)
  | .done r => return r
  | .act a next => do carryOut started (next (← perform started a))

def randomDigits : (count : Nat) → IO (List Char)
  | 0 => return []
  | count + 1 => do return Text.hexDigit (← IO.rand 0 15) :: (← randomDigits count)

def randomToken : IO String := return String.ofList (← randomDigits 32)

def randomId : IO String := do
  let groups ← [8, 4, 3, 3, 12].mapM randomDigits
  let variant := Text.hexDigit (← IO.rand 8 11)
  match groups with
  | [a, b, c, d, e] => return "-".intercalate ([a, b, '4' :: c, variant :: d, e].map String.ofList)
  | _ => return ""

def now : IO Moment := do
  let time ← Std.Time.Timestamp.now
  let nanoseconds := time.toNanosecondsSinceUnixEpoch.val.toNat
  return ⟨nanoseconds / 1000000000, nanoseconds % 1000000000⟩

def stamp : IO Generation.Stamp :=
  return ⟨← randomId, (← now).text, ← randomToken, ← randomToken⟩

end MockData.Main

open MockData

def main (args : List String) : IO UInt32 := do
  let plan : Plan String Command.Outcome := Command.plan (← Main.stamp) args
  match ← Main.carryOut (← IO.monoMsNow) plan with
  | .error problem =>
    IO.eprint problem
    return 1
  | .ok outcome =>
    IO.print outcome.output
    IO.eprint outcome.problem
    return outcome.status.toUInt32
