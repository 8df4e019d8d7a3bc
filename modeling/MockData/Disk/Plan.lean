import MockData.Disk.Basic

/-!
Plans: what a program does to a disk, step by step, as a value. A plan can be run on a disk as it
is held here, on one whose steps fail, or on a real one.
-/
namespace MockData

inductive Action
  | read (p : Path)
  | probe (p : Path)
  | isDirectory (p : Path)
  | canonical (p : Path)
  | makeDirectory (p : Path)
  | create (p : Path)
  | append (p : Path) (data : ByteArray)
  | sync (p : Path)
  | rename (old new : Path)
  | remove (p : Path)
  | elapsed

def Action.Result : Action → Type
  | .read _ => ByteArray
  | .probe _ | .isDirectory _ => Bool
  | .canonical _ => Location
  | .makeDirectory _ | .create _ | .append .. | .sync _ | .rename .. | .remove _ => Unit
  | .elapsed => UInt64

inductive Plan (ε α : Type)
  | done (r : Except ε α)
  | act (a : Action) (next : Except DiskError a.Result → Plan ε α)

namespace Plan

def bind (p : Plan ε α) (f : α → Plan ε β) : Plan ε β :=
  match p with
  | done (.ok a) => f a
  | done (.error e) => done (.error e)
  | act a next => act a fun r => (next r).bind f

instance : Monad (Plan ε) where
  pure a := done (.ok a)
  bind := bind

def fail (e : ε) : Plan ε α := done (.error e)

def ofExcept : Except ε α → Plan ε α := done

def attempt (a : Action) : Plan ε (Except DiskError a.Result) := act a fun r => done (.ok r)

def perform (a : Action) : Plan DiskError a.Result := act a done

def mapError (f : ε → ε') : Plan ε α → Plan ε' α
  | done r => done (r.mapError f)
  | act a next => act a fun r => (next r).mapError f

/-- Makes a value of either end of a plan. -/
def settle (f : Except ε α → β) : Plan ε α → Plan ε' β
  | done r => done (.ok (f r))
  | act a next => act a fun r => (next r).settle f

end Plan

namespace Disk

/-- Keeps the disk when a change to it fails. -/
def changed (d : Disk) : Except DiskError Disk → Except DiskError Unit × Disk
  | .ok d' => (.ok (), d')
  | .error e => (.error e, d)

/-- No time passes on a disk that is only held here, and nothing is ever left to be synchronized. -/
def perform (d : Disk) : (a : Action) → Except DiskError a.Result × Disk
  | .read p => (d.read p, d)
  | .probe p => (.ok (d.locate p).isOk, d)
  | .isDirectory p => (.ok (match d.locate p with
      | .ok l => d.isDirectory l
      | .error _ => false), d)
  | .canonical p => (d.canonical p, d)
  | .makeDirectory p => d.changed (d.makeDirectory p)
  | .create p => d.changed (d.create p)
  | .append p data => d.changed (d.append p data)
  | .sync p => ((d.locate p).map fun _ => (), d)
  | .rename old new => d.changed (d.rename old new)
  | .remove p => d.changed (d.remove p)
  | .elapsed => (.ok (0 : UInt64), d)

end Disk

def Plan.run (d : Disk) : Plan ε α → Except ε α × Disk
  | .done r => (r, d)
  | .act a next => let (r, d) := d.perform a; (next r).run d

theorem Plan.run_bind (d : Disk) (p : Plan ε α) (f : α → Plan ε β) :
    (p.bind f).run d = match p.run d with
      | (.ok a, d) => (f a).run d
      | (.error e, d) => (.error e, d) := by
  induction p generalizing d with
  | done r => cases r <;> rfl
  | act a next ih => simp only [Plan.bind, Plan.run]; exact ih _ _

end MockData
