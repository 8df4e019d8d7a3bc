import MockData.Disk.Error
import MockData.Disk.Path

/-!
A disk of directories and regular files, and what the basic operations on it do. Without links,
every file has one location: the names on the way to it from the root.
-/
namespace MockData

/-- The innermost name comes first; the root is the empty list. -/
abbrev Location := List String

inductive Node
  | file (data : ByteArray)
  | directory

def Node.isDirectory : Node → Bool
  | .file _ => false
  | .directory => true

structure Disk where
  entries : List (Location × Node)
  cwd : Location

namespace Disk

def get? (d : Disk) (l : Location) : Option Node :=
  if l = [] then some .directory else (d.entries.find? (·.1 = l)).map (·.2)

def erase (d : Disk) (l : Location) : Disk := { d with entries := d.entries.filter (·.1 ≠ l) }

def put (d : Disk) (l : Location) (n : Node) : Disk :=
  { d with entries := (l, n) :: (d.erase l).entries }

def isDirectory (d : Disk) (l : Location) : Bool := (d.get? l).any Node.isDirectory

def isTooLong (name : String) : Bool := 255 < name.utf8ByteSize

def step (d : Disk) (l : Location) : PathPart → Except DiskError Location
  | part =>
    if d.isDirectory l then
      match part with
      | .up => .ok l.tail
      | .name s =>
        if isTooLong s then .error .nameTooLong
        else if (d.get? (s :: l)).isSome then .ok (s :: l)
        else .error .notFound
    else .error .notDirectory

def walk (d : Disk) (start : Location) : List PathPart → Except DiskError Location
  | [] => .ok start
  | part :: above => do d.step (← walk d start above) part

def start (d : Disk) (p : Path) : Location := if p.absolute then [] else d.cwd

def checkNames (p : Path) : Except DiskError Unit :=
  if p.hasNul then throw .nulInPath
  else if p.isEmpty then throw .notFound
  else pure ()

def checkLength (size : Nat) : Except DiskError Unit :=
  if 4096 ≤ size then throw .nameTooLong else pure ()

def check (p : Path) : Except DiskError Unit := do
  checkNames p
  checkLength p.text.utf8ByteSize

def follow (d : Disk) (p : Path) : Except DiskError Location := do
  let l ← d.walk (d.start p) p.parts
  if p.ending ≠ .bare ∧ !d.isDirectory l then throw .notDirectory
  return l

def locate (d : Disk) (p : Path) : Except DiskError Location := do
  check p
  d.follow p

def locationText (l : Location) : String := l.foldr (fun name text => text ++ "/" ++ name) ""

/-- The location of what a path names, told by its names from the root. Only these have to fit
into a path, since the path itself is followed part by part. -/
def canonical (d : Disk) (p : Path) : Except DiskError Location := do
  checkNames p
  let l ← d.follow p
  checkLength (locationText l).utf8ByteSize
  return l

/-- The directory in which the last part of a path lies, and its name there. A path that ends in
dots has no such name. -/
def place (d : Disk) (p : Path) : Except DiskError (Location × Option String) := do
  check p
  let (name, above) := match p.ending, p.parts with
    | .bare, .name s :: above | .slash, .name s :: above => (some s, above)
    | .bare, _ :: above | .slash, _ :: above => (none, above)
    | _, parts => (none, parts)
  let l ← d.walk (d.start p) above
  if d.isDirectory l then return (l, name) else throw .notDirectory

def read (d : Disk) (p : Path) : Except DiskError ByteArray := do
  match d.get? (← d.locate p) with
  | some (.file data) => return data
  | _ => throw .isDirectory

def makeDirectory (d : Disk) (p : Path) : Except DiskError Disk := do
  match ← d.place p with
  | (_, none) => throw .taken
  | (l, some s) =>
    if isTooLong s then throw .nameTooLong
    else if (d.get? (s :: l)).isSome then throw .taken
    else return d.put (s :: l) .directory

/-- Opens an empty file for writing, in place of any file of that name. -/
def create (d : Disk) (p : Path) : Except DiskError Disk := do
  match ← d.place p with
  | (_, none) => throw .isDirectory
  | (l, some s) =>
    if p.ending = .slash then throw .isDirectory
    else if isTooLong s then throw .nameTooLong
    else if d.isDirectory (s :: l) then throw .isDirectory
    else return d.put (s :: l) (.file .empty)

def append (d : Disk) (p : Path) (data : ByteArray) : Except DiskError Disk := do
  let l ← d.locate p
  match d.get? l with
  | some (.file old) => return d.put l (.file (old ++ data))
  | _ => throw .isDirectory

/-- Gives a file another name, in place of any file of that name. -/
def rename (d : Disk) (old new : Path) : Except DiskError Disk := do
  let (oldParent, oldName) ← d.place old
  let (newParent, newName) ← d.place new
  match oldName, newName with
  | some s, some t =>
    match d.get? (s :: oldParent) with
    | none => throw .notFound
    | some .directory => throw .isDirectory
    | some (.file data) =>
      if isTooLong t then throw .nameTooLong
      else if old.ending = .slash ∨ new.ending = .slash then throw .notDirectory
      else if d.isDirectory (t :: newParent) then throw .isDirectory
      else return (d.erase (s :: oldParent)).put (t :: newParent) (.file data)
  | _, _ => throw .busy

def remove (d : Disk) (p : Path) : Except DiskError Disk := do
  let l ← d.locate p
  if d.isDirectory l then throw .isDirectory else return d.erase l

theorem isDirectory_iff {d : Disk} {l : Location} :
    d.isDirectory l ↔ d.get? l = some .directory := by
  rw [isDirectory]
  cases d.get? l with
  | none => simp
  | some n => cases n <;> simp [Node.isDirectory]

theorem get?_put_self (d : Disk) {l : Location} (n : Node) (h : l ≠ []) :
    (d.put l n).get? l = some n := by
  simp [get?, put, h]

theorem get?_erase_of_ne (d : Disk) {l m : Location} (h : m ≠ l) :
    (d.erase l).get? m = d.get? m := by
  have : (d.entries.filter (·.1 ≠ l)).find? (·.1 = m) = d.entries.find? (·.1 = m) := by
    rw [List.find?_filter]
    congr 1
    funext e
    by_cases he : e.1 = m
    · simp [he, h]
    · simp [he]
  simp only [get?, erase]
  rw [this]

theorem get?_put_of_ne (d : Disk) {l m : Location} (n : Node) (h : m ≠ l) :
    (d.put l n).get? m = d.get? m := by
  have e := get?_erase_of_ne d h
  simp only [get?, put] at e ⊢
  rw [List.find?_cons_of_neg (by simpa using fun e => h e.symm)]
  exact e

end Disk

end MockData
