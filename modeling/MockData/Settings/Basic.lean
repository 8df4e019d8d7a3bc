import MockData.Disk.Write
import MockData.Toml.Document

/-!
Settings of the command. A settings file may leave out anything, and what it leaves out, or the
whole file, is replaced by defaults.
-/
namespace MockData

structure CustomerSettings where
  output : String := "customers.js"
  deriving DecidableEq, Repr

structure SavingBookSettings where
  input : String := "savingBooks.js"
  output : String := "savingBooks_new.js"
  customersModule : Option String := none
  deriving DecidableEq, Repr

structure LoggingSettings where
  level : String := "info"
  json : Bool := false
  deriving DecidableEq, Repr

structure Settings where
  customers : CustomerSettings := {}
  savingBooks : SavingBookSettings := {}
  logging : LoggingSettings := {}
  deriving DecidableEq, Repr

inductive SettingsError
  | unreadable (path : String) (cause : DiskError)
  | invalid (path : String)
  deriving DecidableEq, Repr

def SettingsError.message : SettingsError → String
  | .unreadable path cause => "failed to read settings " ++ path ++ ": " ++ cause.message
  | .invalid path => "invalid settings " ++ path

namespace Settings

open Toml

def text? : Value → Option String
  | .text s => some s
  | _ => none

def boolean? : Value → Option Bool
  | .boolean b => some b
  | _ => none

/-- A member of a group of settings: by its name in a table, by its place in an array. A point in
time is a group without members, and any other value is no group. -/
def member? (v : Value) (place : Nat) (name : String) : Option (Option Value) :=
  match v with
  | .table _ es => some (es.lookup name)
  | .array vs => some vs[place]?
  | .tables ts => some ((ts.reverse[place]?).map (.table .headed))
  | .dateTime => some none
  | _ => none

/-- Reads a member; one that is left out has a default, one of another type makes the file
invalid. -/
def readMember (v : Value) (place : Nat) (name : String) (read : Value → Option α) (default : α) :
    Option α :=
  (member? v place name).bind fun
    | none => some default
    | some w => read w

def customers? (v : Value) : Option CustomerSettings := do
  return { output := ← readMember v 0 "output" text? ({} : CustomerSettings).output }

def savingBooks? (v : Value) : Option SavingBookSettings := do
  let default : SavingBookSettings := {}
  return {
    input := ← readMember v 0 "input" text? default.input
    output := ← readMember v 1 "output" text? default.output
    customersModule :=
      ← readMember v 2 "customers_module" (fun w => (text? w).map some) default.customersModule }

def logging? (v : Value) : Option LoggingSettings := do
  let default : LoggingSettings := {}
  return {
    level := ← readMember v 0 "level" text? default.level
    json := ← readMember v 1 "json" boolean? default.json }

def ofValue? (v : Value) : Option Settings := do
  return {
    customers := ← readMember v 0 "customers" customers? {}
    savingBooks := ← readMember v 1 "saving_books" savingBooks? {}
    logging := ← readMember v 2 "logging" logging? {} }

def ofText? (s : String) : Option Settings := (Document.ofText? s).bind ofValue?

def load (path : String) : Plan SettingsError Settings := do
  match ← Plan.attempt (.probe (.ofText path)) with
  | .ok true =>
    let s ← (Plan.readText (.ofText path)).mapError (.unreadable path)
    match ofText? s with
    | some settings => pure settings
    | none => Plan.fail (.invalid path)
  | _ => pure {}

end Settings

end MockData
