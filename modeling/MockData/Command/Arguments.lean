/-!
The arguments of the command. Options come before or after the name of a subcommand, each at most
once on either side; a value follows its option or an equals sign.
-/
namespace MockData.Command

inductive Subcommand
  | customers
  | savingBooks
  deriving DecidableEq, Repr

namespace Subcommand

def name : Subcommand → String
  | .customers => "customers"
  | .savingBooks => "saving-books"

def all : List Subcommand := [.customers, .savingBooks]

def ofName? (s : String) : Option Subcommand := all.find? (·.name = s)

def options : Subcommand → List String
  | .customers => ["out", "report", "config"]
  | .savingBooks => ["input", "out", "customers-module", "report", "config"]

end Subcommand

/-- Why arguments lead to no run: they are refused, or they ask for a text. -/
inductive Stop
  | refused
  | version
  | help (about : Option Subcommand)
  deriving DecidableEq, Repr

abbrev Options := List (String × String)

structure Arguments where
  config : String
  subcommand : Subcommand
  options : Options
  deriving DecidableEq, Repr

/-- The options that a level of arguments knows; only the outer level tells the version. -/
structure Level where
  known : List String
  about : Option Subcommand
  deriving DecidableEq, Repr

def topLevel : Level := ⟨["config"], none⟩

def Level.ofSubcommand (s : Subcommand) : Level := ⟨s.options, some s⟩

def splitOption (cs : List Char) : String × Option String :=
  match cs.dropWhile (· ≠ '=') with
  | [] => (String.ofList cs, none)
  | _ :: value => (String.ofList (cs.takeWhile (· ≠ '=')), some (String.ofList value))

def give (given : Options) (name value : String) : Except Stop Options :=
  if value = "" ∨ (given.lookup name).isSome then .error .refused
  else .ok (given ++ [(name, value)])

def Level.ask (level : Level) (name : String) : Stop :=
  if name = "help" then .help level.about
  else if name = "version" ∧ level.about = none then .version
  else .refused

def Level.askShort (level : Level) : Char → Stop
  | 'h' => .help level.about
  | 'V' => if level.about = none then .version else .refused
  | _ => .refused

/-- A value that follows its option does not look like an option itself. -/
def isValue (s : String) : Bool :=
  match s.toList with
  | '-' :: _ :: _ => false
  | _ => true

/-- Reads options up to an argument that is none. A double hyphen ends them, and nothing but
arguments of another kind could follow it. -/
def Level.read (level : Level) (given : Options) :
    List String → Except Stop (Options × Option (String × List String))
  | [] => .ok (given, none)
  | arg :: rest => match arg.toList with
    | ['-', '-'] => if level.about.isSome ∧ rest = [] then .ok (given, none) else .error .refused
    | '-' :: '-' :: cs => match splitOption cs with
      | (name, some value) =>
        if name ∈ level.known then do level.read (← give given name value) rest
        else .error .refused
      | (name, none) =>
        if name ∈ level.known then
          match rest with
          | value :: rest =>
            if isValue value then do level.read (← give given name value) rest
            else .error .refused
          | [] => .error .refused
        else .error (level.ask name)
    | '-' :: c :: _ => .error (level.askShort c)
    | _ => .ok (given, some (arg, rest))

def helpAbout : List String → Stop
  | [] => .help none
  | [name] => match Subcommand.ofName? name with
    | some s => .help (some s)
    | none => if name = "help" then .help none else .refused
  | _ => .refused

namespace Arguments

def defaultConfig : String := "mockgen.toml"

def ofList (args : List String) : Except Stop Arguments := do
  match ← topLevel.read [] args with
  | (_, none) => throw .refused
  | (outer, some (name, rest)) =>
    match Subcommand.ofName? name with
    | none => throw (if name = "help" then helpAbout rest else .refused)
    | some s =>
      match ← (Level.ofSubcommand s).read [] rest with
      | (inner, none) =>
        return ⟨((inner.lookup "config").or (outer.lookup "config")).getD defaultConfig, s, inner⟩
      | (_, some _) => throw .refused

end Arguments

end MockData.Command
