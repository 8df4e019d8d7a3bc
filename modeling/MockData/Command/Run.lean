import MockData.Command.Arguments
import MockData.Generation.Customers
import MockData.Generation.SavingBooks
import MockData.Settings.Basic
import MockData.Settings.LogFilter

/-!
What the command does: it loads its settings, carries out the run that its arguments name, writes
the report if one is asked for, and tells what it wrote.
-/
namespace MockData.Command

open Generation

inductive CommandError
  | settings (cause : SettingsError)
  | logging (level : String) (fault : LogFilter.Fault)
  | generation (cause : GenerationError)
  deriving DecidableEq, Repr

def CommandError.message : CommandError → String
  | .settings cause => "settings error: " ++ cause.message
  | .logging level .malformed => "logging setup failed: invalid log level '" ++ level ++ "'"
  | .logging level .cutCharacter =>
    "logging setup failed: log level '" ++ level ++ "' is cut inside a character"
  | .generation cause => "generation error: " ++ cause.message

structure Outcome where
  status : UInt8
  output : String
  problem : String
  deriving DecidableEq, Repr

def versionText : String := "mockgen 0.1.0\n"

def helpText : Option Subcommand → String
  | none => "Mock data module generator\n\n"
    ++ "Usage: mockgen [OPTIONS] <COMMAND>\n\n"
    ++ "Commands:\n"
    ++ "  customers     Render the customer table into a module\n"
    ++ "  saving-books  Rewrite a legacy saving-book module into the new layout\n"
    ++ "  help          Print this message or the help of the given subcommand(s)\n\n"
    ++ "Options:\n"
    ++ "      --config <CONFIG>  Settings file; defaults apply when it does not exist "
    ++ "[default: mockgen.toml]\n"
    ++ "  -h, --help             Print help\n"
    ++ "  -V, --version          Print version\n"
  | some .customers => "Render the customer table into a module\n\n"
    ++ "Usage: mockgen customers [OPTIONS]\n\n"
    ++ "Options:\n"
    ++ "      --out <OUT>        Output module path\n"
    ++ "      --report <REPORT>  Write the run report as JSON\n"
    ++ "      --config <CONFIG>  Settings file; defaults apply when it does not exist "
    ++ "[default: mockgen.toml]\n"
    ++ "  -h, --help             Print help\n"
  | some .savingBooks => "Rewrite a legacy saving-book module into the new layout\n\n"
    ++ "Usage: mockgen saving-books [OPTIONS]\n\n"
    ++ "Options:\n"
    ++ "      --input <INPUT>                        Legacy module to read\n"
    ++ "      --out <OUT>                            Output module path\n"
    ++ "      --customers-module <CUSTOMERS_MODULE>  Rendered customer module to join against "
    ++ "instead of the built-in table\n"
    ++ "      --report <REPORT>                      Write the run report as JSON\n"
    ++ "      --config <CONFIG>                      Settings file; defaults apply when it does "
    ++ "not exist [default: mockgen.toml]\n"
    ++ "  -h, --help                                 Print help\n"

def Stop.outcome : Stop → Outcome
  | .refused => ⟨2, "", "error: invalid arguments\n\nFor more information, try '--help'.\n"⟩
  | .version => ⟨0, versionText, ""⟩
  | .help about => ⟨0, helpText about, ""⟩

def withReport (stamp : Stamp) (path : Option String) (plan : GenerationPlan (Run σ)) :
    GenerationPlan (Run σ) := do
  let run ← plan
  match path with
  | some path => writeReport path run.report stamp.reportToken
  | none => pure ()
  pure run

def customers (stamp : Stamp) (settings : Settings) (options : Options) :
    GenerationPlan (Run CustomerStore) :=
  withReport stamp (options.lookup "report") <|
    generateCustomers stamp ((options.lookup "out").getD settings.customers.output)
      Customer.builtin

def savingBooks (stamp : Stamp) (settings : Settings) (options : Options) :
    GenerationPlan (Run SavingBookStore) :=
  let file := (options.lookup "customers-module").or settings.savingBooks.customersModule
  withReport stamp (options.lookup "report") <|
    transformSavingBooks stamp {
      input := (options.lookup "input").getD settings.savingBooks.input
      output := (options.lookup "out").getD settings.savingBooks.output
      customers := (file.map .file).getD .builtin }

def customersText (run : Run CustomerStore) : String :=
  "Generated " ++ run.outputPath ++ " with " ++ toString run.store.size ++ " customers\n"

def savingBooksText (run : Run SavingBookStore) : String :=
  "Found " ++ toString run.report.recordsMatched.toNat ++ " saving books\n"
    ++ "Generated " ++ run.outputPath ++ "\n"
    ++ "Total books transformed: " ++ toString run.report.recordsWritten.toNat ++ "\n"

def perform (stamp : Stamp) (args : Arguments) : Plan CommandError String := do
  let settings ← (Settings.load args.config).mapError .settings
  (Plan.ofExcept (LogFilter.check settings.logging.level)).mapError
    (.logging settings.logging.level)
  match args.subcommand with
  | .customers =>
    let run ← (customers stamp settings args.options).mapError .generation
    pure (customersText run)
  | .savingBooks =>
    let run ← (savingBooks stamp settings args.options).mapError .generation
    pure (savingBooksText run)

/-- A level that cannot be cut into its pieces has a status of its own. -/
def CommandError.status : CommandError → UInt8
  | .logging _ .cutCharacter => 101
  | _ => 1

def CommandError.outcome (e : CommandError) : Outcome :=
  ⟨e.status, "", "Error: " ++ e.message ++ "\n"⟩

/-- The whole command; it always comes to an outcome. -/
def plan (stamp : Stamp) (args : List String) : Plan ε Outcome :=
  match Arguments.ofList args with
  | .error stop => pure stop.outcome
  | .ok args => (perform stamp args).settle fun
    | .ok output => ⟨0, output, ""⟩
    | .error e => e.outcome

end MockData.Command
