import MockData.Script.Literal

/-!
Functions of a module that work on its list of records, and their text. A body is a list of
statements two deep at most: steps, and one guard around further steps.
-/
namespace MockData.Script

inductive Operand
  | literal (l : Literal)
  | name (x : String)
  | field (x f : String)
  | item (list index : String)
  deriving DecidableEq, Repr

inductive Member
  | spread (o : Operand)
  | same (x : String)
  | entry (key : String) (o : Operand)
  deriving DecidableEq, Repr

inductive Search
  | find
  | filter
  | findIndex
  deriving DecidableEq, Repr

inductive Expr
  | operand (o : Operand)
  | search (how : Search) (list item field : String) (value : Operand)
  | call (f x : String)
  | takeOut (list index : String)
  deriving DecidableEq, Repr

inductive Step
  | bind (x : String) (e : Expr)
  | set (place o : Operand)
  | merge (place : Operand) (members : List Member)
  | increase (place : Operand) (x : String)
  | push (list x : String)
  | answer (e : Expr)
  | answerObject (members : List Member)
  deriving DecidableEq, Repr

/-- `present` holds of any object, `found` of any index but minus one. -/
inductive Condition
  | present (x : String)
  | found (x : String)
  deriving DecidableEq, Repr

inductive Statement
  | step (s : Step)
  | guarded (c : Condition) (steps : List Step)
  deriving DecidableEq, Repr

structure Function where
  name : String
  params : List String
  body : List Statement
  deriving DecidableEq, Repr

def lines (ls : List String) : String := String.join (ls.map (· ++ "\n"))

def commas : List String → List String
  | [] => []
  | [s] => [s]
  | s :: t :: rest => (s ++ ",") :: commas (t :: rest)

def Operand.render : Operand → String
  | .literal l => l.render
  | .name x => x
  | .field x f => x ++ "." ++ f
  | .item list index => list ++ "[" ++ index ++ "]"

def Member.render : Member → String
  | .spread o => "..." ++ o.render
  | .same x => x
  | .entry key o => key ++ ": " ++ o.render

def Search.render : Search → String
  | .find => "find"
  | .filter => "filter"
  | .findIndex => "findIndex"

def Expr.render : Expr → String
  | .operand o => o.render
  | .search how list item field value =>
    list ++ "." ++ how.render ++ "(" ++ item ++ " => " ++ item ++ "." ++ field ++ " === "
      ++ value.render ++ ")"
  | .call f x => f ++ "(" ++ x ++ ")"
  | .takeOut list index => list ++ ".splice(" ++ index ++ ", 1)[0]"

def Step.render (margin : String) : Step → List String
  | .bind x e => [margin ++ "const " ++ x ++ " = " ++ e.render ++ ";"]
  | .set place o => [margin ++ place.render ++ " = " ++ o.render ++ ";"]
  | .merge place members =>
    [margin ++ place.render ++ " = \x7b "
      ++ ", ".intercalate (members.map Member.render) ++ " \x7d;"]
  | .increase place x => [margin ++ place.render ++ " += " ++ x ++ ";"]
  | .push list x => [margin ++ list ++ ".push(" ++ x ++ ");"]
  | .answer e => [margin ++ "return " ++ e.render ++ ";"]
  | .answerObject members =>
    (margin ++ "return \x7b") :: commas (members.map fun m => margin ++ "  " ++ m.render)
      ++ [margin ++ "\x7d;"]

def Condition.render : Condition → String
  | .present x => x
  | .found x => x ++ " !== -1"

def Statement.render : Statement → List String
  | .step s => s.render "  "
  | .guarded c steps =>
    ("  if (" ++ c.render ++ ") \x7b") :: steps.flatMap (Step.render "    ") ++ ["  \x7d"]

def Function.render (f : Function) : String :=
  lines (("export const " ++ f.name ++ " = (" ++ ", ".intercalate f.params ++ ") => \x7b")
    :: f.body.flatMap Statement.render ++ ["\x7d;"])

end MockData.Script
