import MockData.Proofs.Tokens

/-!
Reading a module: the tokens of its records and functions, in the order of their syntax. What is
read of a phrase ends where the phrase does and leaves the tokens behind it, and a phrase that has
no place in a module is not read.
-/
namespace MockData.Script

open Text

abbrev Reader (α : Type) := List Token → Option (α × List Token)

namespace Reader

variable {α : Type}

def take : List Token → List Token → Option (List Token)
  | [], ts => some ts
  | t :: front, u :: ts => if t = u then take front ts else none
  | _ :: _, [] => none

def identifier : Reader String
  | .name x :: ts => some (x, ts)
  | _ => none

def sequence (read : Reader α) (ending : List Token) (ts : List Token) :
    Option (List α × List Token) :=
  match take ending ts with
  | some rest => some ([], rest)
  | none => do
    let (a, rest) ← read ts
    if rest.length < ts.length then
      let (as, rest) ← sequence read ending rest
      return (a :: as, rest)
    else none
termination_by ts.length

/-- Things with commas between them, and the token that ends them. There may be a comma behind the
last one. -/
def separated (read : Reader α) (ending : Token) (ts : List Token) : Option (List α × List Token) :=
  match take [ending] ts with
  | some rest => some ([], rest)
  | none => do
    let (a, behind) ← read ts
    match take [.mark ','] behind with
    | some rest =>
      if rest.length < ts.length then
        let (as, rest) ← separated read ending rest
        return (a :: as, rest)
      else none
    | none => return ([a], ← take [ending] behind)
termination_by ts.length

end Reader

open Reader

def textOfUnits? (us : List Nat) : Option String :=
  let cs := joinUnits (us.map .unit)
  if units cs = us then some (String.ofList cs) else none

/-- The number of these digits. It has no zero in front. -/
def numberOfDigits? (cs : List Char) : Option Nat :=
  let n := decimalValue cs
  if Nat.toDigits 10 n = cs then some n else none

def intLiteral? (n : Int) : Option Literal :=
  if (Int64.ofInt n).toInt = n then some (.int (.ofInt n)) else none

def Literal.read : Reader Literal
  | .string cs :: ts => do return (.text (← textOfUnits? (← stringValue? cs)), ts)
  | .digits cs :: ts => do return (← intLiteral? (← numberOfDigits? cs), ts)
  | .mark '-' :: .digits cs :: ts => do return (← intLiteral? (-(← numberOfDigits? cs)), ts)
  | .keyword "null" :: ts => some (.null, ts)
  | _ => none

def Operand.readField : Reader Operand := fun ts => do
  let (x, ts) ← identifier ts
  let ts ← take [.sign "."] ts
  let (f, ts) ← identifier ts
  return (.field x f, ts)

def Operand.readItem : Reader Operand := fun ts => do
  let (list, ts) ← identifier ts
  let ts ← take [.mark '['] ts
  let (index, ts) ← identifier ts
  let ts ← take [.mark ']'] ts
  return (.item list index, ts)

def Operand.read : Reader Operand := fun ts =>
  readField ts <|> readItem ts <|> (identifier ts).map (Prod.map .name id) <|>
    (Literal.read ts).map (Prod.map .literal id)

def Member.read : Reader Member := fun ts =>
  (do
    let (o, ts) ← Operand.read (← take [.sign "..."] ts)
    return (.spread o, ts)) <|>
  (do
    let (key, ts) ← identifier ts
    let (o, ts) ← Operand.read (← take [.mark ':'] ts)
    return (.entry key o, ts)) <|>
  (identifier ts).map (Prod.map .same id)

def Expr.readSearch (how : Search) : Reader Expr := fun ts => do
  let (list, ts) ← identifier ts
  let (item, ts) ← identifier (← take [.sign ".", .name how.render, .mark '('] ts)
  let (field, ts) ← identifier (← take [.sign "=>", .name item, .sign "."] ts)
  let (value, ts) ← Operand.read (← take [.sign "==="] ts)
  return (.search how list item field value, ← take [.mark ')'] ts)

def Expr.readCall : Reader Expr := fun ts => do
  let (f, ts) ← identifier ts
  let (x, ts) ← identifier (← take [.mark '('] ts)
  return (.call f x, ← take [.mark ')'] ts)

def Expr.readTakeOut : Reader Expr := fun ts => do
  let (list, ts) ← identifier ts
  let (index, ts) ← identifier (← take [.sign ".", .name "splice", .mark '('] ts)
  let behind : List Token :=
    [.mark ',', .digits ['1'], .mark ')', .mark '[', .digits ['0'], .mark ']']
  return (.takeOut list index, ← take behind ts)

def Expr.read : Reader Expr := fun ts =>
  readSearch .find ts <|> readSearch .filter ts <|> readSearch .findIndex ts <|> readCall ts <|>
    readTakeOut ts <|> (Operand.read ts).map (Prod.map .operand id)

namespace Step

def readBind : Reader Step := fun ts => do
  let (x, ts) ← identifier (← take [.keyword "const"] ts)
  let (e, ts) ← Expr.read (← take [.sign "="] ts)
  return (.bind x e, ← take [.mark ';'] ts)

def readAnswerObject : Reader Step := fun ts => do
  let (members, ts) ← separated Member.read (.mark '}') (← take [.keyword "return", .mark '{'] ts)
  return (.answerObject members, ← take [.mark ';'] ts)

def readAnswer : Reader Step := fun ts => do
  let (e, ts) ← Expr.read (← take [.keyword "return"] ts)
  return (.answer e, ← take [.mark ';'] ts)

def readPush : Reader Step := fun ts => do
  let (list, ts) ← identifier ts
  let (x, ts) ← identifier (← take [.sign ".", .name "push", .mark '('] ts)
  return (.push list x, ← take [.mark ')', .mark ';'] ts)

def readMerge : Reader Step := fun ts => do
  let (place, ts) ← Operand.read ts
  let (members, ts) ← separated Member.read (.mark '}') (← take [.sign "=", .mark '{'] ts)
  return (.merge place members, ← take [.mark ';'] ts)

def readSet : Reader Step := fun ts => do
  let (place, ts) ← Operand.read ts
  let (o, ts) ← Operand.read (← take [.sign "="] ts)
  return (.set place o, ← take [.mark ';'] ts)

def readIncrease : Reader Step := fun ts => do
  let (place, ts) ← Operand.read ts
  let (x, ts) ← identifier (← take [.sign "+="] ts)
  return (.increase place x, ← take [.mark ';'] ts)

def read : Reader Step := fun ts =>
  readBind ts <|> readAnswerObject ts <|> readAnswer ts <|> readPush ts <|> readMerge ts <|>
    readSet ts <|> readIncrease ts

end Step

def Condition.read : Reader Condition := fun ts => do
  let (x, ts) ← identifier ts
  match take [.sign "!==", .mark '-', .digits ['1']] ts with
  | some ts => return (.found x, ts)
  | none => return (.present x, ts)

def Statement.readGuarded : Reader Statement := fun ts => do
  let (c, ts) ← Condition.read (← take [.keyword "if", .mark '('] ts)
  let (steps, ts) ← sequence Step.read [.mark '}'] (← take [.mark ')', .mark '{'] ts)
  return (.guarded c steps, ts)

def Statement.read : Reader Statement := fun ts =>
  readGuarded ts <|> (Step.read ts).map (Prod.map .step id)

def Function.read : Reader Function := fun ts => do
  let (f, ts) ← identifier (← take [.keyword "export", .keyword "const"] ts)
  let (params, ts) ← separated identifier (.mark ')') (← take [.sign "=", .mark '('] ts)
  let (body, ts) ← sequence Statement.read [.mark '}'] (← take [.sign "=>", .mark '{'] ts)
  return (⟨f, params, body⟩, ← take [.mark ';'] ts)

def Function.ofText? (text : String) : Option Function := do
  let (f, rest) ← read (← tokens? text.toList)
  if rest = [] then some f else none

def readEntry : Reader (String × Literal) := fun ts => do
  let (key, ts) ← identifier ts
  let (l, ts) ← Literal.read (← take [.mark ':'] ts)
  return ((key, l), ts)

def readRecord : Reader Entries := fun ts => do
  separated readEntry (.mark '}') (← take [.mark '{'] ts)

structure Contents where
  list : String
  records : List Entries
  functions : List Function
  deriving DecidableEq, Repr

def Contents.read : Reader Contents := fun ts => do
  let (xs, ts) ← identifier (← take [.keyword "export", .keyword "const"] ts)
  let (records, ts) ← separated readRecord (.mark ']') (← take [.sign "=", .mark '['] ts)
  let ending : List Token := [.keyword "export", .keyword "default", .name xs, .mark ';']
  let (functions, ts) ← sequence Function.read ending (← take [.mark ';'] ts)
  return (⟨xs, records, functions⟩, ts)

def Contents.ofText? (text : String) : Option Contents := do
  let (contents, rest) ← read (← tokens? text.toList)
  if rest = [] then some contents else none

end MockData.Script
