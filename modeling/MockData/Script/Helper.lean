import MockData.Script.Function

/-!
The kinds of helper function that a module offers on its list of records: look-ups by a field,
adding, changing and deleting a record, and the two operations on a balance. A helper that finds
no record answers null, a look-up of one record answers whatever the search does.
-/
namespace MockData.Script

structure Key where
  param : String
  field : String
  deriving DecidableEq, Repr

/-- `lookup` names the helper that finds a record by its key, `binding` the variable that holds
the record found. -/
structure BalanceAccess where
  param : String
  lookup : String
  binding : String
  balance : String
  deriving DecidableEq, Repr

inductive HelperKind
  | findFirst (key : Key)
  | findAll (key : Key)
  | findWhere (field value : String)
  | add (param : String)
  | update (key : Key)
  | updateBalance (access : BalanceAccess)
  | close (access : BalanceAccess) (status closed : String)
  | delete (key : Key)
  deriving DecidableEq, Repr

structure Helper where
  name : String
  kind : HelperKind
  deriving DecidableEq, Repr

namespace HelperKind

def search (how : Search) (list item : String) (key : Key) : Expr :=
  .search how list item key.field (.name key.param)

def answerNull : Statement := .step (.answer (.operand (.literal .null)))

def bindIndex (list item : String) (key : Key) : Statement :=
  .step (.bind "index" (search .findIndex list item key))

def params : HelperKind → List String
  | .findFirst key | .findAll key | .delete key => [key.param]
  | .findWhere .. => []
  | .add param => [param]
  | .update key => [key.param, "updates"]
  | .updateBalance access => [access.param, "amount"]
  | .close access .. => [access.param]

def body (list item : String) : HelperKind → List Statement
  | .findFirst key => [.step (.answer (search .find list item key))]
  | .findAll key => [.step (.answer (search .filter list item key))]
  | .findWhere field value =>
    [.step (.answer (.search .filter list item field (.literal (.text value))))]
  | .add param => [.step (.push list param), .step (.answer (.operand (.name param)))]
  | .update key => [
      bindIndex list item key,
      .guarded (.found "index") [
        .merge (.item list "index") [.spread (.item list "index"), .spread (.name "updates")],
        .answer (.operand (.item list "index"))],
      answerNull]
  | .updateBalance access => [
      .step (.bind access.binding (.call access.lookup access.param)),
      .guarded (.present access.binding) [
        .bind "oldBalance" (.operand (.field access.binding access.balance)),
        .increase (.field access.binding access.balance) "amount",
        .answerObject [
          .same access.binding,
          .entry "balanceBefore" (.name "oldBalance"),
          .entry "balanceAfter" (.field access.binding access.balance)]],
      answerNull]
  | .close access status closed => [
      .step (.bind access.binding (.call access.lookup access.param)),
      .guarded (.present access.binding) [
        .set (.field access.binding status) (.literal (.text closed)),
        .bind "finalBalance" (.operand (.field access.binding access.balance)),
        .set (.field access.binding access.balance) (.literal (.int 0)),
        .answerObject [.spread (.name access.binding), .same "finalBalance"]],
      answerNull]
  | .delete key => [
      bindIndex list item key,
      .guarded (.found "index") [
        .bind "deleted" (.takeOut list "index"),
        .answer (.operand (.name "deleted"))],
      answerNull]

end HelperKind

def Helper.function (h : Helper) (list item : String) : Function :=
  ⟨h.name, h.kind.params, h.kind.body list item⟩

end MockData.Script
