import MockData.Customer.Basic
import MockData.Date

/-!
What is checked of a table of customers. Two customers of one id make a table unusable; a birth
date that is none is only an issue.
-/
namespace MockData

structure DatasetIssue where
  code : String
  recordId : String
  message : String
  deriving DecidableEq, Repr

inductive DatasetError
  | duplicateId (id : String)
  deriving DecidableEq, Repr

def DatasetError.message : DatasetError → String
  | .duplicateId id => "invalid dataset: duplicate customer id: " ++ id

namespace Customer

def birthDateIssue? (c : Customer) : Option DatasetIssue :=
  if (Date.ofText? c.birthDate).isSome then none
  else some ⟨"invalid_date_of_birth", c.id, "date of birth is not YYYY-MM-DD: " ++ c.birthDate⟩

/-- Goes through the customers that are left of a table, when those before them had the ids in
`seen` and gave rise to `issues`. -/
def validateFrom (seen : List String) (issues : List DatasetIssue) :
    List Customer → Except DatasetError (List DatasetIssue)
  | [] => .ok issues
  | c :: cs =>
    if c.id ∈ seen then .error (.duplicateId c.id)
    else validateFrom (c.id :: seen) (issues ++ (birthDateIssue? c).toList) cs

def validate (cs : List Customer) : Except DatasetError (List DatasetIssue) := validateFrom [] [] cs

end Customer

end MockData
