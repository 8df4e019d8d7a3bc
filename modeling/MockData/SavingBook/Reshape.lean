import MockData.Report.Basic
import MockData.SavingBook.Legacy

/-!
Reshaping a list of books: each is joined with its customer, and what had to be made up is
reported as a warning.
-/
namespace MockData.LegacyBook

def unknownCustomerCode : String := "unknown_customer_reference"
def balanceRangeCode : String := "balance_out_of_range"

def issues (b : LegacyBook) (found : Bool) : List RunIssue :=
  (if found then []
    else [.warning unknownCustomerCode ("customer " ++ b.customerId ++ " not found") (some b.id)])
  ++ if b.isOutOfRange then
      [.warning balanceRangeCode
        ("currentbalance " ++ toString b.currentBalance.toNat ++ " exceeds "
          ++ toString Balance.greatest)
        (some b.id)]
    else []

def reshapeAll (d : Directory) (report : RunReport) :
    List LegacyBook → List SavingBook × RunReport
  | [] => ([], report)
  | b :: bs =>
    let (customer, found) := d.resolve b.customerId
    let (books, report) := reshapeAll d (report.recordWarnings (b.issues found)) bs
    (b.reshape customer :: books, report)

end MockData.LegacyBook
