import MockData.Command.Run
import MockData.Customer.Builtin
import MockData.Customer.Json
import MockData.Customer.Script
import MockData.Customer.Store
import MockData.Customer.Validation
import MockData.Main
import MockData.Proofs.Chaining
import MockData.Proofs.Debts
import MockData.Proofs.Drafts
import MockData.Proofs.Innermost
import MockData.Proofs.Sources
import MockData.Report.Json
import MockData.SavingBook.Json
import MockData.SavingBook.Reshape
import MockData.SavingBook.Script
import MockData.SavingBook.Store
import MockData.Settings.Basic
import MockData.Settings.LogFilter
import MockData.Proofs.Holdings
import MockData.Proofs.Joining
import MockData.Proofs.Functions
import MockData.Proofs.Failing
import MockData.Proofs.Layouts
import MockData.Proofs.Identities
import MockData.Proofs.Exchange
import MockData.Proofs.Mirrors
import MockData.Proofs.Reporting
import MockData.Proofs.StringValues
import MockData.Proofs.Cursors
import MockData.Proofs.Lookups
import MockData.Proofs.Concatenation
import MockData.Proofs.Unambiguous
import MockData.Proofs.Validity
import MockData.Proofs.Commuting
import MockData.Proofs.Updates
import MockData.Proofs.Deletions
import MockData.Proofs.Balances
import MockData.Proofs.Merging
import MockData.Proofs.Leftovers
import MockData.Proofs.BirthDates
import MockData.Proofs.Endings
