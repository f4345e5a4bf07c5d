import FormRules.Main
import FormRules.Rule.Document
import FormRules.Proofs.RuleString
import FormRules.Proofs.Validation.Outcome
import FormRules.Proofs.Validation.Scan
import FormRules.Proofs.BuiltinCheck
import FormRules.Proofs.Validation.Faults
import FormRules.Proofs.Validation.Presentation
import FormRules.Proofs.Validation.Fields
import FormRules.Proofs.Json.RoundTrip
import FormRules.Proofs.Report.Shape
import FormRules.Proofs.CommandLine.Agreement
import FormRules.Proofs.Catalog.History
import FormRules.Proofs.CommandLine.Layers
import FormRules.Proofs.CommandLine.Listing
import FormRules.Proofs.RuleGrammar
import FormRules.Proofs.Validation.Join
import FormRules.Proofs.Pattern
import FormRules.Proofs.Email
import FormRules.Proofs.Validation.Building
import FormRules.Proofs.Template
import FormRules.Proofs.Decimal.Grammar
import FormRules.Proofs.Binary64.Exact
import FormRules.Proofs.Decimal.Number
import FormRules.Proofs.Bounds
import FormRules.Proofs.IntegerPrefix
import FormRules.Proofs.IntegerPrefix.Exact
import FormRules.Proofs.Natural
import FormRules.Proofs.Binary64.ReadBack
import FormRules.Proofs.WrittenNumber
import FormRules.Proofs.Numeric
import FormRules.Proofs.Validation.Absence
import FormRules.Proofs.Request.Building
import FormRules.Proofs.Request.Document
