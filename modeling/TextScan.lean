import TextScan.Lambda.Workbench
import TextScan.Main
import TextScan.Proofs.Contract
import TextScan.Proofs.Lambda.Grammar
import TextScan.Proofs.Lambda.Retries
import TextScan.Proofs.Markup.Elements
import TextScan.Session
import TextScan.Tool.Folder
import TextScan.Proofs.Lambda.Derivations
import TextScan.Proofs.Lambda.Printing
import TextScan.Proofs.Lambda.Values
import TextScan.Proofs.Markup.Printing
import TextScan.Proofs.Lambda.Nameless
import TextScan.Proofs.Lambda.ClosedEvaluation
import TextScan.Proofs.GuardHistory
import TextScan.Proofs.Lambda.BigStep
import TextScan.Proofs.Lambda.SharedGuard
import TextScan.Proofs.Forms
import TextScan.Proofs.Beginnings
import TextScan.Proofs.Lambda.Errors
import TextScan.Proofs.Markup.Errors
import TextScan.Proofs.Runs
import TextScan.Proofs.Address.Remainders
import TextScan.Proofs.Address.DigitRuns
import TextScan.Proofs.Address.Numbers
import TextScan.Proofs.Address.NumberSpans
import TextScan.Proofs.Address.PostalLines
import TextScan.Proofs.Address.TrailingBlank
import TextScan.Proofs.Tool.Refiltering
import TextScan.Proofs.Words
import TextScan.Proofs.Lambda.Successive
import TextScan.Proofs.Attributes
import TextScan.Proofs.Address.Labels
import TextScan.Proofs.Tokens
import TextScan.Proofs.Spellings
import TextScan.Proofs.Address.PostalCodes
import TextScan.Proofs.Address.DelimitedDigits
