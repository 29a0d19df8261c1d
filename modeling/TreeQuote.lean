import TreeQuote.Command.Response
import TreeQuote.Evaluate.Direct
import TreeQuote.Factory.Spelling
import TreeQuote.Main
import TreeQuote.Proofs.Parse.Fidelity
import TreeQuote.Tree.Path
import TreeQuote.Tree.Payload
import TreeQuote.Proofs.Quote.Inverse
import TreeQuote.Proofs.Call.Reading
import TreeQuote.Proofs.Parse.Acceptance
import TreeQuote.Proofs.Parse.Totality
import TreeQuote.Proofs.Parse.Report
import TreeQuote.Proofs.Parse.FixedPoint
import TreeQuote.Proofs.Quote.Lossless
import TreeQuote.Proofs.Quote.Pruning
import TreeQuote.Proofs.Layout.Canonical
import TreeQuote.Proofs.Quote.Support
import TreeQuote.Proofs.Quote.Repaired
import TreeQuote.Proofs.Source.Canonical
import TreeQuote.Proofs.Parse.Immutable
import TreeQuote.Proofs.Quote.Respacing
import TreeQuote.Proofs.Quote.Binding
import TreeQuote.Proofs.Parse.Skipping
import TreeQuote.Proofs.Layout.Indentation
import TreeQuote.Proofs.Quote.Totality
