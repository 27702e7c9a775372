import CatalogQueue.Span
import CatalogQueue.Span.Text
import CatalogQueue.Text.Blank
import CatalogQueue.Text.Fold
import CatalogQueue.Text.Decimal
import CatalogQueue.Text.Quoted
import CatalogQueue.Pattern
import CatalogQueue.Media
import CatalogQueue.Url
import CatalogQueue.Yaml.Token
import CatalogQueue.Yaml.Token.Lexer
import CatalogQueue.Yaml.Event
import CatalogQueue.Yaml.Event.Reader
import CatalogQueue.Yaml.Scalar
import CatalogQueue.Yaml.Document
import CatalogQueue.Yaml.Decode
import CatalogQueue.Rules.Basic
import CatalogQueue.Rules.Decode
import CatalogQueue.Yaml.Writer
import CatalogQueue.Rules.Encode
import CatalogQueue.RecordList
import CatalogQueue.Admission
import CatalogQueue.Journal
import CatalogQueue.Tally
import CatalogQueue.Server.Error
import CatalogQueue.Catalog
import CatalogQueue.Server
import CatalogQueue.Client
import CatalogQueue.Run
import CatalogQueue.Cli
import CatalogQueue.Main
import CatalogQueue.Proofs.Reasoning
import CatalogQueue.Proofs.Decision
import CatalogQueue.Proofs.Walk
import CatalogQueue.Proofs.Counting
import CatalogQueue.Proofs.Isolation
import CatalogQueue.Proofs.Limits
import CatalogQueue.Proofs.Modes
import CatalogQueue.Proofs.Resubmission
import CatalogQueue.Proofs.SpanText
import CatalogQueue.Proofs.Scopes
import CatalogQueue.Proofs.Traversal
import CatalogQueue.Proofs.WalkOrder
import CatalogQueue.Proofs.RuleSave
import CatalogQueue.Proofs.EventReading
import CatalogQueue.Proofs.WrittenReading
import CatalogQueue.Proofs.RuleLoad
import CatalogQueue.Proofs.Refusals
import CatalogQueue.Proofs.RecordStores
import CatalogQueue.Proofs.SpanGrammar
import CatalogQueue.Proofs.Wildcards
import CatalogQueue.Proofs.CompiledPatterns
import CatalogQueue.Proofs.SearchAddress
import CatalogQueue.Proofs.Documents
import CatalogQueue.Proofs.Accounting
import CatalogQueue.Proofs.LogLayout
import CatalogQueue.Proofs.LogNesting
