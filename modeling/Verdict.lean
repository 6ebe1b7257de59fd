import Verdict.Text.Blank
import Verdict.Text.Digit
import Verdict.Text.Encoding
import Verdict.Text.Folding
import Verdict.Text.Quoted
import Verdict.Text.Split
import Verdict.Decimal.Numeral
import Verdict.Decimal.Scientific
import Verdict.Binary64.Shortest
import Verdict.Value.Echo
import Verdict.Value.Lenient
import Verdict.Json.Bytes
import Verdict.Json.Printer
import Verdict.Yaml.Reader
import Verdict.Fact.Table
import Verdict.Criteria.Reading
import Verdict.Criteria.Wire
import Verdict.Evaluation.Catalogues
import Verdict.Evaluation.Outcome
import Verdict.Assessment.Shared
import Verdict.Registry.Bundled
import Verdict.Registry.Loading
import Verdict.Service.Session
import Verdict.Proofs.Meaning
import Verdict.Proofs.Descriptions
import Verdict.Proofs.Visit
import Verdict.Proofs.Supplied
import Verdict.Proofs.Agreement
import Verdict.Proofs.Decoding
import Verdict.Proofs.JsonFaults
import Verdict.Proofs.TraceOrder
import Verdict.Proofs.Acceptance
import Verdict.Proofs.JsonValues
import Verdict.Proofs.Totality
import Verdict.Proofs.LastWritten
import Verdict.Proofs.DecimalValue
import Verdict.Proofs.FoldedText
import Verdict.Proofs.FoldedNumber
import Verdict.Proofs.ScientificText
import Verdict.Proofs.BinaryRange
import Verdict.Proofs.ValueRange
import Verdict.Proofs.Matching
import Verdict.Proofs.NumberForms
import Verdict.Proofs.DecimalEcho
import Verdict.Proofs.WireRoundTrip
import Verdict.Proofs.DirectoryLoad
import Verdict.Proofs.Listing
import Verdict.Proofs.RegistryOrder
import Verdict.Proofs.LoadingHistory
import Verdict.Proofs.Completion
import Verdict.Proofs.Monotonicity
import Verdict.Proofs.Mentioned
import Verdict.Proofs.Gate
import Verdict.Proofs.EchoedComparison
import Verdict.Proofs.Justification
import Verdict.Proofs.ServiceState
import Verdict.Proofs.Endpoints
import Verdict.Proofs.Snapshot
import Verdict.Proofs.EchoedFacts
import Verdict.Proofs.JsonNumber
import Verdict.Proofs.JsonText
import Verdict.Proofs.JsonReading
import Verdict.Proofs.TextAndValue
import Verdict.Proofs.EncodedText
import Verdict.Proofs.LineEnds
import Verdict.Proofs.TextAndBytes
import Verdict.Proofs.Showing
import Verdict.Proofs.Equality
import Verdict.Proofs.Comparisons
import Verdict.Proofs.Overlays
import Verdict.Proofs.Labelling
import Verdict.Proofs.NumberText
import Verdict.Proofs.TableOrder
import Verdict.Proofs.LetterCase
import Verdict.Proofs.Respelling
import Verdict.Proofs.NoticeOrder
import Verdict.Proofs.Restructuring
import Verdict.Proofs.Payloads
