import Expurgate.Json.Format
import Expurgate.Main
import Expurgate.Proofs.Regex.Emission
import Expurgate.Proofs.Regex.Simulation
import Expurgate.Proofs.Regex.Scan
import Expurgate.Proofs.Unicode.Folding
import Expurgate.Proofs.Unicode.Ranges
import Expurgate.Proofs.Regex.CharSet
import Expurgate.Proofs.Term.Expression
import Expurgate.Proofs.Regex.Sequence
import Expurgate.Proofs.Term.Prepared
import Expurgate.Proofs.Engine.History
import Expurgate.Proofs.Engine.Replay
import Expurgate.Proofs.Term.Spelling
import Expurgate.Proofs.Term.Occurrence
import Expurgate.Proofs.Unicode.Classes
import Expurgate.Proofs.Term.Token
import Expurgate.Proofs.Engine.Allowed
import Expurgate.Proofs.Engine.Masking
import Expurgate.Proofs.Engine.Statistics
import Expurgate.Proofs.Pattern.Reading
import Expurgate.Proofs.Term.Reading
import Expurgate.Proofs.Term.Meaning
import Expurgate.Proofs.Term.Itself
import Expurgate.Proofs.Engine.Thinning
import Expurgate.Proofs.Engine.Spacing
import Expurgate.Proofs.Engine.Idempotence
import Expurgate.Proofs.Engine.Shadowing
import Expurgate.Proofs.Config.Merge
import Expurgate.Proofs.TermSet.Order
import Expurgate.Proofs.Engine.Scoping
import Expurgate.Proofs.Regex.Window
import Expurgate.Proofs.Term.Lines
import Expurgate.Proofs.Engine.Lines
import Expurgate.Proofs.Lines
import Expurgate.Proofs.Engine.Stream
import Expurgate.Proofs.Config.Format
import Expurgate.Proofs.Yaml.Format
import Expurgate.Proofs.Config.Codec
import Expurgate.Proofs.Files
import Expurgate.Proofs.Command.Arguments
import Expurgate.Proofs.Command.OutputOption
import Expurgate.Proofs.Command.Filter
import Expurgate.Proofs.Command.Output
import Expurgate.Proofs.Engine.Logging
import Expurgate.Proofs.Engine.Unmatched
import Expurgate.Proofs.Command.Presentation
import Expurgate.Proofs.Term.Cache
import Expurgate.Proofs.Term.Alone
import Expurgate.Proofs.Engine.Removal
import Expurgate.Proofs.Engine.Interrupted
import Expurgate.Proofs.Term.Refusal
import Expurgate.Proofs.Term.Whole
import Expurgate.Proofs.Term.Around
import Expurgate.Proofs.Term.Exempt
import Expurgate.Proofs.Unicode.Casing
import Expurgate.Proofs.AllowList
import Expurgate.Proofs.Replacer
import Expurgate.Proofs.Report.Summary
import Expurgate.Proofs.Term.Parts
