import PromptContract.Libraries.Usual
import PromptContract.Prediction
import PromptContract.Relay
import PromptContract.Report
import PromptContract.Text.CharSet
import PromptContract.Libraries.Text.Decomposition
import PromptContract.Libraries.Text.Mark
import PromptContract.Libraries.Text.Normalization
import PromptContract.Proofs.Failure
import PromptContract.Proofs.Value.Entries
import PromptContract.Proofs.Reply.Scan
import PromptContract.Proofs.Reply.Pieces
import PromptContract.Proofs.Reply.Block
import PromptContract.Proofs.Reply.Growth
import PromptContract.Proofs.Reply.Selection
import PromptContract.Proofs.Reply.Outputs
import PromptContract.Proofs.Reply.Lines
import PromptContract.Proofs.Reply.Places
import PromptContract.Proofs.Reply.Legible
import PromptContract.Proofs.Session.Run
import PromptContract.Proofs.Session.Final
import PromptContract.Proofs.Session.Shown
import PromptContract.Proofs.Session.Monotone
import PromptContract.Proofs.Session.Agreement
import PromptContract.Proofs.Session.Legible
import PromptContract.Proofs.Session.Debounce
import PromptContract.Proofs.Delivery.Run
import PromptContract.Proofs.Relay.Run
import PromptContract.Proofs.Relay.Fair
import PromptContract.Proofs.Prediction.Agreement
import PromptContract.Proofs.Number.Numeral
import PromptContract.Proofs.Prompt.Blocks
import PromptContract.Proofs.Prompt.Names
import PromptContract.Proofs.Prompt.RoundTrip
import PromptContract.Proofs.Prompt.Rendered
import PromptContract.Proofs.Libraries.Memory
import PromptContract.Proofs.Libraries.Flat
import PromptContract.Proofs.Schema.Declared
import PromptContract.Proofs.Schema.Rules
import PromptContract.Proofs.Libraries.Json
import PromptContract.Proofs.Libraries.Record
import PromptContract.Proofs.Libraries.Engines
import PromptContract.Proofs.Validation.Interchange
import PromptContract.Proofs.Text.LineEnds
import PromptContract.Proofs.Reply.LineEnds
import PromptContract.Proofs.Session.Intact
import PromptContract.Proofs.Contract.Precedence
import PromptContract.Proofs.Validation.Verdict
import PromptContract.Proofs.Generation.Options
import PromptContract.Proofs.Provider.Arguments
import PromptContract.Proofs.Prediction.Unrejected
import PromptContract.Proofs.Prediction.Sending
import PromptContract.Proofs.Prediction.Request
import PromptContract.Proofs.Number.Binary64
import PromptContract.Proofs.Options.Outcomes
import PromptContract.Proofs.Prompt.Template
import PromptContract.Proofs.Provider.Messages
import PromptContract.Proofs.Schema.FieldMap
import PromptContract.Proofs.Provider.Generated
import PromptContract.Proofs.Provider.Accounting
import PromptContract.Proofs.Schema.Tag
import PromptContract.Proofs.Contract.WellFormed
