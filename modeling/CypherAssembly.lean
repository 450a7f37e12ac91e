import CypherAssembly.Desk
import CypherAssembly.Draft.BlockDraft
import CypherAssembly.Draft.NumberDraft
import CypherAssembly.Draft.Shelf
import CypherAssembly.Draft.Shorthand
import CypherAssembly.Ledger
import CypherAssembly.Ledger.Command
import CypherAssembly.Logging.Pipeline
import CypherAssembly.Logging.Request
import CypherAssembly.Settings.Cache
import CypherAssembly.Settings.Command
import CypherAssembly.Settings.Environment
import CypherAssembly.Desk.Command
import CypherAssembly.Proofs.Desk.Frame
import CypherAssembly.Proofs.Desk.History
import CypherAssembly.Proofs.Clause.Fragment
import CypherAssembly.Proofs.Clause.Contributed
import CypherAssembly.Proofs.Clause.Outline
import CypherAssembly.Proofs.Desk.Text
import CypherAssembly.Proofs.Desk.Embedding
import CypherAssembly.Proofs.Desk.Nesting
import CypherAssembly.Proofs.Desk.Asked
import CypherAssembly.Proofs.Desk.Forwarding
import CypherAssembly.Proofs.Desk.Calls
import CypherAssembly.Proofs.Clause.Refused
import CypherAssembly.Proofs.Clause.Broken
import CypherAssembly.Proofs.Clause.Offered
import CypherAssembly.Proofs.Desk.Finishing
import CypherAssembly.Proofs.Desk.Recording
import CypherAssembly.Proofs.Desk.Outline
import CypherAssembly.Proofs.Pattern.Names
import CypherAssembly.Proofs.Pattern.Literals
import CypherAssembly.Proofs.Pattern.Parts
import CypherAssembly.Proofs.Pattern.Written
import CypherAssembly.Proofs.Pattern.Decoding
import CypherAssembly.Proofs.Pattern.Spelling
import CypherAssembly.Proofs.Desk.Breaking
import CypherAssembly.Proofs.Text.Inside
import CypherAssembly.Proofs.Desk.Values
import CypherAssembly.Proofs.Desk.Account
import CypherAssembly.Proofs.Desk.Journal
import CypherAssembly.Proofs.Pattern.Held
import CypherAssembly.Proofs.Clause.Filled
import CypherAssembly.Proofs.Content.Stated
import CypherAssembly.Proofs.Desk.Filled
import CypherAssembly.Proofs.Ledger.Snapshot
import CypherAssembly.Proofs.Settings.Normal
import CypherAssembly.Proofs.Settings.Referring
import CypherAssembly.Proofs.Settings.Masking
import CypherAssembly.Proofs.Pattern.Faulty
import CypherAssembly.Proofs.Ledger.Composing
import CypherAssembly.Proofs.Ledger.Resolving
import CypherAssembly.Proofs.Desk.Projecting
import CypherAssembly.Proofs.Desk.Removing
import CypherAssembly.Proofs.Desk.Matching
import CypherAssembly.Proofs.Draft.Shared
import CypherAssembly.Proofs.Text.Longer
import CypherAssembly.Proofs.Value.Composed
import CypherAssembly.Proofs.Text.Outdented
import CypherAssembly.Proofs.Ledger.Bundled
import CypherAssembly.Proofs.Desk.Paging
import CypherAssembly.Proofs.Settings.Remembered
import CypherAssembly.Proofs.Value.Printed
