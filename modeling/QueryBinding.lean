import QueryBinding.Failure.Report
import QueryBinding.Failure.Shared
import QueryBinding.GoType.Canonical
import QueryBinding.GoType.Range
import QueryBinding.Json.Faultless
import QueryBinding.Generator
import QueryBinding.Proofs.Row.Extraction
import QueryBinding.Proofs.Row.Scratch
import QueryBinding.Proofs.GoType.ListText
import QueryBinding.Proofs.GoType.RoundTrip
import QueryBinding.Proofs.GoType.Canonical
import QueryBinding.Proofs.Query.Checks
import QueryBinding.Proofs.Row.Slot
import QueryBinding.Proofs.Query.Fields
import QueryBinding.Proofs.Query.WellFormed
import QueryBinding.Proofs.Query.Statement
import QueryBinding.Proofs.Query.Adapter
import QueryBinding.Proofs.Query.Parameters
import QueryBinding.Proofs.Row.StoredKey
import QueryBinding.Proofs.Run.Questions
import QueryBinding.Proofs.Query.Faults
import QueryBinding.Proofs.Query.FirstFault
import QueryBinding.Proofs.Run.Sequence
import QueryBinding.Proofs.Run.Agreement
import QueryBinding.Proofs.Run.Coherence
import QueryBinding.Proofs.Run.Recorded
import QueryBinding.Json.Spelling
import QueryBinding.Proofs.Json.Scanning
import QueryBinding.Proofs.Json.Grammar
import QueryBinding.Proofs.Json.Layout
import QueryBinding.Proofs.Fragments.Lossless
import QueryBinding.Proofs.Json.Codec
import QueryBinding.Proofs.Request.Transmission
import QueryBinding.Proofs.Request.UnknownMembers
import QueryBinding.Proofs.Query.Variables
import QueryBinding.Proofs.Row.Distinct
import QueryBinding.Proofs.Row.Guards
import QueryBinding.Proofs.Go.Literal
import QueryBinding.Proofs.Go.Layout
import QueryBinding.Proofs.Text.Joined
import QueryBinding.Proofs.Query.Names
import QueryBinding.Proofs.Table.Dotted
import QueryBinding.Proofs.Query.Listing
import QueryBinding.Proofs.Query.Limit
import QueryBinding.Proofs.Query.Flattened
import QueryBinding.Proofs.Query.Wrapping
import QueryBinding.Proofs.Row.Widened
import QueryBinding.Proofs.Row.Direct
import QueryBinding.Proofs.Go.Condition
import QueryBinding.Proofs.Row.Blocks
import QueryBinding.Proofs.Failure.Counting
import QueryBinding.Proofs.Failure.Sharing
import QueryBinding.Proofs.Failure.Notes
import QueryBinding.Record.Gathered
import QueryBinding.Proofs.Failure.Chains
import QueryBinding.Proofs.Table.Target
import QueryBinding.Proofs.Row.FirstOfName
import QueryBinding.Proofs.Text.SmallImages
import QueryBinding.Proofs.Text.LoweredStart
