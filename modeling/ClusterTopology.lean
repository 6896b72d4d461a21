import ClusterTopology.ClusterNode.Basic
import ClusterTopology.ClusterNode.Draft
import ClusterTopology.Crc16
import ClusterTopology.Event
import ClusterTopology.Interval
import ClusterTopology.Key
import ClusterTopology.Layout
import ClusterTopology.Node.Basic
import ClusterTopology.Node.Draft
import ClusterTopology.NodeMap
import ClusterTopology.OwnsSlots
import ClusterTopology.Proofs.Ascending
import ClusterTopology.Proofs.Bitmap
import ClusterTopology.Proofs.Positions
import ClusterTopology.Refusal
import ClusterTopology.Report
import ClusterTopology.Slot
import ClusterTopology.SlotSet.Basic
import ClusterTopology.SlotSet.Cursor
import ClusterTopology.SlotSet.Enumeration
import ClusterTopology.SlotSet.Lemmas
import ClusterTopology.SlotSet.Source
import ClusterTopology.SlotSet.Text
import ClusterTopology.Status.Flag
import ClusterTopology.Status.LinkState
import ClusterTopology.Status.Parser
import ClusterTopology.Table
import ClusterTopology.Text.Blank
import ClusterTopology.Text.Number
import ClusterTopology.Text.Quoted
import ClusterTopology.Text.Ranges
import ClusterTopology.Word
import ClusterTopology.Proofs.Walk
import ClusterTopology.Proofs.Runs
import ClusterTopology.Proofs.Cut
import ClusterTopology.Proofs.Except
import ClusterTopology.Proofs.Numeral
import ClusterTopology.Proofs.SlotText.Grammar
import ClusterTopology.Proofs.SlotText.Parse
import ClusterTopology.Proofs.SlotText.RoundTrip
import ClusterTopology.Proofs.Representation
import ClusterTopology.Proofs.Construction
import ClusterTopology.Proofs.Execution.Construction
import ClusterTopology.Proofs.Execution.Walk
import ClusterTopology.Proofs.Trace
import ClusterTopology.Proofs.StatusText
import ClusterTopology.Proofs.LastGiven
import ClusterTopology.Proofs.Drafts
import ClusterTopology.Proofs.Reports
import ClusterTopology.Proofs.History
import ClusterTopology.Proofs.Tag
import ClusterTopology.Proofs.Routing
import ClusterTopology.Proofs.Coverage
import ClusterTopology.Proofs.FlagText
import ClusterTopology.Proofs.RoundTrip
import ClusterTopology.Proofs.Identity
import ClusterTopology.Proofs.NodeMap
import ClusterTopology.Proofs.MaximalRuns
import ClusterTopology.Proofs.Enumeration
import ClusterTopology.Proofs.Iteration
import ClusterTopology.Proofs.Decoding
import ClusterTopology.Proofs.Remainder
import ClusterTopology.Proofs.Spread
import ClusterTopology.Proofs.FlagTokens
import ClusterTopology.Proofs.Address
import ClusterTopology.Proofs.Direct
import ClusterTopology.Proofs.WellFormed
import ClusterTopology.Proofs.Mirror
import ClusterTopology.Proofs.Log
