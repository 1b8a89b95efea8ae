import ScsiInitiator.Bits
import ScsiInitiator.Builder
import ScsiInitiator.Bytes
import ScsiInitiator.Call
import ScsiInitiator.Direction
import ScsiInitiator.Fault
import ScsiInitiator.Initiator
import ScsiInitiator.Layout
import ScsiInitiator.Numeral
import ScsiInitiator.Operation
import ScsiInitiator.Outcome
import ScsiInitiator.Record
import ScsiInitiator.ReplyBuffer
import ScsiInitiator.Script
import ScsiInitiator.Sense
import ScsiInitiator.Session
import ScsiInitiator.Settings
import ScsiInitiator.Slots
import ScsiInitiator.Status
import ScsiInitiator.StreamStatus.Command
import ScsiInitiator.StreamStatus.CommandBlock
import ScsiInitiator.StreamStatus.Parameters
import ScsiInitiator.StreamStatus.Reply
import ScsiInitiator.SystemError
import ScsiInitiator.Transport
import ScsiInitiator.UnitReady
import ScsiInitiator.Proofs.BitRanges
import ScsiInitiator.Proofs.ByteNumbers
import ScsiInitiator.Proofs.BitAccess
import ScsiInitiator.Proofs.RecordFields
import ScsiInitiator.Proofs.RecordEdits
import ScsiInitiator.Proofs.Serialization
import ScsiInitiator.Proofs.ReplyBuffers
import ScsiInitiator.Proofs.Dispatch
import ScsiInitiator.Proofs.StreamStatus.Reports
import ScsiInitiator.Proofs.StreamStatus.Issue
import ScsiInitiator.Proofs.StreamStatus.Replies
import ScsiInitiator.Proofs.StreamStatus.ReadBack
import ScsiInitiator.Proofs.Refusals
import ScsiInitiator.Proofs.UnitReady
import ScsiInitiator.Proofs.Endings
import ScsiInitiator.Proofs.Drafts
import ScsiInitiator.Proofs.Histories
import ScsiInitiator.Proofs.SentRequests
import ScsiInitiator.Proofs.SingleShot
import ScsiInitiator.Proofs.BufferUses
import ScsiInitiator.Proofs.Locality
import ScsiInitiator.Proofs.StreamStatus.AllocationLengths
import ScsiInitiator.Proofs.StreamStatus.AskingAgain
import ScsiInitiator.Proofs.Interleavings
import ScsiInitiator.Proofs.Forms
import ScsiInitiator.Proofs.WireForms
import ScsiInitiator.Proofs.SenseBytes
import ScsiInitiator.Proofs.Flaws
import ScsiInitiator.Proofs.SenseFormats
import ScsiInitiator.Proofs.StreamStatus.ReplyBytes
import ScsiInitiator.Proofs.Messages
import ScsiInitiator.Proofs.GuardedAccess
