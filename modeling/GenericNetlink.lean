import GenericNetlink.MessageHeader
import GenericNetlink.Layout.IndirectStruct
import GenericNetlink.Object.Heap
import GenericNetlink.Output.Print
import GenericNetlink.Sample.Payload
import GenericNetlink.Proofs.Layout.ViewMutation
import GenericNetlink.Proofs.Layout.SharedBuffer
import GenericNetlink.Proofs.Layout.SignedOffsets
import GenericNetlink.Proofs.Family.Comparison
import GenericNetlink.Proofs.Family.Visibility
import GenericNetlink.Layout.IndirectHistory
import GenericNetlink.Proofs.Layout.TokenFreshness
import GenericNetlink.Proofs.Layout.TokenSearch
import GenericNetlink.Proofs.Layout.FieldViews
import GenericNetlink.Proofs.Layout.Resolution
import GenericNetlink.Proofs.Layout.NullToken
import GenericNetlink.Object.Lifecycle
import GenericNetlink.Proofs.Object.Copies
import GenericNetlink.Proofs.Object.Identity
import GenericNetlink.Proofs.Object.Lifetimes
import GenericNetlink.Layout.FixedHistory
import GenericNetlink.Proofs.Layout.Representation
import GenericNetlink.Proofs.Credentials.RawEdits
import GenericNetlink.Proofs.Credentials.Forms
import GenericNetlink.Proofs.Family.PresenceDistance
import GenericNetlink.Family.History
import GenericNetlink.Proofs.Family.Appending
import GenericNetlink.Proofs.Family.DumpLevels
import GenericNetlink.Proofs.Layout.SlotPointing
import GenericNetlink.Proofs.Object.CheckChains
import GenericNetlink.Proofs.Family.DumpLayout
import GenericNetlink.Proofs.Family.JsonView
import GenericNetlink.Proofs.Layout.FieldLenses
import GenericNetlink.Proofs.Layout.FieldDecoding
import GenericNetlink.Proofs.Layout.TypedFields
import GenericNetlink.Proofs.Layout.HexDumps
import GenericNetlink.Proofs.Family.LatestValues
import GenericNetlink.Proofs.Family.MaskNames
import GenericNetlink.Layout.ViewWords
import GenericNetlink.Proofs.Layout.WordArithmetic
import GenericNetlink.Proofs.Json.LastMember
import GenericNetlink.Proofs.Output.DocumentLines
