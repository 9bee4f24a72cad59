import WispGate.Data.Dict
import WispGate.Data.Json
import WispGate.Data.JsonText
import WispGate.Data.Transition
import WispGate.Model.Relay.State
import WispGate.Model.Relay.Catalog
import WispGate.Model.Relay.Management
import WispGate.Model.Relay.Sections
import WispGate.Model.Relay.Handlers
import WispGate.Model.Relay.Operations
import WispGate.Soundness.Administration
import WispGate.Soundness.FileActions
import WispGate.Soundness.HandlerMoves
import WispGate.Soundness.Authentication
import WispGate.Soundness.Revocation
import WispGate.Soundness.Registration
import WispGate.Model.Session
import WispGate.Soundness.SessionOrder
import WispGate.Model.Wisp.Operations
import WispGate.Model.Android.FileAction
import WispGate.Model.Relay.Bulk
import WispGate.Model.Upload
import WispGate.Soundness.UploadPairing
import WispGate.Soundness.Forwarding
import WispGate.Soundness.Acknowledgement
import WispGate.Model.Relay.BulkHandlers
import WispGate.Soundness.BulkPairing
import WispGate.Model.Android.InboundAssets
import WispGate.Model.Wisp.Assets
import WispGate.Soundness.AssetManifest
import WispGate.Model.Wisp.Handshake
import WispGate.Model.Wisp.Runtime
import WispGate.Soundness.Replies
import WispGate.Soundness.Handshakes
import WispGate.Soundness.Dispatching
import WispGate.Soundness.Resilience
import WispGate.Soundness.Isolation
import WispGate.Data.Separated
import WispGate.Soundness.Provenance
import WispGate.Soundness.NonceReuse
import WispGate.Soundness.Execution
import WispGate.Model.Android.Handshake
import WispGate.Soundness.Agreement
import WispGate.Model.Android.BulkSocket
import WispGate.Soundness.AssetReception
import WispGate.Model.Android.RelayFrames
import WispGate.Soundness.Heartbeats
import WispGate.Soundness.FrameSize
import WispGate.Model.Android.Quoting
import WispGate.Soundness.Interoperation
import WispGate.Soundness.Completion
import WispGate.Model.Wisp.Stream
import WispGate.Soundness.Presence
import WispGate.Soundness.Removal
import WispGate.Soundness.Durability
import WispGate.Soundness.Retention
import WispGate.Model.Bootstrap
import WispGate.Soundness.TrustAnchor
import WispGate.Soundness.Announcing
import WispGate.Soundness.Subscription
import WispGate.Model.Wisp.ControlFrames
import WispGate.Soundness.AssetSizes
import WispGate.Soundness.Replacement
import WispGate.Soundness.SessionResets
import WispGate.Soundness.Attendance
import WispGate.Data.Totals
import WispGate.Model.Wisp.Service
import WispGate.Soundness.Budget
import WispGate.Soundness.Callbacks
import WispGate.Model.Android.Stager
import WispGate.Soundness.Staging
import WispGate.Soundness.Handover
import WispGate.Data.Effects
import WispGate.Model.Android.Client
import WispGate.Soundness.Recovery
import WispGate.Model.Wisp.Link
import WispGate.Soundness.Reconnect
import WispGate.Model.Android.Encoding
import WispGate.Soundness.Encoding
import WispGate.Data.Markup
import WispGate.Soundness.ManagementPage
import WispGate.Soundness.Transcripts
import WispGate.Soundness.Availability
import WispGate.Data.Holders
import WispGate.Soundness.Challenges
import WispGate.Soundness.Identification
import WispGate.Model.Android.Sealing
import WispGate.Soundness.Establishment
import WispGate.Data.Lane
import WispGate.Soundness.Conversations
import WispGate.Data.Pieces
import WispGate.Model.BulkStreams
import WispGate.Soundness.UploadStreams
import WispGate.Data.Custody
import WispGate.Model.Android.BulkTransferService
import WispGate.Soundness.TransferService
import WispGate.Model.Android.SubmitForm
import WispGate.Soundness.FormSubmission
