import SbsServer.Config.Loader
import SbsServer.Config.Bundle
import SbsServer.SceneGraph.Serialize
import SbsServer.SceneGraph.Invariant
import SbsServer.CLib.System
import SbsServer.Config.Validation
import SbsServer.Api.AuthManager
import SbsServer.Api.AuthAtomicity
import SbsServer.Api.Dispatch
import SbsServer.Api.Revocation
import SbsServer.Instance.Manager
import SbsServer.Instance.OneProcess
import SbsServer.Supervisor.SourceSupervisor
import SbsServer.Supervisor.Callbacks
import SbsServer.Supervisor.LastWords
import SbsServer.Config.Lifetime
import SbsServer.Config.Restored
import SbsServer.Config.RoundTrip
import SbsServer.Config.Selection
import SbsServer.Json.Grammar
import SbsServer.Json.Lexicon
import SbsServer.CLib.Numeral
import SbsServer.Common.Numeral
import SbsServer.Common.CJsonText
import SbsServer.Common.CJsonLayout
import SbsServer.Common.CJsonCodec
import SbsServer.Common.CJsonAccepted
import SbsServer.Worker.Config
import SbsServer.Worker.ConfigTransfer
import SbsServer.Worker.Vfmcap
import SbsServer.Worker.VfmcapRecovery
import SbsServer.CLib.Ring
import SbsServer.Engine.FrameSlot
import SbsServer.Engine.FrameSlotQueue
import SbsServer.Engine.NativeCanvas
import SbsServer.Engine.CanvasThread
import SbsServer.Engine.CanvasLease
import SbsServer.Engine.CanvasOrder
import SbsServer.Engine.CanvasRecovery
import SbsServer.Engine.SourceRelease
import SbsServer.Engine.SourceLifetime
import SbsServer.Engine.SourceSafety
import SbsServer.CLib.PacketStream
import SbsServer.Engine.PictureTick
import SbsServer.Engine.SrtRelay
import SbsServer.Engine.SrtRelayStream
import SbsServer.CLib.LateStore
import SbsServer.Engine.SrtCallers
import SbsServer.Engine.SrtShutdown
import SbsServer.Engine.EncoderKeyframe
import SbsServer.Engine.EncoderReconfigure
import SbsServer.Engine.ExportLifecycle
import SbsServer.Engine.ExportLeak
import SbsServer.Api.Canvas
import SbsServer.Api.CanvasSaving
import SbsServer.Api.CanvasStart
import SbsServer.Api.OutputHandlers
import SbsServer.Api.OutputUpdate
import SbsServer.Api.OrderlyEnd
import SbsServer.Engine.AudioMixer
import SbsServer.Engine.OutputRouter
import SbsServer.Engine.LeaseHandoff
import SbsServer.Engine.Preview
import SbsServer.Api.RuntimeBundle
import SbsServer.Api.AudioHandlers
import SbsServer.CLib.Table
import SbsServer.Worker.VfmcapLending
import SbsServer.Supervisor.LeaseAccounts
import SbsServer.Supervisor.LeaseProtocol
import SbsServer.CLib.PowerOfTwo
import SbsServer.Engine.CompositorCommands
import SbsServer.Engine.Snapshot
import SbsServer.Supervisor.RestartBudget
import SbsServer.Api.AuthFile
import SbsServer.Api.FirstSetup
import SbsServer.CLib.Rounding
import SbsServer.Engine.SceneTransition
import SbsServer.Engine.SceneRefresh
import SbsServer.Engine.PreviewReconfigure
import SbsServer.Engine.PreviewConsistency
import SbsServer.Engine.PreviewStart
import SbsServer.Engine.PreviewReentry
import SbsServer.Api.MuteAgreement
import SbsServer.Api.WebSocket
import SbsServer.Instance.Identities
import SbsServer.Engine.TextureUpload
import SbsServer.Engine.ImportBounds
import SbsServer.Engine.LayerBounds
import SbsServer.Api.OutputRoundTrip
import SbsServer.Engine.PacketTimes
import SbsServer.Engine.MuxMerge
import SbsServer.Engine.SrtVideoTimes
import SbsServer.Api.EncoderHandlers
import SbsServer.Api.AudioUpdates
import SbsServer.CLib.Fifo
import SbsServer.Engine.AudioFifo
import SbsServer.Supervisor.DescriptorAccounts
import SbsServer.CLib.Lines
import SbsServer.Engine.CubeLut
import SbsServer.CLib.Placement
import SbsServer.Engine.TextureSlots
import SbsServer.CLib.Compaction
import SbsServer.Engine.PendingReleases
import SbsServer.CLib.Files
import SbsServer.Config.Saving
import SbsServer.SceneGraph.Reordering
import SbsServer.CLib.Overwriting
import SbsServer.SceneGraph.CompItem
import SbsServer.SceneGraph.FilterChain
import SbsServer.CLib.Tiling
import SbsServer.Engine.VisibleRects
import SbsServer.CLib.RemovalLoop
import SbsServer.Api.SourceUses
import SbsServer.CLib.PackedRecord
import SbsServer.Supervisor.CutDatagrams
import SbsServer.CLib.Descriptors
import SbsServer.Supervisor.FrameFanOut
import SbsServer.Worker.ExportUse
import SbsServer.Api.PubSub
import SbsServer.Api.FilePaths
