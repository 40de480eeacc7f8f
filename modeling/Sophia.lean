import Sophia.Lib.Keyed
import Sophia.Lib.Run
import Sophia.Engine.VisualState
import Sophia.Lib.Optimistic
import Sophia.Engine.AuthorityTransaction
import Sophia.Engine.OptimisticCommit
import Sophia.Lib.Users
import Sophia.Renderer.PresentationRegistry
import Sophia.Backend.PresentScheduler
import Sophia.Engine.ProductionCoordinator
import Sophia.Backend.VisualRuntime
import Sophia.Backend.PresentationResolution
import Sophia.Backend.RuntimeFrames
import Sophia.Backend.SurfaceRemoval
import Sophia.Backend.Seeding
import Sophia.Backend.GenerationChain
import Sophia.Lib.Blit
import Sophia.Renderer.CpuComposition
import Sophia.Renderer.CpuScene
import Sophia.Engine.HitTest
import Sophia.Backend.InputRouting
import Sophia.Backend.PageFlip
import Sophia.Backend.NativeScanout
import Sophia.Backend.PageFlipDelivery
import Sophia.Engine.WmPolicy
import Sophia.Engine.LayoutTransaction
import Sophia.Session.ResizeTransaction
import Sophia.Session.LayoutWindows
import Sophia.Session.LayoutDraws
import Sophia.Session.WmSession
import Sophia.Session.WorkspaceAdoption
import Sophia.Portal.Transfers
import Sophia.Authority.Resources
import Sophia.Authority.Selection
import Sophia.Authority.Clipboard
import Sophia.Authority.Properties
import Sophia.Authority.Runtime
import Sophia.Authority.ClipboardTransfers
import Sophia.Authority.SelectionIsolation
import Sophia.Authority.GrantBinding
import Sophia.Portal.SingleDecision
import Sophia.Portal.Lifecycle
import Sophia.Portal.LifecycleRuns
import Sophia.Engine.WmShortcuts
import Sophia.Engine.ShortcutHolds
import Sophia.Ipc.Primitives
import Sophia.Ipc.Wm
import Sophia.Ipc.Portal
import Sophia.Ipc.RoundTrip
import Sophia.Authority.CodecSupport
import Sophia.Authority.RequestCodec
import Sophia.Authority.ResponseCodec
import Sophia.Protocol
import Sophia.Session.NamespaceRegistry
import Sophia.Authority.InputAuthority
import Sophia.Authority.InputFreeze
import Sophia.Engine.OutputPresentation
import Sophia.Frontend.PresentRoutes
import Sophia.Frontend.PresentFeedback
import Sophia.Frontend.PresentDelivery
import Sophia.Authority.PresentDispatch
import Sophia.Frontend.PresentRequests
import Sophia.Frontend.InputRoutes
import Sophia.Frontend.InputBroker
import Sophia.Lib.Lanes
import Sophia.Frontend.InputOrder
import Sophia.Frontend.InputAccounting
import Sophia.Authority.ClientObjects
import Sophia.Authority.SoftwareRaster
import Sophia.Authority.SoftwareBuffers
import Sophia.Authority.DrawDamage
import Sophia.Authority.Drawing
import Sophia.Authority.RuntimeCalls
import Sophia.Authority.AtomicRequests
import Sophia.Authority.RejectedDraws
import Sophia.Authority.ClientRelease
import Sophia.Authority.RuntimeRefinement
import Sophia.Authority.RuntimeSteps
import Sophia.Authority.ClientTeardown
import Sophia.Authority.ExplicitGrabs
import Sophia.Frontend.InputCalls
import Sophia.Frontend.GrabExclusivity
import Sophia.Frontend.ButtonPairing
import Sophia.Session.ResizeQuarantine
import Sophia.Session.LayoutRollbacks
import Sophia.Authority.ReleaseReports
import Sophia.Authority.ResourceAgreement
import Sophia.Lib.Counted
import Sophia.Renderer.ReferenceCounts
import Sophia.Renderer.RegistryRuns
import Sophia.Frontend.PresentSubmissions
import Sophia.Lib.Handles
import Sophia.Renderer.RegistryLiveness
import Sophia.Authority.ImportTransfers
import Sophia.Session.AuthorityFeed
import Sophia.Session.FeedAgreement
import Sophia.Session.FeedSafety
import Sophia.Runtime.SessionRuntime
import Sophia.Runtime.ScanoutAccounting
import Sophia.Lib.Restack
import Sophia.Frontend.StackingOrder
import Sophia.Frontend.RequestDescriptors
import Sophia.Frontend.DescriptorMatching
import Sophia.Bridge.BridgeAtomicity
import Sophia.Bridge.BridgeRuntime
import Sophia.Bridge.LegacyRequests
import Sophia.Bridge.ServerFraming
import Sophia.Bridge.StaleRequests
import Sophia.Bridge.WmBridge
import Sophia.Bridge.BridgeTables
import Sophia.Bridge.PrivateServer
import Sophia.Lib.History
import Sophia.Session.KeyRouting
import Sophia.Session.KeyReaches
import Sophia.Session.StuckKeys
import Sophia.Renderer.SceneUpdates
import Sophia.Backend.ComposableSurfaces
import Sophia.Backend.FrameExport
import Sophia.Backend.FrameKept
import Sophia.Backend.PlaneResources
import Sophia.Backend.PlaneCustody
import Sophia.Protocol.SurfaceTable
import Sophia.Frontend.PolyText
import Sophia.Frontend.PropertyCalls
import Sophia.Engine.AffectedOutputs
import Sophia.Lib.Pointwise
import Sophia.Authority.ClipLaws
import Sophia.Frontend.ClipRectangles
import Sophia.Authority.ImagePlacement
import Sophia.Authority.DamageCover
import Sophia.Authority.OffWindowDraws
import Sophia.Authority.AtomTable
import Sophia.Backend.PageFlipTracker
import Sophia.Engine.MotionCoalescing
import Sophia.Renderer.CompositionLaw
import Sophia.Renderer.BufferPatches
import Sophia.Renderer.CpuLifetimes
import Sophia.Backend.FormatTable
import Sophia.Protocol.Output
import Sophia.Session.PlacementBounds
import Sophia.Bridge.LegacyPlacement
import Sophia.Engine.PlanLayouts
import Sophia.WmDemo.Tiling
import Sophia.Authority.RandrResources
import Sophia.Authority.TransactionIdentity
import Sophia.Authority.ClientWorkers
import Sophia.Authority.LineWalk
import Sophia.Engine.OutputTopology
import Sophia.Backend.PlaneAssignment
import Sophia.Frontend.ClientStream
import Sophia.Backend.InputDelivery
import Sophia.Engine.FramePlan
import Sophia.Frontend.SetupHandshake
