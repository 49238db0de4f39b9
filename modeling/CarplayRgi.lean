import CarplayRgi.TracedSystems
import CarplayRgi.DecimalText
import CarplayRgi.Utf8Text
import CarplayRgi.SlotTables
import CarplayRgi.GuidanceKeys
import CarplayRgi.BusText
import CarplayRgi.RgdTlv
import CarplayRgi.RgdHookState
import CarplayRgi.RgdHookSnapshot
import CarplayRgi.RgdHookHandler
import CarplayRgi.RgdSnapshotContents
import CarplayRgi.RgdHookCases
import CarplayRgi.RgdRouteStateDebounce
import CarplayRgi.RgdRouteEndClaim
import CarplayRgi.RgdSnapshotSlots
import CarplayRgi.RgdSnapshotRuns
import CarplayRgi.RgdSlotVersions
import CarplayRgi.RgdRouteSizes
import CarplayRgi.RgdAmapIdentity
import CarplayRgi.RgdAmapAlignment
import CarplayRgi.RgdSnapshotReferences
import CarplayRgi.BusThreads
import CarplayRgi.BusStickyDelivery
import CarplayRgi.BusCalls
import CarplayRgi.BusFraming
import CarplayRgi.RgdManeuverSlots
import CarplayRgi.RgdActiveLanes
import CarplayRgi.BusData
import CarplayRgi.BusTextCodec
import CarplayRgi.RgdAngleCodec
import CarplayRgi.RgdSnapshotCapacity
import CarplayRgi.RouteGuidanceState
import CarplayRgi.RouteGuidanceParse
import CarplayRgi.RouteGuidanceFrames
import CarplayRgi.RouteGuidanceGating
import CarplayRgi.BapBridge
import CarplayRgi.BapHandoff
import CarplayRgi.BapTripActivation
import CarplayRgi.GuidanceLink
import CarplayRgi.RouteView
import CarplayRgi.RouteIsolation
import CarplayRgi.AmapTrackers
import CarplayRgi.ManeuverMapper
import CarplayRgi.SideStreets
import CarplayRgi.AmapSnapshot
import CarplayRgi.AmapV38Compat
import CarplayRgi.AmapProtocolDetector
import CarplayRgi.AmapRouteGuidance
import CarplayRgi.TracedPairs
import CarplayRgi.AmapRestart
import CarplayRgi.AmapModes
import CarplayRgi.AmapProtectedFrames
import CarplayRgi.RouteGuidanceGate
import CarplayRgi.AmapReceiver
import CarplayRgi.AmapV38Runs
import CarplayRgi.AmapV38Commits
import CarplayRgi.AmapV38Distances
import CarplayRgi.AmapV38Identity
import CarplayRgi.AmapV38FormalLock
import CarplayRgi.RouteGuidanceAlike
import CarplayRgi.PublishedFrames
import CarplayRgi.AmapFailedProbes
import CarplayRgi.BusPolicies
import CarplayRgi.BusSequence
import CarplayRgi.RgdZeroLists
import CarplayRgi.AmapRepeatedFrames
import CarplayRgi.RendererMapper
import CarplayRgi.RendererProtocol
import CarplayRgi.RendererBatches
import CarplayRgi.CoverartChunks
import CarplayRgi.CoverartSwap
import CarplayRgi.AmapPayload
import CarplayRgi.AmapPayloadSlots
import CarplayRgi.AmapPayloadArrival
import CarplayRgi.RgdCachedManeuvers
import CarplayRgi.RgdSlotReading
import CarplayRgi.RgdSlotMirror
import CarplayRgi.Iap2Protocol
import CarplayRgi.Iap2TlvCodec
import CarplayRgi.ByteBuffers
import CarplayRgi.RgdIdentify
import CarplayRgi.CheckedBuffers
import CarplayRgi.RgdCheckedParsers
import CarplayRgi.RgdLineFields
import CarplayRgi.RgdCachedUpdates
import CarplayRgi.RgdCheckedWriters
import CarplayRgi.RgdSentNumbers
import CarplayRgi.RendererConnections
import CarplayRgi.RouteGuidanceReplay
import CarplayRgi.AmapV38CatchUp
import CarplayRgi.BapApproach
import CarplayRgi.BapDistance
import CarplayRgi.BapRenderer
import CarplayRgi.AmapProgressRuns
import CarplayRgi.AmapStabilizerRuns
import CarplayRgi.FirstFree
import CarplayRgi.SideStreetArms
import CarplayRgi.BapLaneGuidance
import CarplayRgi.BapLaneFrames
import CarplayRgi.CursorController
import CarplayRgi.ExifOrientation
import CarplayRgi.StableInsert
import CarplayRgi.Utf8Limit
import CarplayRgi.HookRegistry
import CarplayRgi.HookInjection
import CarplayRgi.RendererFraming
import CarplayRgi.BoundedQueue
import CarplayRgi.BusQueue
import CarplayRgi.BusReader
import CarplayRgi.CoverartPng
import CarplayRgi.CoverartWorker
import CarplayRgi.CoverartPublishing
import CarplayRgi.HookNegotiation
import CarplayRgi.BapCluster
import CarplayRgi.BapClusterDisplay
import CarplayRgi.BapClusterSessions
import CarplayRgi.RendererExposure
