import LayeredStreams.Block.Cache
import LayeredStreams.Block.Index
import LayeredStreams.Bytes
import LayeredStreams.Channel
import LayeredStreams.Device.Basic
import LayeredStreams.Device.Call
import LayeredStreams.Device.File
import LayeredStreams.Device.Memory
import LayeredStreams.Device.Scripted
import LayeredStreams.Error
import LayeredStreams.Layer.Cached
import LayeredStreams.Layer.Passthrough
import LayeredStreams.Layer.ReadOnly
import LayeredStreams.Layer.Rebased
import LayeredStreams.Layer.Truncated
import LayeredStreams.Layer.Window
import LayeredStreams.Position
import LayeredStreams.Probe
import LayeredStreams.Request
import LayeredStreams.Script
import LayeredStreams.Session.Environment
import LayeredStreams.Session.Report
import LayeredStreams.Session.Step
import LayeredStreams.Slot
import LayeredStreams.Stream
import LayeredStreams.Surroundings
import LayeredStreams.Transfer
import LayeredStreams.Zeros
import LayeredStreams.Proofs.AlignedStacks
import LayeredStreams.Proofs.Barrier
import LayeredStreams.Proofs.Bearings
import LayeredStreams.Proofs.BlockFetches
import LayeredStreams.Proofs.Boundaries
import LayeredStreams.Proofs.Bounded
import LayeredStreams.Proofs.BufferRanges
import LayeredStreams.Proofs.Buffers
import LayeredStreams.Proofs.BytewiseReading
import LayeredStreams.Proofs.CacheOverView
import LayeredStreams.Proofs.CachedLoading
import LayeredStreams.Proofs.CachedReading
import LayeredStreams.Proofs.CalmProbe
import LayeredStreams.Proofs.CancelledReading
import LayeredStreams.Proofs.CarriedErrors
import LayeredStreams.Proofs.Cascade
import LayeredStreams.Proofs.ChartedCaches
import LayeredStreams.Proofs.ChartedLayers
import LayeredStreams.Proofs.ChartedStacks
import LayeredStreams.Proofs.Charts
import LayeredStreams.Proofs.Copying
import LayeredStreams.Proofs.DepositedBlocks
import LayeredStreams.Proofs.DepositedReads
import LayeredStreams.Proofs.DeviceOutcome
import LayeredStreams.Proofs.Disposal
import LayeredStreams.Proofs.FailedRequests
import LayeredStreams.Proofs.FarPositions
import LayeredStreams.Proofs.FickleBase
import LayeredStreams.Proofs.Filling
import LayeredStreams.Proofs.GrowingContent
import LayeredStreams.Proofs.HiddenCursors
import LayeredStreams.Proofs.InMemory
import LayeredStreams.Proofs.InstalledBlocks
import LayeredStreams.Proofs.Interruptions
import LayeredStreams.Proofs.KnownPlaces
import LayeredStreams.Proofs.MachineBlocks
import LayeredStreams.Proofs.MachineLayers
import LayeredStreams.Proofs.MachineStacks
import LayeredStreams.Proofs.MachineWords
import LayeredStreams.Proofs.Measuring
import LayeredStreams.Proofs.Outcome
import LayeredStreams.Proofs.OwnCursors
import LayeredStreams.Proofs.PatientLoops
import LayeredStreams.Proofs.ProbeSource
import LayeredStreams.Proofs.RangedStacks
import LayeredStreams.Proofs.Rebasing
import LayeredStreams.Proofs.RefusedWindows
import LayeredStreams.Proofs.ResizedView
import LayeredStreams.Proofs.Resizing
import LayeredStreams.Proofs.SeekingFromEnd
import LayeredStreams.Proofs.ServedBlocks
import LayeredStreams.Proofs.Source
import LayeredStreams.Proofs.Stack
import LayeredStreams.Proofs.StackBearings
import LayeredStreams.Proofs.Storing
import LayeredStreams.Proofs.StrayedCursors
import LayeredStreams.Proofs.Surfacing
import LayeredStreams.Proofs.SuspendedRuns
import LayeredStreams.Proofs.Undisturbed
import LayeredStreams.Proofs.View
import LayeredStreams.Proofs.ViewLength
import LayeredStreams.Proofs.Waiting
import LayeredStreams.Proofs.WaitingBases
import LayeredStreams.Proofs.WindowDisposal
import LayeredStreams.Proofs.WindowReading
import LayeredStreams.Proofs.ZerosView
