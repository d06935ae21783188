import Hub75.Machine.Run
import Hub75.Machine.Simulation
import Hub75.Machine.Rotation
import Hub75.Machine.FallibleLoop
import Hub75.Machine.Custody
import Hub75.Machine.Handshake
import Hub75.Machine.Overtaking
import Hub75.Machine.Observation
import Hub75.Machine.ByteMemory
import Hub75.Machine.Prefixes
import Hub75.Machine.Regions
import Hub75.Machine.Display
import Hub75.Machine.Relay
import Hub75.Machine.Fairness
import Hub75.Driver.Platform
import Hub75.Driver.Bcm
import Hub75.Driver.Dma
import Hub75.Driver.Descriptor
import Hub75.Driver.Gpdma
import Hub75.Driver.Gpdma2d
import Hub75.Driver.Backend
import Hub75.Driver.GpdmaSwap
import Hub75.Driver.Channel
import Hub75.Scan.Encoding
import Hub75.Scan.Chain
import Hub75.Scan.Registers
import Hub75.Scan.Links
import Hub75.Swap.PlainCore
import Hub75.Scan.Plain
import Hub75.Swap.PlainSafety
import Hub75.Swap.GpdmaTable
import Hub75.Swap.GpdmaRebuild
import Hub75.Swap.GpdmaRelease
import Hub75.Swap.GpdmaCrossover
import Hub75.Swap.Completion
import Hub75.Scan.Signal
import Hub75.Swap.Delta
import Hub75.Driver.Setup
import Hub75.Scan.PixelClock
import Hub75.Driver.Pins
import Hub75.Scan.PinChecks
import Hub75.Scan.Wiring
import Hub75.Driver.Panel
import Hub75.Driver.Instance
import Hub75.Scan.Writes
import Hub75.Scan.Items
import Hub75.Scan.Refusals
import Hub75.Scan.PinStream
import Hub75.Swap.Ledger
import Hub75.Swap.FrameCount
import Hub75.Swap.PlainExchange
import Hub75.Swap.WholeFrames
import Hub75.Swap.PlainDisplay
import Hub75.Swap.PlainPictures
import Hub75.Swap.GpdmaChannel
import Hub75.Swap.GpdmaDisplay
import Hub75.Swap.ZeroReps
import Hub75.Swap.Startup
import Hub75.Swap.PinDisplay
import Hub75.Swap.PlainLiveness
import Hub75.Swap.GpdmaLiveness
import Hub75.Swap.Panics
