import Motu424.Init.Survival
import Motu424.Init.Translate
import Motu424.Init.Replay
import Motu424.Init.WarmBoot
import Motu424.Init.SyncPoll
import Motu424.Init.PollReg
import Motu424.Init.Dispatch
import Motu424.Init.ReplayBounds
import Motu424.Init.Reference
import Motu424.Init.ProgramUpload
import Motu424.Init.Refusal
import Motu424.Poke.Scan
import Motu424.Alsa.Irq
import Motu424.Alsa.Ack
import Motu424.Alsa.Duplex
import Motu424.Alsa.StreamBits
import Motu424.Alsa.Frames
import Motu424.Alsa.Leak
import Motu424.Alsa.Bridge
import Motu424.Alsa.Position
import Motu424.Alsa.Pause
import Motu424.Dma.AddressWidth
import Motu424.Dma.Request
import Motu424.Fpga.Upload
import Motu424.Wdf.RegisterBounds
import Motu424.Wdf.Requests
import Motu424.Wdf.HardwareCycles
import Motu424.Probe.Balance
import Motu424.Poke.Driver
import Motu424.Poke.Upload
import Motu424.ConvertGolden.Lost
import Motu424.AnalyzeMixerTrace.Diff
import Motu424.AnalyzeMixerTrace.Summary
import Motu424.AnalyzeMixerTrace.Misaligned
import Motu424.AnalyzeMixerTrace.RoundTrip
import Motu424.GenerateGolden.Agreement
import Motu424.Foundation.Interleaving
import Motu424.Alsa.Callbacks
import Motu424.Alsa.Linearizable
import Motu424.Foundation.Cost
import Motu424.Init.Waiting
import Motu424.Wdf.Lifecycle
import Motu424.Foundation.Occurrence
import Motu424.GenerateDsp
import Motu424.GenerateDsp.Capture
import Motu424.GenerateDsp.Replayed
import Motu424.Wdf.Teardown
import Motu424.PciAlsa
import Motu424.PciAlsa.Buffers
import Motu424.Wdf.Frontends
import Motu424.PciAlsa.Timer
import Motu424.ReplayTrace
import Motu424.Wdf.TestSuite
import Motu424.BootTools
import Motu424.BootTools.ColdBoot
import Motu424.BootTools.Agreement
import Motu424.PciAlsa.Card
import Motu424.PciAlsa.Frames
import Motu424.PciAlsa.Lifetime
import Motu424.PciAlsa.Removal
