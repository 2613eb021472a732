import VkRelay.Argv.CommandLine
import VkRelay.Control.Integers
import VkRelay.Control.Service
import VkRelay.Icd.CapsCurrent
import VkRelay.Input.Delivery
import VkRelay.Input.Poll
import VkRelay.Memory.Epoch
import VkRelay.Memory.Granularity
import VkRelay.Observe.Png
import VkRelay.Process.LineQueue
import VkRelay.Readback.Complete
import VkRelay.Readback.Sound
import VkRelay.Registry.Authority
import VkRelay.Registry.HostEffects
import VkRelay.Registry.Placements
import VkRelay.Registry.Popups
import VkRelay.Registry.Stale
import VkRelay.Session.Bounds
import VkRelay.Session.Brackets
import VkRelay.Session.Counts
import VkRelay.Session.IndirectDraws
import VkRelay.Session.LayoutSupport
import VkRelay.Session.RecordFrame
import VkRelay.Session.Retention
import VkRelay.Session.SubmitAtomicity
import VkRelay.Sidecar.Chrome
import VkRelay.Sidecar.Shape
import VkRelay.Supervisor.Lifecycles
import VkRelay.Supervisor.OneShot
import VkRelay.Windowing.Converge
import VkRelay.Wire.JsonIndent
import VkRelay.Wire.RecordJson
import VkRelay.Wire.RecordWords
import VkRelay.Worker.AcquirePoll
import VkRelay.Worker.Transfer
