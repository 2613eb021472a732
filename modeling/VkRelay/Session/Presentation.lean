import VkRelay.Session.Pipelines

/-!
Surfaces, swapchains, presents and submits. The images of a swapchain are minted
on first use and go with it; a queue keeps naming its device after the device is
gone.
-/

namespace VkRelay.Session

open VkRelay.Lib

inductive VkResult where
  | success | timeout | errorOutOfDateKhr
  deriving DecidableEq, Repr

/-! ## Surfaces and swapchains -/

structure CreateSwapchainRequest where
  device : Nat := 0
  surface : Nat := 0
  imageFormat : Int := 0
  colorSpace : Int := 0
  width : Int := 0
  height : Int := 0
  minImageCount : Int := 0
  presentMode : Int := 0
  imageUsage : Int := 0

namespace Backend

def createSurface (s : Backend) (instanceHandle xid : Nat) : Except String (Backend × Nat) := do
  let inst ← find s.instances instanceHandle "unknown instance handle"
  let surface : Surface := { instanceHandle, xid }
  return ({ s.bump with
            surfaces := s.surfaces.insert s.nextHandle surface
            instances := s.instances.insert instanceHandle
              { inst with surfaces := insert s.nextHandle inst.surfaces } }, s.nextHandle)

def destroySurface (s : Backend) (handle : Nat) : Except String Backend := do
  let surface ← find s.surfaces handle "unknown surface handle"
  rejectIf (surface.swapchains ≠ ∅) "surface has live swapchains; destroy them first"
  return { s with
           instances := s.instances.modify surface.instanceHandle fun inst =>
             { inst with surfaces := inst.surfaces.erase handle }
           surfaces := s.surfaces.erase handle }

def modifySurface (s : Backend) (handle : Nat) (change : Surface → Surface) : Backend :=
  { s with surfaces := s.surfaces.modify handle change }

def debugMarkSurfaceDirty (s : Backend) (handle : Nat) : Backend :=
  s.modifySurface handle fun surface => { surface with geometryDirty := true }

def setAuthority (s : Backend) (xid : Nat) (extent : Option (Nat × Nat)) : Backend :=
  { s with authority := s.authority.alter xid fun _ => extent }

/-- The sidecar has authored another extent for the window of the surface. -/
def extentOutOfDate (s : Backend) (surface : Surface) (req : CreateSwapchainRequest) : Bool :=
  (s.authority[surface.xid]?).any fun extent =>
    toU32 req.width ≠ extent.1 || toU32 req.height ≠ extent.2

/-- A swapchain of another extent than the authored one is answered out of date:
nothing is made, and the handle is null. -/
def createSwapchain (s : Backend) (req : CreateSwapchainRequest) :
    Except String (Backend × VkResult × Nat) := do
  let dev ← find s.devices req.device "unknown device handle"
  let surface ← find s.surfaces req.surface "unknown surface handle"
  rejectIf (surface.instanceHandle ≠ dev.instanceHandle)
    "surface and device belong to different instances"
  rejectIf (req.imageFormat < 0 ∨ req.colorSpace < 0 ∨ req.presentMode < 0 ∨ req.width ≤ 0 ∨
      req.height ≤ 0 ∨ req.minImageCount < 1 ∨ req.imageUsage < 1)
    "malformed or missing swapchain parameters"
  if s.extentOutOfDate surface req then
    .ok (s, .errorOutOfDateKhr, 0)
  else
    let created := s.create .swapchain req.device
      { device := req.device, surface := req.surface, imageFormat := req.imageFormat,
        transferDst := hasFlag req.imageUsage.toNat imageUsageTransferDst, width := req.width,
        height := req.height, imageCount := (min (max req.minImageCount 2) 8).toNat }
    .ok (created.modifySurface req.surface fun surf =>
           { surf with swapchains := insert s.nextHandle surf.swapchains, geometryDirty := false },
         .success, s.nextHandle)

/-- Forget a recording whose swapchain went: what it baked in is not cleared. -/
def dropForSwapchain (cb : CmdBuffer) : CmdBuffer :=
  { cb with recorded := false, referencedSurfaces := ∅, referencedSwapchains := ∅ }

def invalidateCbsPresenting (s : Backend) (swapchain : Nat) : Backend :=
  { s with
    commandBuffers := s.commandBuffers.map fun _ cb =>
      if swapchain ∈ cb.referencedSwapchains then dropForSwapchain cb else cb }

/-- The images of a swapchain leave the table with it. -/
def dropSwapchainImage (swapchain : Nat) (s : Backend) (image : Nat) : Backend :=
  { s with
    imageTombstones := rememberTombstone s.imageTombstones
      { image, origin := .swapchain, cause := .destroySwapchain, swapchain }
    images := s.images.erase image }

def destroySwapchain (s : Backend) (handle : Nat) : Except String Backend := do
  let sc ← find s.swapchains handle "unknown swapchain handle"
  rejectIf (sc.imageViews ≠ ∅) "swapchain has live image views; destroy them first"
  let unlinked := s.modifySurface sc.surface fun surf =>
    { surf with swapchains := surf.swapchains.erase handle }
  let emptied := sc.images.foldl (dropSwapchainImage handle)
    (unlinked.invalidateCbsPresenting handle)
  return emptied.discard .swapchain sc.device handle

def mintSwapchainImage (handle : Nat) (sc : Swapchain) (s : Backend) : Backend :=
  let image : Image :=
    { device := sc.device, swapchain := handle, surface := sc.surface,
      transferDst := sc.transferDst, format := sc.imageFormat }
  { s.bump with
    imageTombstones := forgetTombstone s.imageTombstones s.nextHandle
    images := s.images.insert s.nextHandle image
    swapchains := s.swapchains.modify handle fun sc =>
      { sc with images := sc.images ++ [s.nextHandle] } }

def mintSwapchainImages (handle : Nat) (sc : Swapchain) : Nat → Backend → Backend
  | 0, s => s
  | count + 1, s => mintSwapchainImages handle sc count (mintSwapchainImage handle sc s)

/-- The image handles are minted once. -/
def ensureSwapchainImages (s : Backend) (handle : Nat) (sc : Swapchain) : Backend :=
  if sc.images.isEmpty then mintSwapchainImages handle sc sc.imageCount s else s

def getSwapchainImages (s : Backend) (handle : Nat) : Except String Backend := do
  let sc ← find s.swapchains handle "unknown swapchain handle"
  return s.ensureSwapchainImages handle sc

def surfaceDirty (s : Backend) (surface : Nat) : Bool :=
  (s.surfaces[surface]?).any (·.geometryDirty)

def acquireNextImage (s : Backend) (handle : Nat) : Except String (Backend × VkResult × Nat) := do
  let sc ← find s.swapchains handle "unknown swapchain handle"
  if s.surfaceDirty sc.surface then
    .ok (s, .errorOutOfDateKhr, 0)
  else
    let ensured := s.ensureSwapchainImages handle sc
    .ok ({ ensured with
           swapchains := ensured.swapchains.modify handle fun sc =>
             { sc with nextImage := (sc.nextImage + 1) % sc.imageCount } },
         .success, sc.nextImage)

end Backend

/-! ## Presents -/

structure PresentEntry where
  swapchain : Nat := 0
  imageIndex : Int := 0

structure QueuePresentRequest where
  queue : Nat := 0
  waitSemaphores : List Nat := []
  presents : List PresentEntry := []

namespace Backend

def findLeaf (s : Backend) (kind : LeafKind) (handle device : Nat) (reason : String) :
    Except String Leaf := do
  let leaf ← findOn Leaf.device s.leaves handle device reason
  rejectIf (leaf.kind ≠ kind) reason
  return leaf

/-- Only that the swapchain exists is asked, not that it is on the queue's device. -/
def checkPresent (s : Backend) (entry : PresentEntry) : Except String Unit := do
  let sc ← find s.swapchains entry.swapchain "unknown swapchain handle"
  rejectIf (entry.imageIndex < 0 ∨ entry.imageIndex ≥ sc.imageCount)
    "image index out of range for swapchain"

def presentDirty (s : Backend) (entry : PresentEntry) : Bool :=
  (s.swapchains[entry.swapchain]?).any fun sc => s.surfaceDirty sc.surface

/-- A successful present reveals the surface of its target. -/
def showTarget (s : Backend) (entry : PresentEntry) : Backend :=
  match s.swapchains[entry.swapchain]? with
  | some sc => s.modifySurface sc.surface fun surface => { surface with shown := true }
  | none => s

def queuePresent (s : Backend) (req : QueuePresentRequest) :
    Except String (Backend × VkResult) := do
  let device ← find s.queueToDevice req.queue "unknown queue handle"
  rejectIf req.presents.isEmpty "no present targets"
  checkAll req.waitSemaphores fun semaphore => do
    let _ ← s.findLeaf .semaphore semaphore device
      "wait semaphore is not a semaphore on the present queue's device"
    .ok ()
  checkAll req.presents s.checkPresent
  if req.presents.any s.presentDirty then
    .ok (s, .errorOutOfDateKhr)
  else
    .ok (req.presents.foldl showTarget s, .success)

end Backend

/-! ## Submits -/

structure SubmitWait where
  semaphore : Nat := 0
  stage : Int := 0

structure QueueSubmitRequest where
  queue : Nat := 0
  commandBuffers : List Nat := []
  waits : List SubmitWait := []
  signalSemaphores : List Nat := []
  signalValues : List Nat := []
  fence : Nat := 0

structure SemaphoreSubmit2 where
  semaphore : Nat := 0
  value : Nat := 0

structure SubmitInfo2 where
  commandBuffers : List Nat := []
  waits : List SemaphoreSubmit2 := []
  signals : List SemaphoreSubmit2 := []

structure QueueSubmit2Request where
  queue : Nat := 0
  submits : List SubmitInfo2 := []
  fence : Nat := 0

namespace Backend

def checkSubmittable (s : Backend) (device handle : Nat) : Except String Unit := do
  let cb ← findOn CmdBuffer.device s.commandBuffers handle device
    "command buffer is not on the submit queue's device"
  rejectIf (!cb.recorded) "command buffer has not been recorded"

def checkSignal (s : Backend) (device semaphore : Nat) : Except String Unit := do
  let _ ← s.findLeaf .semaphore semaphore device
    "signal semaphore is not a semaphore on the submit queue's device"
  .ok ()

def checkWait (s : Backend) (device semaphore : Nat) : Except String Unit := do
  let _ ← s.findLeaf .semaphore semaphore device
    "wait semaphore is not a semaphore on the submit queue's device"
  .ok ()

/-- Signal a semaphore; only a timeline semaphore that is behind moves. -/
def advanceTimeline (s : Backend) (semaphore value : Nat) : Backend :=
  s.modifyLeaf semaphore fun leaf =>
    if leaf.isTimeline ∧ leaf.timelineValue < value then { leaf with timelineValue := value }
    else leaf

def signalFence (s : Backend) (device fence : Nat) : Backend × Except String Unit :=
  if fence = 0 then (s, .ok ())
  else
    match s.findLeaf .fence fence device "fence is not a fence on the submit queue's device" with
    | .error reason => (s, .error reason)
    | .ok _ => (s.modifyLeaf fence fun leaf => { leaf with isSignaled := true }, .ok ())

def checkQueueSubmit (s : Backend) (req : QueueSubmitRequest) : Except String Nat := do
  let device ← find s.queueToDevice req.queue "unknown queue handle"
  checkAll req.commandBuffers (s.checkSubmittable device)
  checkAll req.waits fun wait => do
    s.checkWait device wait.semaphore
    rejectIf (!validStageMask wait.stage)
      "wait semaphore has an invalid (zero or out-of-range) stage mask"
  checkAll req.signalSemaphores (s.checkSignal device)
  return device

/-- The timelines have advanced by the time the fence is looked at. -/
def queueSubmit (s : Backend) (req : QueueSubmitRequest) : Backend × Except String Unit :=
  match s.checkQueueSubmit req with
  | .error reason => (s, .error reason)
  | .ok device =>
    let signalled := req.signalSemaphores.zipIdx.foldl
      (fun t entry => t.advanceTimeline entry.1 (req.signalValues.getD entry.2 0)) s
    signalled.signalFence device req.fence

def checkSubmitInfo2 (s : Backend) (device : Nat) (si : SubmitInfo2) : Except String Unit := do
  checkAll si.commandBuffers (s.checkSubmittable device)
  checkAll si.waits fun wait => s.checkWait device wait.semaphore
  checkAll si.signals fun signal => s.checkSignal device signal.semaphore

/-- Batches are checked and carried out one after the other; one that is refused
leaves the signals of those before it. -/
def submitBatches (device : Nat) : List SubmitInfo2 → Backend → Backend × Except String Unit
  | [], s => (s, .ok ())
  | si :: rest, s =>
    match s.checkSubmitInfo2 device si with
    | .error reason => (s, .error reason)
    | .ok () =>
      submitBatches device rest
        (si.signals.foldl (fun t signal => t.advanceTimeline signal.semaphore signal.value) s)

def checkQueueSubmit2 (s : Backend) (queue : Nat) : Except String Nat := do
  let device ← find s.queueToDevice queue "unknown queue handle"
  let dev ← find s.devices device "vkQueueSubmit2 requires the synchronization2 feature"
  rejectIf ((Extension.synchronization2 ∉ dev.enabledExts ∧ !dev.vk13Device) ∨
      !dev.synchronization2FeatureEnabled)
    "vkQueueSubmit2 requires the synchronization2 feature"
  return device

def queueSubmit2 (s : Backend) (req : QueueSubmit2Request) : Backend × Except String Unit :=
  match s.checkQueueSubmit2 req.queue with
  | .error reason => (s, .error reason)
  | .ok device =>
    match submitBatches device req.submits s with
    | (next, .error reason) => (next, .error reason)
    | (next, .ok ()) => next.signalFence device req.fence

/-! ## Waits -/

def validateFenceArray (s : Backend) (fences : List Nat) : Except String Unit := do
  rejectIf fences.isEmpty "no fences specified"
  let first := ((s.leaves[fences.headD 0]?).map (·.device)).getD 0
  checkAll fences fun fence => do
    let leaf ← find s.leaves fence "handle is not a fence"
    rejectIf (leaf.kind ≠ .fence) "handle is not a fence"
    rejectIf (leaf.device ≠ first) "fences span multiple devices"

def resetFences (s : Backend) (fences : List Nat) : Except String Backend := do
  s.validateFenceArray fences
  return fences.foldl (fun t fence => t.modifyLeaf fence fun l => { l with isSignaled := false }) s

def queueWaitIdle (s : Backend) (queue : Nat) : Except String VkResult := do
  let _ ← find s.queueToDevice queue "unknown queue handle"
  return .success

def deviceWaitIdle (s : Backend) (device : Nat) : Except String VkResult := do
  let _ ← find s.devices device "unknown device handle"
  return .success

def findTimeline (s : Backend) (device semaphore : Nat) (reason : String) :
    Except String Leaf := do
  let leaf ← s.findLeaf .semaphore semaphore device reason
  rejectIf (!leaf.isTimeline) reason
  return leaf

def signalSemaphore (s : Backend) (device semaphore value : Nat) : Except String Backend := do
  let leaf ← s.findTimeline device semaphore
    "signal_semaphore references a timeline semaphore not on the device"
  rejectIf (value < leaf.timelineValue)
    "signal_semaphore value is below the current timeline value"
  return s.modifyLeaf semaphore fun l => { l with timelineValue := value }

end Backend

end VkRelay.Session
