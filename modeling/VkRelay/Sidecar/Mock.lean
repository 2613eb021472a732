import VkRelay.Lib.History
import VkRelay.Lib.Scatter
import VkRelay.Registry.Model
import VkRelay.Sidecar.Wire

/-!
The mock backend as both planes see it. The app's data plane makes and destroys surfaces and
swapchains; the sidecar plane registers toplevels, paints their chrome and sets their cursors.
Both go through the window registry, and the mock carries out the effects the registry returns
on stores of its own: the placeholder ids, the chrome, the cursor and the placement of a window.

The tables of the data plane that no window reads are not here. Where a request of that plane is
also checked against them, the operation carries the verdict; other objects only take handles.
-/

namespace VkRelay.Sidecar

open VkRelay.Lib VkRelay.Json VkRelay.Registry

structure MockChrome where
  w : Nat := 0
  h : Nat := 0
  bgra : Bytes := []
deriving DecidableEq

namespace MockChrome

def paintRows (req : SidecarPaintChromeRequest) (bgra : Bytes) : Bytes :=
  (List.range req.dirtyH).foldl
    (fun buffer row =>
      blit buffer ((req.dirtyY + row) * (req.srcW * 4) + req.dirtyX * 4)
        ((req.pixels.drop (row * req.stride)).take (req.dirtyW * 4)))
    bgra

/-- The buffer a paint starts from: a new source size clears it. -/
def paintBase (c : MockChrome) (req : SidecarPaintChromeRequest) : MockChrome :=
  if c.w ≠ req.srcW ∨ c.h ≠ req.srcH then
    { w := req.srcW, h := req.srcH, bgra := List.replicate (req.srcW * req.srcH * 4) 0 }
  else c

def paint (c : MockChrome) (req : SidecarPaintChromeRequest) : MockChrome :=
  { c.paintBase req with bgra := paintRows req (c.paintBase req).bgra }

end MockChrome

structure MockCursor where
  w : Nat := 0
  h : Nat := 0
  xhot : Nat := 0
  yhot : Nat := 0
  bgra : Bytes := []
deriving DecidableEq

structure MockGeometry where
  geometry : ToplevelGeometry := {}
  seq : Nat := 0
deriving DecidableEq

structure Surface where
  xid : Nat := 0
  swapchains : Finset Nat := ∅
  geometryDirty : Bool := false
  shown : Bool := false

structure Swapchain where
  surface : Nat := 0
  width : Nat := 0
  height : Nat := 0
deriving DecidableEq

structure MockBackend where
  registry : WindowRegistry := {}
  nextHandle : Nat := 1
  surfaces : Table Surface := ∅
  swapchains : Table Swapchain := ∅
  placeholders : Finset Nat := ∅
  chrome : Table MockChrome := ∅
  cursors : Table MockCursor := ∅
  geometry : Table MockGeometry := ∅

inductive Event where
  /-- A registration was applied. -/
  | registered (xid : Nat)
  /-- A placeholder was opened for the window. -/
  | opened (xid : Nat)
  /-- The window was unregistered, or went with the owner of its popup. -/
  | ended (xid : Nat)
  | painted (req : SidecarPaintChromeRequest)
  | cursorSet (xid : Nat) (cursor : MockCursor)
  | swapchainCreated (swapchain surface : Nat)
  /-- An acquire or a present of the swapchain succeeded. -/
  | flowed (swapchain : Nat)
deriving DecidableEq

namespace MockBackend

variable (m : MockBackend)

/-! ## Effects -/

/-- The window that showed the placeholder is gone, and what was drawn on it. -/
def dropPlaceholder (xid placeholderId : Nat) : MockBackend :=
  { m with
    placeholders := m.placeholders.erase placeholderId
    chrome := m.chrome.erase xid
    cursors := m.cursors.erase xid
    geometry := m.geometry.erase xid }

def applyKind (eff : RegistryEffect) : MockBackend :=
  match eff.kind with
  | .createPlaceholder => { m with placeholders := insert eff.placeholderId m.placeholders }
  | .destroyPlaceholder | .promotePlaceholderToSurface =>
    m.dropPlaceholder eff.xid eff.placeholderId
  | .applyGeometry | .setVisibility | .none => m

/-- A placement is recorded unless a later one was. -/
def recordGeometry (eff : RegistryEffect) : MockBackend :=
  if eff.kind ≠ .setVisibility ∧ eff.hostApplySeq ≠ 0 ∧
      eff.hostApplySeq > (m.geometry.getD eff.xid {}).seq then
    { m with
      geometry := m.geometry.insert eff.xid { geometry := eff.geometry, seq := eff.hostApplySeq } }
  else m

/-- A resize by the sidecar marks the surface of the window. -/
def markDirty (eff : RegistryEffect) : MockBackend :=
  if eff.kind = .applyGeometry ∧ eff.applySize = true ∧ m.registry.surfaceForXid eff.xid ≠ 0 then
    { m with
      surfaces := m.surfaces.modify (m.registry.surfaceForXid eff.xid) fun surface =>
        { surface with geometryDirty := true } }
  else m

def applyMockEffect (eff : RegistryEffect) : MockBackend :=
  ((m.applyKind eff).recordGeometry eff).markDirty eff

def follow (result : RegistryEffect × WindowRegistry) : MockBackend :=
  { m with registry := result.2 }.applyMockEffect result.1

/-! ## Data plane -/

def createSurface (admitted : Bool) (xid : Nat) : MockBackend :=
  if admitted then
    { m with
      nextHandle := m.nextHandle + 1
      surfaces := m.surfaces.insert m.nextHandle { xid }
      }.follow (m.registry.bindSurface xid m.nextHandle)
  else m

def destroySurface (handle : Nat) : MockBackend :=
  match m.surfaces[handle]? with
  | none => m
  | some surface =>
    if surface.swapchains ≠ ∅ then m
    else
      let unbound := m.follow (m.registry.unbindSurface surface.xid handle)
      { unbound with surfaces := unbound.surfaces.erase handle }

/-- The sidecar has authored another extent for the window. -/
def extentOutOfDate (xid : Nat) (width height : Int) : Bool :=
  (m.registry.authoritativeExtentForXid xid).any fun extent =>
    (width.toNat % 2 ^ 32, height.toNat % 2 ^ 32) != extent

def createSwapchain (admitted : Bool) (surface : Nat) (width height : Int) :
    MockBackend × List Event :=
  match m.surfaces[surface]? with
  | none => (m, [])
  | some target =>
    if admitted = false ∨ width ≤ 0 ∨ height ≤ 0 then (m, [])
    else if m.extentOutOfDate target.xid width height then (m, [])
    else
      ({ m with
          nextHandle := m.nextHandle + 1
          swapchains := m.swapchains.insert m.nextHandle
            { surface, width := width.toNat, height := height.toNat }
          surfaces := m.surfaces.insert surface
            { target with
              swapchains := insert m.nextHandle target.swapchains, geometryDirty := false } },
        [.swapchainCreated m.nextHandle surface])

def destroySwapchain (admitted : Bool) (handle : Nat) : MockBackend :=
  match m.swapchains[handle]? with
  | none => m
  | some sc =>
    if admitted then
      { m with
        swapchains := m.swapchains.erase handle
        surfaces := m.surfaces.modify sc.surface fun surface =>
          { surface with swapchains := surface.swapchains.erase handle } }
    else m

/-- While its surface is dirty a swapchain is out of date. -/
def dirty (sc : Swapchain) : Bool := (m.surfaces[sc.surface]?).any (·.geometryDirty)

def acquireNextImage (handle : Nat) : MockBackend × List Event :=
  match m.swapchains[handle]? with
  | none => (m, [])
  | some sc => if m.dirty sc then (m, []) else (m, [.flowed handle])

/-- A present reveals the surfaces of its targets. -/
def reveal (handle : Nat) : MockBackend :=
  match m.swapchains[handle]? with
  | none => m
  | some sc =>
    { m with
      surfaces := m.surfaces.modify sc.surface fun surface => { surface with shown := true } }

/-- One dirty target holds back the whole batch. -/
def queuePresent (admitted : Bool) (targets : List Nat) : MockBackend × List Event :=
  if admitted = false ∨ targets = [] ∨ targets.any (fun handle => !(m.swapchains.contains handle))
  then (m, [])
  else if targets.any fun handle => (m.swapchains[handle]?).any m.dirty then (m, [])
  else (targets.foldl reveal m, targets.map .flowed)

/-! ## Sidecar plane -/

def registerToplevel (xid generation : Nat) (top : Toplevel) : MockBackend × List Event :=
  let result := m.registry.registerToplevel xid generation top
  (m.follow result,
    (if result.1.kind = .createPlaceholder then [.opened xid] else []) ++
      if result.1.applied then [.registered xid] else [])

def updateToplevel (xid generation : Nat) (role : String) (geometry : ToplevelGeometry)
    (zOrder : ZOrder) : MockBackend :=
  m.follow (m.registry.updateToplevel xid generation role geometry zOrder)

def setVisibility (xid generation : Nat) (state : VisibilityState) : MockBackend :=
  m.follow (m.registry.setVisibility xid generation state)

/-- The popups of a window go with it. Only the placeholders among them lose their stores. -/
def cascade (ownerXid : Nat) : MockBackend × List Event :=
  let (effs, registry) := m.registry.takeOrphanedPopups ownerXid
  (effs.foldl applyMockEffect { m with registry }, effs.map fun eff => .ended eff.xid)

def unregisterToplevel (xid generation : Nat) : MockBackend × List Event :=
  let result := m.registry.unregisterToplevel xid generation
  let followed := m.follow result
  if result.1.applied then
    let (next, events) := { followed with cursors := followed.cursors.erase xid }.cascade xid
    (next, .ended xid :: events)
  else (followed, [])

def mockPaintChrome (req : SidecarPaintChromeRequest) : MockBackend :=
  { m with chrome := m.chrome.insert req.xid ((m.chrome.getD req.xid {}).paint req) }

/-- The gate of a paint: a placeholder, its very generation, and a newer sequence number. -/
def acceptPlaceholderPaint (r : WindowRegistry) (xid lifecycleGeneration seq : Nat) : Bool :=
  match r.entries[xid]? with
  | none => false
  | some e =>
    decide (e.representation = .placeholder ∧ lifecycleGeneration = e.generation ∧
      e.lastPaintSeq < seq)

def paintChrome (req : SidecarPaintChromeRequest) : MockBackend × List Event :=
  if acceptPlaceholderPaint m.registry req.xid req.lifecycleGeneration req.seq then
    let painted := m.mockPaintChrome req
    ({ painted with
        registry :=
          (painted.registry.commitPlaceholderPaint req.xid req.lifecycleGeneration req.seq).2 },
      [.painted req])
  else (m, [])

def toplevelRegistered (r : WindowRegistry) (xid : Nat) : Bool :=
  (r.entries[xid]?).any (·.toplevelRegistered)

def setCursor (req : SidecarSetCursorRequest) : MockBackend × List Event :=
  if toplevelRegistered m.registry req.xid = false ∨ req.epoch ≠ m.registry.epochForXid req.xid then
    (m, [])
  else
    let cursor : MockCursor :=
      { w := req.width, h := req.height, xhot := req.xhot, yhot := req.yhot, bgra := req.pixels }
    ({ m with cursors := m.cursors.insert req.xid cursor }, [.cursorSet req.xid cursor])

def debugCursorState (xid : Nat) : Option MockCursor := m.cursors[xid]?

end MockBackend

/-! ## Runs -/

inductive Op where
  | createSurface (admitted : Bool) (xid : Nat)
  | destroySurface (handle : Nat)
  | createSwapchain (admitted : Bool) (surface : Nat) (width height : Int)
  | destroySwapchain (admitted : Bool) (handle : Nat)
  | acquireNextImage (handle : Nat)
  | queuePresent (admitted : Bool) (targets : List Nat)
  /-- Another object of the data plane takes a handle. -/
  | takeHandle
  | registerToplevel (xid generation : Nat) (top : Toplevel)
  | updateToplevel (xid generation : Nat) (role : String) (geometry : ToplevelGeometry)
      (zOrder : ZOrder)
  | setVisibility (xid generation : Nat) (state : VisibilityState)
  | unregisterToplevel (xid generation : Nat)
  | paintChrome (body : Bytes)
  | setCursor (body : Bytes)

/-- One request. A body that does not decode never reaches the backend. -/
def MockBackend.step (m : MockBackend) : Op → MockBackend × List Event
  | .createSurface admitted xid => (m.createSurface admitted xid, [])
  | .destroySurface handle => (m.destroySurface handle, [])
  | .createSwapchain admitted surface width height =>
    m.createSwapchain admitted surface width height
  | .destroySwapchain admitted handle => (m.destroySwapchain admitted handle, [])
  | .acquireNextImage handle => m.acquireNextImage handle
  | .queuePresent admitted targets => m.queuePresent admitted targets
  | .takeHandle => ({ m with nextHandle := m.nextHandle + 1 }, [])
  | .registerToplevel xid generation top => m.registerToplevel xid generation top
  | .updateToplevel xid generation role geometry zOrder =>
    (m.updateToplevel xid generation role geometry zOrder, [])
  | .setVisibility xid generation state => (m.setVisibility xid generation state, [])
  | .unregisterToplevel xid generation => m.unregisterToplevel xid generation
  | .paintChrome body =>
    match SidecarPaintChromeRequest.fromWire body with
    | .error _ => (m, [])
    | .ok req => m.paintChrome req
  | .setCursor body =>
    match SidecarSetCursorRequest.fromWire body with
    | .error _ => (m, [])
    | .ok req => m.setCursor req

abbrev MockHistory := History MockBackend Event

def historyOf (ops : List Op) : MockHistory := History.of MockBackend.step {} ops

end VkRelay.Sidecar
