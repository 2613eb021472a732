import VkRelay.Display.Placement
import VkRelay.Registry.Model

/-!
A host window's live geometry on the window thread. The sidecar's newest geometry waits in a
cell of the window's slot until a drain finds the slot lock free; the drain turns the client
geometry into a frame, gives it to the host in one call, and feeds back where the client
really came to lie. Coordinates are integers; what the host does with a call is a parameter.
-/

namespace VkRelay.Windowing

open VkRelay.Display VkRelay.Registry

structure Point where
  x : Int := 0
  y : Int := 0
deriving DecidableEq, Repr

structure Rect where
  left : Int := 0
  top : Int := 0
  right : Int := 0
  bottom : Int := 0
deriving DecidableEq, Repr

structure RootClientGeometry where
  rootX : Int := 0
  rootY : Int := 0
  clientW : Int := 0
  clientH : Int := 0
deriving DecidableEq, Repr

def RootClientGeometry.origin (g : RootClientGeometry) : Int × Int := (g.rootX, g.rootY)

def RootClientGeometry.extent (g : RootClientGeometry) : Int × Int := (g.clientW, g.clientH)

/-- What Win32 reports of a window: both rectangles in screen coordinates. -/
structure Hwnd where
  frame : Rect := {}
  client : Rect := {}
  popup : Bool := false
  zoomed : Bool := false
deriving DecidableEq, Repr

structure FrameInsets where
  left : Int
  top : Int
  right : Int
  bottom : Int
deriving DecidableEq, Repr

def readRealFrameInsets (hwnd : Hwnd) : FrameInsets where
  left := hwnd.client.left - hwnd.frame.left
  top := hwnd.client.top - hwnd.frame.top
  right := hwnd.frame.right - hwnd.client.right
  bottom := hwnd.frame.bottom - hwnd.client.bottom

def FrameInsets.valid (insets : FrameInsets) : Bool :=
  0 ≤ insets.left ∧ 0 ≤ insets.top ∧ 0 ≤ insets.right ∧ 0 ≤ insets.bottom

def mapRootClientToWin32FrameWithInsets (g : RootClientGeometry) (workOrigin : Point)
    (insets : FrameInsets) : Rect where
  left := workOrigin.x + g.rootX - insets.left
  top := workOrigin.y + g.rootY - insets.top
  right := workOrigin.x + g.rootX + g.clientW + insets.right
  bottom := workOrigin.y + g.rootY + g.clientH + insets.bottom

def readRealRootClientGeometry (hwnd : Hwnd) (hostOrigin : Point) : RootClientGeometry where
  rootX := hwnd.client.left - hostOrigin.x
  rootY := hwnd.client.top - hostOrigin.y
  clientW := hwnd.client.right - hwnd.client.left
  clientH := hwnd.client.bottom - hwnd.client.top

/-! ## The first placement -/

/-- One axis of `clamp_frame_to_work_area`. -/
def clampFrameAxis (low high workLow workHigh : Int) : Int :=
  if high - low ≥ workHigh - workLow then workLow
  else
    let from' := if low < workLow then workLow else low
    if from' + (high - low) > workHigh then workHigh - (high - low) else from'

def clampFrameToWorkArea (frame work : Rect) : Point where
  x := clampFrameAxis frame.left frame.right work.left work.right
  y := clampFrameAxis frame.top frame.bottom work.top work.bottom

/-- What a session pins for its windows: the origin of the X root and the layout. Without a
layout the work area is the one the host reports, if it reports one. -/
structure Desk where
  hostOrigin : Point := {}
  displayLayout : Option DisplayLayout := none
  workArea : Option Rect := none

def Desk.initialPlacement (desk : Desk) (g : RootClientGeometry) (outer : Rect) : Point :=
  match desk.displayLayout with
  | some layout =>
    let client : RectI32 := ⟨.ofInt g.rootX, .ofInt g.rootY, .ofInt g.clientW, .ofInt g.clientH⟩
    let clientHost := (guestToHost layout client).getD layout.virtualBounds
    match (findMonitorLargestIntersection layout clientHost).or
        (findMonitorNearest layout clientHost) with
    | some monitor =>
      let placed := clampRectToMonitorWorkOrVirtual
        ⟨.ofInt outer.left, .ofInt outer.top, .ofInt (outer.right - outer.left),
          .ofInt (outer.bottom - outer.top)⟩ monitor layout.virtualBounds
      ⟨placed.x.toInt, placed.y.toInt⟩
    | none => ⟨outer.left, outer.top⟩
  | none =>
    match desk.workArea with
    | some work => clampFrameToWorkArea outer work
    | none => ⟨outer.left, outer.top⟩

/-! ## The slot -/

/-- The window thread's record of a window: the newest geometry asked for, the number of the
last one applied, and the geometry fed back whose echo is to be adopted. -/
structure WindowSlot where
  desired : RootClientGeometry := {}
  desiredSeq : Nat := 0
  desiredApplySize : Bool := false
  desiredZ : ZOrder := .none
  appliedSeq : Nat := 0
  initialPlacementPending : Bool := true
  realized : Option RootClientGeometry := none
  adoption : Option RootClientGeometry := none
  hasInputTarget : Bool := true
deriving DecidableEq, Repr

structure GeometryCall where
  geometry : RootClientGeometry
  seq : Nat
  applySize : Bool
  zOrder : ZOrder
deriving DecidableEq, Repr

namespace WindowSlot

/-- A restack intent is latched in any case; the rest only by a newer call. -/
def setDesiredGeometry (slot : WindowSlot) (call : GeometryCall) : WindowSlot :=
  let slot := if call.zOrder ≠ .none then { slot with desiredZ := call.zOrder } else slot
  if call.seq ≤ slot.desiredSeq then slot
  else
    { slot with
      desired := call.geometry, desiredSeq := call.seq, desiredApplySize := call.applySize }

def hasPendingGeometry (slot : WindowSlot) : Bool := slot.desiredSeq > slot.appliedSeq

def markGeometryApplied (slot : WindowSlot) : WindowSlot :=
  { slot with appliedSeq := slot.desiredSeq, desiredZ := .none }

/-- The desired geometry is the one fed back and the client still has it. -/
def adopts (slot : WindowSlot) (live : RootClientGeometry) : Bool :=
  slot.adoption.any fun fed =>
    slot.desired == fed && live.origin == fed.origin &&
      (!slot.desiredApplySize || live.extent == fed.extent)

def consumePendingRealizationAdoption (slot : WindowSlot) : WindowSlot :=
  { slot with adoption := none }

end WindowSlot

/-! ## The drain -/

/-- One `SetWindowPos`; without a restack the window keeps its place in the stack. -/
structure WindowPos where
  insertAfter : ZOrder
  left : Int
  top : Int
  width : Int
  height : Int
  noMove : Bool
  noSize : Bool
deriving DecidableEq, Repr

/-- A window with its slot, the calls made for it, the geometry requests it has enqueued, and
how often a drain was posted again. -/
structure HostWindow where
  slot : WindowSlot := {}
  hwnd : Hwnd := {}
  placed : List WindowPos := []
  requests : List RootClientGeometry := []
  posted : Nat := 0
deriving DecidableEq, Repr

/-- The call a drain makes for the desired geometry. -/
def windowPos (desk : Desk) (slot : WindowSlot) (hwnd : Hwnd) (adopt : Bool) : WindowPos :=
  let outer := mapRootClientToWin32FrameWithInsets slot.desired desk.hostOrigin
    (readRealFrameInsets hwnd)
  let at' := if !adopt && !hwnd.popup && slot.initialPlacementPending
    then desk.initialPlacement slot.desired outer else ⟨outer.left, outer.top⟩
  let live := readRealRootClientGeometry hwnd desk.hostOrigin
  let resize := slot.desiredApplySize && slot.desired.clientW > 0 && slot.desired.clientH > 0 &&
    live.extent != slot.desired.extent
  { insertAfter := slot.desiredZ
    left := at'.x, top := at'.y
    width := outer.right - outer.left, height := outer.bottom - outer.top
    noMove := adopt || hwnd.zoomed
    noSize := !resize || adopt || hwnd.zoomed }

/-- The request that tells the guest where its client is: a position-only apply answers with
the size asked for, not with the one the host window happens to have. -/
def feedback (slot : WindowSlot) (real : RootClientGeometry) : RootClientGeometry :=
  if slot.desiredApplySize then real
  else { slot.desired with rootX := real.rootX, rootY := real.rootY }

/-- The end of a drain: record the real geometry and feed it back where it is off. -/
def reconcile (desk : Desk) (w : HostWindow) : HostWindow :=
  if w.slot.hasInputTarget ∧ ¬w.hwnd.zoomed then
    let real := readRealRootClientGeometry w.hwnd desk.hostOrigin
    let slot := { w.slot with realized := some real }
    if real.origin ≠ slot.desired.origin then
      { w with
        slot := { slot with adoption := some (feedback slot real) }
        requests := w.requests ++ [feedback slot real] }
    else { w with slot }
  else w

/-- One attempt to apply the desired geometry; `setWindowPos` is what the host makes of a call
and `busy` whether the session thread holds the slot lock. -/
def drainGeometry (desk : Desk) (setWindowPos : Hwnd → WindowPos → Hwnd) (busy : Bool)
    (w : HostWindow) : HostWindow :=
  if ¬w.slot.hasPendingGeometry then w
  else if busy then { w with posted := w.posted + 1 }
  else
    let live := readRealRootClientGeometry w.hwnd desk.hostOrigin
    let adopt := w.slot.adopts live
    let slot := w.slot.consumePendingRealizationAdoption
    let slot := if adopt then { slot with realized := some live } else slot
    if adopt ∧ slot.desiredZ = .none then { w with slot := slot.markGeometryApplied }
    else if ¬(readRealFrameInsets w.hwnd).valid then { w with slot }
    else
      let pos := windowPos desk slot w.hwnd adopt
      let slot := if !adopt && !w.hwnd.popup
        then { slot with initialPlacementPending := false } else slot
      reconcile desk { w with
        slot := slot.markGeometryApplied, hwnd := setWindowPos w.hwnd pos
        placed := w.placed ++ [pos] }

def applyGeometry (desk : Desk) (setWindowPos : Hwnd → WindowPos → Hwnd) (busy : Bool)
    (call : GeometryCall) (w : HostWindow) : HostWindow :=
  drainGeometry desk setWindowPos busy { w with slot := w.slot.setDesiredGeometry call }

/-! ## What an attempt that takes the lock does -/

def HostWindow.live (desk : Desk) (w : HostWindow) : RootClientGeometry :=
  readRealRootClientGeometry w.hwnd desk.hostOrigin

section Free

variable {desk : Desk} {setWindowPos : Hwnd → WindowPos → Hwnd} {w : HostWindow}

/-- An adopted geometry without a restack is only acknowledged. -/
theorem drainGeometry_adopted (hpending : w.slot.hasPendingGeometry = true)
    (hadopt : w.slot.adopts (w.live desk) = true) (hz : w.slot.desiredZ = .none) :
    drainGeometry desk setWindowPos false w = { w with slot := { w.slot with
      adoption := none, realized := some (w.live desk), appliedSeq := w.slot.desiredSeq
      desiredZ := .none } } := by
  unfold HostWindow.live at hadopt
  simp [drainGeometry, hpending, hadopt, hz, WindowSlot.consumePendingRealizationAdoption,
    WindowSlot.markGeometryApplied, HostWindow.live]

/-- Any other geometry is placed, and the result reconciled. -/
theorem drainGeometry_placed (hpending : w.slot.hasPendingGeometry = true)
    (hmeasured : (readRealFrameInsets w.hwnd).valid = true)
    (hnew : w.slot.adopts (w.live desk) = true → w.slot.desiredZ ≠ .none) :
    ∃ realized, drainGeometry desk setWindowPos false w = let adopt := w.slot.adopts (w.live desk)
      let pos := windowPos desk w.slot w.hwnd adopt
      reconcile desk { w with
        slot := { w.slot with
          adoption := none, realized, appliedSeq := w.slot.desiredSeq, desiredZ := .none
          initialPlacementPending := w.slot.initialPlacementPending && (adopt || w.hwnd.popup) }
        hwnd := setWindowPos w.hwnd pos
        placed := w.placed ++ [pos] } := by
  unfold HostWindow.live at hnew ⊢
  cases hadopt : w.slot.adopts (readRealRootClientGeometry w.hwnd desk.hostOrigin) with
  | true =>
    refine ⟨some (readRealRootClientGeometry w.hwnd desk.hostOrigin), ?_⟩
    simp [drainGeometry, hpending, hadopt, hnew hadopt, hmeasured,
      WindowSlot.consumePendingRealizationAdoption, WindowSlot.markGeometryApplied]
    rfl
  | false =>
    refine ⟨w.slot.realized, ?_⟩
    cases hpopup : w.hwnd.popup <;>
      simp [drainGeometry, hpending, hadopt, hmeasured, hpopup,
        WindowSlot.consumePendingRealizationAdoption, WindowSlot.markGeometryApplied] <;> rfl

/-- The reconciliation leaves all but the record of what was realized and fed back. -/
theorem reconcile_frame (desk : Desk) (w : HostWindow) :
    ∃ realized adoption requests, reconcile desk w =
      { w with slot := { w.slot with realized, adoption }, requests } := by
  unfold reconcile
  dsimp only
  split_ifs
  · exact ⟨_, _, _, rfl⟩
  · exact ⟨_, w.slot.adoption, w.requests, rfl⟩
  · exact ⟨w.slot.realized, w.slot.adoption, w.requests, rfl⟩

/-- The client already has a geometry that is adopted. -/
theorem adopts_live {slot : WindowSlot} {live : RootClientGeometry}
    (hadopt : slot.adopts live = true) : live.origin = slot.desired.origin ∧
      (slot.desiredApplySize = true → live.extent = slot.desired.extent) := by
  unfold WindowSlot.adopts at hadopt
  rw [Option.any_eq_true] at hadopt
  obtain ⟨fed, -, hmatch⟩ := hadopt
  simp only [Bool.and_eq_true, beq_iff_eq, Bool.or_eq_true, Bool.not_eq_true'] at hmatch
  obtain ⟨⟨rfl, horigin⟩, hextent⟩ := hmatch
  exact ⟨horigin, fun hsized => hextent.resolve_left (by simp [hsized])⟩

end Free

end VkRelay.Windowing
