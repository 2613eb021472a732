import VkRelay.Lib.Tickets

/-!
The window registry, the pure transition engine that joins a guest toplevel's XID
to its representation on the host. The app's data plane binds and unbinds surfaces;
the sidecar plane registers, updates, hides and unregisters toplevels, each call
tagged with a lifecycle generation. Every call returns the effect the backend has to
carry out on the host.

Handles, XIDs, generations and the registry's own counters are natural numbers; the
counters do not overflow.
-/

namespace VkRelay.Registry

open VkRelay.Lib

inductive Representation where
  | none | placeholder | surface
deriving DecidableEq, Repr

structure ToplevelGeometry where
  x : Int := 0
  y : Int := 0
  width : Nat := 0
  height : Nat := 0
deriving DecidableEq, Repr

/-- A degenerate size means that no geometry was given. -/
def ToplevelGeometry.hasGeometry (geometry : ToplevelGeometry) : Bool :=
  geometry.width > 0 ∧ geometry.height > 0

inductive ZOrder where
  | none | raise | lower
deriving DecidableEq, Repr

inductive VisibilityState where
  | visible | hidden | iconic
deriving DecidableEq, Repr

inductive EffectKind where
  | none
  | createPlaceholder
  | destroyPlaceholder
  | promotePlaceholderToSurface
  | applyGeometry
  | setVisibility
deriving DecidableEq, Repr

/-- What the backend must do to the host after a transition. -/
structure RegistryEffect where
  kind : EffectKind := .none
  applied : Bool := false
  xid : Nat := 0
  placeholderId : Nat := 0
  surface : Nat := 0
  geometry : ToplevelGeometry := {}
  isPopup : Bool := false
  ownerXid : Nat := 0
  popupKind : Nat := 0
  hostApplySeq : Nat := 0
  applySize : Bool := false
  zOrder : ZOrder := .none
  visibilityState : VisibilityState := .visible
deriving DecidableEq, Repr

structure Entry where
  xid : Nat := 0
  surface : Nat := 0
  representation : Representation := .none
  placeholderId : Nat := 0
  toplevelRegistered : Bool := false
  generation : Nat := 0
  representationEpoch : Nat := 0
  role : String := ""
  title : String := ""
  geometry : ToplevelGeometry := {}
  extentAuthoritative : Bool := false
  lastZOrder : ZOrder := .none
  visibilityState : VisibilityState := .visible
  isPopup : Bool := false
  ownerXid : Nat := 0
  popupKind : Nat := 0
  shown : Bool := false
  lastPaintSeq : Nat := 0
deriving DecidableEq, Repr

structure WindowRegistry where
  entries : Table Entry := ∅
  nextPlaceholderId : Nat := 0
  nextEpoch : Nat := 0
  nextHostApplySeq : Nat := 0

structure Toplevel where
  role : String := ""
  title : String := ""
  geometry : ToplevelGeometry := {}
  isPopup : Bool := false
  ownerXid : Nat := 0
  popupKind : Nat := 0
deriving DecidableEq, Repr

namespace Entry

def annotate (e : Entry) (xid generation : Nat) (top : Toplevel) : Entry :=
  { e with
    xid, generation
    toplevelRegistered := true
    visibilityState := .visible
    role := top.role
    title := top.title
    geometry := top.geometry
    isPopup := top.isPopup
    ownerXid := top.ownerXid
    popupKind := top.popupKind }

def effective (e : Entry) (geometry : ToplevelGeometry) : ToplevelGeometry :=
  if geometry.hasGeometry then geometry else e.geometry

def posChanged (e : Entry) (geometry : ToplevelGeometry) : Bool :=
  geometry.hasGeometry ∧
    ((e.effective geometry).x ≠ e.geometry.x ∨ (e.effective geometry).y ≠ e.geometry.y)

def sizeChanged (e : Entry) (geometry : ToplevelGeometry) : Bool :=
  geometry.hasGeometry ∧
    ((e.effective geometry).width ≠ e.geometry.width ∨
      (e.effective geometry).height ≠ e.geometry.height)

/-- The entry as an update leaves it; a size change makes the sidecar the extent authority. -/
def updated (e : Entry) (generation : Nat) (role : String) (geometry : ToplevelGeometry)
    (zOrder : ZOrder) : Entry :=
  { e with
    generation
    role := if role.isEmpty then e.role else role
    geometry := e.effective geometry
    extentAuthoritative := e.extentAuthoritative || e.sizeChanged geometry
    lastZOrder := if zOrder ≠ .none then zOrder else e.lastZOrder }

/-- The entry without its toplevel side. The popup fields stay. -/
def unregistered (e : Entry) (generation : Nat) : Entry :=
  { e with
    generation
    toplevelRegistered := false
    role := "", title := "", geometry := {}
    extentAuthoritative := false
    lastZOrder := .none }

/-- The popups that go with their owner; their surfaces are not looked at. -/
def ownedBy (e : Entry) (ownerXid : Nat) : Bool := e.isPopup && decide (e.ownerXid = ownerXid)

def orphanEffect (e : Entry) (ownerXid : Nat) : RegistryEffect :=
  if e.representation = .placeholder then
    { kind := .destroyPlaceholder, applied := true, xid := e.xid, isPopup := true, ownerXid
      placeholderId := e.placeholderId }
  else { applied := true, xid := e.xid, isPopup := true, ownerXid }

end Entry

namespace WindowRegistry

variable (r : WindowRegistry)

def put (xid : Nat) (e : Entry) : WindowRegistry := { r with entries := r.entries.insert xid e }

def drop (xid : Nat) : WindowRegistry := { r with entries := r.entries.erase xid }

def mintEpoch : WindowRegistry := { r with nextEpoch := r.nextEpoch + 1 }

def mintPlaceholder : WindowRegistry := { r with nextPlaceholderId := r.nextPlaceholderId + 1 }

def placed (seq : Nat) : WindowRegistry := { r with nextHostApplySeq := seq }

def stampGeometryPlacement (eff : RegistryEffect) (e : Entry) : RegistryEffect × WindowRegistry :=
  ({ eff with
      geometry := e.geometry
      hostApplySeq := r.nextHostApplySeq + 1
      applySize := e.extentAuthoritative },
    r.placed (r.nextHostApplySeq + 1))

/-! ## Surface side -/

def bindSurface (xid surface : Nat) : RegistryEffect × WindowRegistry :=
  if xid = 0 then ({}, r)
  else
    let epoch := r.nextEpoch + 1
    match r.entries[xid]? with
    | none =>
      ({ applied := true, xid, surface },
        r.mintEpoch.put xid
          { xid, surface, representation := .surface, representationEpoch := epoch })
    | some e =>
      if e.representation = .placeholder then
        let e' := { e with
          surface, representation := .surface, placeholderId := 0, representationEpoch := epoch }
        (r.mintEpoch.put xid e').stampGeometryPlacement
          { kind := .promotePlaceholderToSurface, applied := true, xid,
            placeholderId := e.placeholderId, surface } e'
      else
        -- A second surface overwrites the first; one that was lost is replaced.
        let e' := { e with surface, representation := .surface, representationEpoch := epoch }
        let eff : RegistryEffect := { applied := true, xid, surface }
        if e.toplevelRegistered then (r.mintEpoch.put xid e').stampGeometryPlacement eff e'
        else (eff, r.mintEpoch.put xid e')

def unbindSurface (xid surface : Nat) : RegistryEffect × WindowRegistry :=
  if xid = 0 then ({}, r)
  else
    match r.entries[xid]? with
    | none => ({}, r)
    | some e =>
      if e.surface ≠ surface then ({}, r)
      else if e.toplevelRegistered then
        ({ applied := true }, r.put xid { e with surface := 0, representation := .none })
      else ({ applied := true }, r.drop xid)

/-! ## Toplevel side -/

/-- A live, registered toplevel that is no popup. -/
def ownerLive (ownerXid : Nat) : Bool :=
  ownerXid ≠ 0 ∧ (r.entries[ownerXid]?).any fun e => e.toplevelRegistered && !e.isPopup

/-- The sidecar's call is not newer than what the entry has seen. -/
def stale (xid generation : Nat) : Bool :=
  (r.entries[xid]?).any fun e => generation ≤ e.generation

def registerToplevel (xid generation : Nat) (top : Toplevel) : RegistryEffect × WindowRegistry :=
  if xid = 0 then ({}, r)
  else if r.stale xid generation then ({}, r)
  else if top.isPopup ∧ !r.ownerLive top.ownerXid then ({}, r)
  else
    let prior := r.entries[xid]?
    let e := Entry.annotate (prior.getD {}) xid generation top
    let eff : RegistryEffect := { applied := true, xid }
    if e.surface ≠ 0 then
      -- A surface that outlived an earlier registration starts a new representation.
      if prior.any fun old => !old.toplevelRegistered && decide (0 < old.generation) then
        let e := { e with representation := .surface, representationEpoch := r.nextEpoch + 1 }
        (r.mintEpoch.put xid e).stampGeometryPlacement eff e
      else
        let e := { e with representation := .surface }
        (r.put xid e).stampGeometryPlacement eff e
    else if e.representation = .placeholder then (r.put xid e).stampGeometryPlacement eff e
    else
      let id := r.nextPlaceholderId + 1
      let e := { e with
        representation := .placeholder, placeholderId := id
        representationEpoch := r.nextEpoch + 1
        shown := false, lastPaintSeq := 0 }
      (r.mintEpoch.mintPlaceholder.put xid e).stampGeometryPlacement
        { eff with
          kind := .createPlaceholder, placeholderId := id, geometry := top.geometry
          isPopup := top.isPopup, ownerXid := top.ownerXid, popupKind := top.popupKind } e

/-- The tests at the head of the calls on a known window, which must be newer than what the
entry has seen. -/
def ifNewer (xid generation : Nat) (apply : Entry → RegistryEffect × WindowRegistry) :
    RegistryEffect × WindowRegistry :=
  if xid = 0 then ({}, r)
  else
    match r.entries[xid]? with
    | none => ({}, r)
    | some e => if generation ≤ e.generation then ({}, r) else apply e

def updateToplevel (xid generation : Nat) (role : String) (geometry : ToplevelGeometry)
    (zOrder : ZOrder) : RegistryEffect × WindowRegistry :=
  r.ifNewer xid generation fun e =>
    let e' := e.updated generation role geometry zOrder
    if e.posChanged geometry ∨ e.sizeChanged geometry ∨ zOrder ≠ .none then
      ({ kind := .applyGeometry, applied := true, xid, geometry := e'.geometry
         hostApplySeq := r.nextHostApplySeq + 1, applySize := e'.extentAuthoritative
         zOrder },
        (r.put xid e').placed (r.nextHostApplySeq + 1))
    else ({ applied := true, xid }, r.put xid e')

def setVisibility (xid generation : Nat) (state : VisibilityState) :
    RegistryEffect × WindowRegistry :=
  r.ifNewer xid generation fun e =>
    let e' := { e with generation, visibilityState := state }
    if e.visibilityState ≠ state then
      ({ kind := .setVisibility, applied := true, xid, visibilityState := state
         hostApplySeq := r.nextHostApplySeq + 1 },
        (r.put xid e').placed (r.nextHostApplySeq + 1))
    else ({ applied := true, xid }, r.put xid e')

def unregisterToplevel (xid generation : Nat) : RegistryEffect × WindowRegistry :=
  r.ifNewer xid generation fun e =>
    if e.representation = .placeholder then
      ({ kind := .destroyPlaceholder, applied := true, xid, placeholderId := e.placeholderId },
        r.drop xid)
    else if e.surface = 0 then ({ applied := true, xid }, r.drop xid)
    else ({ applied := true, xid }, r.put xid (e.unregistered generation))

/-- The owner's teardown takes its popups with it. -/
def takeOrphanedPopups (ownerXid : Nat) : List RegistryEffect × WindowRegistry :=
  if ownerXid = 0 then ([], r)
  else
    ((r.entries.toList.filter fun entry => entry.2.ownedBy ownerXid).map fun entry =>
        entry.2.orphanEffect ownerXid,
      { r with entries := r.entries.filter fun _ e => !e.ownedBy ownerXid })

/-! ## Chrome paints -/

def commitPlaceholderPaint (xid lifecycleGeneration seq : Nat) : Bool × WindowRegistry :=
  match r.entries[xid]? with
  | none => (false, r)
  | some e =>
    if e.representation ≠ .placeholder then (false, r)
    else if lifecycleGeneration ≠ e.generation ∨ seq ≤ e.lastPaintSeq then (false, r)
    else (true, r.put xid { e with shown := true, lastPaintSeq := seq })

/-! ## Accessors -/

def surfaceForXid : Nat → Nat := r.entries.read Entry.surface

def placeholderIdForXid : Nat → Nat := r.entries.read Entry.placeholderId

def generationForXid : Nat → Nat := r.entries.read Entry.generation

def epochForXid : Nat → Nat := r.entries.read Entry.representationEpoch

/-- The size the sidecar has authored for the window, if it has. -/
def authoritativeExtentForXid (xid : Nat) : Option (Nat × Nat) :=
  (r.entries[xid]?).bind fun e =>
    if e.extentAuthoritative then some (e.geometry.width, e.geometry.height) else none

end WindowRegistry

/-! ## Runs -/

inductive Op where
  | bindSurface (xid surface : Nat)
  | unbindSurface (xid surface : Nat)
  | registerToplevel (xid generation : Nat) (top : Toplevel)
  | updateToplevel (xid generation : Nat) (role : String) (geometry : ToplevelGeometry)
      (zOrder : ZOrder)
  | setVisibility (xid generation : Nat) (state : VisibilityState)
  | unregisterToplevel (xid generation : Nat)
  | takeOrphanedPopups (ownerXid : Nat)
  | commitPlaceholderPaint (xid lifecycleGeneration seq : Nat)

namespace WindowRegistry

def call (r : WindowRegistry) : Op → List RegistryEffect × WindowRegistry
  | .bindSurface xid surface => ([(r.bindSurface xid surface).1], (r.bindSurface xid surface).2)
  | .unbindSurface xid surface =>
    ([(r.unbindSurface xid surface).1], (r.unbindSurface xid surface).2)
  | .registerToplevel xid generation top =>
    ([(r.registerToplevel xid generation top).1], (r.registerToplevel xid generation top).2)
  | .updateToplevel xid generation role geometry zOrder =>
    ([(r.updateToplevel xid generation role geometry zOrder).1],
      (r.updateToplevel xid generation role geometry zOrder).2)
  | .setVisibility xid generation state =>
    ([(r.setVisibility xid generation state).1], (r.setVisibility xid generation state).2)
  | .unregisterToplevel xid generation =>
    ([(r.unregisterToplevel xid generation).1], (r.unregisterToplevel xid generation).2)
  | .takeOrphanedPopups ownerXid => r.takeOrphanedPopups ownerXid
  | .commitPlaceholderPaint xid generation seq =>
    ([], (r.commitPlaceholderPaint xid generation seq).2)

def after (r : WindowRegistry) (ops : List Op) : WindowRegistry :=
  ops.foldl (fun r op => (r.call op).2) r

theorem after_append (r : WindowRegistry) (first second : List Op) :
    r.after (first ++ second) = (r.after first).after second := List.foldl_append

def effects (r : WindowRegistry) : List Op → List RegistryEffect
  | [] => []
  | op :: ops => (r.call op).1 ++ (r.call op).2.effects ops

end WindowRegistry

end VkRelay.Registry
