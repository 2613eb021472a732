import VkRelay.Lib.Machine
import VkRelay.Lib.Span
import VkRelay.Wire.Json

/-!
The display topology: monitors with their bounds and work areas, the virtual desktop that
is the exact union of the bounds, and the validation every layout passes before use.
Coordinates are 32-bit; edges are computed in 64 bits, where they do not overflow.
-/

namespace VkRelay.Display

open VkRelay.Lib VkRelay.Json

def kDisplayLayoutSchemaVersion : UInt32 := 1
def kMaxDisplayMonitors : Nat := 32
def kMaxVirtualDisplayAxis : Int32 := 16384
def kMaxVirtualDisplayPixels : Nat := 64 * 1024 * 1024
def kMaxSnapshotIdBytes : Nat := 128
def kMaxMonitorIdBytes : Nat := 256
def kMaxDeviceNameBytes : Nat := 512

def i32Min : Int := -2147483648
def i32Max : Int := 2147483647

/-- A half-open rectangle. -/
structure RectI32 where
  x : Int32 := 0
  y : Int32 := 0
  width : Int32 := 0
  height : Int32 := 0
deriving DecidableEq

inductive DisplayRotation where
  | identity | rotate90 | rotate180 | rotate270
deriving DecidableEq, Repr

structure MonitorDesc where
  stableId : Bytes := []
  deviceName : Bytes := []
  bounds : RectI32 := {}
  work : RectI32 := {}
  dpiX : UInt32 := 0
  dpiY : UInt32 := 0
  rotation : DisplayRotation := .identity
  primary : Bool := false
deriving DecidableEq

structure DisplayLayout where
  schemaVersion : UInt32 := kDisplayLayoutSchemaVersion
  snapshotId : Bytes := []
  virtualBounds : RectI32 := {}
  primaryMonitorId : Bytes := []
  monitors : List MonitorDesc := []
deriving DecidableEq

/-! ## Rectangles -/

namespace RectI32

def xSpan (r : RectI32) : Span := ⟨r.x.toInt, r.x.toInt + r.width.toInt⟩

def ySpan (r : RectI32) : Span := ⟨r.y.toInt, r.y.toInt + r.height.toInt⟩

/-- The rectangle is not degenerate, and its far edges are 32-bit numbers. -/
def edges (r : RectI32) : Option (Span × Span) :=
  if r.width ≤ 0 ∨ r.height ≤ 0 then none
  else if r.xSpan.high ≤ i32Max ∧ r.ySpan.high ≤ i32Max then some (r.xSpan, r.ySpan)
  else none

def containsRect (outer inner : RectI32) : Bool :=
  match outer.edges, inner.edges with
  | some o, some i =>
    i.1.low ≥ o.1.low ∧ i.2.low ≥ o.2.low ∧ i.1.high ≤ o.1.high ∧ i.2.high ≤ o.2.high
  | _, _ => false

def intersectionArea (a b : RectI32) : Nat :=
  match a.edges, b.edges with
  | some ae, some be =>
    let w := min ae.1.high be.1.high - max ae.1.low be.1.low
    let h := min ae.2.high be.2.high - max ae.2.low be.2.low
    if w ≤ 0 ∨ h ≤ 0 then 0 else w.toNat * h.toNat
  | _, _ => 0

/-- The gap of two spans; none when they meet or touch. -/
def axisGap (a b : Span) : Int :=
  if a.high < b.low then b.low - a.high else if b.high < a.low then a.low - b.high else 0

def manhattanGap (a b : RectI32) : Nat :=
  match a.edges, b.edges with
  | some ae, some be => (axisGap ae.1 be.1).toNat + (axisGap ae.2 be.2).toNat
  | _, _ => 2 ^ 64 - 1

end RectI32

/-- The primary monitor comes first, then the lesser id. -/
def preferred (candidate current : MonitorDesc) : Bool :=
  if candidate.primary ≠ current.primary then candidate.primary
  else candidate.stableId < current.stableId

/-! ## Validation -/

def boundedString (value : Bytes) (cap : Nat) (allowEmpty : Bool) : Bool :=
  (allowEmpty || !value.isEmpty) && decide (value.length ≤ cap) && !value.contains 0

structure Seen where
  ids : List Bytes := []
  boundsSeen : List RectI32 := []
  primaryCount : Nat := 0
  unionLeft : Int := 2 ^ 63 - 1
  unionTop : Int := 2 ^ 63 - 1
  unionRight : Int := -2 ^ 63
  unionBottom : Int := -2 ^ 63

/-- One round of the loop. A rotation is one of the four by its type. -/
def checkMonitor (primaryMonitorId : Bytes) (seen : Seen) (monitor : MonitorDesc) :
    Except Bytes Seen :=
  if !boundedString monitor.stableId kMaxMonitorIdBytes false then
    .error (ascii "monitor stable_id is empty or exceeds 256 bytes")
  else if !boundedString monitor.deviceName kMaxDeviceNameBytes true then
    .error (ascii "monitor device_name exceeds 512 bytes")
  else if monitor.stableId ∈ seen.ids then
    .error (ascii "display layout contains duplicate monitor stable_id: " ++ monitor.stableId)
  else if monitor.bounds ∈ seen.boundsSeen then
    .error (ascii "display layout contains exact-bounds mirrored monitors; deduplicate first")
  else
    match monitor.bounds.edges with
    | none =>
      .error (ascii ("monitor bounds are non-positive or violate the signed-32 coordinate cap " ++
        "(-2147483648..2147483647): ") ++ monitor.stableId)
    | some monitorEdges =>
      if monitor.work.edges.isNone ∨ !monitor.bounds.containsRect monitor.work then
        .error (ascii "monitor work area is non-positive or not contained in monitor bounds: " ++
          monitor.stableId)
      else if monitor.dpiX = 0 ∨ monitor.dpiY = 0 then
        .error (ascii "monitor DPI metadata must be positive: " ++ monitor.stableId)
      else if monitor.primary ∧ monitor.stableId ≠ primaryMonitorId then
        .error (ascii "primary monitor flag and primary_monitor_id disagree")
      else
        .ok
          { ids := monitor.stableId :: seen.ids
            boundsSeen := monitor.bounds :: seen.boundsSeen
            primaryCount := seen.primaryCount + if monitor.primary then 1 else 0
            unionLeft := min seen.unionLeft monitorEdges.1.low
            unionTop := min seen.unionTop monitorEdges.2.low
            unionRight := max seen.unionRight monitorEdges.1.high
            unionBottom := max seen.unionBottom monitorEdges.2.high }

def Seen.computed (seen : Seen) : RectI32 :=
  { x := Int32.ofInt seen.unionLeft
    y := Int32.ofInt seen.unionTop
    width := Int32.ofInt (seen.unionRight - seen.unionLeft)
    height := Int32.ofInt (seen.unionBottom - seen.unionTop) }

def checkUnion (layout : DisplayLayout) (seen : Seen) : Except Bytes Unit :=
  let unionWidth := seen.unionRight - seen.unionLeft
  let unionHeight := seen.unionBottom - seen.unionTop
  if seen.primaryCount ≠ 1 ∨ layout.primaryMonitorId ∉ seen.ids then
    .error (ascii "display layout must contain exactly one primary monitor")
  else if unionWidth ≤ 0 ∨ unionWidth > i32Max ∨ unionHeight ≤ 0 ∨ unionHeight > i32Max then
    .error (ascii ("display layout monitor union violates the signed-32 dimension cap " ++
      "(maximum: 2147483647)"))
  else if seen.computed ≠ layout.virtualBounds then
    .error (ascii "display layout virtual bounds do not equal the exact monitor union")
  else .ok ()

def validateDisplayLayout (layout : DisplayLayout) : Except Bytes Unit :=
  if layout.schemaVersion ≠ kDisplayLayoutSchemaVersion then
    .error (ascii "unsupported display layout schema_version (supported value: 1)")
  else if !boundedString layout.snapshotId kMaxSnapshotIdBytes false then
    .error (ascii "display layout snapshot_id is empty or exceeds 128 bytes")
  else if layout.monitors.isEmpty then .error (ascii "display layout contains no monitors")
  else if layout.monitors.length > kMaxDisplayMonitors then
    .error (ascii "display layout monitor cap exceeded (maximum: 32)")
  else if layout.virtualBounds.edges.isNone then
    .error (ascii ("display layout virtual bounds are non-positive or violate the signed-32 " ++
      "coordinate cap (-2147483648..2147483647)"))
  else if layout.virtualBounds.width > kMaxVirtualDisplayAxis ∨
      layout.virtualBounds.height > kMaxVirtualDisplayAxis then
    .error (ascii "display layout axis cap exceeded (maximum: 16384 physical pixels)")
  else if layout.virtualBounds.width.toInt.toNat * layout.virtualBounds.height.toInt.toNat >
      kMaxVirtualDisplayPixels then
    .error (ascii "display layout area cap exceeded (maximum: 67108864 physical pixels)")
  else if !boundedString layout.primaryMonitorId kMaxMonitorIdBytes false then
    .error (ascii "display layout primary_monitor_id is empty or exceeds 256 bytes")
  else layout.monitors.foldlM (checkMonitor layout.primaryMonitorId) {} >>= checkUnion layout

/-! ## What a valid layout looks like -/

theorem RectI32.edges_eq_some_iff {r : RectI32} {e : Span × Span} :
    r.edges = some e ↔ (r.xSpan.low < r.xSpan.high ∧ r.ySpan.low < r.ySpan.high) ∧
      (r.xSpan.high ≤ i32Max ∧ r.ySpan.high ≤ i32Max) ∧ e = (r.xSpan, r.ySpan) := by
  have hwidth : r.width ≤ 0 ↔ ¬ r.xSpan.low < r.xSpan.high := by
    rw [Int32.le_iff_toInt_le, xSpan]
    simp
  have hheight : r.height ≤ 0 ↔ ¬ r.ySpan.low < r.ySpan.high := by
    rw [Int32.le_iff_toInt_le, ySpan]
    simp
  unfold edges
  simp only [hwidth, hheight]
  split_ifs with hempty hfar
  · simp only [false_iff]
    tauto
  · simp only [Option.some.injEq]
    tauto
  · simp only [false_iff]
    tauto

theorem RectI32.within_of_containsRect {outer inner : RectI32}
    (hcontains : outer.containsRect inner = true) :
    inner.edges = some (inner.xSpan, inner.ySpan) ∧ inner.xSpan.Within outer.xSpan ∧
      inner.ySpan.Within outer.ySpan := by
  cases houter : outer.edges with
  | none => simp [containsRect, houter] at hcontains
  | some o =>
    cases hinner : inner.edges with
    | none => simp [containsRect, houter, hinner] at hcontains
    | some i =>
      obtain ⟨-, -, rfl⟩ := edges_eq_some_iff.mp houter
      obtain ⟨-, -, rfl⟩ := edges_eq_some_iff.mp hinner
      simp only [containsRect, houter, hinner, decide_eq_true_eq] at hcontains
      obtain ⟨hleft, htop, hright, hbottom⟩ := hcontains
      exact ⟨rfl, ⟨hleft, hright⟩, htop, hbottom⟩

/-- The monitor's bounds lie on the desktop and its work area in its bounds. -/
structure MonitorDesc.Placed (desktop : RectI32) (m : MonitorDesc) : Prop where
  bounds : m.bounds.edges = some (m.bounds.xSpan, m.bounds.ySpan)
  work : m.work.edges = some (m.work.xSpan, m.work.ySpan)
  workX : m.work.xSpan.Within m.bounds.xSpan
  workY : m.work.ySpan.Within m.bounds.ySpan
  boundsX : m.bounds.xSpan.Within desktop.xSpan
  boundsY : m.bounds.ySpan.Within desktop.ySpan

structure Seen.Covers (seen : Seen) (m : MonitorDesc) : Prop where
  left : seen.unionLeft ≤ m.bounds.xSpan.low
  top : seen.unionTop ≤ m.bounds.ySpan.low
  right : m.bounds.xSpan.high ≤ seen.unionRight
  bottom : m.bounds.ySpan.high ≤ seen.unionBottom

variable {primaryMonitorId : Bytes}

/-- A monitor that passes: its rectangles are in order and the union grows over it. -/
theorem checkMonitor_eq_ok {seen next : Seen} {m : MonitorDesc}
    (hok : checkMonitor primaryMonitorId seen m = .ok next) :
    m.bounds.edges = some (m.bounds.xSpan, m.bounds.ySpan) ∧
      m.work.edges = some (m.work.xSpan, m.work.ySpan) ∧
      m.work.xSpan.Within m.bounds.xSpan ∧ m.work.ySpan.Within m.bounds.ySpan ∧
      next.unionLeft = min seen.unionLeft m.bounds.xSpan.low ∧
      next.unionTop = min seen.unionTop m.bounds.ySpan.low ∧
      next.unionRight = max seen.unionRight m.bounds.xSpan.high ∧
      next.unionBottom = max seen.unionBottom m.bounds.ySpan.high := by
  unfold checkMonitor at hok
  simp only [ite_error_eq_ok] at hok
  obtain ⟨-, -, -, -, hok⟩ := hok
  cases hbounds : m.bounds.edges with
  | none => simp [hbounds] at hok
  | some monitorEdges =>
    simp only [hbounds, ite_error_eq_ok, not_or, Except.ok.injEq] at hok
    obtain ⟨⟨-, hcontains⟩, -, -, rfl⟩ := hok
    obtain ⟨-, -, rfl⟩ := RectI32.edges_eq_some_iff.mp hbounds
    obtain ⟨hwork, hx, hy⟩ := RectI32.within_of_containsRect (by simpa using hcontains)
    exact ⟨rfl, hwork, hx, hy, rfl, rfl, rfl, rfl⟩

/-- A loop that passes: the union covers what it covered and every monitor, and no less than
32-bit numbers allow. -/
theorem checkMonitors_eq_ok {monitors : List MonitorDesc} {seen last : Seen}
    (hok : monitors.foldlM (checkMonitor primaryMonitorId) seen = .ok last) :
    (last.unionLeft ≤ seen.unionLeft ∧ last.unionTop ≤ seen.unionTop ∧
        seen.unionRight ≤ last.unionRight ∧ seen.unionBottom ≤ last.unionBottom) ∧
      (i32Min ≤ seen.unionLeft → i32Min ≤ last.unionLeft) ∧
      (i32Min ≤ seen.unionTop → i32Min ≤ last.unionTop) ∧
      ∀ m ∈ monitors, last.Covers m ∧ m.bounds.edges = some (m.bounds.xSpan, m.bounds.ySpan) ∧
        m.work.edges = some (m.work.xSpan, m.work.ySpan) ∧
        m.work.xSpan.Within m.bounds.xSpan ∧ m.work.ySpan.Within m.bounds.ySpan := by
  induction monitors generalizing seen with
  | nil =>
    cases hok
    simp
  | cons m monitors ih =>
    rw [List.foldlM_cons, except_bind_eq_ok] at hok
    obtain ⟨next, hfirst, hrest⟩ := hok
    obtain ⟨hbounds, hwork, hx, hy, hleft, htop, hright, hbottom⟩ := checkMonitor_eq_ok hfirst
    obtain ⟨hgrows, hlowX, hlowY, hmonitors⟩ := ih hrest
    have hminX : i32Min ≤ m.bounds.xSpan.low := m.bounds.x.le_toInt
    have hminY : i32Min ≤ m.bounds.ySpan.low := m.bounds.y.le_toInt
    refine ⟨by omega, fun hlow => hlowX (by omega), fun hlow => hlowY (by omega), ?_⟩
    refine List.forall_mem_cons.mpr ⟨⟨?_, hbounds, hwork, hx, hy⟩, hmonitors⟩
    exact ⟨by omega, by omega, by omega, by omega⟩

/-- A loop that passes has met every id once. -/
theorem stableId_nodup {monitors : List MonitorDesc} {seen last : Seen}
    (hok : monitors.foldlM (checkMonitor primaryMonitorId) seen = .ok last) :
    (monitors.map MonitorDesc.stableId).Nodup ∧ ∀ m ∈ monitors, m.stableId ∉ seen.ids := by
  induction monitors generalizing seen with
  | nil => simp
  | cons m monitors ih =>
    rw [List.foldlM_cons, except_bind_eq_ok] at hok
    obtain ⟨next, hfirst, hrest⟩ := hok
    obtain ⟨hnodup, hnew⟩ := ih hrest
    unfold checkMonitor at hfirst
    simp only [ite_error_eq_ok] at hfirst
    obtain ⟨-, -, hfresh, -, hfirst⟩ := hfirst
    have hids : next.ids = m.stableId :: seen.ids := by
      split at hfirst
      · cases hfirst
      · simp only [ite_error_eq_ok, Except.ok.injEq] at hfirst
        obtain ⟨-, -, -, rfl⟩ := hfirst
        rfl
    simp only [hids, List.mem_cons, not_or] at hnew
    refine ⟨List.nodup_cons.mpr ⟨fun hin => ?_, hnodup⟩, List.forall_mem_cons.mpr ⟨hfresh, ?_⟩⟩
    · obtain ⟨other, hother, hsame⟩ := List.mem_map.mp hin
      exact (hnew other hother).1 hsame
    · exact fun other hother => (hnew other hother).2

/-- The monitors of a valid layout are told apart by their ids. -/
theorem eq_of_stableId_eq {layout : DisplayLayout} (hvalid : validateDisplayLayout layout = .ok ())
    {a b : MonitorDesc} (ha : a ∈ layout.monitors) (hb : b ∈ layout.monitors)
    (hsame : a.stableId = b.stableId) : a = b := by
  unfold validateDisplayLayout at hvalid
  simp only [ite_error_eq_ok] at hvalid
  obtain ⟨-, -, -, -, -, -, -, -, hvalid⟩ := hvalid
  obtain ⟨seen, hmonitors, -⟩ := except_bind_eq_ok.mp hvalid
  exact List.inj_on_of_nodup_map (stableId_nodup hmonitors).1 ha hb hsame

theorem toInt_ofInt {n : Int} (hlow : i32Min ≤ n) (hhigh : n ≤ i32Max) :
    (Int32.ofInt n).toInt = n := by
  unfold i32Min at hlow
  unfold i32Max at hhigh
  have hsize : (Int32.size : Int) = 4294967296 := rfl
  rw [Int32.toInt_ofInt, Int.bmod_eq_of_le (by omega) (by omega)]

/-- The desktop of a valid layout is not degenerate, and every monitor has its place on it. -/
theorem placed_of_valid {layout : DisplayLayout} (hvalid : validateDisplayLayout layout = .ok ()) :
    layout.virtualBounds.edges = some (layout.virtualBounds.xSpan, layout.virtualBounds.ySpan) ∧
      ∀ m ∈ layout.monitors, m.Placed layout.virtualBounds := by
  unfold validateDisplayLayout at hvalid
  simp only [ite_error_eq_ok] at hvalid
  obtain ⟨-, -, -, -, hdesktop, -, -, -, hvalid⟩ := hvalid
  obtain ⟨seen, hmonitors, hunion⟩ := except_bind_eq_ok.mp hvalid
  obtain ⟨desktop, hdesktop⟩ := Option.ne_none_iff_exists'.mp (by simpa using hdesktop)
  obtain ⟨-, -, rfl⟩ := RectI32.edges_eq_some_iff.mp hdesktop
  refine ⟨hdesktop, fun m hm => ?_⟩
  obtain ⟨-, hlowX, hlowY, hall⟩ := checkMonitors_eq_ok hmonitors
  have hleft := hlowX (by decide)
  have htop := hlowY (by decide)
  obtain ⟨hcovers, hbounds, hwork, hx, hy⟩ := hall m hm
  simp only [checkUnion, ite_error_eq_ok, not_or, not_le, not_lt, ne_eq, not_not] at hunion
  obtain ⟨-, ⟨hwidth, hwidth', hheight, hheight'⟩, hsame, -⟩ := hunion
  obtain ⟨⟨hxs, hys⟩, ⟨hright, hbottom⟩, -⟩ := RectI32.edges_eq_some_iff.mp hbounds
  have hleft' : seen.unionLeft ≤ i32Max := by
    have := hcovers.left
    omega
  have htop' : seen.unionTop ≤ i32Max := by
    have := hcovers.top
    omega
  have hmin : i32Min ≤ 0 := by decide
  have hspanX : layout.virtualBounds.xSpan = ⟨seen.unionLeft, seen.unionRight⟩ := by
    rw [← hsame, RectI32.xSpan, Seen.computed, toInt_ofInt hleft hleft',
      toInt_ofInt (by omega) hwidth']
    congr 1
    omega
  have hspanY : layout.virtualBounds.ySpan = ⟨seen.unionTop, seen.unionBottom⟩ := by
    rw [← hsame, RectI32.ySpan, Seen.computed, toInt_ofInt htop htop',
      toInt_ofInt (by omega) hheight']
    congr 1
    omega
  exact ⟨hbounds, hwork, hx, hy, hspanX ▸ ⟨hcovers.left, hcovers.right⟩,
    hspanY ▸ ⟨hcovers.top, hcovers.bottom⟩⟩

end VkRelay.Display
