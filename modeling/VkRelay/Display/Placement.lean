import VkRelay.Display.Layout
import VkRelay.Lib.Folds

/-!
Where a guest window is first placed. A window whose top row is reachable stays where it
is; any other is moved, axis by axis, into the work area of a selected monitor. On an axis
on which the window is larger than that work area it is only kept on the virtual desktop,
and there it can miss the selected monitor and every other one.
-/

namespace VkRelay.Display

open VkRelay.Lib VkRelay.Json

/-! ## Selecting a monitor -/

def findMonitorById (layout : DisplayLayout) (stableId : Bytes) : Option MonitorDesc :=
  layout.monitors.find? fun monitor => monitor.stableId == stableId

/-- One round of the loops that look for the largest intersection, ties by preference. -/
def keepLarger (rectOf : MonitorDesc → RectI32) (rect : RectI32)
    (best : Option MonitorDesc × Nat) (monitor : MonitorDesc) : Option MonitorDesc × Nat :=
  let area := (rectOf monitor).intersectionArea rect
  if area > best.2 ∨ area = best.2 ∧ area > 0 ∧ best.1.all (preferred monitor) then
    (some monitor, area)
  else best

def findLargest (rectOf : MonitorDesc → RectI32) (layout : DisplayLayout) (rect : RectI32) :
    Option MonitorDesc :=
  let found := layout.monitors.foldl (keepLarger rectOf rect) (none, 0)
  if found.2 = 0 then none else found.1

def findMonitorLargestIntersection : DisplayLayout → RectI32 → Option MonitorDesc :=
  findLargest MonitorDesc.bounds

def findMonitorWorkLargestIntersection : DisplayLayout → RectI32 → Option MonitorDesc :=
  findLargest MonitorDesc.work

def keepNearer (rect : RectI32) (best : Option MonitorDesc × Nat) (monitor : MonitorDesc) :
    Option MonitorDesc × Nat :=
  let gap := monitor.bounds.manhattanGap rect
  if gap < best.2 ∨ gap = best.2 ∧ best.1.all (preferred monitor) then (some monitor, gap)
  else best

/-- A degenerate rectangle has the largest gap to every monitor, and the tie decides. -/
def findMonitorNearest (layout : DisplayLayout) (rect : RectI32) : Option MonitorDesc :=
  (layout.monitors.foldl (keepNearer rect) (none, 2 ^ 64 - 1)).1

/-! ## Coordinates -/

def inI32 (n : Int) : Prop := i32Min ≤ n ∧ n ≤ i32Max

instance (n : Int) : Decidable (inI32 n) := inferInstanceAs (Decidable (_ ∧ _))

/-- The rectangle moved by an offset, if its edges are 32-bit numbers. -/
def shifted (rect : RectI32) (dx dy : Int) : Option RectI32 :=
  let x := rect.x.toInt + dx
  let y := rect.y.toInt + dy
  if inI32 x ∧ inI32 y then
    let moved : RectI32 := { rect with x := Int32.ofInt x, y := Int32.ofInt y }
    if moved.edges.isSome then some moved else none
  else none

def hostToGuest (layout : DisplayLayout) (host : RectI32) : Option RectI32 :=
  shifted host (-layout.virtualBounds.x.toInt) (-layout.virtualBounds.y.toInt)

def guestToHost (layout : DisplayLayout) (guest : RectI32) : Option RectI32 :=
  shifted guest layout.virtualBounds.x.toInt layout.virtualBounds.y.toInt

/-! ## Placement -/

/-- The area an axis is clamped to: the work area, or the desktop for a larger window. -/
def axisArea (size : Int32) (work desktop : Span) : Span :=
  if size.toInt > work.high - work.low then desktop else work

def clampAxis (origin size : Int32) (work desktop : Span) : Int32 :=
  let area := axisArea size work desktop
  if size.toInt ≥ area.high - area.low then Int32.ofInt area.low
  else Int32.ofInt (max area.low (min origin.toInt (area.high - size.toInt)))

def clampRectToMonitorWorkOrVirtual (rect : RectI32) (monitor : MonitorDesc)
    (virtualBounds : RectI32) : RectI32 :=
  match monitor.work.edges, virtualBounds.edges with
  | some work, some desktop =>
    if rect.width ≤ 0 ∨ rect.height ≤ 0 then rect
    else
      { rect with
        x := clampAxis rect.x rect.width work.1 desktop.1
        y := clampAxis rect.y rect.height work.2 desktop.2 }
  | _, _ => rect

inductive InitialPlacementMode where
  | preserve | centerPrimary | centerOwner
deriving DecidableEq, Repr

def selectMonitor (layout : DisplayLayout) (mode : InitialPlacementMode)
    (desiredHost ownerHost : RectI32) : Option MonitorDesc :=
  match mode with
  | .centerPrimary => findMonitorById layout layout.primaryMonitorId
  | .centerOwner =>
    (findMonitorLargestIntersection layout ownerHost).or (findMonitorNearest layout ownerHost)
  | .preserve =>
    (findMonitorLargestIntersection layout desiredHost).or (findMonitorNearest layout desiredHost)

/-- The origin that centers an extent over another; the division is that of the machine. -/
def centered (anchorOrigin anchorSize size : Int32) : Int :=
  anchorOrigin.toInt + (anchorSize.toInt - size.toInt).tdiv 2

/-- The window before it is clamped: where it is, or centered over its anchor. -/
def candidate (mode : InitialPlacementMode) (desiredHost ownerHost : RectI32)
    (monitor : MonitorDesc) : Option RectI32 :=
  if mode = .preserve then some desiredHost
  else
    let anchor := if mode = .centerOwner then ownerHost else monitor.work
    let x := centered anchor.x anchor.width desiredHost.width
    let y := centered anchor.y anchor.height desiredHost.height
    if inI32 x ∧ inI32 y then
      some { desiredHost with x := Int32.ofInt x, y := Int32.ofInt y }
    else none

def topRow (rect : RectI32) : RectI32 := { rect with height := 1 }

/-- The owner's rectangle on the host; without an owner it is not looked at. -/
def ownerToHost (layout : DisplayLayout) : Option RectI32 → Option RectI32
  | none => some {}
  | some owner => guestToHost layout owner

def placeGuestWindow (layout : DisplayLayout) (desiredGuest : RectI32)
    (mode : InitialPlacementMode) (ownerGuest : Option RectI32) :
    Option (RectI32 × MonitorDesc) :=
  if desiredGuest.width ≤ 0 ∨ desiredGuest.height ≤ 0 ∨
      mode = .centerOwner ∧ ownerGuest.isNone then none
  else do
    let desiredHost ← guestToHost layout desiredGuest
    let ownerHost ← ownerToHost layout ownerGuest
    let reachable :=
      if mode = .preserve then findMonitorWorkLargestIntersection layout (topRow desiredHost)
      else none
    match reachable with
    | some monitor => some (desiredGuest, monitor)
    | none =>
      let monitor ← selectMonitor layout mode desiredHost ownerHost
      let rect ← candidate mode desiredHost ownerHost monitor
      let placed ← hostToGuest layout
        (clampRectToMonitorWorkOrVirtual rect monitor layout.virtualBounds)
      some (placed, monitor)

/-! ## The monitor that is selected -/

theorem preferred_iff {a b : MonitorDesc} : preferred a b = true ↔
    (a.primary = true ∧ b.primary = false) ∨ a.primary = b.primary ∧ a.stableId < b.stableId := by
  unfold preferred
  cases a.primary <;> cases b.primary <;> simp

theorem preferred_irrefl (m : MonitorDesc) : ¬preferred m m = true := by
  rw [preferred_iff]
  rintro (⟨hyes, hno⟩ | ⟨-, hless⟩)
  · exact absurd hyes (by simp [hno])
  · exact List.lt_irrefl _ hless

theorem preferred_trans (a b c : MonitorDesc) (hab : preferred a b = true)
    (hbc : preferred b c = true) : preferred a c = true := by
  rw [preferred_iff] at hab hbc ⊢
  rcases hab with ⟨hyes, hno⟩ | ⟨hsame, hless⟩
  · rcases hbc with ⟨hyes', -⟩ | ⟨hsame', -⟩
    · exact absurd hyes' (by simp [hno])
    · exact .inl ⟨hyes, hsame' ▸ hno⟩
  · rcases hbc with ⟨hyes', hno'⟩ | ⟨hsame', hless'⟩
    · exact .inl ⟨hsame ▸ hyes', hno'⟩
    · exact .inr ⟨hsame.trans hsame', List.lt_trans hless hless'⟩

theorem stableId_eq_of_not_preferred {a b : MonitorDesc} (hab : ¬preferred a b = true)
    (hba : ¬preferred b a = true) : a.stableId = b.stableId := by
  rw [preferred_iff, not_or] at hab hba
  have hsame : a.primary = b.primary := by
    cases ha : a.primary <;> cases hb : b.primary <;> simp_all
  apply List.le_antisymm
  · exact List.not_lt.mp fun hless => hba.2 ⟨hsame.symm, hless⟩
  · exact List.not_lt.mp fun hless => hab.2 ⟨hsame, hless⟩

def ByArea (rectOf : MonitorDesc → RectI32) (rect : RectI32) : MonitorDesc → MonitorDesc → Prop :=
  Ahead (fun m => OrderDual.toDual ((rectOf m).intersectionArea rect)) fun m other =>
    preferred m other = true

def ByGap (rect : RectI32) : MonitorDesc → MonitorDesc → Prop :=
  Ahead (fun m => m.bounds.manhattanGap rect) fun m other => preferred m other = true

theorem findLargest_cases (rectOf : MonitorDesc → RectI32) (layout : DisplayLayout)
    (rect : RectI32) :
    (findLargest rectOf layout rect = none ∧
        ∀ m ∈ layout.monitors, (rectOf m).intersectionArea rect = 0) ∨
      ∃ best ∈ layout.monitors, findLargest rectOf layout rect = some best ∧
        (rectOf best).intersectionArea rect ≠ 0 ∧ ∀ m ∈ layout.monitors,
          (rectOf m).intersectionArea rect ≠ 0 → ¬ByArea rectOf rect m best := by
  have hfold := foldl_first (keepLarger rectOf rect) (fun m => (rectOf m).intersectionArea rect) 0
    (fun m => (rectOf m).intersectionArea rect ≠ 0) (ByArea rectOf rect)
    (Ahead.irrefl preferred_irrefl) (Ahead.trans preferred_trans) ?_ ?_ layout.monitors
  · unfold findLargest
    rcases hfold with ⟨hnone, hall⟩ | ⟨best, hbest, hsome, harea, hall⟩
    · exact .inl ⟨by simp [hnone], fun m hm => not_not.mp (hall m hm)⟩
    · exact .inr ⟨best, hbest, by simp [hsome, harea], harea, hall⟩
  · intro m
    simp only [keepLarger, Option.all_none, and_true]
    split
    · exact .inl ⟨by omega, rfl⟩
    · exact .inr ⟨by omega, rfl⟩
  · intro best m hbest
    simp only [keepLarger, ByArea, Ahead, OrderDual.toDual_lt_toDual, Option.all_some,
      EmbeddingLike.apply_eq_iff_eq]
    split_ifs with hwins
    · rcases hwins with hmore | ⟨hsame, hpos, hpreferred⟩
      · exact .inl ⟨⟨by omega, .inl hmore⟩, rfl⟩
      · exact .inl ⟨⟨by omega, .inr ⟨hsame, hpreferred⟩⟩, rfl⟩
    · refine .inr ⟨?_, rfl⟩
      rintro ⟨hpos, hmore | ⟨hsame, hpreferred⟩⟩
      · exact hwins (.inl hmore)
      · exact hwins (.inr ⟨hsame, by omega, hpreferred⟩)

theorem findMonitorNearest_first {layout : DisplayLayout} {rect : RectI32} {monitor : MonitorDesc}
    (hfound : findMonitorNearest layout rect = some monitor) :
    monitor ∈ layout.monitors ∧ ∀ m ∈ layout.monitors, ¬ByGap rect m monitor := by
  have hfold := foldl_first (keepNearer rect) (fun m => m.bounds.manhattanGap rect) (2 ^ 64 - 1)
    (fun m => m.bounds.manhattanGap rect ≤ 2 ^ 64 - 1) (ByGap rect)
    (Ahead.irrefl preferred_irrefl) (Ahead.trans preferred_trans) ?_ ?_ layout.monitors
  · unfold findMonitorNearest at hfound
    rcases hfold with ⟨hnone, -⟩ | ⟨best, hbest, hsome, hgap, hall⟩
    · rw [hnone] at hfound
      cases hfound
    · rw [hsome] at hfound
      cases hfound
      refine ⟨hbest, fun m hm hbefore => hall m hm ?_ hbefore⟩
      rcases hbefore with hless | ⟨hsame, -⟩
      · exact hless.le.trans hgap
      · exact hsame.le.trans hgap
  · intro m
    simp only [keepNearer, Option.all_none, and_true]
    split
    · exact .inl ⟨by omega, rfl⟩
    · exact .inr ⟨by omega, rfl⟩
  · intro best m hbest
    simp only [keepNearer, ByGap, Ahead, Option.all_some]
    split_ifs with hwins
    · exact .inl ⟨⟨by omega, hwins⟩, rfl⟩
    · exact .inr ⟨fun hboth => hwins hboth.2, rfl⟩

/-- The monitor a rectangle belongs to: the first by the area of the intersection, then by the gap,
then by preference. -/
def BelongsTo (layout : DisplayLayout) (rect : RectI32) (monitor : MonitorDesc) : Prop :=
  monitor ∈ layout.monitors ∧ ∀ m ∈ layout.monitors,
    ¬Ahead (fun m => OrderDual.toDual (m.bounds.intersectionArea rect)) (ByGap rect) m monitor

theorem RectI32.manhattanGap_eq_zero {a b : RectI32} (harea : a.intersectionArea b ≠ 0) :
    a.manhattanGap b = 0 := by
  unfold intersectionArea at harea
  unfold manhattanGap axisGap
  split at harea
  · dsimp only at harea ⊢
    split at harea
    · exact absurd rfl harea
    · split_ifs <;> omega
  · exact absurd rfl harea

variable {layout : DisplayLayout} {mode : InitialPlacementMode} {rect : RectI32}
  {monitor : MonitorDesc}

/-- The two searches in order find the monitor the rectangle belongs to. -/
theorem belongsTo_of_search (hfound : (findMonitorLargestIntersection layout rect).or
    (findMonitorNearest layout rect) = some monitor) : BelongsTo layout rect monitor := by
  rcases findLargest_cases MonitorDesc.bounds layout rect with
    ⟨hnone, hzero⟩ | ⟨best, hbest, hsome, harea, hall⟩
  · rw [findMonitorLargestIntersection, hnone, Option.none_or] at hfound
    obtain ⟨hmem, hfirst⟩ := findMonitorNearest_first hfound
    refine ⟨hmem, ?_⟩
    rintro m hm (hmore | ⟨-, hgap⟩)
    · have hless := OrderDual.toDual_lt_toDual.mp hmore
      rw [hzero m hm] at hless
      exact absurd hless (Nat.not_lt_zero _)
    · exact hfirst m hm hgap
  · rw [findMonitorLargestIntersection, hsome, Option.some_or, Option.some.injEq] at hfound
    subst hfound
    refine ⟨hbest, ?_⟩
    rintro m hm (hmore | ⟨hsame, hgap⟩)
    · have hless := OrderDual.toDual_lt_toDual.mp hmore
      exact hall m hm (by omega) (.inl hmore)
    · have hequal := OrderDual.toDual_inj.mp hsame
      rcases hgap with hnearer | ⟨-, hpreferred⟩
      · simp only [RectI32.manhattanGap_eq_zero harea] at hnearer
        exact Nat.not_lt_zero _ hnearer
      · exact hall m hm (by omega) (.inr ⟨hsame, hpreferred⟩)

/-- In a valid layout a rectangle belongs to one monitor only. -/
theorem BelongsTo.unique (hvalid : validateDisplayLayout layout = .ok ()) {other : MonitorDesc}
    (hmonitor : BelongsTo layout rect monitor) (hother : BelongsTo layout rect other) :
    other = monitor := by
  have hkeys := Ahead.undecided (hmonitor.2 other hother.1) (hother.2 monitor hmonitor.1)
  have hgaps := Ahead.undecided hkeys.1 hkeys.2
  exact eq_of_stableId_eq hvalid hother.1 hmonitor.1
    (stableId_eq_of_not_preferred hgaps.1 hgaps.2)

theorem selectMonitor_mem {desiredHost ownerHost : RectI32} {monitor : MonitorDesc}
    (hselected : selectMonitor layout mode desiredHost ownerHost = some monitor) :
    monitor ∈ layout.monitors := by
  cases mode with
  | preserve | centerOwner => exact (belongsTo_of_search hselected).1
  | centerPrimary => exact List.mem_of_find?_eq_some hselected

/-! ## Where the window ends up -/

theorem RectI32.intersectionArea_ne_zero_iff {a b : RectI32}
    (ha : a.edges = some (a.xSpan, a.ySpan)) (hb : b.edges = some (b.xSpan, b.ySpan)) :
    a.intersectionArea b ≠ 0 ↔ a.xSpan.Meets b.xSpan ∧ a.ySpan.Meets b.ySpan := by
  obtain ⟨⟨hax, hay⟩, -, -⟩ := edges_eq_some_iff.mp ha
  obtain ⟨⟨hbx, hby⟩, -, -⟩ := edges_eq_some_iff.mp hb
  unfold intersectionArea Span.Meets
  simp only [ha, hb]
  split_ifs with hempty
  · simp only [ne_eq, not_true, false_iff]
    omega
  · rw [Nat.mul_ne_zero_iff]
    omega

theorem shifted_eq_some {rect moved : RectI32} {dx dy : Int}
    (hmoved : shifted rect dx dy = some moved) :
    moved.x.toInt = rect.x.toInt + dx ∧ moved.y.toInt = rect.y.toInt + dy ∧
      moved.width = rect.width ∧ moved.height = rect.height ∧
      moved.edges = some (moved.xSpan, moved.ySpan) := by
  unfold shifted at hmoved
  dsimp only at hmoved
  split_ifs at hmoved with hrange hedges
  obtain ⟨⟨hx, hx'⟩, hy, hy'⟩ := hrange
  obtain ⟨e, he⟩ := Option.isSome_iff_exists.mp hedges
  cases hmoved
  obtain ⟨-, -, rfl⟩ := RectI32.edges_eq_some_iff.mp he
  exact ⟨toInt_ofInt hx hx', toInt_ofInt hy hy', rfl, rfl, he⟩

/-- The clamp of one axis, as a clamp into the area the window's size asks for. -/
theorem inI32_toInt (n : Int32) : inI32 n.toInt :=
  ⟨n.le_toInt, Int.le_of_lt_add_one n.toInt_lt⟩

theorem clampAxis_toInt {origin size : Int32} {work desktop : Span} (hwork : inI32 work.low)
    (hdesktop : inI32 desktop.low) :
    (clampAxis origin size work desktop).toInt =
      (axisArea size work desktop).clamp origin.toInt size.toInt := by
  have hlow : inI32 (axisArea size work desktop).low := by
    unfold axisArea
    split
    · exact hdesktop
    · exact hwork
  obtain ⟨hmin, hmax⟩ := hlow
  obtain ⟨horigin, horigin'⟩ := inI32_toInt origin
  unfold clampAxis Span.clamp
  dsimp only
  split_ifs with hlarge
  · rw [toInt_ofInt hmin hmax]
    omega
  · exact toInt_ofInt (by omega) (by omega)

/-- What an accepted placement is made of. -/
theorem placeGuestWindow_eq_some {desired placed : RectI32} {mode : InitialPlacementMode}
    {owner : Option RectI32} {monitor : MonitorDesc}
    (hplaced : placeGuestWindow layout desired mode owner = some (placed, monitor)) :
    ¬(mode = .centerOwner ∧ owner.isNone = true) ∧
    ∃ desiredHost ownerHost, guestToHost layout desired = some desiredHost ∧
      ownerToHost layout owner = some ownerHost ∧
      (mode = .preserve ∧ placed = desired ∧
          findMonitorWorkLargestIntersection layout (topRow desiredHost) = some monitor ∨
        (mode = .preserve → findMonitorWorkLargestIntersection layout (topRow desiredHost) = none) ∧
          selectMonitor layout mode desiredHost ownerHost = some monitor ∧
          ∃ rect, candidate mode desiredHost ownerHost monitor = some rect ∧ hostToGuest layout
              (clampRectToMonitorWorkOrVirtual rect monitor layout.virtualBounds) =
                some placed) := by
  unfold placeGuestWindow at hplaced
  rw [Option.ite_none_left_eq_some] at hplaced
  obtain ⟨haccepted, hplaced⟩ := hplaced
  obtain ⟨desiredHost, hdesired, hplaced⟩ := Option.bind_eq_some_iff.mp hplaced
  obtain ⟨ownerHost, howner, hplaced⟩ := Option.bind_eq_some_iff.mp hplaced
  refine ⟨fun hno => haccepted (.inr (.inr hno)), desiredHost, ownerHost, hdesired, howner, ?_⟩
  dsimp only at hplaced
  split at hplaced
  next reachable hreachable =>
      obtain ⟨rfl, rfl⟩ := Prod.mk.inj (Option.some.inj hplaced)
      rw [Option.ite_none_right_eq_some] at hreachable
      exact .inl ⟨hreachable.1, rfl, hreachable.2⟩
  next hnone =>
      obtain ⟨selected, hselected, hplaced⟩ := Option.bind_eq_some_iff.mp hplaced
      obtain ⟨rect, hrect, hplaced⟩ := Option.bind_eq_some_iff.mp hplaced
      obtain ⟨guest, hguest, hplaced⟩ := Option.bind_eq_some_iff.mp hplaced
      obtain ⟨rfl, rfl⟩ := Prod.mk.inj (Option.some.inj hplaced)
      refine .inr ⟨fun hpreserve => ?_, hselected, rect, hrect, hguest⟩
      rwa [if_pos hpreserve] at hnone

/-! ## Reachability -/

/-- The columns and the rows of a guest rectangle on the host. The far edges may be too large
for a host rectangle. -/
def hostX (layout : DisplayLayout) (r : RectI32) : Span :=
  let x := r.x.toInt + layout.virtualBounds.x.toInt
  ⟨x, x + r.width.toInt⟩

def hostY (layout : DisplayLayout) (r : RectI32) : Span :=
  let y := r.y.toInt + layout.virtualBounds.y.toInt
  ⟨y, y + r.height.toInt⟩

/-- A pixel of the host lies both in the guest rectangle and in the host rectangle. -/
def SharesPixel (layout : DisplayLayout) (guest host : RectI32) : Prop :=
  ∃ px py : Int,
    (((hostX layout guest).low ≤ px ∧ px < (hostX layout guest).high) ∧
        host.xSpan.low ≤ px ∧ px < host.xSpan.high) ∧
      ((hostY layout guest).low ≤ py ∧ py < (hostY layout guest).high) ∧
        host.ySpan.low ≤ py ∧ py < host.ySpan.high

/-- The top row of the window is on some work area. -/
def TopRowReachable (layout : DisplayLayout) (desired : RectI32) : Prop :=
  ∃ m ∈ layout.monitors, SharesPixel layout (topRow desired) m.work

/-- Moved as little as it takes to keep each axis in its area, a window of the given size that
would start at the given place lies on the monitor `m`. The area is that of the work area of the
monitor `home`, or the desktop on an axis on which the window is larger. -/
def ComesOnto (layout : DisplayLayout) (home : MonitorDesc) (x y : Int) (size : RectI32)
    (m : MonitorDesc) : Prop :=
  (axisArea size.width home.work.xSpan layout.virtualBounds.xSpan).Reaches x size.width.toInt
      m.bounds.xSpan ∧
    (axisArea size.height home.work.ySpan layout.virtualBounds.ySpan).Reaches y size.height.toInt
      m.bounds.ySpan

/-- What a window is placed by: its owner, or the window itself. -/
def anchorOf (desired : RectI32) : InitialPlacementMode → Option RectI32 → RectI32
  | .centerOwner, some owner => owner
  | _, _ => desired

/-- The window is centered on the primary monitor, or centered over its anchor it comes onto some
monitor, with the monitor that the anchor belongs to as its home. -/
def Recovers (layout : DisplayLayout) (desired : RectI32) (mode : InitialPlacementMode)
    (owner : Option RectI32) : Prop :=
  mode = .centerPrimary ∨ ∃ anchor home, guestToHost layout (anchorOf desired mode owner) =
      some anchor ∧ BelongsTo layout anchor home ∧ ∃ m ∈ layout.monitors,
        ComesOnto layout home (centered anchor.x anchor.width desired.width)
          (centered anchor.y anchor.height desired.height) desired m

theorem sharesPixel_iff {guest host : RectI32} (hwidth : 0 < guest.width.toInt)
    (hheight : 0 < guest.height.toInt) (hhost : host.edges = some (host.xSpan, host.ySpan)) :
    SharesPixel layout guest host ↔
      (hostX layout guest).Meets host.xSpan ∧ (hostY layout guest).Meets host.ySpan := by
  obtain ⟨⟨hx, hy⟩, -⟩ := RectI32.edges_eq_some_iff.mp hhost
  have hcolumns : (hostX layout guest).low < (hostX layout guest).high := by
    simp only [hostX]
    omega
  have hrows : (hostY layout guest).low < (hostY layout guest).high := by
    simp only [hostY]
    omega
  rw [Span.meets_iff_exists hcolumns hx, Span.meets_iff_exists hrows hy]
  unfold SharesPixel
  constructor
  · rintro ⟨px, py, hpx, hpy⟩
    exact ⟨⟨px, hpx⟩, py, hpy⟩
  · rintro ⟨⟨px, hpx⟩, py, hpy⟩
    exact ⟨px, py, hpx, hpy⟩

/-- The search for a reachable top row finds nothing exactly when there is none. -/
theorem topRowReachable_iff {desired desiredHost : RectI32}
    (hvalid : validateDisplayLayout layout = .ok ())
    (hdesired : guestToHost layout desired = some desiredHost) :
    TopRowReachable layout desired ↔
      findMonitorWorkLargestIntersection layout (topRow desiredHost) ≠ none := by
  obtain ⟨-, hmonitors⟩ := placed_of_valid hvalid
  obtain ⟨hx, hy, hwidth, hheight, hedges⟩ := shifted_eq_some hdesired
  obtain ⟨⟨hcolumns, hrows⟩, ⟨hright, hbottom⟩, -⟩ := RectI32.edges_eq_some_iff.mp hedges
  have hone : (1 : Int32).toInt = 1 := rfl
  have hrow : 0 < (topRow desired).height.toInt := Int.one_pos
  simp only [RectI32.xSpan, RectI32.ySpan] at hcolumns hrows hright hbottom
  have htop : (topRow desiredHost).edges =
      some ((topRow desiredHost).xSpan, (topRow desiredHost).ySpan) := by
    rw [RectI32.edges_eq_some_iff]
    simp only [RectI32.xSpan, RectI32.ySpan, topRow, hone, and_true]
    omega
  have hpositive : 0 < (topRow desired).width.toInt := by
    rw [topRow, ← hwidth]
    omega
  have hspanX : hostX layout (topRow desired) = (topRow desiredHost).xSpan := by
    simp only [hostX, RectI32.xSpan, topRow, hx, hwidth]
  have hspanY : hostY layout (topRow desired) = (topRow desiredHost).ySpan := by
    simp only [hostY, RectI32.ySpan, topRow, hy]
  have hshares : ∀ m ∈ layout.monitors, (SharesPixel layout (topRow desired) m.work ↔
      m.work.intersectionArea (topRow desiredHost) ≠ 0) := by
    intro m hm
    have hwork := (hmonitors m hm).work
    rw [sharesPixel_iff hpositive hrow hwork,
      RectI32.intersectionArea_ne_zero_iff hwork htop, hspanX, hspanY]
    simp only [Span.Meets]
    tauto
  rw [findMonitorWorkLargestIntersection]
  rcases findLargest_cases MonitorDesc.work layout (topRow desiredHost) with
    ⟨hnone, hzero⟩ | ⟨best, hbest, hsome, harea, -⟩
  · refine iff_of_false ?_ (by simp [hnone])
    rintro ⟨m, hm, hpixel⟩
    exact (hshares m hm).mp hpixel (hzero m hm)
  · exact iff_of_true ⟨best, hbest, (hshares best hbest).mpr harea⟩ (by simp [hsome])

theorem candidate_size {desiredHost ownerHost rect : RectI32} {monitor : MonitorDesc}
    (hrect : candidate mode desiredHost ownerHost monitor = some rect) :
    rect.width = desiredHost.width ∧ rect.height = desiredHost.height := by
  unfold candidate at hrect
  dsimp only at hrect
  split_ifs at hrect <;> cases hrect <;> exact ⟨rfl, rfl⟩

/-- A window that is not degenerate, clamped for a monitor of the layout. -/
theorem clampRect_eq (hdesktop : layout.virtualBounds.edges =
      some (layout.virtualBounds.xSpan, layout.virtualBounds.ySpan))
    (hwork : monitor.work.edges = some (monitor.work.xSpan, monitor.work.ySpan))
    (hwidth : 0 < rect.width.toInt) (hheight : 0 < rect.height.toInt) :
    clampRectToMonitorWorkOrVirtual rect monitor layout.virtualBounds = { rect with
        x := clampAxis rect.x rect.width monitor.work.xSpan layout.virtualBounds.xSpan
        y := clampAxis rect.y rect.height monitor.work.ySpan layout.virtualBounds.ySpan } := by
  unfold clampRectToMonitorWorkOrVirtual
  rw [hdesktop, hwork]
  refine if_neg ?_
  rw [Int32.le_iff_toInt_le, Int32.le_iff_toInt_le]
  simp only [Int32.toInt_zero]
  omega

/-- The area of an axis has room for the window, or it is the desktop. -/
theorem axisArea_fits {size : Int32} {work desktop target : Span}
    (htarget : target.Within desktop) :
    size.toInt ≤ (axisArea size work desktop).high - (axisArea size work desktop).low ∨
      target.Within (axisArea size work desktop) := by
  unfold axisArea
  split_ifs with hlarge
  · exact .inr htarget
  · exact .inl (by omega)

/-- The placed window lies on a monitor exactly when it comes onto it. -/
theorem sharesPixel_clamped_iff {rect placed : RectI32} {monitor m : MonitorDesc}
    (hvalid : validateDisplayLayout layout = .ok ()) (hmonitor : monitor ∈ layout.monitors)
    (hm : m ∈ layout.monitors) (hwidth : 0 < rect.width.toInt) (hheight : 0 < rect.height.toInt)
    (hplaced : hostToGuest layout
      (clampRectToMonitorWorkOrVirtual rect monitor layout.virtualBounds) = some placed) :
    SharesPixel layout placed m.bounds ↔
      ComesOnto layout monitor rect.x.toInt rect.y.toInt rect m := by
  obtain ⟨hdesktop, hmonitors⟩ := placed_of_valid hvalid
  have hwork := (hmonitors monitor hmonitor).work
  have hplace := hmonitors m hm
  obtain ⟨⟨hcolumns, hrows⟩, -⟩ := RectI32.edges_eq_some_iff.mp hplace.bounds
  rw [clampRect_eq hdesktop hwork hwidth hheight] at hplaced
  obtain ⟨hx, hy, hsameWidth, hsameHeight, -⟩ := shifted_eq_some hplaced
  rw [sharesPixel_iff (hsameWidth ▸ hwidth) (hsameHeight ▸ hheight) hplace.bounds]
  dsimp only at hx hy hsameWidth hsameHeight
  rw [clampAxis_toInt (inI32_toInt _) (inI32_toInt _)] at hx hy
  unfold ComesOnto
  rw [← Span.clamp_meets_iff hcolumns (axisArea_fits hplace.boundsX),
    ← Span.clamp_meets_iff hrows (axisArea_fits hplace.boundsY)]
  simp only [hostX, hostY, hx, hy, hsameWidth, hsameHeight, neg_add_cancel_right]

/-- Centered over an extent it does not fit into, a window covers it. -/
theorem centered_covers {anchorOrigin anchorSize size : Int32} (hanchor : 0 < anchorSize.toInt)
    (hlarge : anchorSize.toInt < size.toInt) :
    Span.Meets ⟨centered anchorOrigin anchorSize size,
        centered anchorOrigin anchorSize size + size.toInt⟩
      ⟨anchorOrigin.toInt, anchorOrigin.toInt + anchorSize.toInt⟩ := by
  have hhalf : (anchorSize.toInt - size.toInt).tdiv 2 = -((size.toInt - anchorSize.toInt) / 2) := by
    rw [← neg_sub, Int.neg_tdiv, Int.tdiv_eq_ediv_of_nonneg (by omega)]
  unfold centered Span.Meets
  rw [hhalf]
  dsimp only
  omega

/-- On one axis, a window that is centered over the work area comes onto the monitor. -/
theorem reaches_centered {anchorOrigin anchorSize size : Int32} {bounds desktop : Span}
    (hpositive : 0 < size.toInt) (hanchor : 0 < anchorSize.toInt)
    (hwork : Span.Within ⟨anchorOrigin.toInt, anchorOrigin.toInt + anchorSize.toInt⟩ bounds)
    (hdesktop : bounds.Within desktop) :
    (axisArea size ⟨anchorOrigin.toInt, anchorOrigin.toInt + anchorSize.toInt⟩ desktop).Reaches
      (centered anchorOrigin anchorSize size) size.toInt bounds := by
  unfold axisArea
  dsimp only
  split_ifs with hlarge
  · have hlarger : anchorSize.toInt < size.toInt := by omega
    refine Span.reaches_of_meets ?_ hdesktop ((centered_covers hanchor hlarger).mono hwork)
    obtain ⟨hlow, hhigh⟩ := hwork
    dsimp only at hlow hhigh
    omega
  · exact Span.reaches_of_fits hpositive (by dsimp only; omega) hwork

/-- What a window that is moved is placed by: the primary monitor or its anchor. -/
theorem candidate_cases {desired desiredHost ownerHost : RectI32} {owner : Option RectI32}
    (hdesired : guestToHost layout desired = some desiredHost)
    (howner : ownerToHost layout owner = some ownerHost)
    (haccepted : ¬(mode = .centerOwner ∧ owner.isNone = true))
    (hselected : selectMonitor layout mode desiredHost ownerHost = some monitor)
    (hrect : candidate mode desiredHost ownerHost monitor = some rect) :
    ∃ anchor, rect.x.toInt = centered anchor.x anchor.width desired.width ∧
      rect.y.toInt = centered anchor.y anchor.height desired.height ∧
      (mode = .centerPrimary ∧ anchor = monitor.work ∨ mode ≠ .centerPrimary ∧
        guestToHost layout (anchorOf desired mode owner) = some anchor ∧
          BelongsTo layout anchor monitor) := by
  obtain ⟨-, -, hwidth, hheight, -⟩ := shifted_eq_some hdesired
  unfold candidate at hrect
  rw [← hwidth, ← hheight]
  cases mode with
  | preserve =>
    cases hrect
    refine ⟨rect, ?_, ?_, .inr ⟨by simp, hdesired, belongsTo_of_search hselected⟩⟩
    · simp [centered]
    · simp [centered]
  | centerPrimary =>
    simp only [reduceCtorEq, if_false] at hrect
    split_ifs at hrect with hrange
    cases hrect
    exact ⟨monitor.work, toInt_ofInt hrange.1.1 hrange.1.2, toInt_ofInt hrange.2.1 hrange.2.2,
      .inl ⟨rfl, rfl⟩⟩
  | centerOwner =>
    cases owner with
    | none => exact absurd ⟨rfl, rfl⟩ haccepted
    | some guest =>
      simp only [reduceCtorEq, if_false, if_true] at hrect
      split_ifs at hrect with hrange
      cases hrect
      exact ⟨ownerHost, toInt_ofInt hrange.1.1 hrange.1.2, toInt_ofInt hrange.2.1 hrange.2.2,
        .inr ⟨by simp, howner, belongsTo_of_search hselected⟩⟩

/-- An accepted window keeps its size, and stays where it is if its top row is reachable. Any
other lies on some monitor exactly if it is centered on the primary one, or comes onto one from
its place or from that over its owner. A window that is larger than the work area it is moved
to is only kept on the desktop, which has holes. -/
theorem placement_on_monitor_iff {layout : DisplayLayout} {desired placed : RectI32}
    {mode : InitialPlacementMode} {owner : Option RectI32} {monitor : MonitorDesc}
    (hvalid : validateDisplayLayout layout = .ok ())
    (hplaced : placeGuestWindow layout desired mode owner = some (placed, monitor)) :
    (placed.width = desired.width ∧ placed.height = desired.height) ∧
      (mode = .preserve → TopRowReachable layout desired → placed = desired) ∧
      (¬(mode = .preserve ∧ TopRowReachable layout desired) →
        ((∃ m ∈ layout.monitors, SharesPixel layout placed m.bounds) ↔
          Recovers layout desired mode owner)) := by
  obtain ⟨haccepted, desiredHost, ownerHost, hdesired, howner, hcases⟩ :=
    placeGuestWindow_eq_some hplaced
  obtain ⟨-, -, hwidth, hheight, hedges⟩ := shifted_eq_some hdesired
  rw [topRowReachable_iff hvalid hdesired]
  rcases hcases with ⟨hmode, rfl, hfound⟩ | ⟨hnone, hselected, rect, hrect, hguest⟩
  · -- The window was left where it is.
    refine ⟨⟨rfl, rfl⟩, fun _ _ => rfl, fun hnot => absurd ⟨hmode, ?_⟩ hnot⟩
    rw [hfound]
    exact Option.some_ne_none monitor
  · have hmonitor := selectMonitor_mem hselected
    obtain ⟨hsameWidth, hsameHeight⟩ := candidate_size hrect
    obtain ⟨hcolumns, hrows⟩ := (RectI32.edges_eq_some_iff.mp hedges).1
    have hpositiveX : 0 < rect.width.toInt := by
      rw [hsameWidth]
      exact pos_of_lt_add_right hcolumns
    have hpositiveY : 0 < rect.height.toInt := by
      rw [hsameHeight]
      exact pos_of_lt_add_right hrows
    have hplace := (placed_of_valid hvalid).2 monitor hmonitor
    -- The clamp works axis by axis, so where the window ends up is read off where it was.
    have hshares : ∀ m ∈ layout.monitors, (SharesPixel layout placed m.bounds ↔
        ComesOnto layout monitor rect.x.toInt rect.y.toInt desired m) := by
      intro m hm
      rw [sharesPixel_clamped_iff hvalid hmonitor hm hpositiveX hpositiveY hguest]
      simp only [ComesOnto, hsameWidth, hsameHeight, hwidth, hheight]
    obtain ⟨anchor, hx, hy, hanchor⟩ := candidate_cases hdesired howner haccepted hselected hrect
    rw [hx, hy] at hshares
    refine ⟨?_, fun hmode hfound => absurd (hnone hmode) hfound, fun _ => ?_⟩
    · rw [clampRect_eq (placed_of_valid hvalid).1 hplace.work hpositiveX hpositiveY] at hguest
      obtain ⟨-, -, hplacedWidth, hplacedHeight, -⟩ := shifted_eq_some hguest
      exact ⟨by rw [hplacedWidth, hsameWidth, hwidth], by rw [hplacedHeight, hsameHeight, hheight]⟩
    · rcases hanchor with ⟨hmode, rfl⟩ | ⟨hmode, hhost, hbelongs⟩
      · -- A centered window overlaps the work area it is centered on, whatever its size.
        refine iff_of_true ⟨monitor, hmonitor, (hshares monitor hmonitor).mpr ?_⟩ (.inl hmode)
        obtain ⟨⟨hworkX, hworkY⟩, -⟩ := RectI32.edges_eq_some_iff.mp hplace.work
        rw [hsameWidth, hwidth] at hpositiveX
        rw [hsameHeight, hheight] at hpositiveY
        exact ⟨reaches_centered hpositiveX (pos_of_lt_add_right hworkX) hplace.workX hplace.boundsX,
          reaches_centered hpositiveY (pos_of_lt_add_right hworkY) hplace.workY hplace.boundsY⟩
      · constructor
        · rintro ⟨m, hm, hpixel⟩
          exact .inr ⟨anchor, monitor, hhost, hbelongs, m, hm, (hshares m hm).mp hpixel⟩
        · rintro (hprimary | ⟨other, home, hother, hhome, m, hm, hcomes⟩)
          · exact absurd hprimary hmode
          · obtain rfl : anchor = other := Option.some.inj (hhost.symm.trans hother)
            obtain rfl := hbelongs.unique hvalid hhome
            exact ⟨m, hm, (hshares m hm).mpr hcomes⟩

def cornerMonitor : MonitorDesc :=
  { stableId := [1], bounds := ⟨0, 0, 100, 100⟩, work := ⟨0, 0, 100, 100⟩, dpiX := 96
    dpiY := 96, primary := true }

/-- Two monitors in opposite corners of a desktop that is empty between them. -/
def cornerMonitors : DisplayLayout :=
  { snapshotId := [1]
    virtualBounds := ⟨0, 0, 1100, 1100⟩
    primaryMonitorId := [1]
    monitors :=
      [cornerMonitor,
       { stableId := [2], bounds := ⟨1000, 1000, 100, 100⟩, work := ⟨1000, 1000, 100, 100⟩
         dpiX := 96, dpiY := 96 }] }

theorem cornerMonitors_valid : validateDisplayLayout cornerMonitors = .ok () := by
  decide +kernel

/-- A window wider than the nearest monitor that reaches over it is brought onto it. -/
theorem wide_window_recovers :
    placeGuestWindow cornerMonitors ⟨50, 150, 150, 20⟩ .preserve none =
        some (⟨50, 80, 150, 20⟩, cornerMonitor) ∧
      Recovers cornerMonitors ⟨50, 150, 150, 20⟩ .preserve none := by
  have hplaced : placeGuestWindow cornerMonitors ⟨50, 150, 150, 20⟩ .preserve none =
      some (⟨50, 80, 150, 20⟩, cornerMonitor) := by
    decide +kernel
  obtain ⟨-, hkept, hlands⟩ := placement_on_monitor_iff cornerMonitors_valid hplaced
  have hmoved : ¬(InitialPlacementMode.preserve = .preserve ∧
      TopRowReachable cornerMonitors ⟨50, 150, 150, 20⟩) :=
    fun hboth => absurd (hkept rfl hboth.2) (by decide)
  exact ⟨hplaced, (hlands hmoved).mp ⟨cornerMonitor, List.mem_cons_self, 50, 80, by decide⟩⟩

/-- A window wider than the nearest monitor stays where it is, between the two. -/
theorem wide_window_stays_in_hole :
    validateDisplayLayout cornerMonitors = .ok () ∧
      placeGuestWindow cornerMonitors ⟨400, 50, 150, 20⟩ .preserve none =
        some (⟨400, 50, 150, 20⟩, cornerMonitor) ∧
      ¬ TopRowReachable cornerMonitors ⟨400, 50, 150, 20⟩ ∧
      ¬ ∃ m ∈ cornerMonitors.monitors,
        SharesPixel cornerMonitors ⟨400, 50, 150, 20⟩ m.bounds := by
  have hmonitors := (placed_of_valid cornerMonitors_valid).2
  refine ⟨cornerMonitors_valid, by decide +kernel, ?_, ?_⟩
  · rintro ⟨m, hm, hpixel⟩
    rw [sharesPixel_iff (by decide) (by decide) (hmonitors m hm).work] at hpixel
    revert m
    decide +kernel
  · rintro ⟨m, hm, hpixel⟩
    rw [sharesPixel_iff (by decide) (by decide) (hmonitors m hm).bounds] at hpixel
    revert m
    decide +kernel

end VkRelay.Display
