import VkRelay.Windowing.Geometry

/-!
Deferred geometry on a host that does exactly what it is asked. Calls that find the slot lock
taken coalesce in the slot's cell. The origin and the restack intent survive that; the wish to
size the client does not: a later call without it takes it back before it was carried out.
-/

namespace VkRelay.Windowing

open VkRelay.Lib VkRelay.Registry

/-- A `SetWindowPos` that is carried out to the pixel, with the frame's insets as they are. -/
def exactly (hwnd : Hwnd) (pos : WindowPos) : Hwnd :=
  let dx := if pos.noMove then 0 else pos.left - hwnd.frame.left
  let dy := if pos.noMove then 0 else pos.top - hwnd.frame.top
  let dw := if pos.noSize then 0 else pos.width - (hwnd.frame.right - hwnd.frame.left)
  let dh := if pos.noSize then 0 else pos.height - (hwnd.frame.bottom - hwnd.frame.top)
  let moved (r : Rect) : Rect := ⟨r.left + dx, r.top + dy, r.right + dx + dw, r.bottom + dy + dh⟩
  { hwnd with frame := moved hwnd.frame, client := moved hwnd.client }

/-- The restacks carried out, oldest first. -/
def HostWindow.restacks (w : HostWindow) : List ZOrder :=
  (w.placed.map (·.insertAfter)).filter (· ≠ .none)

/-- The insets can be measured, the window is not maximized and its first placement is done. -/
structure Undisturbed (w : HostWindow) : Prop where
  measured : (readRealFrameInsets w.hwnd).valid = true
  normal : w.hwnd.zoomed = false
  placed : w.hwnd.popup = true ∨ w.slot.initialPlacementPending = false

/-! ## One attempt -/

/-- What an attempt that takes the lock does with a pending geometry. -/
structure Drained (desk : Desk) (w w' : HostWindow) : Prop where
  undisturbed : Undisturbed w'
  desired : w'.slot.desired = w.slot.desired
  desiredSeq : w'.slot.desiredSeq = w.slot.desiredSeq
  desiredApplySize : w'.slot.desiredApplySize = w.slot.desiredApplySize
  appliedSeq : w'.slot.appliedSeq = w.slot.desiredSeq
  desiredZ : w'.slot.desiredZ = .none
  origin : (w'.live desk).origin = w.slot.desired.origin
  extent : (w'.live desk).extent =
    if w.slot.desiredApplySize then w.slot.desired.extent else (w.live desk).extent
  restacks : w'.restacks = w.restacks ++ [w.slot.desiredZ].filter (· ≠ .none)

theorem exactly_insets (hwnd : Hwnd) (pos : WindowPos) :
    readRealFrameInsets (exactly hwnd pos) = readRealFrameInsets hwnd := by
  simp only [readRealFrameInsets, exactly, FrameInsets.mk.injEq]
  omega

variable {desk : Desk} {slot : WindowSlot} {hwnd : Hwnd}

/-- A call that moves takes the client's origin to the geometry asked for. -/
theorem exactly_origin (hplaced : hwnd.popup = true ∨ slot.initialPlacementPending = false)
    (hzoomed : hwnd.zoomed = false) :
    (readRealRootClientGeometry (exactly hwnd (windowPos desk slot hwnd false))
      desk.hostOrigin).origin = slot.desired.origin := by
  have hlater : (!hwnd.popup && slot.initialPlacementPending) = false := by
    rcases hplaced with h | h <;> simp [h]
  simp [readRealRootClientGeometry, RootClientGeometry.origin, exactly, windowPos, hlater, hzoomed,
    mapRootClientToWin32FrameWithInsets, readRealFrameInsets]
  omega

/-- A call that does not size leaves the client's extent. -/
theorem exactly_extent_of_noSize {pos : WindowPos} (hostOrigin : Point)
    (hsize : pos.noSize = true) :
    (readRealRootClientGeometry (exactly hwnd pos) hostOrigin).extent =
      (readRealRootClientGeometry hwnd hostOrigin).extent := by
  simp [readRealRootClientGeometry, RootClientGeometry.extent, exactly, hsize]

/-- A call sizes the client when the geometry says so and leaves its size otherwise. -/
theorem exactly_extent (hzoomed : hwnd.zoomed = false)
    (hpos : 0 < slot.desired.clientW ∧ 0 < slot.desired.clientH) :
    (readRealRootClientGeometry (exactly hwnd (windowPos desk slot hwnd false))
      desk.hostOrigin).extent = if slot.desiredApplySize then slot.desired.extent
        else (readRealRootClientGeometry hwnd desk.hostOrigin).extent := by
  obtain ⟨hw, hh⟩ := hpos
  by_cases hsized : slot.desiredApplySize = true
  · rw [if_pos hsized]
    by_cases hsame : (readRealRootClientGeometry hwnd desk.hostOrigin).extent = slot.desired.extent
    · rw [exactly_extent_of_noSize desk.hostOrigin (by simp [windowPos, hsame]), hsame]
    · have hresize : (windowPos desk slot hwnd false).noSize = false := by
        simp [windowPos, hsized, hw, hh, hsame, hzoomed]
      simp only [readRealRootClientGeometry, RootClientGeometry.extent, exactly, hresize,
        Prod.mk.injEq]
      simp only [windowPos, mapRootClientToWin32FrameWithInsets, readRealFrameInsets]
      simp only [Bool.false_eq_true, if_false]
      omega
  · rw [if_neg hsized, exactly_extent_of_noSize desk.hostOrigin (by simp [windowPos, hsized])]

/-- A call for a geometry that is adopted only restacks. -/
theorem exactly_adopted (desk : Desk) (slot : WindowSlot) (hwnd : Hwnd) :
    exactly hwnd (windowPos desk slot hwnd true) = hwnd := by
  simp [exactly, windowPos]

theorem drainGeometry_drained {w : HostWindow} (hpending : w.slot.hasPendingGeometry = true)
    (hundisturbed : Undisturbed w)
    (hpos : 0 < w.slot.desired.clientW ∧ 0 < w.slot.desired.clientH) :
    Drained desk w (drainGeometry desk exactly false w) := by
  obtain ⟨hmeasured, hnormal, hplaced⟩ := hundisturbed
  have hkept (hadopt : w.slot.adopts (w.live desk) = true) : (w.live desk).extent =
      if w.slot.desiredApplySize then w.slot.desired.extent else (w.live desk).extent := by
    split_ifs with hsized
    · exact (adopts_live hadopt).2 hsized
    · rfl
  by_cases hacknowledged : w.slot.adopts (w.live desk) = true ∧ w.slot.desiredZ = .none
  · obtain ⟨hadopt, hz⟩ := hacknowledged
    rw [drainGeometry_adopted hpending hadopt hz]
    exact ⟨⟨hmeasured, hnormal, hplaced⟩, rfl, rfl, rfl, rfl, rfl, (adopts_live hadopt).1,
      hkept hadopt, by simp [HostWindow.restacks, hz]⟩
  · rw [not_and] at hacknowledged
    obtain ⟨_, heq⟩ := @drainGeometry_placed desk exactly w hpending hmeasured hacknowledged
    obtain ⟨_, _, _, hframe⟩ := reconcile_frame desk _
    rw [heq]
    dsimp only
    rw [hframe]
    refine ⟨⟨?_, hnormal, ?_⟩, rfl, rfl, rfl, rfl, rfl, ?_, ?_, ?_⟩
    · exact (congrArg FrameInsets.valid (exactly_insets w.hwnd _)).trans hmeasured
    · rcases hplaced with hpopup | hdone
      · exact .inl hpopup
      · exact .inr (by simp [hdone])
    · cases hadopt : w.slot.adopts (w.live desk) with
      | true =>
        simp only [HostWindow.live, exactly_adopted]
        exact (adopts_live hadopt).1
      | false => exact exactly_origin hplaced hnormal
    · cases hadopt : w.slot.adopts (w.live desk) with
      | true =>
        simp only [HostWindow.live, exactly_adopted]
        exact hkept hadopt
      | false => exact exactly_extent hnormal hpos
    · simp [HostWindow.restacks, windowPos, List.filter_append]

theorem setDesiredGeometry_of_newer {call : GeometryCall} (hnewer : slot.desiredSeq < call.seq) :
    slot.setDesiredGeometry call = { slot with
        desired := call.geometry, desiredSeq := call.seq, desiredApplySize := call.applySize
        desiredZ := if call.zOrder ≠ .none then call.zOrder else slot.desiredZ } := by
  unfold WindowSlot.setDesiredGeometry
  by_cases hz : call.zOrder ≠ .none <;> simp [hz, hnewer]

/-! ## Runs -/

/-- A call to come. Its number is the last one's plus `step + 1`, so that the numbers of a run
are any that increase strictly. -/
structure Asked where
  geometry : RootClientGeometry
  positive : 0 < geometry.clientW ∧ 0 < geometry.clientH
  step : Nat
  applySize : Bool
  zOrder : ZOrder

def Asked.call (asked : Asked) (last : Nat) : GeometryCall where
  geometry := asked.geometry
  seq := last + (asked.step + 1)
  applySize := asked.applySize
  zOrder := asked.zOrder

/-- A call or a posted drain; each makes an attempt, which finds the lock free or busy. -/
inductive GeometryEvent where
  | apply (asked : Asked) (busy : Bool)
  | drain (busy : Bool)

/-- A window and what was asked of it: the newest call and its number, the newest size asked
for (at first the one the client had), the newest restack intent, and how many restacks had
been carried out when that was given. -/
structure Watch where
  host : HostWindow
  newest : Option GeometryCall
  last : Nat
  extent : Int × Int
  intent : ZOrder
  earlier : Nat

namespace Watch

def start (desk : Desk) (w : HostWindow) : Watch where
  host := w
  newest := none
  last := w.slot.desiredSeq
  extent := (w.live desk).extent
  intent := .none
  earlier := 0

def record (w : Watch) (call : GeometryCall) : Watch where
  host := { w.host with slot := w.host.slot.setDesiredGeometry call }
  newest := some call
  last := call.seq
  extent := if call.applySize then call.geometry.extent else w.extent
  intent := if call.zOrder ≠ .none then call.zOrder else w.intent
  earlier := if call.zOrder ≠ .none then w.host.restacks.length else w.earlier

def attempt (desk : Desk) (busy : Bool) (w : Watch) : Watch :=
  { w with host := drainGeometry desk exactly busy w.host }

def step (desk : Desk) (w : Watch) : GeometryEvent → Watch
  | .apply asked busy =>
    let call := asked.call w.last
    { w.record call with host := applyGeometry desk exactly busy call w.host }
  | .drain busy => w.attempt desk busy

/-- Once nothing is pending, the client's origin is the newest call's, its extent the newest
that was asked for, and the newest restack intent was carried out exactly once. -/
def Converged (desk : Desk) (w : Watch) : Prop :=
  w.host.slot.hasPendingGeometry = false →
    (∀ call, w.newest = some call → (w.host.live desk).origin = call.geometry.origin) ∧
    (w.host.live desk).extent = w.extent ∧
    (w.intent ≠ .none → w.host.restacks.drop w.earlier = [w.intent])

/-- An attempt that takes the lock finds the newest call to size the client, or the client with
the extent last asked for. -/
def KeepsExtent (desk : Desk) (w : Watch) : GeometryEvent → Prop
  | .apply asked busy =>
    busy = false → asked.applySize = true ∨ (w.host.live desk).extent = w.extent
  | .drain busy => busy = false → w.newest.any (·.applySize) = true ∨
      (w.host.live desk).extent = w.extent

/-- What holds of a watched window in any case. -/
structure Tracks (desk : Desk) (w : Watch) : Prop where
  undisturbed : Undisturbed w.host
  last : w.host.slot.desiredSeq = w.last
  applied : w.host.slot.appliedSeq ≤ w.host.slot.desiredSeq
  cell : ∀ call, w.newest = some call → w.host.slot.desired = call.geometry ∧
    w.host.slot.desiredApplySize = call.applySize ∧
    (0 < call.geometry.clientW ∧ 0 < call.geometry.clientH) ∧
    (call.applySize = true → w.extent = call.geometry.extent)
  untouched : w.newest = none → w.host.slot.hasPendingGeometry = false
  origin : w.host.slot.hasPendingGeometry = false →
    ∀ call, w.newest = some call → (w.host.live desk).origin = call.geometry.origin
  earlier : w.earlier ≤ w.host.restacks.length
  intent : w.host.slot.desiredZ = .none ∧
      (w.intent = .none ∨ w.host.restacks.drop w.earlier = [w.intent]) ∨
    w.host.slot.hasPendingGeometry = true ∧ w.host.slot.desiredZ = w.intent ∧
      w.intent ≠ .none ∧ w.host.restacks.length = w.earlier

variable {desk : Desk} {w : Watch}

theorem Tracks.converged_iff (htracks : w.Tracks desk) :
    w.Converged desk ↔ (w.host.slot.hasPendingGeometry = false →
      (w.host.live desk).extent = w.extent) := by
  constructor
  · exact fun h hnone => (h hnone).2.1
  · intro h hnone
    refine ⟨htracks.origin hnone, h hnone, fun hintent => ?_⟩
    rcases htracks.intent with ⟨-, hkept | hdone⟩ | ⟨hpending, -⟩
    · exact absurd hkept hintent
    · exact hdone
    · rw [hnone] at hpending
      cases hpending

/-- A call makes its geometry the desired one and pending. -/
theorem Tracks.record (htracks : w.Tracks desk) (asked : Asked) :
    (w.record (asked.call w.last)).Tracks desk ∧
      (w.record (asked.call w.last)).host.slot.hasPendingGeometry = true := by
  have hnewer : w.host.slot.desiredSeq < (asked.call w.last).seq := by
    rw [htracks.last]
    exact Nat.lt_add_of_pos_right asked.step.succ_pos
  have hpos : 0 < (asked.call w.last).geometry.clientW ∧ 0 < (asked.call w.last).geometry.clientH :=
    asked.positive
  generalize asked.call w.last = call at hnewer hpos ⊢
  have hhost : (w.record call).host = { w.host with slot := { w.host.slot with
      desired := call.geometry, desiredSeq := call.seq, desiredApplySize := call.applySize
      desiredZ := if call.zOrder ≠ .none then call.zOrder else w.host.slot.desiredZ } } := by
    simp only [Watch.record, setDesiredGeometry_of_newer hnewer]
  have hpending : (w.record call).host.slot.hasPendingGeometry = true := by
    rw [hhost]
    exact decide_eq_true (htracks.applied.trans_lt hnewer)
  refine ⟨⟨?_, ?_, ?_, ?_, ?_, ?_, ?_, ?_⟩, hpending⟩
  · rw [hhost]
    exact ⟨htracks.undisturbed.measured, htracks.undisturbed.normal, htracks.undisturbed.placed⟩
  · rw [hhost]
    rfl
  · rw [hhost]
    exact htracks.applied.trans hnewer.le
  · intro newest hnewest
    cases hnewest
    rw [hhost]
    exact ⟨rfl, rfl, hpos, fun hsized => if_pos hsized⟩
  · exact fun hnone => nomatch hnone
  · intro hnone
    rw [hpending] at hnone
    cases hnone
  · simp only [Watch.record]
    split_ifs
    · exact le_rfl
    · exact htracks.earlier
  · by_cases hz : call.zOrder = .none
    · rw [hpending, hhost]
      simp only [Watch.record, hz, ne_eq, not_true_eq_false, if_false, true_and]
      exact htracks.intent.imp_right And.right
    · rw [hpending, hhost]
      simp only [Watch.record, hz, ne_eq, not_false_eq_true, if_true, true_and]
      exact .inr rfl

/-- An attempt that does not find something pending and the lock free changes nothing. -/
theorem drainGeometry_idle {busy : Bool} {w : HostWindow}
    (hidle : w.slot.hasPendingGeometry = false ∨ busy = true) :
    ∃ posted, drainGeometry desk exactly busy w = { w with posted } := by
  unfold drainGeometry
  rcases hidle with hnone | rfl
  · exact ⟨w.posted, by simp [hnone]⟩
  · by_cases hpending : w.slot.hasPendingGeometry = true
    · exact ⟨w.posted + 1, by simp [hpending]⟩
    · exact ⟨w.posted, by simp [hpending]⟩

/-- An attempt either changes nothing that counts, or carries the newest call out. -/
theorem Tracks.attempt_cases (htracks : w.Tracks desk) (busy : Bool) :
    (w.host.slot.hasPendingGeometry = false ∨ busy = true) ∧
      (∃ posted, (w.attempt desk busy).host = { w.host with posted }) ∨
    busy = false ∧ w.host.slot.hasPendingGeometry = true ∧
      Drained desk w.host (w.attempt desk busy).host := by
  by_cases hidle : w.host.slot.hasPendingGeometry = false ∨ busy = true
  · exact .inl ⟨hidle, drainGeometry_idle hidle⟩
  · rw [not_or, Bool.not_eq_false, Bool.not_eq_true] at hidle
    obtain ⟨hpending, rfl⟩ := hidle
    refine .inr ⟨rfl, hpending, drainGeometry_drained hpending htracks.undisturbed ?_⟩
    cases hnewest : w.newest with
    | none =>
      rw [htracks.untouched hnewest] at hpending
      cases hpending
    | some call =>
      obtain ⟨hdesired, -, hpos, -⟩ := htracks.cell call hnewest
      rwa [hdesired]

theorem Tracks.attempt (htracks : w.Tracks desk) (busy : Bool) :
    (w.attempt desk busy).Tracks desk := by
  rcases htracks.attempt_cases busy with ⟨-, posted, hsame⟩ | ⟨-, hpending, hdrained⟩
  · have hw : w.attempt desk busy = { w with host := { w.host with posted } } := by
      rw [← hsame]
      rfl
    rw [hw]
    obtain ⟨hund, hlast, happlied, hcell, huntouched, horigin, hearlier, hintent⟩ := htracks
    exact ⟨⟨hund.measured, hund.normal, hund.placed⟩, hlast, happlied, hcell, huntouched, horigin,
      hearlier, hintent⟩
  · have hsettled : (w.attempt desk busy).host.slot.hasPendingGeometry = false := by
      simp [WindowSlot.hasPendingGeometry, hdrained.desiredSeq, hdrained.appliedSeq]
    refine ⟨hdrained.undisturbed, hdrained.desiredSeq.trans htracks.last, ?_, ?_, fun _ => hsettled,
      fun _ call hcall => ?_, ?_, .inl ⟨hdrained.desiredZ, ?_⟩⟩
    · rw [hdrained.appliedSeq, hdrained.desiredSeq]
    · intro call hcall
      rw [hdrained.desired, hdrained.desiredApplySize]
      exact htracks.cell call hcall
    · rw [hdrained.origin, (htracks.cell call hcall).1]
    · rw [hdrained.restacks, List.length_append]
      exact htracks.earlier.trans (Nat.le_add_right _ _)
    · rw [hdrained.restacks]
      rcases htracks.intent with ⟨hz, hkept⟩ | ⟨-, hz, hintent, hcount⟩
      · show w.intent = .none ∨ (w.host.restacks ++ _).drop w.earlier = [w.intent]
        rw [hz, List.filter_singleton]
        simpa using hkept
      · right
        show (w.host.restacks ++ _).drop w.earlier = [w.intent]
        rw [← hcount, List.drop_left, hz, List.filter_singleton]
        simp [hintent]

/-- An attempt converges exactly when it does not lose the extent last asked for. -/
theorem Tracks.attempt_converged_iff (htracks : w.Tracks desk) (busy : Bool)
    (hbefore : w.host.slot.hasPendingGeometry = false → (w.host.live desk).extent = w.extent) :
    (w.attempt desk busy).Converged desk ↔ (busy = false → w.newest.any (·.applySize) = true ∨
      (w.host.live desk).extent = w.extent) := by
  rw [(htracks.attempt busy).converged_iff]
  rcases htracks.attempt_cases busy with ⟨hidle, posted, hsame⟩ | ⟨rfl, hpending, hdrained⟩
  · refine iff_of_true ?_ ?_
    · rw [hsame]
      exact hbefore
    · rintro rfl
      exact .inr (hbefore (hidle.resolve_right Bool.false_ne_true))
  · have hsettled : (w.attempt desk false).host.slot.hasPendingGeometry = false := by
      simp [WindowSlot.hasPendingGeometry, hdrained.desiredSeq, hdrained.appliedSeq]
    cases hnewest : w.newest with
    | none =>
      rw [htracks.untouched hnewest] at hpending
      cases hpending
    | some call =>
      obtain ⟨hdesired, hsized, -, hextent⟩ := htracks.cell call hnewest
      simp only [hsettled, hdrained.extent, hdesired, hsized, Option.any_some, true_implies]
      show _ = w.extent ↔ _
      by_cases h : call.applySize = true
      · simp [h, hextent h]
      · simp [h]

theorem Tracks.step (htracks : w.Tracks desk) (event : GeometryEvent) :
    (w.step desk event).Tracks desk := by
  cases event with
  | apply asked busy => exact (htracks.record asked).1.attempt busy
  | drain busy => exact htracks.attempt busy

theorem Tracks.appliedSeq_le (htracks : w.Tracks desk) (busy : Bool) :
    w.host.slot.appliedSeq ≤ (w.attempt desk busy).host.slot.appliedSeq := by
  rcases htracks.attempt_cases busy with ⟨-, posted, hsame⟩ | ⟨-, -, hdrained⟩
  · rw [hsame]
  · rw [hdrained.appliedSeq]
    exact htracks.applied

theorem record_appliedSeq (w : Watch) (call : GeometryCall) :
    (w.record call).host.slot.appliedSeq = w.host.slot.appliedSeq := by
  simp only [Watch.record, WindowSlot.setDesiredGeometry]
  split_ifs <;> rfl

theorem Tracks.step_iff (hw : w.Tracks desk ∧ w.Converged desk) (event : GeometryEvent) :
    ((w.step desk event).Tracks desk ∧ (w.step desk event).Converged desk) ∧
      w.host.slot.appliedSeq ≤ (w.step desk event).host.slot.appliedSeq ↔
    w.KeepsExtent desk event := by
  obtain ⟨htracks, hconverged⟩ := hw
  cases event with
  | apply asked busy =>
    obtain ⟨hrecord, hpending⟩ := htracks.record asked
    have hiff := hrecord.attempt_converged_iff busy fun hnone => by
      rw [hpending] at hnone
      cases hnone
    have hgrows := hrecord.appliedSeq_le busy
    rw [record_appliedSeq] at hgrows
    refine (and_iff_left hgrows).trans
      ((and_iff_right (hrecord.attempt busy)).trans (hiff.trans ?_))
    by_cases hsized : asked.applySize = true
    · simp [Watch.record, Asked.call, KeepsExtent, hsized]
    · simp only [Watch.record, Asked.call, KeepsExtent, hsized, Option.any_some]
      rfl
  | drain busy =>
    have hiff := htracks.attempt_converged_iff busy (htracks.converged_iff.mp hconverged)
    exact (and_iff_left (htracks.appliedSeq_le busy)).trans
      ((and_iff_right (htracks.attempt busy)).trans hiff)

end Watch

/-- Nothing is pending on a window whose first placement is done. -/
structure Settled (w : HostWindow) : Prop where
  undisturbed : Undisturbed w
  applied : w.slot.appliedSeq = w.slot.desiredSeq
  restacked : w.slot.desiredZ = .none

/-- Deferred geometry converges through a run, with applied numbers that never decrease, exactly
when no attempt that takes the lock loses the extent last asked for: the newest call sizes the
client, or the client has that extent already. -/
theorem converges_iff {desk : Desk} {w : HostWindow} (hsettled : Settled w)
    (events : List GeometryEvent) :
    (∀ before after, events = before ++ after →
        (before.foldl (Watch.step desk) (.start desk w)).Converged desk) ∧
      AlongFold (Watch.step desk)
        (fun w event => w.host.slot.appliedSeq ≤ (w.step desk event).host.slot.appliedSeq)
        (.start desk w) events ↔
    AlongFold (Watch.step desk) (Watch.KeepsExtent desk) (.start desk w) events := by
  have hidle : w.slot.hasPendingGeometry = false := by
    simp [WindowSlot.hasPendingGeometry, hsettled.applied]
  have hstart : (Watch.start desk w).Tracks desk :=
    ⟨hsettled.undisturbed, rfl, hsettled.applied.le, fun _ h => (nomatch h), fun _ => hidle,
      fun _ _ h => (nomatch h), Nat.zero_le _, .inl ⟨hsettled.restacked, .inl rfl⟩⟩
  have htracks := (invariant_along_iff (P := Watch.Tracks desk) (C := fun _ _ => True)
    (fun s event hs => iff_of_true (Watch.Tracks.step hs event) trivial) hstart events).mpr
    (AlongFold.of_forall (fun _ _ => trivial) _ _)
  rw [← holds_along_iff (P := fun s => Watch.Tracks desk s ∧ Watch.Converged desk s)
    (fun s event hs => Watch.Tracks.step_iff hs event)
    ⟨hstart, hstart.converged_iff.mpr fun _ => rfl⟩ events]
  refine and_congr_left fun _ =>
    ⟨fun hall before after hsplit => ?_, fun hall before after hsplit => ?_⟩
  · exact ⟨htracks before after hsplit, hall before after hsplit⟩
  · exact (hall before after hsplit).2

/-- A window of 100 by 100 at the root's origin, with its first placement done. -/
def smallWindow : HostWindow where
  hwnd := { frame := ⟨0, 0, 100, 100⟩, client := ⟨0, 0, 100, 100⟩ }
  slot := { initialPlacementPending := false }

/-- The client is to be sized while the lock is taken; the posted drain finds it free. -/
def sizeDeferred : List GeometryEvent :=
  [.apply ⟨⟨0, 0, 200, 200⟩, by decide, 0, true, .none⟩ true, .drain false]

theorem converges_iff_sizeDeferred : Settled smallWindow ∧
    (∀ before after, sizeDeferred = before ++ after →
        (before.foldl (Watch.step {}) (.start {} smallWindow)).Converged {}) ∧
      AlongFold (Watch.step {})
        (fun w event => w.host.slot.appliedSeq ≤ (w.step {} event).host.slot.appliedSeq)
        (.start {} smallWindow) sizeDeferred :=
  have hsettled : Settled smallWindow := ⟨⟨by decide, rfl, .inr rfl⟩, rfl, rfl⟩
  ⟨hsettled, (converges_iff hsettled sizeDeferred).mpr
    ⟨nofun, fun _ => .inl (by decide), trivial⟩⟩

/-- A late registration sizes the client to 200 by 200 while the lock is taken; a move follows. -/
def sizeThenMove : List GeometryEvent :=
  [.apply ⟨⟨0, 0, 200, 200⟩, by decide, 0, true, .none⟩ true,
    .apply ⟨⟨10, 0, 200, 200⟩, by decide, 0, false, .none⟩ false]

/-- The move takes the wish to size back: nothing is pending and the client has its old extent. -/
theorem size_lost_behind_move :
    ¬(sizeThenMove.foldl (Watch.step {}) (.start {} smallWindow)).Converged {} := by
  intro hconverged
  have hextent := (hconverged (by decide)).2.1
  revert hextent
  decide

end VkRelay.Windowing
