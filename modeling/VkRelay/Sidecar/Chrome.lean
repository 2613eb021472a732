import VkRelay.Lib.Raster
import VkRelay.Sidecar.Cursors

/-!
The chrome of a placeholder. A picture is what the paints of a window should add up to: each
lays its rectangle over what was there, and a paint for another source size starts from nothing.
The buffer the mock keeps for a live placeholder shows the picture of exactly the paints that
were accepted since the placeholder was opened.
-/

namespace VkRelay.Sidecar

open VkRelay.Lib VkRelay.Json VkRelay.Registry VkRelay.Wire

/-! ## Pictures -/

/-- The size in pixels, and the bytes by row and column, four to a pixel. -/
structure Picture where
  w : Nat
  h : Nat
  byte : Nat → Nat → UInt8

namespace Picture

def clear (w h : Nat) : Picture := ⟨w, h, fun _ _ => 0⟩

/-- The picture of another size is cleared first. -/
def sized (p : Picture) (w h : Nat) : Picture := if p.w = w ∧ p.h = h then p else clear w h

theorem size_sized (p : Picture) (w h : Nat) : (p.sized w h).w = w ∧ (p.sized w h).h = h := by
  rw [sized]
  split
  · assumption
  · exact ⟨rfl, rfl⟩

def Inside (req : SidecarPaintChromeRequest) (y x : Nat) : Prop :=
  req.dirtyY ≤ y ∧ y < req.dirtyY + req.dirtyH ∧
    req.dirtyX * 4 ≤ x ∧ x < req.dirtyX * 4 + req.dirtyW * 4

instance (req : SidecarPaintChromeRequest) (y x : Nat) : Decidable (Inside req y x) :=
  inferInstanceAs (Decidable (_ ∧ _))

def overlay (p : Picture) (req : SidecarPaintChromeRequest) : Picture where
  w := req.srcW
  h := req.srcH
  byte y x :=
    if Inside req y x then
      req.pixels.getD ((y - req.dirtyY) * req.stride + (x - req.dirtyX * 4)) 0
    else (p.sized req.srcW req.srcH).byte y x

def ofPaints (paints : List SidecarPaintChromeRequest) : Picture :=
  paints.foldl overlay (clear 0 0)

end Picture

structure MockChrome.Shows (c : MockChrome) (p : Picture) : Prop where
  w : c.w = p.w
  h : c.h = p.h
  length : c.bgra.length = p.h * (p.w * 4)
  byte : ∀ y x, y < p.h → x < p.w * 4 → c.bgra[y * (p.w * 4) + x]? = some (p.byte y x)

namespace MockChrome

variable {c : MockChrome} {p : Picture} {req : SidecarPaintChromeRequest}

theorem shows_empty : Shows {} (Picture.clear 0 0) :=
  ⟨rfl, rfl, rfl, fun _ _ hy => absurd hy (Nat.not_lt_zero _)⟩

theorem row_fits {w h y x : Nat} (hy : y < h) (hx : x < w) : y * w + x < h * w := by
  have hnext : (y + 1) * w ≤ h * w := Nat.mul_le_mul_right _ hy
  rw [Nat.succ_mul] at hnext
  omega

/-- The buffer a paint starts from shows the picture it starts from. -/
theorem Shows.paintBase (hshows : c.Shows p) (req : SidecarPaintChromeRequest) :
    (c.paintBase req).Shows (p.sized req.srcW req.srcH) := by
  rw [MockChrome.paintBase, Picture.sized, hshows.w, hshows.h]
  by_cases hsize : p.w = req.srcW ∧ p.h = req.srcH
  · rw [if_neg (by simp [hsize]), if_pos hsize]
    exact hshows
  · rw [if_pos (by rwa [← not_and_or]), if_neg hsize]
    have hlength : req.srcW * req.srcH * 4 = req.srcH * (req.srcW * 4) := by ring
    refine ⟨rfl, rfl, by simpa [Picture.clear] using hlength, fun y x hy hx => ?_⟩
    rw [List.getElem?_replicate, if_pos]
    · rfl
    · rw [hlength]
      exact row_fits hy hx

theorem getElem?_row (hwf : req.WellFormed) {row x : Nat} (hrow : row < req.dirtyH)
    (hx : x < req.dirtyW * 4) :
    ((req.pixels.drop (row * req.stride)).take (req.dirtyW * 4))[x]? =
      some (req.pixels.getD (row * req.stride + x) 0) := by
  have hstride := hwf.stride
  have hinside : row * req.stride + x < req.pixels.length := by
    have hfits := row_fits (h := req.dirtyH) (w := req.stride) hrow (by omega : x < req.stride)
    rwa [hwf.payload, Nat.mul_comm req.stride]
  rw [List.getElem?_take_of_lt hx, List.getElem?_drop, List.getElem?_eq_getElem hinside,
    List.getD_eq_getElem _ _ hinside]

theorem length_row (hwf : req.WellFormed) {row : Nat} (hrow : row < req.dirtyH) :
    ((req.pixels.drop (row * req.stride)).take (req.dirtyW * 4)).length = req.dirtyW * 4 := by
  have hstride := hwf.stride
  have hnext : (row + 1) * req.stride ≤ req.dirtyH * req.stride := Nat.mul_le_mul_right _ hrow
  rw [Nat.succ_mul] at hnext
  rw [List.length_take, List.length_drop, hwf.payload, Nat.mul_comm req.stride]
  omega

/-- A paint lays its rectangle over what the buffer shows. -/
theorem Shows.paint (hshows : c.Shows p) (hwf : req.WellFormed) :
    (c.paint req).Shows (p.overlay req) := by
  have hbase := hshows.paintBase req
  have hsize := p.size_sized req.srcW req.srcH
  have hwidth := hwf.width
  have hbytes : (c.paint req).bgra = blitRows (req.srcW * 4) (req.dirtyX * 4) req.dirtyY
      (fun row => (req.pixels.drop (row * req.stride)).take (req.dirtyW * 4)) req.dirtyH
      (c.paintBase req).bgra := rfl
  refine ⟨hbase.w.trans hsize.1, hbase.h.trans hsize.2, ?_, fun y x hy hx => ?_⟩
  · rw [hbytes, length_blitRows, hbase.length, hsize.1, hsize.2]
    rfl
  · have hlength := hbase.length
    have hbyte := hbase.byte y x
    rw [hsize.1, hsize.2] at hlength hbyte
    have hplace : y * (req.srcW * 4) + x < (c.paintBase req).bgra.length := by
      rw [hlength]
      exact row_fits hy hx
    have hcolumn : req.dirtyX * 4 + req.dirtyW * 4 ≤ req.srcW * 4 := by omega
    have hread := blitRows_getElem? req.dirtyY hcolumn
      (fun row (hrow : row < req.dirtyH) => length_row hwf hrow) hx hplace
    rw [hbytes]
    refine hread.trans ?_
    rw [Picture.overlay]
    dsimp only
    by_cases hinside : Picture.Inside req y x
    · rw [if_pos hinside]
      obtain ⟨htop, hbottom, hleft, hright⟩ := hinside
      rw [if_pos ⟨htop, hbottom, hleft, hright⟩, getElem?_row hwf (by omega) (by omega)]
    · rw [if_neg hinside]
      exact (if_neg hinside).trans (hbyte hy hx)

end MockChrome

/-! ## Runs -/

def paintsOf (xid : Nat) (log : List Event) : List SidecarPaintChromeRequest :=
  log.filterMap fun
    | .painted req => if req.xid = xid then some req else none
    | _ => none

theorem paintsOf_about (xid : Nat) (log : List Event) :
    paintsOf xid (about xid log) = paintsOf xid log := by
  rw [about, paintsOf, List.filterMap_filter]
  refine List.filterMap_congr fun event _ => ?_
  cases event with
  | painted req => by_cases hxid : req.xid = xid <;> simp [Event.window, hxid]
  | _ => simp

/-- The chrome of a window is that of the paints: none before the first. -/
structure ChromeOf (chrome : Option MockChrome) (paints : List SidecarPaintChromeRequest) :
    Prop where
  none_iff : chrome = none ↔ paints = []
  shows : (chrome.getD {}).Shows (Picture.ofPaints paints)

theorem chromeOf_nil : ChromeOf none [] := ⟨by simp, MockChrome.shows_empty⟩

theorem ChromeOf.paint {chrome : Option MockChrome} {paints : List SidecarPaintChromeRequest}
    (hchrome : ChromeOf chrome paints) {req : SidecarPaintChromeRequest} (hwf : req.WellFormed) :
    ChromeOf (some ((chrome.getD {}).paint req)) (paints ++ [req]) := by
  refine ⟨by simp, ?_⟩
  rw [Picture.ofPaints, List.foldl_append]
  exact hchrome.shows.paint hwf

/-- The paints of a window since its placeholder was opened, in order. -/
def PaintedSince (log : List Event) (xid : Nat) (paints : List SidecarPaintChromeRequest) : Prop :=
  ∃ earlier later, log = earlier ++ .opened xid :: later ∧ .opened xid ∉ later ∧
    paintsOf xid later = paints

theorem PaintedSince.append {log events : List Event} {xid : Nat}
    {paints : List SidecarPaintChromeRequest} (hsince : PaintedSince log xid paints)
    (hkept : .opened xid ∉ events) :
    PaintedSince (log ++ events) xid (paints ++ paintsOf xid events) := by
  obtain ⟨earlier, later, rfl, hlater, rfl⟩ := hsince
  refine ⟨earlier, later ++ events, by simp, by simp [hlater, hkept], ?_⟩
  exact List.filterMap_append

/-- A live placeholder has the chrome of the paints accepted since it was opened, whose numbers
rise to the last one the entry has seen; nothing else has chrome. -/
structure Shown (log : List Event) (xid : Nat) (w : Window) : Prop where
  placeholder : ∀ e, w.entry = some e → e.representation = .placeholder →
    ∃ paints, PaintedSince log xid paints ∧ ChromeOf w.chrome paints ∧
      paints.Pairwise (·.seq < ·.seq) ∧ ∀ req ∈ paints, req.seq ≤ e.lastPaintSeq
  other : ¬ w.Placeholder → w.chrome = none

section Turns

variable {log events : List Event} {xid : Nat} {w next : Window}

/-- A turn that neither opens nor paints, and keeps the chrome of what stays a placeholder. -/
theorem Shown.silent (hshown : Shown log xid w) (hopened : .opened xid ∉ about xid events)
    (hpaints : paintsOf xid (about xid events) = []) (hchrome : next.chrome = w.chrome)
    (hentry : ∀ e', next.entry = some e' → e'.representation = .placeholder →
      ∃ e, w.entry = some e ∧ e.representation = .placeholder ∧ e.lastPaintSeq = e'.lastPaintSeq)
    (hother : ¬ next.Placeholder → ¬ w.Placeholder) : Shown (log ++ events) xid next := by
  constructor
  · intro e' hnow hrep
    obtain ⟨e, hbefore, hwas, hseq⟩ := hentry e' hnow hrep
    obtain ⟨paints, hsince, hshows, hrising, hlast⟩ := hshown.placeholder e hbefore hwas
    rw [paintsOf_about] at hpaints
    have hafter := hsince.append fun h => hopened (mem_about.mpr ⟨h, rfl⟩)
    rw [hpaints, List.append_nil] at hafter
    exact ⟨paints, hafter, hchrome ▸ hshows, hrising, hseq ▸ hlast⟩
  · intro hnot
    rw [hchrome]
    exact hshown.other (hother hnot)

/-- A turn that replaces the entry by one with the same representation. -/
theorem Shown.reentered (hshown : Shown log xid w) (hopened : .opened xid ∉ about xid events)
    (hpaints : paintsOf xid (about xid events) = []) {e e' : Entry} (hentry : w.entry = some e)
    (hrep : e'.representation = e.representation) (hseq : e'.lastPaintSeq = e.lastPaintSeq) :
    Shown (log ++ events) xid { w with entry := some e' } := by
  refine hshown.silent hopened hpaints rfl ?_ ?_
  · rintro next ⟨⟩ hplaceholder
    exact ⟨e, hentry, hrep ▸ hplaceholder, hseq.symm⟩
  · rintro hnot ⟨old, hold, hplaceholder⟩
    cases hentry.symm.trans hold
    exact hnot ⟨e', rfl, hrep.trans hplaceholder⟩

theorem Shown.of_none (hnow : ¬ next.Placeholder) (hchrome : next.chrome = none) :
    Shown log xid next :=
  ⟨fun e hentry hrep => absurd ⟨e, hentry, hrep⟩ hnow, fun _ => hchrome⟩

theorem paintedSince_opened (hseen : about xid events = [.opened xid, .registered xid]) :
    PaintedSince (log ++ events) xid [] := by
  obtain ⟨first, last, rfl, -, -, hlast⟩ := List.filter_eq_cons_iff.mp hseen
  change about xid last = [.registered xid] at hlast
  refine ⟨log ++ first, last, by simp, fun hmem => ?_, ?_⟩
  · have hin := mem_about.mpr ⟨hmem, (rfl : (Event.opened xid).window = some xid)⟩
    simp [hlast] at hin
  · rw [← paintsOf_about, hlast]
    rfl

theorem Shown.turn (hshown : Shown log xid w) (hturn : Turn xid w next (about xid events)) :
    Shown (log ++ events) xid next := by
  have hsilent := @Shown.silent log events xid w next hshown
  have hreentered := @Shown.reentered log events xid w hshown
  have hopens := @paintedSince_opened log events xid
  have hpaints : ∀ req : SidecarPaintChromeRequest, req.xid = xid →
      about xid events = [.painted req] → paintsOf xid events = [req] := by
    intro req hxid hseen
    rw [← paintsOf_about, hseen]
    simp [paintsOf, hxid]
  have hnotOpened : ∀ req, about xid events = [.painted req] → .opened xid ∉ events := by
    intro req hseen hmem
    have hin := mem_about.mpr ⟨hmem, (rfl : (Event.opened xid).window = some xid)⟩
    simp [hseen] at hin
  generalize about xid events = seen at hturn hsilent hreentered hopens hpaints hnotOpened
  cases hturn with
  | still | cursorSet => exact hsilent (by simp) rfl rfl (fun e h hrep => ⟨e, h, hrep, rfl⟩) id
  | tended hentry hrep _ hseq | registered hentry hrep _ hseq =>
    exact hreentered (by simp) rfl hentry hrep hseq
  | rehosted hwas hnow _ hchrome => exact .of_none hnow (hchrome.trans (hshown.other hwas))
  | promoted hnow _ hchrome => exact .of_none hnow hchrome
  | opened hwas hrep _ hseq =>
    refine ⟨?_, fun hnot => absurd ⟨_, rfl, hrep⟩ hnot⟩
    rintro e' ⟨⟩ -
    refine ⟨[], hopens rfl, ?_, .nil, by simp⟩
    rw [hshown.other hwas]
    exact chromeOf_nil
  | unregistered hnow _ hchrome =>
    refine .of_none hnow ?_
    rcases hchrome with hnone | ⟨hwas, hsame⟩
    · exact hnone
    · exact hsame.trans (hshown.other hwas)
  | closed => exact .of_none (by simp) rfl
  | abandoned hwas => exact .of_none (by simp) (hshown.other hwas)
  | @painted e req hentry hrep hxid _ hseq hwf =>
    refine ⟨?_, fun hnot => absurd ⟨_, rfl, hrep⟩ hnot⟩
    rintro e' ⟨⟩ -
    obtain ⟨paints, hsince, hchrome, hrising, hlast⟩ := hshown.placeholder e hentry hrep
    have hafter := hsince.append (hnotOpened req rfl)
    rw [hpaints req hxid rfl] at hafter
    have hbelow : ∀ earlier ∈ paints, earlier.seq < req.seq :=
      fun earlier hmem => (hlast earlier hmem).trans_lt hseq
    refine ⟨paints ++ [req], hafter, hchrome.paint hwf, ?_, ?_⟩
    · exact List.pairwise_append.mpr ⟨hrising, by simp, by simpa using hbelow⟩
    · intro other hmem
      rcases List.mem_append.mp hmem with hmem | hmem
      · exact (hbelow other hmem).le
      · cases List.mem_singleton.mp hmem
        exact le_rfl

end Turns

theorem shown_historyOf (ops : List Op) : (historyOf ops).state.Sound ∧
      ∀ xid, Shown (historyOf ops).log xid ((historyOf ops).state.window xid) := by
  refine History.invariant MockBackend.step
    (P := fun h => h.state.Sound ∧ ∀ xid, Shown h.log xid (h.state.window xid)) ?_ ?_ ops
  · rintro h op ⟨hsound, hshown⟩
    exact ⟨hsound.step op, fun xid => (hshown xid).turn (MockBackend.turn_step hsound op xid)⟩
  · refine ⟨.start, fun xid => .of_none ?_ ?_⟩
    · simp [Window.Placeholder, MockBackend.window]
    · simp [MockBackend.window]

/-- Whatever the store holds for a window has the bytes of its size. -/
theorem length_paintBase (ops : List Op) (req : SidecarPaintChromeRequest) :
    (((historyOf ops).state.chrome.getD req.xid {}).paintBase req).bgra.length =
      req.srcH * (req.srcW * 4) := by
  have hshown := (shown_historyOf ops).2 req.xid
  have hshows : ∃ p, ((historyOf ops).state.chrome[req.xid]?.getD {}).Shows p := by
    by_cases hplaceholder : ((historyOf ops).state.window req.xid).Placeholder
    · obtain ⟨e, hentry, hrep⟩ := hplaceholder
      obtain ⟨paints, -, hchrome, -⟩ := hshown.placeholder e hentry hrep
      exact ⟨_, hchrome.shows⟩
    · have hnone : (historyOf ops).state.chrome[req.xid]? = none := hshown.other hplaceholder
      rw [hnone]
      exact ⟨_, MockChrome.shows_empty⟩
  obtain ⟨p, hp⟩ := hshows
  rw [Std.ExtTreeMap.getD_eq_getD_getElem?, (hp.paintBase req).length,
    (p.size_sized req.srcW req.srcH).1, (p.size_sized req.srcW req.srcH).2]

/-- A paint is logged exactly when it is accepted. -/
theorem accepted_of_painted {m : MockBackend} {body : Bytes} {req : SidecarPaintChromeRequest}
    (hpainted : .painted req ∈ (m.step (.paintChrome body)).2) :
    ∃ e, m.registry.entries[req.xid]? = some e ∧ e.representation = .placeholder ∧
      req.lifecycleGeneration = e.generation ∧ e.lastPaintSeq < req.seq := by
  simp only [MockBackend.step] at hpainted
  split at hpainted
  · cases hpainted
  · rw [MockBackend.paintChrome] at hpainted
    split at hpainted
    · rename_i decoded _ haccept
      obtain rfl : req = decoded := by simpa using hpainted
      rw [MockBackend.acceptPlaceholderPaint] at haccept
      split at haccept
      · cases haccept
      · rename_i e hentry
        exact ⟨e, hentry, by simpa using haccept⟩
    · cases hpainted

/-- Chrome painting is exact. The rows of a decoded paint lie in its payload and in the buffer
it is painted on; no body that is accepted is part of another; and in every state of a run the
chrome of a live placeholder is the picture of the paints accepted since it was opened, each of
the entry's generation at its time and newer than those before it. -/
theorem chrome_painting_exact :
    (∀ (body : Bytes) (req : SidecarPaintChromeRequest),
      SidecarPaintChromeRequest.fromWire body = .ok req →
      (∀ ops row, row < req.dirtyH →
        row * req.stride + req.dirtyW * 4 ≤ req.pixels.length ∧
          (req.dirtyY + row) * (req.srcW * 4) + req.dirtyX * 4 + req.dirtyW * 4 ≤
            (((historyOf ops).state.chrome.getD req.xid {}).paintBase req).bgra.length) ∧
      (∀ extra, extra ≠ [] →
        ∃ message, SidecarPaintChromeRequest.fromWire (body ++ extra) = .error message) ∧
      ∀ front rest, body = front ++ rest → rest ≠ [] →
        ∃ message, SidecarPaintChromeRequest.fromWire front = .error message) ∧
    (∀ (ops : List Op) (xid : Nat) (e : Entry),
      (historyOf ops).state.registry.entries[xid]? = some e → e.representation = .placeholder →
      ∃ paints, PaintedSince (historyOf ops).log xid paints ∧
        ChromeOf (historyOf ops).state.chrome[xid]? paints ∧ paints.Pairwise (·.seq < ·.seq)) ∧
    ∀ (ops : List Op) (body : Bytes) (req : SidecarPaintChromeRequest),
      .painted req ∈ ((historyOf ops).state.step (.paintChrome body)).2 →
      ∃ e paints, (historyOf ops).state.registry.entries[req.xid]? = some e ∧
        req.lifecycleGeneration = e.generation ∧
        PaintedSince (historyOf ops).log req.xid paints ∧
        ∀ earlier ∈ paints, earlier.seq < req.seq := by
  refine ⟨fun body req hdecode => ⟨fun ops row hrow => ?_, fun extra hextra => ?_,
    fun front rest hbody hrest => ?_⟩, fun ops xid e hentry hrep => ?_,
    fun ops body req hpainted => ?_⟩
  · have hwf := SidecarPaintChromeRequest.wellFormed_of_fromWire hdecode
    have hstride := hwf.stride
    have hwidth := hwf.width
    have hheight := hwf.height
    have hsource : (row + 1) * req.stride ≤ req.dirtyH * req.stride :=
      Nat.mul_le_mul_right _ hrow
    have htarget : (req.dirtyY + row + 1) * (req.srcW * 4) ≤ req.srcH * (req.srcW * 4) :=
      Nat.mul_le_mul_right _ (by omega)
    rw [Nat.succ_mul] at hsource htarget
    rw [length_paintBase, hwf.payload, Nat.mul_comm req.stride]
    constructor
    · omega
    · omega
  · cases hlong : SidecarPaintChromeRequest.fromWire (body ++ extra) with
    | error message => exact ⟨message, rfl⟩
    | ok other => exact absurd (SidecarPaintChromeRequest.fromWire_append hdecode hlong) hextra
  · cases hshort : SidecarPaintChromeRequest.fromWire front with
    | error message => exact ⟨message, rfl⟩
    | ok other =>
      rw [hbody] at hdecode
      exact absurd (SidecarPaintChromeRequest.fromWire_append hshort hdecode) hrest
  · obtain ⟨paints, hsince, hchrome, hrising, -⟩ :=
      ((shown_historyOf ops).2 xid).placeholder e hentry hrep
    exact ⟨paints, hsince, hchrome, hrising⟩
  · obtain ⟨e, hentry, hrep, hgeneration, hseq⟩ := accepted_of_painted hpainted
    obtain ⟨paints, hsince, -, -, hlast⟩ :=
      ((shown_historyOf ops).2 req.xid).placeholder e hentry hrep
    exact ⟨e, paints, hentry, hgeneration, hsince,
      fun earlier hmem => (hlast earlier hmem).trans_lt hseq⟩

/-- The body of a one-pixel paint for the first registration of window 6. -/
def paintBody : Bytes :=
  let header := ascii ("\x7b\"xid\":\"6\",\"lifecycle_generation\":\"1\",\"seq\":\"1\"," ++
    "\"src_w\":\"1\",\"src_h\":\"1\",\"dirty_w\":\"1\",\"dirty_h\":\"1\",\"stride\":\"4\"," ++
    "\"format\":1,\"payload_size\":\"4\"\x7d")
  storeLe32 header.length ++ header ++ [1, 2, 3, 255]

example : (historyOf [.registerToplevel 6 1 {}, .paintChrome paintBody]).state.chrome[6]? =
    some { w := 1, h := 1, bgra := [1, 2, 3, 255] } := by decide +kernel

end VkRelay.Sidecar
