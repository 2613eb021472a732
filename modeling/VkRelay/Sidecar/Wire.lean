import VkRelay.Lib.Check
import VkRelay.Wire.Record

/-!
The binary bodies of the sidecar plane: a chrome paint and a cursor. Each is a length word, a
JSON header and the pixels as the tail. The sizes are read wide and bounded before any of them
is used, so that every row a paint names lies in its payload and in the window it paints.
-/

namespace VkRelay.Sidecar

open VkRelay.Lib VkRelay.Json VkRelay.Wire

def kMaxAuxChromeBackingStoreBytes : Nat := 96 * 1024 * 1024

def kMaxAuxChromeJsonHeaderBytes : Nat := 4096

def kMaxAuxChromeWirePayloadBytes : Nat := kMaxFrameBytes - kMaxAuxChromeJsonHeaderBytes - 1024

def kAuxChromeFormatBgra8 : Int := 1

def kAuxChromeBytesPerPixel : Nat := 4

def kMaxCursorDim : Nat := 256

def kMaxCursorPayloadBytes : Nat := kMaxCursorDim * kMaxCursorDim * 4

def kMaxCursorJsonHeaderBytes : Nat := 1024

def kCursorFormatBgra8 : Int := 1

def kIntMax : Nat := 0x7FFFFFFF

/-- The whole number a member carries, at full width. -/
def getI64 (obj : Value) (key : Bytes) (fallback : Int) : Int :=
  match obj.find key with
  | some (.number q) => if q.den = 1 then Record.asInt q else fallback
  | _ => fallback

def openBody (label : String) (cap : Nat) (body : Bytes) : Except String (Value × Bytes) := do
  rejectIf (body.length < 4) (label ++ " body shorter than 4-byte length prefix")
  rejectIf (loadLe32 body > cap) (label ++ " json header exceeds cap")
  rejectIf (4 + loadLe32 body > body.length) (label ++ " json header runs past end of body")
  match parseDocument ((body.drop 4).take (loadLe32 body)) with
  | .error failure => .error (label ++ " json header parse: " ++ failureText failure)
  | .ok header => .ok (header, body.drop (4 + loadLe32 body))

/-! ## Requests -/

structure SidecarPaintChromeRequest where
  xid : Nat := 0
  lifecycleGeneration : Nat := 0
  seq : Nat := 0
  srcW : Nat := 0
  srcH : Nat := 0
  dirtyX : Nat := 0
  dirtyY : Nat := 0
  dirtyW : Nat := 0
  dirtyH : Nat := 0
  stride : Nat := 0
  pixels : Bytes := []
deriving DecidableEq

/-- The request under a header, whose checks no sum or product overflows. -/
def SidecarPaintChromeRequest.fromHeader (h : Value) (tail : Bytes) :
    Except String SidecarPaintChromeRequest := do
  let dirtyX := getI64 h (ascii "dirty_x") 0
  let dirtyY := getI64 h (ascii "dirty_y") 0
  rejectIf (dirtyX < 0 ∨ dirtyX > kIntMax ∨ dirtyY < 0 ∨ dirtyY > kIntMax)
    "paint_chrome dirty origin out of range"
  let srcW := getHandle h (ascii "src_w")
  let srcH := getHandle h (ascii "src_h")
  let dirtyW := getHandle h (ascii "dirty_w")
  let dirtyH := getHandle h (ascii "dirty_h")
  let stride := getHandle h (ascii "stride")
  let payloadSize := getHandle h (ascii "payload_size")
  rejectIf (Record.getIntField h (ascii "format") 0 ≠ kAuxChromeFormatBgra8)
    "paint_chrome unknown pixel format"
  rejectIf (srcW = 0 ∨ srcH = 0 ∨ dirtyW = 0 ∨ dirtyH = 0) "paint_chrome zero dimension"
  rejectIf (srcW > kIntMax ∨ srcH > kIntMax ∨ dirtyW > kIntMax ∨ dirtyH > kIntMax ∨
      stride > kIntMax)
    "paint_chrome dimension exceeds INT_MAX"
  rejectIf (srcW * srcH > kMaxAuxChromeBackingStoreBytes / kAuxChromeBytesPerPixel)
    "paint_chrome source backing store exceeds the cap"
  rejectIf (dirtyX.toNat + dirtyW > srcW ∨ dirtyY.toNat + dirtyH > srcH)
    "paint_chrome dirty rect outside source"
  rejectIf (stride < dirtyW * kAuxChromeBytesPerPixel)
    "paint_chrome stride smaller than a dirty row"
  rejectIf (payloadSize > kMaxAuxChromeWirePayloadBytes)
    "paint_chrome payload exceeds the per-frame wire cap"
  rejectIf (payloadSize ≠ stride * dirtyH)
    "paint_chrome payload_size does not match stride * dirty_h"
  rejectIf (tail.length ≠ payloadSize) "paint_chrome tail length does not match payload_size"
  return {
    xid := getHandle h (ascii "xid")
    lifecycleGeneration := getHandle h (ascii "lifecycle_generation")
    seq := getHandle h (ascii "seq")
    srcW, srcH, dirtyX := dirtyX.toNat, dirtyY := dirtyY.toNat, dirtyW, dirtyH, stride
    pixels := tail }

def SidecarPaintChromeRequest.fromWire (body : Bytes) :
    Except String SidecarPaintChromeRequest := do
  let (h, tail) ← openBody "paint_chrome" kMaxAuxChromeJsonHeaderBytes body
  fromHeader h tail

structure SidecarSetCursorRequest where
  xid : Nat := 0
  epoch : Nat := 0
  width : Nat := 0
  height : Nat := 0
  xhot : Nat := 0
  yhot : Nat := 0
  pixels : Bytes := []
deriving DecidableEq

def SidecarSetCursorRequest.fromHeader (h : Value) (tail : Bytes) :
    Except String SidecarSetCursorRequest := do
  let width := getHandle h (ascii "width")
  let height := getHandle h (ascii "height")
  let xhot := getI64 h (ascii "xhot") 0
  let yhot := getI64 h (ascii "yhot") 0
  let payloadSize := getHandle h (ascii "payload_size")
  rejectIf (Record.getIntField h (ascii "format") 0 ≠ kCursorFormatBgra8)
    "set_cursor unknown pixel format"
  rejectIf (width = 0 ∨ height = 0) "set_cursor zero dimension"
  rejectIf (width > kMaxCursorDim ∨ height > kMaxCursorDim) "set_cursor dimension exceeds the cap"
  rejectIf (xhot < 0 ∨ xhot ≥ width ∨ yhot < 0 ∨ yhot ≥ height) "set_cursor hotspot out of range"
  rejectIf (payloadSize ≠ width * height * 4)
    "set_cursor payload_size does not match width*height*4"
  rejectIf (payloadSize > kMaxCursorPayloadBytes) "set_cursor payload exceeds the cap"
  rejectIf (tail.length ≠ payloadSize) "set_cursor tail length does not match payload_size"
  return {
    xid := getHandle h (ascii "xid"), epoch := getHandle h (ascii "epoch")
    width, height, xhot := xhot.toNat, yhot := yhot.toNat, pixels := tail }

def SidecarSetCursorRequest.fromWire (body : Bytes) : Except String SidecarSetCursorRequest := do
  let (h, tail) ← openBody "set_cursor" kMaxCursorJsonHeaderBytes body
  fromHeader h tail

/-! ## What a decoded body is -/

theorem openBody_eq_ok {label : String} {cap : Nat} {body tail : Bytes} {h : Value} :
    openBody label cap body = .ok (h, tail) ↔
      4 ≤ body.length ∧ loadLe32 body ≤ cap ∧ 4 + loadLe32 body ≤ body.length ∧
        parseDocument ((body.drop 4).take (loadLe32 body)) = .ok h ∧
        tail = body.drop (4 + loadLe32 body) := by
  simp only [openBody, accept_rules, not_lt]
  cases parseDocument ((body.drop 4).take (loadLe32 body)) with
  | error failure => simp
  | ok header => simp [eq_comm]

theorem openBody_append {label : String} {cap : Nat} {body tail : Bytes} {h : Value}
    (hopen : openBody label cap body = .ok (h, tail)) (extra : Bytes) :
    openBody label cap (body ++ extra) = .ok (h, tail ++ extra) := by
  obtain ⟨hword, hcap, hfits, hheader, rfl⟩ := openBody_eq_ok.mp hopen
  have hload : loadLe32 (body ++ extra) = loadLe32 body := by
    rw [loadLe32, loadLe32, List.take_append_of_le_length hword]
  rw [openBody_eq_ok, hload, List.length_append]
  refine ⟨by omega, hcap, by omega, ?_, (List.drop_append_of_le_length hfits).symm⟩
  rwa [List.drop_append_of_le_length hword, List.take_append_of_le_length]
  rw [List.length_drop]
  omega

namespace SidecarPaintChromeRequest

/-- The rectangle lies in the source, a row of the payload holds a row of the rectangle, and the
source fits the backing store. -/
structure WellFormed (req : SidecarPaintChromeRequest) : Prop where
  width : req.dirtyX + req.dirtyW ≤ req.srcW
  height : req.dirtyY + req.dirtyH ≤ req.srcH
  some_width : 0 < req.dirtyW
  some_height : 0 < req.dirtyH
  stride : req.dirtyW * 4 ≤ req.stride
  payload : req.pixels.length = req.stride * req.dirtyH
  store : req.srcW * req.srcH * 4 ≤ kMaxAuxChromeBackingStoreBytes

theorem fromHeader_eq_ok {h : Value} {tail : Bytes} {req : SidecarPaintChromeRequest}
    (hdecode : fromHeader h tail = .ok req) :
    req.WellFormed ∧ tail.length = getHandle h (ascii "payload_size") := by
  simp only [fromHeader, accept_rules, not_or, not_lt, ne_eq, not_not] at hdecode
  obtain ⟨-, -, -, -, -, hsome, -, -, -, hstore, -, hrect, -, hstride, -, -, -, hpayload, -,
    htail, rfl⟩ := hdecode
  rw [kMaxAuxChromeBackingStoreBytes, kAuxChromeBytesPerPixel] at hstore
  refine ⟨⟨hrect.1, hrect.2, Nat.pos_of_ne_zero hsome.2.2.1, Nat.pos_of_ne_zero hsome.2.2.2,
    hstride, htail.trans hpayload, ?_⟩, htail⟩
  rw [kMaxAuxChromeBackingStoreBytes]
  dsimp only
  omega

variable {body : Bytes} {req : SidecarPaintChromeRequest}

theorem fromWire_eq_ok : fromWire body = .ok req ↔ ∃ h tail,
      openBody "paint_chrome" kMaxAuxChromeJsonHeaderBytes body = .ok (h, tail) ∧
        fromHeader h tail = .ok req := by
  simp only [fromWire, ok_rules, Prod.exists]

theorem wellFormed_of_fromWire (hdecode : fromWire body = .ok req) : req.WellFormed := by
  obtain ⟨h, tail, -, hheader⟩ := fromWire_eq_ok.mp hdecode
  exact (fromHeader_eq_ok hheader).1

/-- Of a body and a longer one that starts with it, at most one is accepted. -/
theorem fromWire_append {body extra : Bytes} {req other : SidecarPaintChromeRequest}
    (hshort : fromWire body = .ok req) (hlong : fromWire (body ++ extra) = .ok other) :
    extra = [] := by
  obtain ⟨h, tail, hopen, hheader⟩ := fromWire_eq_ok.mp hshort
  obtain ⟨h', tail', hopen', hheader'⟩ := fromWire_eq_ok.mp hlong
  rw [openBody_append hopen extra] at hopen'
  obtain ⟨rfl, rfl⟩ := Prod.mk.inj (Except.ok.inj hopen')
  have hsame := (fromHeader_eq_ok hheader').2.trans (fromHeader_eq_ok hheader).2.symm
  rw [List.length_append] at hsame
  exact List.eq_nil_of_length_eq_zero (by omega)

end SidecarPaintChromeRequest

end VkRelay.Sidecar
