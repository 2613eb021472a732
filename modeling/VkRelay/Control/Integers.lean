import VkRelay.Control.Handshake

/-!
The integers of the JSON bodies of the control, worker-control and sidecar planes. Most are read
through `get_int`, which cuts a 64-bit integer to 32 bits before anything has checked its range;
only the fields of a display layout are checked first. A field keeps its integer exactly when it
fits the field, and the handshake and the readiness of the sidecar accept integers that do not.
-/

namespace VkRelay.Control

open VkRelay.Lib VkRelay.Json VkRelay.Wire VkRelay.Wire.Record VkRelay.Display

/-! ## The fields -/

def getUInt32 (obj : Value) (key : String) : UInt32 := UInt32.ofInt (getInt obj key 0)

/-- `exact_i32` and `exact_u32`: the integer of a field, refused outside the range. -/
def exact (low high : Int) (range : String) (obj : Value) (name : String) : Except Bytes Int :=
  match (obj.find (ascii name)).filter Value.isInteger with
  | some (.number q) =>
    if asInt q < low ∨ asInt q > high then
      .error (ascii ("display layout field '" ++ name ++ "' exceeds " ++ range ++ " range"))
    else .ok (asInt q)
  | _ => .error (ascii ("display layout field '" ++ name ++ "' is not an integer"))

inductive Cast where
  | int
  /-- `get_int`, then to unsigned. -/
  | unsigned
  | wide
  /-- `get_i64`, then to unsigned. -/
  | wideUnsigned
  /-- `exact_i32` and `exact_u32`: the body is refused outside the range. -/
  | ranged (low high : Int) (range : String)
  /-- The body is refused with any other integer. -/
  | only (version : Int)

structure IntField where
  key : String
  cast : Cast := .int

/-- The decoded field, where the body is not refused. A missing field gives zero. -/
def IntField.read (f : IntField) (obj : Value) : Option Int :=
  match f.cast with
  | .int => some (getInt obj f.key 0)
  | .unsigned => some (getUInt32 obj f.key).toNat
  | .wide => some (getI64 obj f.key 0)
  | .wideUnsigned => some (UInt32.ofInt (getI64 obj f.key 0)).toNat
  | .ranged low high range => (exact low high range obj f.key).toOption
  | .only version => (exact version version "" obj f.key).toOption

/-- The bodies, and the objects in them, that a decoder reads integers from. -/
inductive BodyKind where
  | clientHello | serverHello | sessionStarted | gpuDevice
  | workerHello | heartbeat
  | sidecarHello | negotiateRequest | negotiateResponse | readyRequest
  | registerToplevel | updateToplevel | setVisibility
  | debugChromeStateRequest | inputEvent | debugEnqueueInputResponse
  | debugCursorStateRequest | debugCursorStateResponse | windowInfo
  | displayLayout | displayRect | displayMonitor
deriving DecidableEq

def ints (keys : List String) : List IntField := keys.map fun key => { key }

def unsigneds (keys : List String) : List IntField := keys.map fun key => ⟨key, .unsigned⟩

def BodyKind.fields : BodyKind → List IntField
  | .clientHello | .sidecarHello | .negotiateRequest | .negotiateResponse =>
    ints ["protocol_version"]
  | .serverHello => ints ["protocol_version", "host_work_w", "host_work_h", "host_dpi"]
  | .sessionStarted | .workerHello => ints ["data_plane_port", "sidecar_plane_port"]
  | .gpuDevice =>
    ints ["index"] ++ [⟨"vendor_id", .wideUnsigned⟩, ⟨"device_id", .wideUnsigned⟩]
  | .heartbeat => [⟨"seq", .wide⟩]
  | .readyRequest =>
    ints ["scan_generation", "initial_toplevels"] ++ unsigneds ["root_width", "root_height"]
  | .registerToplevel => ints ["x", "y"] ++ unsigneds ["width", "height", "popup_kind"]
  | .updateToplevel => ints ["x", "y"] ++ unsigneds ["width", "height", "z_order"]
  | .setVisibility => unsigneds ["visibility_state"]
  | .debugChromeStateRequest | .debugCursorStateRequest => ints ["sample_x", "sample_y"]
  | .inputEvent =>
    ints ["client_x", "client_y", "button", "wheel", "vk", "scancode", "root_x", "root_y"] ++
      unsigneds ["kind", "modifiers", "req_w", "req_h", "host_request"]
  | .debugEnqueueInputResponse => ints ["enqueued"]
  | .debugCursorStateResponse => ints ["xhot", "yhot"]
  | .windowInfo =>
    ints ["x", "y", "actual_x", "actual_y", "frame_x", "frame_y"] ++
      unsigneds ["width", "height", "popup_kind", "z_order", "visibility_state", "actual_width",
        "actual_height", "frame_width", "frame_height"]
  | .displayLayout => [⟨"schema_version", .only kDisplayLayoutSchemaVersion.toNat⟩]
  | .displayRect =>
    ["x", "y", "width", "height"].map fun key => ⟨key, .ranged i32Min i32Max "signed-32"⟩
  | .displayMonitor =>
    ["dpi_x", "dpi_y"].map fun key => ⟨key, .ranged 0 (2 ^ 32 - 1) "unsigned-32"⟩

/-! ## The readiness of the sidecar -/

structure GuestDisplayState where
  snapshotId : Bytes
  actualRootWidth : UInt32
  actualRootHeight : UInt32

/-- The output model is a valid one by its type. -/
def validateGuestDisplayState (state : GuestDisplayState) : Except Bytes Unit :=
  if !boundedString state.snapshotId kMaxSnapshotIdBytes false then
    .error (ascii "guest display snapshot_id is empty or exceeds 128 bytes")
  else if state.actualRootWidth = 0 ∨ state.actualRootHeight = 0 then
    .error (ascii "guest display root dimensions must be positive")
  else if state.actualRootWidth > 16384 ∨ state.actualRootHeight > 16384 then
    .error (ascii "guest display axis cap exceeded (maximum: 16384 physical pixels)")
  else if state.actualRootWidth.toNat * state.actualRootHeight.toNat > kMaxVirtualDisplayPixels then
    .error (ascii "guest display area cap exceeded (maximum: 67108864 physical pixels)")
  else .ok ()

def validateGuestDisplayStateAgainstLayout (state : GuestDisplayState) (layout : DisplayLayout) :
    Except Bytes Unit :=
  match validateDisplayLayout layout with
  | .error reason => .error (ascii "pinned display layout is invalid: " ++ reason)
  | .ok () => do
    validateGuestDisplayState state
    if state.snapshotId ≠ layout.snapshotId then
      .error (ascii "sidecar display snapshot ID does not match the worker session snapshot")
    else if state.actualRootWidth ≠ UInt32.ofInt layout.virtualBounds.width.toInt ∨
        state.actualRootHeight ≠ UInt32.ofInt layout.virtualBounds.height.toInt then
      .error (ascii "observed guest root dimensions do not match the pinned virtual bounds")
    else .ok ()

structure SidecarReadyRequest where
  scanGeneration : Int
  hasXcomposite : Bool
  hasXtest : Bool
  hasXfixes : Bool
  initialToplevels : Int
  rootWidth : UInt32
  rootHeight : UInt32
  displaySnapshotId : Bytes

def SidecarReadyRequest.fromBody (body : Value) : SidecarReadyRequest where
  scanGeneration := getInt body "scan_generation" 0
  hasXcomposite := getBool body "has_xcomposite"
  hasXtest := getBool body "has_xtest"
  hasXfixes := getBool body "has_xfixes"
  initialToplevels := getInt body "initial_toplevels" 0
  rootWidth := getUInt32 body "root_width"
  rootHeight := getUInt32 body "root_height"
  displaySnapshotId := getString body "display_snapshot_id" ""

/-- The verdict on a sidecar that reports itself ready, under the layout the session is pinned
to. -/
def sidecarReady (displayLayout : Option DisplayLayout) (req : SidecarReadyRequest) :
    Except Bytes Unit :=
  match displayLayout with
  | none => .ok ()
  | some layout =>
    validateGuestDisplayStateAgainstLayout ⟨req.displaySnapshotId, req.rootWidth, req.rootHeight⟩
      layout

/-! ## What a field makes of the integer it is sent -/

def carried (obj : Value) (key : String) : Option Int :=
  match obj.find (ascii key) with
  | some (.number q) => if q.den = 1 then some q.num else none
  | _ => none

def Cast.narrow (n : Int) : Cast → Option Int
  | .int => some (n.bmod (2 ^ 32))
  | .unsigned => some (UInt32.ofInt (n.bmod (2 ^ 32))).toNat
  | .wide => some n
  | .wideUnsigned => some (UInt32.ofInt n).toNat
  | .ranged low high _ => if n < low ∨ n > high then none else some n
  | .only version => if n < version ∨ n > version then none else some n

/-- The integer is one of the field's type; a field that checks its range needs nothing. -/
def Cast.Fits (n : Int) : Cast → Prop
  | .int => -2 ^ 31 ≤ n ∧ n < 2 ^ 31
  | .unsigned | .wideUnsigned => 0 ≤ n ∧ n < 2 ^ 32
  | .wide | .ranged .. | .only _ => True

theorem toNat_uint32_ofInt (n : Int) : ((UInt32.ofInt n).toNat : Int) = n % 2 ^ 32 := by
  rw [UInt32.ofInt, UInt32.toNat_ofNat']
  omega

section Reads

variable {obj : Value} {key : String} {n : Int}

theorem find_of_carried (hcarried : carried obj key = some n) :
    ∃ q : ℚ, obj.find (ascii key) = some (.number q) ∧ q.den = 1 ∧ q.num = n := by
  unfold carried at hcarried
  split at hcarried
  next q hfind =>
    by_cases hden : q.den = 1
    · exact ⟨q, hfind, hden, by simpa [hden] using hcarried⟩
    · simp [hden] at hcarried
  next => cases hcarried

theorem asInt_of_small {q : ℚ} (hsmall : q.num.natAbs < 2 ^ 53) : asInt q = q.num := by
  rw [asInt, if_pos (by omega)]

/-- A field that carries an integer decodes as its narrowing. -/
theorem IntField.read_of_carried {f : IntField} (hcarried : carried obj f.key = some n)
    (hsmall : n.natAbs < 2 ^ 53) : f.read obj = f.cast.narrow n := by
  obtain ⟨q, hfind, hden, rfl⟩ := find_of_carried hcarried
  have hint := asInt_of_small hsmall
  have hnarrow : getInt obj f.key 0 = q.num.bmod (2 ^ 32) := by
    rw [getInt, getIntField, hfind]
    simp only [hden, hint, if_true]
  have hwide : getI64 obj f.key 0 = q.num := by
    rw [getI64, hfind]
    simp only [hden, hint, if_true]
  have hexact : ∀ low high range, (exact low high range obj f.key).toOption =
      if q.num < low ∨ q.num > high then none else some q.num := by
    intro low high range
    simp only [exact, hfind, Option.filter, Value.isInteger, hden, decide_true, if_true, hint]
    split_ifs <;> rfl
  cases hcast : f.cast <;>
    simp only [IntField.read, hcast, Cast.narrow, getUInt32, hnarrow, hwide, hexact]

/-- A field that carries no integer decodes as zero, where the body is not refused. -/
theorem IntField.read_of_missing {f : IntField} (hmissing : carried obj f.key = none) :
    f.read obj = some 0 ∨ f.read obj = none := by
  have hfind : ∀ q, obj.find (ascii f.key) = some (.number q) → q.den ≠ 1 := by
    intro q hq hden
    simp [carried, hq, hden] at hmissing
  have hnarrow : getInt obj f.key 0 = 0 := by
    rw [getInt, getIntField]
    split
    next q hq => rw [if_neg (hfind q hq)]
    next => rfl
  have hwide : getI64 obj f.key 0 = 0 := by
    rw [getI64]
    split
    next q hq => rw [if_neg (hfind q hq)]
    next => rfl
  have hexact : ∀ low high range, (exact low high range obj f.key).toOption = none := by
    intro low high range
    rw [exact]
    split
    next q hq =>
      obtain ⟨hq, hinteger⟩ := Option.filter_eq_some_iff.mp hq
      exact absurd (of_decide_eq_true hinteger) (hfind q hq)
    next => rfl
  cases hcast : f.cast <;>
    simp [IntField.read, hcast, getUInt32, hnarrow, hwide, hexact, toNat_uint32_ofInt]

end Reads

/-- A field keeps an integer, or gives zero for it, exactly when it fits or is cut to zero. -/
theorem Cast.narrow_kept_iff (cast : Cast) (n : Int) :
    (∀ m, cast.narrow n = some m → n = m ∨ m = 0) ↔ cast.Fits n ∨ 2 ^ 32 ∣ n := by
  have hdvd : (2 ^ 32 : Int) ∣ n ↔ n % 2 ^ 32 = 0 := Int.dvd_iff_emod_eq_zero
  cases cast with
  | int =>
    simp only [narrow, Fits, Option.some.injEq, forall_eq', hdvd, Int.bmod]
    split_ifs <;> omega
  | unsigned =>
    simp only [narrow, Fits, Option.some.injEq, forall_eq', hdvd, toNat_uint32_ofInt, Int.bmod]
    split_ifs <;> omega
  | wideUnsigned =>
    simp only [narrow, Fits, Option.some.injEq, forall_eq', hdvd, toNat_uint32_ofInt]
    omega
  | wide => simp [narrow, Fits]
  | ranged low high range | only version =>
    simp only [narrow, Fits, true_or, iff_true]
    split_ifs <;> simp

/-! ## What acceptance rests on -/

theorem version_of_serverHandshake {body : Value} {server : ServerHello}
    {session : AcceptedSession} (hok : serverHandshake ⟨.hello, body⟩ server = .ok session) :
    getInt body "protocol_version" 0 = kProtocolVersion := by
  simp only [serverHandshake, ite_error_eq_ok, ne_eq, not_not] at hok
  exact hok.2.1

/-- A sidecar that is accepted has reported a root of the size of the layout, in 32 bits. -/
theorem root_of_sidecarReady {layout : DisplayLayout} {req : SidecarReadyRequest}
    (hok : sidecarReady (some layout) req = .ok ()) :
    (req.rootWidth.toNat : Int) = layout.virtualBounds.width.toInt ∧
      (req.rootHeight.toNat : Int) = layout.virtualBounds.height.toInt ∧
      0 < req.rootWidth.toNat ∧ 0 < req.rootHeight.toNat := by
  simp only [sidecarReady, validateGuestDisplayStateAgainstLayout] at hok
  split at hok
  · cases hok
  next hvalid =>
    obtain ⟨⟨hx, hy⟩, -, -⟩ := RectI32.edges_eq_some_iff.mp (placed_of_valid hvalid).1
    simp only [ok_rules, validateGuestDisplayState, ite_error_eq_ok, not_or, ne_eq, not_not] at hok
    obtain ⟨-, -, -, ⟨hwidth, hheight⟩, -⟩ := hok
    have hw := toNat_uint32_ofInt layout.virtualBounds.width.toInt
    have hh := toNat_uint32_ofInt layout.virtualBounds.height.toInt
    have hwlt := layout.virtualBounds.width.toInt_lt
    have hhlt := layout.virtualBounds.height.toInt_lt
    simp only [RectI32.xSpan, RectI32.ySpan] at hx hy
    rw [hwidth, hheight]
    omega

/-- Every integer field is the integer its body carries, or zero as for a missing field; the
version that a handshake is accepted with and the root a sidecar is accepted with are those
carried. -/
structure Unnarrowed (kind : BodyKind) (body : Value) : Prop where
  kept : ∀ f ∈ kind.fields, ∀ n, f.read body = some n → carried body f.key = some n ∨ n = 0
  version : kind = .clientHello → ∀ server session,
    serverHandshake ⟨.hello, body⟩ server = .ok session →
      carried body "protocol_version" = some kProtocolVersion
  root : kind = .readyRequest → ∀ layout,
    sidecarReady (some layout) (SidecarReadyRequest.fromBody body) = .ok () →
      carried body "root_width" = some layout.virtualBounds.width.toInt ∧
        carried body "root_height" = some layout.virtualBounds.height.toInt

theorem unnarrowed_of_kept {kind : BodyKind} {body : Value}
    (hkept : ∀ f ∈ kind.fields, ∀ n, f.read body = some n → carried body f.key = some n ∨ n = 0) :
    Unnarrowed kind body := by
  refine ⟨hkept, ?_, ?_⟩
  · rintro rfl server session hok
    have hread := version_of_serverHandshake hok
    exact (hkept { key := "protocol_version" } (by simp [BodyKind.fields, ints]) kProtocolVersion
      (congrArg some hread)).resolve_right (by decide)
  · rintro rfl layout hok
    obtain ⟨hwidth, hheight, hpos, hpos'⟩ := root_of_sidecarReady hok
    have hroot := fun key hkey hne => (hkept ⟨key, .unsigned⟩ hkey _ rfl).resolve_right hne
    rw [← hwidth, ← hheight]
    exact ⟨hroot "root_width" (by simp [BodyKind.fields, unsigneds]) (by exact_mod_cast hpos.ne'),
      hroot "root_height" (by simp [BodyKind.fields, unsigneds]) (by exact_mod_cast hpos'.ne')⟩

/-- No integer of a body is narrowed exactly when each that it carries fits its field or is a
multiple of two to the thirty-second, which is cut to the default. -/
theorem unnarrowed_iff (kind : BodyKind) (body : Value)
    (hsmall : ∀ f ∈ kind.fields, ∀ n, carried body f.key = some n → n.natAbs < 2 ^ 53) :
    Unnarrowed kind body ↔
      ∀ f ∈ kind.fields, ∀ n, carried body f.key = some n → f.cast.Fits n ∨ 2 ^ 32 ∣ n := by
  constructor
  · intro h f hf n hn
    rw [← f.cast.narrow_kept_iff, ← IntField.read_of_carried hn (hsmall f hf n hn)]
    intro m hm
    have hkept := h.kept f hf m hm
    rwa [hn, Option.some.injEq] at hkept
  · intro hfits
    refine unnarrowed_of_kept fun f hf n hn => ?_
    cases hcarried : carried body f.key with
    | none =>
      rcases IntField.read_of_missing hcarried with hread | hread
      · exact .inr (Option.some.inj (hn.symm.trans hread))
      · rw [hread] at hn
        cases hn
    | some sent =>
      rw [IntField.read_of_carried hcarried (hsmall f hf sent hcarried)] at hn
      rw [Option.some.injEq]
      exact (f.cast.narrow_kept_iff sent).mpr (hfits f hf sent hcarried) n hn

/-- A hello of the next version that 32 bits cannot tell from the first. -/
def wrappedHello : Value := .object [(ascii "protocol_version", .number (2 ^ 32 + 1))]

/-- It is accepted as one of version 1. -/
theorem wrappedHello_accepted :
    carried wrappedHello "protocol_version" = some (2 ^ 32 + 1) ∧
      ∃ session, serverHandshake ⟨.hello, wrappedHello⟩
        { supervisorSessionId := [], workerId := [], workerBackend := [], hostDisplay := {}
          displayLayout := .absent } = .ok session := by
  refine ⟨by decide +kernel, ?_⟩
  rw [serverHandshake, if_neg (by decide), if_neg (by decide +kernel)]
  exact ⟨_, rfl⟩

theorem unnarrowed_versionOne :
    Unnarrowed .clientHello (.object [(ascii "protocol_version", .number 1)]) := by
  have hone : carried (.object [(ascii "protocol_version", .number 1)]) "protocol_version" =
      some 1 := by decide +kernel
  have hfields : ∀ f ∈ BodyKind.clientHello.fields, f = ⟨"protocol_version", .int⟩ := by
    simp [BodyKind.fields, ints]
  refine (unnarrowed_iff _ _ fun f hf n hn => ?_).mpr fun f hf n hn => ?_ <;>
    · obtain rfl := hfields f hf
      obtain rfl := Option.some.inj (hone.symm.trans hn)
      simp [Cast.Fits]

end VkRelay.Control
