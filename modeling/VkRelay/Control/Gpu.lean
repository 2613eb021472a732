import VkRelay.Control.Handshake

/-!
Adapters and their selection. A selector is a text; parsing it gives a selector, a reason to
refuse it, or the exception that `std::stoi` throws at an index it cannot hold.
-/

namespace VkRelay.Control

open VkRelay.Lib VkRelay.Json VkRelay.Wire VkRelay.Wire.Record

inductive GpuDeviceType where
  | discrete | integrated | cpu | virtual | other
deriving DecidableEq

def GpuDeviceType.toText : GpuDeviceType → String
  | .discrete => "discrete"
  | .integrated => "integrated"
  | .cpu => "cpu"
  | .virtual => "virtual"
  | .other => "other"

structure GpuDevice where
  index : Int32 := 0
  name : Bytes := []
  vendorId : UInt32 := 0
  deviceId : UInt32 := 0
  type : GpuDeviceType := .other
  apiVersion : Bytes := []
  driverName : Bytes := []
  luid : Bytes := []
  usable : Bool := false
  reason : Bytes := []
  roles : List Bytes := []
  defaultHighPerformance : Bool := false
  defaultIntegrated : Bool := false

def gpuDeviceToJson (d : GpuDevice) : Value :=
  .object [(ascii "index", ofInt d.index), (ascii "name", .string d.name),
    (ascii "vendor_id", .number d.vendorId.toNat), (ascii "device_id", .number d.deviceId.toNat),
    (ascii "type", .string (ascii d.type.toText)), (ascii "api_version", .string d.apiVersion),
    (ascii "driver_name", .string d.driverName), (ascii "luid", .string d.luid),
    (ascii "usable", .bool d.usable), (ascii "reason", .string d.reason),
    (ascii "roles", .array (d.roles.map .string)),
    (ascii "default_high_performance", .bool d.defaultHighPerformance),
    (ascii "default_integrated", .bool d.defaultIntegrated)]

def gpuListToBody (devices : List GpuDevice) (real : Bool) : Value :=
  .object [(ascii "devices", .array (devices.map gpuDeviceToJson)), (ascii "real", .bool real)]

/-! ## Selectors -/

inductive GpuSelector where
  | auto
  | highPerformance
  | integrated
  | vendor (vendorId : UInt32)
  | device (vendorId deviceId : UInt32)
  | luid (luid : Bytes)
  | index (index : Nat)
  | name (name : Bytes)
deriving DecidableEq

/-- `std::tolower` of every byte, in the C locale. -/
def toLower (text : Bytes) : Bytes :=
  text.map fun c => if 0x41 ≤ c ∧ c ≤ 0x5a then c + 0x20 else c

def parseHexU32 (text : Bytes) : Option UInt32 :=
  if text = [] then none
  else
    let body :=
      match text with
      | 0x30 :: x :: digit :: rest => if x = 0x78 ∨ x = 0x58 then digit :: rest else text
      | _ => text
    if body.length > 8 then none
    else (body.foldlM (fun value c => (hexValue c).map fun digit => value * 16 + digit) 0).map
      UInt32.ofNat

def kIntMax : Nat := 2 ^ 31 - 1

/-- `std::stoi` of decimal digits. -/
def stoi (digits : Bytes) : Except String Nat :=
  if digitsValue 0 digits > kIntMax then .error "stoi" else .ok (digitsValue 0 digits)

/-- What follows a keyword, which is compared without regard to case. -/
def after (keyword : String) (text : Bytes) : Option Bytes :=
  if (ascii keyword).isPrefixOf (toLower text) then some (text.drop (ascii keyword).length)
  else none

def parseDevice (body : Bytes) : Option GpuSelector := do
  let colon ← body.idxOf? 0x3a
  let vendorId ← parseHexU32 (body.take colon)
  let deviceId ← parseHexU32 (body.drop (colon + 1))
  return .device vendorId deviceId

def isIndex (body : Bytes) : Bool := !body.isEmpty && body.all isDigit

/-- A selector, or the text of the refusal; the outer error is an exception. -/
def parseSelector (text : Bytes) : Except String (Except Bytes GpuSelector) :=
  let lower := toLower text
  if lower = ascii "auto" then .ok (.ok .auto)
  else if lower = ascii "high-performance" then .ok (.ok .highPerformance)
  else if lower = ascii "integrated" then .ok (.ok .integrated)
  else
    match after "vendor:" text, after "device:" text, after "luid:" text, after "index:" text,
        after "name:" text with
    | some body, _, _, _, _ => .ok <|
        match parseHexU32 body with
        | some vendorId => .ok (.vendor vendorId)
        | none => .error (ascii "vendor selector requires a hex vendor id, e.g. vendor:0x8086")
    | none, some body, _, _, _ => .ok <|
        match parseDevice body with
        | some selector => .ok selector
        | none =>
          .error (ascii "device selector requires hex vendor:device, e.g. device:0x1002:0x164e")
    | none, none, some body, _, _ => .ok <|
        if body = [] then .error (ascii "luid selector requires a value") else .ok (.luid body)
    | none, none, none, some body, _ =>
      if isIndex body then (fun index => .ok (.index index)) <$> stoi body
      else .ok (.error (ascii "index selector requires a non-negative integer"))
    | none, none, none, none, some body => .ok <|
        if body = [] then .error (ascii "name selector requires a substring") else .ok (.name body)
    | none, none, none, none, none =>
      .ok (.error (ascii "unknown GPU selector '" ++ text ++ ascii "'"))

/-- The selector of an index that an `int` cannot hold. -/
def IndexOverflows (text : Bytes) : Prop :=
  ∃ body, after "index:" text = some body ∧ isIndex body = true ∧ kIntMax < digitsValue 0 body

/-! ## Selection -/

def firstUsable (devices : List GpuDevice) (pred : GpuDevice → Bool) : Option GpuDevice :=
  devices.find? fun d => d.usable && pred d

def selectDevice (devices : List GpuDevice) (selector : GpuSelector) (raw : Bytes) :
    Except Bytes GpuDevice :=
  let unmatched := ascii "no usable adapter matched selector '" ++ raw ++ ascii "'"
  let first (pred : GpuDevice → Bool) : Except Bytes GpuDevice :=
    ((firstUsable devices pred).map .ok).getD (.error unmatched)
  let default := firstUsable devices (·.defaultHighPerformance)
  match selector with
  | .auto => (default.map .ok).getD (first fun _ => true)
  | .highPerformance => (default.map .ok).getD (first (·.type = .discrete))
  | .integrated => first (·.type = .integrated)
  | .vendor vendorId => first (·.vendorId = vendorId)
  | .device vendorId deviceId => first fun d => d.vendorId = vendorId ∧ d.deviceId = deviceId
  | .luid luid => first fun d => toLower d.luid = toLower luid
  | .index index =>
    match devices.find? (·.index.toInt = (index : Int)) with
    | some d =>
      if d.usable then .ok d
      else .error (ascii "device at index " ++ decimal index ++ ascii " is not usable: " ++
        d.reason)
    | none => .error unmatched
  | .name name => first fun d => (toLower d.name).tails.any (toLower name).isPrefixOf

def selectedReason (d : GpuDevice) : Bytes :=
  ascii "selected " ++ d.name ++ ascii " (index " ++ dumpInteger d.index.toInt ++ ascii ")"

/-! ## Which selectors throw -/

variable {keyword : String} {text body : Bytes}

theorem toLower_of_after (hafter : after keyword text = some body) :
    ∃ rest, toLower text = ascii keyword ++ rest := by
  unfold after at hafter
  split_ifs at hafter with hfound
  obtain ⟨rest, hrest⟩ := List.isPrefixOf_iff_prefix.mp hfound
  exact ⟨rest, hrest.symm⟩

/-- A keyword that `index:` contradicts is not found before it. -/
theorem after_eq_none {text rest : Bytes} (hlower : toLower text = ascii "index:" ++ rest)
    (hother : (ascii keyword).isPrefixOf (ascii "index:" ++ rest) = false) :
    after keyword text = none := by
  rw [after, hlower, hother]
  rfl

theorem parseSelector_index (hafter : after "index:" text = some body) : parseSelector text =
      if isIndex body then (fun index => .ok (.index index)) <$> stoi body
      else .ok (.error (ascii "index selector requires a non-negative integer")) := by
  obtain ⟨rest, hlower⟩ := toLower_of_after hafter
  have hauto : toLower text ≠ ascii "auto" := by rw [hlower]; exact ne_of_beq_false rfl
  have hhigh : toLower text ≠ ascii "high-performance" := by
    rw [hlower]; exact ne_of_beq_false rfl
  have hintegrated : toLower text ≠ ascii "integrated" := by
    rw [hlower]; exact ne_of_beq_false rfl
  rw [parseSelector, if_neg hauto, if_neg hhigh, if_neg hintegrated,
    @after_eq_none "vendor:" _ _ hlower rfl, @after_eq_none "device:" _ _ hlower rfl,
    @after_eq_none "luid:" _ _ hlower rfl, hafter]

/-- Parsing throws exactly at an index that an `int` cannot hold. -/
theorem parseSelector_throws_iff (text : Bytes) :
    (∃ what, parseSelector text = .error what) ↔ IndexOverflows text := by
  constructor
  · rintro ⟨what, hthrows⟩
    cases hafter : after "index:" text with
    | some body =>
      rw [parseSelector_index hafter] at hthrows
      split_ifs at hthrows with hindex
      refine ⟨body, hafter, hindex, ?_⟩
      by_contra hfits
      rw [stoi, if_neg hfits] at hthrows
      cases hthrows
    | none =>
      simp only [parseSelector, hafter] at hthrows
      split_ifs at hthrows
      split at hthrows <;> simp_all
  · rintro ⟨body, hafter, hindex, hlarge⟩
    exact ⟨"stoi", by rw [parseSelector_index hafter, if_pos hindex, stoi, if_pos hlarge]; rfl⟩

end VkRelay.Control
