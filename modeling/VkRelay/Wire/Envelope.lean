import VkRelay.Wire.JsonRoundTrip
import VkRelay.Wire.JsonTotal

/-!
Handles in JSON bodies and the binary envelope: a four-byte little-endian length,
a JSON header of that length, and a raw tail. What the encoder starts, followed
by any tail that fits the frame, decodes to the same header and tail offset.
-/

namespace VkRelay.Wire

open VkRelay.Lib VkRelay.Json

def kMaxBinaryJsonHeaderBytes : Nat := 64 * 1024

def kMaxFrameBytes : Nat := 16 * 1024 * 1024

def kRpcHeaderBytes : Nat := 12

section Handles

/-- Digits only; empty text, any other byte and overflow give the null handle. -/
def parseHandleStr (s : Bytes) : Nat :=
  if s = [] ∨ s.any (fun c => !isDigit c) then 0
  else if digitsValue 0 s < 2 ^ 64 then digitsValue 0 s else 0

def handleValue (handle : Nat) : Value := .string (decimal handle)

/-- The handle a value carries; anything but a string is the null handle. -/
def handleOf : Value → Nat
  | .string text => parseHandleStr text
  | _ => 0

def getHandle (obj : Value) (key : Bytes) : Nat :=
  match obj.find key with
  | some v => handleOf v
  | none => 0

theorem parseHandleStr_decimal {handle : Nat} (hhandle : handle < 2 ^ 64) :
    parseHandleStr (decimal handle) = handle := by
  have hdigits : (decimal handle).any (fun c => !isDigit c) = false := by
    rw [List.any_eq_false]
    intro c hc
    simp [isDigit_of_mem_decimal hc]
  rw [parseHandleStr, digitsValue_decimal, if_neg (by simp [decimal_ne_nil, hdigits]),
    if_pos hhandle]

theorem handleOf_handleValue {handle : Nat} (hhandle : handle < 2 ^ 64) :
    handleOf (handleValue handle) = handle :=
  parseHandleStr_decimal hhandle

end Handles

section Words

def storeLe32 (value : Nat) : Bytes :=
  [UInt8.ofNat value, UInt8.ofNat (value / 256), UInt8.ofNat (value / 65536),
    UInt8.ofNat (value / 16777216)]

def loadLe32 (p : Bytes) : Nat :=
  (p.take 4).foldr (fun c value => c.toNat + 256 * value) 0

theorem loadLe32_storeLe32 {value : Nat} (hvalue : value < 2 ^ 32) (rest : Bytes) :
    loadLe32 (storeLe32 value ++ rest) = value := by
  simp only [storeLe32, loadLe32, List.cons_append, List.take_succ_cons, List.nil_append,
    List.take_zero, List.foldr_cons, List.foldr_nil, UInt8.toNat_ofNat']
  omega

end Words

section Binary

def startBinaryEnvelope (header : Value) (tailReserve : Nat) (label : String) :
    Except String Bytes :=
  let jsonText := dump header 0
  if jsonText.length > kMaxBinaryJsonHeaderBytes then
    .error (label ++ " json header exceeds cap")
  else
    let prefixSize := 4 + jsonText.length
    let maxBodySize := kMaxFrameBytes - kRpcHeaderBytes
    if prefixSize > maxBodySize ∨ tailReserve > maxBodySize - prefixSize then
      .error (label ++ " encoded RPC frame exceeds cap")
    else .ok (storeLe32 jsonText.length ++ jsonText)

/-- The text of a failed parse; by `parseDocument_ne_outOfFuel` it is the source's. -/
def failureText : Failure → String
  | .error message => message
  | .outOfFuel => ""

/-- The header and the offset of the tail. -/
def decodeBinaryEnvelope (body : Bytes) (label : String) : Except String (Value × Nat) :=
  if body.length < 4 then .error (label ++ " body shorter than 4-byte length prefix")
  else
    let jsonLen := loadLe32 body
    if jsonLen > kMaxBinaryJsonHeaderBytes then .error (label ++ " json header exceeds cap")
    else if 4 + jsonLen > body.length then
      .error (label ++ " json header runs past end of body")
    else
      match parseDocument ((body.drop 4).take jsonLen) with
      | .error failure => .error (label ++ " json header parse: " ++ failureText failure)
      | .ok header =>
        if !header.isObject then .error (label ++ " json header is not an object")
        else if body.length > kMaxFrameBytes - kRpcHeaderBytes then
          .error (label ++ " encoded RPC frame exceeds cap")
        else .ok (header, 4 + jsonLen)

/-- An envelope that was started decodes to its header, whatever its tail. -/
theorem decodeBinaryEnvelope_start {header : Value} {tail : Bytes} {label : String} {out : Bytes}
    (hprint : Printable header) (hobject : header.isObject = true)
    (hstart : startBinaryEnvelope header tail.length label = .ok out) :
    decodeBinaryEnvelope (out ++ tail) label = .ok (header, out.length) := by
  unfold startBinaryEnvelope at hstart
  dsimp only at hstart
  split_ifs at hstart with hheader hframe
  cases hstart
  rw [not_lt] at hheader
  have hload : loadLe32 (storeLe32 (dump header 0).length ++ dump header 0 ++ tail) =
      (dump header 0).length := by
    rw [List.append_assoc]
    refine loadLe32_storeLe32 ?_ _
    rw [kMaxBinaryJsonHeaderBytes] at hheader
    omega
  have htext : ((storeLe32 (dump header 0).length ++ dump header 0 ++ tail).drop 4).take
      (dump header 0).length = dump header 0 := by
    simp [storeLe32]
  have hlength : (storeLe32 (dump header 0).length ++ dump header 0 ++ tail).length =
      4 + (dump header 0).length + tail.length := by
    simp [storeLe32]
    omega
  have hshort : ¬(4 + (dump header 0).length + tail.length < 4) := by omega
  have hwithin : ¬(4 + (dump header 0).length > 4 + (dump header 0).length + tail.length) := by
    omega
  have hfits : ¬(4 + (dump header 0).length + tail.length > kMaxFrameBytes - kRpcHeaderBytes) := by
    omega
  have hcap : ¬((dump header 0).length > kMaxBinaryJsonHeaderBytes) := by omega
  simp only [decodeBinaryEnvelope, hload, htext, hlength, hshort, hwithin, hfits, hcap,
    parseDocument_dump hprint 0, hobject, if_false, Bool.not_true, Bool.false_eq_true]
  rw [List.length_append]
  rfl

/-- A piece of an envelope that lacks some of its header is rejected. -/
theorem decodeBinaryEnvelope_cut {text seen missing : Bytes} (label : String)
    (hcap : text.length ≤ kMaxBinaryJsonHeaderBytes)
    (hsplit : storeLe32 text.length ++ text = seen ++ missing) (hmissing : missing ≠ []) :
    ∃ message, decodeBinaryEnvelope seen label = .error message := by
  have hlength := congrArg List.length hsplit
  have hpos := List.length_pos_of_ne_nil hmissing
  simp only [List.length_append, storeLe32, List.length_cons, List.length_nil] at hlength
  by_cases hshort : seen.length < 4
  · exact ⟨_, if_pos hshort⟩
  · obtain ⟨part, hseen⟩ : ∃ part, seen = storeLe32 text.length ++ part := by
      rcases List.append_eq_append_iff.mp hsplit with ⟨part, hseen, -⟩ | ⟨part, hword, -⟩
      · exact ⟨part, hseen⟩
      · have hwhole := congrArg List.length hword
        simp only [List.length_append, storeLe32, List.length_cons, List.length_nil] at hwhole
        have hnil : part = [] := List.eq_nil_of_length_eq_zero (by omega)
        exact ⟨[], by simpa [hnil] using hword.symm⟩
    have hload : loadLe32 seen = text.length := by
      rw [hseen]
      refine loadLe32_storeLe32 ?_ part
      rw [kMaxBinaryJsonHeaderBytes] at hcap
      omega
    have hpast : 4 + text.length > seen.length := by omega
    refine ⟨label ++ " json header runs past end of body", ?_⟩
    rw [decodeBinaryEnvelope, if_neg hshort, hload]
    simp only [Nat.not_lt.mpr hcap, hpast, if_false, if_true]

theorem decodeBinaryEnvelope_oversized {body : Bytes} (label : String)
    (hsize : body.length > kMaxFrameBytes - kRpcHeaderBytes) :
    ∃ message, decodeBinaryEnvelope body label = .error message := by
  cases hdecode : decodeBinaryEnvelope body label with
  | error message => exact ⟨message, rfl⟩
  | ok result =>
    unfold decodeBinaryEnvelope at hdecode
    dsimp only at hdecode
    split_ifs at hdecode
    split at hdecode
    · cases hdecode
    · split_ifs at hdecode

end Binary

end VkRelay.Wire
