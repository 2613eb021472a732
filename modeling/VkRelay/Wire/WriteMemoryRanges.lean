import VkRelay.Memory.Upload
import VkRelay.Wire.Envelope
import VkRelay.Worker.Memory

/-!
The wire form of `write_memory_ranges`: a JSON header that lists the uploads and
their ranges, and the ranges' bytes as the tail. The decoder accepts a request
whose header fits exactly when it is well formed: distinct allocations, ranges
that are non-empty, ascending and disjoint, and as many bytes as the ranges name.
-/

namespace VkRelay.Worker

open VkRelay.Lib VkRelay.Json VkRelay.Wire VkRelay.Memory

def rangeValue (r : Range) : Value :=
  ((Value.object []).set (ascii "offset") (handleValue r.offset)).set (ascii "size")
    (handleValue r.size)

def uploadValue (up : Upload) : Value :=
  ((Value.object []).set (ascii "memory") (handleValue up.memory)).set (ascii "ranges")
    (.array (up.ranges.map rangeValue))

namespace WriteMemoryRangesRequest

def header (req : WriteMemoryRangesRequest) : Value :=
  (Value.object []).set (ascii "uploads") (.array (req.uploads.map uploadValue))

/-- The body of the call; empty where the envelope does not fit. -/
def toWire (req : WriteMemoryRangesRequest) : Bytes :=
  match startBinaryEnvelope req.header req.payload.length "write_memory_ranges" with
  | .error _ => []
  | .ok out => out ++ req.payload

end WriteMemoryRangesRequest

/-- The elements of a member that is an array; anything else has none. -/
def itemsOf : Option Value → List Value
  | some (.array items) => items
  | _ => []

/-- The loop over the ranges of one upload: the end of the range before, the bytes
counted so far, and the ranges left. -/
def decodeRanges : Option Nat → Nat → List Value → Except String (List Range × Nat)
  | _, total, [] => .ok ([], total)
  | prevEnd, total, re :: rest =>
    let rg : Range := ⟨getHandle re (ascii "offset"), getHandle re (ascii "size")⟩
    if rg.size = 0 then .error "write_memory_ranges has a zero-size range"
    else if rg.offset > 2 ^ 64 - 1 - rg.size then
      .error "write_memory_ranges range offset+size overflows"
    else if prevEnd.any (fun stop => rg.offset < stop) then
      .error "write_memory_ranges ranges not sorted/disjoint per allocation"
    else if total > 2 ^ 64 - 1 - rg.size then
      .error "write_memory_ranges total size overflows"
    else do
      let (ranges, total) ← decodeRanges (some (rg.offset + rg.size)) (total + rg.size) rest
      .ok (rg :: ranges, total)

/-- The loop over the uploads: the memories seen, and the bytes counted so far. -/
def decodeUploads : Finset Nat → Nat → List Value → Except String (List Upload × Nat)
  | _, total, [] => .ok ([], total)
  | seenMemories, total, ue :: rest =>
    let memory := getHandle ue (ascii "memory")
    if memory ∈ seenMemories then .error "write_memory_ranges has a duplicate memory handle"
    else do
      let (ranges, total) ← decodeRanges none total (itemsOf (ue.find (ascii "ranges")))
      let (uploads, total) ← decodeUploads (insert memory seenMemories) total rest
      .ok (⟨memory, ranges⟩ :: uploads, total)

def fromWire (body : Bytes) : Except String WriteMemoryRangesRequest := do
  let (header, tailOffset) ← decodeBinaryEnvelope body "write_memory_ranges"
  let (uploads, total) ← decodeUploads ∅ 0 (itemsOf (header.find (ascii "uploads")))
  let tailLen := body.length - tailOffset
  if total ≠ tailLen then
    .error "write_memory_ranges payload length does not match the summed range sizes"
  else if tailLen > kMaxMemoryUploadBytes then
    .error "write_memory_ranges payload exceeds the per-call cap"
  else .ok ⟨uploads, body.drop tailOffset⟩

section Fields

theorem rangeValue_eq (r : Range) : rangeValue r = .object [(ascii "offset", handleValue r.offset),
      (ascii "size", handleValue r.size)] := rfl

theorem uploadValue_eq (up : Upload) :
    uploadValue up = .object [(ascii "memory", handleValue up.memory),
      (ascii "ranges", .array (up.ranges.map rangeValue))] := rfl

variable (req : WriteMemoryRangesRequest)

theorem header_eq :
    req.header = .object [(ascii "uploads", .array (req.uploads.map uploadValue))] := rfl

theorem printable_rangeValue (r : Range) : Printable (rangeValue r) := by
  rw [rangeValue_eq]
  refine .object _ ?_
  simp [handleValue, Printable.string]

theorem printable_uploadValue (up : Upload) : Printable (uploadValue up) := by
  have hranges : Printable (.array (up.ranges.map rangeValue)) :=
    .array _ (by simp [printable_rangeValue])
  rw [uploadValue_eq]
  refine .object _ ?_
  simp [handleValue, Printable.string, hranges]

theorem printable_header : Printable req.header := by
  have huploads : Printable (.array (req.uploads.map uploadValue)) :=
    .array _ (by simp [printable_uploadValue])
  rw [header_eq]
  exact .object _ (by simp [huploads])

theorem getHandle_rangeValue {r : Range} (hoffset : r.offset < 2 ^ 64) (hsize : r.size < 2 ^ 64) :
    getHandle (rangeValue r) (ascii "offset") = r.offset ∧
      getHandle (rangeValue r) (ascii "size") = r.size :=
  ⟨handleOf_handleValue hoffset, handleOf_handleValue hsize⟩

theorem find_uploadValue {up : Upload} (hmemory : up.memory < 2 ^ 64) :
    getHandle (uploadValue up) (ascii "memory") = up.memory ∧
      itemsOf ((uploadValue up).find (ascii "ranges")) = up.ranges.map rangeValue :=
  ⟨handleOf_handleValue hmemory, rfl⟩

theorem find_header :
    itemsOf (req.header.find (ascii "uploads")) = req.uploads.map uploadValue := rfl

end Fields

section Decode

def Ascending (ranges : List Range) : Prop :=
  ranges.Pairwise fun x y => x.offset + x.size ≤ y.offset

instance (ranges : List Range) : Decidable (Ascending ranges) :=
  inferInstanceAs (Decidable (ranges.Pairwise _))

def sizeSum (ranges : List Range) : Nat := (ranges.map Range.size).sum

/-- The range fits the 64-bit words of the wire. -/
def Encodable (r : Range) : Prop := r.offset < 2 ^ 64 ∧ r.size < 2 ^ 64

/-- The ranges of one upload are accepted exactly when they are non-empty,
do not wrap, start behind what came before and are ascending. -/
theorem decodeRanges_iff (ranges : List Range) (hencodable : ∀ r ∈ ranges, Encodable r)
    (prevEnd : Option Nat) (total : Nat) (htotal : total < 2 ^ 64) (out : List Range × Nat) :
    decodeRanges prevEnd total (ranges.map rangeValue) = .ok out ↔
      ((∀ r ∈ ranges, 0 < r.size ∧ r.offset + r.size < 2 ^ 64 ∧ prevEnd.getD 0 ≤ r.offset) ∧
        Ascending ranges ∧ total + sizeSum ranges < 2 ^ 64) ∧
      out = (ranges, total + sizeSum ranges) := by
  induction ranges generalizing prevEnd total out with
  | nil =>
    have hbound : total + sizeSum [] < 2 ^ 64 := htotal
    simp only [List.map_nil, decodeRanges, Except.ok.injEq, hbound]
    simp [Ascending, sizeSum, eq_comm]
  | cons r rest ih =>
    obtain ⟨hoffset, hsize⟩ := hencodable r List.mem_cons_self
    obtain ⟨hget_offset, hget_size⟩ := getHandle_rangeValue hoffset hsize
    have hrest := fun total htotal => ih (fun x hx => hencodable x (List.mem_cons_of_mem _ hx))
      (some (r.offset + r.size)) total htotal
    have hbehind : prevEnd.any (fun stop => decide (r.offset < stop)) = false ↔
        prevEnd.getD 0 ≤ r.offset := by
      cases prevEnd <;> simp
    have hbytes : sizeSum (r :: rest) = r.size + sizeSum rest := by
      simp [sizeSum]
    simp only [List.map_cons, decodeRanges, hget_offset, hget_size, ite_error_eq_ok, ok_rules,
      Bool.not_eq_true, hbehind]
    constructor
    · rintro ⟨hpos, hwrap, hstart, hcount, ⟨ranges, bytes⟩, hloop, hout⟩
      obtain ⟨⟨hall, hascending, hsum⟩, hpair⟩ := (hrest _ (by omega) _).mp hloop
      cases hpair
      cases hout
      refine ⟨⟨?_, List.pairwise_cons.mpr ⟨fun x hx => (hall x hx).2.2, hascending⟩, by omega⟩, ?_⟩
      · intro x hx
        rcases List.mem_cons.mp hx with rfl | hx
        · omega
        · obtain ⟨hx_pos, hx_wrap, hx_start⟩ := hall x hx
          rw [Option.getD_some] at hx_start
          omega
      · rw [hbytes, Nat.add_assoc]
    · rintro ⟨⟨hall, hascending, hsum⟩, rfl⟩
      obtain ⟨hpos, hwrap, hstart⟩ := hall r List.mem_cons_self
      obtain ⟨hbefore, hascending⟩ := List.pairwise_cons.mp hascending
      refine ⟨by omega, by omega, hstart, by omega, (rest, total + r.size + sizeSum rest), ?_, ?_⟩
      · refine (hrest _ (by omega) _).mpr ⟨⟨?_, hascending, by omega⟩, rfl⟩
        intro x hx
        obtain ⟨hx_pos, hx_wrap, -⟩ := hall x (List.mem_cons_of_mem _ hx)
        exact ⟨hx_pos, hx_wrap, hbefore x hx⟩
      · rw [hbytes, Nat.add_assoc]

def uploadBytes (uploads : List Upload) : Nat :=
  (uploads.map fun up => sizeSum up.ranges).sum

/-- Handles and ranges fit the 64-bit words of the wire. -/
def EncodableUpload (up : Upload) : Prop := up.memory < 2 ^ 64 ∧ ∀ r ∈ up.ranges, Encodable r

/-- The ranges of one upload as the decoder wants them. -/
def RangesOk (ranges : List Range) : Prop :=
  (∀ r ∈ ranges, 0 < r.size ∧ r.offset + r.size < 2 ^ 64) ∧ Ascending ranges

theorem decodeUploads_iff (uploads : List Upload)
    (hencodable : ∀ up ∈ uploads, EncodableUpload up) (seenMemories : Finset Nat) (total : Nat)
    (htotal : total < 2 ^ 64) (out : List Upload × Nat) :
    decodeUploads seenMemories total (uploads.map uploadValue) = .ok out ↔
      ((∀ up ∈ uploads, up.memory ∉ seenMemories) ∧ (uploads.map Upload.memory).Nodup ∧
        (∀ up ∈ uploads, RangesOk up.ranges) ∧ total + uploadBytes uploads < 2 ^ 64) ∧
      out = (uploads, total + uploadBytes uploads) := by
  induction uploads generalizing seenMemories total out with
  | nil =>
    have hbound : total + uploadBytes [] < 2 ^ 64 := htotal
    simp only [List.map_nil, decodeUploads, Except.ok.injEq, hbound]
    simp [uploadBytes, eq_comm]
  | cons up rest ih =>
    obtain ⟨hmemory, hranges⟩ := hencodable up List.mem_cons_self
    obtain ⟨hget, hitems⟩ := find_uploadValue hmemory
    have hrest := fun total htotal => ih (fun x hx => hencodable x (List.mem_cons_of_mem _ hx))
      (insert up.memory seenMemories) total htotal
    have hloop := decodeRanges_iff up.ranges hranges none total htotal
    have hbytes : uploadBytes (up :: rest) = sizeSum up.ranges + uploadBytes rest := by
      simp [uploadBytes]
    simp only [Option.getD_none, Nat.zero_le, and_true] at hloop
    simp only [List.map_cons, decodeUploads, hget, hitems, ite_error_eq_ok, ok_rules, hloop]
    constructor
    · rintro ⟨hfresh, ⟨ranges, bytes⟩, ⟨⟨hall, hascending, hsum⟩, hpair⟩, ⟨uploads, more⟩,
        hmore, hout⟩
      cases hpair
      obtain ⟨⟨hunseen, hnodup, hrangesOk, hsum'⟩, hpair⟩ := (hrest _ hsum _).mp hmore
      cases hpair
      cases hout
      simp only [Finset.mem_insert, not_or] at hunseen
      refine ⟨⟨?_, ?_, ?_, by omega⟩, by rw [hbytes, Nat.add_assoc]⟩
      · intro x hx
        rcases List.mem_cons.mp hx with rfl | hx
        · exact hfresh
        · exact (hunseen x hx).2
      · refine List.nodup_cons.mpr ⟨?_, hnodup⟩
        intro hmem
        obtain ⟨x, hx, hsame⟩ := List.mem_map.mp hmem
        exact (hunseen x hx).1 hsame
      · intro x hx
        rcases List.mem_cons.mp hx with rfl | hx
        · exact ⟨hall, hascending⟩
        · exact hrangesOk x hx
    · rintro ⟨⟨hunseen, hnodup, hrangesOk, hsum⟩, rfl⟩
      obtain ⟨hfresh, hnodup⟩ := List.nodup_cons.mp hnodup
      obtain ⟨hall, hascending⟩ := hrangesOk up List.mem_cons_self
      refine ⟨hunseen up List.mem_cons_self, (up.ranges, total + sizeSum up.ranges),
        ⟨⟨hall, hascending, by omega⟩, rfl⟩,
        (rest, total + sizeSum up.ranges + uploadBytes rest), ?_, ?_⟩
      · refine (hrest _ (by omega) _).mpr ⟨⟨?_, hnodup, ?_, by omega⟩, rfl⟩
        · intro x hx
          rw [Finset.mem_insert, not_or]
          refine ⟨?_, hunseen x (List.mem_cons_of_mem _ hx)⟩
          rintro hsame
          exact hfresh (List.mem_map.mpr ⟨x, hx, hsame⟩)
        · exact fun x hx => hrangesOk x (List.mem_cons_of_mem _ hx)
      · rw [hbytes, Nat.add_assoc]

/-- A request that fits the envelope survives the wire exactly when it names
each allocation once, its ranges are well formed and its payload is theirs. -/
theorem fromWire_toWire_iff (req : WriteMemoryRangesRequest)
    (hencodable : ∀ up ∈ req.uploads, EncodableUpload up)
    (hheader : (dump req.header 0).length ≤ kMaxBinaryJsonHeaderBytes)
    (hpayload : req.payload.length ≤ kMaxMemoryUploadBytes) :
    fromWire req.toWire = .ok req ↔
      (req.uploads.map Upload.memory).Nodup ∧ (∀ up ∈ req.uploads, RangesOk up.ranges) ∧
        uploadBytes req.uploads = req.payload.length := by
  have hstart : startBinaryEnvelope req.header req.payload.length "write_memory_ranges" =
      .ok (storeLe32 (dump req.header 0).length ++ dump req.header 0) := by
    have hframe : ¬(4 + (dump req.header 0).length > kMaxFrameBytes - kRpcHeaderBytes ∨
        req.payload.length >
          kMaxFrameBytes - kRpcHeaderBytes - (4 + (dump req.header 0).length)) := by
      simp only [kMaxBinaryJsonHeaderBytes, kMaxMemoryUploadBytes] at hheader hpayload
      simp only [kMaxFrameBytes, kRpcHeaderBytes]
      omega
    simp only [startBinaryEnvelope]
    rw [if_neg (not_lt.mpr hheader), if_neg hframe]
  have hwire : req.toWire =
      storeLe32 (dump req.header 0).length ++ dump req.header 0 ++ req.payload := by
    simp [WriteMemoryRangesRequest.toWire, hstart]
  have hdecode := decodeBinaryEnvelope_start (printable_header req) rfl hstart
  rw [← hwire] at hdecode
  have htail : req.toWire.length -
      (storeLe32 (dump req.header 0).length ++ dump req.header 0).length = req.payload.length := by
    rw [hwire, List.length_append]
    omega
  have hdrop : req.toWire.drop
      (storeLe32 (dump req.header 0).length ++ dump req.header 0).length = req.payload := by
    rw [hwire, List.drop_left]
  have hcap : req.payload.length < 2 ^ 64 := by
    rw [kMaxMemoryUploadBytes] at hpayload
    omega
  have hloop := decodeUploads_iff req.uploads hencodable ∅ 0 (by decide)
  simp only [fromWire, hdecode, ok_rules, exists_eq_left', find_header, hloop, ite_error_eq_ok,
    htail, hdrop]
  constructor
  · rintro ⟨⟨uploads, bytes⟩, ⟨⟨-, hnodup, hranges, hsum⟩, hpair⟩, hcount, -, hout⟩
    cases hpair
    exact ⟨hnodup, hranges, by omega⟩
  · rintro ⟨hnodup, hranges, hcount⟩
    refine ⟨(req.uploads, 0 + uploadBytes req.uploads),
      ⟨⟨by simp, hnodup, hranges, by omega⟩, rfl⟩, by omega, by omega, rfl⟩

end Decode

section HeaderSize

theorem escapeByte_digit {c : UInt8} (hc : isDigit c = true) : escapeByte c = [c] := by
  have hne : ∀ b : UInt8, isDigit b = false → c ≠ b := by
    rintro b hb rfl
    rw [hc] at hb
    cases hb
  have hprintable : ¬ c < 0x20 := by
    simp only [isDigit, decide_eq_true_eq] at hc
    rw [UInt8.lt_iff_toNat_lt]
    exact not_lt.mpr (le_trans (by decide) hc.1)
  simp only [escapeByte, hne 0x22 (by decide), hne 0x5c (by decide), hne 0x08 (by decide),
    hne 0x0c (by decide), hne 0x0a (by decide), hne 0x0d (by decide), hne 0x09 (by decide),
    hprintable, if_false]

/-- A handle takes at most twenty digits and two quotes. -/
theorem length_dumpTo_handleValue_le {handle : Nat} (hhandle : handle < 2 ^ 64)
    (indent depth : Nat) : (dumpTo indent depth (handleValue handle)).length ≤ 22 := by
  have hdigits : (decimal handle).length ≤ 19 + 1 :=
    length_decimal_le (lt_trans hhandle (by norm_num))
  have hescaped : (decimal handle).flatMap escapeByte = decimal handle := by
    rw [List.flatMap_congr fun c hc => escapeByte_digit (isDigit_of_mem_decimal hc),
      List.flatMap_singleton']
  simp only [handleValue, dumpTo, escapeString, hescaped, List.length_append, List.length_cons,
    List.length_nil]
  omega

variable (depth : Nat) (items : List Value)

theorem padding_zero : padding 0 depth = [] := by simp [padding]

theorem newline_zero : newline 0 = [] := rfl

theorem length_dumpItems_le : (dumpItems 0 depth items).length ≤
      (items.map fun v => (dumpTo 0 (depth + 1) v).length + 1).sum := by
  induction items with
  | nil => simp [dumpItems]
  | cons v items ih =>
    have hcomma : (separator items).length ≤ 1 := by
      unfold separator
      split_ifs <;> simp
    simp only [dumpItems, padding_zero, newline_zero, List.length_append, List.map_cons,
      List.sum_cons, List.length_nil]
    omega

theorem length_dumpTo_array_le : (dumpTo 0 depth (.array items)).length ≤
      2 + (items.map fun v => (dumpTo 0 (depth + 1) v).length + 1).sum := by
  have hitems := length_dumpItems_le depth items
  cases items with
  | nil => simp [dumpTo]
  | cons v items =>
    simp only [dumpTo, List.isEmpty_cons, Bool.false_eq_true, if_false, padding_zero,
      newline_zero, List.length_append, List.length_cons, List.length_nil]
    omega

theorem length_dumpTo_rangeValue_le {r : Range} (hr : Encodable r) (depth : Nat) :
    (dumpTo 0 depth (rangeValue r)).length ≤ 63 := by
  have hoffset := length_dumpTo_handleValue_le hr.1 0 (depth + 1)
  have hsize := length_dumpTo_handleValue_le hr.2 0 (depth + 1)
  have hkey_offset : (escapeString (ascii "offset")).length = 8 := by decide
  have hkey_size : (escapeString (ascii "size")).length = 6 := by decide
  simp only [rangeValue_eq, dumpTo_object_cons, membersText, dumpMembers, separator_cons,
    separator_nil, colon, padding_zero, newline_zero, List.length_append, List.length_cons,
    List.length_nil, lt_irrefl, if_false, hkey_offset, hkey_size]
  omega

theorem length_dumpTo_uploadValue_le {up : Upload} (hup : EncodableUpload up) (depth : Nat) :
    (dumpTo 0 depth (uploadValue up)).length ≤ 45 + 64 * up.ranges.length := by
  have hmemory := length_dumpTo_handleValue_le hup.1 0 (depth + 1)
  have hkey_memory : (escapeString (ascii "memory")).length = 8 := by decide
  have hkey_ranges : (escapeString (ascii "ranges")).length = 8 := by decide
  have harray := length_dumpTo_array_le (depth + 1) (up.ranges.map rangeValue)
  have hranges : ((up.ranges.map rangeValue).map
      fun v => (dumpTo 0 (depth + 1 + 1) v).length + 1).sum ≤ up.ranges.length * 64 := by
    rw [List.map_map]
    refine (List.sum_le_card_nsmul _ 64 ?_).trans (by simp)
    intro n hn
    obtain ⟨r, hr, rfl⟩ := List.mem_map.mp hn
    exact Nat.succ_le_succ (length_dumpTo_rangeValue_le (hup.2 r hr) _)
  simp only [uploadValue_eq, dumpTo_object_cons, membersText, dumpMembers, separator_cons,
    separator_nil, colon, padding_zero, newline_zero, List.length_append, List.length_cons,
    List.length_nil, lt_irrefl, if_false, hkey_memory, hkey_ranges]
  omega

/-- The header of a request with `n` ranges and at most as many uploads. -/
theorem length_header_le (req : WriteMemoryRangesRequest)
    (hencodable : ∀ up ∈ req.uploads, EncodableUpload up)
    (hne : ∀ up ∈ req.uploads, up.ranges ≠ []) :
    (dump req.header 0).length ≤ 14 + 110 * (req.uploads.map fun up => up.ranges.length).sum := by
  have hkey : (escapeString (ascii "uploads")).length = 9 := by decide
  have harray := length_dumpTo_array_le (0 + 1) (req.uploads.map uploadValue)
  have huploads : ((req.uploads.map uploadValue).map
      fun v => (dumpTo 0 (0 + 1 + 1) v).length + 1).sum ≤
      (req.uploads.map fun up => 110 * up.ranges.length).sum := by
    rw [List.map_map]
    refine List.sum_le_sum fun up hup => ?_
    have hlength := length_dumpTo_uploadValue_le (hencodable up hup) (0 + 1 + 1)
    have hpos := List.length_pos_of_ne_nil (hne up hup)
    simp only [Function.comp_apply]
    omega
  rw [List.sum_map_mul_left] at huploads
  simp only [dump, header_eq, dumpTo_object_cons, membersText, dumpMembers,
    separator_nil, colon, padding_zero, newline_zero, List.length_append, List.length_cons,
    List.length_nil, lt_irrefl, if_false, hkey]
  omega

end HeaderSize

end VkRelay.Worker
