import VkRelay.Lib.Machine
import VkRelay.Wire.RecordFrames

/-!
The record body as a whole. What `from_wire` makes of an encoded request is the
verdict on each of its commands; pieces and extensions of an encoding, and streams
with an unknown group bit, are rejected; and whatever bytes are accepted, the tail is
used up by the commands.
-/

namespace VkRelay.Wire.Record

open VkRelay.Lib VkRelay.Json

namespace RecordCommandBufferRequest

variable (r : RecordCommandBufferRequest Int32)

def envelope : Bytes := storeLe32 (dump r.header 0).length ++ dump r.header 0

/-- The header and the body fit their caps. -/
def WithinCaps : Prop :=
  (dump r.header 0).length ≤ kMaxBinaryJsonHeaderBytes ∧
    (r.envelope ++ r.tail).length ≤ kMaxFrameBytes - kRpcHeaderBytes

instance : Decidable r.WithinCaps := inferInstanceAs (Decidable (_ ∧ _))

theorem length_putCommand_ge (c : RecordedCommand Int32) : 16 ≤ (putCommand c).length := by
  simp [putCommand, putStr]
  omega

theorem length_tail_ge : r.commands.length * 16 ≤ r.tail.length :=
  length_flatMap_ge r.commands fun c _ => length_putCommand_ge c

variable {r}

theorem startBinaryEnvelope_eq {reserve : Nat}
    (hheader : (dump r.header 0).length ≤ kMaxBinaryJsonHeaderBytes)
    (hframe : r.envelope.length + reserve ≤ kMaxFrameBytes - kRpcHeaderBytes) :
    startBinaryEnvelope r.header reserve "record" = .ok r.envelope := by
  have hlength : r.envelope.length = 4 + (dump r.header 0).length := by
    simp [envelope, storeLe32]
    omega
  rw [startBinaryEnvelope]
  simp only [Nat.not_lt.mpr hheader, if_false]
  rw [if_neg (by omega)]
  rfl

/-- Within the caps the body is the envelope and the commands. -/
theorem toWire_eq (hcaps : r.WithinCaps) : r.toWire = r.envelope ++ r.tail := by
  obtain ⟨hheader, hframe⟩ := hcaps
  have htail := r.length_tail_ge
  rw [List.length_append] at hframe
  have hreserve : r.reserve = r.commands.length * 16 := if_pos (by omega)
  rw [toWire, startBinaryEnvelope_eq hheader (by omega)]
  simp only [List.length_append, Nat.not_lt.mpr hframe, if_false]

/-- A request is encoded exactly when it is within the caps. -/
theorem toWire_ne_nil_iff : r.toWire ≠ [] ↔ r.WithinCaps := by
  constructor
  · intro hencoded
    unfold toWire startBinaryEnvelope at hencoded
    dsimp only at hencoded
    split_ifs at hencoded with hheader hframe
    · exact absurd rfl hencoded
    · exact absurd rfl hencoded
    · dsimp only at hencoded
      split_ifs at hencoded with hbody
      · exact absurd rfl hencoded
      · exact ⟨Nat.not_lt.mp hheader, Nat.not_lt.mp hbody⟩
  · intro hcaps
    rw [toWire_eq hcaps]
    simp [envelope, storeLe32]

theorem WithinCaps.count_lt (hcaps : r.WithinCaps) : r.commands.length < 2 ^ 24 := by
  have htail := r.length_tail_ge
  have hframe := hcaps.2
  rw [List.length_append, kMaxFrameBytes] at hframe
  omega

theorem WithinCaps.length_putCommand_lt (hcaps : r.WithinCaps) {c : RecordedCommand Int32}
    (hc : c ∈ r.commands) : (putCommand c).length < 2 ^ 64 := by
  have hword := (List.sublist_flatten_of_mem (List.mem_map_of_mem (f := putCommand) hc)).length_le
  have hframe := hcaps.2
  rw [List.length_append, tail, List.flatMap, kMaxFrameBytes] at hframe
  omega

theorem printable_header (hcaps : r.WithinCaps) : Printable r.header := by
  have hcount : Printable (.number ((r.commands.length : ℤ) : ℚ)) :=
    .number _ (by have := hcaps.count_lt; omega)
  have hversion : Printable (.number ((2 : ℤ) : ℚ)) := .number 2 (by decide)
  refine .object _ ?_
  simpa [handleValue, Printable.string, Printable.bool] using ⟨hversion, hcount⟩

section Decoded

variable {ι : Type} (cast : Int64 → ι)

def withCommands (r : RecordCommandBufferRequest Int32) (commands : List (RecordedCommand ι)) :
    RecordCommandBufferRequest ι :=
  ⟨r.commandBuffer, r.recordingGeneration, r.oneTimeSubmit, commands⟩

theorem handle_header :
    UInt64.ofNat (getHandle r.header (ascii "command_buffer")) = r.commandBuffer ∧
      UInt64.ofNat (getHandle r.header (ascii "recording_generation")) = r.recordingGeneration := by
  have hbuffer : getHandle r.header (ascii "command_buffer") = r.commandBuffer.toNat :=
    handleOf_handleValue r.commandBuffer.toNat_lt
  have hgeneration : getHandle r.header (ascii "recording_generation") =
      r.recordingGeneration.toNat := handleOf_handleValue r.recordingGeneration.toNat_lt
  rw [hbuffer, hgeneration, UInt64.ofNat_toNat, UInt64.ofNat_toNat]
  exact ⟨rfl, rfl⟩

theorem count_header (hcount : r.commands.length < 2 ^ 24) :
    getI64Field r.header (ascii "count") (-1) = r.commands.length := by
  have hfind : r.header.find (ascii "count") = some (.number r.commands.length) := rfl
  have hlow : (-2 ^ 63 : ℚ) ≤ r.commands.length := by
    have : (0 : ℚ) ≤ r.commands.length := Nat.cast_nonneg _
    linarith
  have hhigh : (r.commands.length : ℚ) < 2 ^ 63 := by
    exact_mod_cast lt_trans hcount (by decide)
  simp only [getI64Field, hfind, Option.bind_some, i64Value, Rat.den_natCast, Rat.num_natCast, hlow,
    hhigh, and_self, if_true, Option.getD_some]

/-- The decoder takes the header of the envelope, whatever the tail. -/
theorem decodeRequest_envelope (hcaps : r.WithinCaps) {piece : Bytes}
    (hsize : (r.envelope ++ piece).length ≤ kMaxFrameBytes - kRpcHeaderBytes) :
    decodeRequest cast (r.envelope ++ piece) = decodeTail cast r.header piece := by
  have hdecode : decodeBinaryEnvelope (r.envelope ++ piece) "record" =
      .ok (r.header, r.envelope.length) := by
    refine decodeBinaryEnvelope_start (printable_header hcaps) rfl ?_
    rw [List.length_append] at hsize
    exact startBinaryEnvelope_eq hcaps.1 hsize
  rw [decodeRequest, hdecode]
  calc decodeTail cast r.header ((r.envelope ++ piece).drop r.envelope.length)
    _ = decodeTail cast r.header piece := by rw [List.drop_left]

/-- What the decoder makes of the tail, error texts aside. -/
theorem toOption_decodeTail (hcaps : r.WithinCaps) (piece : Bytes) :
    (decodeTail cast r.header piece).toOption = if r.commands.length > piece.length / 16 then none
      else ((commandReader cast).times r.commands.length).run piece >>= fun result =>
        if result.2 ≠ [] then none else some (withCommands r result.1) := by
  have hversion : getIntField r.header (ascii "v") (-1) = 2 := rfl
  have hone : getBoolField r.header (ascii "one_time_submit") = r.oneTimeSubmit := rfl
  have hnonneg : ¬ ((r.commands.length : ℤ) < 0) := by omega
  simp only [decodeTail, hversion, count_header hcaps.count_lt, hone, handle_header, hnonneg,
    Int.toNat_natCast, ne_eq, not_true_eq_false, if_false]
  by_cases hcount : r.commands.length > piece.length / 16
  · rw [if_pos hcount, if_pos hcount]
    rfl
  · rw [if_neg hcount, if_neg hcount, toOption_bind, toOption_getCommands]
    refine congrArg _ (funext fun result => ?_)
    by_cases hrest : result.2 = []
    · rw [if_neg (not_not.mpr hrest), if_neg (not_not.mpr hrest)]
      rfl
    · rw [if_pos hrest, if_pos hrest]
      rfl

/-- The verdict on an encoded request is the verdict on its commands. -/
theorem toOption_fromWire_toWire (hcaps : r.WithinCaps) : (fromWire r.toWire).toOption =
      (r.commands.mapM RecordedCommand.verdict).map (withCommands r) := by
  have hframed := framed_times r.commands fun c hc => framed_command (hcaps.length_putCommand_lt hc)
  have hrun := hframed.whole []
  have hcount : ¬ r.commands.length > r.tail.length / 16 := by
    have htail := r.length_tail_ge
    omega
  rw [List.append_nil] at hrun
  rw [fromWire, toWire_eq hcaps, decodeRequest_envelope _ hcaps hcaps.2,
    toOption_decodeTail _ hcaps, if_neg hcount, tail, hrun]
  cases r.commands.mapM RecordedCommand.verdict <;> rfl

end Decoded

end RecordCommandBufferRequest

section Identity

namespace RecordedCommand

variable (c : RecordedCommand Int32)

/-- The command with its kind's name in place of the hints. -/
def named : RecordedCommand Int32 :=
  { c with kind := kindName c, indirectIndexed := false, indirectCounted := false }

/-- The count-buffer fields are set only on an indirect-count command. -/
def CountFieldsPlaced : Prop :=
  c.indirectCount.countBuffer ≠ 0 ∨ c.indirectCount.countBufferOffset ≠ 0 →
    isIndirectCount (kindName c)

instance : Decidable c.CountFieldsPlaced := inferInstanceAs (Decidable (_ → _))

/-- The indirect fields survive the stream: an offset comes with another indirect field,
an indirect-count command with a draw count or stride has something in its count
group, and a base indirect command is not hinted as counted. -/
def IndirectKept : Prop :=
  (c.indirectDraw.offset ≠ 0 → indirectDrawPresent c) ∧
    (isIndirectCount (kindName c) → c.indirectDraw.drawCount ≠ -1 ∨ c.indirectDraw.stride ≠ -1 →
      countPayload c) ∧
    (isBaseIndirect (kindName c) → c.indirectCounted = false)

instance : Decidable c.IndirectKept := inferInstanceAs (Decidable (_ ∧ _ ∧ _))

variable {c}

theorem carried_eq_named_iff :
    c.carried = c.named ↔ (c.indirectDraw.offset ≠ 0 → indirectDrawPresent c) := by
  have hgroup : c.carried = c.named ↔ c.carried.indirectDraw = c.indirectDraw := by
    constructor
    · intro heq
      have hdraw := congrArg RecordedCommand.indirectDraw heq
      exact hdraw
    · intro hdraw
      calc c.carried = { c.named with indirectDraw := c.carried.indirectDraw } := rfl
        _ = c.named := by rw [hdraw]; rfl
  rw [hgroup]
  cases hpresent : indirectDrawPresent c with
  | true => simp [carried, hpresent]
  | false =>
    have hdefault : c.indirectDraw = { offset := c.indirectDraw.offset } := by
      simp only [indirectDrawPresent, decide_eq_false_iff_not, not_or, not_not] at hpresent
      obtain ⟨-, hcount, hstride⟩ := hpresent
      calc c.indirectDraw
        _ = ⟨c.indirectDraw.offset, c.indirectDraw.drawCount, c.indirectDraw.stride⟩ := rfl
        _ = _ := by rw [hcount, hstride]
    have hcarried : c.carried.indirectDraw = {} := if_neg (by simp [hpresent])
    rw [hcarried]
    constructor
    · intro heq hoffset
      exact absurd (congrArg IndirectDraw.offset heq).symm hoffset
    · intro hzero
      have hoffset : c.indirectDraw.offset = 0 := by
        by_contra hne
        exact absurd (hzero hne) Bool.false_ne_true
      rw [hdefault, hoffset]

theorem not_isIndirectCount_of_base {kind : Bytes} (hbase : isBaseIndirect kind = true) :
    isIndirectCount kind = false := by
  simp only [isBaseIndirect, decide_eq_true_eq] at hbase
  rcases hbase with rfl | rfl <;> decide

theorem shapeAccepted_iff (hplaced : c.CountFieldsPlaced) : c.shapeAccepted = true ↔
      (isIndirectCount (kindName c) → c.indirectDraw.drawCount ≠ -1 ∨ c.indirectDraw.stride ≠ -1 →
        countPayload c) ∧
      (isBaseIndirect (kindName c) → c.indirectCounted = false) := by
  rw [shapeAccepted, Bool.and_eq_true, and_comm]
  refine and_congr ?_ ?_
  · cases hcount : isIndirectCount (kindName c) <;> cases hpayload : countPayload c <;>
      simp [indirectDrawPresent, hpayload]
  · cases hbase : isBaseIndirect (kindName c) with
    | false => simp
    | true =>
      have hcount := not_isIndirectCount_of_base hbase
      have hfields : ¬ (c.indirectCount.countBuffer ≠ 0 ∨ c.indirectCount.countBufferOffset ≠ 0) :=
        fun hset => by simp [hplaced hset] at hcount
      have hpayload : countPayload c = c.indirectCounted := by
        simp [countPayload, hfields]
      simp [hpayload]

end RecordedCommand

def RecordCommandBufferRequest.named (r : RecordCommandBufferRequest Int32) :
    RecordCommandBufferRequest Int32 :=
  { r with commands := r.commands.map RecordedCommand.named }

theorem RecordedCommand.indirectKept_iff {c : RecordedCommand Int32}
    (hplaced : c.CountFieldsPlaced) :
    c.IndirectKept ↔ c.carried = c.named ∧ c.shapeAccepted = true := by
  rw [carried_eq_named_iff, shapeAccepted_iff hplaced]
  rfl

/-- With the dependencies within their caps, the decoder accepts an encoded request
when it accepts the shape of every command. -/
theorem RecordCommandBufferRequest.toOption_fromWire_of_capped
    {r : RecordCommandBufferRequest Int32} (hcaps : r.WithinCaps)
    (hdeps : ∀ c ∈ r.commands, c.Capped) :
    (fromWire r.toWire).toOption = if ∀ c ∈ r.commands, c.shapeAccepted = true then
        some (withCommands r (r.commands.map RecordedCommand.carried)) else none := by
  have hverdict : r.commands.mapM RecordedCommand.verdict =
      if ∀ c ∈ r.commands, c.shapeAccepted ∧ c.Capped then
        some (r.commands.map RecordedCommand.carried) else none :=
    mapM_ite (fun c : RecordedCommand Int32 => c.shapeAccepted ∧ c.Capped) _ r.commands
  rw [toOption_fromWire_toWire hcaps, hverdict]
  by_cases hshape : ∀ c ∈ r.commands, c.shapeAccepted = true
  · rw [if_pos hshape, if_pos fun c hc => ⟨hshape c hc, hdeps c hc⟩]
    rfl
  · rw [if_neg hshape, if_neg fun hall => hshape fun c hc => (hall c hc).1]
    rfl

/-- Encoding and decoding give the request back, up to the names of its kinds, exactly
when the indirect fields of every command survive. -/
theorem fromWire_toWire_eq_named_iff (r : RecordCommandBufferRequest Int32)
    (hcaps : r.WithinCaps) (hdeps : ∀ c ∈ r.commands, c.Capped)
    (hplaced : ∀ c ∈ r.commands, c.CountFieldsPlaced) :
    fromWire r.toWire = .ok r.named ↔ ∀ c ∈ r.commands, c.IndirectKept := by
  have hkept : ∀ c ∈ r.commands,
      c.IndirectKept ↔ c.carried = c.named ∧ c.shapeAccepted = true :=
    fun c hc => RecordedCommand.indirectKept_iff (hplaced c hc)
  rw [← toOption_eq_some_iff,
    RecordCommandBufferRequest.toOption_fromWire_of_capped hcaps hdeps]
  constructor
  · intro hsome c hc
    by_cases haccepted : ∀ c ∈ r.commands, c.shapeAccepted = true
    · rw [if_pos haccepted] at hsome
      have hcommands : r.commands.map RecordedCommand.carried =
          r.commands.map RecordedCommand.named :=
        congrArg RecordCommandBufferRequest.commands (Option.some.inj hsome)
      exact (hkept c hc).mpr ⟨List.map_inj_left.mp hcommands c hc, haccepted c hc⟩
    · rw [if_neg haccepted] at hsome
      cases hsome
  · intro hall
    rw [if_pos fun c hc => ((hkept c hc).mp (hall c hc)).2,
      List.map_congr_left fun c hc => ((hkept c hc).mp (hall c hc)).1]
    rfl

/-- A counted draw named by its hints, and a command with a single field set. -/
def countedDraw : RecordCommandBufferRequest Int32 where
  commandBuffer := 7
  recordingGeneration := 1
  oneTimeSubmit := true
  commands :=
    [{ RecordedCommand.unset Int64.toInt32 [] with
        indirectDraw := ⟨64, 3, 16⟩, indirectCount := ⟨9, 0⟩, indirectCounted := true },
      { RecordedCommand.unset Int64.toInt32 (ascii "pipeline_barrier") with
        barrierRange := ⟨-1, 2, -1, -1⟩ }]

theorem counted_draw_comes_back : fromWire countedDraw.toWire = .ok countedDraw.named :=
  (fromWire_toWire_eq_named_iff countedDraw (by decide +kernel) (by decide +kernel)
    (by decide +kernel)).mpr (by decide +kernel)

/-- An indirect draw whose only indirect field is the offset. -/
def loneOffset : RecordCommandBufferRequest Int32 where
  commandBuffer := 7
  recordingGeneration := 1
  oneTimeSubmit := false
  commands := [{ RecordedCommand.unset Int64.toInt32 drawIndirect with
    indirectDraw := { offset := 64 } }]

/-- The offset alone does not set the group's bit, so the stream does not carry it. -/
theorem lone_offset_is_dropped :
    loneOffset.WithinCaps ∧ (∀ c ∈ loneOffset.commands, c.Capped) ∧
      (∀ c ∈ loneOffset.commands, c.CountFieldsPlaced) ∧
      fromWire loneOffset.toWire =
        .ok { loneOffset with commands := [RecordedCommand.unset Int64.toInt32 drawIndirect] } := by
  decide +kernel

end Identity

section FailClosed

variable {r : RecordCommandBufferRequest Int32}

def Rejects (body : Bytes) : Prop := ∃ message, fromWire body = .error message

variable {body : Bytes}

theorem rejects_of_toOption (hnone : (fromWire body).toOption = none) : Rejects body := by
  rw [Rejects]
  cases hdecode : fromWire body with
  | error message => exact ⟨message, rfl⟩
  | ok result =>
    rw [hdecode] at hnone
    cases hnone

theorem rejects_of_envelope
    (herror : ∃ message, decodeBinaryEnvelope body "record" = .error message) : Rejects body := by
  obtain ⟨message, hdecode⟩ := herror
  refine ⟨message, ?_⟩
  rw [fromWire, decodeRequest, hdecode]
  rfl

/-- A tail behind an encoded request's header is rejected when its commands are not
read, or something is left behind them. -/
theorem rejects_of_tail (hcaps : r.WithinCaps) {piece : Bytes}
    (hpiece : ∀ commands, ((commandReader Int64.toInt32).times r.commands.length).run piece ≠
      some (commands, [])) : Rejects (r.envelope ++ piece) := by
  by_cases hsize : (r.envelope ++ piece).length > kMaxFrameBytes - kRpcHeaderBytes
  · exact rejects_of_envelope (decodeBinaryEnvelope_oversized "record" hsize)
  · refine rejects_of_toOption ?_
    rw [fromWire, RecordCommandBufferRequest.decodeRequest_envelope _ hcaps (Nat.not_lt.mp hsize),
      RecordCommandBufferRequest.toOption_decodeTail _ hcaps]
    by_cases hcount : r.commands.length > piece.length / 16
    · rw [if_pos hcount]
    · rw [if_neg hcount]
      cases hrun : ((commandReader Int64.toInt32).times r.commands.length).run piece with
      | none => rfl
      | some result =>
        obtain ⟨commands, rest⟩ := result
        have hrest : rest ≠ [] := by
          rintro rfl
          exact hpiece commands hrun
        exact if_pos hrest

theorem framed_commands (hcaps : r.WithinCaps) {commands : List (RecordedCommand Int32)}
    (hsub : ∀ c ∈ commands, c ∈ r.commands) :
    ∀ c ∈ commands, Framed (putCommand c) (commandReader Int64.toInt32) c.verdict :=
  fun c hc => framed_command (hcaps.length_putCommand_lt (hsub c hc))

theorem rejects_piece (hcaps : r.WithinCaps) {seen missing : Bytes}
    (hsplit : r.toWire = seen ++ missing) (hmissing : missing ≠ []) : Rejects seen := by
  have htail := framed_times r.commands (framed_commands hcaps fun _ hc => hc)
  have hlate : ∀ piece, seen = r.envelope ++ piece → r.tail = piece ++ missing → Rejects seen := by
    rintro piece rfl hpiece
    refine rejects_of_tail hcaps fun commands => ?_
    rw [htail.part piece missing hpiece hmissing]
    exact fun hsome => by cases hsome
  rw [RecordCommandBufferRequest.toWire_eq hcaps] at hsplit
  rcases List.append_eq_append_iff.mp hsplit with ⟨piece, hseen, hpiece⟩ | ⟨cut, hcut, hrest⟩
  · exact hlate piece hseen hpiece
  · by_cases hnil : cut = []
    · subst hnil
      rw [List.append_nil] at hcut
      exact hlate [] (by rw [List.append_nil, hcut]) (by simpa using hrest.symm)
    · exact rejects_of_envelope (decodeBinaryEnvelope_cut "record" hcaps.1 hcut hnil)

theorem rejects_extension (hcaps : r.WithinCaps) {extra : Bytes} (hextra : extra ≠ []) :
    Rejects (r.toWire ++ extra) := by
  have htail := framed_times r.commands (framed_commands hcaps fun _ hc => hc)
  rw [RecordCommandBufferRequest.toWire_eq hcaps, List.append_assoc]
  refine rejects_of_tail hcaps fun commands => ?_
  rw [RecordCommandBufferRequest.tail, htail.whole extra]
  cases r.commands.mapM RecordedCommand.verdict with
  | none => exact fun hsome => by cases hsome
  | some decoded => exact fun hsome => hextra (Prod.mk.inj (Option.some.inj hsome)).2

theorem framed_unknown {kind : Bytes} (hkind : kind.length < 2 ^ 64) {mask : UInt64}
    (hmask : hasUnknownGroup mask = true) :
    Framed (putStr kind ++ putU64 mask) (commandReader Int64.toInt32) none := by
  have hword : Framed (putStr kind ++ (putU64 mask ++ [])) (commandReader Int64.toInt32) none := by
    refine (framed_str hkind).seq <| (framed_u64 mask).seq ?_
    rw [if_pos hmask]
    exact Framed.fail []
  rwa [List.append_nil] at hword

theorem rejects_unknown (hcaps : r.WithinCaps) {before after : List (RecordedCommand Int32)}
    {c : RecordedCommand Int32} (hcommands : r.commands = before ++ c :: after) {mask : UInt64}
    (hmask : hasUnknownGroup mask = true) (rest : Bytes) :
    Rejects (r.envelope ++
      (before.flatMap putCommand ++ (putStr (kindName c) ++ putU64 mask) ++ rest)) := by
  have hkind : (kindName c).length < 2 ^ 64 := by
    have hlt := hcaps.length_putCommand_lt (c := c) (by simp [hcommands])
    simp only [putCommand, putStr, List.length_append] at hlt
    omega
  have hbefore : ∀ d ∈ before, Framed (putCommand d) (commandReader Int64.toInt32) d.verdict :=
    framed_commands hcaps fun d hd => by simp [hcommands, hd]
  have hcount : before.length < r.commands.length := by simp [hcommands]
  have hbad := framed_times_refused (framed_unknown hkind hmask) before hbefore hcount
  refine rejects_of_tail hcaps fun commands => ?_
  rw [hbad.whole rest]
  exact fun hsome => by cases hsome

/-- The tail of whatever is accepted is a row of words, each of which is one command. -/
theorem words_of_fromWire (haccepted : fromWire body = .ok r) :
    ∃ header offset words, decodeBinaryEnvelope body "record" = .ok (header, offset) ∧
      body.drop offset = words.flatten ∧
      List.Forall₂ (fun word c => getCommand Int64.toInt32 word = .ok (c, []))
        words r.commands := by
  have hcommand : ∀ word c, (commandReader Int64.toInt32).run word = some (c, []) →
      getCommand Int64.toInt32 word = .ok (c, []) := by
    intro word c hrun
    rw [← toOption_getCommand] at hrun
    cases hget : getCommand Int64.toInt32 word with
    | error message =>
      rw [hget] at hrun
      cases hrun
    | ok result =>
      rw [hget] at hrun
      exact congrArg _ (Option.some.inj hrun)
  simp only [fromWire, decodeRequest, ok_rules] at haccepted
  obtain ⟨⟨header, offset⟩, hdecode, htail⟩ := haccepted
  unfold decodeTail at htail
  dsimp only at htail
  split_ifs at htail
  simp only [ok_rules] at htail
  obtain ⟨⟨commands, rest⟩, hget, hout⟩ := htail
  dsimp only at hout
  split_ifs at hout with hrest
  cases hout
  rw [not_not] at hrest
  subst hrest
  have hrun := toOption_getCommands Int64.toInt32
    (getI64Field header (ascii "count") (-1)).toNat (body.drop offset)
  rw [hget] at hrun
  obtain ⟨words, hwords, hread⟩ := (takes_command Int64.toInt32).words_of_times hrun.symm
  rw [List.append_nil] at hwords
  exact ⟨header, offset, words, hdecode, hwords, hread.imp hcommand⟩

/-- The codec is fail-closed: pieces and extensions of an encoding are rejected, so is
an encoding with an unknown group bit, and no bytes at all are accepted with a tail
that the commands do not use up. -/
theorem fromWire_fail_closed :
    (∀ r : RecordCommandBufferRequest Int32, r.toWire ≠ [] →
      (∀ seen missing, r.toWire = seen ++ missing → missing ≠ [] → Rejects seen) ∧
      (∀ extra, extra ≠ [] → Rejects (r.toWire ++ extra)) ∧
      (∀ before c after mask rest, r.commands = before ++ c :: after →
        hasUnknownGroup mask = true →
        Rejects (r.envelope ++
          (before.flatMap putCommand ++ (putStr (kindName c) ++ putU64 mask) ++ rest)))) ∧
    ∀ body r, fromWire body = .ok r →
      ∃ header offset words, decodeBinaryEnvelope body "record" = .ok (header, offset) ∧
        body.drop offset = words.flatten ∧
        List.Forall₂ (fun word c => getCommand Int64.toInt32 word = .ok (c, [])) words
          r.commands := by
  refine ⟨fun r hencoded => ?_, fun body r haccepted => words_of_fromWire haccepted⟩
  have hcaps := RecordCommandBufferRequest.toWire_ne_nil_iff.mp hencoded
  refine ⟨fun seen missing hsplit hmissing => rejects_piece hcaps hsplit hmissing,
    fun extra hextra => rejects_extension hcaps hextra, ?_⟩
  intro before c after mask rest hcommands hmask
  exact rejects_unknown hcaps hcommands hmask rest

end FailClosed

end VkRelay.Wire.Record
