import VkRelay.Wire.JsonNumber

/-!
Parsing what the serializer printed, at every indent. The text of any value is parsed
as the value with its numbers reparsed, or refused where one of its numbers has a
text that is no JSON number or out of the range of `stod`. A value of null, booleans,
whole numbers below ten to the fifteenth, strings of arbitrary bytes, arrays and
objects, repeated keys included, is given back.
-/

namespace VkRelay.Json

open VkRelay.Lib

/-- The values whose text is read back exactly. -/
inductive Printable : Value → Prop
  | null : Printable .null
  | bool (b : Bool) : Printable (.bool b)
  | number (n : ℤ) (hn : n.natAbs < 10 ^ 15) : Printable (.number n)
  | string (text : Bytes) : Printable (.string text)
  | array (items : List Value) (hitems : ∀ v ∈ items, Printable v) : Printable (.array items)
  | object (members : List (Bytes × Value)) (hmembers : ∀ m ∈ members, Printable m.2) :
      Printable (.object members)

mutual

/-- What a value's text is parsed as. -/
def reparse : Value → Option Value
  | .null => some .null
  | .bool b => some (.bool b)
  | .number value => (stod (dumpNumber value)).map .number
  | .nonFinite _ _ => none
  | .string text => some (.string text)
  | .array items => (reparseItems items).map .array
  | .object members => (reparseMembers members).map .object

def reparseItems : List Value → Option (List Value)
  | [] => some []
  | item :: rest => do
    let item ← reparse item
    let rest ← reparseItems rest
    some (item :: rest)

def reparseMembers : List (Bytes × Value) → Option (List (Bytes × Value))
  | [] => some []
  | (key, v) :: rest => do
    let v ← reparse v
    let rest ← reparseMembers rest
    some ((key, v) :: rest)

end

section Values

variable {indent depth pos : Nat}

theorem blank_newline (indent : Nat) : Blank (newline indent) := by
  unfold newline
  split_ifs <;> simp [Blank, isSpace]

theorem blank_padding (indent depth : Nat) : Blank (padding indent depth) := by
  intro c hc
  rw [padding] at hc
  rw [List.eq_of_mem_replicate hc]
  decide

theorem Blank.append {ws more : Bytes} (hws : Blank ws) (hmore : Blank more) :
    Blank (ws ++ more) := by
  intro c hc
  rcases List.mem_append.mp hc with hc | hc
  · exact hws c hc
  · exact hmore c hc

theorem notAhead_cons {p : UInt8 → Bool} {c : UInt8} {rest : Bytes} (hc : p c = false) :
    NotAhead p (c :: rest) := by
  simpa [NotAhead] using hc

/-- Blanks in front of a byte of neither class do not continue a number. -/
theorem notAhead_blank {ws rest : Bytes} (hws : Blank ws)
    (hrest : NotAhead continuesNumber rest) : NotAhead continuesNumber (ws ++ rest) := by
  cases ws with
  | nil => exact hrest
  | cons c ws =>
    have hc : isSpace c = true := hws c (by simp)
    refine notAhead_cons ?_
    simp only [isSpace, Bool.or_eq_true, decide_eq_true_eq] at hc
    rcases hc with ((rfl | rfl) | rfl) | rfl <;> decide

/-- A byte that starts a number starts nothing else. -/
theorem number_start {c : UInt8} (hc : c = 0x2d ∨ isDigit c = true) :
    isSpace c = false ∧ c ≠ 0x5d ∧ c ≠ 0x7b ∧ c ≠ 0x5b ∧ c ≠ 0x22 ∧ ¬(c = 0x74 ∨ c = 0x66) ∧
      c ≠ 0x6e := by
  have hne : ∀ b : UInt8, b ≠ 0x2d → isDigit b = false → c ≠ b := by
    rintro b hminus hdigit rfl
    simp [hminus, hdigit] at hc
  simp only [isSpace, Bool.or_eq_false_iff, decide_eq_false_iff_not, not_or]
  refine ⟨⟨⟨⟨?_, ?_⟩, ?_⟩, ?_⟩, ?_, ?_, ?_, ?_, ⟨?_, ?_⟩, ?_⟩ <;>
    exact hne _ (by decide) (by decide)

/-- The printed text of a value starts with a byte that is neither a blank nor a
closing bracket. -/
theorem dumpTo_head (indent depth : Nat) (v : Value) :
    ∃ c tail, dumpTo indent depth v = c :: tail ∧ isSpace c = false ∧ c ≠ 0x5d := by
  cases v with
  | null => exact ⟨_, _, rfl, by decide, by decide⟩
  | bool b => cases b <;> exact ⟨_, _, rfl, by decide, by decide⟩
  | number value =>
    obtain ⟨c, tail, htext, hc⟩ := (numberToken value).text_head
    obtain ⟨hspace, hbracket, -⟩ := number_start hc
    exact ⟨c, tail, by rw [dumpTo, dumpNumber_eq, htext], hspace, hbracket⟩
  | nonFinite negative nan =>
    cases negative <;> cases nan <;> exact ⟨_, _, rfl, by decide, by decide⟩
  | string text => exact ⟨0x22, _, rfl, by decide, by decide⟩
  | array items =>
    cases items with
    | nil => exact ⟨0x5b, _, rfl, by decide, by decide⟩
    | cons v items => exact ⟨0x5b, _, rfl, by decide, by decide⟩
  | object members =>
    cases members with
    | nil => exact ⟨0x7b, _, rfl, by decide, by decide⟩
    | cons m members => exact ⟨0x7b, _, rfl, by decide, by decide⟩

@[simp] theorem separator_nil {α : Type*} : separator ([] : List α) = [] := rfl

@[simp] theorem separator_cons {α : Type*} (next : α) (rest : List α) :
    separator (next :: rest) = [0x2c] := rfl

variable {close : UInt8} (text : Bytes)

/-- After the last item, only blanks stand in front of the closing byte. -/
theorem next_close (hclose : isSpace close = false) (rest : Bytes) :
    next (skipWs ⟨pos, newline indent ++ (padding indent depth ++ close :: rest)⟩) =
      .ok (close, ⟨pos + (newline indent).length + (padding indent depth).length + 1, rest⟩) := by
  rw [← List.append_assoc, skipWs_append
    ((blank_newline indent).append (blank_padding indent depth)) (notAhead_cons hclose), next_cons,
    List.length_append]
  simp only [Nat.add_assoc]

theorem next_comma (rest : Bytes) :
    next (skipWs ⟨pos, 0x2c :: rest⟩) = .ok (0x2c, ⟨pos + 1, rest⟩) := by
  rw [skipWs_stop (notAhead_cons (by decide)), next_cons]

/-- The end of a container does not continue a number. -/
theorem notAhead_close (hclose : continuesNumber close = false) (rest : Bytes) :
    NotAhead continuesNumber (newline indent ++ (padding indent depth ++ close :: rest)) :=
  notAhead_blank (blank_newline indent)
    (notAhead_blank (blank_padding indent depth) (notAhead_cons hclose))

theorem toOption_ok {ε α : Type} (a : α) : (Except.ok a : Except ε α).toOption = some a := rfl

theorem toOption_bind {ε α β : Type} (x : Except ε α) (f : α → Except ε β) :
    (x >>= f).toOption = x.toOption >>= fun a => (f a).toOption := by
  cases x <;> rfl

theorem toOption_eq_some_iff {ε α : Type} {x : Except ε α} {a : α} :
    x.toOption = some a ↔ x = .ok a := by
  cases x <;> simp [Except.toOption]

/-- The text of one value, behind blanks and in front of text that does not
continue a number, is read as the reparsed value or refused. -/
def Reads (v : Value) : Prop :=
  ∀ (indent depth fuel pos : Nat) (ws rest : Bytes),
    (dumpTo indent depth v).length ≤ fuel → Blank ws → NotAhead continuesNumber rest →
    (parseValue fuel ⟨pos, ws ++ (dumpTo indent depth v ++ rest)⟩).toOption =
      (reparse v).map fun w => (w, ⟨pos + ws.length + (dumpTo indent depth v).length, rest⟩)

def itemsText (indent depth : Nat) (item : Value) (items : List Value) : Bytes :=
  dumpTo indent (depth + 1) item ++ (separator items ++ (newline indent ++
    (dumpItems indent depth items ++ (padding indent depth ++ [0x5d]))))

theorem itemsText_cons (item next : Value) (items : List Value) :
    itemsText indent depth item (next :: items) =
      dumpTo indent (depth + 1) item ++ (0x2c :: (newline indent ++ padding indent (depth + 1)) ++
        itemsText indent depth next items) := by
  simp [itemsText, dumpItems]

theorem parseItems_itemsText (items : List Value) (hread : ∀ v ∈ items, Reads v)
    {item : Value} (hitem : Reads item) (fuel : Nat) (ws rest : Bytes) (hws : Blank ws)
    (hfuel : (itemsText indent depth item items).length ≤ fuel) :
    (parseItems fuel ⟨pos, ws ++ (itemsText indent depth item items ++ rest)⟩).toOption =
      (reparseItems (item :: items)).map fun out =>
        (out, ⟨pos + ws.length + (itemsText indent depth item items).length, rest⟩) := by
  induction items generalizing item fuel pos ws with
  | nil =>
    have htext : itemsText indent depth item [] = dumpTo indent (depth + 1) item ++
        (newline indent ++ (padding indent depth ++ [0x5d])) := by
      simp [itemsText, dumpItems]
    rw [htext] at hfuel ⊢
    simp only [List.length_append, List.length_singleton] at hfuel
    obtain ⟨fuel, rfl⟩ := Nat.exists_eq_add_one_of_ne_zero (by omega : fuel ≠ 0)
    simp only [List.append_assoc, List.singleton_append, parseItems]
    rw [toOption_bind,
      hitem indent (depth + 1) fuel pos ws _ (by omega) hws (notAhead_close (by decide) rest)]
    simp only [reparseItems]
    cases reparse item with
    | none => rfl
    | some w =>
      simp only [Option.map_some, Option.bind_eq_bind, Option.bind_some, toOption_bind,
        toOption_ok, next_close (by decide : isSpace 0x5d = false)]
      simp [toOption_ok, Nat.add_assoc]
  | cons next items ih =>
    rw [itemsText_cons] at hfuel ⊢
    simp only [List.length_append, List.length_cons] at hfuel
    obtain ⟨fuel, rfl⟩ := Nat.exists_eq_add_one_of_ne_zero (by omega : fuel ≠ 0)
    simp only [List.append_assoc, List.cons_append, parseItems]
    rw [toOption_bind,
      hitem indent (depth + 1) fuel pos ws _ (by omega) hws (notAhead_cons (by decide))]
    have hrest := fun pos => @ih pos (fun v hv => hread v (List.mem_cons_of_mem _ hv)) next
      (hread next List.mem_cons_self) fuel (newline indent ++ padding indent (depth + 1))
      ((blank_newline indent).append (blank_padding indent (depth + 1))) (by omega)
    simp only [List.append_assoc] at hrest
    rw [reparseItems]
    cases reparse item with
    | none => rfl
    | some w =>
      simp only [Option.map_some, Option.bind_eq_bind, Option.bind_some, toOption_bind,
        toOption_ok, next_comma, if_true, hrest]
      cases reparseItems (next :: items) with
      | none => rfl
      | some out => simp [Nat.add_assoc, Nat.add_comm, Nat.add_left_comm]

def membersText (indent depth : Nat) (key : Bytes) (v : Value) (members : List (Bytes × Value)) :
    Bytes :=
  escapeString key ++ (colon indent ++ (dumpTo indent (depth + 1) v ++ (separator members ++
    (newline indent ++ (dumpMembers indent depth members ++ (padding indent depth ++ [0x7d]))))))

theorem membersText_cons (key name : Bytes) (v w : Value) (members : List (Bytes × Value)) :
    membersText indent depth key v ((name, w) :: members) =
      escapeString key ++ (colon indent ++ (dumpTo indent (depth + 1) v ++
        (0x2c :: (newline indent ++ padding indent (depth + 1)) ++
          membersText indent depth name w members))) := by
  simp [membersText, dumpMembers]

theorem escapeString_head : ∃ tail, escapeString text = 0x22 :: tail :=
  ⟨_, rfl⟩

theorem colon_eq (indent : Nat) : ∃ ws, colon indent = 0x3a :: ws ∧ Blank ws := by
  unfold colon
  split_ifs
  · exact ⟨[0x20], rfl, by simp [Blank, isSpace]⟩
  · exact ⟨[], rfl, by simp [Blank]⟩

variable {v : Value} (fuel : Nat)

/-- Reading one member up to the end of its value. -/
theorem parseMembers_member (hv : Reads v) (key : Bytes) (fuel : Nat) (ws rest : Bytes)
    (hws : Blank ws) (hfuel : (dumpTo indent (depth + 1) v).length ≤ fuel)
    (hrest : NotAhead continuesNumber rest) :
    (parseMembers (fuel + 1) ⟨pos, ws ++ (escapeString key ++ (colon indent ++
        (dumpTo indent (depth + 1) v ++ rest)))⟩).toOption =
      (reparse v).bind fun w => Except.toOption (do
        let (byte, c) ← next (skipWs ⟨pos + ws.length + ((escapeString key).length +
          (colon indent).length + (dumpTo indent (depth + 1) v).length), rest⟩)
        if byte = 0x2c then
          let (members, c) ← parseMembers fuel c
          .ok ((key, w) :: members, c)
        else if byte = 0x7d then .ok ([(key, w)], c)
        else fail c "expected ',' or '\x7d' in object") := by
  obtain ⟨tail, hquote⟩ := escapeString_head key
  obtain ⟨blanks, hcolon, hblanks⟩ := colon_eq indent
  have hstart : NotAhead isSpace (escapeString key ++ (colon indent ++
      (dumpTo indent (depth + 1) v ++ rest))) := by
    rw [hquote]
    exact notAhead_cons (by decide)
  have hpeek : ∀ p tail', peek ⟨p, escapeString key ++ tail'⟩ = 0x22 := by
    intro p tail'
    rw [hquote, List.cons_append, peek_cons]
  simp only [parseMembers, skipWs_append hws hstart, hpeek, ne_eq, not_true_eq_false, if_false,
    toOption_bind, parseString_escapeString, toOption_ok, Option.bind_eq_bind, Option.bind_some]
  rw [hcolon, List.cons_append, skipWs_stop (notAhead_cons (by decide)), expect_cons]
  simp only [toOption_ok, Option.bind_some,
    hv indent (depth + 1) fuel _ blanks rest hfuel hblanks hrest]
  cases reparse v with
  | none => rfl
  | some w =>
    simp only [Option.map_some, Option.bind_some, List.length_cons, Nat.add_assoc, Nat.add_comm 1]

theorem parseMembers_membersText (members : List (Bytes × Value))
    (hread : ∀ m ∈ members, Reads m.2) (key : Bytes) {v : Value} (hv : Reads v)
    (fuel : Nat) (ws rest : Bytes) (hws : Blank ws)
    (hfuel : (membersText indent depth key v members).length ≤ fuel) :
    (parseMembers fuel ⟨pos, ws ++ (membersText indent depth key v members ++ rest)⟩).toOption =
      (reparseMembers ((key, v) :: members)).map fun out =>
        (out, ⟨pos + ws.length + (membersText indent depth key v members).length, rest⟩) := by
  induction members generalizing key v fuel pos ws with
  | nil =>
    have htext : membersText indent depth key v [] = escapeString key ++ (colon indent ++
        (dumpTo indent (depth + 1) v ++ (newline indent ++ (padding indent depth ++ [0x7d])))) := by
      simp [membersText, dumpMembers]
    rw [htext] at hfuel ⊢
    simp only [List.length_append, List.length_singleton] at hfuel
    obtain ⟨fuel, rfl⟩ := Nat.exists_eq_add_one_of_ne_zero (by omega : fuel ≠ 0)
    simp only [List.append_assoc, List.singleton_append]
    rw [parseMembers_member hv key fuel ws _ hws (by omega) (notAhead_close (by decide) rest)]
    simp only [reparseMembers]
    cases reparse v with
    | none => rfl
    | some w =>
      simp only [Option.bind_eq_bind, Option.bind_some, toOption_bind, toOption_ok,
        next_close (by decide : isSpace 0x7d = false)]
      simp [toOption_ok, Nat.add_assoc]
  | cons m members ih =>
    obtain ⟨name, w⟩ := m
    rw [membersText_cons] at hfuel ⊢
    simp only [List.length_append, List.length_cons] at hfuel
    obtain ⟨fuel, rfl⟩ := Nat.exists_eq_add_one_of_ne_zero (by omega : fuel ≠ 0)
    simp only [List.append_assoc, List.cons_append]
    rw [parseMembers_member hv key fuel ws _ hws (by omega) (notAhead_cons (by decide))]
    have hrest := fun pos => @ih pos (fun m hm => hread m (List.mem_cons_of_mem _ hm)) name w
      (hread (name, w) List.mem_cons_self) fuel (newline indent ++ padding indent (depth + 1))
      ((blank_newline indent).append (blank_padding indent (depth + 1))) (by omega)
    simp only [List.append_assoc] at hrest
    rw [reparseMembers]
    cases reparse v with
    | none => rfl
    | some u =>
      simp only [Option.bind_eq_bind, Option.bind_some, toOption_bind, toOption_ok, next_comma,
        if_true, hrest]
      cases reparseMembers ((name, w) :: members) with
      | none => rfl
      | some out => simp [Nat.add_assoc, Nat.add_comm, Nat.add_left_comm]

theorem dumpTo_array_cons (item : Value) (items : List Value) :
    dumpTo indent depth (.array (item :: items)) =
      0x5b :: (newline indent ++ padding indent (depth + 1)) ++
        itemsText indent depth item items := by
  simp [dumpTo, dumpItems, itemsText]

theorem dumpTo_object_cons (key : Bytes) (v : Value) (members : List (Bytes × Value)) :
    dumpTo indent depth (.object ((key, v) :: members)) =
      0x7b :: (newline indent ++ padding indent (depth + 1)) ++
        membersText indent depth key v members := by
  simp [dumpTo, dumpMembers, membersText]

/-- A value's text is found behind blanks. -/
theorem parseValue_skip {ws : Bytes} {c : UInt8} (tail : Bytes) (hws : Blank ws)
    (hspace : isSpace c = false) :
    parseValue (fuel + 1) ⟨pos, ws ++ c :: tail⟩ =
      parseValue (fuel + 1) ⟨pos + ws.length, c :: tail⟩ := by
  simp only [parseValue, skipWs_append hws (notAhead_cons hspace),
    skipWs_stop (notAhead_cons hspace)]

section Container

variable {α : Type} {opening closing : UInt8} (make : List α → Value)
  (inside : Cursor → Except Failure (List α × Cursor))

theorem parseContainer_nil (rest : Bytes) (hclosing : isSpace closing = false) :
    parseContainer opening closing make inside ⟨pos, opening :: closing :: rest⟩ =
      .ok (make [], ⟨pos + 2, rest⟩) := by
  simp [parseContainer, skipWs_stop (notAhead_cons hclosing), bind, Except.bind, advance]

/-- An opening byte with something other than its closing one behind it. -/
theorem parseContainer_cons {ws : Bytes} {c : UInt8} (tail : Bytes) (hws : Blank ws)
    (hspace : isSpace c = false) (hc : c ≠ closing) :
    (parseContainer opening closing make inside ⟨pos, opening :: (ws ++ c :: tail)⟩).toOption =
      (inside ⟨pos + 1 + ws.length, c :: tail⟩).toOption.map fun out => (make out.1, out.2) := by
  simp only [parseContainer, expect_cons, bind, Except.bind,
    skipWs_append hws (notAhead_cons hspace), peek_cons, if_neg hc]
  cases inside ⟨pos + 1 + ws.length, c :: tail⟩ <;> rfl

end Container

/-- It is enough to read a value whose text stands at the cursor. -/
theorem reads_of_start (hread : ∀ (indent depth fuel pos : Nat) (rest : Bytes),
      (dumpTo indent depth v).length ≤ fuel + 1 → NotAhead continuesNumber rest →
      (parseValue (fuel + 1) ⟨pos, dumpTo indent depth v ++ rest⟩).toOption =
        (reparse v).map fun w => (w, ⟨pos + (dumpTo indent depth v).length, rest⟩)) : Reads v := by
  intro indent depth fuel pos ws rest hfuel hws hrest
  obtain ⟨c, tail, htext, hspace, -⟩ := dumpTo_head indent depth v
  have hpos : fuel ≠ 0 := by
    rintro rfl
    simp [htext] at hfuel
  obtain ⟨fuel, rfl⟩ := Nat.exists_eq_add_one_of_ne_zero hpos
  rw [← hread indent depth fuel _ rest hfuel hrest, htext]
  exact congrArg _ (parseValue_skip fuel (tail ++ rest) hws hspace)

theorem reads_array {items : List Value} (hread : ∀ v ∈ items, Reads v) : Reads (.array items) := by
  refine reads_of_start ?_
  intro indent depth fuel pos rest hfuel hrest
  have hopen : ∀ text, parseValue (fuel + 1) ⟨pos, 0x5b :: text⟩ =
      parseContainer 0x5b 0x5d .array (parseItems fuel) ⟨pos, 0x5b :: text⟩ := fun text => by
    simp [parseValue, skipWs_stop (notAhead_cons (by decide : isSpace 0x5b = false))]
  cases items with
  | nil =>
    have hempty := @parseContainer_nil pos _ 0x5b 0x5d .array (parseItems fuel) rest (by decide)
    simp [dumpTo, hopen, hempty, toOption_ok, reparse, reparseItems]
  | cons item items =>
    obtain ⟨c, tail, hhead, hspace, hc⟩ := dumpTo_head indent (depth + 1) item
    obtain ⟨tail', htext⟩ : ∃ tail, itemsText indent depth item items ++ rest = c :: tail := by
      simp [itemsText, hhead]
    have hblanks := (blank_newline indent).append (blank_padding indent (depth + 1))
    rw [dumpTo_array_cons] at hfuel ⊢
    simp only [List.length_append, List.length_cons, List.cons_append] at hfuel
    have hitems := @parseItems_itemsText indent depth
      (pos + 1 + (newline indent ++ padding indent (depth + 1)).length) items
      (fun v hv => hread v (List.mem_cons_of_mem _ hv)) item (hread item List.mem_cons_self)
      fuel [] rest (by simp [Blank]) (by omega)
    rw [List.nil_append, htext] at hitems
    rw [List.append_assoc, htext, List.cons_append, hopen,
      parseContainer_cons _ _ tail' hblanks hspace hc, hitems, reparse]
    cases reparseItems (item :: items) with
    | none => rfl
    | some out => simp [Nat.add_assoc, Nat.add_comm, Nat.add_left_comm]

theorem reads_object {members : List (Bytes × Value)} (hread : ∀ m ∈ members, Reads m.2) :
    Reads (.object members) := by
  refine reads_of_start ?_
  intro indent depth fuel pos rest hfuel hrest
  have hopen : ∀ text, parseValue (fuel + 1) ⟨pos, 0x7b :: text⟩ =
      parseContainer 0x7b 0x7d .object (parseMembers fuel) ⟨pos, 0x7b :: text⟩ := fun text => by
    simp [parseValue, skipWs_stop (notAhead_cons (by decide : isSpace 0x7b = false))]
  cases members with
  | nil =>
    have hempty := @parseContainer_nil pos _ 0x7b 0x7d .object (parseMembers fuel) rest (by decide)
    simp [dumpTo, hopen, hempty, toOption_ok, reparse, reparseMembers]
  | cons m members =>
    obtain ⟨key, v⟩ := m
    obtain ⟨tail, htext⟩ :
        ∃ tail, membersText indent depth key v members ++ rest = 0x22 :: tail := by
      simp [membersText, escapeString]
    have hblanks := (blank_newline indent).append (blank_padding indent (depth + 1))
    rw [dumpTo_object_cons] at hfuel ⊢
    simp only [List.length_append, List.length_cons, List.cons_append] at hfuel
    have hmembers := @parseMembers_membersText indent depth
      (pos + 1 + (newline indent ++ padding indent (depth + 1)).length) members
      (fun m hm => hread m (List.mem_cons_of_mem _ hm)) key v
      (hread (key, v) List.mem_cons_self) fuel [] rest (by simp [Blank]) (by omega)
    rw [List.nil_append, htext] at hmembers
    rw [List.append_assoc, htext, List.cons_append, hopen,
      parseContainer_cons _ _ tail hblanks (by decide) (by decide), hmembers, reparse]
    cases reparseMembers ((key, v) :: members) with
    | none => rfl
    | some out => simp [Nat.add_assoc, Nat.add_comm, Nat.add_left_comm]

theorem reads_number (value : ℚ) : Reads (.number value) := by
  refine reads_of_start ?_
  intro indent depth fuel pos rest _ hrest
  obtain ⟨c, tail, htext, hc⟩ := (numberToken value).text_head
  obtain ⟨hspace, -, hbrace, hbracket, hquote, hbool, hnull⟩ := number_start hc
  have hnumber := @NumberText.parseNumber_text (numberToken value) pos rest hrest
  rw [dumpTo, reparse, dumpNumber_eq]
  rw [htext, List.cons_append] at hnumber ⊢
  simp only [parseValue, skipWs_stop (notAhead_cons hspace), peek_cons, hbrace, hbracket, hquote,
    hbool, hnull, hc, if_false, if_true, hnumber]
  cases stod (c :: tail) <;> rfl

theorem reads_string : Reads (.string text) := by
  refine reads_of_start ?_
  intro indent depth fuel pos rest _ _
  have hread := @parseString_escapeString pos text rest
  obtain ⟨tail, hquote⟩ := escapeString_head text
  rw [dumpTo]
  rw [hquote, List.cons_append] at hread ⊢
  simp [parseValue, skipWs_stop (notAhead_cons (by decide : isSpace 0x22 = false)), hread, bind,
    Except.bind, toOption_ok, reparse]

/-- A sign alone is no number. -/
theorem parseNumber_lone_sign {c : UInt8} (tail : Bytes) (hc : continuesNumber c = false) :
    parseNumber ⟨pos, 0x2d :: c :: tail⟩ = fail ⟨pos + 1, c :: tail⟩ "invalid number" := by
  simp only [continuesNumber, Bool.or_eq_false_iff, decide_eq_false_iff_not] at hc
  simp [parseNumber, skipSign, skipDigits, skipFraction, skipExponent, advance, hc]

/-- No text of a value that is not finite is read: the parser knows no such
literal, and a sign alone is no number. -/
theorem reads_nonFinite (negative nan : Bool) : Reads (.nonFinite negative nan) := by
  refine reads_of_start ?_
  intro indent depth fuel pos rest _ _
  cases negative
  · cases nan <;> rfl
  · cases nan
    · exact congrArg Except.toOption (parseNumber_lone_sign (0x6e :: 0x66 :: rest) (by decide))
    · exact congrArg Except.toOption (parseNumber_lone_sign (0x61 :: 0x6e :: rest) (by decide))

mutual

/-- Every value's text is read as the reparsed value or refused. -/
theorem reads : ∀ v : Value, Reads v
  | .null => reads_of_start fun _ _ _ _ _ _ _ => rfl
  | .bool true => reads_of_start fun _ _ _ _ _ _ _ => rfl
  | .bool false => reads_of_start fun _ _ _ _ _ _ _ => rfl
  | .number value => reads_number value
  | .nonFinite negative nan => reads_nonFinite negative nan
  | .string text => reads_string text
  | .array items => reads_array (reads_items items)
  | .object members => reads_object (reads_members members)

theorem reads_items : ∀ (items : List Value), ∀ v ∈ items, Reads v
  | [] => by simp
  | item :: items => List.forall_mem_cons.mpr ⟨reads item, reads_items items⟩

theorem reads_members : ∀ (members : List (Bytes × Value)), ∀ m ∈ members, Reads m.2
  | [] => by simp
  | (_, v) :: members => List.forall_mem_cons.mpr ⟨reads v, reads_members members⟩

end

/-- Print and parse: the document of a value is read as the reparsed value, compact
or pretty, and refused when a value in it cannot be read. -/
theorem toOption_parseDocument_dump (v : Value) (indent : Nat) :
    (parseDocument (dump v indent)).toOption = reparse v := by
  obtain ⟨c, tail, htext, hspace, -⟩ := dumpTo_head indent 0 v
  have hstart : skipWs ⟨0, dumpTo indent 0 v⟩ = ⟨0, dumpTo indent 0 v⟩ :=
    skipWs_stop (by rw [htext]; exact notAhead_cons hspace)
  have hread := reads v indent 0 (parseFuel (dumpTo indent 0 v).length) 0 [] []
    (by rw [parseFuel]; omega) (by simp [Blank]) (by simp [NotAhead])
  rw [List.nil_append, List.append_nil] at hread
  have hend := fun pos => @skipWs_stop pos [] (by simp [NotAhead])
  simp only [parseDocument, dump, hstart, toOption_bind, hread]
  cases reparse v with
  | none => rfl
  | some w => simp [hend, toOption_ok]

theorem reparseItems_eq_self {items : List Value}
    (hitems : ∀ v ∈ items, reparse v = some v) : reparseItems items = some items := by
  induction items with
  | nil => rfl
  | cons item items ih =>
    obtain ⟨hitem, hrest⟩ := List.forall_mem_cons.mp hitems
    simp [reparseItems, hitem, ih hrest]

theorem reparseMembers_eq_self {members : List (Bytes × Value)}
    (hmembers : ∀ m ∈ members, reparse m.2 = some m.2) :
    reparseMembers members = some members := by
  induction members with
  | nil => rfl
  | cons m members ih =>
    obtain ⟨hm, hrest⟩ := List.forall_mem_cons.mp hmembers
    simp [reparseMembers, hm, ih hrest]

/-- A printable value reparses as itself, by induction on the value. -/
theorem Printable.reparse_eq (hv : Printable v) : reparse v = some v := by
  induction hv with
  | null => rfl
  | bool b => rfl
  | number n hn => simp [reparse, stod_dumpNumber_intCast (show n.natAbs < 2 ^ 53 by omega)]
  | string text => rfl
  | array items _ ih => simp [reparse, reparseItems_eq_self ih]
  | object members _ ih => simp [reparse, reparseMembers_eq_self ih]

/-- The document of every printable value is read as that value. -/
theorem parseDocument_dump (hv : Printable v) (indent : Nat) :
    parseDocument (dump v indent) = .ok v := by
  have hread := toOption_parseDocument_dump v indent
  rw [hv.reparse_eq] at hread
  exact toOption_eq_some_iff.mp hread

end Values

/-! ## Doubles -/

section Doubles

/-- Zero, or a normal double with its sign. -/
def IsPlainNumber (q : ℚ) : Prop := q = 0 ∨ ∃ m k, IsNormal m k ∧ |q| = m * (2 : ℚ) ^ k

/-- The values whose numbers are doubles, infinities and NaNs included. -/
inductive Representable : Value → Prop
  | null : Representable .null
  | bool (b : Bool) : Representable (.bool b)
  | plain (q : ℚ) (hq : IsPlainNumber q) : Representable (.number q)
  | subnormal (q : ℚ) (m : Nat) (hm : IsSubnormal m) (hq : |q| = m * (2 : ℚ) ^ (-1074 : ℤ)) :
      Representable (.number q)
  | nonFinite (negative nan : Bool) : Representable (.nonFinite negative nan)
  | string (text : Bytes) : Representable (.string text)
  | array (items : List Value) (hitems : ∀ v ∈ items, Representable v) :
      Representable (.array items)
  | object (members : List (Bytes × Value)) (hmembers : ∀ m ∈ members, Representable m.2) :
      Representable (.object members)

/-- The values none of whose numbers is infinite, a NaN or subnormal. -/
inductive Plain : Value → Prop
  | null : Plain .null
  | bool (b : Bool) : Plain (.bool b)
  | number (q : ℚ) (hq : IsPlainNumber q) : Plain (.number q)
  | string (text : Bytes) : Plain (.string text)
  | array (items : List Value) (hitems : ∀ v ∈ items, Plain v) : Plain (.array items)
  | object (members : List (Bytes × Value)) (hmembers : ∀ m ∈ members, Plain m.2) :
      Plain (.object members)

theorem Plain.reparse_eq {v : Value} (hv : Plain v) : reparse v = some v := by
  induction hv with
  | null => rfl
  | bool b => rfl
  | number q hq =>
    rcases hq with rfl | ⟨m, k, hnormal, heq⟩
    · rw [reparse, stod_dumpNumber_zero, Option.map_some]
    · rw [reparse, stod_dumpNumber_normal hnormal heq, Option.map_some]
  | string text => rfl
  | array items _ ih => rw [reparse, reparseItems_eq_self ih, Option.map_some]
  | object members _ ih => rw [reparse, reparseMembers_eq_self ih, Option.map_some]

theorem reparseItems_eq_none {items : List Value} {v : Value} (hmem : v ∈ items)
    (hnone : reparse v = none) : reparseItems items = none := by
  induction items with
  | nil => cases hmem
  | cons item items ih =>
    rcases List.mem_cons.mp hmem with rfl | hrest
    · simp [reparseItems, hnone]
    · simp [reparseItems, ih hrest]

theorem reparseMembers_eq_none {members : List (Bytes × Value)} {m : Bytes × Value}
    (hmem : m ∈ members) (hnone : reparse m.2 = none) : reparseMembers members = none := by
  induction members with
  | nil => cases hmem
  | cons first members ih =>
    rcases List.mem_cons.mp hmem with rfl | hrest
    · simp [reparseMembers, hnone]
    · simp [reparseMembers, ih hrest]

/-- A value of doubles that has one whose text is refused is refused. -/
theorem Representable.plain_or_refused {v : Value} (hv : Representable v) :
    Plain v ∨ reparse v = none := by
  induction hv with
  | null => exact .inl .null
  | bool b => exact .inl (.bool b)
  | plain q hq => exact .inl (.number q hq)
  | subnormal q m hm hq =>
    right
    rw [reparse, stod_dumpNumber_subnormal hm hq, Option.map_none]
  | nonFinite negative nan => exact .inr rfl
  | string text => exact .inl (.string text)
  | array items _ ih =>
    by_cases hplain : ∀ v ∈ items, Plain v
    · exact .inl (.array items hplain)
    · push Not at hplain
      obtain ⟨v, hmem, hbad⟩ := hplain
      right
      rw [reparse, reparseItems_eq_none hmem ((ih v hmem).resolve_left hbad), Option.map_none]
  | object members _ ih =>
    by_cases hplain : ∀ m ∈ members, Plain m.2
    · exact .inl (.object members hplain)
    · push Not at hplain
      obtain ⟨m, hmem, hbad⟩ := hplain
      right
      rw [reparse, reparseMembers_eq_none hmem ((ih m hmem).resolve_left hbad), Option.map_none]

end Doubles

end VkRelay.Json
