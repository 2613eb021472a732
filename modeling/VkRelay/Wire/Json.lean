import VkRelay.Lib.Decimal

/-!
The JSON value, its serializer and its parser. Text is bytes. Objects keep their
members in insertion order, duplicates included. Numbers are the rational value
of a finite double: the parser rounds a literal to the nearest double and fails
where the C library reports a range error. A double that is not finite can be put
into a value and printed, but its text is no JSON.

The parser is recursive descent over a cursor that knows its offset, for the
error texts. Its recursion is run on fuel; running out is kept apart from the
errors of the source.
-/

namespace VkRelay.Json

open VkRelay.Lib

abbrev Bytes := List UInt8

def ascii (text : String) : Bytes :=
  text.toList.map fun c => UInt8.ofNat c.toNat

inductive Value where
  | null
  | bool (b : Bool)
  | number (value : ℚ)
  | nonFinite (negative nan : Bool)
  | string (text : Bytes)
  | array (items : List Value)
  | object (members : List (Bytes × Value))

namespace Value

def isObject : Value → Bool
  | .object _ => true
  | _ => false

def isInteger : Value → Bool
  | .number value => decide (value.den = 1)
  | _ => false

/-- The first member with the key; a value that is no object has none. -/
def find (obj : Value) (key : Bytes) : Option Value :=
  match obj with
  | .object members => members.lookup key
  | _ => none

/-- Replace the first member with the key, or append one. -/
def setMember (key : Bytes) (v : Value) : List (Bytes × Value) → List (Bytes × Value)
  | [] => [(key, v)]
  | (name, old) :: rest =>
    if name = key then (name, v) :: rest else (name, old) :: setMember key v rest

/-- A value that is no object becomes one first. -/
def set (obj : Value) (key : Bytes) (v : Value) : Value :=
  match obj with
  | .object members => .object (setMember key v members)
  | _ => .object [(key, v)]

end Value

section Dump

def hexDigit (d : Nat) : UInt8 :=
  UInt8.ofNat (if d < 10 then 0x30 + d else 0x61 + (d - 10))

/-- The escape of one byte: the short forms, `\\u00XX` for other control bytes,
and every other byte verbatim. -/
def escapeByte (c : UInt8) : Bytes :=
  if c = 0x22 then [0x5c, 0x22]
  else if c = 0x5c then [0x5c, 0x5c]
  else if c = 0x08 then [0x5c, 0x62]
  else if c = 0x0c then [0x5c, 0x66]
  else if c = 0x0a then [0x5c, 0x6e]
  else if c = 0x0d then [0x5c, 0x72]
  else if c = 0x09 then [0x5c, 0x74]
  else if c < 0x20 then
    [0x5c, 0x75, 0x30, 0x30, hexDigit (c.toNat / 16), hexDigit (c.toNat % 16)]
  else [c]

def escapeString (text : Bytes) : Bytes :=
  [0x22] ++ text.flatMap escapeByte ++ [0x22]

/-- `std::to_string` of a whole number. -/
def dumpInteger (n : ℤ) : Bytes :=
  if n < 0 then 0x2d :: decimal n.natAbs else decimal n.natAbs

/-- The decimal exponent of a non-zero magnitude: the power of ten of its first
significant digit, found from the given starting point. -/
def decimalExponent (magnitude : ℚ) : Nat → ℤ → ℤ
  | 0, e => e
  | fuel + 1, e =>
    if (10 : ℚ) ^ (e + 1) ≤ magnitude then decimalExponent magnitude fuel (e + 1)
    else if magnitude < (10 : ℚ) ^ e then decimalExponent magnitude fuel (e - 1)
    else e

def roundHalfEven (value : ℚ) : ℤ :=
  let below := value.floor
  let rest := value - below
  if rest < 1 / 2 then below
  else if rest > 1 / 2 then below + 1
  else if below % 2 = 0 then below else below + 1

def stripZeros (digits : Bytes) : Bytes :=
  (digits.reverse.dropWhile (· = 0x30)).reverse

/-- `%.17g` of a magnitude: 17 significant digits, fixed notation for exponents
from -4 to 16, trailing zeros removed. -/
def formatG17 (magnitude : ℚ) : Bytes :=
  if magnitude = 0 then [0x30]
  else
    let guess := decimalExponent magnitude 700 0
    let scaled := roundHalfEven (magnitude / (10 : ℚ) ^ (guess - 16))
    -- Rounding up to the next power of ten moves the exponent.
    let e := if scaled.natAbs = 10 ^ 17 then guess + 1 else guess
    let digits := decimal (if scaled.natAbs = 10 ^ 17 then 10 ^ 16 else scaled.natAbs)
    if e < -4 ∨ 17 ≤ e then
      let fraction := stripZeros (digits.drop 1)
      let mantissa := digits.take 1 ++ if fraction = [] then [] else 0x2e :: fraction
      let sign := if e < 0 then 0x2d else 0x2b
      let power := decimal e.natAbs
      mantissa ++ [0x65, sign] ++ (if e.natAbs < 10 then 0x30 :: power else power)
    else if e < 0 then
      [0x30, 0x2e] ++ List.replicate (e.natAbs - 1) 0x30 ++ stripZeros digits
    else
      let fraction := stripZeros (digits.drop (e.natAbs + 1))
      digits.take (e.natAbs + 1) ++ if fraction = [] then [] else 0x2e :: fraction

def dumpNumber (value : ℚ) : Bytes :=
  if value.den = 1 ∧ |value| < 10 ^ 15 then dumpInteger value.num
  else if value < 0 then 0x2d :: formatG17 (-value)
  else formatG17 value

/-- `%.17g` of an infinity or a NaN. -/
def dumpNonFinite (negative nan : Bool) : Bytes :=
  (if negative then [0x2d] else []) ++ if nan then ascii "nan" else ascii "inf"

def padding (indent depth : Nat) : Bytes :=
  List.replicate (indent * depth) 0x20

def newline (indent : Nat) : Bytes :=
  if 0 < indent then [0x0a] else []

def colon (indent : Nat) : Bytes :=
  if 0 < indent then [0x3a, 0x20] else [0x3a]

/-- The comma after an item that is not the last. -/
def separator {α : Type*} (rest : List α) : Bytes :=
  if rest.isEmpty then [] else [0x2c]

mutual

def dumpTo (indent depth : Nat) : Value → Bytes
  | .null => ascii "null"
  | .bool b => if b then ascii "true" else ascii "false"
  | .number value => dumpNumber value
  | .nonFinite negative nan => dumpNonFinite negative nan
  | .string text => escapeString text
  | .array items =>
    if items.isEmpty then [0x5b, 0x5d]
    else
      [0x5b] ++ newline indent ++ dumpItems indent depth items ++ padding indent depth ++ [0x5d]
  | .object members =>
    if members.isEmpty then [0x7b, 0x7d]
    else
      [0x7b] ++ newline indent ++ dumpMembers indent depth members ++ padding indent depth ++
        [0x7d]

def dumpItems (indent depth : Nat) : List Value → Bytes
  | [] => []
  | item :: rest =>
    padding indent (depth + 1) ++ dumpTo indent (depth + 1) item ++ separator rest ++
      newline indent ++ dumpItems indent depth rest

def dumpMembers (indent depth : Nat) : List (Bytes × Value) → Bytes
  | [] => []
  | (key, v) :: rest =>
    padding indent (depth + 1) ++ escapeString key ++ colon indent ++
      dumpTo indent (depth + 1) v ++ separator rest ++ newline indent ++
      dumpMembers indent depth rest

end

def dump (v : Value) (indent : Nat) : Bytes :=
  dumpTo indent 0 v

end Dump

section Parse

/-- The parser's position: the offset and the bytes from there on. -/
structure Cursor where
  pos : Nat
  rest : Bytes

/-- Why a parse stopped: an error of the source, or the model's fuel. -/
inductive Failure where
  | error (message : String)
  | outOfFuel
deriving DecidableEq

def fail {α : Type} (c : Cursor) (message : String) : Except Failure (α × Cursor) :=
  .error (.error ("json parse error at offset " ++ toString c.pos ++ ": " ++ message))

def peek (c : Cursor) : UInt8 := c.rest.headD 0

def next (c : Cursor) : Except Failure (UInt8 × Cursor) :=
  match c.rest with
  | [] => fail c "unexpected end of input"
  | byte :: rest => .ok (byte, ⟨c.pos + 1, rest⟩)

def advance (c : Cursor) (n : Nat) : Cursor := ⟨c.pos + n, c.rest.drop n⟩

def isSpace (c : UInt8) : Bool := c = 0x20 || c = 0x09 || c = 0x0a || c = 0x0d

def skipWs (c : Cursor) : Cursor := advance c (c.rest.takeWhile isSpace).length

def skipDigits (c : Cursor) : Cursor := advance c (c.rest.takeWhile isDigit).length

def expect (byte : UInt8) (c : Cursor) : Except Failure (Unit × Cursor) := do
  let (got, c) ← next c
  if got ≠ byte then fail c ("expected '" ++ String.singleton (Char.ofNat byte.toNat) ++ "'")
  else .ok ((), c)

def encodeUtf8 (cp : Nat) : Bytes :=
  if cp ≤ 0x7f then [UInt8.ofNat cp]
  else if cp ≤ 0x7ff then [UInt8.ofNat (0xc0 + cp / 64), UInt8.ofNat (0x80 + cp % 64)]
  else if cp ≤ 0xffff then
    [UInt8.ofNat (0xe0 + cp / 4096), UInt8.ofNat (0x80 + cp / 64 % 64),
      UInt8.ofNat (0x80 + cp % 64)]
  else
    [UInt8.ofNat (0xf0 + cp / 262144), UInt8.ofNat (0x80 + cp / 4096 % 64),
      UInt8.ofNat (0x80 + cp / 64 % 64), UInt8.ofNat (0x80 + cp % 64)]

def hexValue (c : UInt8) : Option Nat :=
  if 0x30 ≤ c ∧ c ≤ 0x39 then some (c.toNat - 0x30)
  else if 0x61 ≤ c ∧ c ≤ 0x66 then some (c.toNat - 0x61 + 10)
  else if 0x41 ≤ c ∧ c ≤ 0x46 then some (c.toNat - 0x41 + 10)
  else none

def parseHexDigits : Nat → Nat → Cursor → Except Failure (Nat × Cursor)
  | 0, value, c => .ok (value, c)
  | count + 1, value, c => do
    let (byte, c) ← next c
    match hexValue byte with
    | some digit => parseHexDigits count (value * 16 + digit) c
    | none => fail c "invalid \\u hex digit"

def parseHex4 (c : Cursor) : Except Failure (Nat × Cursor) := parseHexDigits 4 0 c

/-- A `\u` escape after its introducer, surrogate pairs included. -/
def parseUnicodeEscape (c : Cursor) : Except Failure (Bytes × Cursor) := do
  let (cp, c) ← parseHex4 c
  if 0xd800 ≤ cp ∧ cp ≤ 0xdbff then
    let (first, c) ← next c
    if first ≠ 0x5c then fail c "expected low surrogate escape"
    else
      let (second, c) ← next c
      if second ≠ 0x75 then fail c "expected low surrogate escape"
      else
        let (low, c) ← parseHex4 c
        if low < 0xdc00 ∨ low > 0xdfff then fail c "invalid low surrogate"
        else .ok (encodeUtf8 (0x10000 + (cp - 0xd800) * 1024 + (low - 0xdc00)), c)
  else .ok (encodeUtf8 cp, c)

def parseEscape (c : Cursor) : Except Failure (Bytes × Cursor) := do
  let (e, c) ← next c
  if e = 0x22 then .ok ([0x22], c)
  else if e = 0x5c then .ok ([0x5c], c)
  else if e = 0x2f then .ok ([0x2f], c)
  else if e = 0x62 then .ok ([0x08], c)
  else if e = 0x66 then .ok ([0x0c], c)
  else if e = 0x6e then .ok ([0x0a], c)
  else if e = 0x72 then .ok ([0x0d], c)
  else if e = 0x74 then .ok ([0x09], c)
  else if e = 0x75 then parseUnicodeEscape c
  else fail c "invalid escape sequence"

def parseStringBody : Nat → Bytes → Cursor → Except Failure (Bytes × Cursor)
  | 0, _, _ => .error .outOfFuel
  | fuel + 1, out, c => do
    let (byte, c) ← next c
    if byte = 0x22 then .ok (out, c)
    else if byte = 0x5c then
      let (bytes, c) ← parseEscape c
      parseStringBody fuel (out ++ bytes) c
    else parseStringBody fuel (out ++ [byte]) c

def parseString (c : Cursor) : Except Failure (Bytes × Cursor) := do
  let ((), c) ← expect 0x22 c
  parseStringBody (c.rest.length + 1) [] c

/-- The power of two of a positive magnitude's first binary digit. -/
def binaryExponent (magnitude : ℚ) : ℤ :=
  let guess : ℤ := (magnitude.num.natAbs.log2 : ℤ) - (magnitude.den.log2 : ℤ)
  if (2 : ℚ) ^ guess ≤ magnitude then guess else guess - 1

/-- The nearest multiple of `2 ^ e`, ties to even. -/
def roundToUnit (magnitude : ℚ) (e : ℤ) : ℚ :=
  roundHalfEven (magnitude / (2 : ℚ) ^ e) * (2 : ℚ) ^ e

/-- The nearest double of a magnitude, or `none` where the C library reports a
range error: on overflow, and on an inexact result that is subnormal. -/
def roundDouble (magnitude : ℚ) : Option ℚ :=
  if magnitude = 0 then some 0
  else
    let e := binaryExponent magnitude
    let rounded := roundToUnit magnitude (max (e - 52) (-1074))
    if (2 : ℚ) ^ (1024 : ℤ) ≤ rounded then none
    else if roundToUnit magnitude (e - 52) < (2 : ℚ) ^ (-1022 : ℤ) ∧ rounded ≠ magnitude then none
    else some rounded

/-- The exponent part of a number's text; one without digits is not read. -/
def readExponent (text : Bytes) : ℤ :=
  match text with
  | 0x65 :: rest | 0x45 :: rest =>
    match rest with
    | 0x2d :: digits => -(digitsValue 0 digits : ℤ)
    | 0x2b :: digits => digitsValue 0 digits
    | digits => digitsValue 0 digits
  | _ => 0

/-- `std::stod` of a number token; `none` where it throws. -/
def stod (token : Bytes) : Option ℚ :=
  let negative := token.head? = some 0x2d
  let digits := if negative then token.drop 1 else token
  let whole := digits.takeWhile isDigit
  let afterWhole := digits.drop whole.length
  let pointed := afterWhole.head? = some 0x2e
  let fraction := if pointed then (afterWhole.drop 1).takeWhile isDigit else []
  let afterFraction := if pointed then afterWhole.drop (1 + fraction.length) else afterWhole
  if whole = [] ∧ fraction = [] then none
  else
    let exponent := readExponent afterFraction - fraction.length
    let magnitude := digitsValue 0 (whole ++ fraction) * (10 : ℚ) ^ exponent
    (roundDouble magnitude).map fun value => if negative then -value else value

def skipSign (c : Cursor) : Cursor := if peek c = 0x2d then advance c 1 else c

def skipFraction (c : Cursor) : Cursor :=
  if peek c = 0x2e then skipDigits (advance c 1) else c

def skipExponent (c : Cursor) : Cursor :=
  if peek c = 0x65 ∨ peek c = 0x45 then
    let c := advance c 1
    skipDigits (if peek c = 0x2b ∨ peek c = 0x2d then advance c 1 else c)
  else c

def parseNumber (c : Cursor) : Except Failure (Value × Cursor) :=
  let stop := skipExponent (skipFraction (skipDigits (skipSign c)))
  let token := c.rest.take (stop.pos - c.pos)
  if token = [] ∨ token = [0x2d] then fail stop "invalid number"
  else
    match stod token with
    | some value => .ok (.number value, stop)
    | none => .error (.error "stod")

def parseBool (c : Cursor) : Except Failure (Value × Cursor) :=
  if (ascii "true").isPrefixOf c.rest then .ok (.bool true, advance c 4)
  else if (ascii "false").isPrefixOf c.rest then .ok (.bool false, advance c 5)
  else fail c "invalid literal"

def parseNull (c : Cursor) : Except Failure (Value × Cursor) :=
  if (ascii "null").isPrefixOf c.rest then .ok (.null, advance c 4)
  else fail c "invalid literal"

/-- What an object and an array have in common: the opening byte, and then the closing one or
what stands inside. -/
def parseContainer {α : Type} (opening closing : UInt8) (make : List α → Value)
    (inside : Cursor → Except Failure (List α × Cursor)) (c : Cursor) :
    Except Failure (Value × Cursor) := do
  let ((), c) ← expect opening c
  let c := skipWs c
  if peek c = closing then .ok (make [], advance c 1)
  else
    let (contents, c) ← inside c
    .ok (make contents, c)

mutual

def parseValue : Nat → Cursor → Except Failure (Value × Cursor)
  | 0, _ => .error .outOfFuel
  | fuel + 1, c => do
    let c := skipWs c
    let byte := peek c
    if byte = 0x7b then parseContainer 0x7b 0x7d .object (parseMembers fuel) c
    else if byte = 0x5b then parseContainer 0x5b 0x5d .array (parseItems fuel) c
    else if byte = 0x22 then
      let (text, c) ← parseString c
      .ok (.string text, c)
    else if byte = 0x74 ∨ byte = 0x66 then parseBool c
    else if byte = 0x6e then parseNull c
    else if byte = 0x2d ∨ isDigit byte then parseNumber c
    else fail c "unexpected character"

/-- The members of an object, from a key to the closing brace. -/
def parseMembers : Nat → Cursor → Except Failure (List (Bytes × Value) × Cursor)
  | 0, _ => .error .outOfFuel
  | fuel + 1, c => do
    let c := skipWs c
    if peek c ≠ 0x22 then fail c "expected object key string"
    else
      let (key, c) ← parseString c
      let ((), c) ← expect 0x3a (skipWs c)
      let (v, c) ← parseValue fuel c
      let (byte, c) ← next (skipWs c)
      if byte = 0x2c then
        let (members, c) ← parseMembers fuel c
        .ok ((key, v) :: members, c)
      else if byte = 0x7d then .ok ([(key, v)], c)
      else fail c "expected ',' or '\x7d' in object"

/-- The items of an array, up to the closing bracket. -/
def parseItems : Nat → Cursor → Except Failure (List Value × Cursor)
  | 0, _ => .error .outOfFuel
  | fuel + 1, c => do
    let (v, c) ← parseValue fuel c
    let (byte, c) ← next (skipWs c)
    if byte = 0x2c then
      let (items, c) ← parseItems fuel c
      .ok (v :: items, c)
    else if byte = 0x5d then .ok ([v], c)
    else fail c "expected ',' or ']' in array"

end

def parseFuel (length : Nat) : Nat := 2 * length + 1

def parseDocument (text : Bytes) : Except Failure Value := do
  let (v, c) ← parseValue (parseFuel text.length) (skipWs ⟨0, text⟩)
  let c := skipWs c
  if c.rest ≠ [] then
    .error (.error ("json parse error at offset " ++ toString c.pos ++
      ": trailing characters after JSON value"))
  else .ok v

variable (pos : Nat) (c : UInt8) (rest : Bytes)

@[simp] theorem next_cons : next ⟨pos, c :: rest⟩ = .ok (c, ⟨pos + 1, rest⟩) := rfl

@[simp] theorem peek_cons : peek ⟨pos, c :: rest⟩ = c := rfl

@[simp] theorem expect_cons : expect c ⟨pos, c :: rest⟩ = .ok ((), ⟨pos + 1, rest⟩) := by
  simp [expect, bind, Except.bind]

end Parse

end VkRelay.Json
