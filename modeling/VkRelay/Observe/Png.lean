import VkRelay.Observe.Checksums

/-!
The PNG encoder of the capture tool: the rows of a BGRA buffer as RGBA behind a filter byte, a
zlib stream of stored blocks, and three chunks. A decoder of such files, written for itself, reads
back the image.
-/

namespace VkRelay.Observe

open VkRelay.Json

/-! ## The encoder -/

def putU32Be (v : UInt32) : Bytes :=
  [(v >>> 24).toUInt8, (v >>> 16).toUInt8, (v >>> 8).toUInt8, v.toUInt8]

def putChunk (type : String) (data : Bytes) : Bytes :=
  putU32Be (UInt32.ofNat data.length) ++ (ascii type ++ data) ++
    putU32Be (crc32 (ascii type ++ data))

/-- Each row is a filter byte and the pixels, red and blue exchanged. -/
def rawRow (bgra : Nat → UInt8) (width src : Nat) : Bytes :=
  0 :: (List.range width).flatMap fun x =>
    let p := src + x * 4
    [bgra (p + 2), bgra (p + 1), bgra p, bgra (p + 3)]

def rawRows (bgra : Nat → UInt8) (width height stride : Nat) : Bytes :=
  (List.range height).flatMap fun y => rawRow bgra width (y * stride)

def storedBlock (final : Bool) (block : Bytes) : Bytes :=
  let len := UInt16.ofNat block.length
  let nlen := ~~~len
  [if final then 1 else 0, len.toUInt8, (len >>> 8).toUInt8, nlen.toUInt8, (nlen >>> 8).toUInt8] ++
    block

/-- The loop runs at least once. -/
def storedBlocks (raw : Bytes) : Bytes :=
  if raw.length ≤ 65535 then storedBlock true raw
  else storedBlock false (raw.take 65535) ++ storedBlocks (raw.drop 65535)
termination_by raw.length

def zlibStream (raw : Bytes) : Bytes :=
  [0x78, 0x01] ++ storedBlocks raw ++ putU32Be (adler32 raw)

def signature : Bytes := [0x89, 0x50, 0x4E, 0x47, 0x0D, 0x0A, 0x1A, 0x0A]

/-- The bytes at a pointer, which may be null. A product that an `int` cannot hold does not come
up: the stride is one and is not below it. -/
def encodePngBgra (bgra : Option (Nat → UInt8)) (width height stride : Int) : Bytes :=
  match bgra with
  | none => []
  | some bgra =>
    if width ≤ 0 ∨ height ≤ 0 ∨ stride < width * 4 then []
    else
      let raw := rawRows bgra width.toNat height.toNat stride.toNat
      signature ++ putChunk "IHDR" (putU32Be (UInt32.ofInt width) ++
        putU32Be (UInt32.ofInt height) ++ [8, 6, 0, 0, 0]) ++
        putChunk "IDAT" (zlibStream raw) ++ putChunk "IEND" []

/-! ## A decoder -/

def getU32Be : Bytes → Option (Nat × Bytes)
  | a :: b :: c :: d :: rest =>
    some (a.toNat * 2 ^ 24 + b.toNat * 2 ^ 16 + c.toNat * 2 ^ 8 + d.toNat, rest)
  | _ => none

structure Chunk where
  type : Bytes
  data : Bytes
  crc : Nat

def readChunk (bytes : Bytes) : Option (Chunk × Bytes) :=
  (getU32Be bytes).bind fun (length, rest) =>
    if rest.length < 4 + length then none
    else (getU32Be (rest.drop (4 + length))).map fun (crc, after) =>
      (⟨rest.take 4, (rest.drop 4).take length, crc⟩, after)

/-- The stored blocks up to the first that is final, and what follows it. -/
def inflateStored : Nat → Bytes → Option (List Bytes × Bytes)
  | fuel + 1, flag :: l :: h :: nl :: nh :: rest =>
    let len := l.toNat + 256 * h.toNat
    if len + (nl.toNat + 256 * nh.toNat) ≠ 65535 ∨ rest.length < len then none
    else if flag = 1 then some ([rest.take len], rest.drop len)
    else if flag = 0 then
      (inflateStored fuel (rest.drop len)).map fun (blocks, after) =>
        (rest.take len :: blocks, after)
    else none
  | _, _ => none

structure Pixel where
  red : UInt8
  green : UInt8
  blue : UInt8
  alpha : UInt8
deriving DecidableEq

def readPixels : Bytes → List Pixel
  | r :: g :: b :: a :: rest => ⟨r, g, b, a⟩ :: readPixels rest
  | _ => []

/-- Rows without a filter, and nothing behind the last. -/
def readRows (width : Nat) : Nat → Bytes → Option (List (List Pixel))
  | 0, [] => some []
  | height + 1, filter :: rest =>
    if filter ≠ 0 ∨ rest.length < 4 * width then none
    else (readRows width height (rest.drop (4 * width))).map
      (readPixels (rest.take (4 * width)) :: ·)
  | _, _ => none

structure Png where
  chunks : List Chunk
  blocks : List Bytes
  adler : Nat
  width : Nat
  height : Nat
  rows : List (List Pixel)

/-- One chunk of each type, in order, with nothing behind them. -/
def readChunks (bytes : Bytes) : Option (Chunk × Chunk × Chunk) :=
  if bytes.take 8 ≠ signature then none
  else
    (readChunk (bytes.drop 8)).bind fun (ihdr, rest) =>
      (readChunk rest).bind fun (idat, rest) =>
        (readChunk rest).bind fun (iend, rest) =>
          if ihdr.type = ascii "IHDR" ∧ idat.type = ascii "IDAT" ∧ iend.type = ascii "IEND" ∧
              iend.data = [] ∧ rest = [] then some (ihdr, idat, iend)
          else none

/-- The blocks of a zlib stream and its trailer. -/
def inflate (stream : Bytes) : Option (List Bytes × Nat) :=
  if stream.take 2 ≠ [0x78, 0x01] then none
  else
    (inflateStored stream.length (stream.drop 2)).bind fun (blocks, trailer) =>
      (getU32Be trailer).bind fun (adler, rest) =>
        if rest = [] then some (blocks, adler) else none

def decodePng (bytes : Bytes) : Option Png :=
  (readChunks bytes).bind fun (ihdr, idat, iend) =>
    (getU32Be ihdr.data).bind fun (width, header) =>
      (getU32Be header).bind fun (height, header) =>
        if header ≠ [8, 6, 0, 0, 0] then none
        else (inflate idat.data).bind fun (blocks, adler) =>
          (readRows width height blocks.flatten).map fun rows =>
            ⟨[ihdr, idat, iend], blocks, adler, width, height, rows⟩

/-! ## The round trip -/

theorem getU32Be_putU32Be (v : UInt32) (rest : Bytes) :
    getU32Be (putU32Be v ++ rest) = some (v.toNat, rest) := by
  have hv := v.toNat_lt
  have h24 : (24 : UInt32).toNat % 32 = 24 := rfl
  have h16 : (16 : UInt32).toNat % 32 = 16 := rfl
  have h8 : (8 : UInt32).toNat % 32 = 8 := rfl
  simp only [putU32Be, List.cons_append, List.nil_append, getU32Be, Option.some.injEq,
    Prod.mk.injEq, and_true, UInt32.toNat_toUInt8, UInt32.toNat_shiftRight,
    Nat.shiftRight_eq_div_pow, h24, h16, h8]
  omega

def chunkOf (type : String) (data : Bytes) : Chunk :=
  ⟨ascii type, data, (crc32 (ascii type ++ data)).toNat⟩

theorem readChunk_putChunk {type : String} (htype : (ascii type).length = 4) {data : Bytes}
    (hdata : data.length < 2 ^ 32) (rest : Bytes) :
    readChunk (putChunk type data ++ rest) = some (chunkOf type data, rest) := by
  have hlength : (UInt32.ofNat data.length).toNat = data.length :=
    UInt32.toNat_ofNat_of_lt' hdata
  have hbody : (ascii type ++ data).length = 4 + data.length := by simp [htype]
  simp only [readChunk, putChunk, List.append_assoc, getU32Be_putU32Be, Option.bind_some, hlength]
  rw [← List.append_assoc (ascii type) data, List.drop_append_of_le_length hbody.ge,
    List.drop_eq_nil_of_le hbody.le, List.nil_append, getU32Be_putU32Be]
  simp [chunkOf, ← htype]

theorem inflateStored_storedBlock (final : Bool) {block : Bytes} (hblock : block.length ≤ 65535)
    (fuel : Nat) (rest : Bytes) :
    inflateStored (fuel + 1) (storedBlock final block ++ rest) = if final then some ([block], rest)
      else (inflateStored fuel rest).map fun (blocks, after) => (block :: blocks, after) := by
  have hlen : (UInt16.ofNat block.length).toNat = block.length :=
    UInt16.toNat_ofNat_of_lt' (Nat.lt_succ_of_le hblock)
  have hwords : ∀ v : UInt16, v.toUInt8.toNat + 256 * (v >>> 8).toUInt8.toNat = v.toNat := by
    intro v
    have hv := v.toNat_lt
    have h8 : (8 : UInt16).toNat % 16 = 8 := rfl
    simp only [UInt16.toNat_toUInt8, UInt16.toNat_shiftRight, Nat.shiftRight_eq_div_pow, h8]
    omega
  have hcomplement : (~~~UInt16.ofNat block.length).toNat = 65535 - block.length := by
    rw [UInt16.toNat_not, hlen]
    rfl
  simp only [storedBlock, List.cons_append, List.nil_append, inflateStored, hwords, hlen,
    hcomplement, List.length_append, List.take_left, List.drop_left]
  rw [if_neg (by omega)]
  cases final <;> simp

variable (bgra : Nat → UInt8) (raw : Bytes)

theorem inflateStored_storedBlocks {fuel : Nat} (hfuel : raw.length < fuel) (rest : Bytes) :
    ∃ blocks, inflateStored fuel (storedBlocks raw ++ rest) = some (blocks, rest) ∧
      blocks.flatten = raw := by
  fun_induction storedBlocks raw generalizing fuel with
  | case1 raw hsmall =>
    obtain ⟨fuel, rfl⟩ := Nat.exists_eq_succ_of_ne_zero (Nat.ne_zero_of_lt hfuel)
    exact ⟨[raw], by rw [inflateStored_storedBlock true hsmall, if_pos rfl], by simp⟩
  | case2 raw hlarge ih =>
    obtain ⟨fuel, rfl⟩ := Nat.exists_eq_succ_of_ne_zero (Nat.ne_zero_of_lt hfuel)
    obtain ⟨blocks, hblocks, hflatten⟩ := @ih fuel (by rw [List.length_drop]; omega)
    refine ⟨raw.take 65535 :: blocks, ?_, ?_⟩
    · rw [List.append_assoc, inflateStored_storedBlock false (by simp), hblocks]
      rfl
    · rw [List.flatten_cons, hflatten, List.take_append_drop]

/-- The pixels of a row of the source, red and blue exchanged. -/
def sourceRow (bgra : Nat → UInt8) (width src : Nat) : List Pixel :=
  (List.range width).map fun x =>
    ⟨bgra (src + 4 * x + 2), bgra (src + 4 * x + 1), bgra (src + 4 * x), bgra (src + 4 * x + 3)⟩

theorem readPixels_rawRow (width src : Nat) : (rawRow bgra width src).tail.length = 4 * width ∧
      readPixels (rawRow bgra width src).tail = sourceRow bgra width src := by
  have hpixels : ∀ xs : List Nat, let bytes := xs.flatMap fun x => let p := src + x * 4
        [bgra (p + 2), bgra (p + 1), bgra p, bgra (p + 3)]
      bytes.length = 4 * xs.length ∧ readPixels bytes = xs.map fun x =>
        ⟨bgra (src + 4 * x + 2), bgra (src + 4 * x + 1), bgra (src + 4 * x),
          bgra (src + 4 * x + 3)⟩ := by
    intro xs
    induction xs with
    | nil => exact ⟨rfl, rfl⟩
    | cons x xs ih =>
      obtain ⟨hlength, hread⟩ := ih
      simp only [List.flatMap_cons, List.cons_append, List.nil_append, readPixels, hread,
        List.length_cons, hlength, List.map_cons, mul_comm x 4, and_true]
      omega
  simpa [rawRow, sourceRow] using hpixels (List.range width)

theorem readRows_rawRows (width height stride : Nat) :
    readRows width height (rawRows bgra width height stride) =
      some ((List.range height).map fun y => sourceRow bgra width (y * stride)) := by
  have hrows : ∀ ys : List Nat,
      readRows width ys.length (ys.flatMap fun y => rawRow bgra width (y * stride)) =
        some (ys.map fun y => sourceRow bgra width (y * stride)) := by
    intro ys
    induction ys with
    | nil => rfl
    | cons y ys ih =>
      obtain ⟨hlength, hread⟩ := readPixels_rawRow bgra width (y * stride)
      have hrow : rawRow bgra width (y * stride) = 0 :: (rawRow bgra width (y * stride)).tail := rfl
      rw [List.flatMap_cons, hrow, List.cons_append, List.length_cons, readRows, if_neg]
      · rw [List.drop_append_of_le_length hlength.ge, List.drop_eq_nil_of_le hlength.le,
          List.nil_append, ih, List.take_append_of_le_length hlength.ge,
          List.take_of_length_le hlength.le, hread]
        rfl
      · rw [List.length_append, hlength]
        rintro (hfilter | hshort)
        · exact hfilter rfl
        · omega
  simpa [rawRows] using hrows (List.range height)

/-- What a decoded file must be: every chunk has its checksum and the stream that of its bytes. -/
structure Png.Sound (png : Png) : Prop where
  crc : ∀ chunk ∈ png.chunks, ∃ crc, IsCrc32 (chunk.type ++ chunk.data) crc ∧
    chunk.crc = crc.toNat
  adler : png.adler = adlerValue png.blocks.flatten

theorem length_le_storedBlocks : raw.length ≤ (storedBlocks raw).length := by
  fun_induction storedBlocks raw with
  | case1 raw _ =>
    rw [storedBlock, List.length_append]
    exact Nat.le_add_left _ _
  | case2 raw _ ih =>
    simp only [storedBlock, List.length_append, List.length_drop, List.length_take] at ih ⊢
    omega

theorem length_rawRows (width height stride : Nat) :
    (rawRows bgra width height stride).length = height * (4 * width + 1) := by
  have hrow : ∀ y, (rawRow bgra width (y * stride)).length = 4 * width + 1 := fun y =>
    congrArg Nat.succ (readPixels_rawRow bgra width (y * stride)).1
  simp [rawRows, List.length_flatMap, hrow]

theorem inflate_zlibStream :
    ∃ blocks, inflate (zlibStream raw) = some (blocks, adlerValue raw) ∧ blocks.flatten = raw := by
  have hlength := length_le_storedBlocks raw
  have hfuel : raw.length < (zlibStream raw).length := by
    simp only [zlibStream, List.length_append, List.length_cons]
    omega
  obtain ⟨blocks, hblocks, hflatten⟩ :=
    inflateStored_storedBlocks raw hfuel (putU32Be (adler32 raw))
  refine ⟨blocks, ?_, hflatten⟩
  have hrest : (zlibStream raw).drop 2 = storedBlocks raw ++ putU32Be (adler32 raw) := by
    simp [zlibStream]
  have hword := getU32Be_putU32Be (adler32 raw) []
  rw [List.append_nil] at hword
  rw [inflate, if_neg (by simp [zlibStream]), hrest, hblocks]
  simp only [Option.bind_some, hword, adler32_eq, if_true]

theorem readChunks_chunks {header stream last : Bytes} (hheader : header.length < 2 ^ 32)
    (hstream : stream.length < 2 ^ 32) (hlast : last = []) :
    readChunks (signature ++ putChunk "IHDR" header ++ putChunk "IDAT" stream ++
        putChunk "IEND" last) =
      some (chunkOf "IHDR" header, chunkOf "IDAT" stream, chunkOf "IEND" last) := by
  have hfirst := fun rest => @readChunk_putChunk "IHDR" rfl header hheader rest
  have hsecond := fun rest => @readChunk_putChunk "IDAT" rfl stream hstream rest
  have hend := @readChunk_putChunk "IEND" rfl last (by simp [hlast]) []
  rw [List.append_nil] at hend
  simp only [List.append_assoc]
  rw [readChunks, if_neg (by simp [signature]), List.drop_append_of_le_length (by simp [signature]),
    List.drop_eq_nil_of_le (by simp [signature]), List.nil_append]
  rw [hfirst, Option.bind_some]
  dsimp only
  rw [hsecond, Option.bind_some]
  dsimp only
  rw [hend, Option.bind_some]
  exact if_pos ⟨rfl, rfl, rfl, hlast, rfl⟩

theorem chunkOf_crc (type : String) (data : Bytes) :
    ∃ crc, IsCrc32 ((chunkOf type data).type ++ (chunkOf type data).data) crc ∧
      (chunkOf type data).crc = crc.toNat :=
  ⟨crc32 (ascii type ++ data), isCrc32_crc32 _, rfl⟩

theorem decodePng_of_chunks {bytes : Bytes} {ihdr idat iend : Chunk} {width height : UInt32}
    {blocks : List Bytes} {adler : Nat} {rows : List (List Pixel)}
    (hchunks : readChunks bytes = some (ihdr, idat, iend))
    (hheader : ihdr.data = putU32Be width ++ putU32Be height ++ [8, 6, 0, 0, 0])
    (hinflate : inflate idat.data = some (blocks, adler))
    (hrows : readRows width.toNat height.toNat blocks.flatten = some rows) :
    decodePng bytes =
      some ⟨[ihdr, idat, iend], blocks, adler, width.toNat, height.toNat, rows⟩ := by
  rw [decodePng, hchunks, Option.bind_some]
  dsimp only
  rw [hheader, List.append_assoc, getU32Be_putU32Be, Option.bind_some]
  dsimp only
  rw [getU32Be_putU32Be, Option.bind_some]
  dsimp only
  rw [if_neg (not_not.mpr rfl), hinflate, Option.bind_some]
  dsimp only
  rw [hrows, Option.map_some]

/-- An encoded image is a sound file that decodes to the image. -/
theorem decodePng_encodePngBgra (bgra : Nat → UInt8) {width height stride : Int}
    (hwidth : 1 ≤ width) (hheight : 1 ≤ height) (hstride : 4 * width ≤ stride)
    (hsize : (zlibStream (rawRows bgra width.toNat height.toNat stride.toNat)).length < 2 ^ 31) :
    ∃ png, decodePng (encodePngBgra (some bgra) width height stride) = some png ∧ png.Sound ∧
      (png.width : Int) = width ∧ (png.height : Int) = height ∧
      png.rows = (List.range height.toNat).map fun y =>
        sourceRow bgra width.toNat (y * stride.toNat) := by
  obtain ⟨w, rfl⟩ := Int.eq_ofNat_of_zero_le (by omega : 0 ≤ width)
  obtain ⟨h, rfl⟩ := Int.eq_ofNat_of_zero_le (by omega : 0 ≤ height)
  simp only [Int.toNat_natCast] at hsize ⊢
  -- The stream bounds the image, so that its sides fit the words of the header.
  have hraw : h * (4 * w + 1) < 2 ^ 31 := by
    rw [← length_rawRows bgra w h stride.toNat]
    refine lt_of_le_of_lt (length_le_storedBlocks _) (lt_of_le_of_lt ?_ hsize)
    simp only [zlibStream, List.length_append]
    omega
  have hword : ∀ n : Nat, n < 2 ^ 32 → (UInt32.ofInt n).toNat = n := fun n hn => by
    rw [UInt32.ofInt, UInt32.toNat_ofNat']
    omega
  have hw := hword w (by nlinarith)
  have hh := hword h (by nlinarith)
  obtain ⟨blocks, hinflate, hflatten⟩ := inflate_zlibStream (rawRows bgra w h stride.toNat)
  have hheader : (putU32Be (UInt32.ofInt w) ++ putU32Be (UInt32.ofInt h) ++
    [8, 6, 0, 0, 0]).length < 2 ^ 32 := by simp [putU32Be]
  have hrows := readRows_rawRows bgra w h stride.toNat
  rw [← hflatten] at hrows
  nth_rewrite 1 [← hw] at hrows
  nth_rewrite 1 [← hh] at hrows
  have hdecode := decodePng_of_chunks
    (readChunks_chunks hheader (lt_trans hsize (by decide)) (@rfl _ [])) rfl hinflate hrows
  rw [encodePngBgra, if_neg (by omega)]
  refine ⟨_, hdecode, ⟨?_, congrArg adlerValue hflatten.symm⟩, congrArg _ hw, congrArg _ hh, rfl⟩
  simp only [List.forall_mem_cons, List.not_mem_nil, false_implies, implies_true, and_true]
  exact ⟨chunkOf_crc _ _, chunkOf_crc _ _, chunkOf_crc _ _⟩

/-- Two rows of two pixels, each with four bytes of padding behind it. -/
theorem decodePng_encodePngBgra_padded :
    ∃ png, decodePng (encodePngBgra (some fun i => UInt8.ofNat i) 2 2 12) = some png ∧ png.Sound ∧
      png.rows = [[⟨2, 1, 0, 3⟩, ⟨6, 5, 4, 7⟩], [⟨14, 13, 12, 15⟩, ⟨18, 17, 16, 19⟩]] := by
  have hsize : (zlibStream (rawRows (fun i => UInt8.ofNat i) 2 2 12)).length < 2 ^ 31 := by
    rw [zlibStream, storedBlocks, if_pos (by decide)]
    decide +kernel
  obtain ⟨png, hdecode, hsound, -, -, hrows⟩ :=
    @decodePng_encodePngBgra (fun i => UInt8.ofNat i) 2 2 12 (by decide) (by decide) (by decide)
      hsize
  refine ⟨png, hdecode, hsound, ?_⟩
  rw [hrows]
  decide

end VkRelay.Observe
