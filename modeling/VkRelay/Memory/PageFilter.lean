import VkRelay.Memory.Sweep

/-!
The soft-dirty page filter. The reader turns the kernel's bits for the pages of
one shadow into byte ranges; it reports whole pages. A report that misses no
byte of an allocation that differs from its mirror does not change the sweep:
pages are no smaller than chunks, so the filtered walk finds the same chunks,
each of them once, and the snapshot is the unfiltered one.
-/

namespace VkRelay.Memory

open VkRelay.Lib

section Reader

/-- What the reader sees: the page size, where each shadow lies, and the soft-dirty
bit of a page, or `none` where the page map cannot be read. -/
structure Pagemap where
  available : Bool
  pageSize : Nat
  address : Nat → Nat
  softDirty : Nat → Option Bool

/-- The body of the page loop: the ranges closed so far and the open run. -/
def visitPage (pageSize addr size last page : Nat) (dirty : Bool) (out : List Range)
    (run : Option Nat) : List Range × Option Nat :=
  let lo := page * pageSize - addr
  let hi := min ((page + 1) * pageSize - addr) size
  if dirty then
    let start := run.getD lo
    if page = last then (out ++ [⟨start, hi - start⟩], none) else (out, some start)
  else
    match run with
    | some start => (out ++ [⟨start, lo - start⟩], none)
    | none => (out, none)

/-- The loop over `count` pages from `page` on. -/
def readPages (m : Pagemap) (addr size last : Nat) :
    Nat → Nat → List Range → Option Nat → Option (List Range)
  | 0, _, out, _ => some out
  | count + 1, page, out, run =>
    match m.softDirty page with
    | none => none
    | some dirty =>
      let visited := visitPage m.pageSize addr size last page dirty out run
      readPages m addr size last count (page + 1) visited.1 visited.2

def readDirty (m : Pagemap) : PageFilter := fun memory size =>
  let addr := m.address memory
  if !m.available || size = 0 then none
  else if size > 2 ^ 64 - 1 - addr then none
  else
    let first := addr / m.pageSize
    let last := (addr + size - 1) / m.pageSize
    readPages m addr size last (last - first + 1) first [] none

variable {m : Pagemap} {addr size last page : Nat} {out : List Range} {run : Option Nat}

/-- Up to `page`, the closed ranges and the open run hold exactly the bytes of
dirty pages. -/
structure PagesRead (m : Pagemap) (addr size page : Nat) (out : List Range) (run : Option Nat) :
    Prop where
  covers : ∀ b < size, (Covers out b ∨ ∃ start ∈ run, start ≤ b ∧ b < page * m.pageSize - addr) ↔
    (addr + b) / m.pageSize < page ∧ m.softDirty ((addr + b) / m.pageSize) = some true
  run_le : ∀ start ∈ run, start ≤ page * m.pageSize - addr

theorem covers_append_singleton (out : List Range) (r : Range) (b : Nat) :
    Covers (out ++ [r]) b ↔ Covers out b ∨ r.Contains b := by
  simp only [Covers, List.mem_append, List.mem_singleton]
  constructor
  · rintro ⟨x, hx | rfl, hb⟩
    · exact Or.inl ⟨x, hx, hb⟩
    · exact Or.inr hb
  · rintro (⟨x, hx, hb⟩ | hb)
    · exact ⟨x, Or.inl hx, hb⟩
    · exact ⟨r, Or.inr rfl, hb⟩

/-- The byte's page lies before `page` exactly when the byte does. -/
theorem page_lt_iff (hpage : 0 < m.pageSize) (b : Nat) :
    (addr + b) / m.pageSize < page ↔ b < page * m.pageSize - addr := by
  rw [Nat.div_lt_iff_lt_mul hpage]
  omega

/-- One more page adds its own bytes if it is dirty. -/
theorem PagesRead.next_iff (hread : PagesRead m addr size page out run) (hpage : 0 < m.pageSize)
    {dirty : Bool} (hbit : m.softDirty page = some dirty) {b : Nat} (hb : b < size) :
    ((addr + b) / m.pageSize < page + 1 ∧ m.softDirty ((addr + b) / m.pageSize) = some true) ↔
      (Covers out b ∨ ∃ start ∈ run, start ≤ b ∧ b < page * m.pageSize - addr) ∨
        (dirty = true ∧ page * m.pageSize - addr ≤ b ∧ b < (page + 1) * m.pageSize - addr) := by
  have hbefore := @page_lt_iff m addr page hpage b
  have hafter := @page_lt_iff m addr (page + 1) hpage b
  rw [hread.covers b hb]
  constructor
  · rintro ⟨hle, hdirty⟩
    rcases Nat.lt_succ_iff_lt_or_eq.mp hle with hlt | heq
    · exact Or.inl ⟨hlt, hdirty⟩
    · rw [heq, hbit, Option.some_inj] at hdirty
      exact Or.inr ⟨hdirty, by omega, by omega⟩
  · rintro (⟨hlt, hdirty⟩ | ⟨hdirty, hlow, hhigh⟩)
    · exact ⟨by omega, hdirty⟩
    · have heq : (addr + b) / m.pageSize = page := by omega
      exact ⟨by omega, by rw [heq, hbit, hdirty]⟩

theorem visitPage_spec (hread : PagesRead m addr size page out run) (hpage : 0 < m.pageSize)
    {dirty : Bool} (hbit : m.softDirty page = some dirty) :
    PagesRead m addr size (page + 1)
        (visitPage m.pageSize addr size last page dirty out run).1
        (visitPage m.pageSize addr size last page dirty out run).2 ∧
      (page = last → (visitPage m.pageSize addr size last page dirty out run).2 = none) := by
  have hnext := fun b hb => hread.next_iff hpage hbit (b := b) hb
  have hstep : page * m.pageSize ≤ (page + 1) * m.pageSize :=
    Nat.mul_le_mul_right _ (Nat.le_succ page)
  unfold visitPage
  cases dirty with
  | false =>
    simp only [Bool.false_eq_true, if_false, false_and, or_false] at hnext ⊢
    cases run with
    | none =>
      refine ⟨⟨fun b hb => ?_, by simp⟩, fun _ => rfl⟩
      rw [hnext b hb]
      simp
    | some start =>
      have hstart := hread.run_le start rfl
      refine ⟨⟨fun b hb => ?_, by simp⟩, fun _ => rfl⟩
      rw [hnext b hb, covers_append_singleton, Range.Contains]
      simp only [Option.mem_def, reduceCtorEq, false_and, exists_false, or_false,
        Option.some.injEq, exists_eq_left']
      rw [Nat.add_sub_cancel' hstart]
  | true =>
    -- The open run, or a new one that starts with this page, now ends with it.
    have hstart : run.getD (page * m.pageSize - addr) ≤ page * m.pageSize - addr := by
      cases run with
      | none => exact le_rfl
      | some start => exact hread.run_le start rfl
    have hextended : ∀ b, ((∃ start ∈ run, start ≤ b ∧ b < page * m.pageSize - addr) ∨
        (page * m.pageSize - addr ≤ b ∧ b < (page + 1) * m.pageSize - addr)) ↔
        run.getD (page * m.pageSize - addr) ≤ b ∧ b < (page + 1) * m.pageSize - addr := by
      intro b
      cases run with
      | none => simp
      | some start =>
        simp only [Option.mem_def, Option.some.injEq, exists_eq_left', Option.getD_some] at hstart ⊢
        omega
    simp only [true_and, or_assoc, hextended, if_true] at hnext ⊢
    split_ifs with hlast
    · refine ⟨⟨fun b hb => ?_, by simp⟩, fun _ => rfl⟩
      rw [hnext b hb, covers_append_singleton, Range.Contains]
      simp only [Option.mem_def, reduceCtorEq, false_and, exists_false, or_false]
      refine or_congr_right ?_
      omega
    · refine ⟨⟨fun b hb => ?_, ?_⟩, fun heq => absurd heq hlast⟩
      · rw [hnext b hb]
        simp
      · rintro start hsome
        rw [Option.mem_def, Option.some_inj] at hsome
        omega

theorem readPages_spec (hpage : 0 < m.pageSize) (count : Nat) (hcount : page + count = last + 1)
    (hread : PagesRead m addr size page out run) (hrun : count = 0 → run = none)
    {admitted : List Range} (hok : readPages m addr size last count page out run = some admitted) :
    PagesRead m addr size (last + 1) admitted none := by
  induction count generalizing page out run with
  | zero =>
    cases hok
    rw [hrun rfl] at hread
    rw [← hcount]
    exact hread
  | succ count ih =>
    rw [readPages] at hok
    cases hbit : m.softDirty page with
    | none => simp [hbit] at hok
    | some dirty =>
      simp only [hbit] at hok
      obtain ⟨hvisited, hclosed⟩ :=
        @visitPage_spec m addr size last page out run hread hpage dirty hbit
      exact ih (by omega) hvisited (fun hzero => hclosed (by omega)) hok

theorem pagesRead_start (m : Pagemap) (addr size : Nat) :
    PagesRead m addr size (addr / m.pageSize) [] none := by
  refine ⟨fun b _ => ?_, by simp⟩
  have hbefore := Nat.div_le_div_right (c := m.pageSize) (Nat.le_add_right addr b)
  simp only [Covers, List.not_mem_nil, false_and, exists_false, Option.mem_def, reduceCtorEq,
    or_false, false_iff, not_and]
  intro hlt
  omega

/-- The reader reports exactly the bytes of dirty pages. -/
theorem readDirty_covers (hpage : 0 < m.pageSize) {memory : Nat} {admitted : List Range}
    (hok : readDirty m memory size = some admitted) {b : Nat} (hb : b < size) :
    Covers admitted b ↔ m.softDirty ((m.address memory + b) / m.pageSize) = some true := by
  simp only [readDirty, Bool.or_eq_true, decide_eq_true_eq] at hok
  split_ifs at hok
  have hfirst : m.address memory / m.pageSize ≤ (m.address memory + size - 1) / m.pageSize :=
    Nat.div_le_div_right (by omega)
  have hread := readPages_spec hpage _ (by omega) (pagesRead_start m _ size) (by simp) hok
  have hwithin : (m.address memory + b) / m.pageSize <
      (m.address memory + size - 1) / m.pageSize + 1 := by
    apply Nat.lt_succ_of_le
    apply Nat.div_le_div_right
    omega
  have hcovers := hread.covers b hb
  simpa [hwithin] using hcovers

end Reader

section Report

/-- The admitted bytes of a span are whole pages, of a power of two no smaller
than 4096, at some address. -/
def WholePages (size : Nat) (admitted : List Range) : Prop :=
  ∃ pageSize addr, (∃ k, pageSize = 2 ^ k) ∧ 4096 ≤ pageSize ∧ ∀ b c, b < size → c < size →
    (addr + b) / pageSize = (addr + c) / pageSize → (Covers admitted b ↔ Covers admitted c)

/-- Whatever the filter answers is whole pages that hold every written byte. -/
def Reports (filter : PageFilter) (written : Nat × Nat → Bool) : Prop :=
  ∀ memory size admitted, filter memory size = some admitted →
    WholePages size admitted ∧ ∀ b < size, written (memory, b) = true → Covers admitted b

/-- The kernel's side of the contract: a page with a written byte is soft-dirty,
unless it cannot be read. -/
def Pagemap.Tracks (m : Pagemap) (written : Nat × Nat → Bool) : Prop :=
  ∀ memory b, written (memory, b) = true →
    m.softDirty ((m.address memory + b) / m.pageSize) ≠ some false

/-- A page map that is read at all has a bit for every page of the span. -/
theorem readPages_softDirty {m : Pagemap} {addr size last : Nat} (count page : Nat)
    {out : List Range} {run : Option Nat} {admitted : List Range}
    (hok : readPages m addr size last count page out run = some admitted) {i : Nat}
    (hi : i < count) : m.softDirty (page + i) ≠ none := by
  induction count generalizing page out run i with
  | zero => omega
  | succ count ih =>
    rw [readPages] at hok
    cases hbit : m.softDirty page with
    | none => simp [hbit] at hok
    | some dirty =>
      simp only [hbit] at hok
      cases i with
      | zero => simp [hbit]
      | succ i =>
        have hrest := ih (page + 1) hok (by omega : i < count)
        rwa [Nat.add_assoc, Nat.add_comm 1 i] at hrest

/-- The reader's report over a page map that tracks the writes. -/
theorem readDirty_reports {m : Pagemap} {written : Nat × Nat → Bool}
    (hpow : ∃ k, m.pageSize = 2 ^ k) (hpage : 4096 ≤ m.pageSize) (htracks : m.Tracks written) :
    Reports (readDirty m) written := by
  intro memory size admitted hok
  have hpos : 0 < m.pageSize := by omega
  constructor
  · refine ⟨m.pageSize, m.address memory, hpow, hpage, fun b c hb hc hsame => ?_⟩
    rw [readDirty_covers hpos hok hb, readDirty_covers hpos hok hc, hsame]
  · intro b hb hwritten
    rw [readDirty_covers hpos hok hb]
    have htracked := htracks memory b hwritten
    simp only [readDirty, Bool.or_eq_true, decide_eq_true_eq] at hok
    split_ifs at hok
    have hfirst : m.address memory / m.pageSize ≤ (m.address memory + b) / m.pageSize :=
      Nat.div_le_div_right (by omega)
    have hlast : (m.address memory + b) / m.pageSize ≤
        (m.address memory + size - 1) / m.pageSize := Nat.div_le_div_right (by omega)
    have hread := readPages_softDirty _ _ hok
      (by omega : (m.address memory + b) / m.pageSize - m.address memory / m.pageSize < _)
    rw [Nat.add_sub_cancel' hfirst] at hread
    cases hbit : m.softDirty ((m.address memory + b) / m.pageSize) with
    | none => exact absurd hbit hread
    | some dirty =>
      cases dirty with
      | true => rfl
      | false => exact absurd hbit htracked

end Report

namespace MappedMemoryTracker

variable {filter : PageFilter}

/-- A filtered cover keeps the admitted bytes of the allocation. -/
theorem filteredCover_covers {memory : Nat} {a : Alloc} {cover : List Range}
    (hsize : a.size < 2 ^ 64) (hcover : filteredCover (some filter) memory a = some cover) :
    ∃ admitted, filter memory a.size = some admitted ∧
      ∀ b, Covers cover b ↔ b < a.size ∧ Covers admitted b := by
  simp only [filteredCover] at hcover
  split_ifs at hcover
  obtain ⟨admitted, hadmitted, rfl⟩ := Option.map_eq_some_iff.mp hcover
  refine ⟨admitted, hadmitted, fun b => ?_⟩
  rw [(mergeCover_spec _ fun _ hr => clampAdmitted_bounds hr).2]
  constructor
  · rintro hcovered
    have hb : b < a.size := by
      obtain ⟨r, hr, hlow, hhigh⟩ := hcovered
      have hbounds := clampAdmitted_bounds hr
      omega
    exact ⟨hb, (clampAdmitted_covers hsize hb).mp hcovered⟩
  · rintro ⟨hb, hcovered⟩
    exact (clampAdmitted_covers hsize hb).mpr hcovered

/-- Whole pages leave no hole inside a chunk. -/
theorem noHoles_of_wholePages {a : Alloc} {cover admitted : List Range}
    (hpages : WholePages a.size admitted)
    (hcovers : ∀ b, Covers cover b ↔ b < a.size ∧ Covers admitted b) : a.NoHoles cover := by
  obtain ⟨pageSize, addr, -, hpage, hsame⟩ := hpages
  rintro first gap last hgap hlast hchunk - hfirst hlastCovered
  rw [hcovers] at hfirst hlastCovered ⊢
  have hclose : last < first + kChunkBytes := by
    rw [kChunkBytes] at hchunk ⊢
    omega
  refine ⟨by omega, ?_⟩
  by_cases hnear : (addr + gap) / pageSize = (addr + first) / pageSize
  · exact (hsame gap first (by omega) hfirst.1 hnear).mpr hfirst.2
  · -- A gap in neither end's page would put a whole page inside the chunk.
    have hfar : (addr + gap) / pageSize = (addr + last) / pageSize := by
      have hlow : (addr + first) / pageSize < (addr + gap) / pageSize :=
        lt_of_le_of_ne (Nat.div_le_div_right (by omega)) (Ne.symm hnear)
      have hhigh : (addr + gap) / pageSize ≤ (addr + last) / pageSize :=
        Nat.div_le_div_right (by omega)
      have hspan : (addr + last) / pageSize ≤ (addr + first) / pageSize + 1 := by
        calc (addr + last) / pageSize ≤ (addr + first + pageSize) / pageSize :=
              Nat.div_le_div_right (by rw [kChunkBytes] at hclose; omega)
          _ = (addr + first) / pageSize + 1 := Nat.add_div_right _ (by omega)
      omega
    exact (hsame gap last (by omega) hlastCovered.1 hfar).mpr hlastCovered.2

/-- Two covers that meet every dirty chunk without a hole give the same walk. -/
theorem collectDirty_congr {a : Alloc} {cover other : List Range}
    (hcover : Separated a.size cover) (hother : Separated a.size other)
    (hruns : a.NoHoles cover) (hruns' : a.NoHoles other)
    (hmeets : ∀ i, a.chunkDirty i = true →
      ((∃ c, c / kChunkBytes = i ∧ Covers cover c) ↔ ∃ c, c / kChunkBytes = i ∧ Covers other c)) :
    (a.collectDirty cover).ranges = (a.collectDirty other).ranges ∧
      (a.collectDirty cover).payload = (a.collectDirty other).payload := by
  have hfound : a.found cover = a.found other := by
    apply List.Pairwise.eq_of_mem_iff ((Alloc.found_strict_iff hcover).mpr hruns)
      ((Alloc.found_strict_iff hother).mpr hruns')
    intro i
    rw [Alloc.mem_found_iff hcover, Alloc.mem_found_iff hother]
    exact and_congr_right fun hdirty => hmeets i hdirty
  have hranges : (a.collectDirty cover).ranges = (a.collectDirty other).ranges := by
    rw [a.collectDirty_ranges cover (Alloc.visited_ascending hcover),
      a.collectDirty_ranges other (Alloc.visited_ascending hother), hfound]
  refine ⟨hranges, ?_⟩
  rw [a.collectDirty_payload, a.collectDirty_payload, hranges]

/-- The whole allocation has no holes. -/
theorem noHoles_whole (a : Alloc) : a.NoHoles [⟨0, a.size⟩] := by
  rintro first gap last - hlast - - - ⟨r, hr, -, hhigh⟩
  rw [List.mem_singleton] at hr
  subst hr
  exact ⟨_, List.mem_singleton_self _, Nat.zero_le _, lt_trans hlast hhigh⟩

variable {written : Nat × Nat → Bool}

/-- A sound report does not change the walk of an allocation whose unacknowledged
bytes have all been written. -/
theorem sweepWalk_filtered (hreports : Reports filter written) {memory : Nat} {a : Alloc}
    (hwritten : a.baselineDone = true → ∀ b : Nat, a.shadow[b]? ≠ a.lastUploaded[b]? →
      written (memory, b) = true) :
    (sweepWalk (some filter) memory a).1.ranges = (sweepWalk none memory a).1.ranges ∧
      (sweepWalk (some filter) memory a).1.payload = (sweepWalk none memory a).1.payload := by
  by_cases hshadow : a.shadow = []
  · simp [sweepWalk, hshadow]
  have hsize := Alloc.size_eq_length hshadow
  have hlt := a.shadow_length_lt
  cases hcover : filteredCover (some filter) memory a with
  | none =>
    have hnone : filteredCover none memory a = none := rfl
    simp [sweepWalk, hshadow, hcover, hnone]
  | some cover =>
    have hbaseline : a.baselineDone = true := by
      by_contra hnot
      simp [filteredCover, hnot] at hcover
    obtain ⟨admitted, hadmitted, hcovers⟩ := filteredCover_covers (by omega) hcover
    obtain ⟨hpages, hsuper⟩ := hreports memory a.size admitted hadmitted
    have hseparated := sweepCover_separated (some filter) memory a
    have hwhole := sweepCover_separated none memory a
    simp only [sweepCover, hshadow, if_false, hcover, Option.getD_some] at hseparated
    rw [sweepCover_none hshadow] at hwhole
    simp only [sweepWalk_eq, sweepCover, hshadow, if_false, hcover, Option.getD_some]
    apply collectDirty_congr hseparated hwhole (noHoles_of_wholePages hpages hcovers)
      (noHoles_whole a)
    intro i hdirty
    -- A dirty chunk has a differing byte, and the report holds it.
    obtain ⟨b, hchunk, hdiffers⟩ := (a.chunkDirty_iff i).mp hdirty
    have hb : b < a.size := by
      by_contra hpast
      have hmirror := a.mirror_length
      rw [List.getElem?_eq_none (by omega), List.getElem?_eq_none (by omega)] at hdiffers
      exact hdiffers rfl
    have hcovered := hsuper b hb (hwritten hbaseline b hdiffers)
    exact iff_of_true ⟨b, hchunk, (hcovers b).mpr ⟨hb, hcovered⟩⟩
      ⟨b, hchunk, ⟨0, a.size⟩, List.mem_singleton_self _, Nat.zero_le _, by simpa using hb⟩

/-- The snapshot reads only the ranges and bytes of the walks. -/
theorem gather_congr {entries others : List (Nat × DirtyWalk)}
    (hsame : entries.map (fun e => (e.1, e.2.ranges, e.2.payload)) =
      others.map fun e => (e.1, e.2.ranges, e.2.payload)) : gather entries = gather others := by
  have hgather : ∀ list : List (Nat × DirtyWalk), gather list =
      ⟨((list.map fun e => (e.1, e.2.ranges, e.2.payload)).filter
          fun e => decide (e.2.1 ≠ [])).map fun e => ⟨e.1, e.2.1⟩,
        (list.map fun e => (e.1, e.2.ranges, e.2.payload)).flatMap fun e => e.2.2⟩ := by
    intro list
    rw [gather_eq, List.filter_map, List.map_map, List.flatMap_map]
    rfl
  rw [hgather, hgather, hsame]

/-- A filtered sweep is the unfiltered one when the report is sound and every
byte that a baselined allocation has not had acknowledged was written. -/
theorem snapshotPending_filtered (hreports : Reports filter written) (t : MappedMemoryTracker)
    (hwritten : ∀ (memory : Nat) (a : Alloc), t.allocs[memory]? = some a →
      a.baselineDone = true → ∀ b : Nat, a.shadow[b]? ≠ a.lastUploaded[b]? →
      written (memory, b) = true) :
    (t.snapshotPending (some filter)).1 = (t.snapshotPending none).1 := by
  rw [snapshotPending_eq_gather, snapshotPending_eq_gather]
  apply gather_congr
  rw [sweepEntries, sweepEntries, List.map_filterMap, List.map_filterMap]
  apply List.filterMap_congr
  rintro ⟨memory, a⟩ hentry
  have hlookup := (Table.mem_toList_iff _ _ _).mp hentry
  obtain ⟨hranges, hpayload⟩ := sweepWalk_filtered hreports (hwritten memory a hlookup)
  cases a.candidate
  · rfl
  · simp [hranges, hpayload]

end MappedMemoryTracker

end VkRelay.Memory
