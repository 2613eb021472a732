import VkRelay.Session.Machine

/-!
`get_descriptor_set_layout_support` against `create_descriptor_set_layout` and
`allocate_descriptor_sets`. The query runs the shared flag checks but not the last
loop of the create, so it also supports bindings whose number or count the create
refuses; and it reads the variable flag of the first entry with the highest
binding number, where the allocation reads it on every entry.
-/

namespace VkRelay.Session

open VkRelay.Lib

/-- The highest binding number and the flags of the first entry that has it. -/
def highestFlags (binds : List DescriptorSetLayoutBinding) : Int × Nat :=
  binds.foldl
    (fun best b => if b.binding > best.1 then (b.binding, b.bindingFlags) else best) (-1, 0)

/-- The binding a variable count resizes; -1 when there is none. -/
def diVariableBinding (binds : List DescriptorSetLayoutBinding) : Int :=
  let (highest, flags) := highestFlags binds
  if highest ≥ 0 ∧ hasFlag flags descriptorBindingVariableDescriptorCount then highest else -1

structure GetDescriptorSetLayoutSupportResponse where
  ok : Bool := false
  reason : String := ""
  supported : Nat := 0
  maxVariableDescriptorCount : Nat := 0
deriving DecidableEq

namespace Backend

/-- The checks the query and the create have in common. -/
def layoutAdmitted (dev : Device) (req : CreateDescriptorSetLayoutRequest) :
    Except String Unit := do
  rejectIf (req.bindings.length > maxDescriptorSetLayoutBindings)
    "descriptor set layout binding count out of bounds"
  descriptorIndexingLayoutOk req.layoutFlags req.bindings dev.descriptorIndexingFeatureBits
  inlineUniformBlockLayoutOk req.bindings dev.vk13FeatureBits

def getDescriptorSetLayoutSupport (s : Backend) (req : CreateDescriptorSetLayoutRequest) :
    GetDescriptorSetLayoutSupportResponse :=
  match s.devices[req.device]? with
  | none => { reason := "unknown device handle" }
  | some dev =>
    match layoutAdmitted dev req with
    | .error _ => { ok := true, reason := "ok" }
    | .ok () =>
      { ok := true, reason := "ok", supported := 1
        maxVariableDescriptorCount :=
          if diVariableBinding req.bindings ≥ 0 then maxDescriptorCount.toNat else 0 }

end Backend

/-- The number and the count of every binding are in the range the create demands. -/
def BindingsInRange (binds : List DescriptorSetLayoutBinding) : Prop :=
  ∀ b ∈ binds, 0 ≤ b.binding ∧ 0 ≤ b.descriptorCount ∧ b.descriptorCount ≤ maxDescriptorCount

def DescriptorSetLayoutBinding.isVariable (b : DescriptorSetLayoutBinding) : Bool :=
  hasFlag b.bindingFlags descriptorBindingVariableDescriptorCount

section Support

variable {s : Backend} {req : CreateDescriptorSetLayoutRequest} {dev : Device}

theorem supported_iff (hdev : s.devices[req.device]? = some dev) :
    (s.getDescriptorSetLayoutSupport req).supported = 1 ↔
      Backend.layoutAdmitted dev req = .ok () := by
  simp only [Backend.getDescriptorSetLayoutSupport, hdev]
  cases Backend.layoutAdmitted dev req with
  | error reason => simp
  | ok _ => simp

theorem maxVariableDescriptorCount_eq (hdev : s.devices[req.device]? = some dev)
    (hadmitted : Backend.layoutAdmitted dev req = .ok ()) :
    (s.getDescriptorSetLayoutSupport req).maxVariableDescriptorCount =
      if diVariableBinding req.bindings ≥ 0 then maxDescriptorCount.toNat else 0 := by
  simp only [Backend.getDescriptorSetLayoutSupport, hdev, hadmitted]

def CreateDescriptorSetLayoutRequest.layout (req : CreateDescriptorSetLayoutRequest) :
    DescriptorSetLayout :=
  { device := req.device, layoutFlags := req.layoutFlags, bindings := req.bindings }

/-- The create is the common checks and the range of every binding. -/
theorem createDescriptorSetLayout_eq_ok (hdev : s.devices[req.device]? = some dev)
    (created : Backend × Nat) :
    s.createDescriptorSetLayout req = .ok created ↔
      Backend.layoutAdmitted dev req = .ok () ∧ BindingsInRange req.bindings ∧
        created = (s.create .descriptorSetLayout req.device req.layout, s.nextHandle) := by
  simp only [Backend.createDescriptorSetLayout, Backend.layoutAdmitted, accept_rules,
    hdev, Option.some.injEq, exists_eq_left']
  constructor
  · rintro ⟨_, hcount, _, hindexing, _, hinline, _, hrange, rfl⟩
    refine ⟨⟨(), hcount, (), hindexing, hinline⟩, fun b hb => ?_, rfl⟩
    have hb := hrange b hb
    omega
  · rintro ⟨⟨_, hcount, _, hindexing, hinline⟩, hrange, rfl⟩
    refine ⟨(), hcount, (), hindexing, (), hinline, (), fun b hb => ?_, rfl⟩
    have hb := hrange b hb
    omega

end Support

section Variable

variable {s : Backend} {req : CreateDescriptorSetLayoutRequest} {dev : Device}

/-- A variable count that `allocate_descriptor_sets` takes for the requested layout:
after the create and any further requests that leave the layout as it was created,
an allocation that names it with this count is accepted. A layout without a variable
binding takes none; the allocation ignores the count there. -/
def Backend.TakesVariableCount (s : Backend) (req : CreateDescriptorSetLayoutRequest) (n : Nat) :
    Prop :=
  (∃ b ∈ req.bindings, b.isVariable = true) ∧
    ∃ created handle, s.createDescriptorSetLayout req = .ok (created, handle) ∧
      ∃ (ops : List Op) (alloc : AllocateDescriptorSetsRequest) (i : Nat) (next : Backend),
        (performAll created ops).descriptorSetLayouts[handle]? =
            created.descriptorSetLayouts[handle]? ∧
          alloc.setLayouts[i]? = some handle ∧ alloc.variableCounts[i]? = some n ∧
          (performAll created ops).allocateDescriptorSets alloc = .ok next

/-- A count the allocation takes is within every variable binding's own count. -/
theorem le_of_takesVariableCount {n : Nat} (htakes : s.TakesVariableCount req n)
    (hdev : s.devices[req.device]? = some dev) {b : DescriptorSetLayoutBinding}
    (hb : b ∈ req.bindings) (hvariable : b.isVariable = true) : (n : Int) ≤ b.descriptorCount := by
  obtain ⟨-, created, handle, hcreate, ops, alloc, i, next, hlayout, hnames, hcount,
    halloc⟩ := htakes
  obtain ⟨-, -, hcreated⟩ := (createDescriptorSetLayout_eq_ok hdev _).mp hcreate
  cases hcreated
  generalize performAll _ ops = t at hlayout halloc
  have hfound : t.descriptorSetLayouts[s.nextHandle]? = some req.layout := by
    rw [hlayout]
    simp [Backend.create, Backend.withTable, Backend.table]
  obtain ⟨hi, -⟩ := List.getElem?_eq_some_iff.mp hnames
  have hcounts : alloc.variableCounts ≠ [] := by
    rintro hempty
    simp [hempty] at hcount
  simp only [Backend.allocateDescriptorSets, accept_rules, List.mem_range] at halloc
  obtain ⟨_, -, pool, -, _, -, _, -, _, hlayouts, -⟩ := halloc
  obtain ⟨layout, ⟨hlookup, -⟩, _, -, hbindings⟩ := hlayouts i hi
  rw [List.getD_eq_getElem?_getD, hnames, Option.getD_some, hfound] at hlookup
  cases hlookup
  have hwithin := hbindings b hb
  rw [List.getD_eq_getElem?_getD, hcount, Option.getD_some] at hwithin
  by_contra hover
  exact hwithin ⟨by simpa using hcounts, hvariable, not_le.mp hover⟩

def onePoolRequest (device : Nat) : CreateDescriptorPoolRequest :=
  { device, maxSets := 1, flags := descriptorPoolCreateUpdateAfterBind
    poolSizes := [{ descriptorCount := 1 }] }

def onePool (device : Nat) : DescriptorPool :=
  { device, maxSets := 1, setsRemaining := 1, updateAfterBind := true }

theorem createDescriptorPool_onePool (t : Backend) {device : Nat}
    (hlive : t.devices[device]? = some dev) :
    t.createDescriptorPool (onePoolRequest device) =
      .ok (t.create .descriptorPool device (onePool device), t.nextHandle) := by
  have hfind : find t.devices device "unknown device handle" = .ok dev := find_eq_ok.mpr hlive
  rw [Backend.createDescriptorPool]
  simp only [onePoolRequest, hfind]
  rfl

theorem allocateDescriptorSets_one (t : Backend) {device pool layout n : Nat}
    {found : DescriptorSetLayout} (hlive : t.devices[device]? = some dev)
    (hpool : t.descriptorPools[pool]? = some (onePool device))
    (hlayout : t.descriptorSetLayouts[layout]? = some found) (hon : found.device = device)
    (hle : ∀ b ∈ found.bindings, b.isVariable = true → (n : Int) ≤ b.descriptorCount) :
    ∃ next, t.allocateDescriptorSets
      { device, pool, setLayouts := [layout], variableCounts := [n] } = .ok next := by
  simp only [Backend.allocateDescriptorSets, accept_rules]
  refine ⟨_, dev, hlive, onePool device, ⟨hpool, rfl⟩, (), by simp [maxAllocateDescriptorSets],
    (), by simp, (), fun i hi => ?_, (), by simp [onePool], rfl⟩
  have hfirst : i = 0 := by simpa using hi
  subst hfirst
  refine ⟨found, ⟨hlayout, hon⟩, (), by simp [onePool], fun b hb => ?_⟩
  rintro ⟨-, hvariable, hover⟩
  exact not_lt.mpr (hle b hb hvariable) hover

/-- A layout takes every count that its variable bindings allow: a pool of one set
is always to be had. -/
theorem takesVariableCount_of_le (hdev : s.devices[req.device]? = some dev)
    (hadmitted : Backend.layoutAdmitted dev req = .ok ()) (hrange : BindingsInRange req.bindings)
    (hsome : ∃ b ∈ req.bindings, b.isVariable = true) {n : Nat}
    (hle : ∀ b ∈ req.bindings, b.isVariable = true → (n : Int) ≤ b.descriptorCount) :
    s.TakesVariableCount req n := by
  have hcreate := (createDescriptorSetLayout_eq_ok hdev _).mpr ⟨hadmitted, hrange, rfl⟩
  generalize hcreated : s.create .descriptorSetLayout req.device req.layout = created at hcreate
  have hdevice : created.devices[req.device]? =
      some (dev.adopt .descriptorSetLayout s.nextHandle) := by
    simp [← hcreated, Backend.create, Backend.withTable, Backend.adopt, Backend.bump, hdev]
  have hstored : created.descriptorSetLayouts[s.nextHandle]? = some req.layout := by
    simp [← hcreated, Backend.create, Backend.withTable, Backend.table]
  have hpooled := createDescriptorPool_onePool created hdevice
  generalize ht : created.create .descriptorPool req.device (onePool req.device) = t at hpooled
  have hperformed : performAll created [.createDescriptorPool (onePoolRequest req.device)] = t := by
    simp [performAll, perform, hpooled, settle]
  have hlayout : t.descriptorSetLayouts[s.nextHandle]? = some req.layout := by
    simp [← ht, Backend.create, Backend.withTable, Backend.adopt, Backend.bump, hstored]
  have hlive : t.devices[req.device]? = some ((dev.adopt .descriptorSetLayout s.nextHandle).adopt
      .descriptorPool created.nextHandle) := by
    simp [← ht, Backend.create, Backend.withTable, Backend.adopt, Backend.bump, hdevice]
  have hpool : t.descriptorPools[created.nextHandle]? = some (onePool req.device) := by
    simp [← ht, Backend.create, Backend.withTable, Backend.table]
  obtain ⟨next, halloc⟩ := allocateDescriptorSets_one t hlive hpool hlayout rfl hle
  exact ⟨hsome, created, s.nextHandle, hcreate, [.createDescriptorPool (onePoolRequest req.device)],
    _, 0, next, by rw [hperformed, hlayout, hstored], rfl, rfl, by rw [hperformed]; exact halloc⟩

end Variable

/-- The query is honest: it supports exactly what the create accepts, and the count
it reports bounds every variable count the allocation takes. -/
structure Backend.SupportHonest (s : Backend) (req : CreateDescriptorSetLayoutRequest) : Prop where
  supported : (s.getDescriptorSetLayoutSupport req).supported = 1 ↔
    ∃ created, s.createDescriptorSetLayout req = .ok created
  count : ∀ n, s.TakesVariableCount req n →
    n ≤ (s.getDescriptorSetLayoutSupport req).maxVariableDescriptorCount

/-- Exactly when the query is honest about a layout that passes the common checks: the bindings
are in range, and if the layout has variable bindings with a positive count, the first entry
with the highest binding number is one. -/
theorem layout_support_honest_iff (s : Backend) (req : CreateDescriptorSetLayoutRequest)
    {dev : Device} (hdev : s.devices[req.device]? = some dev) :
    s.SupportHonest req ↔
      (Backend.layoutAdmitted dev req = .ok () →
        BindingsInRange req.bindings ∧
          ((∃ b ∈ req.bindings, b.isVariable = true) →
            (∀ b ∈ req.bindings, b.isVariable = true → 0 < b.descriptorCount) →
              0 ≤ diVariableBinding req.bindings)) := by
  have hcreate := createDescriptorSetLayout_eq_ok hdev
  constructor
  · rintro hhonest hadmitted
    obtain ⟨created, hcreated⟩ := hhonest.supported.mp ((supported_iff hdev).mpr hadmitted)
    obtain ⟨-, hrange, -⟩ := (hcreate created).mp hcreated
    refine ⟨hrange, fun hsome hpositive => ?_⟩
    by_contra hnone
    have htakes : s.TakesVariableCount req 1 :=
      takesVariableCount_of_le hdev hadmitted hrange hsome fun b hb hvariable => by
        have hb := hpositive b hb hvariable
        omega
    have hbound := hhonest.count 1 htakes
    rw [maxVariableDescriptorCount_eq hdev hadmitted, if_neg (by omega)] at hbound
    omega
  · intro hwhen
    refine ⟨⟨fun hsupported => ?_, ?_⟩, fun n htakes => ?_⟩
    · have hadmitted := (supported_iff hdev).mp hsupported
      exact ⟨_, (hcreate _).mpr ⟨hadmitted, (hwhen hadmitted).1, rfl⟩⟩
    · rintro ⟨created, hcreated⟩
      exact (supported_iff hdev).mpr ((hcreate created).mp hcreated).1
    · obtain ⟨created, handle, hcreated, -⟩ := htakes.2
      obtain ⟨hadmitted, hrange, -⟩ := (hcreate _).mp hcreated
      obtain ⟨-, hfirst⟩ := hwhen hadmitted
      have hle : ∀ b ∈ req.bindings, b.isVariable = true → (n : Int) ≤ b.descriptorCount :=
        fun b hb hvariable => le_of_takesVariableCount htakes hdev hb hvariable
      rw [maxVariableDescriptorCount_eq hdev hadmitted]
      split
      · obtain ⟨b, hb, hvariable⟩ := htakes.1
        have hn := hle b hb hvariable
        have hmax := (hrange b hb).2.2
        rw [maxDescriptorCount] at hmax ⊢
        omega
      · next hnone =>
          by_contra hpositive
          refine hnone (hfirst htakes.1 fun b hb hvariable => ?_)
          have hn := hle b hb hvariable
          omega

def variableDevice : Backend :=
  performAll {} (setUp { descriptorIndexingFeatureBits := diFeatureVariableDescriptorCount })

def variableBinding (binding : Int) (flags : Nat) : DescriptorSetLayoutBinding :=
  { binding, descriptorCount := 8, bindingFlags := flags }

theorem last_binding_variable_honest :
    variableDevice.SupportHonest
      { device := 3
        bindings := [variableBinding 0 0,
          variableBinding 1 descriptorBindingVariableDescriptorCount] } := by
  obtain ⟨dev, hdev⟩ : ∃ dev, variableDevice.devices[3]? = some dev :=
    Option.isSome_iff_exists.mp (by decide +kernel)
  refine (layout_support_honest_iff _ _ hdev).mpr fun _ => ⟨?_, fun _ _ => ?_⟩
  · intro b hb
    simp only [List.mem_cons, List.not_mem_nil, or_false] at hb
    rcases hb with rfl | rfl <;> decide
  · decide

def oversizedLayout : CreateDescriptorSetLayoutRequest :=
  { device := 3, bindings := [{ descriptorCount := 65537 }] }

/-- Two entries for binding 0, only the second of them variable. -/
def doubledLayout : CreateDescriptorSetLayoutRequest :=
  { device := 3
    bindings := [variableBinding 0 0, variableBinding 0 descriptorBindingVariableDescriptorCount] }

/-- The oversized layout is supported and then refused; the doubled one is reported
to take no variable count, and takes 8. -/
theorem support_misreports_layouts :
    ((variableDevice.getDescriptorSetLayoutSupport oversizedLayout).supported = 1 ∧
      (perform variableDevice (.createDescriptorSetLayout oversizedLayout)).2 =
        .error "descriptor binding has an invalid binding number or descriptor count") ∧
    (variableDevice.getDescriptorSetLayoutSupport doubledLayout).maxVariableDescriptorCount = 0 ∧
      (perform
        (performAll variableDevice
          [.createDescriptorSetLayout doubledLayout, .createDescriptorPool (onePoolRequest 3)])
        (.allocateDescriptorSets
          { device := 3, pool := 8, setLayouts := [7], variableCounts := [8] })).2 = .ok () := by
  decide +kernel

end VkRelay.Session
