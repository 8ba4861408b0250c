import LayeredAllocation.Strategy.Stores

namespace LayeredAllocation

namespace Memory
variable {memory after : Memory} {origin : Origin} {size align base : Nat}

-- Memory after the platform was asked in vain: that it was asked is all that differs.
def Untouched (before after : Memory) : Prop := after = { before with attempts := after.attempts }

theorem Untouched.refl (memory : Memory) : memory.Untouched memory := rfl

theorem Untouched.trans {first second third : Memory} (before : first.Untouched second)
    (after : second.Untouched third) : first.Untouched third := by
  unfold Untouched at after
  rw [before] at after
  exact after

theorem Untouched.platform (untouched : memory.Untouched after) :
    after.platform = memory.platform := by
  rw [untouched]

theorem Untouched.roots (untouched : memory.Untouched after) : after.roots = memory.roots := by
  rw [untouched]

-- Memory with the same pieces out, whatever is in them and however often the platform was asked.
structure SameRoots (before after : Memory) : Prop where
  platform : after.platform = before.platform
  roots : after.roots = before.roots

theorem SameRoots.refl (memory : Memory) : memory.SameRoots memory := ⟨rfl, rfl⟩

theorem Untouched.sameRoots (untouched : memory.Untouched after) : memory.SameRoots after :=
  ⟨untouched.platform, untouched.roots⟩

structure Placed (memory : Memory) (origin : Origin) (size align base : Nat) (after : Memory) :
    Prop where
  placed : memory.platform.place memory.attempts memory.roots origin size align = some base
  platform : after.platform = memory.platform
  roots : after.roots = ⟨⟨base, size⟩, align, origin, true⟩ :: memory.roots

theorem untouched_of_obtain (asked : memory.obtain origin size align = (none, after)) :
    memory.Untouched after := by
  unfold obtain at asked
  split at asked
  · cases asked
    rfl
  · cases asked

theorem placed_of_obtain (asked : memory.obtain origin size align = (some base, after)) :
    memory.Placed origin size align base after := by
  unfold obtain at asked
  split at asked
  · cases asked
  · next placed =>
    cases asked
    exact ⟨placed, rfl, rfl⟩

def liveAt? (memory : Memory) (address : Nat) : Option Root :=
  memory.roots.find? fun root => root.extent.start = address ∧ root.live = true

theorem liveAt?_congr (roots : after.roots = memory.roots) (address : Nat) :
    after.liveAt? address = memory.liveAt? address := by
  rw [liveAt?, roots, liveAt?]

theorem Placed.liveAt? (placed : memory.Placed origin size align base after) (address : Nat) :
    after.liveAt? address =
      if address = base then some ⟨⟨base, size⟩, align, origin, true⟩ else memory.liveAt? address := by
  rw [Memory.liveAt?, placed.roots, List.find?_cons]
  by_cases same : address = base
  · simp [same]
  · simp [same, Ne.symm same, Memory.liveAt?]

theorem liveAt?_eq_some {root : Root} {address : Nat} (found : memory.liveAt? address = some root) :
    root ∈ memory.roots ∧ root.extent.start = address ∧ root.live = true := by
  unfold liveAt? at found
  have holds := List.find?_some found
  exact ⟨List.mem_of_find?_eq_some found, of_decide_eq_true holds⟩

-- What is given back at an address concerns no root that starts elsewhere.
theorem liveAt?_giveBack {start address : Nat} (memory : Memory) (length : Nat)
    (other : address ≠ start) :
    (memory.giveBack start length).liveAt? address = memory.liveAt? address := by
  have kept (roots : List Root) :
      (retire start roots).find? (fun root => root.extent.start = address ∧ root.live = true) =
        roots.find? fun root => root.extent.start = address ∧ root.live = true := by
    induction roots with
    | nil => rfl
    | cons root older ih =>
      unfold retire
      split
      · next retired => simp [retired.1, Ne.symm other]
      · rw [List.find?_cons, List.find?_cons, ih]
  exact kept memory.roots

end Memory

theorem Machine.zeroIf_memory (machine : Machine) (wanted : Bool) (start length : Nat) :
    machine.memory.SameRoots (machine.zeroIf wanted start length).memory := by
  unfold zeroIf
  split
  · exact ⟨rfl, rfl⟩
  · exact ⟨rfl, rfl⟩

theorem Layout.of_make? {size align : Nat} {layout : Layout}
    (made : Layout.make? size align = .ok layout) : layout = ⟨size, align⟩ := by
  unfold Layout.make? at made
  split at made
  · cases made
    rfl
  · cases made

namespace SystemStore

inductive AllocateStep (request : Request) (store : SystemStore) (machine : Machine) :
    Reply SystemStore Block → Prop where
  | unshaped {error : Error} (made : Layout.make? request.size request.align = .error error) :
      AllocateStep request store machine ⟨.error (.refused error), store, machine⟩
  | overdrawn (made : Layout.make? request.size request.align = .ok ⟨request.size, request.align⟩)
      (short : store.pay? request.size = none) :
      AllocateStep request store machine
        ⟨.error (.refused (.outOfMemory request.size "allocation budget exhausted")), store, machine⟩
  | exhausted {paid : SystemStore} {memory : Memory}
      (made : Layout.make? request.size request.align = .ok ⟨request.size, request.align⟩)
      (accepted : store.pay? request.size = some paid)
      (asked : machine.memory.obtain .heap request.size request.align = (none, memory)) :
      AllocateStep request store machine
        ⟨.error (.refused (.outOfMemory request.size "system allocator returned null")), store,
          { machine with memory }⟩
  | granted {paid : SystemStore} {base : Nat} {memory : Memory}
      (made : Layout.make? request.size request.align = .ok ⟨request.size, request.align⟩)
      (accepted : store.pay? request.size = some paid)
      (asked : machine.memory.obtain .heap request.size request.align = (some base, memory)) :
      AllocateStep request store machine
        ⟨.ok ⟨base, request.size, request.align, .system⟩,
          paid.record base ⟨request.size, request.align⟩,
          Machine.zeroIf { machine with memory } request.zero base request.size⟩

theorem allocate_step (request : Request) (store : SystemStore) (machine : Machine) :
    AllocateStep request store machine (allocate request store machine) := by
  unfold allocate
  split
  · next error made => exact .unshaped made
  · next layout made =>
    cases Layout.of_make? made
    split
    · next short => exact .overdrawn made short
    · next paid accepted =>
      split
      · next memory asked =>
        -- The price was withdrawn before the platform was asked.
        rw [refund_of_pay? accepted]
        exact .exhausted made accepted asked
      · next base memory asked => exact .granted made accepted asked

structure Grants (request : Request) (store paid : SystemStore) (base : Nat)
    (memory after : Memory) : Prop where
  issued : paid.issued = store.issued.insert base ⟨request.size, request.align⟩
  allocated : paid.allocated = store.allocated.add request.size
  placed : memory.Placed .heap request.size request.align base after

-- What an allocation means to a strategy above, which knows nothing of budgets.
inductive Supplied (request : Request) (store : SystemStore) (machine : Machine) :
    Reply SystemStore Block → Prop where
  | refused {error : Error} {after : Machine}
      (untouched : machine.memory.Untouched after.memory) :
      Supplied request store machine ⟨.error (.refused error), store, after⟩
  | granted {base : Nat} {paid : SystemStore} {after : Machine}
      (grants : Grants request store paid base machine.memory after.memory) :
      Supplied request store machine
        ⟨.ok ⟨base, request.size, request.align, .system⟩, paid, after⟩

theorem pay?_kept {store paid : SystemStore} {size : Nat} (accepted : store.pay? size = some paid) :
    paid.issued = store.issued ∧ paid.allocated = store.allocated := by
  unfold pay? at accepted
  split at accepted
  · cases accepted
    exact ⟨rfl, rfl⟩
  · split at accepted
    · cases accepted
    · cases accepted
      exact ⟨rfl, rfl⟩

theorem allocate_supplied (request : Request) (store : SystemStore) (machine : Machine) :
    Supplied request store machine (SystemStore.source.allocate request store machine) := by
  have step : AllocateStep request store machine (SystemStore.source.allocate request store machine) :=
    allocate_step request store machine
  generalize SystemStore.source.allocate request store machine = reply at step ⊢
  cases step with
  | unshaped made => exact .refused rfl
  | overdrawn made short => exact .refused rfl
  | exhausted made accepted asked => exact .refused (Memory.untouched_of_obtain asked)
  | @granted paid base memory made accepted asked =>
    obtain ⟨issued, allocated⟩ := pay?_kept accepted
    obtain ⟨placed, platform, roots⟩ := Memory.placed_of_obtain asked
    obtain ⟨samePlatform, sameRoots⟩ :=
      Machine.zeroIf_memory { machine with memory } request.zero base request.size
    refine .granted ⟨?_, ?_, placed, samePlatform.trans platform, sameRoots.trans roots⟩
    · simp only [record, issued]
    · simp only [record, allocated]

theorem granted_of_answer {request : Request} {store after : SystemStore} {block : Block}
    {machine machine' : Machine}
    (answer : SystemStore.source.allocate request store machine = ⟨.ok block, after, machine'⟩) :
    ∃ base, block = ⟨base, request.size, request.align, .system⟩ ∧
      Grants request store after base machine.memory machine'.memory := by
  have outcome := allocate_supplied request store machine
  rw [answer] at outcome
  cases outcome with
  | granted grants => exact ⟨_, rfl, grants⟩

theorem refused_of_answer {request : Request} {store after : SystemStore} {fault : Fault}
    {machine machine' : Machine}
    (answer : SystemStore.source.allocate request store machine = ⟨.error fault, after, machine'⟩) :
    after = store ∧ machine.memory.Untouched machine'.memory := by
  have outcome := allocate_supplied request store machine
  rw [answer] at outcome
  cases outcome with
  | refused untouched => exact ⟨rfl, untouched⟩

inductive FreeStep (block : Block) (store : SystemStore) (machine : Machine) :
    Reply SystemStore Unit → Prop where
  | foreign (cause : block.tag ≠ .system ∨ store.issued.find? block.address = none) :
      FreeStep block store machine
        ⟨.error (.refused (.foreignBlock name block.address)), store, machine⟩
  | returned {layout : Layout} (tag : block.tag = .system)
      (found : store.issued.find? block.address = some layout) :
      FreeStep block store machine
        ⟨.ok (), (store.forget block.address layout).refund layout.size,
          machine.giveBack block.address layout.size⟩

theorem free_step (block : Block) (store : SystemStore) (machine : Machine) :
    FreeStep block store machine (SystemStore.source.free block store machine) := by
  change FreeStep block store machine (free block store machine)
  unfold free
  split
  · next other => exact .foreign (Or.inl other)
  · next tag =>
    split
    · next absent => exact .foreign (Or.inr absent)
    · next layout found => exact .returned (Decidable.of_not_not tag) found

theorem free_of_issued {block : Block} {store : SystemStore} {machine : Machine} {layout : Layout}
    (tag : block.tag = .system) (found : store.issued.find? block.address = some layout) :
    SystemStore.source.free block store machine =
      ⟨.ok (), (store.forget block.address layout).refund layout.size,
        machine.giveBack block.address layout.size⟩ := by
  have step := free_step block store machine
  generalize SystemStore.source.free block store machine = reply at step ⊢
  cases step with
  | foreign cause => exact absurd (cause.resolve_left (not_not_intro tag)) (by simp [found])
  | returned _ found' =>
    cases found.symm.trans found'
    rfl

end SystemStore

namespace Pages

-- A mapping that is made is a new piece of memory; one that is not leaves memory as it was.
theorem map_cases (large : Bool) (size : Nat) (memory : Memory) :
    (∃ e after, map .kernel large size memory = (.error e, after) ∧ memory.Untouched after) ∨
    ∃ base capacity origin after, map .kernel large size memory = (.ok ⟨base, capacity⟩, after) ∧
      capacity? large size = some capacity ∧ memory.Placed origin capacity pageSize base after := by
  unfold map
  cases rounded : capacity? large size with
  | none => exact Or.inl ⟨_, _, rfl, rfl⟩
  | some capacity =>
    dsimp only
    generalize asked : memory.obtain (if large then .largePages else .pages) capacity pageSize = reply
    match reply, asked with
    | (none, after), asked => exact Or.inl ⟨_, _, rfl, Memory.untouched_of_obtain asked⟩
    | (some base, after), asked =>
      exact Or.inr ⟨base, capacity, _, after, rfl, rfl, Memory.placed_of_obtain asked⟩

theorem unmap_cases (claimed : Extent) (memory : Memory) :
    (∃ e, unmap .kernel claimed memory = (some e, memory)) ∨
      unmap .kernel claimed memory = (none, memory.giveBack claimed.start claimed.length) := by
  unfold unmap
  dsimp only
  split
  · exact Or.inl ⟨_, rfl⟩
  · exact Or.inr rfl

end Pages

namespace PageStore

inductive AllocateStep (request : Request) (store : PageStore) (machine : Machine) :
    Reply PageStore Block → Prop where
  | unaligned (large : Pages.pageSize < request.align) :
      AllocateStep request store machine
        ⟨.error (.refused (.invalidArgument "align"
          ("alignment " ++ Text.Numeral.decimal request.align ++ " exceeds the page size " ++
            Text.Numeral.decimal Pages.pageSize))), store, machine⟩
  | exhausted {error : String} {after : Machine} (small : request.align ≤ Pages.pageSize)
      (spanned : store.span request.size machine = (.error error, after)) :
      AllocateStep request store machine
        ⟨.error (.refused (.outOfMemory request.size error)), store, after⟩
  | mapped {span : Pages.Span} {after : Machine} (small : request.align ≤ Pages.pageSize)
      (spanned : store.span request.size machine = (.ok span, after)) :
      AllocateStep request store machine
        ⟨.ok ⟨span.address, request.size, request.align, .pages⟩,
          { store with
            mappings := store.mappings.insert span.address ⟨span.capacity, span.large⟩
            mapped := store.mapped.add span.capacity }, after⟩

theorem allocate_step (request : Request) (store : PageStore) (machine : Machine) :
    AllocateStep request store machine (PageStore.source.allocate request store machine) := by
  change AllocateStep request store machine (allocate request store machine)
  unfold allocate
  split
  · next large => exact .unaligned large
  · next small =>
    have small := Nat.le_of_not_lt small
    split
    · next error after spanned => exact .exhausted small spanned
    · next span after spanned => exact .mapped small spanned

inductive FreeStep (block : Block) (store : PageStore) (machine : Machine) :
    Reply PageStore Unit → Prop where
  | foreign (cause : block.tag ≠ .pages ∨ store.mappings.find? block.address = none) :
      FreeStep block store machine
        ⟨.error (.refused (.foreignBlock name block.address)), store, machine⟩
  | unmapped {mapping : MappingRecord} (tag : block.tag = .pages)
      (found : store.mappings.find? block.address = some mapping) :
      FreeStep block store machine
        ⟨.ok (), { store with
            mappings := store.mappings.erase block.address
            mapped := store.mapped.sub mapping.capacity },
          Pages.Span.drop ⟨block.address, mapping.capacity, mapping.large⟩ machine⟩

theorem free_step (block : Block) (store : PageStore) (machine : Machine) :
    FreeStep block store machine (PageStore.source.free block store machine) := by
  change FreeStep block store machine (free block store machine)
  unfold free
  split
  · next other => exact .foreign (Or.inl other)
  · next tag =>
    split
    · next absent => exact .foreign (Or.inr absent)
    · next mapping found => exact .unmapped (Decidable.of_not_not tag) found

end PageStore

end LayeredAllocation
