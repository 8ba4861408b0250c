import LayeredAllocation.Proofs.Ledger

namespace LayeredAllocation

def Platform.Distinct (platform : Platform) : Prop :=
  ∀ attempt roots origin size align base,
    platform.place attempt roots origin size align = some base →
      ∀ root ∈ roots, root.live = true → root.extent.start ≠ base

theorem Memory.liveAt?_of_placed {memory after : Memory} {origin : Origin} {size align base : Nat}
    (distinct : memory.platform.Distinct) (placed : memory.Placed origin size align base after) :
    memory.liveAt? base = none := by
  refine Option.eq_none_iff_forall_ne_some.2 fun root found => ?_
  obtain ⟨member, start, live⟩ := Memory.liveAt?_eq_some found
  exact distinct _ _ _ _ _ _ placed.placed root member live start

namespace SystemStore
variable {store paid : SystemStore} {limit : Option Nat} {past : List Event} {request : Request}
  {block : Block} {memory : Memory} {machine : Machine} {size address : Nat}

def limited : Option Nat → SystemStore
  | none => {}
  | some limit => .withBudget limit

theorem pay?_budget (accepted : store.pay? size = some paid) :
    paid.budget = store.budget.map (·.sub size) ∧ ∀ budget ∈ store.budget, size ≤ budget.read := by
  unfold pay? at accepted
  split at accepted
  · next none =>
    cases accepted
    rw [none]
    exact ⟨rfl, nofun⟩
  · next budget some =>
    split at accepted
    · cases accepted
    · next rest enough =>
      cases accepted
      obtain ⟨le, rfl⟩ := Counter.withdraw?_eq_some enough
      rw [some]
      refine ⟨rfl, ?_⟩
      rintro _ ⟨⟩
      exact le

theorem pay?_enough (accepted : store.pay? size = some paid) :
    ∀ rest, store.remaining? = some rest → size ≤ rest := by
  intro rest left
  obtain ⟨budget, some, rfl⟩ := Option.map_eq_some_iff.1 left
  exact (pay?_budget accepted).2 budget some

structure Settled (limit : Option Nat) (past : List Event) (store : SystemStore) (memory : Memory) :
    Prop where
  distinct : memory.platform.Distinct
  listed : store.issued.Lists (fun request layout => layout = ⟨request.size, request.align⟩) past
  rooted : ∀ address layout, store.issued.find? address = some layout →
    memory.liveAt? address = some ⟨⟨address, layout.size⟩, layout.align, .heap, true⟩
  counted : store.allocated = Counter.ofNat store.total
  budget : store.budget = limit.map fun l => Counter.ofNat (l - store.total)
  covered : ∀ l ∈ limit, store.total ≤ l ∧ l < Word.range

namespace Settled

theorem start (words : ∀ l ∈ limit, l < Word.range) (distinct : memory.platform.Distinct) :
    Settled limit [] (limited limit) memory := by
  have issued : (limited limit).issued = .empty := by cases limit <;> rfl
  have total : (limited limit).total = 0 := by
    rw [SystemStore.total, issued]
    rfl
  refine ⟨distinct, ?_, ?_, ?_, ?_, ?_⟩
  · rw [issued]
    exact .start
  · rw [issued]
    exact nofun
  · rw [total]
    cases limit <;> rfl
  · rw [total]
    cases limit <;> rfl
  · intro l same
    rw [total]
    exact ⟨Nat.zero_le l, words l same⟩

theorem remaining (settled : Settled limit past store memory) :
    store.remaining? = limit.map fun l => l - store.total := by
  rw [remaining?, settled.budget, Option.map_map]
  refine Option.map_congr fun l same => ?_
  exact Counter.read_ofNat (Nat.lt_of_le_of_lt (Nat.sub_le _ _) (settled.covered l same).2)

theorem idle (settled : Settled limit past store memory) {event : Event} {after : Memory}
    (same : inHand (event :: past) = inHand past) (platform : after.platform = memory.platform)
    (roots : after.roots = memory.roots) : Settled limit (event :: past) store after := by
  obtain ⟨distinct, listed, rooted, counted, budget, covered⟩ := settled
  refine ⟨platform ▸ distinct, listed.congr same, ?_, counted, budget, covered⟩
  intro address layout found
  rw [Memory.liveAt?_congr roots]
  exact rooted address layout found

theorem failed (settled : Settled limit past store memory) (call : Call) (fault : Fault) :
    Settled limit (⟨call, .error fault⟩ :: past) store memory :=
  settled.idle (inHand_failed call fault past) rfl rfl

theorem grant {base : Nat} {after : Memory} (settled : Settled limit past store memory)
    (accepted : store.pay? request.size = some paid)
    (placed : memory.Placed .heap request.size request.align base after) :
    Settled limit
      (⟨.allocate request, .ok (some ⟨base, request.size, request.align, .system⟩)⟩ :: past)
      (paid.record base ⟨request.size, request.align⟩) after := by
  obtain ⟨issued, allocated⟩ := pay?_kept accepted
  obtain ⟨budget, enough⟩ := pay?_budget accepted
  -- What is on record lies elsewhere, since it is live.
  have absent : store.issued.find? base = none := by
    refine Option.eq_none_iff_forall_ne_some.2 fun layout found => ?_
    cases (Memory.liveAt?_of_placed settled.distinct placed).symm.trans (settled.rooted base layout found)
  have found (address : Nat) : (paid.record base ⟨request.size, request.align⟩).issued.find? address =
      if address = base then some ⟨request.size, request.align⟩ else store.issued.find? address := by
    rw [record, issued, Table.find?_insert]
  have total : (paid.record base ⟨request.size, request.align⟩).total = request.size + store.total := by
    rw [SystemStore.total, record, issued]
    exact Table.sum_values_insert absent _ Layout.size
  refine ⟨placed.platform ▸ settled.distinct, ?_, ?_, ?_, ?_, ?_⟩
  · rw [record, issued]
    exact settled.listed.insert absent rfl
  · intro address layout listed
    rw [found] at listed
    rw [placed.liveAt?]
    by_cases same : address = base
    · rw [if_pos same] at listed ⊢
      cases listed
      rw [same]
    · rw [if_neg same] at listed ⊢
      exact settled.rooted address layout listed
  · rw [total, record, allocated, settled.counted, Counter.ofNat_add, Nat.add_comm]
  · have kept : (paid.record base ⟨request.size, request.align⟩).budget = paid.budget := rfl
    rw [kept, budget, total, settled.budget, Option.map_map]
    refine Option.map_congr fun l same => ?_
    have left : request.size ≤ l - store.total :=
      pay?_enough accepted _ (settled.remaining.trans (congrArg _ same))
    rw [Function.comp_apply, Counter.ofNat_sub left, Nat.sub_sub, Nat.add_comm]
  · intro l same
    obtain ⟨within, word⟩ := settled.covered l same
    have left : request.size ≤ l - store.total :=
      pay?_enough accepted _ (settled.remaining.trans (congrArg _ same))
    rw [total]
    exact ⟨by omega, word⟩

theorem forget {layout : Layout} {answer : Option Block} (settled : Settled limit past store memory)
    (found : store.issued.find? block.address = some layout) :
    Settled limit (⟨.free block, .ok answer⟩ :: past)
      ((store.forget block.address layout).refund layout.size)
      (memory.giveBack block.address layout.size) := by
  have erased (address : Nat) :
      ((store.forget block.address layout).refund layout.size).issued.find? address =
        if address = block.address then none else store.issued.find? address :=
    Table.find?_erase store.issued block.address address
  have total : store.total =
      layout.size + ((store.forget block.address layout).refund layout.size).total :=
    Table.sum_values_erase found Layout.size
  refine ⟨settled.distinct, ?_, ?_, ?_, ?_, ?_⟩
  · exact settled.listed.erase
  · intro address other listed
    rw [erased] at listed
    by_cases same : address = block.address
    · rw [if_pos same] at listed
      cases listed
    · rw [if_neg same] at listed
      rw [Memory.liveAt?_giveBack memory layout.size same]
      exact settled.rooted address other listed
  · have counted : ((store.forget block.address layout).refund layout.size).allocated =
        store.allocated.sub layout.size := rfl
    rw [counted, settled.counted, Counter.ofNat_sub (by omega), total, Nat.add_sub_cancel_left]
  · have refunded : ((store.forget block.address layout).refund layout.size).budget =
        store.budget.map (·.add layout.size) := rfl
    rw [refunded, settled.budget, Option.map_map]
    refine Option.map_congr fun l same => ?_
    have within := (settled.covered l same).1
    rw [Function.comp_apply, Counter.ofNat_add]
    congr 1
    omega
  · intro l same
    obtain ⟨within, word⟩ := settled.covered l same
    exact ⟨by omega, word⟩

theorem allocate (settled : Settled limit past store machine.memory) :
    let reply := SystemStore.allocate request store machine
    Settled limit (⟨.allocate request, reply.result.map some⟩ :: past) reply.state
      reply.machine.memory := by
  have step := allocate_step request store machine
  generalize SystemStore.allocate request store machine = reply at step ⊢
  cases step with
  | unshaped made => exact settled.failed _ _
  | overdrawn made short => exact settled.failed _ _
  | exhausted made accepted asked =>
    have untouched := Memory.untouched_of_obtain asked
    exact settled.idle rfl untouched.platform untouched.roots
  | @granted paid base memory made accepted asked =>
    obtain ⟨placed, platform, roots⟩ := Memory.placed_of_obtain asked
    obtain ⟨samePlatform, sameRoots⟩ :=
      Machine.zeroIf_memory { machine with memory } request.zero base request.size
    exact settled.grant accepted ⟨placed, samePlatform.trans platform, sameRoots.trans roots⟩

theorem free (settled : Settled limit past store machine.memory) :
    let reply := SystemStore.free block store machine
    Settled limit (⟨.free block, reply.result.map fun _ => none⟩ :: past) reply.state
      reply.machine.memory := by
  have step : FreeStep block store machine (SystemStore.free block store machine) :=
    free_step block store machine
  generalize SystemStore.free block store machine = reply at step ⊢
  cases step with
  | foreign cause => exact settled.failed _ _
  | returned tag found => exact settled.forget found

end Settled

-- What comes of a block that is brought. What it claims about its size and its alignment is not
-- looked at.
structure Takes (past : List Event) (block : Block) (store : SystemStore) (machine : Machine)
    (reply : Reply SystemStore Unit) : Prop where
  taken : block.tag = .system → ∀ g ∈ inHand past, g.block.address = block.address →
    reply.result = .ok () ∧ reply.machine = machine.giveBack block.address g.request.size ∧
      machine.memory.liveAt? block.address =
        some ⟨⟨block.address, g.request.size⟩, g.request.align, .heap, true⟩
  refused : (block.tag ≠ .system ∨ ∀ g ∈ inHand past, g.block.address ≠ block.address) →
    reply = .refuse (.foreignBlock name block.address) store machine

theorem Settled.takes (settled : Settled limit past store machine.memory) (block : Block) :
    Takes past block store machine (SystemStore.free block store machine) := by
  have step : FreeStep block store machine (SystemStore.free block store machine) :=
    free_step block store machine
  generalize SystemStore.free block store machine = reply at step ⊢
  cases step with
  | foreign cause =>
    refine ⟨fun tag g member here => ?_, fun _ => rfl⟩
    have absent := cause.resolve_left (not_not_intro tag)
    exact absurd here (settled.listed.find?_eq_none.1 absent g member)
  | @returned layout tag found =>
    have rooted := settled.rooted _ _ found
    refine ⟨fun _ g member here => ?_, fun cause => ?_⟩
    · obtain ⟨_, recorded, rfl⟩ := settled.listed.held g member
      cases found.symm.trans (here ▸ recorded)
      exact ⟨rfl, rfl, rooted⟩
    · have nobody := cause.resolve_left (not_not_intro tag)
      cases found.symm.trans (settled.listed.find?_eq_none.2 nobody)

end SystemStore

namespace Bottom
variable {limit : Option Nat} {origin machine : Machine} {past : List Event} {state : Bottom}

end Bottom

end LayeredAllocation
