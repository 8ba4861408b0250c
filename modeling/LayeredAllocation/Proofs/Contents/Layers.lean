import LayeredAllocation.Proofs.Contents
import LayeredAllocation.Proofs.Contract.Arena
import LayeredAllocation.Proofs.Contract.Hybrid
import LayeredAllocation.Proofs.Contract.Passing
import LayeredAllocation.Proofs.Contract.Pool
import LayeredAllocation.Proofs.Contract.Slab
import LayeredAllocation.Proofs.Steps.Layer

namespace LayeredAllocation

variable {σ τ : Type}

namespace Filled
variable {pieces fewer : List Extent} {request wider : Request} {before : Memory} {block given : Block}
  {fault : Fault} {s : σ} {t : τ} {machine after : Machine}

theorem spares {reply : Reply σ Block} (filled : Filled pieces request before reply) :
    before.Spares reply.machine.memory pieces := by
  cases filled with
  | issued spares cleared => exact spares
  | failed spares => exact spares

theorem handOn (filled : Filled pieces wider before ⟨.ok given, s, machine⟩)
    (inside : ∀ e ∈ fewer, ∃ k ∈ pieces, e.Within k) (zero : wider.zero = request.zero)
    (large : request.size ≤ wider.size) (here : block.address = given.address) :
    Filled fewer request before ⟨.ok block, t, machine⟩ := by
  cases filled with
  | issued spares cleared =>
    refine .issued (spares.within inside) fun wanted => ?_
    rw [here]
    exact (cleared (zero.trans wanted)).within ⟨Nat.le_refl _, Nat.add_le_add_left large _⟩

theorem fail {reply : Reply σ Block} (filled : Filled pieces wider before reply)
    (inside : ∀ e ∈ fewer, ∃ k ∈ pieces, e.Within k)
    (same : after.memory.patches = reply.machine.memory.patches) :
    Filled fewer request before ⟨.error fault, t, after⟩ :=
  .failed ((filled.spares.within inside).trans (.of_patches same))

-- A block that a source hands out touches nothing that is guarded, so the source may clear it.
theorem clear {source : Source σ} {inv : Invariant σ} {room : σ → Prop} {frame : List Extent}
    {live : List Block} (contract : source.Contract inv room)
    (outcome : Allocated inv frame live request
      ⟨.ok block, s, machine.zeroIf request.zero block.address request.size⟩)
    (spares : before.Spares machine.memory (guarded frame live)) :
    Filled (guarded frame live) request before
      ⟨.ok block, s, machine.zeroIf request.zero block.address request.size⟩ := by
  have apart : ∀ e ∈ guarded frame live, e.Disjoint ⟨block.address, request.size⟩ := by
    cases outcome with
    | issued owns size align kept =>
      obtain ⟨e, own, within⟩ := contract.covered kept block List.mem_cons_self
      obtain ⟨_, _, across⟩ := List.pairwise_append.1 owns.apart
      rw [← size]
      refine forall_mem_guarded.2 ⟨?_, ?_⟩
      · intro k member
        exact (across k member e own).within (Extent.Within.refl k) within
      · exact fun b old => ((contract.held kept).apart_of_cons b old).symm
  exact .issued (spares.trans (Machine.zeroIf_spares apart)) Machine.zeroIf_cleared

end Filled

section
variable {below : Source σ} {inv : Invariant σ} {room : σ → Prop} {live beneath : List Block}
  {frame : List Extent} {block : Block} {s : σ} {machine : Machine}

theorem Layer.free_patches (careful : below.Careful inv room) (block : Block) (layer : Layer) (s : σ)
    (machine : Machine) :
    ((source below).free block (layer, s) machine).machine.memory.patches =
      machine.memory.patches := by
  have step := free_step below block layer s machine
  generalize (source below).free block (layer, s) machine = reply at step ⊢
  cases step with
  | taken stays runs => rfl
  | refused stays runs same => exact congrArg Memory.patches same
  | interrupted interrupted => rfl
  | unpinned found => rfl
  | handed stays runs answer => exact careful.freed answer

theorem Arena.careful (contract : below.Contract inv room) (careful : below.Careful inv room) :
    (Arena.source below).Careful (Over inv Serves) (fun state => room state.2) where
  allocate {request state machine live owned frame} proper hasRoom kept owns := by
    have outcome : Allocated _ frame live request (Arena.allocate below request state machine) :=
      (Arena.contract contract).allocate proper hasRoom kept owns
    obtain ⟨arena, s⟩ := state
    obtain ⟨beneath, kept, serves⟩ := kept
    have inside : ∀ e ∈ guarded frame live, ∃ k ∈ guarded frame beneath, e.Within k := by
      refine guarded_within _ fun b member => ?_
      obtain ⟨c, listed, within⟩ := serves.inside b member
      exact ⟨c, serves.chunks c listed, within⟩
    have step : AllocateStep below request arena s machine _ :=
      allocate_step below request arena s machine
    change Filled _ _ _ (Arena.allocate below request (arena, s) machine)
    generalize Arena.allocate below request (arena, s) machine = reply at outcome step ⊢
    cases step with
    | fitted fits => exact .clear (Arena.contract contract) outcome (.of_patches rfl)
    | unaskable full asked => exact .failed (.of_patches rfl)
    | failed grows answer =>
      have filled := careful.allocated (chunkRequest?_ok grows.asked).1 hasRoom kept owns answer
      exact filled.fail inside rfl
    | grew grows answer few =>
      have filled := careful.allocated (chunkRequest?_ok grows.asked).1 hasRoom kept owns answer
      exact .clear (Arena.contract contract) outcome (filled.spares.within inside)
    | limited grows answer many freed why =>
      have filled := careful.allocated (chunkRequest?_ok grows.asked).1 hasRoom kept owns answer
      -- The chunk goes back at once, and that changes no contents.
      have same := careful.freed freed
      exact filled.fail inside same
  free block state machine := rfl

theorem Pool.Asks.zero {pool asking : Pool} {request wider : Request} {bucket : Option Bucket}
    {shape : Block → Block} (asks : Asks pool request asking wider bucket shape) :
    wider.zero = request.zero := by
  cases asks with
  | bypass small active => rfl
  | miss large rounded active absent => rfl

-- A block that was idle holds what its last user left in it.
theorem Pool.careful (contract : below.Contract inv room) (careful : below.Careful inv room) :
    (Pool.source below).Careful (Over inv Serves) (fun state => room state.2) where
  allocate {request state machine live owned frame} proper hasRoom kept owns := by
    have outcome : Allocated _ frame live request (Pool.allocate below request state machine) :=
      (Pool.contract contract).allocate proper hasRoom kept owns
    obtain ⟨pool, s⟩ := state
    obtain ⟨beneath, kept, serves⟩ := kept
    have inside := guarded_within frame serves.inside
    have step : AllocateStep below request pool s machine _ :=
      allocate_step below request pool s machine
    change Filled _ _ _ (Pool.allocate below request (pool, s) machine)
    generalize Pool.allocate below request (pool, s) machine = reply at outcome step ⊢
    cases step with
    | refused cause => exact .failed (.of_patches rfl)
    | reused large rounded active found =>
      exact .clear (Pool.contract contract) outcome (.of_patches rfl)
    | obtained asks answer =>
      have filled := careful.allocated (asks.proper proper) hasRoom kept owns answer
      exact filled.handOn inside asks.zero asks.widened.1 (asks.shaped _).1
    | failed asks answer =>
      have filled := careful.allocated (asks.proper proper) hasRoom kept owns answer
      exact filled.fail inside rfl
  free block state machine := Layer.free_patches careful block (.pool state.1) state.2 machine

-- Pages are asked for as they come; a slot is cleared when it is taken.
theorem Slab.careful (contract : below.Contract inv room) (careful : below.Careful inv room) :
    (Slab.source below).Careful (Over inv Serves)
      (fun state => state.1.pages.length < 0x1_0000_0000 ∧ room state.2) where
  allocate {request state machine live owned frame} proper hasRoom kept owns := by
    have outcome : Allocated _ frame live request (Slab.allocate below request state machine) :=
      (Slab.contract contract).allocate proper hasRoom kept owns
    obtain ⟨slab, s⟩ := state
    obtain ⟨beneath, kept, serves⟩ := kept
    have inside := guarded_within frame serves.inside
    have step : AllocateStep below request slab s machine _ :=
      allocate_step below request slab s machine
    change Filled _ _ _ (Slab.allocate below request (slab, s) machine)
    generalize Slab.allocate below request (slab, s) machine = reply at outcome step ⊢
    cases step with
    | passed large answer =>
      have filled := careful.allocated proper hasRoom.2 kept owns answer
      exact filled.handOn inside rfl (Nat.le_refl _) rfl
    | passFailed large answer =>
      have filled := careful.allocated proper hasRoom.2 kept owns answer
      exact filled.fail inside rfl
    | took fits running taken => exact .clear (Slab.contract contract) outcome (.of_patches rfl)
    | grew grows asked answer usable =>
      have filled := careful.allocated (Request.bytes?_eq_ok.1 asked).2.proper hasRoom.2 kept owns answer
      exact .clear (Slab.contract contract) outcome (filled.spares.within inside)
    | growFailed grows asked answer | burst grows asked answer unusable =>
      have filled := careful.allocated (Request.bytes?_eq_ok.1 asked).2.proper hasRoom.2 kept owns answer
      exact filled.fail inside rfl
    | unaskable grows asked => exact .failed (.of_patches rfl)
    | stuck fits cause => exact .failed (.of_patches rfl)
  free block state machine := Layer.free_patches careful block (.slab state.1) state.2 machine

theorem Hybrid.fresh_of_place {chunks base : Nat} {memory after : Memory} (positive : 0 < chunks)
    (placed : PinnedBlock.place chunks memory = (some base, after)) :
    memory.ChangedIn after ⟨base, chunks * PinnedBlock.chunkSize⟩ ∧
      after.Cleared ⟨base, chunks * PinnedBlock.chunkSize⟩ := by
  unfold PinnedBlock.place at placed
  rw [if_neg (Nat.ne_of_gt positive)] at placed
  exact Memory.fresh_of_obtain placed

-- The source beneath does not know of the pinned pieces, but it spares what others own.
theorem Hybrid.careful (contract : below.Contract inv room) (careful : below.Careful inv room) :
    (Hybrid.source below).Careful (Backs inv) (fun state => room state.2) where
  allocate {request state machine live owned frame} proper hasRoom kept owns := by
    have covered := (Hybrid.contract contract).covered kept
    obtain ⟨hybrid, s⟩ := state
    obtain ⟨beneath, pins, rest, rfl, kept, serves⟩ := kept
    have outer : machine.memory.Owns ((frame ++ pins) ++ rest) := by
      rwa [List.append_assoc]
    have inside : ∀ e ∈ guarded frame live, ∃ k ∈ guarded (frame ++ pins) beneath, e.Within k := by
      refine forall_mem_guarded.2 ⟨?_, ?_⟩
      · intro e member
        exact ⟨e, List.mem_append_left _ (List.mem_append_left _ member), Extent.Within.refl e⟩
      · intro b member
        rcases serves.issued b member with passed | ⟨e, own, start, fits, _⟩
        · exact ⟨_, List.mem_append_right _ (List.mem_map_of_mem passed), Extent.Within.refl _⟩
        · refine ⟨e, List.mem_append_left _ (List.mem_append_right _ own), Nat.le_of_eq start, ?_⟩
          simp only [Extent.stop, Block.extent]
          omega
    have step : AllocateStep below request hybrid s machine _ :=
      allocate_step below request hybrid s machine
    change Filled _ _ _ (Hybrid.allocate below request (hybrid, s) machine)
    generalize Hybrid.allocate below request (hybrid, s) machine = reply at step ⊢
    cases step with
    | overflowed pins large => exact .failed (.of_patches rfl)
    | exhausted pins small placed =>
      exact .failed (.of_patches (by rw [untouched_of_place placed]))
    | pinned pins small placed =>
      obtain ⟨positive, fits⟩ := chunksFor_covers proper.1
      obtain ⟨changed, cleared⟩ := fresh_of_place positive placed
      have owns' := owns.obtained (Nat.lt_of_lt_of_le proper.1 fits) (placed_of_place positive placed)
      refine .issued (changed.spares (guarded_apart covered owns')) fun _ => ?_
      exact cleared.within ⟨Nat.le_refl _, Nat.add_le_add_left fits _⟩
    | passed moves answer =>
      have filled := careful.allocated proper hasRoom kept outer answer
      exact filled.handOn inside rfl (Nat.le_refl _) rfl
    | passFailed moves answer =>
      have filled := careful.allocated proper hasRoom kept outer answer
      exact filled.fail inside rfl
  free block state machine := Layer.free_patches careful block (.hybrid state.1) state.2 machine

theorem Tracker.careful (careful : below.Careful inv room) :
    (Tracker.source below).Careful (Over inv Serves) (fun state => room state.2) where
  allocate {request state machine live owned frame} proper hasRoom kept owns := by
    obtain ⟨tracker, s⟩ := state
    obtain ⟨beneath, kept, shared⟩ := kept
    have inside := guarded_within frame shared.inside
    have step : AllocateStep below request tracker s machine _ :=
      allocate_step below request tracker s machine
    change Filled _ _ _ (Tracker.allocate below request (tracker, s) machine)
    generalize Tracker.allocate below request (tracker, s) machine = reply at step ⊢
    cases step with
    | refused disposed => exact .failed (.of_patches rfl)
    | recorded active answer =>
      have filled := careful.allocated proper hasRoom kept owns answer
      exact filled.handOn inside rfl (Nat.le_refl _) rfl
    | failed active answer =>
      have filled := careful.allocated proper hasRoom kept owns answer
      exact filled.fail inside rfl
  free block state machine := Layer.free_patches careful block (.tracker state.1) state.2 machine

theorem Probe.careful (careful : below.Careful inv room) :
    (Probe.source below).Careful (Over inv Serves) (fun state => room state.2) where
  allocate {request state machine live owned frame} proper hasRoom kept owns := by
    obtain ⟨probe, s⟩ := state
    obtain ⟨beneath, kept, shared⟩ := kept
    have inside := guarded_within frame shared.inside
    have step : AllocateStep below request probe s machine _ :=
      allocate_step below request probe s machine
    change Filled _ _ _ (Probe.allocate below request (probe, s) machine)
    generalize Probe.allocate below request (probe, s) machine = reply at step ⊢
    cases step with
    | injected sees => exact .failed (.of_patches rfl)
    | @passed after result left machine' sees answer =>
      have filled := careful.allocated proper hasRoom kept owns answer
      cases result with
      | ok block => exact filled.handOn inside rfl (Nat.le_refl _) rfl
      | error fault => exact filled.fail inside rfl
  free block state machine := Layer.free_patches careful block (.probe state.1) state.2 machine

end

end LayeredAllocation
