import LayeredAllocation.Proofs.Contract
import LayeredAllocation.Proofs.Steps.Pool

namespace LayeredAllocation

def Block.elsewhere (address : Nat) (live : List Block) : List Block :=
  live.filter (·.address ≠ address)

theorem Block.mem_elsewhere {address : Nat} {block : Block} {live : List Block} :
    block ∈ Block.elsewhere address live ↔ block ∈ live ∧ block.address ≠ address := by
  simp only [Block.elsewhere, List.mem_filter, decide_eq_true_eq]

theorem Held.elsewhere_eq {live : List Block} {block : Block} (held : Held live)
    (member : block ∈ live) : Block.elsewhere block.address live = block.others live := by
  refine List.filter_congr fun other old => ?_
  simp only [ne_eq, decide_not, Bool.not_eq_eq_eq_not, Bool.not_not, decide_eq_decide]
  exact ⟨held.eq_of_address old member, fun same => same ▸ rfl⟩

namespace Pool

theorem takeIdle_perm {bucket : Bucket} {idle others : List IdleBlock} {backing : Block}
    (found : takeIdle bucket idle = some (backing, others)) :
    idle.Perm (⟨bucket, backing⟩ :: others) := by
  induction idle generalizing others with
  | nil => cases found
  | cons first rest ih =>
    unfold takeIdle at found
    split at found
    · next same => cases found; subst same; exact List.Perm.refl _
    · obtain ⟨⟨block, kept⟩, deeper, equal⟩ := Option.map_eq_some_iff.1 found
      cases equal
      exact ((ih deeper).cons first).trans (List.Perm.swap _ _ _)

structure Serves (pool : Pool) (live beneath : List Block) : Prop where
  held : Held live
  backed : ∀ b ∈ live, ∃ k ∈ beneath, k.address = b.address ∧ b.size ≤ k.size ∧ k ∉ pool.idleBlocks
  idle : ∀ i ∈ pool.idle, i.backing ∈ beneath ∧ i.backing.size = i.bucket.sizeClass ∧
    i.backing.align = i.bucket.align
  distinct : pool.idleBlocks.Nodup
  outstanding : ∀ a issued, pool.outstanding.find? a = some issued →
    issued.backing ∈ beneath ∧ issued.backing.address = a ∧ issued.backing ∉ pool.idleBlocks ∧
      ∀ bucket, issued.bucket = some bucket →
        issued.backing.size = bucket.sizeClass ∧ issued.backing.align = bucket.align

theorem mem_idleBlocks {pool : Pool} {block : Block} :
    block ∈ pool.idleBlocks ↔ ∃ i ∈ pool.idle, i.backing = block := by
  simp only [idleBlocks, List.mem_reverse, List.mem_map]

namespace Serves
variable {pool : Pool} {live beneath : List Block} {request : Request} {block backing : Block}
  {sizeClass a : Nat} {issued : IssuedBlock}

theorem inside (serves : pool.Serves live beneath) :
    ∀ b ∈ live, ∃ k ∈ beneath, b.extent.Within k.extent := by
  intro b member
  obtain ⟨k, found, same, fits, _⟩ := serves.backed b member
  refine ⟨k, found, Nat.le_of_eq same, ?_⟩
  simp only [Extent.stop, Block.extent]
  omega

theorem reuse {others : List IdleBlock} (serves : pool.Serves live beneath) (held : Held beneath)
    (proper : request.Proper) (small : request.size ≤ sizeClass)
    (found : takeIdle ⟨sizeClass, request.align⟩ pool.idle = some (backing, others)) :
    (pool.reuse backing ⟨sizeClass, request.align⟩ others).Serves
      (pool.issue backing request sizeClass :: live) beneath := by
  have shuffled := takeIdle_perm found
  have taken := shuffled.mem_iff.2 (List.mem_cons_self (l := others))
  obtain ⟨below, size, align⟩ := serves.idle _ taken
  dsimp only at below size align
  have spare : (pool.idleBlocks).Perm (backing :: (others.map IdleBlock.backing).reverse) :=
    (List.reverse_perm _).trans ((shuffled.map _).trans ((List.reverse_perm _).symm.cons backing))
  obtain ⟨absent, distinct⟩ := List.nodup_cons.1 (spare.nodup_iff.1 serves.distinct)
  have idle : ∀ {k : Block}, k ∉ pool.idleBlocks →
      k ∉ (pool.reuse backing ⟨sizeClass, request.align⟩ others).idleBlocks :=
    fun out member => out (spare.mem_iff.2 (List.mem_cons_of_mem _ member))
  have apart : ∀ b ∈ live, b.extent.Disjoint (pool.issue backing request sizeClass).extent := by
    intro b old
    obtain ⟨k, deeper, same, fits, out⟩ := serves.backed b old
    have different : k ≠ backing := by
      rintro rfl
      exact out (mem_idleBlocks.2 ⟨_, taken, rfl⟩)
    refine (held.apart_of_ne deeper below different).within ⟨Nat.le_of_eq same, ?_⟩
      ⟨Nat.le_refl _, ?_⟩
    · simp only [Extent.stop, Block.extent]; omega
    · simp only [Extent.stop, Block.extent, issue]; omega
  have aligned : request.align ∣ backing.address := align ▸ (held.proper backing below).aligned
  refine ⟨serves.held.cons ⟨proper.1, proper.2, aligned⟩ apart, ?_, ?_, distinct, ?_⟩
  · intro b member
    rcases List.mem_cons.1 member with rfl | old
    · exact ⟨backing, below, rfl, by simp only [issue]; omega, absent⟩
    · obtain ⟨k, deeper, same, fits, out⟩ := serves.backed b old
      exact ⟨k, deeper, same, fits, idle out⟩
  · exact fun i member => serves.idle i (shuffled.mem_iff.2 (List.mem_cons_of_mem _ member))
  · intro key entry listed
    simp only [Pool.reuse, Table.find?_insert] at listed
    split at listed
    · next same =>
      cases listed
      refine ⟨below, same.symm, absent, ?_⟩
      intro bucket filed
      cases filed
      exact ⟨size, align⟩
    · obtain ⟨deeper, same, out, filed⟩ := serves.outstanding key entry listed
      exact ⟨deeper, same, idle out, filed⟩

theorem adopt {bucket : Option Bucket} (serves : pool.Serves live beneath)
    (fresh : Held (backing :: beneath)) (proper : block.Proper) (same : backing.address = block.address)
    (fits : block.size ≤ backing.size) (filed : ∀ b, bucket = some b →
      backing.size = b.sizeClass ∧ backing.align = b.align) :
    (pool.adopt backing bucket).Serves (block :: live) (backing :: beneath) := by
  have new : ∀ k ∈ beneath, k ≠ backing := fun k => fresh.ne_of_cons
  have absent : backing ∉ pool.idleBlocks := by
    intro member
    obtain ⟨i, listed, rfl⟩ := mem_idleBlocks.1 member
    exact new _ (serves.idle i listed).1 rfl
  have within : block.extent.Within backing.extent :=
    ⟨Nat.le_of_eq same, by simp only [Extent.stop, Block.extent]; omega⟩
  refine ⟨serves.held.cons proper ?_, ?_, ?_, serves.distinct, ?_⟩
  · intro b old
    obtain ⟨k, deeper, inside⟩ := serves.inside b old
    exact (fresh.apart_of_cons k deeper).symm.within inside within
  · intro b member
    rcases List.mem_cons.1 member with rfl | old
    · exact ⟨backing, List.mem_cons_self, same, fits, absent⟩
    · obtain ⟨k, deeper, rest⟩ := serves.backed b old
      exact ⟨k, List.mem_cons_of_mem _ deeper, rest⟩
  · intro i member
    obtain ⟨deeper, rest⟩ := serves.idle i member
    exact ⟨List.mem_cons_of_mem _ deeper, rest⟩
  · intro key entry listed
    simp only [Pool.adopt, Table.find?_insert] at listed
    split at listed
    · next same =>
      cases listed
      exact ⟨List.mem_cons_self, same.symm, absent, filed⟩
    · obtain ⟨deeper, rest⟩ := serves.outstanding key entry listed
      exact ⟨List.mem_cons_of_mem _ deeper, rest⟩

theorem retain {bucket : Bucket} (serves : pool.Serves live beneath)
    (found : pool.outstanding.find? a = some issued) (filed : issued.bucket = some bucket) :
    (pool.retain a issued bucket).Serves (Block.elsewhere a live) beneath := by
  obtain ⟨below, here, out, shape⟩ := serves.outstanding a issued found
  have idle : ∀ {k : Block}, k ∉ pool.idleBlocks → k.address ≠ a →
      k ∉ (pool.retain a issued bucket).idleBlocks := by
    intro k absent other member
    obtain ⟨i, listed, rfl⟩ := mem_idleBlocks.1 member
    rcases List.mem_cons.1 listed with rfl | old
    · exact other here
    · exact absent (mem_idleBlocks.2 ⟨i, old, rfl⟩)
  refine ⟨serves.held.sublist List.filter_sublist, ?_, ?_, ?_, ?_⟩
  · intro b member
    obtain ⟨old, other⟩ := Block.mem_elsewhere.1 member
    obtain ⟨k, deeper, same, fits, absent⟩ := serves.backed b old
    exact ⟨k, deeper, same, fits, idle absent (same ▸ other)⟩
  · intro i member
    rcases List.mem_cons.1 member with rfl | old
    · exact ⟨below, shape bucket filed⟩
    · exact serves.idle i old
  · have listed : (pool.retain a issued bucket).idleBlocks = pool.idleBlocks ++ [issued.backing] := by
      simp only [idleBlocks, Pool.retain, List.map_cons, List.reverse_cons]
    rw [listed]
    exact List.perm_append_comm.nodup_iff.2 (List.nodup_cons.2 ⟨out, serves.distinct⟩)
  · intro key entry listed
    simp only [Pool.retain, Table.find?_erase] at listed
    split at listed
    · cases listed
    · next other =>
      obtain ⟨deeper, same, absent, rest⟩ := serves.outstanding key entry listed
      exact ⟨deeper, same, idle absent (same ▸ other), rest⟩

theorem release {held : Counter} (serves : pool.Serves live beneath)
    (found : pool.outstanding.find? a = some issued) :
    Serves { pool with outstanding := pool.outstanding.erase a, held } (Block.elsewhere a live)
      (issued.backing.others beneath) := by
  obtain ⟨_, here, out, _⟩ := serves.outstanding a issued found
  have kept : ∀ {k : Block}, k ∈ beneath → k.address ≠ a → k ∈ issued.backing.others beneath :=
    fun deeper other => Block.mem_others.2 ⟨deeper, fun same => other (same ▸ here)⟩
  refine ⟨serves.held.sublist List.filter_sublist, ?_, ?_, serves.distinct, ?_⟩
  · intro b member
    obtain ⟨old, other⟩ := Block.mem_elsewhere.1 member
    obtain ⟨k, deeper, same, rest⟩ := serves.backed b old
    exact ⟨k, kept deeper (same ▸ other), same, rest⟩
  · intro i member
    obtain ⟨deeper, rest⟩ := serves.idle i member
    refine ⟨Block.mem_others.2 ⟨deeper, ?_⟩, rest⟩
    intro same
    exact out (mem_idleBlocks.2 ⟨i, member, same⟩)
  · intro key entry listed
    simp only [Table.find?_erase] at listed
    split at listed
    · cases listed
    · next other =>
      obtain ⟨deeper, same, rest⟩ := serves.outstanding key entry listed
      exact ⟨kept deeper (same ▸ other), same, rest⟩

-- The pool may forget idle blocks and records, and idle blocks it has forgotten may be gone.
theorem forget {other : Pool} {more : List Block} (serves : pool.Serves live beneath)
    (fewer : other.idle.Sublist pool.idle)
    (listed : ∀ a issued, other.outstanding.find? a = some issued →
      pool.outstanding.find? a = some issued)
    (kept : ∀ k ∈ beneath, (k ∈ pool.idleBlocks → k ∈ other.idleBlocks) → k ∈ more) :
    other.Serves live more := by
  have sub : other.idleBlocks.Sublist pool.idleBlocks := (fewer.map _).reverse
  have absent : ∀ {k : Block}, k ∉ pool.idleBlocks → k ∉ other.idleBlocks :=
    fun out member => out (sub.subset member)
  refine ⟨serves.held, ?_, ?_, serves.distinct.sublist sub, ?_⟩
  · intro b member
    obtain ⟨k, deeper, same, fits, out⟩ := serves.backed b member
    exact ⟨k, kept k deeper fun member => absurd member out, same, fits, absent out⟩
  · intro i member
    obtain ⟨deeper, rest⟩ := serves.idle i (fewer.subset member)
    exact ⟨kept _ deeper fun _ => mem_idleBlocks.2 ⟨i, member, rfl⟩, rest⟩
  · intro key entry found
    obtain ⟨deeper, same, out, rest⟩ := serves.outstanding key entry (listed key entry found)
    exact ⟨kept _ deeper fun member => absurd member out, same, absent out, rest⟩

end Serves

section
variable {source : Source σ} {inv : Invariant σ} {room : σ → Prop} {live beneath : List Block}
  {owned frame : List Extent} {s : σ} {pool : Pool} {machine : Machine}

theorem Asks.serves {request wider : Request} {asking : Pool} {bucket : Option Bucket}
    {shape : Block → Block} (asks : Asks pool request asking wider bucket shape)
    (serves : pool.Serves live beneath) : asking.Serves live beneath := by
  rw [asks.counted]
  exact serves.forget (List.Sublist.refl _) (fun _ _ found => found) fun _ old _ => old

theorem allocate_contract (below : source.Contract inv room) {request : Request}
    (proper : request.Proper) (hasRoom : room s) (kept : inv s beneath owned)
    (serves : pool.Serves live beneath) (owns : machine.memory.Owns (frame ++ owned)) :
    Allocated (Over inv Serves) frame live request
      (Pool.allocate source request (pool, s) machine) := by
  have step := allocate_step source request pool s machine
  generalize Pool.allocate source request (pool, s) machine = reply at step ⊢
  cases step with
  | refused cause => exact .failed owns ⟨beneath, kept, serves⟩
  | reused large rounded active found =>
    exact .issued (Machine.zeroIf_owns owns) rfl rfl
      ⟨beneath, kept, serves.reuse (below.held kept) proper (PoolConfig.le_sizeClass rounded) found⟩
  | @obtained asking wider bucket shape backing after machine' asks answer =>
    obtain ⟨_, owns, size, align, kept⟩ := below.issued (asks.proper proper) hasRoom kept owns answer
    obtain ⟨address, shapeSize, shapeAlign⟩ := asks.shaped backing
    obtain ⟨large, sameAlign⟩ := asks.widened
    have fresh := below.held kept
    have aligned : request.align ∣ backing.address :=
      (align.trans sameAlign) ▸ (fresh.proper backing List.mem_cons_self).aligned
    have shaped : (shape backing).Proper :=
      ⟨shapeSize ▸ proper.1, shapeAlign ▸ proper.2, address ▸ shapeAlign ▸ aligned⟩
    refine .issued owns shapeSize shapeAlign
      ⟨_, kept, (asks.serves serves).adopt fresh shaped address.symm ?_ (asks.filed size align)⟩
    exact shapeSize ▸ size ▸ large
  | failed asks answer =>
    obtain ⟨_, owns, kept⟩ := below.refused (asks.proper proper) hasRoom kept owns answer
    exact .failed owns ⟨beneath, kept, asks.serves serves⟩

-- This holds of any block a client comes with, not only of those it has out.
theorem free_contract (below : source.Contract inv room) (block : Block) (kept : inv s beneath owned)
    (serves : pool.Serves live beneath) (owns : machine.memory.Owns (frame ++ owned)) :
    Freed (Over inv Serves) frame live (Block.elsewhere block.address live)
      (Pool.free source block (pool, s) machine) := by
  have step := free_step source block pool s machine
  generalize Pool.free source block (pool, s) machine = reply at step ⊢
  cases step with
  | foreign cause => exact .failed owns ⟨beneath, kept, serves⟩
  | retained own found filed active allowed =>
    exact .taken owns ⟨beneath, kept, serves.retain found filed⟩
  | released handsOn answer =>
    obtain ⟨_, owns, kept⟩ := below.taken (serves.outstanding _ _ handsOn.found).1 kept owns answer
    exact .taken owns ⟨_, kept, serves.release handsOn.found⟩
  | restored handsOn answer =>
    obtain ⟨member, here, _⟩ := serves.outstanding _ _ handsOn.found
    obtain ⟨_, owns, kept⟩ := below.declined member kept owns answer
    refine .failed owns ⟨_, kept, ?_⟩
    rw [here, Table.insert_erase handsOn.found]
    exact serves
  | lost handsOn answer =>
    obtain ⟨_, owns, kept⟩ := below.declined (serves.outstanding _ _ handsOn.found).1 kept owns answer
    refine .failed owns ⟨_, kept, serves.forget (List.Sublist.refl _) ?_ fun _ old _ => old⟩
    intro key entry listed
    rw [Table.find?_erase] at listed
    split at listed
    · cases listed
    · exact listed

-- Each block that is returned is idle and nobody else's. What is still to be returned counts as
-- idle in the invariant of this induction.
theorem releaseAll_contract (below : source.Contract inv room) (first : Option Error)
    (parked : List IdleBlock) (nothing : pool.idle = []) (kept : inv s beneath owned)
    (serves : Serves { pool with idle := parked } live beneath)
    (owns : machine.memory.Owns (frame ++ owned)) :
    Freed (Over inv Serves) frame live live
      (releaseAll source first (parked.map IdleBlock.backing) pool s machine) := by
  induction parked generalizing first pool s beneath owned machine with
  | nil =>
    have serves : pool.Serves live beneath := by
      obtain ⟨_, _, _, _, _⟩ := pool
      cases nothing
      exact serves
    unfold List.map releaseAll
    split
    · exact .taken owns ⟨beneath, kept, serves⟩
    · exact .failed owns ⟨beneath, kept, serves⟩
  | cons i rest ih =>
    obtain ⟨member, _, _⟩ := serves.idle i List.mem_cons_self
    have spent : i.backing ∈ Pool.idleBlocks { pool with idle := i :: rest } :=
      mem_idleBlocks.2 ⟨i, List.mem_cons_self, rfl⟩
    have alone : i.backing ∉ Pool.idleBlocks { pool with idle := rest } := by
      have distinct := (List.reverse_perm _).nodup_iff.1 serves.distinct
      exact fun member => (List.nodup_cons.1 distinct).1 (List.mem_reverse.1 member)
    have fewer : rest.Sublist (i :: rest) := List.sublist_cons_self i rest
    unfold List.map releaseAll
    have outcome := below.free member kept owns
    generalize source.free i.backing s machine = reply at outcome ⊢
    cases outcome with
    | taken owns kept =>
      refine ih first nothing kept ?_ owns
      refine serves.forget fewer (fun _ _ found => found) fun k old still => ?_
      exact Block.mem_others.2 ⟨old, fun same => alone (same ▸ still (same ▸ spent))⟩
    | @failed fault s machine owned owns kept =>
      have serves : Serves { pool with idle := rest } live beneath :=
        serves.forget fewer (fun _ _ found => found) fun _ old _ => old
      cases fault with
      | refused e => exact ih (first.or (some e)) nothing kept serves owns
      | panicked message =>
        refine .failed owns ⟨beneath, kept, ?_⟩
        refine serves.forget ?_ (fun _ _ found => found) fun _ old _ => old
        rw [nothing]
        exact List.nil_sublist rest

theorem Serves.reversed (serves : pool.Serves live beneath) :
    Serves { pool with idle := pool.idle.reverse } live beneath := by
  have same : ∀ {k : Block},
      k ∈ Pool.idleBlocks { pool with idle := pool.idle.reverse } ↔ k ∈ pool.idleBlocks := by
    simp only [mem_idleBlocks, List.mem_reverse, implies_true]
  refine ⟨serves.held, ?_, ?_, ?_, ?_⟩
  · simpa only [same] using serves.backed
  · simpa only [List.mem_reverse] using serves.idle
  · have shuffled := (List.reverse_perm pool.idle).map IdleBlock.backing
    have shuffled := (List.reverse_perm _).trans (shuffled.trans (List.reverse_perm _).symm)
    exact shuffled.nodup_iff.2 serves.distinct
  · simpa only [same] using serves.outstanding

-- Trimming and disposing take no block from a client.
theorem emptied_contract (below : source.Contract inv room) (disposed : Bool)
    (kept : inv s beneath owned) (serves : pool.Serves live beneath)
    (owns : machine.memory.Owns (frame ++ owned)) :
    Freed (Over inv Serves) frame live live
      (releaseAll source none pool.idleBlocks { pool.emptied with disposed } s machine) := by
  have blocks : pool.idleBlocks = pool.idle.reverse.map IdleBlock.backing := List.map_reverse.symm
  rw [blocks]
  refine releaseAll_contract below none pool.idle.reverse rfl kept ?_ owns
  exact serves.reversed.forget (List.Sublist.refl _) (fun _ _ found => found) fun _ old _ => old

end

theorem contract {source : Source σ} {inv : Invariant σ} {room : σ → Prop}
    (below : source.Contract inv room) :
    (Pool.source source).Contract (Over inv Serves) (fun state => room state.2) := by
  refine below.over Serves.held Serves.inside (allocate_contract below) fun member kept serves owns => ?_
  rw [← serves.held.elsewhere_eq member]
  exact free_contract below _ kept serves owns

end Pool

end LayeredAllocation
