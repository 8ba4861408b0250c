import LayeredAllocation.Proofs.Calls
import LayeredAllocation.Proofs.Steps.Bottom

namespace LayeredAllocation

theorem Word.dvd_of_le {a b : Nat} (first : isPowerOfTwo a = true) (second : isPowerOfTwo b = true)
    (le : a ≤ b) : a ∣ b := by
  obtain ⟨m, rfl⟩ := isPowerOfTwo_iff.1 first
  obtain ⟨n, rfl⟩ := isPowerOfTwo_iff.1 second
  exact Nat.pow_dvd_pow 2 ((Nat.pow_le_pow_iff_right (by decide)).1 le)

namespace Extent

theorem Disjoint.within {a b c d : Extent} (apart : a.Disjoint b) (first : c.Within a)
    (second : d.Within b) : c.Disjoint d :=
  (Disjoint.of_within second (Disjoint.of_within first apart).symm).symm

theorem Disjoint.start_ne {a b : Extent} (apart : a.Disjoint b) (first : 0 < a.length)
    (second : 0 < b.length) : a.start ≠ b.start := by
  intro same
  unfold Disjoint stop at apart
  omega

theorem Disjoint.of_pairwise {f : α → Extent} {list : List α} {a b : α}
    (apart : list.Pairwise fun a b => (f a).Disjoint (f b)) (first : a ∈ list) (second : b ∈ list)
    (different : a ≠ b) : (f a).Disjoint (f b) := by
  induction apart with
  | nil => cases first
  | cons head tail ih =>
    rcases List.mem_cons.1 first with rfl | later
    · rcases List.mem_cons.1 second with rfl | later
      · exact absurd rfl different
      · exact head _ later
    · rcases List.mem_cons.1 second with rfl | later'
      · exact (head _ later).symm
      · exact ih later later'

end Extent

structure Block.Proper (block : Block) : Prop where
  positive : 0 < block.size
  power : Word.isPowerOfTwo block.align = true
  aligned : block.align ∣ block.address

structure Held (live : List Block) : Prop where
  proper : ∀ b ∈ live, b.Proper
  apart : live.Pairwise (fun a b => a.extent.Disjoint b.extent)

namespace Held

theorem nil : Held [] := ⟨by simp, List.Pairwise.nil⟩

theorem sublist {live fewer : List Block} (held : Held live) (sub : fewer.Sublist live) :
    Held fewer := ⟨fun b member => held.proper b (sub.subset member), held.apart.sublist sub⟩

theorem others {live : List Block} (held : Held live) (block : Block) :
    Held (block.others live) := held.sublist List.filter_sublist

theorem cons {live : List Block} {block : Block} (held : Held live) (proper : block.Proper)
    (apart : ∀ a ∈ live, a.extent.Disjoint block.extent) : Held (block :: live) := by
  refine ⟨?_, List.pairwise_cons.2 ⟨fun a member => (apart a member).symm, held.apart⟩⟩
  intro b member
  rcases List.mem_cons.1 member with rfl | old
  · exact proper
  · exact held.proper b old

theorem apart_of_ne {live : List Block} (held : Held live) {a b : Block} (first : a ∈ live)
    (second : b ∈ live) (different : a ≠ b) : a.extent.Disjoint b.extent :=
  Extent.Disjoint.of_pairwise held.apart first second different

theorem eq_of_address {live : List Block} (held : Held live) {a b : Block} (first : a ∈ live)
    (second : b ∈ live) (same : a.address = b.address) : a = b := by
  by_cases equal : a = b
  · exact equal
  · have apart := held.apart_of_ne first second equal
    exact absurd same (apart.start_ne (held.proper a first).positive (held.proper b second).positive)

theorem apart_of_cons {live : List Block} {block : Block} (held : Held (block :: live)) :
    ∀ a ∈ live, block.extent.Disjoint a.extent := (List.pairwise_cons.1 held.apart).1

theorem ne_of_cons {live : List Block} {block a : Block} (held : Held (block :: live))
    (member : a ∈ live) : a ≠ block := by
  rintro rfl
  have positive := (held.proper a List.mem_cons_self).positive
  exact (held.apart_of_cons a member).start_ne positive positive rfl

end Held

-- A block that a client brings: one that is out, or one of some sort that is out no longer and
-- that no block has taken the place of.
def Block.Brought (sort : Block → Prop) (live : List Block) (block : Block) : Prop :=
  block ∈ live ∨ (sort block ∧ ∀ b ∈ live, b.address ≠ block.address)

theorem Held.lone {sort : Block → Prop} {live : List Block} {block : Block} (held : Held live)
    (brought : block.Brought sort live) : ∀ b ∈ live, b.address = block.address → b = block := by
  intro b old same
  rcases brought with member | ⟨_, elsewhere⟩
  · exact held.eq_of_address old member same
  · exact absurd same (elsewhere b old)

-- Pieces of memory that the platform has not taken back, none of them twice. The platform knows
-- which pieces are live; whose they are is known only to the sources.
structure Memory.Owns (memory : Memory) (owned : List Extent) : Prop where
  sound : memory.platform.Sound
  live : ∀ e ∈ owned, 0 < e.length ∧ ∃ root ∈ memory.roots, root.live = true ∧ root.extent = e
  apart : owned.Pairwise Extent.Disjoint

namespace Memory

theorem mem_retire {roots : List Root} {root : Root} {start : Nat} (member : root ∈ roots)
    (other : root.extent.start ≠ start) : root ∈ retire start roots := by
  induction roots with
  | nil => cases member
  | cons first older ih =>
    unfold retire
    split
    · next found =>
      rcases List.mem_cons.1 member with rfl | old
      · exact absurd found.1 other
      · exact List.mem_cons_of_mem _ old
    · rcases List.mem_cons.1 member with rfl | old
      · exact List.mem_cons_self
      · exact List.mem_cons_of_mem _ (ih old)

namespace Owns

theorem congr {memory other : Memory} {owned : List Extent} (owns : memory.Owns owned)
    (platform : other.platform = memory.platform) (roots : other.roots = memory.roots) :
    other.Owns owned := ⟨platform ▸ owns.sound, roots ▸ owns.live, owns.apart⟩

theorem sublist {memory : Memory} {owned fewer : List Extent} (owns : memory.Owns owned)
    (sub : fewer.Sublist owned) : memory.Owns fewer :=
  ⟨owns.sound, fun e member => owns.live e (sub.subset member), owns.apart.sublist sub⟩

theorem perm {memory : Memory} {owned shuffled : List Extent} (owns : memory.Owns owned)
    (same : owned.Perm shuffled) : memory.Owns shuffled :=
  ⟨owns.sound, fun e member => owns.live e (same.mem_iff.2 member),
    (same.pairwise_iff fun apart => Extent.Disjoint.symm apart).1 owns.apart⟩

theorem obtained {memory after : Memory} {owned : List Extent} {origin : Origin}
    {size align base : Nat} (owns : memory.Owns owned) (positive : 0 < size)
    (placed : memory.Placed origin size align base after) : after.Owns (⟨base, size⟩ :: owned) := by
  obtain ⟨placed, platform, roots⟩ := placed
  have apart := (owns.sound _ _ _ _ _ _ placed).2.2.2
  refine ⟨platform ▸ owns.sound, ?_, List.pairwise_cons.2 ⟨?_, owns.apart⟩⟩
  · intro e member
    rw [roots]
    rcases List.mem_cons.1 member with rfl | old
    · exact ⟨positive, _, List.mem_cons_self, rfl, rfl⟩
    · obtain ⟨length, root, inside, live, rfl⟩ := owns.live e old
      exact ⟨length, root, List.mem_cons_of_mem _ inside, live, rfl⟩
  · intro e member
    obtain ⟨_, root, inside, live, rfl⟩ := owns.live e member
    exact (apart root inside live).symm

theorem giveBack {memory : Memory} {frame owned : List Extent} {e : Extent} (length : Nat)
    (owns : memory.Owns (frame ++ owned)) (member : e ∈ owned) :
    (memory.giveBack e.start length).Owns (frame ++ owned.filter (· ≠ e)) := by
  have fewer : (frame ++ owned.filter (· ≠ e)).Sublist (frame ++ owned) :=
    List.filter_sublist.append_left frame
  have kept := owns.sublist fewer
  obtain ⟨_, apart, across⟩ := List.pairwise_append.1 owns.apart
  have positive := (owns.live e (List.mem_append_right frame member)).1
  refine ⟨owns.sound, ?_, kept.apart⟩
  intro other inside
  obtain ⟨length', root, found, live, rfl⟩ := kept.live other inside
  have touches : root.extent.Disjoint e := by
    rcases List.mem_append.1 inside with outer | inner
    · exact across _ outer _ member
    · obtain ⟨old, different⟩ := List.mem_filter.1 inner
      exact Extent.Disjoint.of_pairwise (f := id) apart old member (by simpa using different)
  exact ⟨length', root, mem_retire found (touches.start_ne length' positive), live, rfl⟩

end Owns

end Memory

theorem Machine.zeroIf_owns {machine : Machine} {owned : List Extent} {wanted : Bool}
    {start length : Nat} (owns : machine.memory.Owns owned) :
    (machine.zeroIf wanted start length).memory.Owns owned := by
  unfold zeroIf
  split
  · exact owns.congr rfl rfl
  · exact owns

abbrev Invariant (σ : Type) := σ → List Block → List Extent → Prop

inductive Allocated (inv : Invariant σ) (frame : List Extent) (live : List Block)
    (request : Request) : Reply σ Block → Prop where
  | issued {block : Block} {state : σ} {machine : Machine} {owned : List Extent}
      (owns : machine.memory.Owns (frame ++ owned)) (size : block.size = request.size)
      (align : block.align = request.align) (kept : inv state (block :: live) owned) :
      Allocated inv frame live request ⟨.ok block, state, machine⟩
  | failed {fault : Fault} {state : σ} {machine : Machine} {owned : List Extent}
      (owns : machine.memory.Owns (frame ++ owned)) (kept : inv state live owned) :
      Allocated inv frame live request ⟨.error fault, state, machine⟩

-- What giving a block back may lead to, where `rest` is what is out without it. A block that is
-- not taken stays out.
inductive Freed (inv : Invariant σ) (frame : List Extent) (live rest : List Block) :
    Reply σ Unit → Prop where
  | taken {state : σ} {machine : Machine} {owned : List Extent}
      (owns : machine.memory.Owns (frame ++ owned)) (kept : inv state rest owned) :
      Freed inv frame live rest ⟨.ok (), state, machine⟩
  | failed {fault : Fault} {state : σ} {machine : Machine} {owned : List Extent}
      (owns : machine.memory.Owns (frame ++ owned)) (kept : inv state live owned) :
      Freed inv frame live rest ⟨.error fault, state, machine⟩

theorem Allocated.mapState {inv : Invariant σ} {inv' : Invariant τ} {f : σ → τ}
    {frame : List Extent} {live : List Block} {request : Request} {reply : Reply σ Block}
    (outcome : Allocated inv frame live request reply)
    (carries : ∀ {state live owned}, inv state live owned → inv' (f state) live owned) :
    Allocated inv' frame live request (reply.mapState f) := by
  cases outcome with
  | issued owns size align kept => exact .issued owns size align (carries kept)
  | failed owns kept => exact .failed owns (carries kept)

theorem Freed.mapState {inv : Invariant σ} {inv' : Invariant τ} {f : σ → τ}
    {frame : List Extent} {live rest : List Block} {reply : Reply σ Unit}
    (outcome : Freed inv frame live rest reply)
    (carries : ∀ {state live owned}, inv state live owned → inv' (f state) live owned) :
    Freed inv' frame live rest (reply.mapState f) := by
  cases outcome with
  | taken owns kept => exact .taken owns (carries kept)
  | failed owns kept => exact .failed owns (carries kept)

-- The contract, for as long as clients give back only what they hold. A source may run out of
-- room for its own records; it is not asked for blocks then.
structure Source.Contract (source : Source σ) (inv : Invariant σ) (room : σ → Prop) : Prop where
  held {state : σ} {live : List Block} {owned : List Extent} : inv state live owned → Held live
  covered {state : σ} {live : List Block} {owned : List Extent} :
    inv state live owned → ∀ b ∈ live, ∃ e ∈ owned, b.extent.Within e
  allocate {request : Request} {state : σ} {machine : Machine} {live : List Block}
    {owned frame : List Extent} : request.Proper → room state → inv state live owned →
    machine.memory.Owns (frame ++ owned) →
    Allocated inv frame live request (source.allocate request state machine)
  free {block : Block} {state : σ} {machine : Machine} {live : List Block}
    {owned frame : List Extent} : block ∈ live → inv state live owned →
    machine.memory.Owns (frame ++ owned) →
    Freed inv frame live (block.others live) (source.free block state machine)

namespace Source.Contract
variable {source : Source σ} {inv : Invariant σ} {room : σ → Prop} {request : Request} {block : Block}
  {fault : Fault} {s after : σ} {machine left : Machine} {live : List Block} {owned frame : List Extent}

theorem issued (contract : source.Contract inv room) (proper : request.Proper) (hasRoom : room s)
    (kept : inv s live owned) (owns : machine.memory.Owns (frame ++ owned))
    (answer : source.allocate request s machine = ⟨.ok block, after, left⟩) :
    ∃ own, left.memory.Owns (frame ++ own) ∧ block.size = request.size ∧
      block.align = request.align ∧ inv after (block :: live) own := by
  have outcome := contract.allocate proper hasRoom kept owns
  rw [answer] at outcome
  cases outcome with
  | issued owns size align kept => exact ⟨_, owns, size, align, kept⟩

theorem refused (contract : source.Contract inv room) (proper : request.Proper) (hasRoom : room s)
    (kept : inv s live owned) (owns : machine.memory.Owns (frame ++ owned))
    (answer : source.allocate request s machine = ⟨.error fault, after, left⟩) :
    ∃ own, left.memory.Owns (frame ++ own) ∧ inv after live own := by
  have outcome := contract.allocate proper hasRoom kept owns
  rw [answer] at outcome
  cases outcome with
  | failed owns kept => exact ⟨_, owns, kept⟩

theorem taken (contract : source.Contract inv room) (member : block ∈ live)
    (kept : inv s live owned) (owns : machine.memory.Owns (frame ++ owned))
    (answer : source.free block s machine = ⟨.ok (), after, left⟩) :
    ∃ own, left.memory.Owns (frame ++ own) ∧ inv after (block.others live) own := by
  have outcome := contract.free member kept owns
  rw [answer] at outcome
  cases outcome with
  | taken owns kept => exact ⟨_, owns, kept⟩

theorem declined (contract : source.Contract inv room) (member : block ∈ live)
    (kept : inv s live owned) (owns : machine.memory.Owns (frame ++ owned))
    (answer : source.free block s machine = ⟨.error fault, after, left⟩) :
    ∃ own, left.memory.Owns (frame ++ own) ∧ inv after live own := by
  have outcome := contract.free member kept owns
  rw [answer] at outcome
  cases outcome with
  | failed owns kept => exact ⟨_, owns, kept⟩

end Source.Contract

def Over (inv : Invariant σ) (serves : α → List Block → List Block → Prop) : Invariant (α × σ) :=
  fun state live owned => ∃ beneath, inv state.2 beneath owned ∧ serves state.1 live beneath

theorem Source.Contract.over {below : Source σ} {upper : Source (α × σ)} {inv : Invariant σ}
    {room : σ → Prop} {space : α × σ → Prop} {serves : α → List Block → List Block → Prop}
    (contract : below.Contract inv room)
    (held : ∀ {a live beneath}, serves a live beneath → Held live)
    (inside : ∀ {a live beneath}, serves a live beneath →
      ∀ b ∈ live, ∃ k ∈ beneath, b.extent.Within k.extent)
    (allocate : ∀ {request a s machine live beneath owned frame}, request.Proper → space (a, s) →
      inv s beneath owned → serves a live beneath → machine.memory.Owns (frame ++ owned) →
      Allocated (Over inv serves) frame live request (upper.allocate request (a, s) machine))
    (free : ∀ {block a s machine live beneath owned frame}, block ∈ live →
      inv s beneath owned → serves a live beneath → machine.memory.Owns (frame ++ owned) →
      Freed (Over inv serves) frame live (block.others live) (upper.free block (a, s) machine)) :
    upper.Contract (Over inv serves) space where
  held kept := by
    obtain ⟨_, _, served⟩ := kept
    exact held served
  covered kept b member := by
    obtain ⟨beneath, kept, served⟩ := kept
    obtain ⟨k, found, within⟩ := inside served b member
    obtain ⟨e, own, covered⟩ := contract.covered kept k found
    exact ⟨e, own, within.trans covered⟩
  allocate {request state machine live owned frame} proper room kept owns := by
    obtain ⟨a, s⟩ := state
    obtain ⟨beneath, kept, served⟩ := kept
    exact allocate proper room kept served owns
  free {block state machine live owned frame} member kept owns := by
    obtain ⟨a, s⟩ := state
    obtain ⟨beneath, kept, served⟩ := kept
    exact free member kept served owns

end LayeredAllocation
