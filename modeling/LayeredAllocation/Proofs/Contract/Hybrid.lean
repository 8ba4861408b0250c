import LayeredAllocation.Proofs.Contract
import LayeredAllocation.Proofs.Steps.Hybrid

namespace LayeredAllocation

-- A block that some hybrid has pinned.
def Block.Pinned (block : Block) : Prop := ∃ owner id, block.tag = .pinned owner id

namespace Hybrid
variable {hybrid : Hybrid} {live beneath : List Block} {pins rest frame : List Extent}
  {request : Request} {block : Block} {memory : Memory}

def extentOf (pinned : PinnedBlock) : Extent := ⟨pinned.address, pinned.size⟩

structure Serves (hybrid : Hybrid) (live beneath : List Block) (pins : List Extent) : Prop where
  held : Held live
  issued : ∀ b ∈ live, b ∈ beneath ∨ ∃ e ∈ pins, e.start = b.address ∧ b.size ≤ e.length ∧
    ∃ id, b.tag = .pinned hybrid.owner id
  listed : ∀ id pinned, hybrid.pinned.find? id = some pinned → extentOf pinned ∈ pins
  separate : ∀ m n first second, hybrid.pinned.find? m = some first →
    hybrid.pinned.find? n = some second → m ≠ n → first.address ≠ second.address

-- A hybrid owns its pinned pieces itself; the rest belongs to the source beneath.
def Backs (inv : Invariant σ) : Invariant (Hybrid × σ) := fun state live owned =>
  ∃ beneath pins rest, owned = pins ++ rest ∧ inv state.2 beneath rest ∧
    state.1.Serves live beneath pins

theorem chunkSize_power : Word.isPowerOfTwo PinnedBlock.chunkSize = true :=
  Word.isPowerOfTwo_iff.2 ⟨6, rfl⟩

theorem chunksFor_covers {size : Nat} (positive : 0 < size) :
    0 < PinnedBlock.chunksFor size ∧ size ≤ PinnedBlock.chunksFor size * PinnedBlock.chunkSize := by
  unfold PinnedBlock.chunksFor PinnedBlock.chunkSize
  omega

theorem owns_pins (owns : memory.Owns (frame ++ (pins ++ rest))) :
    memory.Owns ((frame ++ rest) ++ pins) := by
  refine owns.perm ?_
  rw [List.append_assoc]
  exact List.perm_append_comm.append_left frame

theorem owns_rest (owns : memory.Owns ((frame ++ pins) ++ rest)) :
    memory.Owns (frame ++ (pins ++ rest)) := List.append_assoc frame pins rest ▸ owns

namespace Serves

theorem covered {source : Source σ} {inv : Invariant σ} {room : σ → Prop} {s : σ}
    (serves : hybrid.Serves live beneath pins) (below : source.Contract inv room)
    (kept : inv s beneath rest) : ∀ b ∈ live, ∃ e ∈ pins ++ rest, b.extent.Within e := by
  intro b member
  rcases serves.issued b member with passed | ⟨e, own, start, fits, _⟩
  · obtain ⟨e, own, within⟩ := below.covered kept b passed
    exact ⟨e, List.mem_append_right _ own, within⟩
  · refine ⟨e, List.mem_append_left _ own, Nat.le_of_eq start, ?_⟩
    simp only [Extent.stop, Block.extent]
    omega

-- A piece newly pinned touches nothing owned so far.
theorem register {base : Nat} {other : Memory} (serves : hybrid.Serves live beneath pins)
    (covered : ∀ b ∈ live, ∃ e ∈ pins ++ rest, b.extent.Within e) (proper : request.Proper)
    (small : request.align ≤ PinnedBlock.chunkSize)
    (aligned : PinnedBlock.chunkSize ∣ base)
    (owns : other.Owns
      (⟨base, PinnedBlock.chunksFor request.size * PinnedBlock.chunkSize⟩ ::
        (frame ++ (pins ++ rest)))) :
    (hybrid.register ⟨base, PinnedBlock.chunksFor request.size⟩).Serves
      (⟨base, request.size, request.align, .pinned hybrid.owner hybrid.nextPin⟩ :: live) beneath
      (⟨base, PinnedBlock.chunksFor request.size * PinnedBlock.chunkSize⟩ :: pins) := by
  obtain ⟨_, fits⟩ := chunksFor_covers proper.1
  have positive := (owns.live _ List.mem_cons_self).1
  obtain ⟨apart, _⟩ := List.pairwise_cons.1 owns.apart
  have start : ∀ e ∈ pins, e.start ≠ base := by
    intro e member
    have owned : e ∈ frame ++ (pins ++ rest) :=
      List.mem_append_right _ (List.mem_append_left _ member)
    exact ((apart e owned).start_ne positive (owns.live e (List.mem_cons_of_mem _ owned)).1).symm
  refine ⟨serves.held.cons ⟨proper.1, proper.2, ?_⟩ ?_, ?_, ?_, ?_⟩
  · exact Nat.dvd_trans (Word.dvd_of_le proper.2 chunkSize_power small) aligned
  · intro b member
    obtain ⟨e, own, within⟩ := covered b member
    refine ((apart e (List.mem_append_right _ own)).symm.within within ⟨Nat.le_refl _, ?_⟩)
    simp only [Extent.stop, Block.extent]
    omega
  · intro b member
    rcases List.mem_cons.1 member with rfl | old
    · exact Or.inr ⟨_, List.mem_cons_self, rfl, fits, _, rfl⟩
    · rcases serves.issued b old with passed | ⟨e, own, rest⟩
      · exact Or.inl passed
      · exact Or.inr ⟨e, List.mem_cons_of_mem _ own, rest⟩
  · intro id pinned found
    simp only [Hybrid.register, Table.find?_insert] at found
    split at found
    · cases found
      exact List.mem_cons_self
    · exact List.mem_cons_of_mem _ (serves.listed id pinned found)
  · intro m n first second foundFirst foundSecond different
    simp only [Hybrid.register, Table.find?_insert] at foundFirst foundSecond
    split at foundFirst
    · next same =>
      cases foundFirst
      rw [if_neg (by rw [← same]; exact different.symm)] at foundSecond
      exact (start _ (serves.listed n second foundSecond)).symm
    · split at foundSecond
      · cases foundSecond
        exact start _ (serves.listed m first foundFirst)
      · exact serves.separate m n first second foundFirst foundSecond different

-- A piece that is given back was nobody else's.
theorem unpin {id : Nat} {pinned : PinnedBlock} {pinnedBytes : Counter}
    (serves : hybrid.Serves live beneath pins)
    (lone : ∀ b ∈ live, b.address = block.address → b = block)
    (found : hybrid.pinned.find? id = some pinned)
    (here : pinned.address = block.address) :
    Serves { hybrid with pinned := hybrid.pinned.erase id, pinnedBytes } (block.others live) beneath
      (pins.filter (· ≠ extentOf pinned)) := by
  have kept : ∀ e ∈ pins, e.start ≠ block.address → e ∈ pins.filter (· ≠ extentOf pinned) := by
    intro e own elsewhere
    refine List.mem_filter.2 ⟨own, decide_eq_true ?_⟩
    rintro rfl
    exact elsewhere here
  refine ⟨serves.held.others block, ?_, ?_, ?_⟩
  · intro b member
    obtain ⟨old, different⟩ := Block.mem_others.1 member
    rcases serves.issued b old with passed | ⟨e, own, start, rest⟩
    · exact Or.inl passed
    · refine Or.inr ⟨e, kept e own ?_, start, rest⟩
      intro same
      exact different (lone b old (start.symm.trans same))
  · intro n other listed
    simp only [Table.find?_erase] at listed
    split at listed
    · cases listed
    · next different =>
      refine kept _ (serves.listed n other listed) ?_
      exact here ▸ serves.separate n id other pinned listed found different
  · intro m n first second foundFirst foundSecond different
    simp only [Table.find?_erase] at foundFirst foundSecond
    split at foundFirst
    · cases foundFirst
    · split at foundSecond
      · cases foundSecond
      · exact serves.separate m n first second foundFirst foundSecond different

theorem pass {backingBytes : Counter} (serves : hybrid.Serves live beneath pins)
    (fresh : Held (block :: live)) :
    Serves { hybrid with backingBytes } (block :: live) (block :: beneath) pins := by
  refine ⟨fresh, ?_, serves.listed, serves.separate⟩
  intro b member
  rcases List.mem_cons.1 member with rfl | old
  · exact Or.inl List.mem_cons_self
  · exact (serves.issued b old).imp (List.mem_cons_of_mem _) id

theorem passBack {backingBytes : Counter} (serves : hybrid.Serves live beneath pins) :
    Serves { hybrid with backingBytes } (block.others live) (block.others beneath) pins := by
  refine ⟨serves.held.others block, ?_, serves.listed, serves.separate⟩
  intro b member
  obtain ⟨old, different⟩ := Block.mem_others.1 member
  exact (serves.issued b old).imp (fun passed => Block.mem_others.2 ⟨passed, different⟩) id

-- A block from beneath touches nothing that is out: what is pinned lies outside of the source.
theorem held_cons {source : Source σ} {inv : Invariant σ} {room : σ → Prop} {s : σ}
    (serves : hybrid.Serves live beneath pins) (below : source.Contract inv room)
    (kept : inv s (block :: beneath) rest) (owns : memory.Owns ((frame ++ pins) ++ rest)) :
    Held (block :: live) := by
  have fresh := below.held kept
  obtain ⟨_, _, across⟩ := List.pairwise_append.1 owns.apart
  refine serves.held.cons (fresh.proper block List.mem_cons_self) fun b old => ?_
  rcases serves.issued b old with passed | ⟨e, own, start, fits, _⟩
  · exact (fresh.apart_of_cons b passed).symm
  · obtain ⟨e', own', within⟩ := below.covered kept block List.mem_cons_self
    refine (across e (List.mem_append_right _ own) e' own').within ⟨Nat.le_of_eq start, ?_⟩ within
    simp only [Extent.stop, Block.extent]
    omega

theorem passed_of_tag (serves : hybrid.Serves live beneath pins)
    (brought : block.Brought Block.Pinned live)
    (unpinned : ∀ owner id, block.tag ≠ .pinned owner id) : block ∈ beneath := by
  rcases brought with member | ⟨⟨_, _, tag⟩, _⟩
  · rcases serves.issued block member with passed | ⟨_, _, _, _, id, tag⟩
    · exact passed
    · exact absurd tag (unpinned _ _)
  · exact absurd tag (unpinned _ _)

end Serves

theorem small_of_pins (chosen : hybrid.pins request = true) :
    request.align ≤ PinnedBlock.chunkSize := by
  unfold Hybrid.pins at chosen
  simp only [Bool.and_eq_true, decide_eq_true_eq] at chosen
  exact chosen.1

section
variable {source : Source σ} {inv : Invariant σ} {room : σ → Prop} {s : σ} {machine : Machine}

theorem allocate_contract (below : source.Contract inv room) (proper : request.Proper)
    (hasRoom : room s) (kept : inv s beneath rest) (serves : hybrid.Serves live beneath pins)
    (owns : machine.memory.Owns (frame ++ (pins ++ rest))) :
    Allocated (Backs inv) frame live request
      (Hybrid.allocate source request (hybrid, s) machine) := by
  have unchanged : Backs inv (hybrid, s) live (pins ++ rest) :=
    ⟨beneath, pins, rest, rfl, kept, serves⟩
  have outer : machine.memory.Owns ((frame ++ pins) ++ rest) := by
    rwa [List.append_assoc]
  have step := allocate_step source request hybrid s machine
  generalize Hybrid.allocate source request (hybrid, s) machine = reply at step ⊢
  cases step with
  | overflowed _ large => exact .failed owns unchanged
  | exhausted _ small placed =>
    have untouched := untouched_of_place placed
    exact .failed (owns.congr untouched.platform untouched.roots) unchanged
  | pinned chosen small placed =>
    obtain ⟨positive, fits⟩ := chunksFor_covers proper.1
    have placed := placed_of_place positive placed
    have owns' := owns.obtained (Nat.lt_of_lt_of_le proper.1 fits) placed
    have aligned := (owns.sound _ _ _ _ _ _ placed.placed).2.1 chunkSize_power
    refine .issued (owns'.perm List.perm_middle.symm) rfl rfl
      ⟨beneath, _ :: pins, rest, rfl, kept, ?_⟩
    exact serves.register (serves.covered below kept) proper (small_of_pins chosen) aligned owns'
  | passed _ answer =>
    obtain ⟨_, owns, size, align, kept⟩ := below.issued proper hasRoom kept outer answer
    refine .issued (owns_rest owns) size align ⟨_, pins, _, rfl, kept, serves.pass ?_⟩
    exact serves.held_cons below kept owns
  | passFailed _ answer =>
    obtain ⟨_, owns, kept⟩ := below.refused proper hasRoom kept outer answer
    exact .failed (owns_rest owns) ⟨beneath, pins, _, rfl, kept, serves⟩

-- A pin may come back although nobody is out there.
theorem free_contract (below : source.Contract inv room) (brought : block.Brought Block.Pinned live)
    (kept : inv s beneath rest) (serves : hybrid.Serves live beneath pins)
    (owns : machine.memory.Owns (frame ++ (pins ++ rest))) :
    Freed (Backs inv) frame live (block.others live)
      (Hybrid.free source block (hybrid, s) machine) := by
  have unchanged : Backs inv (hybrid, s) live (pins ++ rest) :=
    ⟨beneath, pins, rest, rfl, kept, serves⟩
  have outer : machine.memory.Owns ((frame ++ pins) ++ rest) := by
    rwa [List.append_assoc]
  have step := free_step source block hybrid s machine
  generalize Hybrid.free source block (hybrid, s) machine = reply at step ⊢
  cases step with
  | foreign tag other => exact .failed owns unchanged
  | doubled tag absent => exact .failed owns unchanged
  | misplaced tag found elsewhere => exact .failed owns unchanged
  | @unpinned id pinned tag found here =>
    refine .taken ?_ ⟨beneath, _, rest, rfl, kept, serves.unpin (serves.held.lone brought) found here⟩
    refine ((owns_pins owns).giveBack pinned.size (serves.listed id pinned found)).perm ?_
    rw [List.append_assoc]
    exact List.perm_append_comm.append_left frame
  | passed unpinned answer =>
    obtain ⟨_, owns, kept⟩ := below.taken (serves.passed_of_tag brought unpinned) kept outer answer
    exact .taken (owns_rest owns) ⟨_, pins, _, rfl, kept, serves.passBack⟩
  | passFailed unpinned answer =>
    obtain ⟨_, owns, kept⟩ := below.declined (serves.passed_of_tag brought unpinned) kept outer answer
    exact .failed (owns_rest owns) ⟨beneath, pins, _, rfl, kept, serves⟩

end

theorem contract {source : Source σ} {inv : Invariant σ} {room : σ → Prop}
    (below : source.Contract inv room) :
    (Hybrid.source source).Contract (Backs inv) (fun state => room state.2) where
  held kept := by
    obtain ⟨_, _, _, _, _, serves⟩ := kept
    exact serves.held
  covered kept := by
    obtain ⟨_, _, _, rfl, kept, serves⟩ := kept
    exact serves.covered below kept
  allocate {request state machine live owned frame} proper room kept owns := by
    obtain ⟨hybrid, s⟩ := state
    obtain ⟨beneath, pins, rest, rfl, kept, serves⟩ := kept
    exact allocate_contract below proper room kept serves owns
  free {block state machine live owned frame} member kept owns := by
    obtain ⟨hybrid, s⟩ := state
    obtain ⟨beneath, pins, rest, rfl, kept, serves⟩ := kept
    exact free_contract below (Or.inl member) kept serves owns

end Hybrid

end LayeredAllocation
