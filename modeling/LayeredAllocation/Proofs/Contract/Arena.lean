import LayeredAllocation.Proofs.Contract
import LayeredAllocation.Proofs.Steps.Arena

namespace LayeredAllocation.Arena

structure Serves (arena : Arena) (live beneath : List Block) : Prop where
  held : Held live
  chunks : ∀ c ∈ arena.chunks, c ∈ beneath
  inside : ∀ b ∈ live, ∃ c ∈ arena.chunks, b.extent.Within c.extent
  current : ∀ i, arena.current = some i → ∃ c, arena.chunks[i]? = some c ∧
    ∀ b ∈ live, b.extent.Disjoint c.extent ∨ b.extent.stop ≤ c.address + arena.cursor

structure Fits (arena : Arena) (request : Request) (index : Nat) (chunk : Block)
    (offset stop : Nat) : Prop where
  current : arena.current = some index
  listed : arena.chunks[index]? = some chunk
  aligned : request.align ∣ chunk.address + offset
  behind : arena.cursor ≤ offset
  ends : stop = offset + request.size
  inside : stop ≤ chunk.size

theorem fit?_eq_some {arena : Arena} {request : Request} {index : Nat} {chunk : Block}
    {offset stop : Nat} (found : arena.fit? request = some (index, chunk, offset, stop)) :
    arena.Fits request index chunk offset stop := by
  unfold fit? at found
  split at found
  · cases found
  · next current =>
    split at found
    · cases found
    · next listed =>
      split at found
      · cases found
      · next start rounded =>
        obtain ⟨positive, rfl, _⟩ := Word.roundUp?_eq_some.1 rounded
        dsimp only at found
        split at found
        · next fits =>
          cases found
          have above := Word.le_roundUp (n := chunk.address + arena.cursor) positive
          have start : chunk.address +
              (Word.roundUp (chunk.address + arena.cursor) request.align - chunk.address) =
              Word.roundUp (chunk.address + arena.cursor) request.align := by omega
          refine ⟨current, listed, ?_, by omega, rfl, fits.1⟩
          rw [start]
          exact Word.dvd_roundUp _ _
        · cases found

theorem Serves.mono {arena : Arena} {live beneath more : List Block}
    (serves : arena.Serves live beneath) (kept : ∀ c ∈ arena.chunks, c ∈ beneath → c ∈ more) :
    arena.Serves live more :=
  ⟨serves.held, fun c member => kept c member (serves.chunks c member), serves.inside, serves.current⟩

theorem Serves.advance {arena : Arena} {live beneath : List Block} {request : Request} {index : Nat}
    {chunk : Block} {offset stop : Nat} (serves : arena.Serves live beneath)
    (proper : request.Proper) (fits : arena.Fits request index chunk offset stop) :
    (arena.advance stop).Serves (arena.carve index chunk offset request :: live) beneath := by
  obtain ⟨current, listed, aligned, behind, rfl, room⟩ := fits
  have member := List.mem_of_getElem? listed
  have within : (arena.carve index chunk offset request).extent.Within chunk.extent :=
    ⟨Nat.le_add_right _ _, by simp only [Extent.stop, Block.extent, carve]; omega⟩
  have before : ∀ b ∈ live,
      b.extent.Disjoint chunk.extent ∨ b.extent.stop ≤ chunk.address + arena.cursor := by
    obtain ⟨c, found, before⟩ := serves.current index current
    obtain rfl := Option.some.inj (listed.symm.trans found)
    exact before
  refine ⟨serves.held.cons ⟨proper.1, proper.2, aligned⟩ ?_, serves.chunks, ?_, ?_⟩
  · intro b old
    rcases before b old with apart | front
    · exact apart.within (Extent.Within.refl _) within
    · exact Or.inl (by simp only [Extent.stop, Block.extent, carve] at front ⊢; omega)
  · intro b old
    rcases List.mem_cons.1 old with rfl | old
    · exact ⟨chunk, member, within⟩
    · exact serves.inside b old
  · intro i same
    obtain rfl := Option.some.inj (current.symm.trans same)
    have moved : (arena.advance (offset + request.size)).cursor = offset + request.size := rfl
    refine ⟨chunk, listed, ?_⟩
    intro b old
    rw [moved]
    rcases List.mem_cons.1 old with rfl | old
    · exact Or.inr (by simp only [Extent.stop, Block.extent, carve]; omega)
    · rcases before b old with apart | front
      · exact Or.inl apart
      · exact Or.inr (by simp only [Extent.stop, Block.extent] at front ⊢; omega)

-- What comes from beneath anew touches no block of the arena, since these lie in its chunks.
theorem Serves.beside {arena : Arena} {live beneath : List Block} {chunk : Block}
    (serves : arena.Serves live beneath) (fresh : Held (chunk :: beneath)) :
    ∀ b ∈ live, b.extent.Disjoint chunk.extent := by
  intro b old
  obtain ⟨c, listed, inside⟩ := serves.inside b old
  exact (fresh.apart_of_cons c (serves.chunks c listed)).symm.within inside (Extent.Within.refl _)

-- The first bytes of a new chunk touch nothing, and the chunk in use stays as it was unless the
-- new one takes its place.
theorem Serves.adopt {arena : Arena} {live beneath : List Block} {request : Request} {chunk : Block}
    (serves : arena.Serves live beneath) (fresh : Held (chunk :: beneath)) (proper : request.Proper)
    (fits : request.size ≤ chunk.size) (aligned : request.align ∣ chunk.address) :
    (arena.adopt chunk request).Serves (arena.carve arena.chunks.length chunk 0 request :: live)
      (chunk :: beneath) := by
  have chunks := arena.adopt_chunks chunk request
  have within : (arena.carve arena.chunks.length chunk 0 request).extent.Within chunk.extent :=
    ⟨Nat.le_add_right _ _, by simp only [Extent.stop, Block.extent, carve]; omega⟩
  have apart := serves.beside fresh
  refine ⟨serves.held.cons ⟨proper.1, proper.2, aligned⟩ ?_, ?_, ?_, ?_⟩
  · exact fun b old => (apart b old).within (Extent.Within.refl _) within
  · intro c listed
    rw [chunks] at listed
    rcases List.mem_append.1 listed with old | new
    · exact List.mem_cons_of_mem _ (serves.chunks c old)
    · exact List.mem_cons.2 (Or.inl (List.mem_singleton.1 new))
  · intro b old
    rw [chunks]
    rcases List.mem_cons.1 old with rfl | old
    · exact ⟨chunk, by simp, within⟩
    · obtain ⟨c, listed, inside⟩ := serves.inside b old
      exact ⟨c, List.mem_append_left _ listed, inside⟩
  · intro i same
    rw [chunks]
    by_cases large : arena.config.chunkSize < request.size
    · obtain ⟨current, cursor⟩ := arena.adopt_dedicated chunk large
      rw [current] at same
      obtain ⟨c, listed, before⟩ := serves.current i same
      refine ⟨c, by rw [List.getElem?_append_left (List.getElem?_eq_some_iff.1 listed).1, listed], ?_⟩
      intro b old
      rw [cursor]
      rcases List.mem_cons.1 old with rfl | old
      · have apart := fresh.apart_of_cons c (serves.chunks c (List.mem_of_getElem? listed))
        exact Or.inl (apart.within within (Extent.Within.refl _))
      · exact before b old
    · obtain ⟨current, cursor⟩ := arena.adopt_regular chunk large
      rw [current] at same
      obtain rfl := Option.some.inj same
      refine ⟨chunk, by simp, ?_⟩
      intro b old
      rw [cursor]
      rcases List.mem_cons.1 old with rfl | old
      · exact Or.inr (Nat.le_refl _)
      · exact Or.inl (apart b old)

theorem allocate_contract {source : Source σ} {inv : Invariant σ} {room : σ → Prop} {s : σ}
    {arena : Arena} {machine : Machine} {live beneath : List Block} {owned frame : List Extent}
    {request : Request} (below : source.Contract inv room) (proper : request.Proper)
    (hasRoom : room s) (kept : inv s beneath owned) (serves : arena.Serves live beneath)
    (owns : machine.memory.Owns (frame ++ owned)) :
    Allocated (Over inv Serves) frame live request
      (Arena.allocate source request (arena, s) machine) := by
  have step := allocate_step source request arena s machine
  generalize Arena.allocate source request (arena, s) machine = reply at step ⊢
  cases step with
  | fitted fits =>
    exact .issued (Machine.zeroIf_owns owns) rfl rfl
      ⟨beneath, kept, serves.advance proper (fit?_eq_some fits)⟩
  | unaskable full asked => exact .failed owns ⟨beneath, kept, serves⟩
  | failed grows answer =>
    obtain ⟨_, owns, kept⟩ := below.refused (chunkRequest?_ok grows.asked).1 hasRoom kept owns answer
    exact .failed owns ⟨beneath, kept, serves⟩
  | @grew chunkRequest chunk after machine' grows answer few =>
    obtain ⟨properChunk, size, align, _⟩ := chunkRequest?_ok grows.asked
    obtain ⟨_, owns, fits, aligned, kept⟩ := below.issued properChunk hasRoom kept owns answer
    have fresh := below.held kept
    have chunkProper := fresh.proper chunk List.mem_cons_self
    have start : request.align ∣ chunk.address :=
      Nat.dvd_trans (Word.dvd_of_le proper.2 chunkProper.power (aligned ▸ align))
        chunkProper.aligned
    exact .issued (Machine.zeroIf_owns (owns.congr rfl rfl)) rfl rfl
      ⟨_, kept, serves.adopt fresh proper (fits ▸ size) start⟩
  | @limited chunkRequest chunk after left machine' last answered fault grows answer many freed why =>
    obtain ⟨own, owns, _, _, kept⟩ :=
      below.issued (chunkRequest?_ok grows.asked).1 hasRoom kept owns answer
    have fresh := below.held kept
    have logged : (machine'.debug (arena.acquiredLine request chunk (source.name after))).memory.Owns
        (frame ++ own) := owns
    -- The chunk is given back, unless the source beneath refuses it.
    cases answered with
    | error _ =>
      obtain ⟨_, owns, kept⟩ := below.declined List.mem_cons_self kept logged freed
      exact .failed owns ⟨_, kept, serves.mono fun c _ old => List.mem_cons_of_mem _ old⟩
    | ok _ =>
      obtain ⟨_, owns, kept⟩ := below.taken List.mem_cons_self kept logged freed
      refine .failed owns ⟨_, kept, serves.mono fun c _ old => ?_⟩
      exact Block.mem_others.2 ⟨List.mem_cons_of_mem _ old, fresh.ne_of_cons old⟩

theorem contract {source : Source σ} {inv : Invariant σ} {room : σ → Prop}
    (below : source.Contract inv room) :
    (Arena.source source).Contract (Over inv Serves) (fun state => room state.2) := by
  refine below.over Serves.held ?_ (allocate_contract below) ?_
  · intro arena live beneath serves b member
    obtain ⟨c, listed, within⟩ := serves.inside b member
    exact ⟨c, serves.chunks c listed, within⟩
  · exact fun _ kept serves owns => .failed owns ⟨_, kept, serves⟩

end LayeredAllocation.Arena
