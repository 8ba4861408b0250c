import LayeredAllocation.Strategy.Arena

namespace LayeredAllocation.Arena
variable {below : Source σ} {request : Request} {arena : Arena} {s : σ} {machine : Machine}

-- What makes an arena ask for a chunk: the one in use has no place for the request.
structure Grows (arena : Arena) (request chunkRequest : Request) : Prop where
  full : arena.fit? request = none
  asked : arena.chunkRequest? request = .ok chunkRequest

theorem chunkRequest?_ok {arena : Arena} {request chunkRequest : Request}
    (asked : arena.chunkRequest? request = .ok chunkRequest) :
    chunkRequest.Proper ∧ request.size ≤ chunkRequest.size ∧ request.align ≤ chunkRequest.align ∧
      (request.size ≤ arena.config.chunkSize → chunkRequest.size = arena.config.chunkSize) := by
  obtain ⟨rfl, valid⟩ := Request.bytes?_eq_ok.1 asked
  refine ⟨valid.proper, Nat.le_max_left _ _, Nat.le_max_left _ _, ?_⟩
  intro small
  exact Nat.max_eq_right small

-- A dedicated chunk does not become the one in use, any other does.
theorem adopt_dedicated (arena : Arena) (chunk : Block)
    (large : arena.config.chunkSize < request.size) :
    (arena.adopt chunk request).current = arena.current ∧
      (arena.adopt chunk request).cursor = arena.cursor := by
  unfold adopt
  rw [if_pos large]
  exact ⟨rfl, rfl⟩

theorem adopt_regular (arena : Arena) (chunk : Block)
    (small : ¬ arena.config.chunkSize < request.size) :
    (arena.adopt chunk request).current = some arena.chunks.length ∧
      (arena.adopt chunk request).cursor = request.size := by
  unfold adopt
  rw [if_neg small]
  exact ⟨rfl, rfl⟩

inductive AllocateStep (below : Source σ) (request : Request) (arena : Arena) (s : σ)
    (machine : Machine) : Reply (Arena × σ) Block → Prop where
  | fitted {index offset stop : Nat} {chunk : Block}
      (fits : arena.fit? request = some (index, chunk, offset, stop)) :
      AllocateStep below request arena s machine
        ⟨.ok (arena.carve index chunk offset request), (arena.advance stop, s),
          machine.zeroIf request.zero (arena.carve index chunk offset request).address request.size⟩
  | unaskable {error : Error} (full : arena.fit? request = none)
      (asked : arena.chunkRequest? request = .error error) :
      AllocateStep below request arena s machine ⟨.error (.refused error), (arena, s), machine⟩
  | failed {chunkRequest : Request} {fault : Fault} {after : σ} {machine' : Machine}
      (grows : arena.Grows request chunkRequest)
      (answer : below.allocate chunkRequest s machine = ⟨.error fault, after, machine'⟩) :
      AllocateStep below request arena s machine ⟨.error fault, (arena, after), machine'⟩
  | grew {chunkRequest : Request} {chunk : Block} {after : σ} {machine' : Machine}
      (grows : arena.Grows request chunkRequest)
      (answer : below.allocate chunkRequest s machine = ⟨.ok chunk, after, machine'⟩)
      (few : arena.chunks.length < chunkLimit) :
      AllocateStep below request arena s machine
        ⟨.ok (arena.carve arena.chunks.length chunk 0 request), (arena.adopt chunk request, after),
          (machine'.debug (arena.acquiredLine request chunk (below.name after))).zeroIf request.zero
            (arena.carve arena.chunks.length chunk 0 request).address request.size⟩
  | limited {chunkRequest : Request} {chunk : Block} {after left : σ} {machine' last : Machine}
      {answered : Except Fault Unit} {fault : Fault} (grows : arena.Grows request chunkRequest)
      (answer : below.allocate chunkRequest s machine = ⟨.ok chunk, after, machine'⟩)
      (many : ¬ arena.chunks.length < chunkLimit)
      (freed : below.free chunk after
        (machine'.debug (arena.acquiredLine request chunk (below.name after))) =
          ⟨answered, left, last⟩)
      (why : answered = .error fault ∨ (answered = .ok () ∧
        fault = .refused (.outOfMemory request.size "arena chunk limit reached"))) :
      AllocateStep below request arena s machine ⟨.error fault, (arena, left), last⟩

theorem allocate_step (below : Source σ) (request : Request) (arena : Arena) (s : σ)
    (machine : Machine) :
    AllocateStep below request arena s machine (Arena.allocate below request (arena, s) machine) := by
  unfold Arena.allocate
  dsimp only
  split
  · next index chunk offset stop fits => exact .fitted fits
  · next full =>
    unfold grow
    split
    · next error asked => exact .unaskable full asked
    · next chunkRequest asked =>
      have grows : arena.Grows request chunkRequest := ⟨full, asked⟩
      generalize answer : below.allocate chunkRequest s machine = reply
      match reply, answer with
      | ⟨.error fault, after, machine'⟩, answer => exact .failed grows answer
      | ⟨.ok chunk, after, machine'⟩, answer =>
        dsimp only
        split
        · next few => exact .grew grows answer few
        · next many =>
          generalize freed : below.free chunk after
            (machine'.debug (arena.acquiredLine request chunk (below.name after))) = reply
          match reply, freed with
          | ⟨.error fault, left, last⟩, freed => exact .limited grows answer many freed (Or.inl rfl)
          | ⟨.ok (), left, last⟩, freed =>
            exact .limited grows answer many freed (Or.inr ⟨rfl, rfl⟩)

end LayeredAllocation.Arena
