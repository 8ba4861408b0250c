import Mathlib.Algebra.GroupWithZero.Nat
import LayeredAllocation.Proofs.Contract.Arena
import LayeredAllocation.Proofs.Shapes

namespace LayeredAllocation

theorem sum_mapIdx_change {α : Type} {f g : Nat → α → Nat} {list : List α} {i : Nat} {a : α}
    (listed : list[i]? = some a) (same : ∀ j b, j ≠ i → list[j]? = some b → g j b = f j b) :
    (list.mapIdx g).sum + f i a = (list.mapIdx f).sum + g i a := by
  induction list generalizing i f g with
  | nil => cases listed
  | cons first rest ih =>
    simp only [List.mapIdx_cons, List.sum_cons]
    cases i with
    | zero =>
      cases listed
      have others : rest.mapIdx (fun j => g (j + 1)) = rest.mapIdx (fun j => f (j + 1)) := by
        refine List.mapIdx_eq_mapIdx_iff.2 fun j inside => ?_
        exact same (j + 1) _ (Nat.succ_ne_zero j) (List.getElem?_eq_getElem inside)
      rw [others]
      omega
    | succ i =>
      have step := ih (f := fun j => f (j + 1)) (g := fun j => g (j + 1)) listed fun j b other found =>
        same (j + 1) b (fun equal => other (Nat.succ.inj equal)) found
      have head := same 0 first (Nat.zero_ne_add_one i) rfl
      omega

theorem sum_mapIdx_le {α : Type} {f : Nat → α → Nat} {g : α → Nat} {list : List α}
    (le : ∀ i a, list[i]? = some a → f i a ≤ g a) : (list.mapIdx f).sum ≤ (list.map g).sum := by
  induction list generalizing f with
  | nil => exact Nat.le_refl 0
  | cons first rest ih =>
    simp only [List.mapIdx_cons, List.map_cons, List.sum_cons]
    exact Nat.add_le_add (le 0 first rfl) (ih fun i a found => le (i + 1) a found)

namespace Arena
variable {σ : Type} {below : Source σ} {arena after : Arena} {config : ArenaConfig} {owner number : Nat}
  {past : List Event} {request : Request} {block chunk : Block} {s : σ} {machine : Machine}

def carved (owner number : Nat) (past : List Event) : List Block :=
  (produced past).filter (·.tag = .arena owner number)

-- What the blocks take of their chunk. One of the usual size is used up to the end of the last block;
-- a larger one was obtained for a single request.
def taken (config : ArenaConfig) (chunk : Block) (blocks : List Block) : Nat :=
  if config.chunkSize < chunk.size then (blocks.map Block.size).sum
  else
    match blocks with
    | [] => 0
    | last :: _ => last.extent.stop - chunk.address

def HasPlace (arena : Arena) (request : Request) : Prop :=
  ∃ index chunk start, arena.current = some index ∧ arena.chunks[index]? = some chunk ∧
    chunk.address + arena.cursor ≤ start ∧ start < Word.range ∧ request.align ∣ start ∧
    start + request.size ≤ chunk.extent.stop

def share (config : ArenaConfig) (owner : Nat) (past : List Event) (number : Nat) (chunk : Block) : Nat :=
  taken config chunk (carved owner number past)

theorem mem_carved : block ∈ carved owner number past ↔
    block ∈ produced past ∧ block.tag = .arena owner number := by
  simp only [carved, List.mem_filter, decide_eq_true_eq]

theorem share_cons {index : Nat} {call : Call} (tag : block.tag = .arena owner index) :
    share config owner (⟨call, .ok (some block)⟩ :: past) number chunk =
      if number = index then taken config chunk (block :: carved owner index past)
      else share config owner past number chunk := by
  simp only [share, carved, produced, List.filter_cons, tag, ReleaseTag.arena.injEq, true_and,
    decide_eq_true_eq]
  by_cases same : number = index
  · rw [if_pos same, if_pos same.symm, same]
  · rw [if_neg same, if_neg (Ne.symm same)]

theorem share_new (none : carved owner number past = []) : share config owner past number chunk = 0 := by
  rw [share, none, taken]
  split <;> rfl

structure Shown (owner : Nat) (config : ArenaConfig) (past : List Event) (arena : Arena) : Prop where
  own : arena.owner = owner
  same : arena.config = config
  few : arena.chunks.length ≤ chunkLimit
  sized : ∀ c ∈ arena.chunks, c.size ≤ Word.longest
  used : arena.used = (arena.chunks.mapIdx (share config owner past)).sum
  within : ∀ number chunk, arena.chunks[number]? = some chunk →
    share config owner past number chunk ≤ chunk.size
  tags : ∀ block ∈ produced past, ∃ number chunk, block.tag = .arena owner number ∧
    arena.chunks[number]? = some chunk ∧ block.extent.Within chunk.extent
  current : ∀ number, arena.current = some number → ∃ chunk, arena.chunks[number]? = some chunk ∧
    chunk.size = config.chunkSize ∧ share config owner past number chunk = arena.cursor

namespace Shown

theorem start (owner : Nat) (config : ArenaConfig) : Shown owner config [] { owner, config } := by
  refine ⟨rfl, rfl, Nat.zero_le _, ?_, rfl, ?_, ?_, ?_⟩
  · exact fun c absurd => nomatch absurd
  · exact fun number chunk absurd => nomatch absurd
  · exact fun block absurd => nomatch absurd
  · exact fun number absurd => nomatch absurd

theorem idle (shown : Shown owner config past arena) {event : Event}
    (none : produced (event :: past) = produced past) : Shown owner config (event :: past) arena := by
  have same : share config owner (event :: past) = share config owner past := by
    funext number chunk
    rw [share, carved, none]
    rfl
  obtain ⟨own, config, few, sized, used, within, tags, current⟩ := shown
  refine ⟨own, config, few, sized, ?_, ?_, ?_, ?_⟩
  · rw [same]
    exact used
  · rw [same]
    exact within
  · rw [none]
    exact tags
  · rw [same]
    exact current

theorem carved_new (shown : Shown owner config past arena) :
    carved owner arena.chunks.length past = [] := by
  refine List.eq_nil_iff_forall_not_mem.2 fun block member => ?_
  obtain ⟨listed, tag⟩ := mem_carved.1 member
  obtain ⟨number, chunk, own, found, _⟩ := shown.tags block listed
  cases own.symm.trans tag
  exact Nat.lt_irrefl _ (List.getElem?_eq_some_iff.1 found).1

theorem carve_tag (shown : Shown owner config past arena) (chunk : Block) (offset : Nat)
    (request : Request) (small : number < chunkLimit) :
    (arena.carve number chunk offset request).tag = .arena owner number := by
  have number : Word.low32 number = number := Nat.mod_eq_of_lt small
  rw [carve, number, shown.own]

theorem append (shown : Shown owner config past arena) (few : arena.chunks.length < chunkLimit)
    (sized : chunk.size ≤ Word.longest) :
    Shown owner config past { arena with chunks := arena.chunks ++ [chunk] } := by
  have empty : share config owner past arena.chunks.length chunk = 0 := share_new shown.carved_new
  have earlier {number : Nat} {other : Block} (there : arena.chunks[number]? = some other) :
      (arena.chunks ++ [chunk])[number]? = some other :=
    (List.getElem?_append_left (List.getElem?_eq_some_iff.1 there).1).trans there
  refine ⟨shown.own, shown.same, ?_, ?_, ?_, ?_, ?_, ?_⟩
  · rw [List.length_append]
    exact few
  · exact List.forall_mem_append.2 ⟨shown.sized, List.forall_mem_singleton.2 sized⟩
  · rw [List.mapIdx_concat, List.sum_append, ← shown.used, empty]
    rfl
  · intro number other there
    by_cases last : number = arena.chunks.length
    · cases last
      cases List.getElem?_concat_length.symm.trans there
      rw [empty]
      exact Nat.zero_le _
    · have inside := (List.getElem?_eq_some_iff.1 there).1
      rw [List.length_append, List.length_singleton] at inside
      rw [List.getElem?_append_left (by omega)] at there
      exact shown.within number other there
  · intro block member
    obtain ⟨number, other, own, there, inside⟩ := shown.tags block member
    exact ⟨number, other, own, earlier there, inside⟩
  · intro number there
    obtain ⟨other, listed, rest⟩ := shown.current number there
    exact ⟨other, earlier listed, rest⟩

theorem issue {index stop : Nat} {call : Call} (shown : Shown owner config past arena)
    (listed : arena.chunks[index]? = some chunk) (tag : block.tag = .arena owner index)
    (contained : block.extent.Within chunk.extent)
    (ends : taken config chunk (block :: carved owner index past) = stop) (inside : stop ≤ chunk.size)
    (own : after.owner = arena.owner) (same : after.config = arena.config)
    (chunks : after.chunks = arena.chunks)
    (used : after.used + share config owner past index chunk = arena.used + stop)
    (current : ∀ number, after.current = some number → ∃ chunk, arena.chunks[number]? = some chunk ∧
      chunk.size = config.chunkSize ∧
      (if number = index then stop else share config owner past number chunk) = after.cursor) :
    Shown owner config (⟨call, .ok (some block)⟩ :: past) after := by
  have shares (number : Nat) (other : Block) :
      share config owner (⟨call, .ok (some block)⟩ :: past) number other =
        if number = index then taken config other (block :: carved owner index past)
        else share config owner past number other := share_cons tag
  refine ⟨own.trans shown.own, same.trans shown.same, ?_, ?_, ?_, ?_, ?_, ?_⟩
  · rw [chunks]
    exact shown.few
  · rw [chunks]
    exact shown.sized
  · have change := sum_mapIdx_change (f := share config owner past)
      (g := share config owner (⟨call, .ok (some block)⟩ :: past)) listed
      fun j b other _ => by rw [shares, if_neg other]
    rw [shares, if_pos rfl, ends, ← shown.used] at change
    rw [chunks]
    exact Nat.add_right_cancel (used.trans change.symm)
  · intro number other there
    rw [chunks] at there
    rw [shares]
    split
    · next equal =>
      cases listed.symm.trans (equal ▸ there)
      rw [ends]
      exact inside
    · exact shown.within number other there
  · intro issued member
    rw [chunks]
    rcases List.mem_cons.1 member with rfl | old
    · exact ⟨index, chunk, tag, listed, contained⟩
    · exact shown.tags issued old
  · intro number there
    obtain ⟨other, found, regular, cursor⟩ := current number there
    refine ⟨other, chunks ▸ found, regular, ?_⟩
    rw [shares, ← cursor]
    split
    · next equal =>
      cases listed.symm.trans (equal ▸ found)
      exact ends
    · rfl

theorem advance {index offset stop : Nat} (shown : Shown owner config past arena)
    (fits : arena.Fits request index chunk offset stop) :
    Shown owner config
      (⟨.allocate request, .ok (some (arena.carve index chunk offset request))⟩ :: past)
      (arena.advance stop) := by
  obtain ⟨found, listed, aligned, behind, rfl, inside⟩ := fits
  obtain ⟨_, listed', regular, cursor⟩ := shown.current index found
  cases listed.symm.trans listed'
  have numbered := (List.getElem?_eq_some_iff.1 listed).1
  have stop : (arena.carve index chunk offset request).extent.stop =
    chunk.address + offset + request.size := rfl
  have contained : (arena.carve index chunk offset request).extent.Within chunk.extent := by
    refine ⟨Nat.le_add_right _ _, ?_⟩
    rw [stop, Nat.add_assoc]
    exact Nat.add_le_add_left inside _
  have ends : taken config chunk (arena.carve index chunk offset request :: carved owner index past) =
      offset + request.size := by
    rw [taken, if_neg (by omega), stop]
    omega
  refine shown.issue listed
    (shown.carve_tag chunk offset request (Nat.lt_of_lt_of_le numbered shown.few)) contained ends
    inside rfl rfl rfl ?_ ?_
  · have moved : (arena.advance (offset + request.size)).used =
      arena.used + (offset + request.size - arena.cursor) := rfl
    rw [moved, cursor]
    omega
  · intro number there
    cases found.symm.trans there
    exact ⟨chunk, listed, regular, if_pos rfl⟩

-- The first block of a new chunk, which is in use from now on unless the block takes all of it.
theorem adopt (shown : Shown owner config past arena) (few : arena.chunks.length < chunkLimit)
    (large : request.size ≤ chunk.size) (size : chunk.size = max request.size config.chunkSize)
    (sized : chunk.size ≤ Word.longest) :
    Shown owner config
      (⟨.allocate request, .ok (some (arena.carve arena.chunks.length chunk 0 request))⟩ :: past)
      (arena.adopt chunk request) := by
  have listed : (arena.chunks ++ [chunk])[arena.chunks.length]? = some chunk :=
    List.getElem?_concat_length
  have contained : (arena.carve arena.chunks.length chunk 0 request).extent.Within chunk.extent :=
    ⟨Nat.le_refl _, Nat.add_le_add_left large _⟩
  have ends : taken config chunk
      (arena.carve arena.chunks.length chunk 0 request :: carved owner arena.chunks.length past) =
        request.size := by
    rw [shown.carved_new, taken]
    split
    · rfl
    · exact Nat.add_sub_cancel_left _ _
  have used : arena.used + request.size + share config owner past arena.chunks.length chunk =
      arena.used + request.size := by
    rw [share_new shown.carved_new]
    rfl
  have grown := shown.append few sized
  have tag := shown.carve_tag chunk 0 request few
  unfold Arena.adopt
  split
  · refine grown.issue listed tag contained ends large rfl rfl rfl used ?_
    intro number there
    obtain ⟨older, found, regular, cursor⟩ := shown.current number there
    have inside := (List.getElem?_eq_some_iff.1 found).1
    refine ⟨older, (List.getElem?_append_left inside).trans found, regular, ?_⟩
    rw [if_neg (Nat.ne_of_lt inside)]
    exact cursor
  · next small =>
    refine grown.issue listed tag contained ends large rfl rfl rfl used ?_
    intro number there
    cases there
    rw [shown.same] at small
    exact ⟨chunk, listed, by omega, if_pos rfl⟩

-- The least aligned address behind the cursor comes no later than any other.
theorem fits_of_place (shown : Shown owner config past arena) (positive : 0 < request.align)
    (place : arena.HasPlace request) : arena.fit? request ≠ none := by
  obtain ⟨index, chunk, start, current, listed, behind, word, aligned, inside⟩ := place
  have least := Word.roundUp_le_of_dvd positive aligned behind
  have above := Word.le_roundUp (n := chunk.address + arena.cursor) positive
  have rounded : Word.roundUp? (chunk.address + arena.cursor) request.align = _ :=
    Word.roundUp?_eq_some.2 ⟨positive, rfl, Nat.lt_of_le_of_lt least word⟩
  have room : Word.roundUp (chunk.address + arena.cursor) request.align - chunk.address +
      request.size ≤ chunk.size := by
    have stop : chunk.extent.stop = chunk.address + chunk.size := rfl
    omega
  have sized : chunk.size < Word.range :=
    Nat.lt_of_le_of_lt (shown.sized chunk (List.mem_of_getElem? listed)) (by decide)
  unfold fit?
  simp only [current, listed, rounded]
  rw [if_pos ⟨room, Nat.lt_of_le_of_lt room sized⟩]
  exact Option.some_ne_none _

theorem small_of_fits {index offset stop : Nat} (shown : Shown owner config past arena)
    (fits : arena.Fits request index chunk offset stop) : request.size ≤ config.chunkSize := by
  obtain ⟨_, listed, regular, _⟩ := shown.current index fits.current
  cases fits.listed.symm.trans listed
  have inside := fits.inside
  rw [fits.ends] at inside
  omega

theorem allocate (shown : Shown owner config past arena) (shapes : below.Shapes) :
    let reply := Arena.allocate below request (arena, s) machine
    Shown owner config (⟨.allocate request, reply.result.map some⟩ :: past) reply.state.1 := by
  have step := allocate_step below request arena s machine
  generalize Arena.allocate below request (arena, s) machine = reply at step ⊢
  cases step with
  | fitted fits => exact shown.advance (fit?_eq_some fits)
  | grew grows answer few =>
    obtain ⟨rfl, _, _, room⟩ := Request.bytes?_eq_ok.1 grows.asked
    obtain ⟨size, _⟩ := shapes _ _ _ _ (congrArg Reply.result answer)
    rw [← size] at room
    refine shown.adopt few ?_ ?_ (Nat.le_trans room (Nat.sub_le _ _))
    · rw [size]
      exact Nat.le_max_left _ _
    · rw [size, shown.same]
  | unaskable | failed | limited => exact shown.idle rfl

end Shown

-- What becomes of the chunks when a block is asked for.
structure Respects (arena : Arena) (request : Request) (s : σ) (reply : Reply (Arena × σ) Block) :
    Prop where
  place : arena.HasPlace request → reply.state.1.chunks = arena.chunks ∧ reply.state.2 = s
  oversize : arena.config.chunkSize < request.size →
    reply.state.1.current = arena.current ∧ reply.state.1.cursor = arena.cursor
  failed : ∀ fault, reply.result = .error fault → reply.state.1 = arena

theorem Shown.respects (shown : Shown owner config past arena) (below : Source σ) (s : σ)
    (machine : Machine) (positive : 0 < request.align) :
    arena.Respects request s (Arena.allocate below request (arena, s) machine) := by
  have step := allocate_step below request arena s machine
  generalize Arena.allocate below request (arena, s) machine = reply at step ⊢
  have full (none : arena.fit? request = none) : ¬ arena.HasPlace request :=
    fun place => shown.fits_of_place positive place none
  cases step with
  | fitted fits =>
    refine ⟨fun _ => ⟨rfl, rfl⟩, fun large => ?_, nofun⟩
    rw [shown.same] at large
    exact absurd (shown.small_of_fits (fit?_eq_some fits)) (Nat.not_le_of_lt large)
  | grew grows answer few =>
    exact ⟨fun place => absurd place (full grows.full), arena.adopt_dedicated _, nofun⟩
  | unaskable none asked =>
    exact ⟨fun place => absurd place (full none), fun _ => ⟨rfl, rfl⟩, fun _ _ => rfl⟩
  | failed grows answer | limited grows answer many freed why =>
    exact ⟨fun place => absurd place (full grows.full), fun _ => ⟨rfl, rfl⟩, fun _ _ => rfl⟩

end Arena

namespace Layer
variable {σ : Type} {below : Source σ} {config : ArenaConfig} {owner : Nat} {start : σ}
  {origin machine : Machine} {past : List Event} {state : Layer × σ}

theorem run_shown (shapes : below.Shapes)
    (run : Run (perform below) (fun _ _ _ => True) (.arena { owner, config }, start) origin past state
      machine) : ∃ arena s, state = (.arena arena, s) ∧ Arena.Shown owner config past arena := by
  induction run with
  | start => exact ⟨_, start, rfl, .start owner config⟩
  | @call past call state machine run _ ih =>
    obtain ⟨arena, s, rfl, shown⟩ := ih
    cases call with
    | allocate request => exact ⟨_, _, rfl, shown.allocate shapes⟩
    | free block => exact ⟨arena, s, rfl, shown.idle rfl⟩
    | trim | dispose => exact ⟨arena, s, rfl, shown.idle rfl⟩

-- An arena after any calls, over a source that gives blocks of the size that is asked for and fails
-- whenever it likes.
theorem use_matches_blocks (shapes : below.Shapes)
    (run : Run (perform below) (fun _ _ _ => True) (.arena { owner, config }, start) origin past state
      machine) :
    ∃ arena s, state = (.arena arena, s) ∧
      arena.used = (arena.chunks.mapIdx (Arena.share config owner past)).sum ∧
      arena.used ≤ (arena.chunks.map Block.size).sum ∧
      arena.held = (arena.chunks.map Block.size).sum % Word.range ∧
      ((arena.chunks.map Block.size).sum < Word.range → arena.used ≤ arena.held) ∧
      (∀ block ∈ produced past, ∃ number chunk, block.tag = .arena owner number ∧
        arena.chunks[number]? = some chunk ∧ block.extent.Within chunk.extent) ∧
      ∀ request, Word.isPowerOfTwo request.align = true →
        arena.Respects request s (Arena.allocate below request (arena, s) machine) := by
  obtain ⟨arena, s, rfl, shown⟩ := run_shown shapes run
  have bound : arena.used ≤ (arena.chunks.map Block.size).sum := by
    rw [shown.used]
    exact sum_mapIdx_le shown.within
  have held : arena.held = (arena.chunks.map Block.size).sum % Word.range := by
    rw [Arena.held, List.sum, List.foldr_map]
  refine ⟨arena, s, rfl, shown.used, bound, held, ?_, shown.tags, ?_⟩
  · intro fits
    rw [held, Nat.mod_eq_of_lt fits]
    exact bound
  · intro request power
    exact shown.respects below s machine (Nat.pos_of_isPowerOfTwo (Word.isPowerOfTwo_iff.1 power))

def chunks : Layer → List Block
  | .arena inner => inner.chunks
  | .pool _ | .slab _ | .hybrid _ | .tracker _ | .probe _ => []

-- Two blocks share a chunk, the second of them aligned. A chunk for a large block cannot be had at
-- first. The last block has no place behind the others.
def mixedChunks : List Event × (Layer × Stack 1) × Machine :=
  played (perform (Stack.source 1))
    (.arena { owner := 1, config := ⟨64⟩ }, (.probe { allocatePlan := .after 1 1 }, .system {}))
    ⟨{ platform := .ascending }, []⟩
    [.allocate ⟨48, 8, false, 1, 48, Site.internal⟩, .allocate ⟨100, 8, false, 1, 100, Site.internal⟩,
      .allocate ⟨100, 8, false, 1, 100, Site.internal⟩, .allocate ⟨8, 16, false, 1, 8, Site.internal⟩,
      .allocate ⟨10, 1, false, 1, 10, Site.internal⟩]

theorem use_matches_blocks_mixedChunks :
    ∃ arena s, mixedChunks.2.1 = (.arena arena, s) ∧ arena.chunks.map Block.size = [64, 100, 64] ∧
      arena.used = (16 + 8) + 100 + 48 ∧ arena.used ≤ arena.held ∧
      arena.Respects ⟨100, 8, false, 1, 100, Site.internal⟩ s (Arena.allocate (Stack.source 1)
        ⟨100, 8, false, 1, 100, Site.internal⟩ (arena, s) mixedChunks.2.2) := by
  have run : Run (perform (Stack.source 1)) (fun _ _ _ => True)
      (.arena { owner := 1, config := ⟨64⟩ }, (.probe { allocatePlan := .after 1 1 }, .system {}))
      ⟨{ platform := .ascending }, []⟩ mixedChunks.1 mixedChunks.2.1 mixedChunks.2.2 :=
    .played ⟨⟨⟨⟨⟨trivial, trivial⟩, trivial⟩, trivial⟩, trivial⟩, trivial⟩
  have kept : chunks mixedChunks.2.1.1 = [⟨0x4000_0000_0000, 64, 16, .system⟩,
      ⟨0x4000_0000_1000, 100, 16, .system⟩, ⟨0x4000_0000_2000, 64, 16, .system⟩] := by
    decide +kernel
  obtain ⟨arena, s, same, used, _, _, bound, _, respects⟩ := use_matches_blocks (Stack.shapes 1) run
  rw [same, chunks] at kept
  refine ⟨arena, s, same, ?_, ?_, ?_, respects _ (by decide)⟩
  · rw [kept]
    rfl
  · rw [used, kept]
    decide +kernel
  · apply bound
    rw [kept]
    decide

end Layer

end LayeredAllocation
