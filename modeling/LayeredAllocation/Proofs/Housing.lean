import LayeredAllocation.Proofs.Called
import LayeredAllocation.Proofs.Lending.Foreign

namespace LayeredAllocation

variable {σ : Type}

def Reply.issued (reply : Reply σ Block) : List Block :=
  match reply.result with
  | .ok block => [block]
  | .error _ => []

namespace Layer

-- The block from beneath that an issued one lies in.
def ground? : Layer → Block → Option Block
  | .arena inner, block =>
    match block.tag with
    | .arena _ chunk => inner.chunks[chunk]?
    | _ => none
  | .pool inner, block => (inner.outstanding.find? block.address).map IssuedBlock.backing
  | .slab inner, block =>
    match block.tag with
    | .slab owner _ page _ =>
      if owner = inner.owner then (inner.pages.map SlabPage.block)[page]? else some block
    | _ => some block
  | .hybrid _, _ | .tracker _, _ | .probe _, _ => none

-- What is lent from beneath to the holders of issued blocks, one block for each.
def lentOn : Layer → List Block → List Block
  | .pool inner, live => live.filterMap (ground? (.pool inner))
  | .slab inner, live => live.filter fun block => !signs (.slab inner) block.tag
  | .arena _, _ | .hybrid _, _ | .tracker _, _ | .probe _, _ => []

-- All that is lent from beneath for the sake of a layer and of the blocks that it has issued.
def loans (layer : Layer) (live : List Block) : List Block := layer.stock ++ layer.lentOn live

-- Every issued block lies in memory from beneath, and nothing is lent from there twice.
structure Houses (layer : Layer) (live : List Block) : Prop where
  stores : layer.Stores
  keyed : layer.Keyed
  grounded : ∀ block ∈ live, (layer.ground? block).isSome
  distinct : ((layer.loans live).map Block.address).Nodup

section
variable {layer : Layer} {live part : List Block} {block ground : Block}

theorem lentOn_sublist (sub : part.Sublist live) : (layer.lentOn part).Sublist (layer.lentOn live) := by
  cases layer with
  | pool inner => exact sub.filterMap _
  | slab inner => exact sub.filter _
  | arena inner | hybrid inner | tracker inner | probe inner => exact .refl _

theorem lentOn_perm (same : part.Perm live) : (layer.lentOn part).Perm (layer.lentOn live) := by
  cases layer with
  | pool inner => exact same.filterMap _
  | slab inner => exact same.filter _
  | arena inner | hybrid inner | tracker inner | probe inner => exact .refl _

theorem Houses.fewer (houses : layer.Houses live) (sub : part.Sublist live) : layer.Houses part := by
  refine ⟨houses.stores, houses.keyed, fun block member => houses.grounded block (sub.mem member), ?_⟩
  have loans : (layer.loans part).Sublist (layer.loans live) := (lentOn_sublist sub).append_left _
  exact houses.distinct.sublist (loans.map _)

theorem Houses.perm (houses : layer.Houses live) (same : part.Perm live) : layer.Houses part := by
  refine ⟨houses.stores, houses.keyed, ?_, ?_⟩
  · exact fun block member => houses.grounded block (same.mem_iff.1 member)
  have loans : (layer.loans part).Perm (layer.loans live) := (lentOn_perm same).append_left _
  exact (loans.map Block.address).nodup_iff.2 houses.distinct

theorem loans_mono (sub : part ⊆ live) : layer.loans part ⊆ layer.loans live := by
  have lent : layer.lentOn part ⊆ layer.lentOn live := by
    cases layer with
    | pool inner => exact List.filterMap_subset _ sub
    | slab inner => exact List.filter_subset _ sub
    | arena inner | hybrid inner | tracker inner | probe inner => exact List.Subset.refl _
  intro loan member
  exact List.mem_append.2 ((List.mem_append.1 member).imp_right fun loan => lent loan)

-- What a block lies in is told by its address and its tag, whatever its size.
theorem ground?_reshape {other : Block} (address : other.address = block.address)
    (tag : other.tag = block.tag) : (layer.ground? other).isSome = (layer.ground? block).isSome := by
  cases layer with
  | arena inner => simp only [ground?, tag]
  | pool inner => simp only [ground?, address]
  | slab inner =>
    simp only [ground?, tag]
    split
    · split <;> rfl
    · rfl
  | hybrid inner | tracker inner | probe inner => rfl

theorem loans_reshape {other : Block} (address : other.address = block.address)
    (tag : other.tag = block.tag) :
    (layer.loans (other :: live)).map Block.address =
      (layer.loans (block :: live)).map Block.address := by
  have lent : (layer.lentOn (other :: live)).map Block.address =
      (layer.lentOn (block :: live)).map Block.address := by
    cases layer with
    | pool inner =>
      have same : ground? (.pool inner) other = ground? (.pool inner) block := by
        simp only [ground?, address]
      simp only [lentOn, List.filterMap_cons, same]
    | slab inner =>
      simp only [lentOn, List.filter_cons, tag]
      split
      · rw [List.map_cons, List.map_cons, address]
      · rfl
    | arena inner | hybrid inner | tracker inner | probe inner => rfl
  rw [loans, List.map_append, lent, ← List.map_append, loans]

theorem Houses.reshape {other : Block} (houses : layer.Houses (block :: live))
    (address : other.address = block.address) (tag : other.tag = block.tag) :
    layer.Houses (other :: live) := by
  refine ⟨houses.stores, houses.keyed, ?_, ?_⟩
  · refine List.forall_mem_cons.2 ⟨?_, fun old member => houses.grounded old (.tail _ member)⟩
    rw [ground?_reshape address tag]
    exact houses.grounded block (.head _)
  · rw [loans_reshape address tag]
    exact houses.distinct

theorem Made.houses (made : layer.Made) (stores : layer.Stores) : layer.Houses [] := by
  refine ⟨stores, made.keyed, fun _ member => absurd member List.not_mem_nil, ?_⟩
  cases made with
  | arena accepted => exact List.nodup_nil
  | pool accepted => exact List.nodup_nil
  | largeBlock accepted => exact List.nodup_nil
  | slab accepted => exact List.nodup_nil
  | hybrid => exact List.nodup_nil
  | tracker => exact List.nodup_nil
  | probe => exact List.nodup_nil

theorem ground_mem (member : block ∈ live) (found : layer.ground? block = some ground) :
    ground ∈ layer.loans live := by
  cases layer with
  | arena inner =>
    unfold ground? at found
    dsimp only at found
    split at found
    · exact List.mem_append_left _ (List.mem_of_getElem? found)
    · cases found
  | pool inner => exact List.mem_append_right _ (List.mem_filterMap.2 ⟨block, member, found⟩)
  | slab inner =>
    unfold ground? at found
    dsimp only at found
    split at found
    · next owner sizeClass page slot tag =>
      split at found
      · exact List.mem_append_left _ (List.mem_of_getElem? found)
      · next other =>
        cases found
        refine List.mem_append_right _ (List.mem_filter.2 ⟨member, ?_⟩)
        simp [signs, tag, other]
    · next unsliced =>
      cases found
      refine List.mem_append_right _ (List.mem_filter.2 ⟨member, ?_⟩)
      cases tag : block.tag with
      | slab owner sizeClass page slot => exact absurd tag (unsliced _ _ _ _)
      | system | pages | borrowed | arena | pool | pinned => rfl
  | hybrid inner | tracker inner | probe inner => cases found

end

-- What a source lends next lies apart from what it has lent, and does not pass for the layer's own.
def LendsApart (below : Source σ) (layer : Layer) (live : List Block) (s : σ) (machine : Machine) :
    Prop :=
  ∀ request block after machine', below.allocate request s machine = ⟨.ok block, after, machine'⟩ →
    block.address ∉ (layer.loans live).map Block.address ∧ layer.signs block.tag = false

-- An operation of a layer: what it gave back, what it issued, and that all else stays in place.
structure Spares (below : Source σ) (s : σ) (given : List Block) (before layer : Layer)
    (issued live : List Block) (after : σ) : Prop where
  called : below.Called s given after
  houses : layer.Houses (issued ++ live)
  steady : ∀ block ∈ live, layer.ground? block = before.ground? block
  spared : ∀ loan ∈ layer.loans (issued ++ live), loan.address ∉ given.map Block.address

theorem Spares.quiet {below : Source σ} {s after : σ} {before layer : Layer} {issued live : List Block}
    (called : below.Called s [] after) (houses : layer.Houses (issued ++ live))
    (steady : ∀ block ∈ live, layer.ground? block = before.ground? block) :
    Spares below s [] before layer issued live after :=
  ⟨called, houses, steady, fun _ _ => List.not_mem_nil⟩

theorem Spares.idle {below : Source σ} {s after : σ} {layer : Layer} {live : List Block}
    (called : below.Called s [] after) (houses : layer.Houses live) :
    Spares below s [] layer layer [] live after :=
  .quiet called houses fun _ _ => rfl

end Layer

open Layer Source.Called

section
variable {below : Source σ} {s : σ} {request : Request} {block : Block} {machine : Machine}
  {live : List Block}

theorem Word.low32_le (n : Nat) : Word.low32 n ≤ n := Nat.mod_le _ _

namespace Arena
variable {arena : Arena}

theorem grounded_iff : ((Layer.arena arena).ground? block).isSome ↔
    ∃ owner chunk, block.tag = .arena owner chunk ∧ chunk < arena.chunks.length := by
  unfold ground?
  dsimp only
  split
  · next owner chunk tag => simp [tag]
  · next other => simpa using fun owner chunk tag => (other owner chunk tag).elim

theorem loans_eq (arena : Arena) (live : List Block) : (Layer.arena arena).loans live = arena.chunks :=
  List.append_nil _

theorem ground?_grown {after : Arena} {more : List Block} (houses : (Layer.arena arena).Houses live)
    (grown : after.chunks = arena.chunks ++ more) :
    ∀ block ∈ live, (Layer.arena after).ground? block = (Layer.arena arena).ground? block := by
  intro block member
  obtain ⟨owner, chunk, tag, small⟩ := grounded_iff.1 (houses.grounded block member)
  simp only [ground?, tag, grown, List.getElem?_append_left small]

theorem houses_carve {after : Arena} (houses : (Layer.arena arena).Houses live)
    (chunks : after.chunks = arena.chunks)
    (listed : ∃ owner chunk, block.tag = .arena owner chunk ∧ chunk < arena.chunks.length) :
    (Layer.arena after).Houses (block :: live) := by
  have distinct := houses.distinct
  refine ⟨trivial, trivial, ?_, ?_⟩
  · intro other member
    rw [grounded_iff, chunks]
    rcases List.mem_cons.1 member with rfl | old
    · exact listed
    · exact grounded_iff.1 (houses.grounded other old)
  · rw [loans_eq] at distinct ⊢
    rwa [chunks]

theorem houses_adopt {chunk : Block} (request : Request) (houses : (Layer.arena arena).Houses live)
    (apart : chunk.address ∉ ((Layer.arena arena).loans live).map Block.address) :
    (Layer.arena (arena.adopt chunk request)).Houses live := by
  have chunks := adopt_chunks arena chunk request
  have distinct := houses.distinct
  rw [loans_eq] at apart distinct
  refine ⟨trivial, trivial, ?_, ?_⟩
  · intro block member
    obtain ⟨owner, index, tag, small⟩ := grounded_iff.1 (houses.grounded block member)
    refine grounded_iff.2 ⟨owner, index, tag, ?_⟩
    rw [chunks, List.length_append]
    exact Nat.lt_succ_of_lt small
  · rw [loans_eq, chunks]
    apply ((List.perm_append_singleton chunk arena.chunks).map Block.address).nodup_iff.2
    exact List.nodup_cons.2 ⟨apart, distinct⟩

theorem allocate_spares (houses : (Layer.arena arena).Houses live)
    (apart : LendsApart below (.arena arena) live s machine) :
    let reply := Arena.allocate below request (arena, s) machine
    ∃ given, Spares below s given (.arena arena) (.arena reply.state.1) reply.issued live
      reply.state.2 := by
  have step := allocate_step below request arena s machine
  generalize Arena.allocate below request (arena, s) machine = reply at step ⊢
  cases step with
  | @fitted index offset stop chunk fits =>
    obtain ⟨small, _⟩ := List.getElem?_eq_some_iff.1 (fit?_eq_some fits).listed
    have listed := Nat.lt_of_le_of_lt (Word.low32_le index) small
    exact ⟨[], .quiet start (houses_carve houses rfl ⟨_, _, rfl, listed⟩) fun _ _ => rfl⟩
  | unaskable full asked => exact ⟨[], .idle start houses⟩
  | failed grows answer => exact ⟨[], .idle (start.allocated answer) houses⟩
  | @grew chunkRequest chunk after machine' grows answer few =>
    have adopted := houses_adopt request houses (apart _ _ _ _ answer).1
    have steady := ground?_grown houses (adopt_chunks arena chunk request)
    refine ⟨[], .quiet (start.allocated answer) (houses_carve adopted rfl ⟨_, _, rfl, ?_⟩) steady⟩
    rw [adopt_chunks, List.length_append]
    exact Nat.lt_succ_of_le (Word.low32_le _)
  | @limited chunkRequest chunk after left machine' last answered fault grows answer many freed why =>
    refine ⟨[chunk], (start.allocated answer).freed freed, houses, fun _ _ => rfl, ?_⟩
    intro loan member same
    rw [List.map_singleton, List.mem_singleton] at same
    exact (apart _ _ _ _ answer).1 (same ▸ List.mem_map_of_mem member)

end Arena

namespace Slab
variable {slab : Slab}

theorem grounded_iff : ((Layer.slab slab).ground? block).isSome ↔
    ∀ sizeClass page slot, block.tag = .slab slab.owner sizeClass page slot →
      page < slab.pages.length := by
  unfold ground?
  dsimp only
  split
  · next owner sizeClass page slot tag =>
    rw [tag]
    split
    · next own =>
      cases own
      simp
    · next other => simp [other]
  · next unsliced => simpa using fun sizeClass page slot tag => (unsliced _ _ _ _ tag).elim

theorem signs_congr {after : Slab} (owner : after.owner = slab.owner) (tag : ReleaseTag) :
    signs (.slab after) tag = signs (.slab slab) tag := by
  cases tag with
  | slab => simp only [signs, owner]
  | system | pages | borrowed | arena | pool | pinned => rfl

theorem loans_eq (slab : Slab) (live : List Block) : (Layer.slab slab).loans live =
    slab.pages.map SlabPage.block ++ live.filter fun block => !signs (.slab slab) block.tag := rfl

theorem ground?_grown {after : Slab} {more : List Block} (houses : (Layer.slab slab).Houses live)
    (owner : after.owner = slab.owner)
    (grown : after.pages.map SlabPage.block = slab.pages.map SlabPage.block ++ more) :
    ∀ block ∈ live, (Layer.slab after).ground? block = (Layer.slab slab).ground? block := by
  intro block member
  have small := grounded_iff.1 (houses.grounded block member)
  simp only [ground?, owner, grown]
  split
  · next other sizeClass page slot tag =>
    split
    · next own =>
      cases own
      have listed : page < (slab.pages.map SlabPage.block).length := by
        rw [List.length_map]
        exact small _ _ _ tag
      rw [List.getElem?_append_left listed]
    · rfl
  · rfl

theorem ground?_congr {after : Slab} (owner : after.owner = slab.owner)
    (pages : after.pages.map SlabPage.block = slab.pages.map SlabPage.block) (block : Block) :
    (Layer.slab after).ground? block = (Layer.slab slab).ground? block := by
  simp only [ground?, owner, pages]

theorem houses_congr {after : Slab} (houses : (Layer.slab slab).Houses live)
    (owner : after.owner = slab.owner)
    (pages : after.pages.map SlabPage.block = slab.pages.map SlabPage.block) :
    (Layer.slab after).Houses live := by
  refine ⟨trivial, trivial, ?_, ?_⟩
  · intro block member
    rw [ground?_congr owner pages]
    exact houses.grounded block member
  · rw [loans_eq, pages]
    simp only [signs_congr owner]
    exact houses.distinct

theorem pages_swapped {index : Nat} {slot : Slot} {changed : SizeClass} {page marked : SlabPage}
    (listed : slab.pages[slot.page]? = some page) (same : marked.block = page.block) :
    (slab.swapped index slot changed marked).pages.map SlabPage.block =
      slab.pages.map SlabPage.block := by
  rw [swapped, List.map_set, same]
  apply set_eq_self
  rw [List.getElem?_map, listed]
  rfl

theorem ground?_swapped (index : Nat) {slot : Slot} {page : SlabPage} (changed : SizeClass)
    (taken : Bitmap) (listed : slab.pages[slot.page]? = some page) (block : Block) :
    (Layer.slab (slab.swapped index slot changed { page with taken })).ground? block =
      (Layer.slab slab).ground? block := by
  have owner : (slab.swapped index slot changed { page with taken }).owner = slab.owner := rfl
  exact ground?_congr owner (pages_swapped listed rfl) block

theorem houses_slice (houses : (Layer.slab slab).Houses live) {sizeClass page slot : Nat}
    (tag : block.tag = .slab slab.owner sizeClass page slot) (small : page < slab.pages.length) :
    (Layer.slab slab).Houses (block :: live) := by
  have signed : signs (.slab slab) block.tag = true := by simp [signs, tag]
  refine ⟨trivial, trivial, ?_, ?_⟩
  · intro other member
    rcases List.mem_cons.1 member with rfl | old
    · refine grounded_iff.2 fun _ _ _ same => ?_
      rw [tag] at same
      cases same
      exact small
    · exact houses.grounded other old
  · rw [loans_eq, List.filter_cons_of_neg (by simp [signed])]
    exact houses.distinct

theorem distinct_lend (houses : (Layer.slab slab).Houses live)
    (apart : block.address ∉ ((Layer.slab slab).loans live).map Block.address) :
    ((block :: (Layer.slab slab).loans live).map Block.address).Nodup :=
  List.nodup_cons.2 ⟨apart, houses.distinct⟩

theorem houses_adopt (houses : (Layer.slab slab).Houses live) (index : Nat) (sizeClass : SizeClass)
    (apart : block.address ∉ ((Layer.slab slab).loans live).map Block.address) :
    (Layer.slab (slab.withPage index sizeClass block)).Houses live := by
  have owner : (slab.withPage index sizeClass block).owner = slab.owner := rfl
  have pages : (slab.withPage index sizeClass block).pages =
      slab.pages ++ [slab.newPage index sizeClass block] := rfl
  refine ⟨trivial, trivial, ?_, ?_⟩
  · intro other member
    refine grounded_iff.2 fun sizeClass page slot tag => ?_
    rw [pages, List.length_append]
    exact Nat.lt_succ_of_lt (grounded_iff.1 (houses.grounded other member) _ _ _ tag)
  · have grown : ((Layer.slab (slab.withPage index sizeClass block)).loans live).Perm
        (block :: (Layer.slab slab).loans live) := by
      rw [loans_eq, pages, List.map_append]
      simp only [signs_congr owner]
      exact (List.perm_append_singleton _ _).append_right _
    exact (grown.map Block.address).nodup_iff.2 (distinct_lend houses apart)

theorem houses_pass (houses : (Layer.slab slab).Houses live)
    (apart : block.address ∉ ((Layer.slab slab).loans live).map Block.address)
    (unsigned : signs (.slab slab) block.tag = false) : (Layer.slab slab).Houses (block :: live) := by
  refine ⟨trivial, trivial, ?_, ?_⟩
  · intro other member
    rcases List.mem_cons.1 member with rfl | old
    · refine grounded_iff.2 fun _ _ _ same => ?_
      simp [signs, same] at unsigned
    · exact houses.grounded other old
  · rw [loans_eq, List.filter_cons_of_pos (by simp [unsigned])]
    apply (List.perm_middle.map Block.address).nodup_iff.2
    exact distinct_lend houses apart

theorem allocate_spares (houses : (Layer.slab slab).Houses live)
    (apart : LendsApart below (.slab slab) live s machine) :
    let reply := Slab.allocate below request (slab, s) machine
    Spares below s [] (.slab slab) (.slab reply.state.1) reply.issued live reply.state.2 := by
  have step := allocate_step below request slab s machine
  generalize Slab.allocate below request (slab, s) machine = reply at step ⊢
  cases step with
  | passed large answer =>
    obtain ⟨elsewhere, unsigned⟩ := apart _ _ _ _ answer
    have passed := houses_pass houses elsewhere unsigned
    exact .quiet (start.allocated answer) (houses_congr passed rfl rfl) fun _ _ => rfl
  | passFailed large answer => exact .idle (start.allocated answer) houses
  | took fits running taken =>
    obtain ⟨sizeClass, slot, rest, page, classed, popped, listed, rfl, rfl⟩ := takeSlot?_parts taken
    obtain ⟨small, _⟩ := List.getElem?_eq_some_iff.1 listed
    refine .quiet start (houses_congr (houses_slice houses rfl small) rfl (pages_swapped listed rfl)) ?_
    exact fun block _ => ground?_swapped _ _ _ listed block
  | @grew index sizeClass pageRequest page after machine' grows asked answer usable =>
    have adopted := houses_adopt houses index sizeClass (apart _ _ _ _ answer).1
    have tag : (slab.firstBlock index sizeClass page request).tag =
        .slab slab.owner index (Word.low32 slab.pages.length) 0 := by rw [firstBlock_eq]
    refine .quiet (start.allocated answer) (houses_slice adopted tag ?_)
      (ground?_grown houses rfl List.map_append)
    change _ < (slab.pages ++ [slab.newPage index sizeClass page]).length
    rw [List.length_append]
    exact Nat.lt_succ_of_le (Word.low32_le _)
  | growFailed grows asked answer => exact .idle (start.allocated answer) houses
  | burst grows asked answer unusable =>
    exact .quiet (start.allocated answer) (houses_congr houses rfl rfl) fun _ _ => rfl
  | unaskable grows asked => exact .idle start houses
  | stuck fits cause => exact .idle start houses

-- A block that is passed back is none that another lies in.
theorem spares_pass {after : Slab} {left : σ} {result : Except Fault Unit} {machine' : Machine}
    (houses : (Layer.slab slab).Houses (block :: live)) (owner : after.owner = slab.owner)
    (pages : after.pages = slab.pages)
    (unsliced : ∀ owner sizeClass page slot, block.tag ≠ .slab owner sizeClass page slot)
    (answer : below.free block s machine = ⟨result, left, machine'⟩) :
    Spares below s [block] (.slab slab) (.slab after) [] live left := by
  have unsigned : signs (.slab slab) block.tag = false := by
    cases tag : block.tag with
    | slab owner sizeClass page slot => exact absurd tag (unsliced _ _ _ _)
    | system | pages | borrowed | arena | pool | pinned => rfl
  have same : (Layer.slab after).loans live = (Layer.slab slab).loans live := by
    rw [loans_eq, pages]
    simp only [signs_congr owner]
    rfl
  refine ⟨start.freed answer, ?_, ?_, ?_⟩
  · exact houses_congr (houses.fewer (List.sublist_cons_self _ _)) owner (by rw [pages])
  · exact fun block _ => ground?_congr owner (by rw [pages]) block
  · have distinct := houses.distinct
    rw [loans_eq, List.filter_cons_of_pos (by simp [unsigned])] at distinct
    have apart := (List.nodup_cons.1 ((List.perm_middle.map Block.address).nodup_iff.1 distinct)).1
    intro loan member here
    rw [List.map_singleton, List.mem_singleton] at here
    rw [List.nil_append, same] at member
    exact apart (here ▸ List.mem_map_of_mem member)

theorem free_spares (below : Source σ) (s : σ) (machine : Machine)
    (houses : (Layer.slab slab).Houses (block :: live)) :
    let reply := Slab.free below block (slab, s) machine
    ∃ given, Spares below s given (.slab slab) (.slab reply.state.1) [] live reply.state.2 ∧
      (∀ error, reply.result = .error (.refused error) → reply.state.1 = slab) := by
  have others := houses.fewer (List.sublist_cons_self _ _)
  have step := free_step below block slab s machine
  generalize Slab.free below block (slab, s) machine = reply at step ⊢
  cases step with
  | foreign tag other => exact ⟨[], .idle start others, fun _ _ => rfl⟩
  | interrupted tag interrupted => exact ⟨[], .idle start others, fun _ _ => rfl⟩
  | refused tag running rejected => exact ⟨[], .idle start others, fun _ _ => rfl⟩
  | put tag running accepted =>
    obtain ⟨sizeClass, page, classed, listed, _, _, _, _, rfl⟩ := freeSlot_parts accepted
    refine ⟨[], .quiet start (houses_congr others rfl (pages_swapped listed rfl)) ?_, by simp⟩
    exact fun block _ => ground?_swapped _ _ _ listed block
  | passed unsliced answer =>
    exact ⟨[block], spares_pass houses rfl rfl unsliced answer, by simp⟩
  | passFailed unsliced answer =>
    exact ⟨[block], spares_pass houses rfl rfl unsliced answer, fun _ _ => rfl⟩

end Slab

namespace Pool
variable {pool : Pool}

theorem loans_eq (pool : Pool) (live : List Block) : (Layer.pool pool).loans live =
    pool.idleBlocks ++ live.filterMap (ground? (.pool pool)) := rfl

theorem ground?_eq (pool : Pool) (block : Block) : (Layer.pool pool).ground? block =
    (pool.outstanding.find? block.address).map IssuedBlock.backing := rfl

theorem ground_address {ground : Block} (keyed : (Layer.pool pool).Keyed)
    (found : (Layer.pool pool).ground? block = some ground) : ground.address = block.address := by
  obtain ⟨issued, recorded, rfl⟩ := Option.map_eq_some_iff.1 found
  exact keyed _ _ recorded

-- Of what is lent nothing lies where an issued block does but what that block lies in.
theorem address_mem_loans (houses : (Layer.pool pool).Houses live) (member : block ∈ live) :
    block.address ∈ ((Layer.pool pool).lentOn live).map Block.address := by
  obtain ⟨ground, found⟩ := Option.isSome_iff_exists.1 (houses.grounded block member)
  rw [← ground_address houses.keyed found]
  exact List.mem_map_of_mem (List.mem_filterMap.2 ⟨block, member, found⟩)

theorem ground?_kept {after : Pool} {a : Nat} (elsewhere : ∀ other ∈ live, other.address ≠ a)
    (kept : ∀ k, k ≠ a → after.outstanding.find? k = pool.outstanding.find? k) :
    ∀ other ∈ live, (Layer.pool after).ground? other = (Layer.pool pool).ground? other := by
  intro other member
  rw [ground?_eq, ground?_eq, kept _ (elsewhere other member)]

theorem houses_issue (after : Pool) (backing : Block) (bucket : Option Bucket)
    (houses : (Layer.pool pool).Houses live) (here : block.address = backing.address)
    (records : after.outstanding = pool.outstanding.insert backing.address ⟨backing, bucket⟩)
    (distinct : ((backing :: (after.idleBlocks ++ (Layer.pool pool).lentOn live)).map
      Block.address).Nodup) :
    (Layer.pool after).Houses (block :: live) ∧
      ∀ other ∈ live, (Layer.pool after).ground? other = (Layer.pool pool).ground? other := by
  have elsewhere : ∀ other ∈ live, other.address ≠ backing.address := by
    intro other member same
    apply (List.nodup_cons.1 distinct).1
    rw [List.map_append]
    exact List.mem_append_right _ (same ▸ address_mem_loans houses member)
  have found : ∀ k, after.outstanding.find? k =
      if k = backing.address then some ⟨backing, bucket⟩ else pool.outstanding.find? k := by
    intro k
    rw [records, Table.find?_insert]
  have grounded : (Layer.pool after).ground? block = some backing := by
    rw [ground?_eq, here, found, if_pos rfl]
    rfl
  have steady : ∀ other ∈ live, (Layer.pool after).ground? other = (Layer.pool pool).ground? other := by
    refine ground?_kept elsewhere fun k other => ?_
    rw [found, if_neg other]
  refine ⟨⟨trivial, ?_, ?_, ?_⟩, steady⟩
  · change after.outstanding.Keyed _
    rw [records]
    exact Table.Keyed.insert houses.keyed ⟨backing, bucket⟩
  · intro other member
    rcases List.mem_cons.1 member with rfl | old
    · rw [grounded]
      rfl
    · rw [steady other old]
      exact houses.grounded other old
  · have kept : (Layer.pool after).lentOn live = (Layer.pool pool).lentOn live :=
      List.filterMap_congr steady
    rw [← kept] at distinct
    rw [loans_eq, List.filterMap_cons_some grounded]
    exact (List.perm_middle.map Block.address).nodup_iff.2 distinct

-- What an issued block lies in, no other does, and it is not idle.
theorem loans_cons {ground : Block} (found : (Layer.pool pool).ground? block = some ground) :
    ((Layer.pool pool).loans (block :: live)).Perm (ground :: (Layer.pool pool).loans live) := by
  rw [loans_eq, List.filterMap_cons_some found]
  exact List.perm_middle

theorem ground_apart {ground : Block} (houses : (Layer.pool pool).Houses (block :: live))
    (found : (Layer.pool pool).ground? block = some ground) :
    ground.address ∉ ((Layer.pool pool).loans live).map Block.address :=
  (List.nodup_cons.1 (((loans_cons found).map Block.address).nodup_iff.1 houses.distinct)).1

-- Once its record is gone, what a block lay in is out of use; it may have become idle.
theorem houses_return (after : Pool) {ground : Block}
    (houses : (Layer.pool pool).Houses (block :: live))
    (found : (Layer.pool pool).ground? block = some ground)
    (records : after.outstanding = pool.outstanding.erase block.address) :
    (after.idle = pool.idle ∨ ∃ bucket, after.idle = ⟨bucket, ground⟩ :: pool.idle) →
      (Layer.pool after).Houses live ∧
      (∀ other ∈ live, (Layer.pool after).ground? other = (Layer.pool pool).ground? other) ∧
      (after.idle = pool.idle → (Layer.pool after).loans live = (Layer.pool pool).loans live) := by
  have others := houses.fewer (List.sublist_cons_self _ _)
  have elsewhere : ∀ other ∈ live, other.address ≠ block.address := by
    intro other member same
    apply ground_apart houses found
    rw [Layer.loans, List.map_append, ground_address houses.keyed found, ← same]
    exact List.mem_append_right _ (address_mem_loans others member)
  have steady : ∀ other ∈ live, (Layer.pool after).ground? other = (Layer.pool pool).ground? other := by
    refine ground?_kept elsewhere fun k other => ?_
    rw [records, Table.find?_erase, if_neg other]
  have kept : (Layer.pool after).lentOn live = (Layer.pool pool).lentOn live :=
    List.filterMap_congr steady
  have still : after.idle = pool.idle →
      (Layer.pool after).loans live = (Layer.pool pool).loans live := by
    intro same
    rw [Layer.loans, kept, stock, idleBlocks, same]
    rfl
  refine fun idle => ⟨⟨trivial, ?_, ?_, ?_⟩, steady, still⟩
  · change after.outstanding.Keyed _
    rw [records]
    exact Table.Keyed.erase houses.keyed block.address
  · intro other member
    rw [steady other member]
    exact others.grounded other member
  · rcases idle with same | ⟨bucket, wider⟩
    · rw [still same]
      exact others.distinct
    · have moved : ((Layer.pool after).loans live).Perm ((Layer.pool pool).loans (block :: live)) := by
        refine List.Perm.trans ?_ (loans_cons found).symm
        rw [Layer.loans, kept, stock, idleBlocks, wider, List.map_cons, List.reverse_cons]
        exact (List.perm_append_singleton _ _).append_right _
      exact (moved.map Block.address).nodup_iff.2 houses.distinct

theorem spares_handOn {issued : IssuedBlock} {after : Pool} {left : σ} {result : Except Fault Unit}
    {machine' : Machine} (houses : (Layer.pool pool).Houses (block :: live))
    (handsOn : pool.HandsOn block issued)
    (answer : below.free issued.backing s machine = ⟨result, left, machine'⟩)
    (stays : (Layer.pool after).Houses live)
    (steady : ∀ other ∈ live, (Layer.pool after).ground? other = (Layer.pool pool).ground? other)
    (loans : (Layer.pool after).loans live = (Layer.pool pool).loans live) :
    Spares below s [issued.backing] (.pool pool) (.pool after) [] live left := by
  refine ⟨start.freed answer, stays, steady, ?_⟩
  intro loan member here
  rw [List.map_singleton, List.mem_singleton] at here
  rw [List.nil_append, loans] at member
  have ground := congrArg (Option.map IssuedBlock.backing) handsOn.found
  exact ground_apart houses ground (here ▸ List.mem_map_of_mem member)

theorem allocate_spares (houses : (Layer.pool pool).Houses live)
    (apart : LendsApart below (.pool pool) live s machine) :
    let reply := Pool.allocate below request (pool, s) machine
    Spares below s [] (.pool pool) (.pool reply.state.1) reply.issued live reply.state.2 := by
  have step := allocate_step below request pool s machine
  generalize Pool.allocate below request (pool, s) machine = reply at step ⊢
  cases step with
  | refused cause => exact .idle start houses
  | @reused sizeClass backing others large rounded active found =>
    have idle := (takeIdle_perm found).map IdleBlock.backing
    have reversed := ((List.reverse_perm _).trans idle).trans ((List.reverse_perm _).symm.cons backing)
    have distinct := ((reversed.append_right _).map Block.address).nodup_iff.1 houses.distinct
    have here : (pool.issue backing request sizeClass).address = backing.address := rfl
    obtain ⟨issued, steady⟩ := houses_issue (pool.reuse backing ⟨sizeClass, request.align⟩ others)
      backing _ houses here rfl distinct
    exact .quiet start issued steady
  | @obtained asking wider bucket shape backing after machine' asks answer =>
    have distinct := List.nodup_cons.2 ⟨(apart _ _ _ _ answer).1, houses.distinct⟩
    obtain ⟨issued, steady⟩ := houses_issue (asking.adopt backing bucket) backing bucket houses
      (asks.shaped backing).1 (by rw [asks.counted]; rfl) (by rw [asks.counted]; exact distinct)
    exact .quiet (start.allocated answer) issued steady
  | failed asks answer =>
    rw [asks.counted]
    refine .quiet (start.allocated answer) ?_ fun _ _ => rfl
    exact ⟨trivial, houses.keyed, houses.grounded, houses.distinct⟩

theorem free_spares (below : Source σ) (s : σ) (machine : Machine)
    (houses : (Layer.pool pool).Houses (block :: live)) :
    let reply := Pool.free below block (pool, s) machine
    ∃ given, Spares below s given (.pool pool) (.pool reply.state.1) [] live reply.state.2 ∧
      (∀ error, reply.result = .error (.refused error) → reply.state.1 = pool) := by
  have others := houses.fewer (List.sublist_cons_self _ _)
  have step := free_step below block pool s machine
  generalize Pool.free below block (pool, s) machine = reply at step ⊢
  cases step with
  | foreign cause => exact ⟨[], .idle start others, fun _ _ => rfl⟩
  | @retained issued bucket own found filed active allowed =>
    have ground := congrArg (Option.map IssuedBlock.backing) found
    obtain ⟨stays, steady, _⟩ := houses_return (pool.retain block.address issued bucket) houses ground
      rfl (Or.inr ⟨bucket, rfl⟩)
    exact ⟨[], .quiet start stays steady, by simp⟩
  | @released issued after machine' handsOn answer =>
    have ground := congrArg (Option.map IssuedBlock.backing) handsOn.found
    obtain ⟨stays, steady, loans⟩ := houses_return { pool with
      outstanding := pool.outstanding.erase block.address
      held := pool.held.sub issued.backing.size } houses ground rfl (Or.inl rfl)
    exact ⟨[_], spares_handOn houses handsOn answer stays steady (loans rfl), by simp⟩
  | @restored issued error after machine' handsOn answer =>
    rw [Table.Keyed.restore houses.keyed handsOn.found]
    have handed := spares_handOn houses handsOn answer others (fun _ _ => rfl) rfl
    exact ⟨[_], handed, fun _ _ => rfl⟩
  | @lost issued message after machine' handsOn answer =>
    have ground := congrArg (Option.map IssuedBlock.backing) handsOn.found
    obtain ⟨stays, steady, loans⟩ := houses_return { pool with
      outstanding := pool.outstanding.erase block.address } houses ground rfl (Or.inl rfl)
    exact ⟨[_], spares_handOn houses handsOn answer stays steady (loans rfl), by simp⟩

-- When a pool gives back what is idle, that is nothing an issued block lies in.
theorem emptied_spares (below : Source σ) (s : σ) (machine : Machine) (disposed : Bool)
    (houses : (Layer.pool pool).Houses live) :
    let reply := releaseAll below none pool.idleBlocks { pool.emptied with disposed } s machine
    ∃ given, Spares below s given (.pool pool) (.pool reply.state.1) [] live reply.state.2 := by
  obtain ⟨given, rest, offered⟩ := releaseAll_offers below pool.idleBlocks none
    { pool.emptied with disposed } s machine
  obtain ⟨held, same⟩ := releaseAll_held below pool.idleBlocks none { pool.emptied with disposed } s
    machine
  have loans : (Layer.pool { pool.emptied with disposed, held }).loans live =
      (Layer.pool pool).lentOn live := rfl
  refine ⟨given, offered.freed.called, ?_, ?_, ?_⟩
  · rw [same]
    refine ⟨trivial, houses.keyed, houses.grounded, ?_⟩
    change ((Layer.loans _ live).map Block.address).Nodup
    rw [loans]
    exact houses.distinct.sublist ((List.sublist_append_right _ _).map _)
  · rw [same]
    exact fun _ _ => rfl
  · rw [same]
    change ∀ loan ∈ Layer.loans _ live, _
    rw [loans]
    intro loan member here
    obtain ⟨block, old, same⟩ := List.mem_map.1 here
    have idle : block ∈ pool.idleBlocks := by
      rw [← offered.all]
      exact List.mem_append_left _ (List.mem_reverse.2 old)
    have distinct := houses.distinct
    rw [Layer.loans, List.map_append] at distinct
    have apart := (List.nodup_append.1 distinct).2.2
    exact apart _ (List.mem_map_of_mem idle) _ (List.mem_map_of_mem member) same

end Pool

namespace Layer
variable {layer : Layer}

theorem allocate_spares (houses : layer.Houses live) (apart : LendsApart below layer live s machine) :
    let reply := (source below).allocate request (layer, s) machine
    ∃ given, Spares below s given layer reply.state.1 reply.issued live reply.state.2 := by
  cases layer with
  | arena inner => exact Arena.allocate_spares houses apart
  | pool inner => exact ⟨[], Pool.allocate_spares houses apart⟩
  | slab inner => exact ⟨[], Slab.allocate_spares houses apart⟩
  | hybrid inner | tracker inner | probe inner => exact houses.stores.elim

theorem free_spares (below : Source σ) (s : σ) (machine : Machine)
    (houses : layer.Houses (block :: live)) :
    let reply := (source below).free block (layer, s) machine
    ∃ given, Spares below s given layer reply.state.1 [] live reply.state.2 ∧
      (∀ error, reply.result = .error (.refused error) → reply.state.1 = layer) := by
  cases layer with
  | arena inner =>
    have others := houses.fewer (List.sublist_cons_self _ _)
    exact ⟨[], .idle start others, fun _ _ => rfl⟩
  | pool inner =>
    obtain ⟨given, spares, same⟩ := Pool.free_spares below s machine houses
    exact ⟨given, spares, fun error refused => congrArg _ (same error refused)⟩
  | slab inner =>
    obtain ⟨given, spares, same⟩ := Slab.free_spares below s machine houses
    exact ⟨given, spares, fun error refused => congrArg _ (same error refused)⟩
  | hybrid inner | tracker inner | probe inner => exact houses.stores.elim

end Layer

end

end LayeredAllocation
