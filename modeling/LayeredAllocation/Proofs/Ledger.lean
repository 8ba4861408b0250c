import Mathlib.Algebra.GroupWithZero.Nat
import Mathlib.Order.Interval.Finset.Nat
import LayeredAllocation.Proofs.Contract.Bottom

namespace LayeredAllocation

namespace Extent

def total (extents : List Extent) : Nat := (extents.map length).sum

def addresses (extents : List Extent) : Finset Nat :=
  extents.foldr (fun e rest => Finset.Ico e.start e.stop ∪ rest) ∅

theorem mem_addresses {extents : List Extent} {address : Nat} :
    address ∈ addresses extents ↔ ∃ e ∈ extents, e.Contains address := by
  induction extents with
  | nil => simp [addresses]
  | cons first rest ih =>
    have split : addresses (first :: rest) = Finset.Ico first.start first.stop ∪ addresses rest := rfl
    rw [split, Finset.mem_union, Finset.mem_Ico, ih, List.exists_mem_cons_iff]
    rfl

theorem card_addresses {extents : List Extent} (apart : extents.Pairwise Disjoint) :
    (addresses extents).card = total extents := by
  induction apart with
  | nil => rfl
  | @cons first rest head _ ih =>
    have split : addresses (first :: rest) = Finset.Ico first.start first.stop ∪ addresses rest := rfl
    rw [split, Finset.card_union_of_disjoint, Nat.card_Ico, ih]
    · simp only [total, stop, List.map_cons, List.sum_cons]
      omega
    · refine Finset.disjoint_left.2 fun address inside member => ?_
      obtain ⟨e, listed, found⟩ := mem_addresses.1 member
      exact (head e listed).not_contains (Finset.mem_Ico.1 inside) found

-- Disjoint runs do not cover more than the space they lie in.
theorem total_lt {extents : List Extent} {limit : Nat} (apart : extents.Pairwise Disjoint)
    (inside : ∀ e ∈ extents, 0 < e.start ∧ e.stop ≤ limit) (positive : 0 < limit) :
    total extents < limit := by
  have covered : addresses extents ⊆ Finset.Ico 1 limit := by
    intro address member
    obtain ⟨e, listed, low, high⟩ := mem_addresses.1 member
    obtain ⟨above, below⟩ := inside e listed
    exact Finset.mem_Ico.2 ⟨Nat.lt_of_lt_of_le above low, Nat.lt_of_lt_of_le high below⟩
  have bound := Finset.card_le_card covered
  rw [card_addresses apart, Nat.card_Ico] at bound
  omega

end Extent

structure Block.Coexist (blocks : List Block) : Prop where
  apart : (blocks.map Block.extent).Pairwise Extent.Disjoint
  within : ∀ b ∈ blocks, 0 < b.address ∧ b.extent.stop ≤ Word.range

instance (blocks : List Block) : Decidable (Block.Coexist blocks) :=
  decidable_of_iff
    ((blocks.map Block.extent).Pairwise Extent.Disjoint ∧
      ∀ b ∈ blocks, 0 < b.address ∧ b.extent.stop ≤ Word.range)
    ⟨fun both => ⟨both.1, both.2⟩, fun coexist => ⟨coexist.apart, coexist.within⟩⟩

theorem Block.Coexist.sum_lt {blocks : List Block} (coexist : Block.Coexist blocks) :
    (blocks.map Block.size).sum < Word.range := by
  have bound : Extent.total (blocks.map Block.extent) < Word.range :=
    Extent.total_lt coexist.apart (List.forall_mem_map.2 coexist.within) (by decide)
  rw [Extent.total, List.map_map] at bound
  exact bound

namespace Memory

def pieces (memory : Memory) : List Extent := memory.roots.map Root.extent

theorem pieces_congr {memory after : Memory} (roots : after.roots = memory.roots) :
    after.pieces = memory.pieces := congrArg (List.map Root.extent) roots

theorem retire_pieces (start : Nat) (roots : List Root) :
    (retire start roots).map Root.extent = roots.map Root.extent := by
  induction roots with
  | nil => rfl
  | cons root older ih =>
    unfold retire
    split
    · rfl
    · rw [List.map_cons, List.map_cons, ih]

-- Pieces that lie apart from each other, under a platform that hands out nothing twice.
structure Charted (memory : Memory) (extents : List Extent) : Prop where
  sound : memory.platform.Sound
  fresh : memory.platform.Fresh
  rooted : ∀ e ∈ extents, e ∈ memory.pieces ∧ 0 < e.start ∧ e.stop ≤ Word.range
  apart : extents.Pairwise fun a b => a.Disjoint b ∧ a.start ≠ b.start

namespace Charted
variable {memory after : Memory} {extents : List Extent}

theorem congr (charted : memory.Charted extents) (platform : after.platform = memory.platform)
    (pieces : after.pieces = memory.pieces) : after.Charted extents :=
  ⟨platform ▸ charted.sound, platform ▸ charted.fresh, pieces ▸ charted.rooted, charted.apart⟩

theorem perm {shuffled : List Extent} (charted : memory.Charted extents)
    (same : extents.Perm shuffled) : memory.Charted shuffled :=
  ⟨charted.sound, charted.fresh, fun e member => charted.rooted e (same.mem_iff.2 member),
    (same.pairwise_iff fun apart => ⟨apart.1.symm, apart.2.symm⟩).1 charted.apart⟩

theorem tail {e : Extent} (charted : memory.Charted (e :: extents)) : memory.Charted extents :=
  ⟨charted.sound, charted.fresh, fun other member => charted.rooted other (List.mem_cons_of_mem _ member),
    (List.pairwise_cons.1 charted.apart).2⟩

theorem obtained {origin : Origin} {size align base : Nat} (charted : memory.Charted extents)
    (placed : memory.Placed origin size align base after) :
    after.Charted (⟨base, size⟩ :: extents) := by
  obtain ⟨placed, platform, roots⟩ := placed
  obtain ⟨positive, _, bounded, _⟩ := charted.sound _ _ _ _ _ _ placed
  have pieces : after.pieces = ⟨base, size⟩ :: memory.pieces := by
    simp only [Memory.pieces, roots, List.map_cons]
  refine ⟨platform ▸ charted.sound, platform ▸ charted.fresh, ?_, List.pairwise_cons.2 ⟨?_, charted.apart⟩⟩
  · intro e member
    rw [pieces]
    rcases List.mem_cons.1 member with rfl | old
    · exact ⟨List.mem_cons_self, positive, bounded⟩
    · obtain ⟨listed, within⟩ := charted.rooted e old
      exact ⟨List.mem_cons_of_mem _ listed, within⟩
  · intro e old
    obtain ⟨root, listed, rfl⟩ := List.mem_map.1 (charted.rooted e old).1
    obtain ⟨apart, different⟩ := charted.fresh _ _ _ _ _ _ placed root listed
    exact ⟨apart.symm, different.symm⟩

theorem total_lt (charted : memory.Charted extents) : Extent.total extents < Word.range :=
  Extent.total_lt (charted.apart.imp And.left) (fun e member => (charted.rooted e member).2) (by decide)

end Charted

end Memory

theorem Counter.ofNat_add (m n : Nat) : (ofNat m).add n = ofNat (m + n) := by
  unfold ofNat add
  rw [UInt64.ofNat_add]

theorem Counter.read_ofNat {n : Nat} (fits : n < Word.range) : (ofNat n).read = n :=
  UInt64.toNat_ofNat_of_lt' fits

theorem Counter.read_ofNat_mod (n : Nat) : (ofNat n).read = n % Word.range := by
  simp [ofNat, read, Word.range]

theorem Counter.ofNat_sub {m n : Nat} (le : n ≤ m) : (ofNat m).sub n = ofNat (m - n) := by
  have whole : ofNat m = (ofNat (m - n)).add n := by rw [ofNat_add, Nat.sub_add_cancel le]
  rw [whole, add_sub]

theorem Table.sum_values_insert {α : Type} {table : Table α} {key : Nat}
    (absent : table.find? key = none) (value : α) (f : α → Nat) :
    ((table.insert key value).values.map f).sum = f value + (table.values.map f).sum := by
  rw [((values_insert absent value).map f).sum_nat, List.map_cons, List.sum_cons]

theorem Table.sum_values_erase {α : Type} {table : Table α} {key : Nat} {value : α}
    (found : table.find? key = some value) (f : α → Nat) :
    (table.values.map f).sum = f value + ((table.erase key).values.map f).sum := by
  rw [((values_erase found).map f).sum_nat, List.map_cons, List.sum_cons]

def SystemStore.total (store : SystemStore) : Nat := (store.issued.values.map Layout.size).sum

def PageStore.total (store : PageStore) : Nat := (store.mappings.values.map MappingRecord.capacity).sum

def Bottom.total : Bottom → Nat
  | .system store => store.total
  | .pages store => store.total

-- What clients have is on record under the addresses of the blocks, and nothing else is.
structure Table.Lists {α : Type} (fits : Request → α → Prop) (past : List Event) (table : Table α) :
    Prop where
  issued : ∀ address value, table.find? address = some value →
    ∃ g ∈ inHand past, g.block.address = address
  held : ∀ g ∈ inHand past, ∃ value, table.find? g.block.address = some value ∧ fits g.request value

namespace Table.Lists
variable {α : Type} {fits : Request → α → Prop} {past : List Event} {table : Table α} {value : α}
  {address : Nat} {request : Request} {block : Block}

theorem start : (empty : Table α).Lists fits [] := ⟨nofun, nofun⟩

theorem congr {later : List Event} (lists : table.Lists fits past) (same : inHand later = inHand past) :
    table.Lists fits later := ⟨same ▸ lists.issued, same ▸ lists.held⟩

theorem find?_eq_some (lists : table.Lists fits past) (found : table.find? address = some value) :
    ∃ g ∈ inHand past, g.block.address = address ∧ fits g.request value := by
  obtain ⟨g, member, here⟩ := lists.issued address value found
  obtain ⟨_, listed, fit⟩ := lists.held g member
  cases found.symm.trans (here ▸ listed)
  exact ⟨g, member, here, fit⟩

theorem find?_eq_none (lists : table.Lists fits past) :
    table.find? address = none ↔ ∀ g ∈ inHand past, g.block.address ≠ address := by
  constructor
  · intro absent g member here
    obtain ⟨_, listed, _⟩ := lists.held g member
    cases absent.symm.trans (here ▸ listed)
  · intro nobody
    refine Option.eq_none_iff_forall_ne_some.2 fun value found => ?_
    obtain ⟨g, member, here⟩ := lists.issued address value found
    exact nobody g member here

theorem insert (lists : table.Lists fits past) (absent : table.find? block.address = none)
    (fit : fits request value) :
    (table.insert block.address value).Lists fits (⟨.allocate request, .ok (some block)⟩ :: past) := by
  refine ⟨fun address other listed => ?_, fun g member => ?_⟩
  · rw [find?_insert] at listed
    split at listed
    · next same => exact ⟨_, List.mem_cons_self, same.symm⟩
    · obtain ⟨g, member, here⟩ := lists.issued address other listed
      exact ⟨g, List.mem_cons_of_mem _ member, here⟩
  · rw [find?_insert]
    rcases List.mem_cons.1 member with rfl | old
    · exact ⟨value, if_pos rfl, fit⟩
    · obtain ⟨other, listed, suits⟩ := lists.held g old
      have apart : g.block.address ≠ block.address := by
        intro same
        cases absent.symm.trans (same ▸ listed)
      exact ⟨other, (if_neg apart).trans listed, suits⟩

theorem erase {answer : Option Block} (lists : table.Lists fits past) :
    (table.erase block.address).Lists fits (⟨.free block, .ok answer⟩ :: past) := by
  refine ⟨fun address other listed => ?_, fun g member => ?_⟩
  · rw [find?_erase] at listed
    split at listed
    · cases listed
    · next apart =>
      obtain ⟨g, member, here⟩ := lists.issued address other listed
      exact ⟨g, mem_inHand_free.2 ⟨member, fun same => apart (here.symm.trans same)⟩, here⟩
  · obtain ⟨old, apart⟩ := mem_inHand_free.1 member
    obtain ⟨other, listed, suits⟩ := lists.held g old
    refine ⟨other, ?_, suits⟩
    rw [find?_erase, if_neg apart]
    exact listed

end Table.Lists

-- The system has these blocks on record and no others; pinned pieces lie apart from them.
structure Books (store : SystemStore) (memory : Memory) (kept : List Block) (pins : List Extent) :
    Prop where
  charted : memory.Charted (kept.map Block.extent ++ pins)
  listed : ∀ address layout, store.issued.find? address = some layout ↔
    ∃ k ∈ kept, k.address = address ∧ layout = ⟨k.size, k.align⟩
  tags : ∀ k ∈ kept, k.tag = .system
  counted : store.allocated = Counter.ofNat (kept.map Block.size).sum

namespace Books
variable {store paid : SystemStore} {memory : Memory} {machine : Machine} {kept rest : List Block}
  {pins : List Extent} {block : Block} {request : Request}

theorem opened {limit : Option Counter} (sound : memory.platform.Sound)
    (fresh : memory.platform.Fresh) : Books { budget := limit } memory [] [] where
  charted := ⟨sound, fresh, by simp, .nil⟩
  listed := by simp [Table.find?_empty]
  tags := by simp
  counted := rfl

theorem congr {other : Memory} (books : Books store memory kept pins)
    (platform : other.platform = memory.platform) (pieces : other.pieces = memory.pieces) :
    Books store other kept pins :=
  ⟨books.charted.congr platform pieces, books.listed, books.tags, books.counted⟩

theorem perm {shuffled : List Block} (books : Books store memory kept pins)
    (same : kept.Perm shuffled) : Books store memory shuffled pins where
  charted := books.charted.perm ((same.map _).append_right pins)
  listed address layout := by simp only [books.listed, same.mem_iff]
  tags k member := books.tags k (same.mem_iff.2 member)
  counted := by rw [books.counted, (same.map Block.size).sum_nat]

theorem read (books : Books store memory kept pins) :
    store.allocated.read = (kept.map Block.size).sum ∧
      (kept.map Block.size).sum + Extent.total pins < Word.range := by
  have bound := books.charted.total_lt
  simp only [Extent.total, List.map_append, List.map_map, List.sum_append] at bound
  change (kept.map Block.size).sum + _ < _ at bound
  refine ⟨?_, bound⟩
  rw [books.counted, Counter.read_ofNat]
  omega

theorem addresses (books : Books store memory kept pins) : (kept.map Block.address).Nodup := by
  have apart := (List.pairwise_append.1 books.charted.apart).1
  exact List.pairwise_map.2 ((List.pairwise_map.1 apart).imp And.right)

theorem nodup (books : Books store memory kept pins) : kept.Nodup := .of_map _ books.addresses

theorem address_ne (books : Books store memory (block :: kept) pins) :
    ∀ k ∈ kept, k.address ≠ block.address := by
  intro k member same
  exact (List.nodup_cons.1 books.addresses).1 (same ▸ List.mem_map_of_mem member)

theorem grant {base : Nat} {after : Memory} (books : Books store memory kept pins)
    (grants : SystemStore.Grants request store paid base memory after) :
    Books paid after (⟨base, request.size, request.align, .system⟩ :: kept) pins := by
  have charted := books.charted.obtained grants.placed
  refine ⟨charted, ?_, ?_, ?_⟩
  · intro address layout
    rw [grants.issued, Table.find?_insert, List.exists_mem_cons_iff]
    by_cases same : address = base
    · subst same
      rw [if_pos rfl]
      constructor
      · intro equal
        exact Or.inl ⟨rfl, (Option.some.inj equal).symm⟩
      · rintro (⟨_, rfl⟩ | ⟨k, member, equal, _⟩)
        · rfl
        · have apart := (List.pairwise_cons.1 charted.apart).1 k.extent
            (List.mem_append_left _ (List.mem_map.2 ⟨k, member, rfl⟩))
          exact absurd equal.symm apart.2
    · rw [if_neg same, books.listed]
      constructor
      · exact Or.inr
      · rintro (⟨equal, _⟩ | found)
        · exact absurd equal.symm same
        · exact found
  · intro k member
    rcases List.mem_cons.1 member with rfl | old
    · rfl
    · exact books.tags k old
  · rw [grants.allocated, books.counted, Counter.ofNat_add, List.map_cons, List.sum_cons, Nat.add_comm]

theorem take (books : Books store machine.memory (block :: rest) pins) {brought : Block}
    (tag : brought.tag = .system) (address : brought.address = block.address) :
    ∃ forgot left, SystemStore.source.free brought store machine = ⟨.ok (), forgot, left⟩ ∧
      Books forgot left.memory rest pins ∧ forgot.allocated = store.allocated.sub block.size ∧
      left.memory.pieces = machine.memory.pieces := by
  have found : store.issued.find? brought.address = some ⟨block.size, block.align⟩ :=
    (books.listed _ _).2 ⟨block, List.mem_cons_self, address.symm, rfl⟩
  have pieces : (machine.giveBack brought.address block.size).memory.pieces = machine.memory.pieces :=
    Memory.retire_pieces _ _
  refine ⟨(store.forget brought.address ⟨block.size, block.align⟩).refund block.size,
    machine.giveBack brought.address block.size, SystemStore.free_of_issued tag found,
    ⟨books.charted.tail.congr rfl pieces, ?_, ?_, ?_⟩, rfl, pieces⟩
  · intro a layout
    simp only [SystemStore.refund, SystemStore.forget, Table.find?_erase, address]
    split
    · next same =>
      subst same
      simp only [reduceCtorEq, false_iff]
      rintro ⟨k, member, equal, _⟩
      exact books.address_ne k member equal
    · next other =>
      rw [books.listed, List.exists_mem_cons_iff]
      constructor
      · rintro (⟨equal, _⟩ | found)
        · exact absurd equal.symm other
        · exact found
      · exact Or.inr
  · exact fun k member => books.tags k (List.mem_cons_of_mem _ member)
  · simp only [SystemStore.refund, SystemStore.forget, books.counted, List.map_cons, List.sum_cons]
    rw [Nat.add_comm, ← Counter.ofNat_add, Counter.add_sub]

theorem free_cases (books : Books store machine.memory kept pins) (brought : Block) :
    (∃ e, SystemStore.source.free brought store machine = ⟨.error (.refused e), store, machine⟩) ∨
    (brought.tag = .system ∧ ∃ k ∈ kept, k.address = brought.address) := by
  have step := SystemStore.free_step brought store machine
  generalize SystemStore.source.free brought store machine = reply at step ⊢
  cases step with
  | foreign cause => exact Or.inl ⟨_, rfl⟩
  | returned tag found =>
    obtain ⟨k, member, address, _⟩ := (books.listed _ _).1 found
    exact Or.inr ⟨tag, k, member, address⟩

end Books

def direct (live : List Block) : List Block := live.filter (·.tag = .system)

theorem mem_direct {live : List Block} {block : Block} :
    block ∈ direct live ↔ block ∈ live ∧ block.tag = .system := by
  simp only [direct, List.mem_filter, decide_eq_true_eq]

theorem direct_others (block : Block) (live : List Block) :
    direct (block.others live) = block.others (direct live) := List.filter_comm _ _ live

theorem direct_others_of_tag {block : Block} (other : block.tag ≠ .system) (live : List Block) :
    direct (block.others live) = direct live := by
  rw [direct_others]
  refine List.filter_eq_self.2 fun k member => decide_eq_true ?_
  rintro rfl
  exact other (mem_direct.1 member).2

theorem others_perm {list : List Block} {block : Block} (distinct : list.Nodup)
    (member : block ∈ list) : list.Perm (block :: block.others list) := by
  have same : list.erase block = block.others list := by
    rw [distinct.erase_eq_filter]
    refine List.filter_congr fun k _ => ?_
    by_cases equal : k = block <;> simp [equal]
  exact same ▸ List.perm_cons_erase member

-- The books of a client that keeps blocks of its own and hands others on as they are. A block it
-- once handed on is found at its address only while it is out.
structure Accounts (store : SystemStore) (memory : Memory) (own : List Block) (pins : List Extent)
    (produced live : List Block) : Prop where
  books : Books store memory (own ++ direct live) pins
  placed : ∀ b ∈ produced, b.tag = .system → ∃ e ∈ memory.pieces, e.start = b.address
  current : ∀ b ∈ produced, b.tag = .system → ∀ k ∈ own ++ direct live, k.address = b.address →
    b ∈ live

namespace Accounts
variable {store paid : SystemStore} {memory : Memory} {machine : Machine}
  {own produced live : List Block} {pins : List Extent} {block : Block} {request : Request} {base : Nat}

theorem opened {limit : Option Counter} (sound : memory.platform.Sound)
    (fresh : memory.platform.Fresh) : Accounts { budget := limit } memory [] [] [] [] :=
  ⟨.opened sound fresh, by simp, by simp⟩

theorem congr {other : Memory} (accounts : Accounts store memory own pins produced live)
    (platform : other.platform = memory.platform) (pieces : other.pieces = memory.pieces) :
    Accounts store other own pins produced live :=
  ⟨accounts.books.congr platform pieces, pieces ▸ accounts.placed, accounts.current⟩

theorem enter (accounts : Accounts store memory own pins produced live)
    (other : block.tag ≠ .system) :
    Accounts store memory own pins (block :: produced) (block :: live) := by
  have same : direct (block :: live) = direct live := List.filter_cons_of_neg (by simp [other])
  refine ⟨same ▸ accounts.books, ?_, ?_⟩
  · intro b member tag
    rcases List.mem_cons.1 member with rfl | old
    · exact absurd tag other
    · exact accounts.placed b old tag
  · intro b member tag k listed equal
    rw [same] at listed
    rcases List.mem_cons.1 member with rfl | old
    · exact absurd tag other
    · exact List.mem_cons_of_mem _ (accounts.current b old tag k listed equal)

theorem leave (accounts : Accounts store memory own pins produced live)
    (other : block.tag ≠ .system) : Accounts store memory own pins produced (block.others live) := by
  have same := direct_others_of_tag other live
  refine ⟨same ▸ accounts.books, accounts.placed, ?_⟩
  intro b member tag k listed equal
  rw [same] at listed
  refine Block.mem_others.2 ⟨accounts.current b member tag k listed equal, ?_⟩
  rintro rfl
  exact other tag

theorem place_ne {origin : Origin} {size align : Nat} {other : Memory}
    (accounts : Accounts store memory own pins produced live)
    (placed : memory.Placed origin size align base other) :
    ∀ b ∈ produced, b.tag = .system → base ≠ b.address := by
  intro b member tag
  obtain ⟨e, listed, start⟩ := accounts.placed b member tag
  obtain ⟨root, inside, rfl⟩ := List.mem_map.1 listed
  exact start ▸ (accounts.books.charted.fresh _ _ _ _ _ _ placed.placed root inside).2.symm

theorem placed_mono {origin : Origin} {size align : Nat} {other : Memory}
    (accounts : Accounts store memory own pins produced live)
    (placed : memory.Placed origin size align base other) :
    ∀ b ∈ produced, b.tag = .system → ∃ e ∈ other.pieces, e.start = b.address := by
  intro b member tag
  obtain ⟨e, listed, start⟩ := accounts.placed b member tag
  refine ⟨e, ?_, start⟩
  rw [Memory.pieces, placed.roots]
  exact List.mem_cons_of_mem _ listed

theorem keep {after : Memory} (accounts : Accounts store memory own pins produced live)
    (grants : SystemStore.Grants request store paid base memory after) :
    Accounts paid after (own ++ [⟨base, request.size, request.align, .system⟩]) pins
      produced live := by
  have books := accounts.books.grant grants
  have shuffled : (⟨base, request.size, request.align, .system⟩ :: (own ++ direct live)).Perm
      (own ++ [⟨base, request.size, request.align, .system⟩] ++ direct live) := by
    rw [List.append_assoc]
    exact List.perm_middle.symm
  refine ⟨books.perm shuffled, accounts.placed_mono grants.placed, ?_⟩
  intro b member tag k listed equal
  rcases List.mem_cons.1 (shuffled.mem_iff.2 listed) with rfl | old
  · exact absurd equal (accounts.place_ne grants.placed b member tag)
  · exact accounts.current b member tag k old equal

theorem pass {after : Memory} (accounts : Accounts store memory own pins produced live)
    (grants : SystemStore.Grants request store paid base memory after) :
    Accounts paid after own pins (⟨base, request.size, request.align, .system⟩ :: produced)
      (⟨base, request.size, request.align, .system⟩ :: live) := by
  have books := accounts.books.grant grants
  have same : direct (⟨base, request.size, request.align, .system⟩ :: live) =
      ⟨base, request.size, request.align, .system⟩ :: direct live := List.filter_cons_of_pos rfl
  refine ⟨same ▸ books.perm List.perm_middle.symm, ?_, ?_⟩
  · intro b member tag
    rcases List.mem_cons.1 member with rfl | old
    · refine ⟨⟨base, request.size⟩, ?_, rfl⟩
      rw [Memory.pieces, grants.placed.roots]
      exact List.mem_cons_self
    · exact accounts.placed_mono grants.placed b old tag
  · intro b member tag k listed equal
    rw [same] at listed
    rcases List.mem_cons.1 member with rfl | old
    · exact List.mem_cons_self
    · rcases List.mem_cons.1 (List.perm_middle.mem_iff.1 listed) with rfl | known
      · exact absurd equal (accounts.place_ne grants.placed b old tag)
      · exact List.mem_cons_of_mem _ (accounts.current b old tag k known equal)

theorem passBack (accounts : Accounts store machine.memory own pins produced live)
    (member : block ∈ produced) :
    (∃ e, SystemStore.source.free block store machine = ⟨.error (.refused e), store, machine⟩) ∨
    ∃ forgot left, SystemStore.source.free block store machine = ⟨.ok (), forgot, left⟩ ∧
      Accounts forgot left.memory own pins produced (block.others live) ∧
      forgot.allocated = store.allocated.sub block.size := by
  refine (accounts.books.free_cases block).imp id ?_
  rintro ⟨tag, k, listed, equal⟩
  have out := mem_direct.2 ⟨accounts.current block member tag k listed equal, tag⟩
  have distinct := (List.nodup_append.1 accounts.books.nodup).2.1
  have shuffled : (own ++ direct live).Perm (block :: (own ++ direct (block.others live))) := by
    rw [direct_others]
    exact ((others_perm distinct out).append_left own).trans List.perm_middle
  have books := accounts.books.perm shuffled
  obtain ⟨forgot, left, freed, rest, allocated, pieces⟩ := books.take tag rfl
  refine ⟨forgot, left, freed, ⟨rest, pieces ▸ accounts.placed, ?_⟩, allocated⟩
  intro b made system k kept same
  have old := shuffled.mem_iff.2 (List.mem_cons_of_mem _ kept)
  refine Block.mem_others.2 ⟨accounts.current b made system k old same, ?_⟩
  rintro rfl
  exact books.address_ne k kept same

theorem pin {origin : Origin} {size align : Nat} {other : Memory}
    (accounts : Accounts store memory own pins produced live)
    (placed : memory.Placed origin size align base other) :
    Accounts store other own (⟨base, size⟩ :: pins) produced live := by
  have charted := accounts.books.charted.obtained placed
  exact ⟨⟨charted.perm List.perm_middle.symm, accounts.books.listed, accounts.books.tags,
    accounts.books.counted⟩, accounts.placed_mono placed, accounts.current⟩

theorem unpin {fewer : List Extent} {e : Extent} {other : Memory}
    (accounts : Accounts store memory own pins produced live) (same : pins.Perm (e :: fewer))
    (platform : other.platform = memory.platform) (pieces : other.pieces = memory.pieces) :
    Accounts store other own fewer produced live := by
  have charted := accounts.books.charted.perm ((same.append_left _).trans List.perm_middle)
  exact ⟨⟨charted.tail.congr platform pieces, accounts.books.listed, accounts.books.tags,
    accounts.books.counted⟩, pieces ▸ accounts.placed, accounts.current⟩

end Accounts

section
variable (balanced : α → SystemStore → Memory → List Block → List Block → Prop)
  (produced live : List Block)

inductive Entered : Reply (α × SystemStore) Block → Prop where
  | issued {block : Block} {inner : α} {store : SystemStore} {machine : Machine}
      (kept : balanced inner store machine.memory (block :: produced) (block :: live)) :
      Entered ⟨.ok block, (inner, store), machine⟩
  | failed {fault : Fault} {inner : α} {store : SystemStore} {machine : Machine}
      (kept : balanced inner store machine.memory produced live) :
      Entered ⟨.error fault, (inner, store), machine⟩

inductive Cleared (block : Block) : Reply (α × SystemStore) Unit → Prop where
  | taken {inner : α} {store : SystemStore} {machine : Machine}
      (kept : balanced inner store machine.memory produced (block.others live)) :
      Cleared block ⟨.ok (), (inner, store), machine⟩
  | failed {fault : Fault} {inner : α} {store : SystemStore} {machine : Machine}
      (kept : balanced inner store machine.memory produced live) :
      Cleared block ⟨.error fault, (inner, store), machine⟩

end

end LayeredAllocation
