import Mathlib.Order.Bounds.Defs
import LayeredAllocation.Proofs.Ledger
import LayeredAllocation.Proofs.Tenure

namespace LayeredAllocation

def Platform.Mappable (platform : Platform) : Prop :=
  ∀ attempt roots origin size align base, origin = .pages ∨ origin = .largePages →
    platform.place attempt roots origin size align = some base → base + size ≤ Pages.addressLimit

theorem Memory.returned_of_obtain {memory after : Memory} {origin : Origin} {size align : Nat}
    {answer : Option Nat} (asked : memory.obtain origin size align = (answer, after)) :
    after.returned = memory.returned := by
  unfold obtain at asked
  split at asked <;> cases asked <;> rfl

namespace Pages

def kind (large : Bool) : Origin := if large then .largePages else .pages

theorem low_of_placed {memory after : Memory} {large : Bool} {capacity align address : Nat}
    (mappable : memory.platform.Mappable)
    (placed : memory.Placed (kind large) capacity align address after) :
    address + capacity ≤ addressLimit := by
  refine mappable _ _ _ _ _ _ ?_ placed.placed
  cases large
  · exact Or.inl rfl
  · exact Or.inr rfl

-- The least whole number of pages, and at least one, that `size` bytes fit into.
def Covers (large : Bool) (size capacity : Nat) : Prop :=
  IsLeast {n | granularity large ∣ n ∧ max size 1 ≤ n} capacity

theorem Covers.positive {large : Bool} {size capacity : Nat} (covers : Covers large size capacity) :
    0 < capacity := by
  have above : max size 1 ≤ capacity := covers.1.2
  omega

theorem covers_of_capacity? {large : Bool} {size capacity : Nat}
    (rounded : capacity? large size = some capacity) : Covers large size capacity := by
  obtain ⟨positive, rfl, _⟩ := Word.roundUp?_eq_some.1 rounded
  refine ⟨⟨Word.dvd_roundUp _ _, Word.le_roundUp positive⟩, ?_⟩
  rintro n ⟨divides, above⟩
  exact Word.roundUp_le_of_dvd positive divides above

theorem capacity?_eq_none {size : Nat} (large : Bool) (huge : Word.range - pageSize < size) :
    capacity? large size = none := by
  refine Option.eq_none_iff_forall_ne_some.2 fun capacity rounded => ?_
  obtain ⟨_, _, small⟩ := Word.roundUp?_eq_some.1 rounded
  obtain ⟨⟨⟨pages, rfl⟩, above⟩, _⟩ := covers_of_capacity? rounded
  simp only [Word.range, pageSize] at huge small
  cases large with
  | true =>
    have step : granularity true = 2097152 := rfl
    rw [step] at above small
    omega
  | false =>
    have step : granularity false = 4096 := rfl
    rw [step] at above small
    omega

namespace Span
variable {size : Nat} {machine : Machine}

inductive Attempt (large : Bool) (size : Nat) (machine : Machine) : Except String Span × Machine → Prop
  where
  | refused {error : String} {after : Machine} (untouched : machine.memory.Untouched after.memory)
      (why : capacity? large size = none → error = "mapping size overflow") :
      Attempt large size machine (.error error, after)
  | mapped {address capacity : Nat} {after : Machine} (rounded : capacity? large size = some capacity)
      (placed : machine.memory.Placed (kind large) capacity pageSize address after.memory)
      (returned : after.memory.returned = machine.memory.returned) :
      Attempt large size machine (.ok ⟨address, capacity, large⟩, after)

theorem mapKind_attempt (large : Bool) (size : Nat) (machine : Machine) :
    Attempt large size machine (mapKind large size machine) := by
  unfold mapKind map
  cases rounded : capacity? large size with
  | none => exact .refused rfl fun _ => rfl
  | some capacity =>
    dsimp only
    generalize asked : machine.memory.obtain (if large then .largePages else .pages) capacity pageSize =
      reply
    match reply, asked with
    | (none, after), asked =>
      refine .refused (Memory.untouched_of_obtain asked) fun none => ?_
      cases rounded.symm.trans none
    | (some base, after), asked =>
      exact .mapped rounded (Memory.placed_of_obtain asked) (Memory.returned_of_obtain asked)

theorem drop_eq {span : Span} (positive : 0 < span.capacity)
    (low : span.address + span.capacity ≤ addressLimit) (machine : Machine) :
    span.drop machine = machine.giveBack span.address span.capacity := by
  have accepted : ¬ (span.capacity = 0 ∨ addressLimit < Extent.stop ⟨span.address, span.capacity⟩) := by
    simp only [Extent.stop]
    omega
  unfold drop unmap
  simp only [if_neg accepted]
  rfl

theorem drop_elsewhere (span : Span) (machine : Machine) {address : Nat}
    (other : address ≠ span.address) :
    (span.drop machine).memory.liveAt? address = machine.memory.liveAt? address := by
  unfold drop
  rcases unmap_cases ⟨span.address, span.capacity⟩ machine.memory with ⟨e, kept⟩ | given
  · rw [kept]
    rfl
  · rw [given]
    exact Memory.liveAt?_giveBack machine.memory span.capacity other

theorem drop_platform (span : Span) (machine : Machine) :
    (span.drop machine).memory.platform = machine.memory.platform := by
  unfold drop
  rcases unmap_cases ⟨span.address, span.capacity⟩ machine.memory with ⟨e, kept⟩ | given
  · rw [kept]
    rfl
  · rw [given]
    rfl

end Span

end Pages

namespace PageStore
variable {store : PageStore} {prefersLarge : Bool} {size address : Nat} {machine : Machine}
  {memory first : Memory} {past : List Event} {request : Request} {block : Block}

-- What becomes of memory when a span is asked for. There may have been an attempt in vain before.
inductive Spans (store : PageStore) (size : Nat) (machine : Machine) :
    Except String Pages.Span × Machine → Prop where
  | refused {error : String} {after : Machine} (untouched : machine.memory.Untouched after.memory)
      (why : Pages.capacity? false size = none → error = "mapping size overflow") :
      Spans store size machine (.error error, after)
  | mapped {span : Pages.Span} {between : Memory} {after : Machine}
      (untouched : machine.memory.Untouched between)
      (rounded : Pages.capacity? span.large size = some span.capacity)
      (placed : between.Placed (Pages.kind span.large) span.capacity Pages.pageSize span.address
        after.memory)
      (returned : after.memory.returned = machine.memory.returned)
      (large : span.large = true ↔ store.prefersLarge = true ∧
        ∃ huge after, Pages.Span.allocateLarge size machine = (.ok huge, after)) :
      Spans store size machine (.ok span, after)

theorem span_spans (store : PageStore) (size : Nat) (machine : Machine) :
    Spans store size machine (store.span size machine) := by
  unfold span
  split
  · next prefers =>
    unfold Pages.Span.allocateWithFallback
    have huge := Pages.Span.mapKind_attempt true size machine
    change Pages.Span.Attempt true size machine (Pages.Span.allocateLarge size machine) at huge
    generalize tried : Pages.Span.allocateLarge size machine = attempt at huge ⊢
    cases huge with
    | @mapped address capacity after rounded placed returned =>
      exact .mapped (.refl _) rounded placed returned ⟨fun _ => ⟨prefers, _, _, tried⟩, fun _ => rfl⟩
    | @refused error after untouched _ =>
      -- The log has a line more now, which is no part of memory.
      unfold Pages.Span.orRegular
      dsimp only
      generalize logged : after.debug
        ("large pages unavailable (" ++ error ++ "), using regular pages") = left
      have same : left.memory = after.memory := by rw [← logged]; rfl
      have regular := Pages.Span.mapKind_attempt false size left
      change Pages.Span.Attempt false size left (Pages.Span.allocate size left) at regular
      generalize Pages.Span.allocate size left = reply at regular ⊢
      cases regular with
      | refused again why => exact .refused (untouched.trans (same ▸ again)) why
      | mapped rounded placed returned =>
        refine .mapped untouched rounded (same ▸ placed) ?_ ⟨nofun, ?_⟩
        · rw [returned, same, untouched]
        · rintro ⟨_, huge, later, succeeded⟩
          cases tried.symm.trans succeeded
  · next regular =>
    have only := Pages.Span.mapKind_attempt false size machine
    change Pages.Span.Attempt false size machine (Pages.Span.allocate size machine) at only
    generalize Pages.Span.allocate size machine = reply at only ⊢
    cases only with
    | refused untouched why => exact .refused untouched why
    | mapped rounded placed returned =>
      exact .mapped (.refl _) rounded placed returned ⟨nofun, fun both => absurd both.1 regular⟩

theorem total_pieces (store : PageStore) : Extent.total store.pieces = store.total := by
  simp only [Extent.total, pieces, Table.extents, total, Table.values, List.map_map, Function.comp_def]

structure Filed (prefersLarge : Bool) (first : Memory) (past : List Event) (store : PageStore)
    (memory : Memory) : Prop where
  prefers : store.prefersLarge = prefersLarge
  platform : memory.platform = first.platform
  owns : memory.Owns store.pieces
  counted : store.mapped = Counter.ofNat store.total
  listed : store.mappings.Lists
    (fun request mapping => Pages.Covers mapping.large request.size mapping.capacity) past
  placed : ∀ address mapping, store.mappings.find? address = some mapping →
    0 < address ∧ address + mapping.capacity ≤ Word.range ∧ memory.liveAt? address =
      some ⟨⟨address, mapping.capacity⟩, Pages.pageSize, Pages.kind mapping.large, true⟩
  low : first.platform.Mappable → ∀ address mapping, store.mappings.find? address = some mapping →
    address + mapping.capacity ≤ Pages.addressLimit
  balanced : first.platform.Mappable → ∃ made gone, memory.pieces = made ++ first.pieces ∧
    memory.returned = gone ++ first.returned ∧ made.Perm (store.pieces ++ gone)

namespace Filed

theorem start (prefersLarge : Bool) (sound : memory.platform.Sound) :
    Filed prefersLarge memory [] { prefersLarge } memory := by
  refine ⟨rfl, rfl, ⟨sound, by simp [pieces, Table.extents, Table.empty], .nil⟩, rfl, .start, ?_, ?_, ?_⟩
  · exact fun address mapping found => nomatch found
  · exact fun _ address mapping found => nomatch found
  · exact fun _ => ⟨[], [], rfl, rfl, .nil⟩

theorem read (filed : Filed prefersLarge first past store memory) : store.mapped.read = store.total := by
  have bound : Extent.total store.pieces < Word.range := by
    refine Extent.total_lt filed.owns.apart ?_ (by decide)
    intro e member
    obtain ⟨⟨address, mapping⟩, listed, rfl⟩ := List.mem_map.1 member
    obtain ⟨positive, within, _⟩ := filed.placed address mapping (Table.find?_eq_some_iff.2 listed)
    exact ⟨positive, within⟩
  rw [total_pieces] at bound
  rw [filed.counted, Counter.read_ofNat bound]

theorem idle (filed : Filed prefersLarge first past store memory) {event : Event} {after : Memory}
    (same : inHand (event :: past) = inHand past) (untouched : memory.Untouched after) :
    Filed prefersLarge first (event :: past) store after := by
  obtain ⟨prefers, platform, owns, counted, listed, placed, low, balanced⟩ := filed
  rw [untouched]
  exact ⟨prefers, platform, owns.congr rfl rfl, counted, listed.congr same,
    placed, low, balanced⟩

theorem map {span : Pages.Span} {between after : Memory}
    (filed : Filed prefersLarge first past store memory)
    (untouched : memory.Untouched between)
    (rounded : Pages.capacity? span.large request.size = some span.capacity)
    (placed : between.Placed (Pages.kind span.large) span.capacity Pages.pageSize span.address after)
    (returned : after.returned = memory.returned) :
    Filed prefersLarge first
      (⟨.allocate request, .ok (some ⟨span.address, request.size, request.align, .pages⟩)⟩ :: past)
      { store with
        mappings := store.mappings.insert span.address ⟨span.capacity, span.large⟩
        mapped := store.mapped.add span.capacity } after := by
  have covers := Pages.covers_of_capacity? rounded
  have owns : between.Owns store.pieces := filed.owns.congr untouched.platform untouched.roots
  have grown := owns.obtained covers.positive placed
  have absent : store.mappings.find? span.address = none := Table.absent_of_owns grown fun _ => id
  have platform : between.platform = first.platform := untouched.platform.trans filed.platform
  have found (address : Nat) : (store.mappings.insert span.address ⟨span.capacity, span.large⟩).find?
      address = if address = span.address then some ⟨span.capacity, span.large⟩
        else store.mappings.find? address := Table.find?_insert _ _ _ _
  have perm : ((store.mappings.insert span.address ⟨span.capacity, span.large⟩).extents
      MappingRecord.capacity).Perm (⟨span.address, span.capacity⟩ :: store.pieces) :=
    Table.extents_insert_perm MappingRecord.capacity absent ⟨span.capacity, span.large⟩
  obtain ⟨positive, _, within, _⟩ := owns.sound _ _ _ _ _ _ placed.placed
  refine ⟨filed.prefers, placed.platform.trans platform, grown.perm perm.symm, ?_,
    filed.listed.insert absent covers, ?_, ?_, ?_⟩
  · rw [total, Table.sum_values_insert absent, Nat.add_comm, ← Counter.ofNat_add]
    exact congrArg (·.add span.capacity) filed.counted
  · intro address mapping listed
    rw [found] at listed
    rw [placed.liveAt?]
    split at listed
    · next same =>
      cases listed
      subst same
      rw [if_pos rfl]
      exact ⟨positive, within, rfl⟩
    · next other =>
      rw [if_neg other, Memory.liveAt?_congr untouched.roots]
      exact filed.placed address mapping listed
  · intro mappable address mapping listed
    rw [found] at listed
    split at listed
    · next same =>
      cases listed
      rw [same]
      exact Pages.low_of_placed (platform ▸ mappable) placed
    · exact filed.low mappable address mapping listed
  · intro mappable
    obtain ⟨made, gone, pieces, given, balance⟩ := filed.balanced mappable
    refine ⟨⟨span.address, span.capacity⟩ :: made, gone, ?_, returned.trans given, ?_⟩
    · rw [Memory.pieces, placed.roots, List.map_cons, ← Memory.pieces,
        Memory.pieces_congr untouched.roots, pieces, List.cons_append]
    · exact (balance.cons _).trans (perm.symm.append_right gone)

theorem unmap {mapping : MappingRecord} {answer : Option Block}
    (filed : Filed prefersLarge first past store machine.memory)
    (found : store.mappings.find? block.address = some mapping) :
    Filed prefersLarge first (⟨.free block, .ok answer⟩ :: past)
      { store with
        mappings := store.mappings.erase block.address
        mapped := store.mapped.sub mapping.capacity }
      (Pages.Span.drop ⟨block.address, mapping.capacity, mapping.large⟩ machine).memory := by
  have erased (address : Nat) : (store.mappings.erase block.address).find? address =
      if address = block.address then none else store.mappings.find? address :=
    Table.find?_erase _ _ _
  have perm : store.pieces.Perm (⟨block.address, mapping.capacity⟩ ::
      (store.mappings.erase block.address).extents MappingRecord.capacity) :=
    Table.extents_erase_perm found
  have owns := filed.owns.perm perm
  have platform := Pages.Span.drop_platform ⟨block.address, mapping.capacity, mapping.large⟩ machine
  refine ⟨filed.prefers, platform.trans filed.platform, ?_, ?_, filed.listed.erase, ?_, ?_, ?_⟩
  · have last := owns.perm (List.perm_append_singleton _ _).symm
    exact (Pages.Span.drop_owns mapping.large last List.mem_cons_self).sublist
      (List.sublist_append_left _ _)
  · have sum : store.total = mapping.capacity + _ := Table.sum_values_erase found MappingRecord.capacity
    have whole : store.mapped = Counter.ofNat (mapping.capacity + _) :=
      filed.counted.trans (congrArg Counter.ofNat sum)
    rw [whole, Counter.ofNat_sub (Nat.le_add_right _ _), Nat.add_sub_cancel_left]
    rfl
  · intro address other listed
    rw [erased] at listed
    split at listed
    · cases listed
    · next apart =>
      rw [Pages.Span.drop_elsewhere _ machine apart]
      exact filed.placed address other listed
  · intro mappable address other listed
    rw [erased] at listed
    split at listed
    · cases listed
    · exact filed.low mappable address other listed
  · intro mappable
    obtain ⟨made, gone, pieces, given, balance⟩ := filed.balanced mappable
    have low := filed.low mappable block.address mapping found
    have positive := (owns.live _ List.mem_cons_self).1
    rw [Pages.Span.drop_eq positive low]
    refine ⟨made, ⟨block.address, mapping.capacity⟩ :: gone, ?_, ?_, ?_⟩
    · exact (Memory.retire_pieces _ _).trans pieces
    · exact congrArg _ given
    · exact balance.trans ((perm.append_right gone).trans List.perm_middle.symm)

theorem allocate (filed : Filed prefersLarge first past store machine.memory) :
    let reply := PageStore.allocate request store machine
    Filed prefersLarge first (⟨.allocate request, reply.result.map some⟩ :: past) reply.state
      reply.machine.memory := by
  have step : AllocateStep request store machine (PageStore.allocate request store machine) :=
    allocate_step request store machine
  generalize PageStore.allocate request store machine = reply at step ⊢
  have spans := store.span_spans request.size machine
  cases step with
  | unaligned large => exact filed.idle rfl (.refl _)
  | exhausted small spanned =>
    rw [spanned] at spans
    cases spans with
    | refused untouched why => exact filed.idle rfl untouched
  | mapped small spanned =>
    rw [spanned] at spans
    cases spans with
    | mapped untouched rounded placed returned large => exact filed.map untouched rounded placed returned

theorem free (filed : Filed prefersLarge first past store machine.memory) :
    let reply := PageStore.free block store machine
    Filed prefersLarge first (⟨.free block, reply.result.map fun _ => none⟩ :: past) reply.state
      reply.machine.memory := by
  have step : FreeStep block store machine (PageStore.free block store machine) :=
    free_step block store machine
  generalize PageStore.free block store machine = reply at step ⊢
  cases step with
  | foreign cause => exact filed.idle rfl (.refl _)
  | unmapped tag found => exact filed.unmap found

end Filed

structure Maps (request : Request) (store : PageStore) (machine : Machine)
    (reply : Reply PageStore Block) : Prop where
  made : ∀ block, reply.result = .ok block → ∃ mapping,
    block = ⟨block.address, request.size, request.align, .pages⟩ ∧
      reply.state.mappings = store.mappings.insert block.address mapping ∧
      Pages.Covers mapping.large request.size mapping.capacity ∧
      (mapping.large = true ↔ store.prefersLarge = true ∧
        ∃ huge after, Pages.Span.allocateLarge request.size machine = (.ok huge, after))
  failed : ∀ fault, reply.result = .error fault →
    reply.state = store ∧ machine.memory.Untouched reply.machine.memory
  overflow : Word.range - Pages.pageSize < request.size → (∃ fault, reply.result = .error fault) ∧
    (request.align ≤ Pages.pageSize →
      reply.result = .error (.refused (.outOfMemory request.size "mapping size overflow")))

theorem allocate_maps (request : Request) (store : PageStore) (machine : Machine) :
    Maps request store machine (allocate request store machine) := by
  have step : AllocateStep request store machine (allocate request store machine) :=
    allocate_step request store machine
  generalize allocate request store machine = reply at step ⊢
  have spans := store.span_spans request.size machine
  cases step with
  | unaligned large =>
    exact ⟨nofun, fun _ _ => ⟨rfl, .refl _⟩,
      fun _ => ⟨⟨_, rfl⟩, fun small => absurd small (Nat.not_le_of_lt large)⟩⟩
  | exhausted small spanned =>
    rw [spanned] at spans
    cases spans with
    | refused untouched why =>
      refine ⟨nofun, fun _ _ => ⟨rfl, untouched⟩, fun huge => ⟨⟨_, rfl⟩, fun _ => ?_⟩⟩
      rw [why (Pages.capacity?_eq_none false huge)]
  | @mapped span after small spanned =>
    rw [spanned] at spans
    cases spans with
    | mapped untouched rounded placed returned large =>
      refine ⟨?_, nofun, fun huge => ?_⟩
      · rintro _ ⟨⟩
        exact ⟨⟨span.capacity, span.large⟩, rfl, rfl, Pages.covers_of_capacity? rounded, large⟩
      · cases rounded.symm.trans (Pages.capacity?_eq_none span.large huge)

-- What comes of a block that is brought. What it claims about its size is not looked at.
structure Unmaps (past : List Event) (block : Block) (store : PageStore) (machine : Machine)
    (reply : Reply PageStore Unit) : Prop where
  taken : block.tag = .pages → ∀ g ∈ inHand past, g.block.address = block.address →
    ∃ mapping, store.mappings.find? block.address = some mapping ∧
      Pages.Covers mapping.large g.request.size mapping.capacity ∧
      machine.memory.liveAt? block.address =
        some ⟨⟨block.address, mapping.capacity⟩, Pages.pageSize, Pages.kind mapping.large, true⟩ ∧
      reply.result = .ok () ∧
      reply.machine = Pages.Span.drop ⟨block.address, mapping.capacity, mapping.large⟩ machine ∧
      (machine.memory.platform.Mappable →
        reply.machine = machine.giveBack block.address mapping.capacity)
  refused : (block.tag ≠ .pages ∨ ∀ g ∈ inHand past, g.block.address ≠ block.address) →
    reply = .refuse (.foreignBlock name block.address) store machine

theorem Filed.unmaps (filed : Filed prefersLarge first past store machine.memory) (block : Block) :
    Unmaps past block store machine (PageStore.free block store machine) := by
  have step : FreeStep block store machine (PageStore.free block store machine) :=
    free_step block store machine
  generalize PageStore.free block store machine = reply at step ⊢
  cases step with
  | foreign cause =>
    refine ⟨fun tag g member here => ?_, fun _ => rfl⟩
    have absent := cause.resolve_left (not_not_intro tag)
    exact absurd here (filed.listed.find?_eq_none.1 absent g member)
  | @unmapped mapping tag found =>
    refine ⟨fun _ g member here => ?_, fun cause => ?_⟩
    · obtain ⟨_, listed, covers⟩ := filed.listed.held g member
      cases found.symm.trans (here ▸ listed)
      refine ⟨mapping, found, covers, (filed.placed _ _ found).2.2, rfl, rfl, fun mappable => ?_⟩
      exact Pages.Span.drop_eq covers.positive (filed.low (filed.platform ▸ mappable) _ _ found) machine
    · have nobody := cause.resolve_left (not_not_intro tag)
      cases found.symm.trans (filed.listed.find?_eq_none.2 nobody)

end PageStore

namespace Bottom
variable {prefersLarge : Bool} {origin machine : Machine} {past : List Event} {state : Bottom}

theorem run_filed (sound : origin.memory.platform.Sound)
    (run : Run perform (fun _ _ _ => True) (.pages { prefersLarge }) origin past state machine) :
    ∃ store, state = .pages store ∧
      PageStore.Filed prefersLarge origin.memory past store machine.memory := by
  induction run with
  | start => exact ⟨_, rfl, .start prefersLarge sound⟩
  | @call past call state machine run _ ih =>
    obtain ⟨store, rfl, filed⟩ := ih
    cases call with
    | allocate request => exact ⟨_, rfl, filed.allocate⟩
    | free block => exact ⟨_, rfl, filed.free⟩
    | trim | dispose => exact ⟨store, rfl, filed.idle rfl (.refl _)⟩

-- A page store after any calls, with large pages preferred or not, on a platform that may fail at any
-- time. Of all that was ever mapped the store has what was not unmapped, and nothing was unmapped twice.
theorem mappings_balance (sound : origin.memory.platform.Sound)
    (run : Run perform (fun _ _ _ => True) (.pages { prefersLarge }) origin past state machine) :
    ∃ store, state = .pages store ∧ store.prefersLarge = prefersLarge ∧
      store.mapped.read = store.total ∧
      (∀ address mapping, store.mappings.find? address = some mapping →
        ∃ g ∈ inHand past, g.block.address = address ∧
          Pages.Covers mapping.large g.request.size mapping.capacity) ∧
      (∀ request, PageStore.Maps request store machine (PageStore.allocate request store machine)) ∧
      (∀ block, PageStore.Unmaps past block store machine (PageStore.free block store machine)) ∧
      (origin.memory.platform.Mappable → ∃ made gone,
        machine.memory.pieces = made ++ origin.memory.pieces ∧
          machine.memory.returned = gone ++ origin.memory.returned ∧
          made.Perm (store.pieces ++ gone)) := by
  obtain ⟨store, rfl, filed⟩ := run_filed sound run
  exact ⟨store, rfl, filed.prefers, filed.read, fun _ _ => filed.listed.find?_eq_some,
    fun request => store.allocate_maps request machine, filed.unmaps, filed.balanced⟩

def hugeOnce : Platform where
  place attempt roots origin size align :=
    if 3 ≤ attempt then none
    else
      (Platform.ascending.place attempt roots (if attempt = 0 then .pages else origin) size align).filter
        fun base => base + size ≤ Pages.addressLimit

theorem hugeOnce_place {attempt size align base : Nat} {roots : List Root} {origin : Origin}
    (placed : hugeOnce.place attempt roots origin size align = some base) :
    (∃ kind, Platform.ascending.place attempt roots kind size align = some base) ∧
      base + size ≤ Pages.addressLimit := by
  unfold hugeOnce at placed
  dsimp only at placed
  split at placed
  · cases placed
  · obtain ⟨placed, low⟩ := Option.filter_eq_some_iff.1 placed
    exact ⟨⟨_, placed⟩, of_decide_eq_true low⟩

theorem hugeOnce_sound : hugeOnce.Sound := by
  intro attempt roots origin size align base placed
  obtain ⟨⟨kind, placed⟩, _⟩ := hugeOnce_place placed
  exact Platform.ascending_sound _ _ _ _ _ _ placed

theorem hugeOnce_mappable : hugeOnce.Mappable := by
  intro attempt roots origin size align base _ placed
  exact (hugeOnce_place placed).2

-- The first mapping has large pages, the second one has not, and there is no third. The first block
-- comes back as something smaller, and then once more.
def bothKinds : List Event × Bottom × Machine :=
  played perform (.pages { prefersLarge := true }) ⟨{ platform := hugeOnce }, []⟩
    [.free ⟨0x4000_0000_0000, 5000, 8, .pages⟩, .free ⟨0x4000_0000_0000, 1, 1, .pages⟩,
      .allocate ⟨5000, 8, false, 1, 5000, Site.internal⟩, .allocate ⟨5000, 8, false, 1, 5000, Site.internal⟩,
      .allocate ⟨5000, 8, false, 1, 5000, Site.internal⟩]

theorem mappings_balance_bothKinds :
    ∃ store, bothKinds.2.1 = .pages store ∧ store.mapped.read = 8192 ∧
      bothKinds.2.2.memory.returned = [⟨0x4000_0000_0000, 2 * 1024 * 1024⟩] ∧
      (∃ made gone, bothKinds.2.2.memory.pieces = made ++ [] ∧
        bothKinds.2.2.memory.returned = gone ++ [] ∧ made.Perm (store.pieces ++ gone)) ∧
      (PageStore.allocate ⟨Word.range - 4095, 8, false, 1, Word.range - 4095, Site.internal⟩ store
        bothKinds.2.2).result =
          .error (.refused (.outOfMemory (Word.range - 4095) "mapping size overflow")) := by
  have run : Run perform (fun _ _ _ => True) (.pages { prefersLarge := true })
      ⟨{ platform := hugeOnce }, []⟩ bothKinds.1 bothKinds.2.1 bothKinds.2.2 :=
    .played ⟨⟨⟨⟨⟨trivial, trivial⟩, trivial⟩, trivial⟩, trivial⟩, trivial⟩
  have total : bothKinds.2.1.total = 8192 := by decide +kernel
  obtain ⟨store, same, _, read, _, maps, _, balance⟩ := mappings_balance hugeOnce_sound run
  rw [same, Bottom.total] at total
  refine ⟨store, same, read.trans total, by decide +kernel, balance hugeOnce_mappable, ?_⟩
  exact ((maps _).overflow (by decide)).2 (by decide)

end Bottom

end LayeredAllocation
