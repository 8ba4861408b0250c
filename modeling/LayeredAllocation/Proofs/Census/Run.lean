import LayeredAllocation.Proofs.Census
import LayeredAllocation.Proofs.Contract.Stack
import LayeredAllocation.Proofs.Steps.Slab

namespace LayeredAllocation

namespace Slab
variable {slab : Slab} {config : SlabConfig} {index : Nat} {sizeClass : SizeClass}

structure Orderly (slab : Slab) (config : SlabConfig) : Prop where
  same : slab.config = config
  sizes : slab.slotSizes = config.classes
  running : slab.interrupted = false
  census : slab.Census

namespace Orderly

theorem make (owner : Nat) (config : SlabConfig) : Orderly (.make owner config) config := by
  refine ⟨rfl, ?_, rfl, .make owner config⟩
  simp [slotSizes, Slab.make, Function.comp_def]

theorem withHeld (orderly : slab.Orderly config) (held : Counter) :
    Orderly { slab with held } config :=
  ⟨orderly.same, orderly.sizes, orderly.running, orderly.census.congr rfl rfl rfl⟩

theorem takeSlot {request : Request} {block : Block} {after : Slab} (orderly : slab.Orderly config)
    (taken : slab.takeSlot? index request = some (block, after)) : after.Orderly config := by
  obtain ⟨_, _, _, _, _, _, _, _, change⟩ := takeSlot?_eq_some taken
  refine ⟨change.config.trans orderly.same, change.sizes.trans orderly.sizes, ?_,
    orderly.census.takeSlot taken⟩
  obtain ⟨_, _, _, _, _, _, _, _, rfl⟩ := takeSlot?_parts taken
  exact orderly.running

theorem freeSlot {address : Nat} {slot : Slot} {after : Slab} (orderly : slab.Orderly config)
    (accepted : slab.freeSlot address index slot = .ok after) : after.Orderly config := by
  obtain ⟨_, _, _, _, _, _, _, change⟩ := freeSlot_ok accepted
  refine ⟨change.config.trans orderly.same, change.sizes.trans orderly.sizes, ?_,
    orderly.census.freeSlot accepted⟩
  obtain ⟨_, _, _, _, _, _, _, _, rfl⟩ := freeSlot_parts accepted
  exact orderly.running

theorem withPage (orderly : slab.Orderly config) (classed : slab.classes[index]? = some sizeClass)
    (few : slab.pages.length < 0x1_0000_0000)
    (usable : 0 < slab.config.slotsPerPage sizeClass.slotSize) (page : Block) :
    (slab.withPage index sizeClass page).Orderly config := by
  refine ⟨orderly.same, ?_, orderly.running, ?_⟩
  · rw [← orderly.sizes]
    exact slotSizes_adopt classed (slab.newPage index sizeClass page) _
  · exact (orderly.withHeld (slab.held.add page.size)).census.adopt classed few usable rfl

variable {below : Source σ} {s : σ} {machine : Machine}

theorem allocate {request : Request} (orderly : slab.Orderly config)
    (usable : ∀ slotSize ∈ config.classes, 0 < config.slotsPerPage slotSize)
    (few : slab.pages.length < 0x1_0000_0000) :
    (Slab.allocate below request (slab, s) machine).state.1.Orderly config := by
  have step := allocate_step below request slab s machine
  generalize Slab.allocate below request (slab, s) machine = reply at step ⊢
  have slots : ∀ {index : Nat} {sizeClass : SizeClass}, slab.classes[index]? = some sizeClass →
      0 < slab.config.slotsPerPage sizeClass.slotSize := by
    intro index sizeClass classed
    have sized := slotSizes_of_class classed
    rw [orderly.sizes] at sized
    rw [orderly.same]
    exact usable _ (List.mem_of_getElem? sized)
  cases step with
  | passed large answer => exact orderly.withHeld _
  | passFailed large answer => exact orderly
  | took fits running taken => exact orderly.takeSlot taken
  | grew grows asked answer usable =>
    exact orderly.withPage grows.classed few (slots grows.classed) _
  | growFailed grows asked answer => exact orderly
  | burst grows asked answer unusable =>
    -- A page that has slots has a first one.
    rw [Bitmap.covers_forSlots (slots grows.classed)] at unusable
    cases unusable
  | unaskable grows asked => exact orderly
  | stuck fits cause => exact orderly

theorem free {block : Block} (orderly : slab.Orderly config) :
    (Slab.free below block (slab, s) machine).state.1.Orderly config := by
  have step := free_step below block slab s machine
  generalize Slab.free below block (slab, s) machine = reply at step ⊢
  cases step with
  | foreign tag other => exact orderly
  | interrupted tag interrupted => exact orderly
  | put tag running accepted => exact orderly.freeSlot accepted
  | refused tag running rejected => exact orderly
  | passed unsliced answer => exact orderly.withHeld _
  | passFailed unsliced answer => exact orderly

end Orderly

structure Accounted (slab : Slab) (index : Nat) (sizeClass : SizeClass) : Prop where
  sides : ∀ number page s, slab.pages[number]? = some page → page.sizeClass = index →
    s < slab.config.slotsPerPage sizeClass.slotSize →
    (sizeClass.free.toList.count ⟨number, s⟩ = 1 ∧ page.taken.has s = false) ∨
    (⟨number, s⟩ ∉ sizeClass.free.toList ∧ page.taken.has s = true)
  only : ∀ slot ∈ sizeClass.free.toList, ∃ page, slab.pages[slot.page]? = some page ∧
    page.sizeClass = index ∧ slot.slot < slab.config.slotsPerPage sizeClass.slotSize
  live : sizeClass.live =
    ((slab.pages.filter (·.sizeClass = index)).map (·.taken.population)).sum
  pages : sizeClass.pages = (slab.pages.filter (·.sizeClass = index)).length
  total : sizeClass.live + sizeClass.free.length =
    sizeClass.pages * slab.config.slotsPerPage sizeClass.slotSize

theorem Census.accounted (census : slab.Census) (classed : slab.classes[index]? = some sizeClass) :
    slab.Accounted index sizeClass := by
  have list := freeSlots_of_class classed
  obtain ⟨live, pages, total⟩ := census.counted index sizeClass classed
  refine ⟨?_, ?_, live, pages, ?_⟩
  · intro number page s listed own numbered
    have cut : slab.Cut ⟨number, s⟩ page.block index sizeClass.slotSize :=
      ⟨own ▸ layout_of_page listed, slotSizes_of_class classed, numbered⟩
    have free := census.free index ⟨number, s⟩
    rw [list, taken_of_page listed] at free
    cases bit : page.taken.has s with
    | false =>
      have member := free.2 ⟨bit, _, _, cut⟩
      exact Or.inl ⟨List.count_eq_one_of_mem (list ▸ census.distinct index) member, rfl⟩
    | true =>
      refine Or.inr ⟨fun member => ?_, rfl⟩
      rw [bit] at free
      cases (free.1 member).1
  · intro slot member
    obtain ⟨_, block, slotSize, cut⟩ := (census.free index slot).1 (list ▸ member)
    cases cut.sized.symm.trans (slotSizes_of_class classed)
    have listed := cut.listed
    rw [layout, List.getElem?_map] at listed
    obtain ⟨page, listed, same⟩ := Option.map_eq_some_iff.1 listed
    exact ⟨page, listed, (Prod.mk.inj same).2, cut.numbered⟩
  · rw [← FreeList.length_toList]
    exact total

end Slab

namespace Layer
variable {below : Source σ} {config : SlabConfig} {state : Layer × σ} {machine : Machine}

-- A client that does whatever it likes while the numbers for pages last.
def Numbered : Rule (Layer × σ) := fun _ state call =>
  match call with
  | .allocate _ => HasRoom (fun _ => True) state
  | .free _ | .trim | .dispose => True

theorem perform_orderly {call : Call} {past : List Event} {slab : Slab} {s : σ}
    (orderly : slab.Orderly config)
    (usable : ∀ slotSize ∈ config.classes, 0 < config.slotsPerPage slotSize)
    (numbered : Numbered past (.slab slab, s) call) :
    ∃ after, (perform below call (.slab slab, s) machine).state.1 = .slab after ∧
      after.Orderly config := by
  cases call with
  | allocate request => exact ⟨_, rfl, orderly.allocate usable numbered.1⟩
  | free block => exact ⟨_, rfl, orderly.free⟩
  | trim => exact ⟨slab, rfl, orderly⟩
  | dispose => exact ⟨slab, rfl, orderly⟩

theorem run_orderly {start : σ} {origin : Machine} {past : List Event} {owner : Nat}
    (usable : ∀ slotSize ∈ config.classes, 0 < config.slotsPerPage slotSize)
    (run : Run (perform below) Numbered (.slab (.make owner config), start) origin past state
      machine) : ∃ slab, state.1 = .slab slab ∧ slab.Orderly config := by
  induction run with
  | start => exact ⟨_, rfl, .make owner config⟩
  | @call past call state machine run numbered ih =>
    obtain ⟨layer, s⟩ := state
    obtain ⟨slab, rfl, orderly⟩ := ih
    exact perform_orderly orderly usable numbered

-- Whatever the clients of a slab do and whatever the source beneath answers.
theorem slots_accounted {start : σ} {origin : Machine} {past : List Event} {owner : Nat}
    (accepted : config.validate = .ok ())
    (few : ∀ slotSize ∈ config.classes, config.pageSize / slotSize < 0x1_0000_0000)
    (run : Run (perform below) Numbered (.slab (.make owner config), start) origin past state
      machine) :
    ∃ slab, state.1 = .slab slab ∧ slab.config = config ∧ slab.interrupted = false ∧
      slab.classes.map SizeClass.slotSize = config.classes ∧
      ∀ index sizeClass, slab.classes[index]? = some sizeClass →
        slab.Accounted index sizeClass := by
  obtain ⟨slab, rest, orderly⟩ := run_orderly (Slab.usable_of_valid accepted few) run
  refine ⟨slab, rest, orderly.same, orderly.running, orderly.sizes, ?_⟩
  intro index sizeClass classed
  exact orderly.census.accounted classed

-- Two classes with a page each. One of the slots comes back twice.
def twoPages : List Event × (Layer × SystemStore) × Machine :=
  played (perform SystemStore.source) (.slab (.make 1 ⟨[16, 32], 64⟩), {})
    ⟨{ platform := .ascending }, []⟩
    [.free ⟨0x4000_0000_0000, 16, 8, .slab 1 0 0 0⟩, .free ⟨0x4000_0000_0000, 16, 8, .slab 1 0 0 0⟩,
      .allocate ⟨20, 8, false, 1, 20, Site.internal⟩, .allocate ⟨16, 8, false, 1, 16, Site.internal⟩,
      .allocate ⟨16, 8, false, 1, 16, Site.internal⟩]

theorem slots_accounted_twoPages :
    ∃ slab, twoPages.2.1.1 = .slab slab ∧ slab.config = ⟨[16, 32], 64⟩ ∧ slab.interrupted = false ∧
      slab.classes.map SizeClass.slotSize = [16, 32] ∧
      ∀ index sizeClass, slab.classes[index]? = some sizeClass →
        slab.Accounted index sizeClass := by
  have accepted : SlabConfig.validate ⟨[16, 32], 64⟩ = .ok () := rfl
  refine slots_accounted accepted (by decide) (.played ?_)
  exact ⟨⟨⟨⟨⟨trivial, by decide, trivial⟩, by decide +kernel, trivial⟩, by decide +kernel, trivial⟩,
    trivial⟩, trivial⟩

end Layer

end LayeredAllocation
