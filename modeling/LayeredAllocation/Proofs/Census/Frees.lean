import LayeredAllocation.Proofs.Census.Run

namespace LayeredAllocation

def SlabConfig.slotted (config : SlabConfig) (request : Request) : Bool :=
  (config.classFor? (max request.size request.align)).isSome

theorem SlabConfig.slotted_of_fits {config : SlabConfig} {request : Request} {index : Nat}
    (fits : config.classFor? (max request.size request.align) = some index) :
    config.slotted request = true := by
  rw [slotted, fits, Option.isSome_some]

theorem SlabConfig.not_slotted {config : SlabConfig} {request : Request}
    (large : config.classFor? (max request.size request.align) = none) :
    config.slotted request = false := by
  rw [slotted, large, Option.isSome_none]

namespace Slab
variable {σ : Type} {below : Source σ} {slab after : Slab} {request : Request} {block : Block}
  {slot : Slot} {index owner address : Nat} {config : SlabConfig} {past : List Event} {event : Event}
  {s : σ} {machine : Machine}

def slotOf (owner : Nat) (block : Block) : Option Slot :=
  match block.tag with
  | .slab maker _ page slot => if maker = owner then some ⟨page, slot⟩ else none
  | _ => none

theorem slotOf_slab (tag : block.tag = .slab owner index slot.page slot.slot) :
    slotOf owner block = some slot := by
  unfold slotOf
  rw [tag]
  exact if_pos rfl

theorem slotOf_unsliced (unsliced : ∀ owner sizeClass page slot, block.tag ≠ .slab owner sizeClass page slot) :
    slotOf owner block = none := by
  unfold slotOf
  split
  · next tag => exact absurd tag (unsliced _ _ _ _)
  · rfl

-- Whether the newest event on a slot is that it was issued, not that it was put back.
def issuedLast (owner : Nat) (config : SlabConfig) (slot : Slot) : List Event → Bool
  | [] => false
  | ⟨.allocate request, .ok (some block)⟩ :: past =>
    if config.slotted request = true ∧ slotOf owner block = some slot then true
    else issuedLast owner config slot past
  | ⟨.free block, .ok _⟩ :: past =>
    if slotOf owner block = some slot then false else issuedLast owner config slot past
  | _ :: past => issuedLast owner config slot past

def Points (slab : Slab) (address index : Nat) (slot : Slot) : Prop :=
  ∃ page slotSize, slab.Cut slot page index slotSize ∧ page.address + slot.slot * slotSize = address

theorem Change.points {pages : List (Block × Nat)} {free : List Slot} {mark : Bool} {i : Nat}
    {other : Slot} (change : Change slab after pages index free slot mark)
    (points : slab.Points address i other) : after.Points address i other := by
  obtain ⟨page, slotSize, cut, here⟩ := points
  exact ⟨page, slotSize, change.cut cut, here⟩

inductive FreeSlot (slab : Slab) (address index : Nat) (slot : Slot) : Except Error Slab → Prop where
  | put {after : Slab} (points : slab.Points address index slot) (taken : slab.taken slot = true) :
    FreeSlot slab address index slot (.ok after)
  | again (points : slab.Points address index slot) (clear : slab.taken slot = false) :
    FreeSlot slab address index slot (.error (.doubleFree name address))
  | foreign (astray : ¬ slab.Points address index slot) :
    FreeSlot slab address index slot (.error (.foreignBlock name address))

theorem freeSlot_cases (slab : Slab) (address index : Nat) (slot : Slot) :
    FreeSlot slab address index slot (slab.freeSlot address index slot) := by
  unfold freeSlot
  split
  · next unlisted =>
    apply FreeSlot.foreign
    rintro ⟨page, slotSize, cut, _⟩
    have listed := cut.listed
    rw [layout, List.getElem?_map, unlisted] at listed
    cases listed
  · next page listed =>
    have known := layout_of_page listed
    split
    · next unclassed =>
      apply FreeSlot.foreign
      rintro ⟨block, slotSize, cut, _⟩
      cases known.symm.trans cut.listed
      have sized := cut.sized
      rw [slotSizes, List.getElem?_map, unclassed] at sized
      cases sized
    · next sizeClass classed =>
      have size := slotSizes_of_class classed
      split
      · next misplaced =>
        apply FreeSlot.foreign
        rintro ⟨block, slotSize, cut, here⟩
        cases known.symm.trans cut.listed
        cases size.symm.trans cut.sized
        have numbered := cut.numbered
        rcases misplaced with other | behind | elsewhere
        · exact other rfl
        · omega
        · exact elsewhere here
      · next placed =>
        simp only [not_or, Decidable.not_not, Nat.not_le] at placed
        obtain ⟨rfl, numbered, here⟩ := placed
        have points : slab.Points address page.sizeClass slot :=
          ⟨page.block, sizeClass.slotSize, ⟨known, size, numbered⟩, here⟩
        have bit := taken_of_page listed slot.slot
        split
        · next marked => exact .put points (bit.trans marked)
        · next clear => exact .again points (bit.trans (Bool.eq_false_iff.2 clear))

theorem free_of_points (below : Source σ) (s : σ) (machine : Machine) (running : slab.interrupted = false)
    (tag : block.tag = .slab slab.owner index slot.page slot.slot)
    (points : slab.Points block.address index slot) :
    (Slab.free below block (slab, s) machine).result =
      if slab.taken slot then .ok () else .error (.refused (.doubleFree name block.address)) := by
  have cases := freeSlot_cases slab block.address index slot
  unfold Slab.free
  simp only [tag, ne_eq, not_true_eq_false, if_false, running, Bool.false_eq_true]
  generalize slab.freeSlot block.address index slot = outcome at cases ⊢
  cases cases with
  | put _ taken =>
    rw [if_pos taken]
    rfl
  | again _ clear =>
    rw [clear]
    rfl
  | foreign astray => exact absurd points astray

theorem free_of_astray (below : Source σ) (s : σ) (machine : Machine) (running : slab.interrupted = false)
    (tag : block.tag = .slab slab.owner index slot.page slot.slot)
    (astray : ¬ slab.Points block.address index slot) :
    Slab.free below block (slab, s) machine =
      .refuse (.foreignBlock name block.address) (slab, s) machine := by
  have cases := freeSlot_cases slab block.address index slot
  unfold Slab.free
  simp only [tag, ne_eq, not_true_eq_false, if_false, running, Bool.false_eq_true]
  generalize slab.freeSlot block.address index slot = outcome at cases ⊢
  cases cases with
  | put points _ => exact absurd points astray
  | again points _ => exact absurd points astray
  | foreign _ => rfl

theorem free_failed (below : Source σ) (block : Block) (slab : Slab) (s : σ) (machine : Machine)
    (failed : (Slab.free below block (slab, s) machine).result ≠ .ok ()) :
    (Slab.free below block (slab, s) machine).state.1 = slab := by
  have step := free_step below block slab s machine
  generalize Slab.free below block (slab, s) machine = reply at step failed ⊢
  cases step with
  | foreign tag other => rfl
  | interrupted tag interrupted => rfl
  | put tag running accepted => exact absurd rfl failed
  | refused tag running rejected => rfl
  | passed unsliced answer => exact absurd rfl failed
  | passFailed unsliced answer => rfl

structure Aligned (past : List Event) (slab : Slab) : Prop where
  census : slab.Census
  taken : ∀ slot, slab.taken slot = issuedLast slab.owner slab.config slot past
  issued : ∀ request block, ⟨.allocate request, .ok (some block)⟩ ∈ past →
    slab.config.slotted request = true → ∃ index slot,
      block.tag = .slab slab.owner index slot.page slot.slot ∧ slab.Points block.address index slot

namespace Aligned

theorem make (owner : Nat) (config : SlabConfig) : Aligned [] (.make owner config) := by
  refine ⟨.make owner config, fun slot => rfl, ?_⟩
  intro request block absent
  cases absent

theorem withHeld (aligned : Aligned past slab) (held : Counter) : Aligned past { slab with held } := by
  refine ⟨aligned.census.congr rfl rfl rfl, aligned.taken, ?_⟩
  intro request block member slotted
  obtain ⟨index, slot, tag, page, slotSize, cut, here⟩ := aligned.issued request block member slotted
  exact ⟨index, slot, tag, page, slotSize, cut.congr rfl rfl rfl, here⟩

theorem skip (aligned : Aligned past slab)
    (unchanged : ∀ slot, issuedLast slab.owner slab.config slot (event :: past) =
      issuedLast slab.owner slab.config slot past)
    (other : ∀ request block, event = ⟨.allocate request, .ok (some block)⟩ →
      slab.config.slotted request = false) : Aligned (event :: past) slab := by
  refine ⟨aligned.census, ?_, ?_⟩
  · intro slot
    rw [aligned.taken, unchanged]
  · intro request block member slotted
    rcases List.mem_cons.mp member with new | old
    · rw [other request block new.symm] at slotted
      cases slotted
    · exact aligned.issued request block old slotted

theorem failed (aligned : Aligned past slab) (call : Call) (fault : Fault) :
    Aligned (⟨call, .error fault⟩ :: past) slab := by
  apply aligned.skip
  · intro slot
    cases call <;> rfl
  · intro request block same
    cases same

theorem issue {pages : List (Block × Nat)} {free : List Slot} (aligned : Aligned past slab)
    (census : after.Census) (change : Change slab after pages index free slot true)
    (slotted : slab.config.slotted request = true)
    (tag : block.tag = .slab slab.owner index slot.page slot.slot)
    (points : after.Points block.address index slot) :
    Aligned (⟨.allocate request, .ok (some block)⟩ :: past) after := by
  refine ⟨census, ?_, ?_⟩
  · intro other
    rw [change.taken, change.owner, change.config, issuedLast, slotOf_slab tag, aligned.taken]
    by_cases same : other = slot
    · rw [if_pos same, if_pos ⟨slotted, congrArg some same.symm⟩]
    · rw [if_neg same, if_neg fun both => same (Option.some.inj both.2).symm]
  · intro request' issued member slotted'
    rw [change.config] at slotted'
    rw [change.owner]
    rcases List.mem_cons.mp member with new | old
    · cases new
      exact ⟨index, slot, tag, points⟩
    · obtain ⟨i, other, tag, points⟩ := aligned.issued request' issued old slotted'
      exact ⟨i, other, tag, change.points points⟩

theorem putBack (slot : Slot) {answer : Option Block} (aligned : Aligned past slab)
    (tag : block.tag = .slab slab.owner index slot.page slot.slot)
    (accepted : slab.freeSlot block.address index slot = .ok after) :
    Aligned (⟨.free block, .ok answer⟩ :: past) after := by
  obtain ⟨_, _, _, _, _, _, _, change⟩ := freeSlot_ok accepted
  refine ⟨aligned.census.freeSlot accepted, ?_, ?_⟩
  · intro other
    rw [change.taken, change.owner, change.config, issuedLast, slotOf_slab tag, aligned.taken]
    by_cases same : other = slot
    · rw [if_pos same, if_pos (congrArg some same.symm)]
    · rw [if_neg same, if_neg fun both => same (Option.some.inj both).symm]
  · intro request issued member slotted
    rw [change.config] at slotted
    rw [change.owner]
    rcases List.mem_cons.mp member with new | old
    · cases new
    · obtain ⟨i, other, tag, points⟩ := aligned.issued request issued old slotted
      exact ⟨i, other, tag, change.points points⟩

end Aligned

-- The number of a page has 32 bits, so the slots are told apart while there are no more pages.
structure Tracked (owner : Nat) (config : SlabConfig) (past : List Event) (slab : Slab) : Prop where
  owner : slab.owner = owner
  same : slab.config = config
  sizes : slab.slotSizes = config.classes
  running : slab.interrupted = false
  aligned : slab.pages.length ≤ 0x1_0000_0000 → Aligned past slab

namespace Tracked

theorem make (owner : Nat) (config : SlabConfig) : Tracked owner config [] (.make owner config) := by
  have orderly := Orderly.make owner config
  exact ⟨rfl, orderly.same, orderly.sizes, orderly.running, fun _ => .make owner config⟩

theorem failed (tracked : Tracked owner config past slab) (call : Call) (fault : Fault) :
    Tracked owner config (⟨call, .error fault⟩ :: past) slab := by
  obtain ⟨own, same, sizes, running, aligned⟩ := tracked
  exact ⟨own, same, sizes, running, fun few => (aligned few).failed call fault⟩

theorem passed (tracked : Tracked owner config past slab) (held : Counter)
    (unchanged : ∀ slot, issuedLast owner config slot (event :: past) = issuedLast owner config slot past)
    (other : ∀ request block, event = ⟨.allocate request, .ok (some block)⟩ →
      config.slotted request = false) :
    Tracked owner config (event :: past) { slab with held } := by
  obtain ⟨rfl, rfl, sizes, running, aligned⟩ := tracked
  exact ⟨rfl, rfl, sizes, running, fun few => ((aligned few).withHeld held).skip unchanged other⟩

theorem change {free : List Slot} {mark : Bool} (tracked : Tracked owner config past slab)
    (change : Change slab after [] index free slot mark) (running : after.interrupted = slab.interrupted)
    (step : Aligned past slab → Aligned (event :: past) after) :
    Tracked owner config (event :: past) after := by
  refine ⟨change.owner.trans tracked.owner, change.config.trans tracked.same,
    change.sizes.trans tracked.sizes, running.trans tracked.running, ?_⟩
  intro few
  rw [← length_layout, change.layout, List.append_nil, length_layout] at few
  exact step (tracked.aligned few)

theorem withPage {sizeClass : SizeClass} (tracked : Tracked owner config past slab)
    (fits : slab.config.slotted request = true) (classed : slab.classes[index]? = some sizeClass)
    (usable : 0 < slab.config.slotsPerPage sizeClass.slotSize) (page : Block) :
    Tracked owner config
      (⟨.allocate request, .ok (some (slab.firstBlock index sizeClass page request))⟩ :: past)
      (slab.withPage index sizeClass page) := by
  refine ⟨tracked.owner, tracked.same, ?_, tracked.running, ?_⟩
  · rw [← tracked.sizes]
    exact slotSizes_adopt classed (slab.newPage index sizeClass page) _
  · intro few
    have length : (slab.withPage index sizeClass page).pages.length = slab.pages.length + 1 :=
      List.length_append
    have less : slab.pages.length < 0x1_0000_0000 := by omega
    have aligned := (tracked.aligned (Nat.le_of_lt less)).withHeld (slab.held.add page.size)
    have grown : Grown { slab with held := slab.held.add page.size } (slab.withPage index sizeClass page)
      page index sizeClass.slotSize _ := adopt_grown classed less usable rfl
    have census : (slab.withPage index sizeClass page).Census :=
      aligned.census.adopt classed less usable rfl
    rw [firstBlock_eq, Word.low32, Nat.mod_eq_of_lt less]
    refine aligned.issue census grown.change fits rfl ⟨page, sizeClass.slotSize, grown.newest usable, ?_⟩
    dsimp only
    omega

theorem slots {sizeClass : SizeClass} (tracked : Tracked owner config past slab)
    (usable : ∀ slotSize ∈ config.classes, 0 < config.slotsPerPage slotSize)
    (classed : slab.classes[index]? = some sizeClass) :
    0 < slab.config.slotsPerPage sizeClass.slotSize := by
  have sized := slotSizes_of_class classed
  rw [tracked.sizes] at sized
  rw [tracked.same]
  exact usable _ (List.mem_of_getElem? sized)

theorem allocate (tracked : Tracked owner config past slab)
    (usable : ∀ slotSize ∈ config.classes, 0 < config.slotsPerPage slotSize) :
    let reply := Slab.allocate below request (slab, s) machine
    Tracked owner config (⟨.allocate request, reply.result.map some⟩ :: past) reply.state.1 := by
  have step := allocate_step below request slab s machine
  generalize Slab.allocate below request (slab, s) machine = reply at step ⊢
  cases step with
  | passed large answer =>
    rw [tracked.same] at large
    have unslotted := SlabConfig.not_slotted large
    apply tracked.passed
    · intro slot
      dsimp only [Except.map]
      rw [issuedLast, unslotted]
      exact if_neg fun both => Bool.false_ne_true both.1
    · intro other block new
      cases new
      exact unslotted
  | passFailed large answer => exact tracked.failed _ _
  | @took index block after fits _ taken =>
    obtain ⟨slot, rest, page, slotSize, listed, placed, sized, rfl, change⟩ := takeSlot?_eq_some taken
    apply tracked.change change
    · obtain ⟨_, _, _, _, _, _, _, _, rfl⟩ := takeSlot?_parts taken
      rfl
    · intro aligned
      -- A free slot of the class lies on a page of the class.
      obtain ⟨_, _, _, cut⟩ := (aligned.census.free index slot).1 (listed ▸ List.mem_cons_self)
      cases placed.symm.trans cut.listed
      cases sized.symm.trans cut.sized
      exact aligned.issue (aligned.census.takeSlot taken) change (SlabConfig.slotted_of_fits fits) rfl
        ⟨_, _, change.cut cut, rfl⟩
  | grew grows asked answer _ =>
    exact tracked.withPage (SlabConfig.slotted_of_fits grows.fits) grows.classed
      (tracked.slots usable grows.classed) _
  | growFailed grows asked answer => exact tracked.failed _ _
  | burst grows asked answer unusable =>
    -- A page that has slots has a first one.
    rw [Bitmap.covers_forSlots (tracked.slots usable grows.classed)] at unusable
    cases unusable
  | unaskable grows asked => exact tracked.failed _ _
  | stuck fits cause => exact tracked.failed _ _

theorem free (tracked : Tracked owner config past slab) :
    let reply := Slab.free below block (slab, s) machine
    Tracked owner config (⟨.free block, reply.result.map fun _ => none⟩ :: past) reply.state.1 := by
  have step := free_step below block slab s machine
  generalize Slab.free below block (slab, s) machine = reply at step ⊢
  cases step with
  | foreign tag other => exact tracked.failed _ _
  | interrupted tag interrupted => exact tracked.failed _ _
  | @put index page slot after tag _ accepted =>
    obtain ⟨_, _, _, _, _, _, _, change⟩ := freeSlot_ok accepted
    apply tracked.change change
    · obtain ⟨_, _, _, _, _, _, _, _, rfl⟩ := freeSlot_parts accepted
      rfl
    · intro aligned
      exact aligned.putBack ⟨page, slot⟩ tag accepted
  | refused tag _ rejected => exact tracked.failed _ _
  | passed unsliced answer =>
    apply tracked.passed
    · intro slot
      dsimp only [Except.map]
      rw [issuedLast, slotOf_unsliced unsliced]
      exact if_neg (by simp)
    · intro request block new
      cases new
  | passFailed unsliced answer => exact tracked.failed _ _

theorem idle (tracked : Tracked owner config past slab) {call : Call}
    (asked : call = .trim ∨ call = .dispose) :
    Tracked owner config (⟨call, .ok none⟩ :: past) slab := by
  apply tracked.passed slab.held
  · intro slot
    rcases asked with rfl | rfl <;> rfl
  · intro request block new
    cases new

end Tracked

end Slab

namespace Layer
variable {σ : Type} {below : Source σ} {config : SlabConfig} {state : Layer × σ} {machine : Machine}
  {owner : Nat} {past : List Event}

theorem perform_tracked (below : Source σ) (call : Call) (s : σ) (machine : Machine) {slab : Slab}
    (tracked : slab.Tracked owner config past)
    (usable : ∀ slotSize ∈ config.classes, 0 < config.slotsPerPage slotSize) :
    let reply := perform below call (.slab slab, s) machine
    ∃ after, reply.state.1 = .slab after ∧ after.Tracked owner config (⟨call, reply.result⟩ :: past) := by
  cases call with
  | allocate request => exact ⟨_, rfl, tracked.allocate usable⟩
  | free block => exact ⟨_, rfl, tracked.free⟩
  | trim => exact ⟨slab, rfl, tracked.idle (Or.inl rfl)⟩
  | dispose => exact ⟨slab, rfl, tracked.idle (Or.inr rfl)⟩

theorem run_tracked {start : σ} {origin : Machine}
    (usable : ∀ slotSize ∈ config.classes, 0 < config.slotsPerPage slotSize)
    (run : Run (perform below) (fun _ _ _ => True) (.slab (.make owner config), start) origin past
      state machine) : ∃ slab s, state = (.slab slab, s) ∧ slab.Tracked owner config past := by
  induction run with
  | start => exact ⟨_, start, rfl, .make owner config⟩
  | @call past call state machine run _ ih =>
    obtain ⟨slab, s, rfl, tracked⟩ := ih
    obtain ⟨after, same, tracked⟩ := perform_tracked below call s machine tracked usable
    exact ⟨after, _, Prod.ext same rfl, tracked⟩

-- The answer to every block that comes back to a slab, after any calls and over any source. Numbers
-- of pages have 32 bits and repeat beyond that, which is when a copy may name the slot of another.
theorem frees_exact {start : σ} {origin : Machine} (accepted : config.validate = .ok ())
    (few : ∀ slotSize ∈ config.classes, config.pageSize / slotSize < 0x1_0000_0000)
    (run : Run (perform below) (fun _ _ _ => True) (.slab (.make owner config), start) origin past
      state machine) :
    ∃ slab s, state = (.slab slab, s) ∧
      (slab.pages.length ≤ 0x1_0000_0000 → ∀ request issued,
        ⟨.allocate request, .ok (some issued)⟩ ∈ past → config.slotted request = true →
        ∃ index slot, issued.tag = .slab owner index slot.page slot.slot ∧
          ∀ copy : Block, copy.address = issued.address → copy.tag = issued.tag →
            (Slab.free below copy (slab, s) machine).result =
              if Slab.issuedLast owner config slot past then .ok ()
              else .error (.refused (.doubleFree "slab" copy.address))) ∧
      (∀ block index slot, block.tag = .slab owner index slot.page slot.slot →
        ¬ slab.Points block.address index slot →
        Slab.free below block (slab, s) machine =
          .refuse (.foreignBlock "slab" block.address) (slab, s) machine) ∧
      ∀ block, (Slab.free below block (slab, s) machine).result ≠ .ok () →
        (Slab.free below block (slab, s) machine).state.1 = slab := by
  obtain ⟨slab, s, rfl, tracked⟩ := run_tracked (Slab.usable_of_valid accepted few) run
  obtain ⟨rfl, rfl, _, running, aligned⟩ := tracked
  refine ⟨slab, s, rfl, ?_, ?_, ?_⟩
  · intro numbered request issued member slotted
    have aligned := aligned numbered
    obtain ⟨index, slot, tag, points⟩ := aligned.issued request issued member slotted
    refine ⟨index, slot, tag, ?_⟩
    intro copy place same
    rw [← aligned.taken]
    exact Slab.free_of_points below s machine running (same.trans tag) (place ▸ points)
  · intro block index slot tag astray
    exact Slab.free_of_astray below s machine running tag astray
  · intro block failed
    exact Slab.free_failed below block slab s machine failed

def layout : Layer → List (Block × Nat)
  | .slab inner => inner.layout
  | .arena _ | .pool _ | .hybrid _ | .tracker _ | .probe _ => []

def reusedSlot : List Event × (Layer × SystemStore) × Machine :=
  played (perform SystemStore.source) (.slab (.make 1 ⟨[16, 32], 64⟩), {})
    ⟨{ platform := .ascending }, []⟩
    [.allocate ⟨9, 8, false, 1, 9, Site.internal⟩, .free ⟨0x4000_0000_0000, 16, 8, .slab 1 0 0 0⟩,
      .free ⟨0x4000_0000_0010, 16, 8, .slab 1 0 0 1⟩, .allocate ⟨16, 8, false, 1, 16, Site.internal⟩,
      .allocate ⟨16, 8, false, 1, 16, Site.internal⟩]

theorem frees_exact_reusedSlot :
    ∃ slab s, reusedSlot.2.1 = (.slab slab, s) ∧
      (Slab.free SystemStore.source ⟨0x4000_0000_0000, 16, 8, .slab 1 0 0 0⟩ (slab, s)
        reusedSlot.2.2).result = .ok () ∧
      (Slab.free SystemStore.source ⟨0x4000_0000_0010, 16, 8, .slab 1 0 0 1⟩ (slab, s)
        reusedSlot.2.2).result = .error (.refused (.doubleFree "slab" 0x4000_0000_0010)) ∧
      Slab.free SystemStore.source ⟨0x4000_0000_0010, 16, 8, .slab 1 1 0 1⟩ (slab, s) reusedSlot.2.2 =
        .refuse (.foreignBlock "slab" 0x4000_0000_0010) (slab, s) reusedSlot.2.2 := by
  have accepted : SlabConfig.validate ⟨[16, 32], 64⟩ = .ok () := rfl
  have run : Run (perform SystemStore.source) (fun _ _ _ => True) (.slab (.make 1 ⟨[16, 32], 64⟩), {})
      ⟨{ platform := .ascending }, []⟩ reusedSlot.1 reusedSlot.2.1 reusedSlot.2.2 :=
    .played ⟨⟨⟨⟨⟨trivial, trivial⟩, trivial⟩, trivial⟩, trivial⟩, trivial⟩
  have pages : layout reusedSlot.2.1.1 = [(⟨0x4000_0000_0000, 64, 16, .system⟩, 0)] := by
    decide +kernel
  obtain ⟨slab, s, same, copies, strays, _⟩ := frees_exact accepted (by decide) run
  rw [same] at pages
  dsimp only [layout] at pages
  have numbered : slab.pages.length ≤ 0x1_0000_0000 := by
    rw [← Slab.length_layout, pages]
    decide
  have copies := copies numbered ⟨16, 8, false, 1, 16, Site.internal⟩
  refine ⟨slab, s, same, ?_, ?_, ?_⟩
  · have member : (⟨.allocate ⟨16, 8, false, 1, 16, Site.internal⟩,
        .ok (some ⟨0x4000_0000_0000, 16, 8, .slab 1 0 0 0⟩)⟩ : Event) ∈ reusedSlot.1 :=
      List.mem_of_getElem? (i := 4) rfl
    obtain ⟨index, ⟨page, number⟩, tag, copies⟩ := copies _ member (by decide)
    cases tag
    rw [copies _ rfl rfl]
    decide +kernel
  · have member : (⟨.allocate ⟨16, 8, false, 1, 16, Site.internal⟩,
        .ok (some ⟨0x4000_0000_0010, 16, 8, .slab 1 0 0 1⟩)⟩ : Event) ∈ reusedSlot.1 :=
      List.mem_of_getElem? (i := 3) rfl
    obtain ⟨index, ⟨page, number⟩, tag, copies⟩ := copies _ member (by decide)
    cases tag
    rw [copies _ rfl rfl]
    decide +kernel
  · apply strays _ 1 ⟨0, 1⟩ rfl
    rintro ⟨page, slotSize, cut, _⟩
    have listed := cut.listed
    rw [pages] at listed
    cases listed

end Layer

end LayeredAllocation
