import Mathlib.Algebra.Order.Floor.Div
import LayeredAllocation.Proofs.Census.Capacity
import LayeredAllocation.Proofs.Census.Frees

namespace LayeredAllocation

namespace SlabConfig
variable {config : SlabConfig} {request : Request} {index : Nat}

def Suits (config : SlabConfig) (request : Request) (index : Nat) : Prop :=
  ∃ slotSize, config.classes[index]? = some slotSize ∧ max request.size request.align ≤ slotSize ∧
    ∀ other ∈ config.classes, max request.size request.align ≤ other → slotSize ≤ other

theorem isAscending_pairwise {sizes : List Nat} (ascending : isAscending sizes = true) :
    sizes.Pairwise (· < ·) := by
  rw [← List.isChain_iff_pairwise]
  induction sizes with
  | nil => exact .nil
  | cons first rest ih =>
    cases rest with
    | nil => exact .singleton first
    | cons second rest =>
      simp only [isAscending, Bool.and_eq_true, decide_eq_true_eq] at ascending
      exact .cons_cons ascending.1 (ih ascending.2)

theorem validate_ascending (accepted : config.validate = .ok ()) : config.classes.Pairwise (· < ·) :=
  isAscending_pairwise (validate_eq_ok_iff.1 accepted).ascending

-- Sizes ascend, so the first class that is large enough is the smallest one.
theorem suits_of_fits (accepted : config.validate = .ok ())
    (fits : config.classFor? (max request.size request.align) = some index) :
    config.Suits request index := by
  obtain ⟨inside, large, smaller⟩ := List.findIdx?_eq_some_iff_getElem.1 fits
  refine ⟨_, List.getElem?_eq_getElem inside, of_decide_eq_true large, ?_⟩
  intro other member holds
  obtain ⟨i, listed, rfl⟩ := List.getElem_of_mem member
  by_cases before : i < index
  · exact absurd holds (by simpa using smaller i before)
  · rcases Nat.eq_or_lt_of_le (Nat.le_of_not_lt before) with rfl | behind
    · exact Nat.le_refl _
    · exact Nat.le_of_lt (List.pairwise_iff_getElem.1 (validate_ascending accepted) _ _ _ _ behind)

theorem fits_of_large {slotSize : Nat} (member : slotSize ∈ config.classes)
    (large : max request.size request.align ≤ slotSize) :
    ∃ index, config.classFor? (max request.size request.align) = some index := by
  refine Option.isSome_iff_exists.1 ?_
  rw [classFor?, List.findIdx?_isSome, List.any_eq_true]
  exact ⟨slotSize, member, decide_eq_true large⟩

theorem fits_none (small : ∀ slotSize ∈ config.classes, slotSize < max request.size request.align) :
    config.classFor? (max request.size request.align) = none := by
  rw [classFor?, List.findIdx?_eq_none_iff]
  intro slotSize member
  exact decide_eq_false (Nat.not_le_of_lt (small slotSize member))

end SlabConfig

namespace Slab
variable {slab after : Slab} {owner index i : Nat} {config : SlabConfig} {past : List Event}
  {event : Event} {request : Request} {block : Block} {slot : Slot} {sizeClass changed : SizeClass}

def out (owner : Nat) (config : SlabConfig) (index : Nat) : List Event → List Slot
  | [] => []
  | ⟨.allocate request, .ok (some block)⟩ :: past =>
    if config.classFor? (max request.size request.align) = some index then
      (slotOf owner block).toList ++ out owner config index past
    else out owner config index past
  | ⟨.free block, .ok _⟩ :: past =>
    (out owner config index past).filter fun slot => slotOf owner block ≠ some slot
  | _ :: past => out owner config index past

def peak (owner : Nat) (config : SlabConfig) (index : Nat) : List Event → Nat
  | [] => 0
  | event :: past =>
    max (peak owner config index past) (out owner config index (event :: past)).length

theorem out_le_peak (owner : Nat) (config : SlabConfig) (index : Nat) (past : List Event) :
    (out owner config index past).length ≤ peak owner config index past := by
  cases past with
  | nil => exact Nat.le_refl 0
  | cons event past => exact Nat.le_max_right _ _

theorem out_failed (call : Call) (fault : Fault) :
    out owner config index (⟨call, .error fault⟩ :: past) = out owner config index past := by
  cases call <;> rfl

theorem out_issue (slots : slotOf owner block = some slot)
    (fits : config.classFor? (max request.size request.align) = some index) :
    out owner config i (⟨.allocate request, .ok (some block)⟩ :: past) =
      if i = index then slot :: out owner config i past else out owner config i past := by
  rw [out, fits, slots]
  by_cases same : i = index
  · rw [if_pos same, if_pos (congrArg some same.symm)]
    rfl
  · rw [if_neg same, if_neg fun equal => same (Option.some.inj equal).symm]

theorem out_large (large : config.classFor? (max request.size request.align) = none) :
    out owner config index (⟨.allocate request, .ok (some block)⟩ :: past) =
      out owner config index past := by
  rw [out, large]
  exact if_neg (by simp)

theorem out_putBack {answer : Option Block} (slots : slotOf owner block = some slot) :
    out owner config index (⟨.free block, .ok answer⟩ :: past) =
      (out owner config index past).filter (· ≠ slot) := by
  rw [out]
  refine List.filter_congr fun other _ => ?_
  rw [slots]
  simp [eq_comm]

theorem out_unsliced {answer : Option Block} (none : slotOf owner block = none) :
    out owner config index (⟨.free block, .ok answer⟩ :: past) = out owner config index past := by
  rw [out, none]
  exact List.filter_eq_self.2 (by simp)

def Occupied (slab : Slab) (index : Nat) (slot : Slot) : Prop :=
  slab.taken slot = true ∧ ∃ page, slab.layout[slot.page]? = some (page, index)

theorem Change.occupied_iff {pages : List (Block × Nat)} {free : List Slot} {mark : Bool} {page : Block}
    (change : Change slab after pages index free slot mark) (census : slab.Census)
    (listed : after.layout[slot.page]? = some (page, index)) (i : Nat) (other : Slot) :
    after.Occupied i other ↔
      if other = slot then mark = true ∧ i = index else slab.Occupied i other := by
  unfold Occupied
  rw [change.taken]
  by_cases same : other = slot
  · subst same
    rw [if_pos rfl, if_pos rfl, listed]
    simp [eq_comm]
  · rw [if_neg same, if_neg same]
    refine and_congr_right fun taken => ?_
    -- What was taken lies on a page that was there before.
    obtain ⟨j, old, slotSize, cut⟩ := census.taken other taken
    rw [change.layout, List.getElem?_append_left (List.getElem?_eq_some_iff.1 cut.listed).1]

structure Paced (past : List Event) (slab : Slab) (index : Nat) (sizeClass : SizeClass) : Prop where
  distinct : (out slab.owner slab.config index past).Nodup
  occupied : ∀ slot, slot ∈ out slab.owner slab.config index past ↔ slab.Occupied index slot
  live : sizeClass.live = (out slab.owner slab.config index past).length
  pages : sizeClass.pages =
    peak slab.owner slab.config index past ⌈/⌉ slab.config.slotsPerPage sizeClass.slotSize

-- One more slot of a class is taken. Only if none was free, there is one more page.
structure Issues (slab after : Slab) (index : Nat) (slot : Slot) (sizeClass changed : SizeClass) :
    Prop where
  owner : after.owner = slab.owner
  config : after.config = slab.config
  classed : slab.classes[index]? = some sizeClass
  classes : after.classes = slab.classes.set index changed
  size : changed.slotSize = sizeClass.slotSize
  live : changed.live = sizeClass.live + 1
  pages : changed.pages = sizeClass.pages + if slab.freeSlots index = [] then 1 else 0
  clear : slab.taken slot = false
  occupied : ∀ i other, after.Occupied i other ↔
    if other = slot then i = index else slab.Occupied i other
  others : ∀ i ≠ index, after.pagesOf i = slab.pagesOf i

structure Undisturbed (slab after : Slab) (index : Nat) : Prop where
  counts : after.classes[index]? = slab.classes[index]?
  pages : after.pagesOf index = slab.pagesOf index

theorem Issues.undisturbed (issues : slab.Issues after index slot sizeClass changed) (other : i ≠ index) :
    slab.Undisturbed after i := by
  refine ⟨?_, issues.others i other⟩
  rw [issues.classes, List.getElem?_set_ne (Ne.symm other)]

theorem Swap.undisturbed {mark : Bool} {page marked : SlabPage}
    (swap : slab.Swap index slot mark sizeClass changed page marked) (other : i ≠ index) :
    slab.Undisturbed (slab.swapped index slot changed marked) i :=
  ⟨List.getElem?_set_ne (Ne.symm other), swap.pagesOf_other other⟩

structure Cuts (slab after : Slab) (request : Request) (index : Nat) (block : Block) (slot : Slot)
    (sizeClass changed : SizeClass) : Prop where
  issues : slab.Issues after index slot sizeClass changed
  cut : ∃ page, after.Cut slot page index sizeClass.slotSize ∧
    block = ⟨page.address + slot.slot * sizeClass.slotSize, request.size, request.align,
      .slab slab.owner index slot.page slot.slot⟩

theorem Cuts.slots (cuts : slab.Cuts after request index block slot sizeClass changed) :
    slotOf slab.owner block = some slot := by
  obtain ⟨page, _, rfl⟩ := cuts.cut
  exact slotOf_slab rfl

theorem Census.takes (census : slab.Census)
    (taken : slab.takeSlot? index request = some (block, after)) :
    ∃ slot sizeClass changed, slab.Cuts after request index block slot sizeClass changed := by
  obtain ⟨sizeClass, slot, rest, page, known, rfl, cut, swap, rfl⟩ := census.taking taken
  have change := swap.change
  have cut' := change.cut cut
  refine ⟨slot, sizeClass, { sizeClass with free := rest, live := sizeClass.live + 1 }, ?_,
    page.block, cut', ?_⟩
  · refine ⟨rfl, rfl, swap.classed, rfl, rfl, rfl, ?_, ?_, ?_, fun i => swap.pagesOf_other⟩
    · rw [known, if_neg (List.cons_ne_nil _ _)]
      rfl
    · exact ((census.free index slot).1 (known ▸ List.mem_cons_self)).1
    · intro i other
      rw [change.occupied_iff census cut'.listed]
      simp
  · rw [slotBlock, swap.own]

-- A slot that is free lies on a page that is listed, so it would have been taken.
theorem Census.full (census : slab.Census) (grows : slab.Grows request index sizeClass) :
    slab.freeSlots index = [] := by
  rw [freeSlots_of_class grows.classed]
  cases popped : sizeClass.free.pop? with
  | none => exact FreeList.pop?_eq_none popped
  | some found =>
    obtain ⟨slot, rest⟩ := found
    have member : slot ∈ slab.freeSlots index := by
      rw [freeSlots_of_class grows.classed, FreeList.pop?_eq_some popped]
      exact List.mem_cons_self
    obtain ⟨_, block, slotSize, old⟩ := (census.free index slot).1 member
    have none := grows.full
    unfold takeSlot? at none
    simp only [grows.classed, popped, List.getElem?_eq_getElem old.older] at none
    cases none

theorem Census.adopts (census : slab.Census) (page : Block) (grows : slab.Grows request index sizeClass)
    (few : slab.pages.length < 0x1_0000_0000)
    (usable : 0 < slab.config.slotsPerPage sizeClass.slotSize) :
    ∃ changed, slab.Cuts (slab.withPage index sizeClass page) request index
      (slab.firstBlock index sizeClass page request) ⟨slab.pages.length, 0⟩ sizeClass changed := by
  have counted : Census { slab with held := slab.held.add page.size } := census.congr rfl rfl rfl
  have grown : Grown { slab with held := slab.held.add page.size } (slab.withPage index sizeClass page)
    page index sizeClass.slotSize _ := adopt_grown grows.classed few usable rfl
  have cut := grown.newest usable
  refine ⟨_, ⟨rfl, rfl, grows.classed, rfl, rfl, rfl, ?_, ?_, ?_, ?_⟩, page, cut, ?_⟩
  · rw [census.full grows, if_pos rfl]
  · exact taken_of_no_page (Nat.le_refl _)
  · intro i other
    rw [grown.change.occupied_iff counted cut.listed]
    simp [Occupied, Slab.taken, layout]
  · intro i other
    have foreign : ¬ (slab.newPage index sizeClass page).sizeClass = i := Ne.symm other
    unfold Slab.withPage
    rw [pagesOf_adopt, if_neg foreign, List.append_nil]
    rfl
  · rw [firstBlock_eq, Word.low32, Nat.mod_eq_of_lt few, Nat.zero_mul, Nat.add_zero]

-- The slots of all pages are in use at a peak, and not before.
theorem pages_at_peak {live most pages slots free : Nat} (usable : 0 < slots) (le : live ≤ most)
    (paced : pages = most ⌈/⌉ slots) (total : live + free = pages * slots) :
    pages + (if free = 0 then 1 else 0) = max most (live + 1) ⌈/⌉ slots := by
  have covered : most ≤ slots * pages := (ceilDiv_le_iff_le_mul usable).1 (Nat.le_of_eq paced.symm)
  have wider : pages ≤ max most (live + 1) ⌈/⌉ slots := by
    rw [paced, ceilDiv_le_iff_le_mul usable]
    exact Nat.le_trans (Nat.le_max_left most (live + 1)) ((ceilDiv_le_iff_le_mul usable).1 (Nat.le_refl _))
  rw [Nat.mul_comm] at total
  apply Nat.le_antisymm
  · split
    · next none =>
      refine Nat.lt_of_not_le fun few => ?_
      have bound := (ceilDiv_le_iff_le_mul usable).1 few
      omega
    · exact wider
  · rw [ceilDiv_le_iff_le_mul usable, Nat.mul_add]
    split <;> omega

theorem classes_set_cases {found : SizeClass} (listed : (slab.classes.set index changed)[i]? = some found) :
    (i = index ∧ found = changed) ∨ (i ≠ index ∧ slab.classes[i]? = some found) := by
  rw [List.getElem?_set] at listed
  split at listed
  · next same =>
    split at listed
    · cases listed
      exact Or.inl ⟨same.symm, rfl⟩
    · cases listed
  · next other => exact Or.inr ⟨Ne.symm other, listed⟩

namespace Paced

theorem kept (paced : Paced past slab index sizeClass) (owner : after.owner = slab.owner)
    (config : after.config = slab.config)
    (same : out slab.owner slab.config index (event :: past) = out slab.owner slab.config index past)
    (occupied : ∀ slot ∈ out slab.owner slab.config index past, after.Occupied index slot)
    (only : ∀ slot, after.Occupied index slot → slab.Occupied index slot) :
    Paced (event :: past) after index sizeClass := by
  have peak : peak slab.owner slab.config index (event :: past) =
      peak slab.owner slab.config index past := by
    rw [Slab.peak, same]
    exact Nat.max_eq_left (out_le_peak _ _ _ _)
  refine ⟨?_, ?_, ?_, ?_⟩
  · rw [owner, config, same]
    exact paced.distinct
  · intro slot
    rw [owner, config, same]
    exact ⟨occupied slot, fun there => (paced.occupied slot).2 (only slot there)⟩
  · rw [owner, config, same]
    exact paced.live
  · rw [owner, config, peak]
    exact paced.pages

theorem skip (paced : Paced past slab index sizeClass)
    (same : out slab.owner slab.config index (event :: past) = out slab.owner slab.config index past) :
    Paced (event :: past) slab index sizeClass :=
  paced.kept rfl rfl same (fun slot => (paced.occupied slot).1) fun _ => id

theorem withHeld (paced : Paced past slab index sizeClass) (held : Counter) :
    Paced past { slab with held } index sizeClass :=
  ⟨paced.distinct, paced.occupied, paced.live, paced.pages⟩

-- One more slot is out. There is one more page if the slots of all pages were out before.
theorem issue (paced : Paced past slab index sizeClass) (census : slab.Census)
    (issues : slab.Issues after index slot sizeClass changed)
    (usable : 0 < slab.config.slotsPerPage sizeClass.slotSize)
    (step : out slab.owner slab.config index (event :: past) =
      slot :: out slab.owner slab.config index past) : Paced (event :: past) after index changed := by
  obtain ⟨distinct, occupied, live, pages⟩ := paced
  have absent : slot ∉ out slab.owner slab.config index past := by
    intro member
    have taken := ((occupied slot).1 member).1
    rw [issues.clear] at taken
    cases taken
  refine ⟨?_, ?_, ?_, ?_⟩
  · rw [issues.owner, issues.config, step]
    exact List.nodup_cons.2 ⟨absent, distinct⟩
  · intro other
    rw [issues.owner, issues.config, step, issues.occupied, List.mem_cons, occupied]
    by_cases same : other = slot
    · simp [same]
    · simp [same]
  · rw [issues.owner, issues.config, step, issues.live, live, List.length_cons]
  · have total := (census.counted index sizeClass issues.classed).total
    rw [← freeSlots_of_class issues.classed] at total
    have grown := pages_at_peak usable (out_le_peak slab.owner slab.config index past) pages (live ▸ total)
    rw [issues.owner, issues.config, issues.size, issues.pages, peak, step, List.length_cons, ← grown]
    simp only [List.length_eq_zero_iff]

theorem putBack {free : FreeList} (paced : Paced past slab index sizeClass)
    (owner : after.owner = slab.owner) (config : after.config = slab.config)
    (was : slab.Occupied index slot)
    (still : ∀ other, after.Occupied index other ↔ other ≠ slot ∧ slab.Occupied index other)
    (step : out slab.owner slab.config index (event :: past) =
      (out slab.owner slab.config index past).filter (· ≠ slot)) :
    Paced (event :: past) after index { sizeClass with free, live := sizeClass.live - 1 } := by
  obtain ⟨distinct, occupied, live, pages⟩ := paced
  have removed : out slab.owner slab.config index (event :: past) =
      (out slab.owner slab.config index past).erase slot := by
    rw [step, distinct.erase_eq_filter]
    simp [bne, beq_eq_decide]
  have less := List.length_erase_of_mem ((occupied slot).2 was)
  refine ⟨?_, ?_, ?_, ?_⟩
  · rw [owner, config, removed]
    exact distinct.erase slot
  · intro other
    rw [owner, config, removed, distinct.mem_erase_iff, still, occupied]
  · rw [owner, config, removed, less, ← live]
  · rw [owner, config, peak, removed, less]
    rw [Nat.max_eq_left (Nat.le_trans (Nat.sub_le _ _) (out_le_peak _ _ _ _))]
    exact pages

end Paced

theorem Cuts.paced (cuts : slab.Cuts after request index block slot sizeClass changed)
    (census : slab.Census)
    (paced : ∀ i found, slab.classes[i]? = some found → Paced past slab i found)
    (usable : 0 < slab.config.slotsPerPage sizeClass.slotSize)
    (fits : slab.config.classFor? (max request.size request.align) = some index) :
    ∀ i found, after.classes[i]? = some found →
      Paced (⟨.allocate request, .ok (some block)⟩ :: past) after i found := by
  intro i found listed
  have step : out slab.owner slab.config i (⟨.allocate request, .ok (some block)⟩ :: past) = _ :=
    out_issue cuts.slots fits
  have issues := cuts.issues
  rw [issues.classes] at listed
  rcases classes_set_cases listed with ⟨rfl, rfl⟩ | ⟨other, listed⟩
  · rw [if_pos rfl] at step
    exact (paced i sizeClass issues.classed).issue census issues usable step
  · rw [if_neg other] at step
    refine (paced i found listed).kept issues.owner issues.config step ?_ ?_
    · intro s member
      have there := ((paced i found listed).occupied s).1 member
      rw [issues.occupied, if_neg ?_]
      · exact there
      · rintro rfl
        rw [Occupied, issues.clear] at there
        cases there.1
    · intro s there
      rw [issues.occupied] at there
      split at there
      · exact absurd there other
      · exact there

theorem Census.paced_putBack {answer : Option Block} {address : Nat} (census : slab.Census)
    (paced : ∀ i found, slab.classes[i]? = some found → Paced past slab i found)
    (slots : slotOf slab.owner block = some slot)
    (accepted : slab.freeSlot address index slot = .ok after) :
    ∀ i found, after.classes[i]? = some found →
      Paced (⟨.free block, .ok answer⟩ :: past) after i found := by
  intro i found listed
  obtain ⟨sizeClass, page, cut, taken, swap, rfl⟩ := census.putting accepted
  have change := swap.change
  have still := change.occupied_iff census (change.cut cut).listed
  have was : slab.Occupied index slot := ⟨taken, page.block, cut.listed⟩
  have step : out slab.owner slab.config i (⟨.free block, .ok answer⟩ :: past) = _ := out_putBack slots
  rcases classes_set_cases listed with ⟨rfl, rfl⟩ | ⟨other, before⟩
  · refine (paced i sizeClass swap.classed).putBack change.owner change.config was (fun other => ?_) step
    rw [still]
    by_cases same : other = slot <;> simp [same]
  · have apart : ∀ s ∈ out slab.owner slab.config i past, s ≠ slot := by
      rintro s member rfl
      obtain ⟨_, block, there⟩ := ((paced i found before).occupied s).1 member
      cases there.symm.trans cut.listed
      exact other rfl
    refine (paced i found before).kept change.owner change.config ?_ ?_ ?_
    · rw [step]
      exact List.filter_eq_self.2 fun s member => decide_eq_true (apart s member)
    · intro s member
      rw [still, if_neg (apart s member)]
      exact ((paced i found before).occupied s).1 member
    · intro s there
      rw [still] at there
      split at there
      · cases there.1
      · exact there

theorem Change.length_pages {free : List Slot} {mark : Bool}
    (change : Change slab after [] index free slot mark) : after.pages.length = slab.pages.length := by
  rw [← length_layout, change.layout, List.append_nil, length_layout]

structure Measured (owner : Nat) (config : SlabConfig) (past : List Event) (slab : Slab) : Prop
    extends Tracked owner config past slab where
  paced : slab.pages.length ≤ 0x1_0000_0000 →
    ∀ i found, slab.classes[i]? = some found → Paced past slab i found

section
variable {σ : Type} {below : Source σ} {s : σ} {machine : Machine}

namespace Measured

theorem make (owner : Nat) (config : SlabConfig) : Measured owner config [] (.make owner config) := by
  refine ⟨.make owner config, fun _ i found listed => ?_⟩
  simp only [Slab.make, List.getElem?_map] at listed
  obtain ⟨slotSize, _, rfl⟩ := Option.map_eq_some_iff.1 listed
  refine ⟨List.nodup_nil, fun slot => ?_, rfl, ?_⟩
  · simp [out, Occupied, Slab.taken, Slab.make]
  · exact (zero_ceilDiv _).symm

theorem skip (measured : Measured owner config past slab) {call : Call} {fault : Fault} :
    slab.pages.length ≤ 0x1_0000_0000 → ∀ i found, slab.classes[i]? = some found →
      Paced (⟨call, .error fault⟩ :: past) slab i found :=
  fun few i found listed => (measured.paced few i found listed).skip (out_failed call fault)

theorem allocate (measured : Measured owner config past slab)
    (usable : ∀ slotSize ∈ config.classes, 0 < config.slotsPerPage slotSize) :
    let reply := Slab.allocate below request (slab, s) machine
    Measured owner config (⟨.allocate request, reply.result.map some⟩ :: past) reply.state.1 := by
  refine ⟨measured.toTracked.allocate usable, ?_⟩
  have step := allocate_step below request slab s machine
  generalize Slab.allocate below request (slab, s) machine = reply at step ⊢
  cases step with
  | passed large answer =>
    intro few i found listed
    exact ((measured.paced few i found listed).withHeld _).skip (out_large large)
  | took fits _ taken =>
    intro few
    obtain ⟨_, _, _, _, _, _, _, _, change⟩ := takeSlot?_eq_some taken
    rw [change.length_pages] at few
    have census := (measured.aligned few).census
    obtain ⟨slot, sizeClass, changed, cuts⟩ := census.takes taken
    exact cuts.paced census (measured.paced few) (measured.slots usable cuts.issues.classed) fits
  | @grew index sizeClass _ page _ _ grows asked answer _ =>
    intro few
    have length : (slab.withPage index sizeClass page).pages.length = slab.pages.length + 1 :=
      List.length_append
    have less : slab.pages.length < 0x1_0000_0000 := by
      rw [length] at few
      omega
    have census := (measured.aligned (Nat.le_of_lt less)).census
    have slots := measured.slots usable grows.classed
    obtain ⟨changed, cuts⟩ := census.adopts page grows less slots
    exact cuts.paced census (measured.paced (Nat.le_of_lt less)) slots grows.fits
  | burst grows asked answer unusable =>
    -- A page that has slots has a first one.
    rw [Bitmap.covers_forSlots (measured.slots usable grows.classed)] at unusable
    cases unusable
  | passFailed | growFailed | unaskable | stuck => exact measured.skip

theorem free (measured : Measured owner config past slab) :
    let reply := Slab.free below block (slab, s) machine
    Measured owner config (⟨.free block, reply.result.map fun _ => none⟩ :: past) reply.state.1 := by
  refine ⟨measured.toTracked.free, ?_⟩
  have step := free_step below block slab s machine
  generalize Slab.free below block (slab, s) machine = reply at step ⊢
  cases step with
  | @put index page slot after tag _ accepted =>
    intro few
    obtain ⟨_, _, _, _, _, _, _, change⟩ := freeSlot_ok accepted
    rw [change.length_pages] at few
    have slots : slotOf slab.owner block = some ⟨page, slot⟩ := slotOf_slab tag
    exact (measured.aligned few).census.paced_putBack (measured.paced few) slots accepted
  | passed unsliced answer =>
    intro few i found listed
    exact ((measured.paced few i found listed).withHeld _).skip (out_unsliced (slotOf_unsliced unsliced))
  | foreign | interrupted | refused | passFailed => exact measured.skip

theorem idle (measured : Measured owner config past slab) {call : Call}
    (asked : call = .trim ∨ call = .dispose) :
    Measured owner config (⟨call, .ok none⟩ :: past) slab := by
  refine ⟨measured.toTracked.idle asked, fun few i found listed => ?_⟩
  rcases asked with rfl | rfl <;> exact (measured.paced few i found listed).skip rfl

end Measured

theorem Tracked.allocate_cuts (tracked : Tracked owner config past slab)
    (usable : ∀ slotSize ∈ config.classes, 0 < config.slotsPerPage slotSize)
    (few : slab.pages.length < 0x1_0000_0000)
    (fits : config.classFor? (max request.size request.align) = some index)
    (done : (Slab.allocate below request (slab, s) machine).result = .ok block) :
    ∃ slot sizeClass changed, slab.Cuts (Slab.allocate below request (slab, s) machine).state.1 request
      index block slot sizeClass changed := by
  have step := allocate_step below request slab s machine
  have census := (tracked.aligned (Nat.le_of_lt few)).census
  generalize Slab.allocate below request (slab, s) machine = reply at step done ⊢
  rw [← tracked.same] at fits
  cases step with
  | passed large answer => cases large.symm.trans fits
  | took own _ taken =>
    cases own.symm.trans fits
    cases done
    exact census.takes taken
  | grew grows asked answer _ =>
    cases grows.fits.symm.trans fits
    cases done
    exact ⟨_, _, census.adopts _ grows few (tracked.slots usable grows.classed)⟩
  | passFailed | growFailed | burst | unaskable | stuck => cases done

theorem Tracked.allocate_undisturbed (tracked : Tracked owner config past slab)
    (usable : ∀ slotSize ∈ config.classes, 0 < config.slotsPerPage slotSize)
    (few : slab.pages.length < 0x1_0000_0000)
    (other : config.classFor? (max request.size request.align) ≠ some i) :
    slab.Undisturbed (Slab.allocate below request (slab, s) machine).state.1 i := by
  have step := allocate_step below request slab s machine
  have census := (tracked.aligned (Nat.le_of_lt few)).census
  generalize Slab.allocate below request (slab, s) machine = reply at step ⊢
  rw [← tracked.same] at other
  cases step with
  | took fits _ taken =>
    obtain ⟨slot, sizeClass, changed, cuts⟩ := census.takes taken
    exact cuts.issues.undisturbed fun same => other (fits.trans (congrArg some same.symm))
  | grew grows asked answer _ =>
    obtain ⟨changed, cuts⟩ := census.adopts _ grows few (tracked.slots usable grows.classed)
    exact cuts.issues.undisturbed fun same => other (grows.fits.trans (congrArg some same.symm))
  | passed | passFailed | growFailed | burst | unaskable | stuck => exact ⟨rfl, rfl⟩

theorem Tracked.free_undisturbed (tracked : Tracked owner config past slab)
    (few : slab.pages.length ≤ 0x1_0000_0000)
    (other : ∀ page slot, block.tag ≠ .slab owner i page slot) :
    slab.Undisturbed (Slab.free below block (slab, s) machine).state.1 i := by
  have step := free_step below block slab s machine
  generalize Slab.free below block (slab, s) machine = reply at step ⊢
  cases step with
  | @put index page slot after tag _ accepted =>
    obtain ⟨_, _, _, _, swap, rfl⟩ := (tracked.aligned few).census.putting accepted
    refine swap.undisturbed fun same => other page slot ?_
    rw [tag, tracked.owner, same]
  | foreign | interrupted | refused | passed | passFailed => exact ⟨rfl, rfl⟩

end

end Slab

namespace Layer
variable {σ : Type} {below : Source σ} {config : SlabConfig} {owner : Nat} {start : σ}
  {origin machine : Machine} {past : List Event} {state : Layer × σ}

theorem run_measured (usable : ∀ slotSize ∈ config.classes, 0 < config.slotsPerPage slotSize)
    (run : Run (perform below) (fun _ _ _ => True) (.slab (.make owner config), start) origin past
      state machine) : ∃ slab s, state = (.slab slab, s) ∧ slab.Measured owner config past := by
  induction run with
  | start => exact ⟨_, start, rfl, .make owner config⟩
  | @call past call state machine run _ ih =>
    obtain ⟨slab, s, rfl, measured⟩ := ih
    cases call with
    | allocate request => exact ⟨_, _, rfl, measured.allocate usable⟩
    | free block => exact ⟨_, _, rfl, measured.free⟩
    | trim => exact ⟨slab, s, rfl, measured.idle (Or.inl rfl)⟩
    | dispose => exact ⟨slab, s, rfl, measured.idle (Or.inr rfl)⟩

-- The pages of a slab after any calls and over any source. Numbers of pages have 32 bits, and beyond
-- that a slot may be taken for one on an earlier page.
theorem pages_follow_peak (accepted : config.validate = .ok ())
    (few : ∀ slotSize ∈ config.classes, config.Countable slotSize)
    (run : Run (perform below) (fun _ _ _ => True) (.slab (.make owner config), start) origin past
      state machine) :
    ∃ slab s, state = (.slab slab, s) ∧ slab.slotSizes = config.classes ∧
      (slab.pages.length ≤ 0x1_0000_0000 →
        (∀ index sizeClass, slab.classes[index]? = some sizeClass →
          sizeClass.live = (Slab.out owner config index past).length ∧
            sizeClass.pages =
              Slab.peak owner config index past ⌈/⌉ config.slotsPerPage sizeClass.slotSize ∧
            (slab.pagesOf index).length = sizeClass.pages) ∧
        ∀ block index, (∀ page slot, block.tag ≠ .slab owner index page slot) →
          slab.Undisturbed (Slab.free below block (slab, s) machine).state.1 index) ∧
      (slab.pages.length < 0x1_0000_0000 → ∀ request,
        let reply := Slab.allocate below request (slab, s) machine
        (∀ slotSize ∈ config.classes, max request.size request.align ≤ slotSize →
          ∃ index, config.Suits request index ∧
            (∀ block, reply.result = .ok block → ∃ slot sizeClass changed,
              slab.Cuts reply.state.1 request index block slot sizeClass changed) ∧
            ∀ i ≠ index, slab.Undisturbed reply.state.1 i) ∧
        ((∀ slotSize ∈ config.classes, slotSize < max request.size request.align) →
          ∀ i, slab.Undisturbed reply.state.1 i)) := by
  have usable := Slab.usable_of_valid accepted few
  obtain ⟨slab, s, rfl, measured⟩ := run_measured usable run
  refine ⟨slab, s, rfl, measured.sizes, fun numbered => ⟨?_, ?_⟩, fun numbered request => ⟨?_, ?_⟩⟩
  · intro index sizeClass classed
    have paced := measured.paced numbered index sizeClass classed
    have counted := (measured.aligned numbered).census.counted index sizeClass classed
    refine ⟨?_, ?_, counted.pages.symm⟩
    · rw [paced.live, measured.owner, measured.same]
    · rw [paced.pages, measured.owner, measured.same]
  · intro block index other
    exact measured.free_undisturbed numbered other
  · intro slotSize member large
    obtain ⟨index, fits⟩ := SlabConfig.fits_of_large member large
    refine ⟨index, SlabConfig.suits_of_fits accepted fits, ?_, ?_⟩
    · intro block done
      exact measured.allocate_cuts usable numbered fits done
    · intro i other
      refine measured.allocate_undisturbed usable numbered ?_
      rw [fits]
      exact fun same => other (Option.some.inj same).symm
  · intro small i
    refine measured.allocate_undisturbed usable numbered ?_
    rw [SlabConfig.fits_none small]
    simp

-- A page cannot be had at first. In the end two slots of five are back, one of them brought twice.
def secondPage : List Event × (Layer × (Layer × SystemStore)) × Machine :=
  played (perform (source SystemStore.source))
    (.slab (.make 1 ⟨[16, 32], 64⟩), (.probe { allocatePlan := .after 2 1 }, {}))
    ⟨{ platform := .ascending }, []⟩
    [.free ⟨0x4000_0000_0010, 16, 8, .slab 1 0 0 1⟩, .free ⟨0x4000_0000_0010, 16, 8, .slab 1 0 0 1⟩,
      .free ⟨0x4000_0000_0000, 16, 8, .slab 1 0 0 0⟩, .allocate ⟨16, 8, false, 1, 16, Site.internal⟩,
      .allocate ⟨16, 8, false, 1, 16, Site.internal⟩, .allocate ⟨20, 8, false, 1, 20, Site.internal⟩,
      .allocate ⟨16, 8, false, 1, 16, Site.internal⟩, .allocate ⟨16, 8, false, 1, 16, Site.internal⟩,
      .allocate ⟨16, 8, false, 1, 16, Site.internal⟩, .allocate ⟨16, 8, false, 1, 16, Site.internal⟩]

theorem pages_follow_peak_secondPage :
    ∃ slab s, secondPage.2.1 = (.slab slab, s) ∧
      (∀ sizeClass, slab.classes[0]? = some sizeClass → sizeClass.live = 3 ∧ sizeClass.pages = 2) ∧
      ∀ i ≠ 1, slab.Undisturbed (Slab.allocate (source SystemStore.source)
        ⟨20, 8, false, 1, 20, Site.internal⟩ (slab, s) secondPage.2.2).state.1 i := by
  have accepted : SlabConfig.validate ⟨[16, 32], 64⟩ = .ok () := rfl
  have run : Run (perform (source SystemStore.source)) (fun _ _ _ => True)
      (.slab (.make 1 ⟨[16, 32], 64⟩), (.probe { allocatePlan := .after 2 1 }, {}))
      ⟨{ platform := .ascending }, []⟩ secondPage.1 secondPage.2.1 secondPage.2.2 :=
    .played ⟨⟨⟨⟨⟨⟨⟨⟨⟨⟨trivial, trivial⟩, trivial⟩, trivial⟩, trivial⟩, trivial⟩, trivial⟩, trivial⟩,
      trivial⟩, trivial⟩, trivial⟩
  have pages : (layout secondPage.2.1.1).length = 3 := by decide +kernel
  obtain ⟨slab, s, same, sizes, counts, asks⟩ := pages_follow_peak accepted (by decide) run
  rw [same] at pages
  have numbered : slab.pages.length = 3 := Slab.length_layout.symm.trans pages
  refine ⟨slab, s, same, ?_, ?_⟩
  · intro sizeClass classed
    have size := Slab.slotSizes_of_class classed
    rw [sizes] at size
    obtain ⟨live, grown, _⟩ := (counts (by omega)).1 0 sizeClass classed
    rw [← Option.some.inj size] at grown
    have out : (Slab.out 1 ⟨[16, 32], 64⟩ 0 secondPage.1).length = 3 := by decide +kernel
    have peak : Slab.peak 1 ⟨[16, 32], 64⟩ 0 secondPage.1 = 5 := by decide +kernel
    rw [out] at live
    rw [peak] at grown
    exact ⟨live, grown⟩
  · obtain ⟨index, suits, _, others⟩ := (asks (by omega) ⟨20, 8, false, 1, 20, Site.internal⟩).1 32
      (by decide) (by decide)
    have second : index = 1 := by
      obtain ⟨slotSize, listed, large, _⟩ := suits
      match index, listed with
      | 0, listed =>
        cases listed
        exact absurd large (by decide)
      | 1, _ => rfl
    rw [second] at others
    exact others

end Layer

end LayeredAllocation
