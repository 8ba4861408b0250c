import LayeredAllocation.Proofs.Contract
import LayeredAllocation.Proofs.Slots
import LayeredAllocation.Proofs.Steps.Slab

namespace LayeredAllocation

-- A block that some slab has cut from a slot.
def Block.Sliced (block : Block) : Prop :=
  ∃ owner sizeClass page slot, block.tag = .slab owner sizeClass page slot

namespace Slab
variable {slab after : Slab} {live beneath more : List Block} {pages : List (Block × Nat)}
  {index slotSize : Nat} {free rest : List Slot} {slot : Slot} {page : Block} {mark : Bool}
  {request : Request}

structure Cut (slab : Slab) (slot : Slot) (page : Block) (index slotSize : Nat) : Prop where
  listed : slab.layout[slot.page]? = some (page, index)
  sized : slab.slotSizes[index]? = some slotSize
  numbered : slot.slot < slab.config.slotsPerPage slotSize

theorem Cut.older (cut : slab.Cut slot page index slotSize) : slot.page < slab.pages.length :=
  length_layout ▸ (List.getElem?_eq_some_iff.1 cut.listed).1

theorem Grown.newest {slots s : Nat} (grown : slab.Grown after page index slotSize slots)
    (small : s < slots) : after.Cut ⟨slab.pages.length, s⟩ page index slotSize := by
  refine ⟨?_, grown.change.sizes ▸ grown.sized, ?_⟩
  · rw [grown.change.layout, ← length_layout]
    exact List.getElem?_concat_length
  · rw [grown.change.config, ← grown.counted]
    exact small

def slotExtent (page : Block) (slotSize : Nat) (slot : Slot) : Extent :=
  ⟨page.address + slot.slot * slotSize, slotSize⟩

structure Paged (slab : Slab) (beneath : List Block) : Prop where
  accepted : slab.config.validate = .ok ()
  sizes : slab.slotSizes = slab.config.classes
  backed : ∀ p ∈ slab.layout, p.1 ∈ beneath
  shaped : ∀ p ∈ slab.layout, p.1.size = slab.config.pageSize ∧ slab.slotSizes[p.2]? = some p.1.align
  distinct : (slab.layout.map Prod.fst).Nodup

structure Sits (slab : Slab) (block : Block) (slot : Slot) (page : Block) (index slotSize : Nat) :
    Prop where
  cut : slab.Cut slot page index slotSize
  taken : slab.taken slot = true
  start : block.address = page.address + slot.slot * slotSize
  fits : block.size ≤ slotSize
  tag : block.tag = .slab slab.owner index slot.page slot.slot

def Passed (slab : Slab) (beneath : List Block) (block : Block) : Prop :=
  block ∈ beneath ∧ block ∉ slab.layout.map Prod.fst

structure Serves (slab : Slab) (live beneath : List Block) : Prop where
  held : Held live
  paged : slab.Paged beneath
  distinct : ∀ i, (slab.freeSlots i).Nodup
  free : ∀ i, ∀ slot ∈ slab.freeSlots i, slab.taken slot = false ∧
    ∃ page slotSize, slab.Cut slot page i slotSize
  issued : ∀ b ∈ live, slab.Passed beneath b ∨
    ∃ slot page index slotSize, slab.Sits b slot page index slotSize

namespace Paged

theorem size_valid (paged : slab.Paged beneath) (sized : slab.slotSizes[index]? = some slotSize) :
    8 ≤ slotSize ∧ Word.isPowerOfTwo slotSize = true ∧ slotSize ≤ slab.config.pageSize := by
  rw [paged.sizes] at sized
  have valid := SlabConfig.validate_eq_ok_iff.1 paged.accepted
  exact valid.usable slotSize (List.mem_of_getElem? sized)

theorem shape (paged : slab.Paged beneath) (cut : slab.Cut slot page index slotSize) :
    page ∈ beneath ∧ page.size = slab.config.pageSize ∧ page.align = slotSize := by
  have member := List.mem_of_getElem? cut.listed
  obtain ⟨size, align⟩ := paged.shaped _ member
  exact ⟨paged.backed _ member, size, Option.some.inj (align.symm.trans cut.sized)⟩

theorem within (paged : slab.Paged beneath) (cut : slab.Cut slot page index slotSize) :
    (slotExtent page slotSize slot).Within page.extent := by
  obtain ⟨_, size, _⟩ := paged.shape cut
  have numbered : slot.slot < slab.config.pageSize / slotSize :=
    Nat.lt_of_lt_of_le cut.numbered (Nat.mod_le _ _)
  have inside : (slot.slot + 1) * slotSize ≤ slab.config.pageSize :=
    Nat.le_trans (Nat.mul_le_mul_right slotSize numbered) (Nat.div_mul_le_self _ _)
  rw [Nat.succ_mul] at inside
  refine ⟨Nat.le_add_right _ _, ?_⟩
  simp only [Extent.stop, slotExtent, Block.extent, size]
  omega

theorem aligned (paged : slab.Paged beneath) (held : Held beneath)
    (cut : slab.Cut slot page index slotSize) : slotSize ∣ page.address + slot.slot * slotSize := by
  obtain ⟨member, _, align⟩ := paged.shape cut
  exact Nat.dvd_add (align ▸ (held.proper page member).aligned) (Nat.dvd_mul_left _ _)

-- Slots of one page lie side by side.
theorem beside {m n step base : Nat} (different : m ≠ n) :
    Extent.Disjoint ⟨base + m * step, step⟩ ⟨base + n * step, step⟩ := by
  unfold Extent.Disjoint Extent.stop
  rcases Nat.lt_or_gt_of_ne different with less | more
  · have := Nat.mul_le_mul_right step less
    rw [Nat.succ_mul] at this
    exact Or.inl (by dsimp only; omega)
  · have := Nat.mul_le_mul_right step more
    rw [Nat.succ_mul] at this
    exact Or.inr (by dsimp only; omega)

theorem page_ne (paged : slab.Paged beneath) {m n i j : Nat} {first second : Block}
    (listed : slab.layout[m]? = some (first, i)) (other : slab.layout[n]? = some (second, j))
    (different : m ≠ n) : first ≠ second := by
  rintro rfl
  have first' : (slab.layout.map Prod.fst)[m]? = some first := by simp [listed]
  have second' : (slab.layout.map Prod.fst)[n]? = some first := by simp [other]
  obtain ⟨inside, _⟩ := List.getElem?_eq_some_iff.1 first'
  exact different ((List.getElem?_inj inside paged.distinct).1 (first'.trans second'.symm))

theorem apart (paged : slab.Paged beneath) (held : Held beneath) {other : Slot} {page' : Block}
    {index' slotSize' : Nat} (cut : slab.Cut slot page index slotSize)
    (cut' : slab.Cut other page' index' slotSize') (different : slot ≠ other) :
    (slotExtent page slotSize slot).Disjoint (slotExtent page' slotSize' other) := by
  by_cases same : slot.page = other.page
  · have equal := cut.listed.symm.trans (same ▸ cut'.listed)
    cases equal
    cases cut.sized.symm.trans cut'.sized
    refine beside fun equal => different ?_
    cases slot
    cases other
    cases same
    cases equal
    rfl
  · have apart := held.apart_of_ne (paged.shape cut).1 (paged.shape cut').1
      (paged.page_ne cut.listed cut'.listed same)
    exact apart.within (paged.within cut) (paged.within cut')

theorem change (paged : slab.Paged beneath) (change : Change slab after [] index free slot mark)
    (kept : ∀ p ∈ slab.layout, p.1 ∈ beneath → p.1 ∈ more) : after.Paged more := by
  have layout : after.layout = slab.layout := change.layout.trans (List.append_nil _)
  refine ⟨change.config ▸ paged.accepted, ?_, ?_, ?_, layout ▸ paged.distinct⟩
  · rw [change.sizes, change.config, paged.sizes]
  · rw [layout]
    exact fun p member => kept p member (paged.backed p member)
  · rw [layout, change.sizes, change.config]
    exact paged.shaped

end Paged

theorem Change.cut (change : Change slab after pages index free slot mark) {other : Slot}
    {i : Nat} (cut : slab.Cut other page i slotSize) : after.Cut other page i slotSize := by
  refine ⟨?_, change.sizes ▸ cut.sized, change.config ▸ cut.numbered⟩
  rw [change.layout, List.getElem?_append_left (List.getElem?_eq_some_iff.1 cut.listed).1, cut.listed]

theorem Change.sits (change : Change slab after pages index free slot mark) {other : Slot} {i : Nat}
    {block : Block} (sits : slab.Sits block other page i slotSize) (different : other ≠ slot) :
    after.Sits block other page i slotSize := by
  refine ⟨change.cut sits.cut, ?_, sits.start, sits.fits, change.owner ▸ sits.tag⟩
  rw [change.taken, if_neg different, sits.taken]

theorem Sits.within {block : Block} (sits : slab.Sits block slot page index slotSize) :
    block.extent.Within (slotExtent page slotSize slot) := by
  refine ⟨Nat.le_of_eq sits.start.symm, ?_⟩
  have := sits.fits
  simp only [Extent.stop, Block.extent, slotExtent, sits.start]
  omega

theorem Passed.apart {block : Block} (passed : slab.Passed beneath block) (paged : slab.Paged beneath)
    (held : Held beneath) (cut : slab.Cut slot page index slotSize) :
    block.extent.Disjoint (slotExtent page slotSize slot) := by
  have different : block ≠ page := by
    rintro rfl
    exact passed.2 (List.mem_map.2 ⟨_, List.mem_of_getElem? cut.listed, rfl⟩)
  exact (held.apart_of_ne passed.1 (paged.shape cut).1 different).within (Extent.Within.refl _)
    (paged.within cut)

namespace Serves

theorem inside (serves : slab.Serves live beneath) :
    ∀ b ∈ live, ∃ k ∈ beneath, b.extent.Within k.extent := by
  intro b member
  rcases serves.issued b member with passed | ⟨slot, page, index, slotSize, sits⟩
  · exact ⟨b, passed.1, Extent.Within.refl _⟩
  · exact ⟨page, (serves.paged.shape sits.cut).1, sits.within.trans (serves.paged.within sits.cut)⟩

-- A block put into a slot that nobody sits in.
theorem issue (serves : slab.Serves live beneath) (paged : after.Paged more) (held : Held more)
    (change : Change slab after pages index free slot true) (empty : slab.taken slot = false)
    (cut : after.Cut slot page index slotSize) (proper : request.Proper)
    (small : max request.size request.align ≤ slotSize)
    (passes : ∀ b, slab.Passed beneath b → after.Passed more b) (distinct : free.Nodup)
    (spare : ∀ s ∈ free, s ≠ slot ∧ slab.taken s = false ∧
      ∃ page slotSize, after.Cut s page index slotSize) :
    after.Serves (⟨page.address + slot.slot * slotSize, request.size, request.align,
      .slab slab.owner index slot.page slot.slot⟩ :: live) more := by
  have old : ∀ b ∈ live, after.Passed more b ∨
      ∃ s p i n, after.Sits b s p i n ∧ s ≠ slot := by
    intro b member
    rcases serves.issued b member with passed | ⟨s, p, i, n, sits⟩
    · exact Or.inl (passes b passed)
    · have different : s ≠ slot := by
        rintro rfl
        rw [sits.taken] at empty
        cases empty
      exact Or.inr ⟨s, p, i, n, change.sits sits different, different⟩
  have fits : Extent.Within ⟨page.address + slot.slot * slotSize, request.size⟩
      (slotExtent page slotSize slot) :=
    ⟨Nat.le_refl _, by simp only [Extent.stop, slotExtent]; omega⟩
  obtain ⟨_, power, _⟩ := paged.size_valid cut.sized
  have aligned : request.align ∣ page.address + slot.slot * slotSize :=
    Nat.dvd_trans (Word.dvd_of_le proper.2 power (by omega)) (paged.aligned held cut)
  refine ⟨serves.held.cons ⟨proper.1, proper.2, aligned⟩ ?_, paged, ?_, ?_, ?_⟩
  · intro b member
    rcases old b member with passed | ⟨s, p, i, n, sits, different⟩
    · exact (passed.apart paged held cut).within (Extent.Within.refl _) fits
    · exact (paged.apart held sits.cut cut different).within sits.within fits
  · intro i
    rw [change.free]
    split
    · exact distinct
    · exact serves.distinct i
  · intro i s member
    rw [change.free] at member
    split at member
    · next same =>
      obtain ⟨different, clear, found⟩ := spare s member
      rw [change.taken, if_neg different]
      exact ⟨clear, same ▸ found⟩
    · next other =>
      obtain ⟨clear, p, n, found⟩ := serves.free i s member
      have found := change.cut found
      refine ⟨?_, p, n, found⟩
      rw [change.taken, if_neg, clear]
      rintro rfl
      exact other (Prod.mk.inj (Option.some.inj (found.listed.symm.trans cut.listed))).2
  · intro b member
    rcases List.mem_cons.1 member with rfl | member
    · refine Or.inr ⟨slot, page, index, slotSize, cut, ?_, rfl, by dsimp only; omega, ?_⟩
      · rw [change.taken, if_pos rfl]
      · rw [change.owner]
    · rcases old b member with passed | ⟨s, p, i, n, sits, _⟩
      · exact Or.inl passed
      · exact Or.inr ⟨s, p, i, n, sits⟩

theorem take (serves : slab.Serves live beneath) (held : Held beneath) (proper : request.Proper)
    (small : max request.size request.align ≤ slotSize) (listed : slab.freeSlots index = slot :: rest)
    (cut : slab.Cut slot page index slotSize) (change : Change slab after [] index rest slot true) :
    after.Serves (⟨page.address + slot.slot * slotSize, request.size, request.align,
      .slab slab.owner index slot.page slot.slot⟩ :: live) beneath := by
  have layout : after.layout = slab.layout := change.layout.trans (List.append_nil _)
  obtain ⟨absent, distinct⟩ := List.nodup_cons.1 (listed ▸ serves.distinct index)
  have spare : ∀ s ∈ slot :: rest, slab.taken s = false ∧ ∃ page n, slab.Cut s page index n :=
    listed ▸ serves.free index
  refine serves.issue (serves.paged.change change fun _ _ old => old) held change
    (spare slot List.mem_cons_self).1 (change.cut cut) proper small ?_ distinct ?_
  · exact fun b passed => ⟨passed.1, layout ▸ passed.2⟩
  · intro s member
    obtain ⟨clear, p, n, found⟩ := spare s (List.mem_cons_of_mem _ member)
    exact ⟨fun same => absent (same ▸ member), clear, p, n, change.cut found⟩

end Serves

-- What is added to the pages comes from beneath too, and was no page before.
theorem Paged.adopt {slots : Nat} (paged : slab.Paged beneath)
    (grown : slab.Grown after page index slotSize slots) (fresh : Held (page :: beneath))
    (size : page.size = slab.config.pageSize) (align : page.align = slotSize) :
    after.Paged (page :: beneath) := by
  have change := grown.change
  refine ⟨change.config ▸ paged.accepted, ?_, ?_, ?_, ?_⟩
  · rw [change.sizes, change.config, paged.sizes]
  · intro p member
    rw [change.layout] at member
    rcases List.mem_append.1 member with old | new
    · exact List.mem_cons_of_mem _ (paged.backed p old)
    · rw [List.mem_singleton.1 new]
      exact List.mem_cons_self
  · intro p member
    rw [change.layout] at member
    rw [change.config, change.sizes]
    rcases List.mem_append.1 member with old | new
    · exact paged.shaped p old
    · rw [List.mem_singleton.1 new, align]
      exact ⟨size, grown.sized⟩
  · have outside : page ∉ slab.layout.map Prod.fst := by
      intro member
      obtain ⟨p, listed, rfl⟩ := List.mem_map.1 member
      exact fresh.ne_of_cons (paged.backed p listed) rfl
    rw [change.layout, List.map_append]
    exact (List.perm_append_comm.nodup_iff).2 (List.nodup_cons.2 ⟨outside, paged.distinct⟩)

theorem Passed.adopt {block : Block} {slots : Nat} (passed : slab.Passed beneath block)
    (grown : slab.Grown after page index slotSize slots) (fresh : Held (page :: beneath)) :
    after.Passed (page :: beneath) block := by
  refine ⟨List.mem_cons_of_mem _ passed.1, ?_⟩
  rw [grown.change.layout, List.map_append]
  intro member
  rcases List.mem_append.1 member with old | new
  · exact passed.2 old
  · exact fresh.ne_of_cons passed.1 (List.mem_singleton.1 new)

-- The first slot of a new page goes to the request, the others are free.
theorem Serves.adopt {slots : Nat} (serves : slab.Serves live beneath) (fresh : Held (page :: beneath))
    (proper : request.Proper) (small : max request.size request.align ≤ slotSize)
    (size : page.size = slab.config.pageSize) (align : page.align = slotSize)
    (grown : slab.Grown after page index slotSize slots) :
    after.Serves (⟨page.address, request.size, request.align,
      .slab slab.owner index slab.pages.length 0⟩ :: live) (page :: beneath) := by
  have unused : ∀ s, slab.taken ⟨slab.pages.length, s⟩ = false :=
    fun s => taken_of_no_page (Nat.le_refl _)
  have older : ∀ s ∈ slab.freeSlots index, s.page < slab.pages.length := by
    intro s member
    obtain ⟨_, p, n, found⟩ := serves.free index s member
    exact found.older
  have start : page.address = page.address + 0 * slotSize := by omega
  rw [start]
  refine serves.issue (serves.paged.adopt grown fresh size align) fresh grown.change (unused 0)
    (grown.newest grown.usable) proper small (fun b passed => passed.adopt grown fresh)
    (nodup_spareSlots_append slots (serves.distinct index) older) ?_
  intro s member
  rcases List.mem_append.1 member with new | old
  · obtain ⟨number, s⟩ := s
    obtain ⟨rfl, later, small⟩ := mem_spareSlots.1 new
    exact ⟨fun same => later (Slot.mk.inj same).2, unused s, page, slotSize, grown.newest small⟩
  · obtain ⟨clear, p, n, found⟩ := serves.free index s old
    refine ⟨?_, clear, p, n, grown.change.cut found⟩
    rintro rfl
    exact Nat.lt_irrefl _ (older _ old)

-- A slot that comes back was that of the block that starts there, if any block does.
theorem Serves.putBack {block : Block} {sizeClass : Nat} (serves : slab.Serves live beneath)
    (lone : ∀ b ∈ live, b.address = block.address → b = block)
    (accepted : slab.freeSlot block.address sizeClass slot = .ok after) :
    after.Serves (block.others live) beneath := by
  obtain ⟨page, slotSize, listed, sized, numbered, here, marked, change⟩ := freeSlot_ok accepted
  have layout : after.layout = slab.layout := change.layout.trans (List.append_nil _)
  have cut : slab.Cut slot page sizeClass slotSize := ⟨listed, sized, numbered⟩
  have alone : ∀ b ∈ live, ∀ p i n, slab.Sits b slot p i n → b = block := by
    intro b old p i n sits
    apply lone b old
    cases sits.cut.listed.symm.trans listed
    cases sits.cut.sized.symm.trans sized
    exact sits.start.trans here
  refine ⟨serves.held.others block, serves.paged.change change fun _ _ old => old, ?_, ?_, ?_⟩
  · intro i
    rw [change.free]
    split
    · refine List.nodup_cons.2 ⟨?_, serves.distinct _⟩
      intro spare
      have clear := (serves.free _ _ spare).1
      rw [marked] at clear
      cases clear
    · exact serves.distinct i
  · intro i s spare
    rw [change.taken]
    rw [change.free] at spare
    split
    · next same =>
      subst same
      refine ⟨rfl, ?_⟩
      split at spare
      · next same => exact ⟨page, slotSize, change.cut (same ▸ cut)⟩
      · obtain ⟨_, p, n, found⟩ := serves.free i s spare
        exact ⟨p, n, change.cut found⟩
    · next different =>
      have spare : s ∈ slab.freeSlots i := by
        split at spare
        · next same => exact same ▸ (List.mem_cons.1 spare).resolve_left different
        · exact spare
      obtain ⟨clear, p, n, found⟩ := serves.free i s spare
      exact ⟨clear, p, n, change.cut found⟩
  · intro b kept
    obtain ⟨old, different⟩ := Block.mem_others.1 kept
    rcases serves.issued b old with passed | ⟨s, p, i, n, sits⟩
    · exact Or.inl ⟨passed.1, layout ▸ passed.2⟩
    · refine Or.inr ⟨s, p, i, n, change.sits sits ?_⟩
      rintro rfl
      exact different (alone b old p i n sits)

-- A slab of the same shape serves the same blocks.
theorem Serves.congr (serves : slab.Serves live beneath) (owner : after.owner = slab.owner)
    (config : after.config = slab.config) (classes : after.classes = slab.classes)
    (pages : after.pages = slab.pages) : after.Serves live beneath := by
  obtain ⟨_, _, _, _, _, _⟩ := slab
  obtain ⟨_, _, _, _, _, _⟩ := after
  cases owner
  cases config
  cases classes
  cases pages
  exact ⟨serves.held, ⟨serves.paged.accepted, serves.paged.sizes, serves.paged.backed,
    serves.paged.shaped, serves.paged.distinct⟩, serves.distinct,
    fun i s spare => by
      obtain ⟨clear, p, n, cut⟩ := serves.free i s spare
      exact ⟨clear, p, n, cut.listed, cut.sized, cut.numbered⟩,
    fun b member => by
      rcases serves.issued b member with passed | ⟨s, p, i, n, sits⟩
      · exact Or.inl passed
      · exact Or.inr ⟨s, p, i, n, ⟨sits.cut.listed, sits.cut.sized, sits.cut.numbered⟩, sits.taken,
          sits.start, sits.fits, sits.tag⟩⟩

-- More may be out beneath than pages and blocks passed through.
theorem Serves.mono (serves : slab.Serves live beneath) (kept : ∀ b ∈ beneath, b ∈ more) :
    slab.Serves live more :=
  ⟨serves.held, ⟨serves.paged.accepted, serves.paged.sizes,
    fun p member => kept _ (serves.paged.backed p member), serves.paged.shaped,
    serves.paged.distinct⟩, serves.distinct, serves.free,
    fun b member => (serves.issued b member).imp (fun passed => ⟨kept b passed.1, passed.2⟩) id⟩

theorem Serves.pass {block : Block} (serves : slab.Serves live beneath)
    (fresh : Held (block :: beneath)) : slab.Serves (block :: live) (block :: beneath) := by
  have wider := serves.mono fun b old => List.mem_cons_of_mem block old
  have apart : ∀ b ∈ live, b.extent.Disjoint block.extent := by
    intro b old
    obtain ⟨k, deeper, within⟩ := serves.inside b old
    exact (fresh.apart_of_cons k deeper).symm.within within (Extent.Within.refl _)
  refine ⟨serves.held.cons (fresh.proper block List.mem_cons_self) apart, wider.paged,
    wider.distinct, wider.free, ?_⟩
  intro b member
  rcases List.mem_cons.1 member with rfl | old
  · refine Or.inl ⟨List.mem_cons_self, ?_⟩
    intro paged
    obtain ⟨p, listed, same⟩ := List.mem_map.1 paged
    exact fresh.ne_of_cons (serves.paged.backed p listed) same
  · exact wider.issued b old

theorem Serves.passBack {block : Block} (serves : slab.Serves live beneath)
    (passed : slab.Passed beneath block) :
    slab.Serves (block.others live) (block.others beneath) := by
  refine ⟨serves.held.others block, ⟨serves.paged.accepted, serves.paged.sizes, ?_,
    serves.paged.shaped, serves.paged.distinct⟩, serves.distinct, serves.free, ?_⟩
  · intro p listed
    refine Block.mem_others.2 ⟨serves.paged.backed p listed, ?_⟩
    intro same
    exact passed.2 (List.mem_map.2 ⟨p, listed, same⟩)
  · intro b kept
    obtain ⟨old, different⟩ := Block.mem_others.1 kept
    rcases serves.issued b old with passed | sits
    · exact Or.inl ⟨Block.mem_others.2 ⟨passed.1, different⟩, passed.2⟩
    · exact Or.inr sits

theorem SlabConfig.classFor?_eq_some {config : SlabConfig} {needed index : Nat}
    (found : config.classFor? needed = some index) :
    ∃ slotSize, config.classes[index]? = some slotSize ∧ needed ≤ slotSize := by
  obtain ⟨inside, large, _⟩ := List.findIdx?_eq_some_iff_getElem.1 found
  exact ⟨_, List.getElem?_eq_getElem inside, of_decide_eq_true large⟩

-- The slots of the class that is chosen are large enough.
theorem Serves.chosen (serves : slab.Serves live beneath)
    (fits : slab.config.classFor? (max request.size request.align) = some index) :
    ∃ slotSize, slab.slotSizes[index]? = some slotSize ∧ max request.size request.align ≤ slotSize := by
  rw [serves.paged.sizes]
  exact SlabConfig.classFor?_eq_some fits

theorem Serves.takeSlot {block : Block} (serves : slab.Serves live beneath) (held : Held beneath)
    (proper : request.Proper)
    (fits : slab.config.classFor? (max request.size request.align) = some index)
    (taken : slab.takeSlot? index request = some (block, after)) :
    block.size = request.size ∧ block.align = request.align ∧
      after.Serves (block :: live) beneath := by
  obtain ⟨slotSize, sized, small⟩ := serves.chosen fits
  obtain ⟨slot, rest, page, size, listed, paged, sized', rfl, change⟩ := takeSlot?_eq_some taken
  cases sized.symm.trans sized'
  obtain ⟨_, p, n, cut⟩ := serves.free index slot (listed ▸ List.mem_cons_self)
  cases cut.listed.symm.trans paged
  cases cut.sized.symm.trans sized
  exact ⟨rfl, rfl, serves.take held proper small listed cut change⟩

theorem Serves.withPage {sizeClass : SizeClass} (serves : slab.Serves live beneath)
    (fresh : Held (page :: beneath)) (proper : request.Proper)
    (grows : slab.Grows request index sizeClass) (few : slab.pages.length < 0x1_0000_0000)
    (size : page.size = slab.config.pageSize) (align : page.align = sizeClass.slotSize)
    (usable : (Bitmap.forSlots (slab.config.slotsPerPage sizeClass.slotSize)).covers 0 = true) :
    (slab.withPage index sizeClass page).Serves
      (slab.firstBlock index sizeClass page request :: live) (page :: beneath) := by
  obtain ⟨slotSize, sized, small⟩ := serves.chosen grows.fits
  cases sized.symm.trans (slotSizes_of_class grows.classed)
  have some := Bitmap.slots_pos_of_covers usable
  have number : Word.low32 slab.pages.length = slab.pages.length := Nat.mod_eq_of_lt few
  have counted : Serves { slab with held := slab.held.add page.size } live beneath :=
    serves.congr rfl rfl rfl rfl
  rw [firstBlock_eq, number]
  exact counted.adopt fresh proper small size align (adopt_grown grows.classed few some rfl)

theorem Serves.passed_of_tag {block : Block} (serves : slab.Serves live beneath)
    (brought : block.Brought Block.Sliced live)
    (unsliced : ∀ owner sizeClass page slot, block.tag ≠ .slab owner sizeClass page slot) :
    slab.Passed beneath block := by
  rcases brought with member | ⟨⟨_, _, _, _, tag⟩, _⟩
  · rcases serves.issued block member with passed | ⟨slot, page, index, slotSize, sits⟩
    · exact passed
    · exact absurd sits.tag (unsliced _ _ _ _)
  · exact absurd tag (unsliced _ _ _ _)

section
variable {source : Source σ} {inv : Invariant σ} {room : σ → Prop} {owned frame : List Extent}
  {s : σ} {machine : Machine}

theorem allocate_contract (below : source.Contract inv room) (proper : request.Proper)
    (few : slab.pages.length < 0x1_0000_0000) (hasRoom : room s) (kept : inv s beneath owned)
    (serves : slab.Serves live beneath) (owns : machine.memory.Owns (frame ++ owned)) :
    Allocated (Over inv Serves) frame live request
      (Slab.allocate source request (slab, s) machine) := by
  have step := allocate_step source request slab s machine
  generalize Slab.allocate source request (slab, s) machine = reply at step ⊢
  cases step with
  | passed large answer =>
    obtain ⟨_, owns, size, align, kept⟩ := below.issued proper hasRoom kept owns answer
    exact .issued owns size align
      ⟨_, kept, (serves.pass (below.held kept)).congr rfl rfl rfl rfl⟩
  | passFailed large answer =>
    obtain ⟨_, owns, kept⟩ := below.refused proper hasRoom kept owns answer
    exact .failed owns ⟨beneath, kept, serves⟩
  | took fits running taken =>
    obtain ⟨size, align, serves⟩ := serves.takeSlot (below.held kept) proper fits taken
    exact .issued (Machine.zeroIf_owns owns) size align ⟨beneath, kept, serves⟩
  | grew grows asked answer usable =>
    obtain ⟨rfl, valid⟩ := Request.bytes?_eq_ok.1 asked
    obtain ⟨_, owns, size, align, kept⟩ := below.issued valid.proper hasRoom kept owns answer
    have serves := serves.withPage (below.held kept) proper grows few size align usable
    exact .issued (Machine.zeroIf_owns (owns.congr rfl rfl)) rfl rfl ⟨_, kept, serves⟩
  | growFailed grows asked answer =>
    obtain ⟨rfl, valid⟩ := Request.bytes?_eq_ok.1 asked
    obtain ⟨_, owns, kept⟩ := below.refused valid.proper hasRoom kept owns answer
    exact .failed owns ⟨beneath, kept, serves⟩
  | @burst index sizeClass pageRequest page after machine' grows asked answer unusable =>
    obtain ⟨rfl, valid⟩ := Request.bytes?_eq_ok.1 asked
    obtain ⟨_, owns, size, align, kept⟩ := below.issued valid.proper hasRoom kept owns answer
    have wider := serves.mono fun b => List.mem_cons_of_mem page
    exact .failed (owns.congr rfl rfl) ⟨_, kept, wider.congr rfl rfl rfl rfl⟩
  | unaskable grows asked => exact .failed owns ⟨beneath, kept, serves⟩
  | stuck fits cause => exact .failed owns ⟨beneath, kept, serves⟩

-- A slot may come back although nobody sits in it.
theorem free_contract (below : source.Contract inv room) {block : Block}
    (brought : block.Brought Block.Sliced live)
    (kept : inv s beneath owned) (serves : slab.Serves live beneath)
    (owns : machine.memory.Owns (frame ++ owned)) :
    Freed (Over inv Serves) frame live (block.others live)
      (Slab.free source block (slab, s) machine) := by
  have step := free_step source block slab s machine
  generalize Slab.free source block (slab, s) machine = reply at step ⊢
  cases step with
  | foreign tag other => exact .failed owns ⟨beneath, kept, serves⟩
  | interrupted tag interrupted => exact .failed owns ⟨beneath, kept, serves⟩
  | put tag running accepted =>
    exact .taken owns ⟨beneath, kept, serves.putBack (serves.held.lone brought) accepted⟩
  | refused tag running rejected => exact .failed owns ⟨beneath, kept, serves⟩
  | passed unsliced answer =>
    have passed := serves.passed_of_tag brought unsliced
    obtain ⟨_, owns, kept⟩ := below.taken passed.1 kept owns answer
    exact .taken owns ⟨_, kept, (serves.passBack passed).congr rfl rfl rfl rfl⟩
  | passFailed unsliced answer =>
    obtain ⟨_, owns, kept⟩ := below.declined (serves.passed_of_tag brought unsliced).1 kept owns answer
    exact .failed owns ⟨_, kept, serves⟩

end

-- A slab numbers its pages in 32 bits.
theorem contract {source : Source σ} {inv : Invariant σ} {room : σ → Prop}
    (below : source.Contract inv room) :
    (Slab.source source).Contract (Over inv Serves)
      (fun state => state.1.pages.length < 0x1_0000_0000 ∧ room state.2) :=
  below.over Serves.held Serves.inside
    (fun proper hasRoom => allocate_contract below proper hasRoom.1 hasRoom.2)
    (fun member => free_contract below (Or.inl member))

end Slab

end LayeredAllocation
