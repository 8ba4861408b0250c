import Mathlib.Algebra.GroupWithZero.Nat
import Mathlib.Algebra.Order.BigOperators.Group.List
import Mathlib.Algebra.Order.Group.Nat
import Mathlib.Data.Finset.Card
import Mathlib.Data.Finset.Filter
import Mathlib.Data.Finset.Range
import LayeredAllocation.Proofs.Calls
import LayeredAllocation.Proofs.Contract.Slab

namespace LayeredAllocation

namespace Bitmap

def population (bitmap : Bitmap) : Nat :=
  ((Finset.range (bitmap.words * 64)).filter fun slot => bitmap.has slot = true).card

variable {bitmap : Bitmap} {slot : Nat}

theorem population_mark (covered : bitmap.covers slot = true) (clear : bitmap.has slot = false) :
    (bitmap.mark slot).population = bitmap.population + 1 := by
  have marked : ((Finset.range (bitmap.words * 64)).filter fun s => (bitmap.mark slot).has s = true) =
      insert slot ((Finset.range (bitmap.words * 64)).filter fun s => bitmap.has s = true) := by
    ext s
    by_cases same : s = slot
    · subst same
      simpa [has_mark, covers] using covered
    · simp [has_mark, same]
  have absent : slot ∉ (Finset.range (bitmap.words * 64)).filter fun s => bitmap.has s = true := by
    simp [clear]
  calc (bitmap.mark slot).population
      = (insert slot ((Finset.range (bitmap.words * 64)).filter fun s => bitmap.has s = true)).card :=
        congrArg Finset.card marked
    _ = bitmap.population + 1 := Finset.card_insert_of_notMem absent

-- Marking the bit again restores the bitmap, so this is the count of marking read backwards.
theorem population_unmark (covered : bitmap.covers slot = true) (set : bitmap.has slot = true) :
    (bitmap.unmark slot).population + 1 = bitmap.population := by
  have same : ∀ s, ((bitmap.unmark slot).mark slot).has s = bitmap.has s := by
    intro s
    by_cases here : s = slot
    · subst here
      simp [has_mark, set]
    · simp [has_mark, has_unmark, here]
  have clear : (bitmap.unmark slot).has slot = false := by simp [has_unmark]
  rw [← population_mark (show (bitmap.unmark slot).covers slot = true from covered) clear]
  unfold population
  simp only [same]
  rfl

theorem population_forSlots (slots : Nat) : (forSlots slots).population = 0 := by
  simp [population, forSlots_has]

end Bitmap

namespace Slab
variable {slab after : Slab} {index slots : Nat} {sizeClass changed : SizeClass} {page marked : SlabPage}
  {slot : Slot} {mark : Bool} {request : Request} {block : Block}

def pagesOf (slab : Slab) (index : Nat) : List SlabPage := slab.pages.filter (·.sizeClass = index)

def marks (slab : Slab) (index : Nat) : Nat := ((slab.pagesOf index).map (·.taken.population)).sum

theorem population_le_marks (member : page ∈ slab.pages) :
    page.taken.population ≤ slab.marks page.sizeClass := by
  refine List.le_sum_of_mem (List.mem_map.2 ⟨page, ?_, rfl⟩)
  exact List.mem_filter.2 ⟨member, decide_eq_true rfl⟩

-- The counts of a class are those of its pages.
structure Counted (slab : Slab) (index : Nat) (sizeClass : SizeClass) : Prop where
  live : sizeClass.live = slab.marks index
  pages : sizeClass.pages = (slab.pagesOf index).length
  total : sizeClass.live + sizeClass.free.toList.length =
    sizeClass.pages * slab.config.slotsPerPage sizeClass.slotSize

structure Census (slab : Slab) : Prop where
  words : ∀ page ∈ slab.pages, ∃ slotSize, slab.slotSizes[page.sizeClass]? = some slotSize ∧
    page.taken.words = (Bitmap.forSlots (slab.config.slotsPerPage slotSize)).words
  distinct : ∀ i, (slab.freeSlots i).Nodup
  free : ∀ i s, s ∈ slab.freeSlots i ↔
    slab.taken s = false ∧ ∃ page slotSize, slab.Cut s page i slotSize
  taken : ∀ s, slab.taken s = true → ∃ i page slotSize, slab.Cut s page i slotSize
  counted : ∀ i sizeClass, slab.classes[i]? = some sizeClass → slab.Counted i sizeClass

-- One slot of a class changes sides, and nothing else happens.
structure Swap (slab : Slab) (index : Nat) (slot : Slot) (mark : Bool) (sizeClass changed : SizeClass)
    (page marked : SlabPage) : Prop where
  classed : slab.classes[index]? = some sizeClass
  listed : slab.pages[slot.page]? = some page
  own : page.sizeClass = index
  size : changed.slotSize = sizeClass.slotSize
  pages : changed.pages = sizeClass.pages
  block : marked.block = page.block
  owner : marked.sizeClass = page.sizeClass
  words : marked.taken.words = page.taken.words
  bits : ∀ s, marked.taken.has s = if s = slot.slot then mark else page.taken.has s
  live : changed.live + page.taken.population = sizeClass.live + marked.taken.population
  total : changed.live + changed.free.toList.length = sizeClass.live + sizeClass.free.toList.length

namespace Swap

theorem change (swap : slab.Swap index slot mark sizeClass changed page marked) :
    Change slab (slab.swapped index slot changed marked) [] index changed.free.toList slot mark :=
  change_of_set swap.classed swap.listed swap.size swap.block swap.owner swap.bits

theorem around (swap : slab.Swap index slot mark sizeClass changed page marked) :
    ∃ front back, slab.pages = front ++ page :: back ∧
      (slab.swapped index slot changed marked).pages = front ++ marked :: back := by
  obtain ⟨inside, rfl⟩ := List.getElem?_eq_some_iff.1 swap.listed
  obtain ⟨front, back, split, _, set⟩ := List.exists_of_set inside
  exact ⟨front, back, split, set⟩

theorem marks_own (swap : slab.Swap index slot mark sizeClass changed page marked) :
    (slab.swapped index slot changed marked).marks index + page.taken.population =
      slab.marks index + marked.taken.population := by
  obtain ⟨front, back, before, after⟩ := swap.around
  have own : marked.sizeClass = index := swap.owner.trans swap.own
  simp [marks, pagesOf, before, after, swap.own, own]
  omega

theorem pagesOf_own (swap : slab.Swap index slot mark sizeClass changed page marked) :
    ((slab.swapped index slot changed marked).pagesOf index).length = (slab.pagesOf index).length := by
  obtain ⟨front, back, before, after⟩ := swap.around
  have own : marked.sizeClass = index := swap.owner.trans swap.own
  simp [pagesOf, before, after, swap.own, own]

theorem pagesOf_other (swap : slab.Swap index slot mark sizeClass changed page marked) {i : Nat}
    (other : i ≠ index) : (slab.swapped index slot changed marked).pagesOf i = slab.pagesOf i := by
  obtain ⟨front, back, before, after⟩ := swap.around
  have old : ¬ page.sizeClass = i := fun equal => other (equal.symm.trans swap.own)
  have new : ¬ marked.sizeClass = i := swap.owner ▸ old
  simp [pagesOf, before, after, old, new]

theorem mem_pages (swap : slab.Swap index slot mark sizeClass changed page marked) {other : SlabPage}
    (member : other ∈ (slab.swapped index slot changed marked).pages) :
    ∃ old ∈ slab.pages, other.sizeClass = old.sizeClass ∧ other.taken.words = old.taken.words := by
  rcases List.mem_or_eq_of_mem_set member with old | rfl
  · exact ⟨other, old, rfl, rfl⟩
  · exact ⟨page, List.mem_of_getElem? swap.listed, swap.owner, swap.words⟩

theorem counted (swap : slab.Swap index slot mark sizeClass changed page marked)
    (counted : ∀ i sizeClass, slab.classes[i]? = some sizeClass → slab.Counted i sizeClass) (i : Nat)
    (found : SizeClass)
    (classed : (slab.swapped index slot changed marked).classes[i]? = some found) :
    (slab.swapped index slot changed marked).Counted i found := by
  by_cases here : i = index
  · subst here
    have inside := (List.getElem?_eq_some_iff.1 swap.classed).1
    have same : found = changed :=
      (Option.some.inj ((List.getElem?_set_self inside).symm.trans classed)).symm
    subst same
    obtain ⟨live, pages, total⟩ := counted i sizeClass swap.classed
    have marks := swap.marks_own
    have step := swap.live
    refine ⟨by omega, ?_, ?_⟩
    · rw [swap.pages, pages, swap.pagesOf_own]
    · rw [swap.total, swap.pages, swap.size]
      exact total
  · have old : slab.classes[i]? = some found := (List.getElem?_set_ne (Ne.symm here)).symm.trans classed
    obtain ⟨live, pages, total⟩ := counted i found old
    refine ⟨?_, ?_, total⟩
    · rw [live, marks, marks, swap.pagesOf_other here]
    · rw [pages, swap.pagesOf_other here]

end Swap

-- Where nothing is added to the pages, the slots are cut as before.
theorem Change.cut_iff {free : List Slot} (change : Change slab after [] index free slot mark)
    {other : Slot} {block : Block} {i slotSize : Nat} :
    after.Cut other block i slotSize ↔ slab.Cut other block i slotSize := by
  refine ⟨fun cut => ⟨?_, ?_, ?_⟩, change.cut⟩
  · rw [← cut.listed, change.layout, List.append_nil]
  · rw [← cut.sized, change.sizes]
  · rw [← change.config]
    exact cut.numbered

theorem Census.swap (census : slab.Census)
    (swap : slab.Swap index slot mark sizeClass changed page marked)
    (cut : slab.Cut slot page.block index sizeClass.slotSize) (distinct : changed.free.toList.Nodup)
    (spare : ∀ s, s ∈ changed.free.toList ↔
      if s = slot then mark = false else s ∈ slab.freeSlots index) :
    (slab.swapped index slot changed marked).Census := by
  have change := swap.change
  refine ⟨?_, ?_, ?_, ?_, swap.counted census.counted⟩
  · intro other member
    obtain ⟨old, listed, owner, words⟩ := swap.mem_pages member
    obtain ⟨slotSize, sized, counted⟩ := census.words old listed
    refine ⟨slotSize, ?_, ?_⟩
    · rw [change.sizes, owner, sized]
    · rw [words, counted, change.config]
  · intro i
    rw [change.free]
    split
    · exact distinct
    · exact census.distinct i
  · intro i s
    simp only [change.free, change.taken, change.cut_iff]
    by_cases same : s = slot
    · subst same
      simp only [if_true]
      by_cases here : i = index
      · subst here
        rw [if_pos rfl, spare, if_pos rfl]
        exact ⟨fun clear => ⟨clear, _, _, cut⟩, And.left⟩
      · rw [if_neg here, census.free]
        have elsewhere : ∀ block slotSize, ¬ slab.Cut s block i slotSize := by
          intro block slotSize found
          exact here (Prod.mk.inj (Option.some.inj (found.listed.symm.trans cut.listed))).2
        constructor
        · rintro ⟨_, block, slotSize, found⟩
          exact absurd found (elsewhere block slotSize)
        · rintro ⟨_, block, slotSize, found⟩
          exact absurd found (elsewhere block slotSize)
    · rw [if_neg same]
      by_cases here : i = index
      · subst here
        rw [if_pos rfl, spare, if_neg same, census.free]
      · rw [if_neg here, census.free]
  · intro s marked
    simp only [change.cut_iff]
    rw [change.taken] at marked
    by_cases same : s = slot
    · subst same
      exact ⟨_, _, _, cut⟩
    · rw [if_neg same] at marked
      exact census.taken s marked

-- A slot that was cut from a page has a bit there.
theorem Census.covered (census : slab.Census) (listed : slab.pages[slot.page]? = some page)
    {block : Block} {slotSize : Nat} (cut : slab.Cut slot block index slotSize) :
    page.taken.covers slot.slot = true := by
  obtain ⟨size, sized, words⟩ := census.words page (List.mem_of_getElem? listed)
  cases cut.listed.symm.trans (layout_of_page listed)
  cases cut.sized.symm.trans sized
  unfold Bitmap.covers
  rw [words]
  exact Bitmap.covers_forSlots cut.numbered

-- A slot that is taken is the first free one of its class, and changes sides.
theorem Census.taking (census : slab.Census)
    (taken : slab.takeSlot? index request = some (block, after)) :
    ∃ sizeClass slot rest page, slab.freeSlots index = slot :: rest.toList ∧
      block = slab.slotBlock page sizeClass.slotSize slot request ∧
      slab.Cut slot page.block index sizeClass.slotSize ∧
      slab.Swap index slot true sizeClass { sizeClass with free := rest, live := sizeClass.live + 1 }
        page { page with taken := page.taken.mark slot.slot } ∧
      after = slab.swapped index slot { sizeClass with free := rest, live := sizeClass.live + 1 }
        { page with taken := page.taken.mark slot.slot } := by
  obtain ⟨sizeClass, slot, rest, page, classed, popped, listed, rfl, rfl⟩ := takeSlot?_parts taken
  have front := FreeList.pop?_eq_some popped
  have known : slab.freeSlots index = slot :: rest.toList := by rw [freeSlots_of_class classed, front]
  obtain ⟨clear, block, slotSize, cut⟩ := (census.free index slot).1 (known ▸ List.mem_cons_self)
  cases cut.listed.symm.trans (layout_of_page listed)
  cases cut.sized.symm.trans (slotSizes_of_class classed)
  have unmarked : page.taken.has slot.slot = false := by rw [← taken_of_page listed, clear]
  have counted := Bitmap.population_mark (census.covered listed cut) unmarked
  refine ⟨sizeClass, slot, rest, page, known, rfl, cut,
    ⟨classed, listed, rfl, rfl, rfl, rfl, rfl, rfl, ?_, ?_, ?_⟩, rfl⟩
  · intro s
    rw [Bitmap.has_mark]
    by_cases same : s = slot.slot <;> simp [same]
  · dsimp only
    omega
  · dsimp only
    rw [front, List.length_cons]
    omega

theorem Census.takeSlot (census : slab.Census)
    (taken : slab.takeSlot? index request = some (block, after)) : after.Census := by
  obtain ⟨sizeClass, slot, rest, page, known, _, cut, swap, rfl⟩ := census.taking taken
  obtain ⟨absent, distinct⟩ := List.nodup_cons.1 (known ▸ census.distinct index)
  apply census.swap swap cut distinct
  intro s
  by_cases same : s = slot
  · subst same
    simp [absent]
  · simp [same, known]

-- A slot that is put back was taken, and changes sides.
theorem Census.putting {address : Nat} (census : slab.Census)
    (accepted : slab.freeSlot address index slot = .ok after) :
    ∃ sizeClass page, slab.Cut slot page.block index sizeClass.slotSize ∧ slab.taken slot = true ∧
      slab.Swap index slot false sizeClass
        { sizeClass with free := sizeClass.free.push slot, live := sizeClass.live - 1 } page
        { page with taken := page.taken.unmark slot.slot } ∧
      after = slab.swapped index slot
        { sizeClass with free := sizeClass.free.push slot, live := sizeClass.live - 1 }
        { page with taken := page.taken.unmark slot.slot } := by
  obtain ⟨sizeClass, page, classed, listed, rfl, numbered, _, set, rfl⟩ := freeSlot_parts accepted
  have cut : slab.Cut slot page.block page.sizeClass sizeClass.slotSize :=
    ⟨layout_of_page listed, slotSizes_of_class classed, numbered⟩
  have counted := Bitmap.population_unmark (census.covered listed cut) set
  -- The page has a bit set, so its class has a slot out.
  have out : page.taken.population ≤ sizeClass.live := by
    rw [(census.counted _ sizeClass classed).live]
    exact population_le_marks (List.mem_of_getElem? listed)
  refine ⟨sizeClass, page, cut, (taken_of_page listed slot.slot).trans set,
    ⟨classed, listed, rfl, rfl, rfl, rfl, rfl, rfl, ?_, ?_, ?_⟩, rfl⟩
  · intro s
    rw [Bitmap.has_unmark]
    by_cases same : s = slot.slot <;> simp [same]
  · dsimp only
    omega
  · dsimp only
    rw [FreeList.toList_push, List.length_cons]
    omega

theorem Census.freeSlot {address : Nat} (census : slab.Census)
    (accepted : slab.freeSlot address index slot = .ok after) : after.Census := by
  obtain ⟨sizeClass, page, cut, set, swap, rfl⟩ := census.putting accepted
  have absent : slot ∉ slab.freeSlots index := by
    intro spare
    have clear := ((census.free _ slot).1 spare).1
    rw [set] at clear
    cases clear
  have known : (sizeClass.free.push slot).toList = slot :: slab.freeSlots index := by
    rw [FreeList.toList_push, freeSlots_of_class swap.classed]
  apply census.swap swap cut
  · dsimp only
    rw [known]
    exact List.nodup_cons.2 ⟨absent, census.distinct _⟩
  · intro s
    by_cases same : s = slot <;> simp [same, known]

namespace Grown
variable {slotSize i size : Nat} {other : Block}

-- A slot lies in the new page, or it was cut before.
theorem cut_cases (grown : slab.Grown after block index slotSize slots)
    (cut : after.Cut slot other i size) :
    slab.Cut slot other i size ∨ (slot.page = slab.pages.length ∧ i = index ∧ slot.slot < slots) := by
  obtain ⟨listed, sized, numbered⟩ := cut
  rw [grown.change.sizes] at sized
  rw [grown.change.config] at numbered
  rw [grown.change.layout] at listed
  by_cases old : slot.page < slab.layout.length
  · rw [List.getElem?_append_left old] at listed
    exact Or.inl ⟨listed, sized, numbered⟩
  · rw [List.getElem?_append_right (Nat.le_of_not_lt old)] at listed
    obtain ⟨last, same⟩ := List.getElem?_eq_some_iff.1 listed
    simp only [List.length_cons, List.length_nil] at last
    simp only [List.getElem_singleton, Prod.mk.injEq] at same
    obtain ⟨_, rfl⟩ := same
    cases grown.sized.symm.trans sized
    rw [length_layout] at old last
    exact Or.inr ⟨by omega, rfl, grown.counted ▸ numbered⟩

theorem distinct (grown : slab.Grown after block index slotSize slots) (census : slab.Census) (i : Nat) :
    (after.freeSlots i).Nodup := by
  rw [grown.change.free]
  by_cases here : i = index
  · rw [if_pos here]
    refine nodup_spareSlots_append slots (census.distinct index) fun s old => ?_
    obtain ⟨_, _, _, cut⟩ := (census.free index s).1 old
    exact cut.older
  · rw [if_neg here]
    exact census.distinct i

-- In the new page exactly the slots behind the first are free, and only for its own class.
theorem free_new (grown : slab.Grown after block index slotSize slots) (census : slab.Census)
    (new : slot.page = slab.pages.length) :
    slot ∈ after.freeSlots i ↔
      after.taken slot = false ∧ ∃ other size, after.Cut slot other i size := by
  have outside : slot ∉ slab.freeSlots i := by
    intro old
    obtain ⟨_, _, _, cut⟩ := (census.free i slot).1 old
    exact Nat.ne_of_lt cut.older new
  have unused : slab.taken slot = false := taken_of_no_page (Nat.le_of_eq new.symm)
  obtain ⟨number, s⟩ := slot
  cases new
  rw [grown.change.free, grown.change.taken]
  constructor
  · intro member
    by_cases here : i = index
    · subst here
      rw [if_pos rfl] at member
      obtain ⟨_, later, small⟩ := mem_spareSlots.1 ((List.mem_append.1 member).resolve_right outside)
      refine ⟨?_, _, _, grown.newest small⟩
      rw [if_neg fun same => later (Slot.mk.inj same).2, unused]
    · rw [if_neg here] at member
      exact absurd member outside
  · rintro ⟨clear, other, size, cut⟩
    rcases grown.cut_cases cut with old | ⟨_, rfl, small⟩
    · exact absurd old.older (Nat.lt_irrefl _)
    · rw [if_pos rfl]
      refine List.mem_append_left _ (mem_spareSlots.2 ⟨rfl, ?_, small⟩)
      rintro rfl
      rw [if_pos rfl] at clear
      cases clear

theorem free_old (grown : slab.Grown after block index slotSize slots) (census : slab.Census)
    (old : slot.page ≠ slab.pages.length) :
    slot ∈ after.freeSlots i ↔
      after.taken slot = false ∧ ∃ other size, after.Cut slot other i size := by
  have older : slot ≠ ⟨slab.pages.length, 0⟩ := fun same => old (congrArg Slot.page same)
  have kept : (∃ other size, after.Cut slot other i size) ↔
      ∃ other size, slab.Cut slot other i size := by
    constructor
    · rintro ⟨other, size, cut⟩
      exact ⟨other, size, (grown.cut_cases cut).resolve_right fun last => old last.1⟩
    · rintro ⟨other, size, cut⟩
      exact ⟨other, size, grown.change.cut cut⟩
  rw [grown.change.free, grown.change.taken, if_neg older, kept, ← census.free]
  by_cases here : i = index
  · rw [if_pos here, List.mem_append, here]
    exact ⟨fun member => member.resolve_left fun last => old (mem_spareSlots.1 last).1, Or.inr⟩
  · rw [if_neg here]

theorem taken (grown : slab.Grown after block index slotSize slots) (census : slab.Census)
    (marked : after.taken slot = true) : ∃ i other size, after.Cut slot other i size := by
  rw [grown.change.taken] at marked
  by_cases first : slot = ⟨slab.pages.length, 0⟩
  · subst first
    exact ⟨_, _, _, grown.newest grown.usable⟩
  · rw [if_neg first] at marked
    obtain ⟨i, other, size, cut⟩ := census.taken slot marked
    exact ⟨i, other, size, grown.change.cut cut⟩

end Grown

theorem pagesOf_adopt (slab : Slab) (index : Nat) (sizeClass : SizeClass) (page : SlabPage)
    (slots i : Nat) : (slab.adopt index sizeClass page slots).pagesOf i =
      slab.pagesOf i ++ if page.sizeClass = i then [page] else [] := by
  by_cases own : page.sizeClass = i <;> simp [pagesOf, adopt, own]

theorem adopt_counted (classed : slab.classes[index]? = some sizeClass) (usable : 0 < slots)
    (counted : slots = slab.config.slotsPerPage sizeClass.slotSize)
    (all : ∀ i sizeClass, slab.classes[i]? = some sizeClass → slab.Counted i sizeClass) (i : Nat)
    (found : SizeClass)
    (listed : (slab.adopt index sizeClass (firstTaken block index slots) slots).classes[i]? =
      some found) :
    (slab.adopt index sizeClass (firstTaken block index slots) slots).Counted i found := by
  by_cases here : i = index
  · subst here
    have inside := (List.getElem?_eq_some_iff.1 classed).1
    cases (List.getElem?_set_self inside).symm.trans listed
    obtain ⟨live, pages, total⟩ := all i sizeClass classed
    have single : (firstTaken block i slots).taken.population = 1 := by
      unfold firstTaken
      rw [Bitmap.population_mark (Bitmap.covers_forSlots usable) (Bitmap.forSlots_has slots 0),
        Bitmap.population_forSlots]
    have own : (firstTaken block i slots).sizeClass = i := rfl
    refine ⟨?_, ?_, ?_⟩
    · simp [marks, pagesOf_adopt, own, single, live]
    · simp [pagesOf_adopt, own, pages]
    · have spare : (sizeClass.free.addPage (Word.low32 slab.pages.length) slots).toList.length =
          (slots - 1) + sizeClass.free.toList.length := by
        simp [FreeList.toList_addPage]
      have same : (slab.adopt i sizeClass (firstTaken block i slots) slots).config = slab.config := rfl
      dsimp only
      rw [spare, same, ← counted, Nat.succ_mul]
      rw [← counted] at total
      omega
  · have old : slab.classes[i]? = some found := (List.getElem?_set_ne (Ne.symm here)).symm.trans listed
    obtain ⟨live, pages, total⟩ := all i found old
    have other : ¬ (firstTaken block index slots).sizeClass = i := Ne.symm here
    refine ⟨?_, ?_, total⟩
    · simp [live, marks, pagesOf_adopt, other]
    · simp [pages, pagesOf_adopt, other]

theorem Census.adopt (census : slab.Census) (classed : slab.classes[index]? = some sizeClass)
    (few : slab.pages.length < 0x1_0000_0000) (usable : 0 < slots)
    (counted : slots = slab.config.slotsPerPage sizeClass.slotSize) :
    (slab.adopt index sizeClass (firstTaken block index slots) slots).Census := by
  have grown : slab.Grown _ block index _ slots := adopt_grown classed few usable counted
  refine ⟨?_, grown.distinct census, ?_, fun s => grown.taken census,
    adopt_counted classed usable counted census.counted⟩
  · intro page member
    rw [grown.change.sizes, grown.change.config]
    rcases List.mem_append.1 member with old | new
    · exact census.words page old
    · cases List.mem_singleton.1 new
      exact ⟨sizeClass.slotSize, grown.sized, counted ▸ rfl⟩
  · intro i s
    by_cases new : s.page = slab.pages.length
    · exact grown.free_new census new
    · exact grown.free_old census new

theorem Cut.congr {slotSize : Nat} (cut : slab.Cut slot block index slotSize)
    (config : after.config = slab.config) (classes : after.classes = slab.classes)
    (pages : after.pages = slab.pages) : after.Cut slot block index slotSize := by
  obtain ⟨listed, sized, numbered⟩ := cut
  refine ⟨?_, ?_, ?_⟩
  · rw [← listed, layout, layout, pages]
  · rw [← sized, slotSizes, slotSizes, classes]
  · rw [config]
    exact numbered

theorem Census.congr (census : slab.Census) (config : after.config = slab.config)
    (classes : after.classes = slab.classes) (pages : after.pages = slab.pages) : after.Census := by
  have cut : ∀ {s i}, (∃ block slotSize, slab.Cut s block i slotSize) →
      ∃ block slotSize, after.Cut s block i slotSize := by
    rintro s i ⟨block, slotSize, cut⟩
    exact ⟨block, slotSize, cut.congr config classes pages⟩
  have uncut : ∀ {s i}, (∃ block slotSize, after.Cut s block i slotSize) →
      ∃ block slotSize, slab.Cut s block i slotSize := by
    rintro s i ⟨block, slotSize, cut⟩
    exact ⟨block, slotSize, cut.congr config.symm classes.symm pages.symm⟩
  have free : ∀ i, after.freeSlots i = slab.freeSlots i := by simp [freeSlots, classes]
  have taken : ∀ s, after.taken s = slab.taken s := by simp [Slab.taken, pages]
  refine ⟨?_, ?_, ?_, ?_, ?_⟩
  · rw [pages, config, slotSizes, classes]
    exact census.words
  · intro i
    rw [free]
    exact census.distinct i
  · intro i s
    rw [free, taken, census.free]
    exact and_congr_right fun _ => ⟨cut, uncut⟩
  · intro s marked
    obtain ⟨i, old⟩ := census.taken s (taken s ▸ marked)
    exact ⟨i, cut old⟩
  · intro i found listed
    obtain ⟨live, owned, total⟩ := census.counted i found (classes ▸ listed)
    refine ⟨?_, ?_, config ▸ total⟩
    · rw [live, marks, marks, pagesOf, pagesOf, pages]
    · rw [owned, pagesOf, pagesOf, pages]

theorem Census.make (owner : Nat) (config : SlabConfig) : (Slab.make owner config).Census := by
  refine ⟨by simp [Slab.make], by simp [freeSlots_make], ?_, by simp [Slab.taken, Slab.make], ?_⟩
  · intro i s
    rw [freeSlots_make]
    constructor
    · intro member
      cases member
    · rintro ⟨_, _, _, cut⟩
      exact absurd cut.older (Nat.not_lt_zero _)
  · intro i sizeClass classed
    simp only [Slab.make, List.getElem?_map] at classed
    obtain ⟨slotSize, _, rfl⟩ := Option.map_eq_some_iff.1 classed
    exact ⟨rfl, rfl, by simp [FreeList.toList]⟩

end Slab

end LayeredAllocation
