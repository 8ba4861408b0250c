import LayeredAllocation.Strategy.Slab

namespace LayeredAllocation

structure SlabConfig.Valid (config : SlabConfig) : Prop where
  some : config.classes ≠ []
  few : config.classes.length ≤ 255
  ascending : isAscending config.classes = true
  usable : ∀ size ∈ config.classes, 8 ≤ size ∧ Word.isPowerOfTwo size = true ∧ size ≤ config.pageSize
  page : Word.isPowerOfTwo config.pageSize = true

theorem SlabConfig.allUsable_iff {config : SlabConfig} :
    config.allUsable = true ↔ ∀ size ∈ config.classes,
      8 ≤ size ∧ Word.isPowerOfTwo size = true ∧ size ≤ config.pageSize := by
  simp only [allUsable, List.all_eq_true, Bool.and_eq_true, decide_eq_true_eq, and_assoc]

theorem SlabConfig.validate_eq_ok_iff {config : SlabConfig} :
    config.validate = .ok () ↔ config.Valid := by
  unfold validate
  constructor
  · intro accepted
    split at accepted
    · cases accepted
    · next some =>
      split at accepted
      · cases accepted
      · next few =>
        split at accepted
        · cases accepted
        · next ascending =>
          split at accepted
          · cases accepted
          · next usable =>
            refine ⟨?_, Nat.le_of_not_lt few, Decidable.of_not_not ascending,
              allUsable_iff.1 (Decidable.of_not_not usable), Error.verify_eq_ok_iff.1 accepted⟩
            rintro none
            exact some (List.isEmpty_iff.2 none)
  · rintro ⟨some, few, ascending, usable, page⟩
    rw [if_neg (mt List.isEmpty_iff.1 some), if_neg (Nat.not_lt.2 few), if_neg (not_not_intro ascending),
      if_neg (not_not_intro (allUsable_iff.2 usable))]
    exact Error.verify_eq_ok_iff.2 page

namespace Slab
variable {slab : Slab}

-- Pages of a valid configuration have slots, unless there are too many to count.
theorem usable_of_valid {config : SlabConfig} (accepted : config.validate = .ok ())
    (few : ∀ slotSize ∈ config.classes, config.pageSize / slotSize < 0x1_0000_0000) :
    ∀ slotSize ∈ config.classes, 0 < config.slotsPerPage slotSize := by
  intro slotSize member
  obtain ⟨large, _, fits⟩ := (SlabConfig.validate_eq_ok_iff.1 accepted).usable slotSize member
  have some : 0 < config.pageSize / slotSize := Nat.div_pos fits (by omega)
  unfold SlabConfig.slotsPerPage Word.low32
  rwa [Nat.mod_eq_of_lt (few slotSize member)]

def layout (slab : Slab) : List (Block × Nat) :=
  slab.pages.map fun page => (page.block, page.sizeClass)

def taken (slab : Slab) (slot : Slot) : Bool := slab.pages[slot.page]?.any (·.taken.has slot.slot)

def freeSlots (slab : Slab) (index : Nat) : List Slot :=
  (slab.classes[index]?.map (·.free.toList)).getD []

def slotSizes (slab : Slab) : List Nat := slab.classes.map SizeClass.slotSize

theorem length_layout : slab.layout.length = slab.pages.length := List.length_map _

theorem layout_of_page {page : SlabPage} {number : Nat} (listed : slab.pages[number]? = some page) :
    slab.layout[number]? = some (page.block, page.sizeClass) := by
  simp only [layout, List.getElem?_map, listed, Option.map_some]

theorem slotSizes_of_class {sizeClass : SizeClass} {index : Nat}
    (classed : slab.classes[index]? = some sizeClass) :
    slab.slotSizes[index]? = some sizeClass.slotSize := by
  simp only [slotSizes, List.getElem?_map, classed, Option.map_some]

theorem freeSlots_of_class {sizeClass : SizeClass} {index : Nat}
    (classed : slab.classes[index]? = some sizeClass) :
    slab.freeSlots index = sizeClass.free.toList := by
  simp only [freeSlots, classed, Option.map_some, Option.getD_some]

theorem taken_of_page {page : SlabPage} {number : Nat} (listed : slab.pages[number]? = some page)
    (slot : Nat) : slab.taken ⟨number, slot⟩ = page.taken.has slot := by
  simp only [taken, listed, Option.any_some]

theorem taken_of_no_page {slot : Slot} (behind : slab.pages.length ≤ slot.page) :
    slab.taken slot = false := by
  simp only [taken, List.getElem?_eq_none behind, Option.any_none]

theorem freeSlots_make (owner : Nat) (config : SlabConfig) (index : Nat) :
    (make owner config).freeSlots index = [] := by
  unfold freeSlots make
  rw [List.getElem?_map, Option.map_map]
  cases config.classes[index]? <;> rfl

-- What an operation on one slot of one class does, when it may also add pages.
structure Change (before after : Slab) (pages : List (Block × Nat)) (index : Nat)
    (free : List Slot) (slot : Slot) (mark : Bool) : Prop where
  owner : after.owner = before.owner
  config : after.config = before.config
  held : after.held = before.held
  sizes : after.slotSizes = before.slotSizes
  layout : after.layout = before.layout ++ pages
  free : ∀ i, after.freeSlots i = if i = index then free else before.freeSlots i
  taken : ∀ s, after.taken s = if s = slot then mark else before.taken s

theorem set_eq_self {list : List α} {i : Nat} {a : α} (listed : list[i]? = some a) :
    list.set i a = list := by
  obtain ⟨inside, rfl⟩ := List.getElem?_eq_some_iff.1 listed
  exact List.set_getElem_self inside

theorem slotSizes_set {sizeClass changed : SizeClass} {index : Nat}
    (classed : slab.classes[index]? = some sizeClass) (size : changed.slotSize = sizeClass.slotSize) :
    (slab.classes.set index changed).map SizeClass.slotSize = slab.slotSizes := by
  rw [List.map_set, size]
  exact set_eq_self (slotSizes_of_class classed)

theorem freeSlots_set {sizeClass changed : SizeClass} {index : Nat} {pages : List SlabPage}
    (classed : slab.classes[index]? = some sizeClass) (i : Nat) :
    freeSlots { slab with classes := slab.classes.set index changed, pages } i =
      if i = index then changed.free.toList else slab.freeSlots i := by
  have inside := (List.getElem?_eq_some_iff.1 classed).1
  unfold freeSlots
  dsimp only
  split
  · next same => rw [same, List.getElem?_set_self inside]; rfl
  · next other => rw [List.getElem?_set_ne (Ne.symm other)]

theorem change_of_set {sizeClass changed : SizeClass} {page marked : SlabPage}
    {index number slot : Nat} {mark : Bool} (classed : slab.classes[index]? = some sizeClass)
    (listed : slab.pages[number]? = some page) (size : changed.slotSize = sizeClass.slotSize)
    (block : marked.block = page.block) (owner : marked.sizeClass = page.sizeClass)
    (bits : ∀ s, marked.taken.has s = if s = slot then mark else page.taken.has s) :
    Change slab
      { slab with
        classes := slab.classes.set index changed
        pages := slab.pages.set number marked }
      [] index changed.free.toList ⟨number, slot⟩ mark where
  owner := rfl
  config := rfl
  held := rfl
  sizes := slotSizes_set classed size
  layout := by
    rw [List.append_nil]
    unfold layout
    rw [List.map_set, block, owner]
    exact set_eq_self (layout_of_page listed)
  free := freeSlots_set classed
  taken s := by
    have inside := (List.getElem?_eq_some_iff.1 listed).1
    obtain ⟨other, s⟩ := s
    by_cases same : other = number
    · subst same
      have there := List.getElem?_set_self (a := marked) inside
      rw [taken_of_page there, bits, taken_of_page listed]
      simp only [Slot.mk.injEq, true_and]
    · rw [if_neg (by simp [same])]
      unfold taken
      rw [List.getElem?_set_ne (Ne.symm same)]

def swapped (slab : Slab) (index : Nat) (slot : Slot) (changed : SizeClass) (marked : SlabPage) : Slab :=
  { slab with
    classes := slab.classes.set index changed
    pages := slab.pages.set slot.page marked }

theorem takeSlot?_parts {index : Nat} {request : Request} {block : Block} {after : Slab}
    (taken : slab.takeSlot? index request = some (block, after)) :
    ∃ sizeClass slot rest page, slab.classes[index]? = some sizeClass ∧
      sizeClass.free.pop? = some (slot, rest) ∧ slab.pages[slot.page]? = some page ∧
      block = slab.slotBlock page sizeClass.slotSize slot request ∧
      after = slab.swapped index slot { sizeClass with free := rest, live := sizeClass.live + 1 }
        { page with taken := page.taken.mark slot.slot } := by
  unfold takeSlot? at taken
  split at taken
  · cases taken
  · next sizeClass classed =>
    split at taken
    · cases taken
    · next slot rest popped =>
      split at taken
      · cases taken
      · next page listed =>
        cases taken
        exact ⟨sizeClass, slot, rest, page, classed, popped, listed, rfl, rfl⟩

theorem takeSlot?_eq_some {index : Nat} {request : Request} {block : Block} {after : Slab}
    (taken : slab.takeSlot? index request = some (block, after)) :
    ∃ slot rest page slotSize, slab.freeSlots index = slot :: rest ∧
      slab.layout[slot.page]? = some page ∧ slab.slotSizes[index]? = some slotSize ∧
      block = ⟨page.1.address + slot.slot * slotSize, request.size, request.align,
        .slab slab.owner page.2 slot.page slot.slot⟩ ∧
      Change slab after [] index rest slot true := by
  obtain ⟨sizeClass, slot, rest, page, classed, popped, listed, rfl, rfl⟩ := takeSlot?_parts taken
  refine ⟨slot, rest.toList, _, _, ?_, layout_of_page listed, slotSizes_of_class classed, rfl, ?_⟩
  · rw [freeSlots_of_class classed, FreeList.pop?_eq_some popped]
  · refine change_of_set classed listed rfl rfl rfl fun s => ?_
    rw [Bitmap.has_mark]
    split
    · next same => simp [same]
    · next other => simp [other]

theorem freeSlot_parts {address index : Nat} {slot : Slot} {after : Slab}
    (accepted : slab.freeSlot address index slot = .ok after) :
    ∃ sizeClass page, slab.classes[index]? = some sizeClass ∧ slab.pages[slot.page]? = some page ∧
      page.sizeClass = index ∧ slot.slot < slab.config.slotsPerPage sizeClass.slotSize ∧
      page.block.address + slot.slot * sizeClass.slotSize = address ∧
      page.taken.has slot.slot = true ∧
      after = slab.swapped index slot
        { sizeClass with free := sizeClass.free.push slot, live := sizeClass.live - 1 }
        { page with taken := page.taken.unmark slot.slot } := by
  unfold freeSlot at accepted
  split at accepted
  · cases accepted
  · next page listed =>
    split at accepted
    · cases accepted
    · next sizeClass classed =>
      split at accepted
      · cases accepted
      · next placed =>
        split at accepted
        · next marked =>
          cases accepted
          simp only [not_or, Decidable.not_not, Nat.not_le] at placed
          obtain ⟨rfl, numbered, here⟩ := placed
          exact ⟨sizeClass, page, classed, listed, rfl, numbered, here, marked, rfl⟩
        · cases accepted

-- A slot is put back only where it was cut, and only while it is taken.
theorem freeSlot_ok {address index : Nat} {slot : Slot} {after : Slab}
    (accepted : slab.freeSlot address index slot = .ok after) :
    ∃ block slotSize, slab.layout[slot.page]? = some (block, index) ∧
      slab.slotSizes[index]? = some slotSize ∧ slot.slot < slab.config.slotsPerPage slotSize ∧
      block.address + slot.slot * slotSize = address ∧ slab.taken slot = true ∧
      Change slab after [] index (slot :: slab.freeSlots index) slot false := by
  obtain ⟨sizeClass, page, classed, listed, rfl, numbered, here, marked, rfl⟩ := freeSlot_parts accepted
  refine ⟨page.block, sizeClass.slotSize, layout_of_page listed, slotSizes_of_class classed, numbered,
    here, ?_, ?_⟩
  · rw [← marked]
    exact taken_of_page listed slot.slot
  · rw [freeSlots_of_class classed, ← FreeList.toList_push]
    refine change_of_set classed listed rfl rfl rfl fun s => ?_
    rw [Bitmap.has_unmark]
    split
    · next same => simp [same]
    · next other => simp [other]

-- The slots that a new page adds to the free ones.
def spareSlots (number slots : Nat) : List Slot :=
  (List.range (slots - 1)).map fun i => ⟨number, 1 + i⟩

theorem mem_spareSlots {number slots : Nat} {slot : Slot} :
    slot ∈ spareSlots number slots ↔ slot.page = number ∧ slot.slot ≠ 0 ∧ slot.slot < slots := by
  unfold spareSlots
  rw [List.mem_map]
  constructor
  · rintro ⟨i, small, rfl⟩
    have small := List.mem_range.1 small
    exact ⟨rfl, by dsimp only; omega, by dsimp only; omega⟩
  · rintro ⟨rfl, other, small⟩
    refine ⟨slot.slot - 1, List.mem_range.2 (by omega), ?_⟩
    cases slot
    simp only [Slot.mk.injEq, true_and]
    dsimp only at other
    omega

theorem nodup_spareSlots (number slots : Nat) : (spareSlots number slots).Nodup := by
  refine List.pairwise_map.2 (List.nodup_range.imp fun different same => different ?_)
  have := (Slot.mk.inj same).2
  omega

-- The slots of a new page are none of the free ones on older pages.
theorem nodup_spareSlots_append {number : Nat} {free : List Slot} (slots : Nat) (distinct : free.Nodup)
    (older : ∀ slot ∈ free, slot.page < number) : (spareSlots number slots ++ free).Nodup := by
  refine List.nodup_append.2 ⟨nodup_spareSlots number slots, distinct, ?_⟩
  rintro slot new _ old rfl
  exact Nat.ne_of_lt (older slot old) (mem_spareSlots.1 new).1

theorem slotSizes_adopt {index : Nat} {sizeClass : SizeClass}
    (classed : slab.classes[index]? = some sizeClass) (page : SlabPage) (slots : Nat) :
    (slab.adopt index sizeClass page slots).slotSizes = slab.slotSizes := slotSizes_set classed rfl

theorem layout_adopt (slab : Slab) (index : Nat) (sizeClass : SizeClass) (page : SlabPage)
    (slots : Nat) : (slab.adopt index sizeClass page slots).layout =
      slab.layout ++ [(page.block, page.sizeClass)] := by
  simp only [layout, adopt, List.map_append, List.map_cons, List.map_nil]

theorem adopt_change {index slots : Nat} {sizeClass : SizeClass} {page : SlabPage}
    (classed : slab.classes[index]? = some sizeClass) (few : slab.pages.length < 0x1_0000_0000)
    (bits : ∀ s, page.taken.has s = decide (s = 0)) :
    Change slab (slab.adopt index sizeClass page slots) [(page.block, page.sizeClass)] index
      (spareSlots slab.pages.length slots ++ slab.freeSlots index) ⟨slab.pages.length, 0⟩ true where
  owner := rfl
  config := rfl
  held := rfl
  sizes := slotSizes_adopt classed page slots
  layout := layout_adopt slab index sizeClass page slots
  free i := by
    have number : Word.low32 slab.pages.length = slab.pages.length := Nat.mod_eq_of_lt few
    unfold adopt
    rw [freeSlots_set classed, FreeList.toList_addPage, number, freeSlots_of_class classed]
    rfl
  taken s := by
    obtain ⟨number, s⟩ := s
    by_cases new : number = slab.pages.length
    · subst new
      have there : (slab.adopt index sizeClass page slots).pages[slab.pages.length]? = some page :=
        List.getElem?_concat_length
      rw [taken_of_page there, bits, taken_of_no_page (Nat.le_refl _)]
      simp only [Slot.mk.injEq, true_and]
      split
      · next first => simp [first]
      · next later => simp [later]
    · rw [if_neg (by simp [new])]
      unfold taken adopt
      dsimp only
      by_cases old : number < slab.pages.length
      · rw [List.getElem?_append_left old]
      · have behind : slab.pages.length < number := by omega
        rw [List.getElem?_eq_none (by simp; omega), List.getElem?_eq_none (by omega)]

-- A page is added whose first slot is taken and whose other slots are free.
structure Grown (slab after : Slab) (block : Block) (index slotSize slots : Nat) : Prop where
  change : Change slab after [(block, index)] index
    (spareSlots slab.pages.length slots ++ slab.freeSlots index) ⟨slab.pages.length, 0⟩ true
  sized : slab.slotSizes[index]? = some slotSize
  counted : slots = slab.config.slotsPerPage slotSize
  usable : 0 < slots

def firstTaken (block : Block) (index slots : Nat) : SlabPage :=
  ⟨block, index, (Bitmap.forSlots slots).mark 0⟩

theorem adopt_grown {index slots : Nat} {sizeClass : SizeClass} {block : Block}
    (classed : slab.classes[index]? = some sizeClass) (few : slab.pages.length < 0x1_0000_0000)
    (usable : 0 < slots) (counted : slots = slab.config.slotsPerPage sizeClass.slotSize) :
    slab.Grown (slab.adopt index sizeClass (firstTaken block index slots) slots) block index
      sizeClass.slotSize slots := by
  refine ⟨?_, slotSizes_of_class classed, counted, usable⟩
  have bits : ∀ s, (firstTaken block index slots).taken.has s = decide (s = 0) := by
    simp [firstTaken, Bitmap.has_mark, Bitmap.forSlots_has]
  exact adopt_change classed few bits

end Slab

end LayeredAllocation
