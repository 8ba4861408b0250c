import LayeredAllocation.Proofs.Calls
import LayeredAllocation.Proofs.Contract
import LayeredAllocation.Proofs.Slots
import LayeredAllocation.Proofs.Steps.Slab

namespace LayeredAllocation

-- A power of two keeps its value in 32 bits, or nothing of it.
theorem Word.low32_of_power {n : Nat} (power : Word.isPowerOfTwo n = true) :
    Word.low32 n = if n < 0x1_0000_0000 then n else 0 := by
  unfold low32
  split
  · next small => exact Nat.mod_eq_of_lt small
  · next large =>
    have whole : Word.isPowerOfTwo 0x1_0000_0000 = true := rfl
    exact Nat.mod_eq_zero_of_dvd (Word.dvd_of_le whole power (Nat.le_of_not_lt large))

theorem Word.isPowerOfTwo_div {a b : Nat} (first : isPowerOfTwo a = true)
    (second : isPowerOfTwo b = true) (le : b ≤ a) : isPowerOfTwo (a / b) = true := by
  obtain ⟨m, rfl⟩ := isPowerOfTwo_iff.1 first
  obtain ⟨n, rfl⟩ := isPowerOfTwo_iff.1 second
  have smaller : n ≤ m := (Nat.pow_le_pow_iff_right (by decide)).1 le
  rw [Nat.pow_div smaller (by decide)]
  exact isPowerOfTwo_iff.2 ⟨m - n, rfl⟩

namespace SlabConfig
variable {config : SlabConfig} {slotSize : Nat}

theorem divides_evenly (accepted : config.validate = .ok ()) (member : slotSize ∈ config.classes) :
    slotSize * (config.pageSize / slotSize) = config.pageSize ∧ 1 ≤ config.pageSize / slotSize := by
  have valid := validate_eq_ok_iff.1 accepted
  obtain ⟨large, power, fits⟩ := valid.usable slotSize member
  exact ⟨Nat.mul_div_cancel' (Word.dvd_of_le power valid.page fits),
    Nat.div_pos fits (by omega)⟩

def Countable (config : SlabConfig) (slotSize : Nat) : Prop :=
  config.pageSize / slotSize < 0x1_0000_0000

instance : Decidable (config.Countable slotSize) := inferInstanceAs (Decidable (_ < _))

theorem slotsPerPage_eq (accepted : config.validate = .ok ()) (member : slotSize ∈ config.classes) :
    config.slotsPerPage slotSize =
      if config.Countable slotSize then config.pageSize / slotSize else 0 := by
  have valid := validate_eq_ok_iff.1 accepted
  obtain ⟨_, power, fits⟩ := valid.usable slotSize member
  exact Word.low32_of_power (Word.isPowerOfTwo_div valid.page power fits)

end SlabConfig

namespace Slab
variable {slab grown : Slab} {config : SlabConfig} {index slots : Nat} {sizeClass : SizeClass}
  {request pageRequest : Request} {block page : Block}

structure Gains (slab grown : Slab) (index : Nat) (block : Block) (slots : Nat) : Prop where
  page : ∃ taken, grown.pages = slab.pages ++ [⟨block, index, taken⟩] ∧
    (∀ slot < slots, taken.covers slot = true) ∧ ∀ slot, taken.has slot = decide (slot = 0)
  free : grown.freeSlots index =
    spareSlots (Word.low32 slab.pages.length) slots ++ slab.freeSlots index
  more : (grown.freeSlots index).length = (slab.freeSlots index).length + (slots - 1)
  others : ∀ i ≠ index, grown.freeSlots i = slab.freeSlots i

theorem withPage_gains (classed : slab.classes[index]? = some sizeClass) (page : Block) :
    slab.Gains (slab.withPage index sizeClass page) index page
      (slab.config.slotsPerPage sizeClass.slotSize) := by
  have free (i : Nat) : (slab.withPage index sizeClass page).freeSlots i =
      if i = index then spareSlots (Word.low32 slab.pages.length)
        (slab.config.slotsPerPage sizeClass.slotSize) ++ slab.freeSlots index
      else slab.freeSlots i := by
    have counted : ({ slab with held := slab.held.add page.size } : Slab).classes[index]? =
      some sizeClass := classed
    unfold withPage adopt
    dsimp only
    rw [freeSlots_set counted, FreeList.toList_addPage, freeSlots_of_class classed]
    rfl
  constructor
  · refine ⟨(slab.newPage index sizeClass page).taken, rfl, ?_, ?_⟩
    · intro slot small
      exact Bitmap.covers_forSlots small
    · intro slot
      simp [newPage, Bitmap.has_mark, Bitmap.forSlots_has]
  · rw [free, if_pos rfl]
  · rw [free, if_pos rfl, List.length_append, Nat.add_comm]
    simp [spareSlots]
  · intro i other
    rw [free, if_neg other]

section
variable {below : Source σ} {s after : σ} {machine machine' : Machine}

theorem allocate_page (grows : slab.Grows request index sizeClass)
    (asked : Request.bytes? slab.config.pageSize sizeClass.slotSize false Site.internal =
      .ok pageRequest)
    (answer : below.allocate pageRequest s machine = ⟨.ok page, after, machine'⟩) :
    let reply := Slab.allocate below request (slab, s) machine
    if 0 < slab.config.slotsPerPage sizeClass.slotSize then
      reply.result = .ok (slab.firstBlock index sizeClass page request) ∧
        reply.state = (slab.withPage index sizeClass page, after)
    else
      reply.result = .error (.panicked "index out of bounds: the len is 0 but the index is 0") ∧
        reply.state = ({ slab with held := slab.held.add page.size, interrupted := true }, after) := by
  obtain ⟨fits, running, full, classed⟩ := grows
  have idle : ¬ slab.interrupted = true := by simp [running]
  simp only [Slab.allocate, fits, allocateSlot, if_neg idle, full, classed, grow, asked, answer]
  by_cases usable : 0 < slab.config.slotsPerPage sizeClass.slotSize
  · rw [if_pos (Bitmap.covers_forSlots usable), if_pos usable]
    exact ⟨rfl, rfl⟩
  · rw [if_neg fun covered => usable (Bitmap.slots_pos_of_covers covered), if_neg usable]
    exact ⟨rfl, rfl⟩

structure Configured (slab : Slab) (config : SlabConfig) : Prop where
  same : slab.config = config
  sizes : slab.slotSizes = config.classes

theorem Configured.make (owner : Nat) (config : SlabConfig) :
    Configured (.make owner config) config := by
  refine ⟨rfl, ?_⟩
  simp [slotSizes, Slab.make, Function.comp_def]

theorem Change.configured {pages : List (Block × Nat)} {free : List Slot} {slot : Slot} {mark : Bool}
    (change : Change slab grown pages index free slot mark) (configured : slab.Configured config) :
    grown.Configured config :=
  ⟨change.config.trans configured.same, change.sizes.trans configured.sizes⟩

theorem Configured.allocate (configured : slab.Configured config) :
    (Slab.allocate below request (slab, s) machine).state.1.Configured config := by
  have step := allocate_step below request slab s machine
  generalize Slab.allocate below request (slab, s) machine = reply at step ⊢
  cases step with
  | took fits running taken =>
    obtain ⟨_, _, _, _, _, _, _, _, change⟩ := takeSlot?_eq_some taken
    exact change.configured configured
  | @grew index sizeClass _ page _ _ grows asked answer usable =>
    refine ⟨configured.same, ?_⟩
    rw [← configured.sizes]
    exact slotSizes_adopt grows.classed (slab.newPage index sizeClass page) _
  | passed | passFailed | growFailed | burst | unaskable | stuck =>
    exact ⟨configured.same, configured.sizes⟩

theorem Configured.free (configured : slab.Configured config) :
    (Slab.free below block (slab, s) machine).state.1.Configured config := by
  have step := free_step below block slab s machine
  generalize Slab.free below block (slab, s) machine = reply at step ⊢
  cases step with
  | put tag running accepted =>
    obtain ⟨_, _, _, _, _, _, _, change⟩ := freeSlot_ok accepted
    exact change.configured configured
  | foreign | interrupted | refused | passed | passFailed => exact ⟨configured.same, configured.sizes⟩

theorem Configured.mem_classes (configured : slab.Configured config)
    (classed : slab.classes[index]? = some sizeClass) : sizeClass.slotSize ∈ config.classes := by
  rw [← configured.sizes]
  exact List.mem_of_getElem? (slotSizes_of_class classed)

end

end Slab

namespace Layer
variable {σ : Type} {below : Source σ} {config : SlabConfig} {owner : Nat} {start : σ}
  {origin machine : Machine} {past : List Event} {state : Layer × σ}

theorem run_configured (run : Run (perform below) (fun _ _ _ => True)
      (.slab (.make owner config), start) origin past state machine) :
    ∃ slab s, state = (.slab slab, s) ∧ slab.Configured config := by
  induction run with
  | start => exact ⟨_, start, rfl, .make owner config⟩
  | @call past call state machine run _ ih =>
    obtain ⟨slab, s, rfl, configured⟩ := ih
    cases call with
    | allocate request => exact ⟨_, _, rfl, configured.allocate⟩
    | free block => exact ⟨_, _, rfl, configured.free⟩
    | trim | dispose => exact ⟨slab, s, rfl, configured⟩

-- Every class divides the pages of a valid configuration evenly. The slots are counted as what they
-- are exactly if 32 bits are enough for them. In that case every page that arrives, after any calls
-- and over any source, serves the request and leaves all other slots free. In the other case no page
-- of the class is of any use, and the slab does not survive the first.
theorem pages_usable_iff_countable (accepted : config.validate = .ok ())
    (run : Run (perform below) (fun _ _ _ => True) (.slab (.make owner config), start) origin past
      state machine) :
    (∀ slotSize ∈ config.classes,
      slotSize * (config.pageSize / slotSize) = config.pageSize ∧ 1 ≤ config.pageSize / slotSize ∧
        config.slotsPerPage slotSize =
          if config.Countable slotSize then config.pageSize / slotSize else 0) ∧
    ∃ slab s, state = (.slab slab, s) ∧
      ∀ request index sizeClass pageRequest page after machine',
        slab.Grows request index sizeClass →
        Request.bytes? slab.config.pageSize sizeClass.slotSize false Site.internal = .ok pageRequest →
        below.allocate pageRequest s machine = ⟨.ok page, after, machine'⟩ →
        let reply := Slab.allocate below request (slab, s) machine
        ∃ grown, reply.state = (grown, after) ∧
          if config.Countable sizeClass.slotSize then
            (∃ block, reply.result = .ok block) ∧
              slab.Gains grown index page (config.pageSize / sizeClass.slotSize)
          else
            reply.result = .error (.panicked "index out of bounds: the len is 0 but the index is 0") ∧
              grown = { slab with held := slab.held.add page.size, interrupted := true } := by
  obtain ⟨slab, s, rfl, configured⟩ := run_configured run
  obtain rfl := configured.same
  constructor
  · intro slotSize member
    obtain ⟨evenly, some⟩ := SlabConfig.divides_evenly accepted member
    exact ⟨evenly, some, SlabConfig.slotsPerPage_eq accepted member⟩
  refine ⟨slab, s, rfl, ?_⟩
  intro request index sizeClass pageRequest page after machine' grows asked answer
  have member := configured.mem_classes grows.classed
  have counted := SlabConfig.slotsPerPage_eq accepted member
  have arrived := Slab.allocate_page grows asked answer
  rw [counted] at arrived
  by_cases countable : slab.config.Countable sizeClass.slotSize
  · have some : 0 < slab.config.pageSize / sizeClass.slotSize :=
      (SlabConfig.divides_evenly accepted member).2
    rw [if_pos countable, if_pos some] at arrived
    refine ⟨_, arrived.2, ?_⟩
    rw [if_pos countable]
    have gains := Slab.withPage_gains grows.classed page
    rw [counted, if_pos countable] at gains
    exact ⟨⟨_, arrived.1⟩, gains⟩
  · rw [if_neg countable, if_neg (Nat.lt_irrefl 0)] at arrived
    refine ⟨_, arrived.2, ?_⟩
    rw [if_neg countable]
    exact ⟨arrived.1, rfl⟩

def hugePages : SlabConfig := ⟨[8, 16], 0x8_0000_0000⟩

theorem pages_usable_iff_countable_hugePages :
    SlabConfig.validate hugePages = .ok () ∧ hugePages.slotsPerPage 16 = 0x8000_0000 ∧
      hugePages.slotsPerPage 8 = 0 ∧
      (Slab.allocate SystemStore.source ⟨16, 8, false, 1, 16, Site.internal⟩
        (.make 1 hugePages, {}) ⟨{ platform := .ascending }, []⟩).state.1.freeSlots 1 =
          Slab.spareSlots 0 0x8000_0000 := by
  have accepted : SlabConfig.validate hugePages = .ok () := rfl
  have run : Run (perform SystemStore.source) (fun _ _ _ => True) (.slab (.make 1 hugePages), {})
      ⟨{ platform := .ascending }, []⟩ [] (.slab (.make 1 hugePages), {})
      ⟨{ platform := .ascending }, []⟩ := .start
  obtain ⟨counted, slab, s, same, arrived⟩ := pages_usable_iff_countable accepted run
  cases same
  have wide := (counted 16 (by decide)).2.2
  have narrow := (counted 8 (by decide)).2.2
  rw [if_pos (by decide)] at wide
  rw [if_neg (by decide)] at narrow
  refine ⟨accepted, wide, narrow, ?_⟩
  have grows : (Slab.make 1 hugePages).Grows ⟨16, 8, false, 1, 16, Site.internal⟩ 1
      { slotSize := 16 } := ⟨rfl, rfl, rfl, rfl⟩
  obtain ⟨grown, state, outcome⟩ := arrived ⟨16, 8, false, 1, 16, Site.internal⟩ 1 { slotSize := 16 }
    ⟨0x8_0000_0000, 16, false, 1, 0x8_0000_0000, Site.internal⟩
    ⟨Platform.floor, 0x8_0000_0000, 16, .system⟩ _ _ grows rfl rfl
  rw [if_pos (by decide)] at outcome
  have fresh : (Slab.make 1 hugePages).freeSlots 1 = [] := rfl
  rw [state, outcome.2.free, fresh, List.append_nil]
  rfl

-- The configuration is accepted, and the first request for 8 bytes panics.
theorem uncountable_page_panics :
    SlabConfig.validate hugePages = .ok () ∧ 8 ∈ hugePages.classes ∧
      hugePages.slotsPerPage 8 ≠ hugePages.pageSize / 8 ∧ ¬ 1 ≤ hugePages.slotsPerPage 8 ∧
      (Slab.allocate SystemStore.source ⟨8, 8, false, 1, 8, Site.internal⟩
        (.make 1 hugePages, {}) ⟨{ platform := .ascending }, []⟩).result =
          .error (.panicked "index out of bounds: the len is 0 but the index is 0") :=
  ⟨rfl, by decide, by decide, by decide, rfl⟩

end Layer

end LayeredAllocation
