import Mathlib.Data.List.Nodup
import LayeredAllocation.Proofs.Ledger
import LayeredAllocation.Proofs.Tenure

namespace LayeredAllocation.Hybrid
variable {σ : Type} {below : Source σ} {first hybrid : Hybrid} {past : List Event} {request : Request}
  {block : Block} {s : σ} {machine : Machine} {owner id : Nat}

-- The block that an event shows to have been pinned by a hybrid with these thresholds.
def pinned? (first : Hybrid) : Event → Option Block
  | ⟨.allocate request, .ok (some block)⟩ => if first.pins request = true then some block else none
  | _ => none

def pinnings (first : Hybrid) (past : List Event) : List Block := past.filterMap first.pinned?

def takes (owner id : Nat) : Event → Bool
  | ⟨.free block, .ok _⟩ => block.tag = .pinned owner id
  | _ => false

-- Whether a block with this number of a pin has been taken back.
def takenBack (owner id : Nat) (past : List Event) : Bool := past.any (takes owner id)

theorem takenBack_cons (owner id : Nat) (event : Event) (past : List Event) :
    takenBack owner id (event :: past) = (takes owner id event || takenBack owner id past) :=
  List.any_cons

def pinOf (block : Block) : Nat :=
  match block.tag with
  | .pinned _ id => id
  | _ => 0

def standingPins (first : Hybrid) (past : List Event) : List Block :=
  (pinnings first past).filter fun block => !takenBack first.owner (pinOf block) past

-- What the hybrid keeps on record of a block.
def entryOf (block : Block) : Nat × PinnedBlock :=
  (pinOf block, ⟨block.address, PinnedBlock.chunksFor block.size⟩)

theorem pinOf_pinned (tag : block.tag = .pinned owner id) : pinOf block = id := by
  unfold pinOf
  rw [tag]

theorem length_pinnings_le (first : Hybrid) (event : Event) (past : List Event) :
    (pinnings first past).length ≤ (pinnings first (event :: past)).length := by
  apply List.Sublist.length_le
  exact (List.sublist_cons_self event past).filterMap first.pinned?

def numbers (owner count : Nat) : List ReleaseTag :=
  ((List.range count).map fun i => .pinned owner (i + 1)).reverse

theorem numbers_succ (owner count : Nat) :
    numbers owner (count + 1) = .pinned owner (count + 1) :: numbers owner count := by
  simp only [numbers, List.range_succ, List.map_append, List.map_cons, List.map_nil,
    List.reverse_append, List.reverse_cons, List.reverse_nil, List.nil_append, List.cons_append]

theorem mem_numbers {tag : ReleaseTag} {count : Nat} :
    tag ∈ numbers owner count ↔ ∃ id, 0 < id ∧ id ≤ count ∧ tag = .pinned owner id := by
  simp only [numbers, List.mem_reverse, List.mem_map, List.mem_range]
  constructor
  · rintro ⟨i, small, rfl⟩
    exact ⟨i + 1, Nat.succ_pos i, small, rfl⟩
  · rintro ⟨id, positive, small, rfl⟩
    refine ⟨id - 1, by omega, ?_⟩
    rw [Nat.sub_add_cancel positive]

theorem nodup_numbers (owner count : Nat) : (numbers owner count).Nodup := by
  unfold numbers
  rw [List.nodup_reverse]
  apply List.nodup_range.map
  intro i j same
  exact Nat.succ.inj (ReleaseTag.pinned.inj same).2

-- What a hybrid shows of its pins, the history shows too.
structure Enrolled (first : Hybrid) (past : List Event) (hybrid : Hybrid) : Prop where
  owner : hybrid.owner = first.owner
  thresholds : hybrid.thresholds = first.thresholds
  next : hybrid.nextPin = ((pinnings first past).length + 1) % Word.range
  tags : (pinnings first past).map Block.tag = numbers first.owner (pinnings first past).length
  taken : ∀ id, takenBack first.owner id past = true → 0 < id ∧ id ≤ (pinnings first past).length
  entries : hybrid.pinned.entries.Perm ((standingPins first past).map entryOf)
  bytes : hybrid.pinnedBytes = Counter.ofNat (hybrid.pinned.values.map PinnedBlock.size).sum

namespace Enrolled

theorem start (made : Layer.Made (.hybrid first)) : Enrolled first [] first := by
  cases made with
  | hybrid =>
    refine ⟨rfl, rfl, rfl, rfl, ?_, .refl _, rfl⟩
    intro id absurd
    cases absurd

theorem pins_eq (enrolled : Enrolled first past hybrid) (request : Request) :
    hybrid.pins request = first.pins request := by
  rw [Hybrid.pins, Hybrid.pins, enrolled.thresholds]

theorem number (enrolled : Enrolled first past hybrid) (member : block ∈ pinnings first past) :
    0 < pinOf block ∧ pinOf block ≤ (pinnings first past).length ∧
      block.tag = .pinned first.owner (pinOf block) := by
  have listed : block.tag ∈ (pinnings first past).map Block.tag := List.mem_map_of_mem member
  rw [enrolled.tags] at listed
  obtain ⟨id, positive, small, tag⟩ := mem_numbers.mp listed
  rw [pinOf_pinned tag]
  exact ⟨positive, small, tag⟩

theorem find?_eq_some (enrolled : Enrolled first past hybrid) {pinned : PinnedBlock}
    (found : hybrid.pinned.find? id = some pinned) :
    ∃ block ∈ pinnings first past, pinOf block = id ∧ takenBack first.owner id past = false := by
  have listed := enrolled.entries.mem_iff.mp (Table.find?_eq_some_iff.mp found)
  obtain ⟨block, standing, same⟩ := List.mem_map.mp listed
  cases same
  obtain ⟨member, out⟩ := List.mem_filter.mp standing
  exact ⟨block, member, rfl, by simpa using out⟩

theorem find?_of_mem (enrolled : Enrolled first past hybrid) (member : block ∈ pinnings first past) :
    hybrid.pinned.find? (pinOf block) =
      if takenBack first.owner (pinOf block) past = true then none
      else some ⟨block.address, PinnedBlock.chunksFor block.size⟩ := by
  split
  · next back =>
    cases found : hybrid.pinned.find? (pinOf block) with
    | none => rfl
    | some pinned =>
      obtain ⟨_, _, _, out⟩ := enrolled.find?_eq_some found
      rw [back] at out
      cases out
  · next out =>
    have standing : block ∈ standingPins first past :=
      List.mem_filter.mpr ⟨member, by simpa using out⟩
    apply Table.find?_eq_some_iff.mpr
    exact enrolled.entries.mem_iff.mpr (List.mem_map_of_mem standing)

-- An event that concerns no pin.
theorem skip {event : Event} (enrolled : Enrolled first past hybrid)
    (unpinned : first.pinned? event = none) (untaken : ∀ id, takes first.owner id event = false)
    (backingBytes : Counter) : Enrolled first (event :: past) { hybrid with backingBytes } := by
  have list : pinnings first (event :: past) = pinnings first past :=
    List.filterMap_cons_none unpinned
  have back : ∀ id, takenBack first.owner id (event :: past) = takenBack first.owner id past := by
    intro id
    rw [takenBack_cons, untaken, Bool.false_or]
  obtain ⟨owner, thresholds, next, tags, taken, entries, bytes⟩ := enrolled
  refine ⟨owner, thresholds, ?_, ?_, ?_, ?_, bytes⟩
  · rw [list]
    exact next
  · rw [list]
    exact tags
  · intro id
    rw [back, list]
    exact taken id
  · simp only [standingPins, list, back]
    exact entries

theorem failed (enrolled : Enrolled first past hybrid) (call : Call) (fault : Fault) :
    Enrolled first (⟨call, .error fault⟩ :: past) hybrid := by
  apply enrolled.skip
  · cases call <;> rfl
  · cases call <;> exact fun id => rfl

-- While numbers last, the next one is new: it is neither on record nor has it come back.
theorem nextPin_eq (enrolled : Enrolled first past hybrid)
    (few : (pinnings first past).length + 1 < Word.range) :
    hybrid.nextPin = (pinnings first past).length + 1 := by
  rw [enrolled.next, Nat.mod_eq_of_lt few]

theorem find?_nextPin (enrolled : Enrolled first past hybrid)
    (few : (pinnings first past).length + 1 < Word.range) :
    hybrid.pinned.find? hybrid.nextPin = none := by
  have next := enrolled.nextPin_eq few
  cases found : hybrid.pinned.find? hybrid.nextPin with
  | none => rfl
  | some pinned =>
    obtain ⟨block, member, same, _⟩ := enrolled.find?_eq_some found
    have small := (enrolled.number member).2.1
    omega

theorem takenBack_nextPin (enrolled : Enrolled first past hybrid)
    (few : (pinnings first past).length + 1 < Word.range) :
    takenBack first.owner hybrid.nextPin past = false := by
  have next := enrolled.nextPin_eq few
  apply Bool.eq_false_iff.mpr
  intro back
  have small := (enrolled.taken _ back).2
  omega

theorem register {event : Event} {base : Nat} (enrolled : Enrolled first past hybrid)
    (event_eq : first.pinned? event = some block) (untaken : ∀ id, takes first.owner id event = false)
    (place : block.address = base) (tag : block.tag = .pinned hybrid.owner hybrid.nextPin)
    (few : (pinnings first past).length + 1 < Word.range) :
    Enrolled first (event :: past) (hybrid.register ⟨base, PinnedBlock.chunksFor block.size⟩) := by
  have list : pinnings first (event :: past) = block :: pinnings first past :=
    List.filterMap_cons_some event_eq
  have back : ∀ id, takenBack first.owner id (event :: past) = takenBack first.owner id past := by
    intro id
    rw [takenBack_cons, untaken, Bool.false_or]
  have next := enrolled.nextPin_eq few
  refine ⟨enrolled.owner, enrolled.thresholds, ?_, ?_, ?_, ?_, ?_⟩
  · rw [list, List.length_cons, ← next]
    rfl
  · rw [list, List.map_cons, List.length_cons, numbers_succ, enrolled.tags, tag, ← next, enrolled.owner]
  · intro id taken
    rw [back] at taken
    obtain ⟨positive, small⟩ := enrolled.taken id taken
    rw [list, List.length_cons]
    exact ⟨positive, Nat.le_succ_of_le small⟩
  · have standing : standingPins first (event :: past) = block :: standingPins first past := by
      simp only [standingPins, list, back]
      rw [List.filter_cons_of_pos]
      rw [pinOf_pinned tag, enrolled.takenBack_nextPin few]
      rfl
    rw [standing, List.map_cons, entryOf, pinOf_pinned tag, place]
    exact (Table.insertEntry_perm (enrolled.find?_nextPin few)).trans (enrolled.entries.cons _)
  · have grown := (Table.values_insert (enrolled.find?_nextPin few)
      (PinnedBlock.mk base (PinnedBlock.chunksFor block.size))).map PinnedBlock.size
    have sums := grown.sum_nat
    rw [List.map_cons, List.sum_cons] at sums
    simp only [Hybrid.register]
    rw [enrolled.bytes, Counter.ofNat_add, sums, Nat.add_comm]

theorem unpin {event : Event} {pinned : PinnedBlock} (enrolled : Enrolled first past hybrid)
    (unpinned : first.pinned? event = none)
    (taken : ∀ other, takes first.owner other event = decide (other = id))
    (found : hybrid.pinned.find? id = some pinned) :
    Enrolled first (event :: past) { hybrid with
      pinned := hybrid.pinned.erase id
      pinnedBytes := hybrid.pinnedBytes.sub pinned.size } := by
  have list : pinnings first (event :: past) = pinnings first past :=
    List.filterMap_cons_none unpinned
  have back : ∀ other, takenBack first.owner other (event :: past) =
      (decide (other = id) || takenBack first.owner other past) := by
    intro other
    rw [takenBack_cons, taken]
  refine ⟨enrolled.owner, enrolled.thresholds, ?_, ?_, ?_, ?_, ?_⟩
  · rw [list]
    exact enrolled.next
  · rw [list]
    exact enrolled.tags
  · intro other came
    rw [list]
    rw [back, Bool.or_eq_true] at came
    rcases came with here | before
    · cases of_decide_eq_true here
      obtain ⟨block, member, rfl, _⟩ := enrolled.find?_eq_some found
      obtain ⟨positive, small, _⟩ := enrolled.number member
      exact ⟨positive, small⟩
    · exact enrolled.taken other before
  · have standing : standingPins first (event :: past) =
        (standingPins first past).filter fun block => pinOf block ≠ id := by
      simp only [standingPins, list, back, List.filter_filter]
      apply List.filter_congr
      intro block _
      rw [Bool.not_or, decide_not]
    rw [standing]
    have fewer := enrolled.entries.filter fun entry => entry.1 ≠ id
    rwa [List.filter_map] at fewer
  · have fewer := ((Table.values_erase found).map PinnedBlock.size).sum_nat
    rw [List.map_cons, List.sum_cons, Nat.add_comm] at fewer
    rw [enrolled.bytes, fewer, ← Counter.ofNat_add, Counter.add_sub]

theorem allocate (enrolled : Enrolled first past hybrid)
    (few : (pinnings first (⟨.allocate request,
      (Hybrid.allocate below request (hybrid, s) machine).result.map some⟩ :: past)).length <
        Word.range) :
    let reply := Hybrid.allocate below request (hybrid, s) machine
    Enrolled first (⟨.allocate request, reply.result.map some⟩ :: past) reply.state.1 := by
  have step := allocate_step below request hybrid s machine
  generalize Hybrid.allocate below request (hybrid, s) machine = reply at step few ⊢
  cases step with
  | overflowed chosen large => exact enrolled.failed _ _
  | exhausted chosen small placed => exact enrolled.failed _ _
  | @pinned base memory chosen small placed =>
    have shown : first.pinned? ⟨.allocate request,
        .ok (some ⟨base, request.size, request.align, .pinned hybrid.owner hybrid.nextPin⟩)⟩ =
        some ⟨base, request.size, request.align, .pinned hybrid.owner hybrid.nextPin⟩ := by
      rw [pinned?, if_pos]
      rw [← enrolled.pins_eq]
      exact chosen
    have longer := congrArg List.length (List.filterMap_cons_some (l := past) shown)
    apply enrolled.register shown (fun id => rfl) rfl rfl
    exact Nat.lt_of_le_of_lt (Nat.le_of_eq longer.symm) few
  | passed moves answer =>
    apply enrolled.skip
    · rw [enrolled.pins_eq] at moves
      dsimp only [Except.map]
      rw [pinned?, moves]
      rfl
    · exact fun id => rfl
  | passFailed moves answer => exact enrolled.failed _ _

theorem free (enrolled : Enrolled first past hybrid) :
    let reply := Hybrid.free below block (hybrid, s) machine
    Enrolled first (⟨.free block, reply.result.map fun _ => none⟩ :: past) reply.state.1 := by
  have step := free_step below block hybrid s machine
  generalize Hybrid.free below block (hybrid, s) machine = reply at step ⊢
  cases step with
  | foreign tag other => exact enrolled.failed _ _
  | doubled tag absent => exact enrolled.failed _ _
  | misplaced tag found elsewhere => exact enrolled.failed _ _
  | @unpinned id pinned tag found here =>
    apply enrolled.unpin rfl _ found
    intro other
    dsimp only [Except.map]
    rw [takes, tag, enrolled.owner]
    simp only [ReleaseTag.pinned.injEq, true_and, eq_comm]
  | passed unpinned answer =>
    apply enrolled.skip rfl
    intro id
    exact decide_eq_false (unpinned _ _)
  | passFailed unpinned answer => exact enrolled.failed _ _

end Enrolled

-- How a hybrid answers to a copy of a block that it pinned, and to one that only has its number.
theorem free_of_copy (below : Source σ) (s : σ) (machine : Machine)
    (enrolled : Enrolled first past hybrid) (member : block ∈ pinnings first past) {copy : Block}
    (tag : copy.tag = block.tag) (place : copy.address = block.address) :
    (Hybrid.free below copy (hybrid, s) machine).result =
      if takenBack first.owner (pinOf block) past = true then
        .error (.refused (.doubleFree name copy.address))
      else .ok () := by
  have named := tag.trans (enrolled.number member).2.2
  have found := enrolled.find?_of_mem member
  unfold Hybrid.free unpin
  simp only [named, enrolled.owner, ne_eq, not_true_eq_false, if_false]
  by_cases back : takenBack first.owner (pinOf block) past = true
  · rw [if_pos back] at found ⊢
    rw [found]
    rfl
  · rw [if_neg back] at found ⊢
    rw [found]
    dsimp only
    rw [if_neg (not_not_intro place.symm)]
    rfl

theorem free_of_misplaced (below : Source σ) (s : σ) (machine : Machine)
    (enrolled : Enrolled first past hybrid) (member : block ∈ pinnings first past) {copy : Block}
    (tag : copy.tag = block.tag) (elsewhere : copy.address ≠ block.address)
    (out : takenBack first.owner (pinOf block) past = false) :
    Hybrid.free below copy (hybrid, s) machine =
      .refuse (.foreignBlock name copy.address) (hybrid, s) machine := by
  have named := tag.trans (enrolled.number member).2.2
  have found := enrolled.find?_of_mem member
  rw [out, if_neg Bool.false_ne_true] at found
  unfold Hybrid.free unpin
  simp only [named, enrolled.owner, ne_eq, not_true_eq_false, if_false, found]
  exact if_pos elsewhere.symm

theorem allocate_failed {fault : Fault} (below : Source σ) (request : Request) (hybrid : Hybrid) (s : σ)
    (machine : Machine) (failed : (Hybrid.allocate below request (hybrid, s) machine).result = .error fault) :
    (Hybrid.allocate below request (hybrid, s) machine).state.1 = hybrid := by
  have step := allocate_step below request hybrid s machine
  generalize Hybrid.allocate below request (hybrid, s) machine = reply at step failed ⊢
  cases step with
  | overflowed chosen large => rfl
  | exhausted chosen small placed => rfl
  | pinned chosen small placed => cases failed
  | passed moves answer => cases failed
  | passFailed moves answer => rfl

theorem free_failed {fault : Fault} (below : Source σ) (block : Block) (hybrid : Hybrid) (s : σ)
    (machine : Machine) (failed : (Hybrid.free below block (hybrid, s) machine).result = .error fault) :
    (Hybrid.free below block (hybrid, s) machine).state.1 = hybrid := by
  have step := free_step below block hybrid s machine
  generalize Hybrid.free below block (hybrid, s) machine = reply at step failed ⊢
  cases step with
  | foreign tag other => rfl
  | doubled tag absent => rfl
  | misplaced tag found elsewhere => rfl
  | unpinned tag found here => cases failed
  | passed unpinned answer => cases failed
  | passFailed unpinned answer => rfl

def Addressable (e : Extent) : Prop := 0 < e.start ∧ e.stop ≤ Word.range

theorem allocate_addressable (proper : request.Proper) (sound : machine.memory.platform.Sound)
    (pieces : ∀ e ∈ hybrid.pinnedPieces, Addressable e) :
    ∀ e ∈ (Hybrid.allocate below request (hybrid, s) machine).state.1.pinnedPieces, Addressable e := by
  have step := allocate_step below request hybrid s machine
  generalize Hybrid.allocate below request (hybrid, s) machine = reply at step ⊢
  cases step with
  | overflowed chosen large => exact pieces
  | exhausted chosen small placed => exact pieces
  | passed moves answer => exact pieces
  | passFailed moves answer => exact pieces
  | @pinned base memory chosen small placed =>
    obtain ⟨positive, _⟩ := chunksFor_covers proper.1
    have placed := placed_of_place positive placed
    obtain ⟨start, _, stop, _⟩ := sound _ _ _ _ _ _ placed.placed
    intro e member
    have grown := Table.values_insert_erase hybrid.pinned hybrid.nextPin
      (PinnedBlock.mk base (PinnedBlock.chunksFor request.size))
    rcases List.mem_cons.mp ((grown.map extentOf).mem_iff.mp member) with rfl | old
    · exact ⟨start, stop⟩
    · exact pieces e (((Table.values_erase_sublist _ _).map extentOf).subset old)

theorem free_addressable (pieces : ∀ e ∈ hybrid.pinnedPieces, Addressable e) :
    ∀ e ∈ (Hybrid.free below block (hybrid, s) machine).state.1.pinnedPieces, Addressable e := by
  have step := free_step below block hybrid s machine
  generalize Hybrid.free below block (hybrid, s) machine = reply at step ⊢
  cases step with
  | foreign tag other => exact pieces
  | doubled tag absent => exact pieces
  | misplaced tag found elsewhere => exact pieces
  | passed unpinned answer => exact pieces
  | passFailed unpinned answer => exact pieces
  | unpinned tag found here =>
    intro e member
    exact pieces e (((Table.values_erase_sublist _ _).map extentOf).subset member)

-- A client that asks for proper blocks and brings back whatever it likes.
def Careless {height : Nat} : Rule (Stack height) := fun _ _ call =>
  match call with
  | .allocate request => request.Proper
  | .free _ | .trim | .dispose => True

structure Lasting {height : Nat} (first : Hybrid) (past : List Event) (hybrid : Hybrid)
    (base : Stack height) (machine : Machine) : Prop where
  enrolled : Enrolled first past hybrid
  owns : machine.memory.Owns (hybrid.pinnedPieces ++ base.pieces)
  addressable : ∀ e ∈ hybrid.pinnedPieces, Addressable e

section
variable {height : Nat} {base start : Stack height} {stack : Stack (height + 1)} {origin : Machine}

theorem Lasting.call {call : Call} (lasting : Lasting first past hybrid base machine)
    (allowed : @Careless (height + 1) past (.hybrid hybrid, base) call)
    (few : (pinnings first (⟨call,
      (@Stack.perform (height + 1) call (.hybrid hybrid, base) machine).result⟩ :: past)).length <
        Word.range) :
    let reply := @Stack.perform (height + 1) call (.hybrid hybrid, base) machine
    ∃ after left, reply.state = (.hybrid after, left) ∧
      Lasting first (⟨call, reply.result⟩ :: past) after left reply.machine := by
  obtain ⟨enrolled, owns, addressable⟩ := lasting
  have tenant := Stack.tenant (height + 1)
  have alone : machine.memory.Owns ([] ++ @Stack.pieces (height + 1) (.hybrid hybrid, base)) := owns
  cases call with
  | allocate request =>
    refine ⟨_, _, rfl, enrolled.allocate few, ?_, ?_⟩
    · exact tenant.allocate allowed alone
    · exact allocate_addressable allowed owns.sound addressable
  | free block =>
    refine ⟨_, _, rfl, enrolled.free, ?_, ?_⟩
    · exact tenant.free alone
    · exact free_addressable addressable
  | trim | dispose =>
    exact ⟨hybrid, base, rfl, enrolled.skip rfl (fun id => rfl) hybrid.backingBytes, owns, addressable⟩

theorem Lasting.run (made : Layer.Made (.hybrid first)) (beneath : start.Made)
    (sound : origin.memory.platform.Sound)
    (run : @Run (Stack (height + 1)) Stack.perform Careless (.hybrid first, start) origin past stack
      machine) (few : (pinnings first past).length < Word.range) :
    ∃ hybrid base, stack = (.hybrid hybrid, base) ∧ Lasting first past hybrid base machine := by
  induction run with
  | start =>
    refine ⟨first, start, rfl, .start made, ?_, ?_⟩
    · have none := @Stack.Made.pieces (height + 1) (.hybrid first, start) ⟨made, beneath⟩
      have owns : origin.memory.Owns [] := ⟨sound, by simp, .nil⟩
      rwa [← none] at owns
    · cases made with
      | hybrid =>
        intro e absent
        cases absent
  | @call past call state machine _ allowed ih =>
    obtain ⟨hybrid, base, rfl, lasting⟩ :=
      ih (Nat.lt_of_le_of_lt (length_pinnings_le first _ past) few)
    exact lasting.call allowed few

-- Pins lie apart in the address space, so their sizes add up to less than a word can hold.
theorem Lasting.pinnedBytes_read (lasting : Lasting first past hybrid base machine) :
    hybrid.pinnedBytes.read =
      ((standingPins first past).map fun block => Word.roundUp block.size 64).sum := by
  have total : Extent.total hybrid.pinnedPieces =
      (hybrid.pinned.values.map PinnedBlock.size).sum := by
    rw [Extent.total, pinnedPieces, List.map_map]
    rfl
  have apart := lasting.owns.apart.sublist (List.sublist_append_left _ _)
  have small := Extent.total_lt apart lasting.addressable (by decide : 0 < Word.range)
  have listed := (lasting.enrolled.entries.map fun entry => entry.2.size).sum_nat
  rw [List.map_map] at listed
  rw [lasting.enrolled.bytes, Counter.read_ofNat (total ▸ small), Table.values, List.map_map]
  exact listed

theorem perform_failed {call : Call} {fault : Fault}
    (failed : (@Stack.perform (height + 1) call (.hybrid hybrid, base) machine).result = .error fault) :
    ∃ left, (@Stack.perform (height + 1) call (.hybrid hybrid, base) machine).state =
      (.hybrid hybrid, left) := by
  have unmapped : ∀ {α : Type} {f : α → Option Block} {result : Except Fault α},
      result.map f = .error fault → result = .error fault := by
    intro α f result mapped
    cases result with
    | ok value => cases mapped
    | error e => exact congrArg Except.error (Except.error.inj mapped)
  cases call with
  | allocate request =>
    have same := allocate_failed (Stack.source height) request hybrid base machine (unmapped failed)
    exact ⟨_, Prod.ext (congrArg Layer.hybrid same) rfl⟩
  | free block =>
    have same := free_failed (Stack.source height) block hybrid base machine (unmapped failed)
    exact ⟨_, Prod.ext (congrArg Layer.hybrid same) rfl⟩
  | trim => cases failed
  | dispose => cases failed

-- What a hybrid on any stack shows of its pins, and its answer to every copy of one of them.
theorem pins_exact (made : Layer.Made (.hybrid first)) (beneath : start.Made)
    (sound : origin.memory.platform.Sound)
    (run : @Run (Stack (height + 1)) Stack.perform Careless (.hybrid first, start) origin past stack
      machine) (few : (pinnings first past).length < Word.range) :
    ∃ hybrid base, stack = (.hybrid hybrid, base) ∧
      hybrid.pinned.size = (standingPins first past).length ∧
      hybrid.pinnedBytes.read =
        ((standingPins first past).map fun block => Word.roundUp block.size 64).sum ∧
      ((pinnings first past).map Block.tag).Nodup ∧
      (∀ block ∈ pinnings first past, ∃ id, block.tag = .pinned first.owner id ∧
        ∀ copy : Block, copy.tag = block.tag →
          (copy.address = block.address →
            (Hybrid.free (Stack.source height) copy (hybrid, base) machine).result =
              if takenBack first.owner id past = true then
                .error (.refused (.doubleFree "hybrid" copy.address))
              else .ok ()) ∧
          (copy.address ≠ block.address → takenBack first.owner id past = false →
            Hybrid.free (Stack.source height) copy (hybrid, base) machine =
              .refuse (.foreignBlock "hybrid" copy.address) (hybrid, base) machine)) ∧
      ∀ call fault,
        (@Stack.perform (height + 1) call (.hybrid hybrid, base) machine).result = .error fault →
          ∃ left, (@Stack.perform (height + 1) call (.hybrid hybrid, base) machine).state =
            (.hybrid hybrid, left) := by
  obtain ⟨hybrid, base, rfl, lasting⟩ := Lasting.run made beneath sound run few
  have enrolled := lasting.enrolled
  refine ⟨hybrid, base, rfl, ?_, lasting.pinnedBytes_read, ?_, ?_, ?_⟩
  · rw [Table.size, enrolled.entries.length_eq, List.length_map]
  · rw [enrolled.tags]
    exact nodup_numbers _ _
  · intro block member
    refine ⟨pinOf block, (enrolled.number member).2.2, ?_⟩
    intro copy tag
    constructor
    · intro place
      exact free_of_copy _ base machine enrolled member tag place
    · intro elsewhere out
      exact free_of_misplaced _ base machine enrolled member tag elsewhere out
  · intro call fault failed
    exact perform_failed failed

end

def pinningHybrid : Hybrid := { owner := 3, thresholds := {} }

def pinnedAgain : List Event × Stack 2 × Machine :=
  played Stack.perform (.hybrid pinningHybrid, .arena { owner := 1, config := {} }, .system {})
    ⟨{ platform := .ascending }, []⟩
    [.free ⟨0x4000_0000_0000, 100, 8, .pinned 3 1⟩, .allocate ⟨40, 8, false, 8, 5, Site.internal⟩,
      .free ⟨0x4000_0000_0000, 100, 8, .pinned 3 1⟩, .allocate ⟨4096, 8, false, 1, 4096, Site.internal⟩,
      .allocate ⟨100, 8, false, 1, 100, Site.internal⟩]

theorem pins_exact_pinnedAgain :
    pinnings pinningHybrid pinnedAgain.1 =
      [⟨0x4000_0001_2000, 40, 8, .pinned 3 2⟩, ⟨0x4000_0000_0000, 100, 8, .pinned 3 1⟩] ∧
    ∃ hybrid base, pinnedAgain.2.1 = (.hybrid hybrid, base) ∧
      hybrid.pinned.size = 1 ∧ hybrid.pinnedBytes.read = 64 ∧
      (Hybrid.free (Stack.source 1) ⟨0x4000_0000_0000, 100, 8, .pinned 3 1⟩ (hybrid, base)
        pinnedAgain.2.2).result = .error (.refused (.doubleFree "hybrid" 0x4000_0000_0000)) ∧
      (Hybrid.free (Stack.source 1) ⟨0x4000_0001_2000, 40, 8, .pinned 3 2⟩ (hybrid, base)
        pinnedAgain.2.2).result = .ok () ∧
      Hybrid.free (Stack.source 1) ⟨0x4000_0000_0000, 40, 8, .pinned 3 2⟩ (hybrid, base) pinnedAgain.2.2 =
        .refuse (.foreignBlock "hybrid" 0x4000_0000_0000) (hybrid, base) pinnedAgain.2.2 := by
  have list : pinnings pinningHybrid pinnedAgain.1 =
      [⟨0x4000_0001_2000, 40, 8, .pinned 3 2⟩, ⟨0x4000_0000_0000, 100, 8, .pinned 3 1⟩] := by
    decide +kernel
  have standing : standingPins pinningHybrid pinnedAgain.1 =
      [⟨0x4000_0001_2000, 40, 8, .pinned 3 2⟩] := by decide +kernel
  have fresh : Layer.Made (.hybrid pinningHybrid) := .hybrid
  have made : @Stack.Made 1 (.arena { owner := 1, config := {} }, .system {}) := ⟨.arena rfl, .system⟩
  have run : @Run (Stack 2) Stack.perform Careless
      (.hybrid pinningHybrid, .arena { owner := 1, config := {} }, .system {})
      ⟨{ platform := .ascending }, []⟩ pinnedAgain.1 pinnedAgain.2.1 pinnedAgain.2.2 :=
    .played ⟨⟨⟨⟨⟨trivial, by decide, rfl⟩, by decide, rfl⟩, trivial⟩, by decide, rfl⟩, trivial⟩
  have few : (pinnings pinningHybrid pinnedAgain.1).length < Word.range := by
    rw [list]
    decide
  obtain ⟨hybrid, base, same, count, bytes, _, pins, _⟩ :=
    pins_exact fresh made Platform.ascending_sound run few
  rw [standing] at count bytes
  rw [list] at pins
  obtain ⟨second, tag, later⟩ := pins _ List.mem_cons_self
  cases tag
  obtain ⟨one, tag, earlier⟩ := pins _ (List.mem_cons_of_mem _ List.mem_cons_self)
  cases tag
  refine ⟨list, hybrid, base, same, count, bytes, ?_, ?_, ?_⟩
  · rw [(earlier ⟨0x4000_0000_0000, 100, 8, .pinned 3 1⟩ rfl).1 rfl]
    decide +kernel
  · rw [(later ⟨0x4000_0001_2000, 40, 8, .pinned 3 2⟩ rfl).1 rfl]
    decide +kernel
  · exact (later ⟨0x4000_0000_0000, 40, 8, .pinned 3 2⟩ rfl).2 (by decide) (by decide +kernel)

end LayeredAllocation.Hybrid
