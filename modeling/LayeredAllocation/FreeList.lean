namespace LayeredAllocation

structure Slot where
  page : Nat
  slot : Nat
deriving DecidableEq, Repr

-- `count` neighbouring slots of a page.
structure SlotRun where
  page : Nat
  first : Nat
  count : Nat
deriving DecidableEq, Repr

def SlotRun.slots (run : SlotRun) : List Slot :=
  (List.range run.count).map fun i => ⟨run.page, run.first + i⟩

structure FreeList where
  runs : List SlotRun := []
deriving DecidableEq, Repr

namespace FreeList

def toList (list : FreeList) : List Slot := list.runs.flatMap SlotRun.slots

def length (list : FreeList) : Nat :=
  list.runs.foldr (fun run rest => run.count + rest) 0

def push (list : FreeList) (slot : Slot) : FreeList := ⟨⟨slot.page, slot.slot, 1⟩ :: list.runs⟩

-- Puts all slots of a new page but the first in front.
def addPage (list : FreeList) (page slots : Nat) : FreeList :=
  ⟨⟨page, 1, slots - 1⟩ :: list.runs⟩

def popRuns : List SlotRun → Option (Slot × List SlotRun)
  | [] => none
  | run :: rest =>
    if run.count = 0 then popRuns rest
    else some (⟨run.page, run.first⟩, ⟨run.page, run.first + 1, run.count - 1⟩ :: rest)

def pop? (list : FreeList) : Option (Slot × FreeList) :=
  (popRuns list.runs).map fun (slot, rest) => (slot, ⟨rest⟩)

theorem slots_of_count_zero {run : SlotRun} (none : run.count = 0) : run.slots = [] := by
  simp [SlotRun.slots, none]

theorem slots_of_count_pos {run : SlotRun} (some : run.count ≠ 0) :
    run.slots = ⟨run.page, run.first⟩ :: SlotRun.slots ⟨run.page, run.first + 1, run.count - 1⟩ := by
  obtain ⟨page, first, count⟩ := run
  obtain ⟨n, rfl⟩ := Nat.exists_eq_succ_of_ne_zero some
  simp only [SlotRun.slots, Nat.succ_eq_add_one, Nat.add_sub_cancel, List.range_succ_eq_map,
    List.map_cons, List.map_map, Nat.add_zero]
  congr 1
  apply List.map_congr_left
  intro i _
  simp only [Function.comp, Slot.mk.injEq, true_and]
  omega

theorem toList_push (list : FreeList) (slot : Slot) :
    (list.push slot).toList = slot :: list.toList := by
  simp [push, toList, SlotRun.slots]

theorem toList_addPage (list : FreeList) (page slots : Nat) :
    (list.addPage page slots).toList =
      (List.range (slots - 1)).map (fun i => ⟨page, 1 + i⟩) ++ list.toList := by
  simp [addPage, toList, SlotRun.slots]

theorem popRuns_eq_none {runs : List SlotRun} (empty : popRuns runs = none) :
    runs.flatMap SlotRun.slots = [] := by
  induction runs with
  | nil => rfl
  | cons run rest ih =>
    unfold popRuns at empty
    split at empty
    · next zero => rw [List.flatMap_cons, slots_of_count_zero zero, ih empty]; rfl
    · cases empty

theorem popRuns_eq_some {runs rest : List SlotRun} {slot : Slot}
    (popped : popRuns runs = some (slot, rest)) :
    runs.flatMap SlotRun.slots = slot :: rest.flatMap SlotRun.slots := by
  induction runs with
  | nil => cases popped
  | cons run older ih =>
    unfold popRuns at popped
    split at popped
    · next zero => rw [List.flatMap_cons, slots_of_count_zero zero, List.nil_append, ih popped]
    · next more =>
      cases popped
      rw [List.flatMap_cons, slots_of_count_pos more]
      rfl

theorem pop?_eq_none {list : FreeList} (empty : list.pop? = none) : list.toList = [] := by
  unfold pop? at empty
  exact popRuns_eq_none (Option.map_eq_none_iff.1 empty)

theorem pop?_eq_some {list rest : FreeList} {slot : Slot}
    (popped : list.pop? = some (slot, rest)) : list.toList = slot :: rest.toList := by
  unfold pop? at popped
  obtain ⟨⟨front, runs⟩, found, equal⟩ := Option.map_eq_some_iff.1 popped
  cases equal
  exact popRuns_eq_some found

theorem length_toList (list : FreeList) : list.toList.length = list.length := by
  obtain ⟨runs⟩ := list
  unfold toList length
  induction runs with
  | nil => rfl
  | cons run rest ih =>
    rw [List.flatMap_cons, List.length_append, ih, List.foldr_cons]
    simp [SlotRun.slots]

end LayeredAllocation.FreeList
