import LayeredAllocation.Strategy.Probe
import LayeredAllocation.Strategy.Tracker

namespace LayeredAllocation

namespace Tracker

inductive AllocateStep (below : Source σ) (request : Request) (tracker : Tracker) (s : σ)
    (machine : Machine) : Reply (Tracker × σ) Block → Prop where
  | refused (disposed : tracker.disposed = true) :
      AllocateStep below request tracker s machine
        ⟨.error (.refused (.invalidOperation
          ("allocate on disposed leak tracker '" ++ tracker.name ++ "'"))), (tracker, s), machine⟩
  | recorded {block : Block} {after : σ} {machine' : Machine} (active : tracker.disposed = false)
      (answer : below.allocate request s machine = ⟨.ok block, after, machine'⟩) :
      AllocateStep below request tracker s machine
        ⟨.ok block, (tracker.record block request, after), machine'⟩
  | failed {fault : Fault} {after : σ} {machine' : Machine} (active : tracker.disposed = false)
      (answer : below.allocate request s machine = ⟨.error fault, after, machine'⟩) :
      AllocateStep below request tracker s machine ⟨.error fault, (tracker, after), machine'⟩

theorem allocate_step (below : Source σ) (request : Request) (tracker : Tracker) (s : σ)
    (machine : Machine) :
    AllocateStep below request tracker s machine
      (Tracker.allocate below request (tracker, s) machine) := by
  unfold Tracker.allocate
  dsimp only
  split
  · next disposed => exact .refused disposed
  · next active =>
    have active := Bool.eq_false_iff.2 active
    generalize answer : below.allocate request s machine = reply
    match reply, answer with
    | ⟨.ok block, after, machine'⟩, answer => exact .recorded active answer
    | ⟨.error fault, after, machine'⟩, answer => exact .failed active answer

inductive FreeStep (below : Source σ) (block : Block) (tracker : Tracker) (s : σ)
    (machine : Machine) : Reply (Tracker × σ) Unit → Prop where
  | untracked (absent : tracker.records.find? block.address = none) :
      FreeStep below block tracker s machine
        ⟨.error (.refused (.foreignBlock tracker.name block.address)), (tracker, s),
          machine.warning (tracker.name ++ ": free of untracked block at " ++
            Text.Numeral.hexadecimal block.address)⟩
  | dropped {record : Leak.Record} (found : tracker.records.find? block.address = some record)
      (keeps : below.releases s = false) :
      FreeStep below block tracker s machine
        ⟨.ok (), ({ tracker with records := tracker.records.erase block.address }, s), machine⟩
  | released {record : Leak.Record} {after : σ} {machine' : Machine}
      (found : tracker.records.find? block.address = some record)
      (releases : below.releases s = true)
      (answer : below.free block s machine = ⟨.ok (), after, machine'⟩) :
      FreeStep below block tracker s machine
        ⟨.ok (), ({ tracker with records := tracker.records.erase block.address }, after), machine'⟩
  | restored {record : Leak.Record} {error : Error} {after : σ} {machine' : Machine}
      (found : tracker.records.find? block.address = some record)
      (releases : below.releases s = true)
      (answer : below.free block s machine = ⟨.error (.refused error), after, machine'⟩) :
      FreeStep below block tracker s machine
        ⟨.error (.refused error),
          ({ tracker with
              records := (tracker.records.erase block.address).insert record.address record },
            after), machine'⟩
  | lost {record : Leak.Record} {message : String} {after : σ} {machine' : Machine}
      (found : tracker.records.find? block.address = some record)
      (releases : below.releases s = true)
      (answer : below.free block s machine = ⟨.error (.panicked message), after, machine'⟩) :
      FreeStep below block tracker s machine
        ⟨.error (.panicked message),
          ({ tracker with records := tracker.records.erase block.address }, after), machine'⟩

theorem free_step (below : Source σ) (block : Block) (tracker : Tracker) (s : σ) (machine : Machine) :
    FreeStep below block tracker s machine (Tracker.free below block (tracker, s) machine) := by
  unfold Tracker.free
  dsimp only
  split
  · next absent => exact .untracked absent
  · next record found =>
    split
    · next releases =>
      generalize answer : below.free block s machine = reply
      match reply, answer with
      | ⟨.ok (), after, machine'⟩, answer => exact .released found releases answer
      | ⟨.error (.refused error), after, machine'⟩, answer => exact .restored found releases answer
      | ⟨.error (.panicked message), after, machine'⟩, answer => exact .lost found releases answer
    · next keeps => exact .dropped found (Bool.eq_false_iff.2 keeps)

-- A report may write to the sink; it changes nothing else.
theorem reportLeaks_same (tracker : Tracker) (machine : Machine) :
    ∃ sink, (tracker.reportLeaks machine).2.1 = { tracker with sink } := by
  unfold reportLeaks
  dsimp only
  split
  · exact ⟨tracker.sink, rfl⟩
  · split
    · exact ⟨tracker.sink, rfl⟩
    · exact ⟨tracker.sink, rfl⟩
    · dsimp only [writeReport]
      split
      · exact ⟨_, rfl⟩
      · split <;> exact ⟨_, rfl⟩

theorem dispose_same (tracker : Tracker) (machine : Machine) :
    ∃ sink disposed, (tracker.dispose machine).2.1 = { tracker with sink, disposed } := by
  unfold dispose
  split
  · exact ⟨tracker.sink, tracker.disposed, rfl⟩
  · obtain ⟨sink, same⟩ := reportLeaks_same { tracker with disposed := true } machine
    exact ⟨sink, true, same⟩

end Tracker

namespace Probe

inductive AllocateStep (below : Source σ) (request : Request) (probe : Probe) (s : σ)
    (machine : Machine) : Reply (Probe × σ) Block → Prop where
  | injected {after : Probe} (sees : probe.seeRequest request = (true, after)) :
      AllocateStep below request probe s machine
        ⟨.error (.refused (.outOfMemory request.size injected)), (after, s), machine⟩
  | passed {after : Probe} {result : Except Fault Block} {left : σ} {machine' : Machine}
      (sees : probe.seeRequest request = (false, after))
      (answer : below.allocate request s machine = ⟨result, left, machine'⟩) :
      AllocateStep below request probe s machine ⟨result, (after, left), machine'⟩

theorem allocate_step (below : Source σ) (request : Request) (probe : Probe) (s : σ)
    (machine : Machine) :
    AllocateStep below request probe s machine (Probe.allocate below request (probe, s) machine) := by
  unfold Probe.allocate
  dsimp only
  split
  · next after sees => exact .injected sees
  · next after sees => exact .passed sees rfl

inductive FreeStep (below : Source σ) (block : Block) (probe : Probe) (s : σ) (machine : Machine) :
    Reply (Probe × σ) Unit → Prop where
  | injected {after : Probe} (sees : probe.seeFree block = (true, after)) :
      FreeStep below block probe s machine
        ⟨.error (.refused (.invalidOperation injected)), (after, s), machine⟩
  | passed {after : Probe} {result : Except Fault Unit} {left : σ} {machine' : Machine}
      (sees : probe.seeFree block = (false, after))
      (answer : below.free block s machine = ⟨result, left, machine'⟩) :
      FreeStep below block probe s machine ⟨result, (after, left), machine'⟩

theorem free_step (below : Source σ) (block : Block) (probe : Probe) (s : σ) (machine : Machine) :
    FreeStep below block probe s machine (Probe.free below block (probe, s) machine) := by
  unfold Probe.free
  dsimp only
  split
  · next after sees => exact .injected sees
  · next after sees => exact .passed sees rfl

end Probe

end LayeredAllocation
