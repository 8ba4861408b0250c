import LayeredAllocation.Leak
import LayeredAllocation.Source
import LayeredAllocation.Table

namespace LayeredAllocation

structure Tracker where
  name : String
  mode : Leak.Mode := .log
  sink : Leak.Sink := {}
  records : Table Leak.Record := .empty
  nextSequence : Nat := 0
  disposed : Bool := false

namespace Tracker
open Text.Numeral (hexadecimal)

-- The live allocations, oldest first.
def snapshot (tracker : Tracker) : Leak.Report :=
  ⟨tracker.name,
    tracker.records.values.mergeSort (fun a b => a.sequence ≤ b.sequence)⟩

def record (tracker : Tracker) (block : Block) (request : Request) : Tracker :=
  { tracker with
    records := tracker.records.insert block.address
      ⟨block.address, request.size, request.site, tracker.nextSequence⟩
    nextSequence := (tracker.nextSequence + 1) % Word.range }

def writeReport (tracker : Tracker) (report : Leak.Report) : Except Error Leak.Report × Tracker :=
  match Leak.Sink.writeAll report.lines tracker.sink with
  | (.error e, sink) => (.error (.io "writing leak report" e), { tracker with sink })
  | (.ok (), sink) =>
    match sink.flush with
    | (.error e, sink) => (.error (.io "flushing leak report" e), { tracker with sink })
    | (.ok (), sink) => (.ok report, { tracker with sink })

def reportLeaks (tracker : Tracker) (machine : Machine) :
    Except Error Leak.Report × Tracker × Machine :=
  let report := tracker.snapshot
  match report.leaks with
  | [] => (.ok report, tracker, machine)
  | oldest :: _ =>
    match tracker.mode with
    | .failFast =>
      (.error (.leak tracker.name report.leaks.length oldest.text), tracker, machine)
    | .log =>
      (.ok report, tracker,
        report.leaks.foldl
          (fun machine leak => machine.failure (tracker.name ++ ": leaked " ++ leak.text)) machine)
    | .machine =>
      let (answer, tracker) := tracker.writeReport report
      (answer, tracker, machine)

-- Reports leaks and stops serving requests. Only the first call reports.
def dispose (tracker : Tracker) (machine : Machine) :
    Except Error Leak.Report × Tracker × Machine :=
  if tracker.disposed then (.ok tracker.snapshot, tracker, machine)
  else reportLeaks { tracker with disposed := true } machine

def allocate (below : Source σ) (request : Request) (state : Tracker × σ) (machine : Machine) :
    Reply (Tracker × σ) Block :=
  let (tracker, beneath) := state
  if tracker.disposed then
    .refuse
      (.invalidOperation ("allocate on disposed leak tracker '" ++ tracker.name ++ "'")) state machine
  else
    match below.allocate request beneath machine with
    | ⟨.error fault, beneath, machine⟩ => ⟨.error fault, (tracker, beneath), machine⟩
    | ⟨.ok block, beneath, machine⟩ => .done block (tracker.record block request, beneath) machine

def free (below : Source σ) (block : Block) (state : Tracker × σ) (machine : Machine) :
    Reply (Tracker × σ) Unit :=
  let (tracker, beneath) := state
  match tracker.records.find? block.address with
  | none =>
    .refuse (.foreignBlock tracker.name block.address) state
      (machine.warning
        (tracker.name ++ ": free of untracked block at " ++ hexadecimal block.address))
  | some record =>
    let removed := { tracker with records := tracker.records.erase block.address }
    if below.releases beneath then
      match below.free block beneath machine with
      | ⟨.ok (), beneath, machine⟩ => .done () (removed, beneath) machine
      | ⟨.error (.refused e), beneath, machine⟩ =>
        let restored := removed.records.insert record.address record
        .refuse e ({ removed with records := restored }, beneath) machine
      | ⟨.error (.panicked message), beneath, machine⟩ => .panic message (removed, beneath) machine
    else .done () (removed, beneath) machine

def source (below : Source σ) : Source (Tracker × σ) where
  name state := state.1.name
  releases _ := true
  held state := below.held state.2
  allocate := allocate below
  free := free below

-- Ends the tracker. Leaks that must not pass cause a panic, unless one is under way.
def close (panicking : Bool) (tracker : Tracker) (machine : Machine) :
    Option String × Tracker × Machine :=
  if tracker.disposed then (none, tracker, machine)
  else
    match reportLeaks { tracker with disposed := true } machine with
    | (.ok _, tracker, machine) => (none, tracker, machine)
    | (.error e, tracker, machine) =>
      if tracker.mode = .failFast ∧ panicking = false then (some e.message, tracker, machine)
      else (none, tracker, machine.failure (tracker.name ++ ": " ++ e.message))

end LayeredAllocation.Tracker
