import LayeredAllocation.Error
import LayeredAllocation.Lanes
import LayeredAllocation.Memory
import LayeredAllocation.Pages
import LayeredAllocation.Source
import LayeredAllocation.Word

namespace LayeredAllocation.Trial

inductive CounterStep where
  | withdraw (amount : Nat)
  | deposit (amount : Nat)
  | add (amount : Nat)
  | sub (amount : Nat)
  | read
deriving DecidableEq, Repr

def counterStep (counter : Counter) : CounterStep → Option Bool × Counter
  | .withdraw amount =>
    match counter.withdraw? amount with
    | some rest => (some true, rest)
    | none => (some false, counter)
  | .deposit amount => (none, counter.deposit amount)
  | .add amount => (none, counter.add amount)
  | .sub amount => (none, counter.sub amount)
  | .read => (none, counter)

def counter (start : Counter) : List CounterStep → List (Option Bool × Nat)
  | [] => []
  | step :: rest =>
    let (answer, after) := counterStep start step
    (answer, after.read) :: counter after rest

end LayeredAllocation.Trial

namespace LayeredAllocation.Trial

structure PatternRun where
  seed : Nat := 0
  start : Nat := 0
  length : Nat := 0
deriving DecidableEq, Repr

inductive LanesCall where
  | zero (level : Lanes.Level)
  | copy (level : Lanes.Level)
  -- Trusts the source to be as long as the run.
  | copyUnchecked (level : Lanes.Level)

def lanesImage (data source : PatternRun) : Lanes.Image :=
  Lanes.store
    (Lanes.store .blank 0 (Pattern.bytes data.seed data.start data.length))
    data.length (Pattern.bytes source.seed source.start source.length)

def lanes (call : LanesCall) (data source : PatternRun) (offset count : Nat) :
    Except String (List UInt8) :=
  let image := lanesImage data source
  let outcome : Except String Lanes.Image :=
    match call with
    | .zero level => .ok (Lanes.zeroWith level offset count image)
    | .copy level => Lanes.copyRuns level offset count data.length source.length image
    | .copyUnchecked level => .ok (Lanes.copyWith level offset data.length count image)
  match outcome with
  | .error message => .error message
  | .ok image => .ok (Lanes.load image 0 data.length)

end LayeredAllocation.Trial

namespace LayeredAllocation.Trial

def freshMachine : Machine := { memory := { platform := .ascending } }

def allZero (memory : Memory) (extent : Extent) : Bool :=
  Nat.all extent.length fun i _ => memory.read (extent.start + i) == some 0

structure MappingOutcome where
  capacity : Nat
  zeroed : Bool
  unmapped : Option String

def mapping (provider : Pages.Provider) (large : Bool) (size : Nat) (claim : Option Nat) :
    Except String MappingOutcome :=
  match Pages.map provider large size freshMachine.memory with
  | (.error e, _) => .error e
  | (.ok extent, memory) =>
    let (unmapped, _) := Pages.unmap provider ⟨extent.start, claim.getD extent.length⟩ memory
    .ok ⟨extent.length, allZero memory extent, unmapped⟩

inductive SpanChoice where
  | regular
  | large
  | fallback

structure SpanOutcome where
  span : Pages.Span
  aligned : Bool
  zeroed : Bool
  description : String
  fingerprint : UInt64
  again : Pages.Span
  lines : List Line

def markStep : Nat := 97

-- What a trial writes into a span from `skip` on, leaving all but every 97th byte alone.
def marks (skip i : Nat) : UInt8 :=
  if skip ≤ i ∧ (i - skip) % markStep = 0 then Pattern.byte 7 i else 0

def span (choice : SpanChoice) (size skip : Nat) (claim : Option Nat) :
    Except String SpanOutcome :=
  let allocated :=
    match choice with
    | .regular => Pages.Span.allocate size freshMachine
    | .large => Pages.Span.allocateLarge size freshMachine
    | .fallback => Pages.Span.allocateWithFallback size freshMachine
  match allocated with
  | (.error e, _) => .error e
  | (.ok made, machine) =>
    let again := { made with capacity := claim.getD made.capacity }
    let marked := machine.memory.write made.address made.capacity fun i => some (marks skip i)
    let used := { machine with memory := marked }
    let ended := again.drop used
    .ok
      { span := made
        aligned := made.address % Pages.pageSize == 0
        zeroed := allZero machine.memory ⟨made.address, made.capacity⟩
        description := machine.memory.nameAddresses made.describe
        fingerprint := marked.fingerprint again.address again.capacity
        again := again
        lines := ended.journal.lines.map fun line =>
          { line with text := ended.memory.nameAddresses line.text } }

end LayeredAllocation.Trial

namespace LayeredAllocation.Trial

inductive InnerEnding where
  | dropped
  | reported
  -- Like `reported`, with the report wrapped into an error of the library.
  | wrapped
deriving DecidableEq, Repr

inductive CleanupAction where
  | succeed (label : String)
  | fail (label message : String)
  | panic (label : String) (payload : Cleanup.Payload)
  | nested (label : String) (actions : List CleanupAction) (ending : InnerEnding)

structure CleanupWorld where
  trace : List String := []
  journal : Journal := []

namespace CleanupWorld

def leave (world : CleanupWorld) (label : String) : CleanupWorld :=
  { world with trace := label :: world.trace }

def record (world : CleanupWorld) (failure : Cleanup.Failure String) : CleanupWorld :=
  { world with journal := world.journal.failure (Cleanup.Scope.abandonedLine id failure) }

end CleanupWorld

def innerOutcome (ending : InnerEnding) (world : CleanupWorld)
    (failures : List (Cleanup.Failure String)) : CleanupWorld × Option (Cleanup.Cause String) :=
  match ending with
  | .dropped => (failures.foldl CleanupWorld.record world, none)
  | .reported =>
    match Cleanup.Report.ofFailures failures with
    | .ok () => (world, none)
    | .error report => (world, some (.returned (report.message id)))
  | .wrapped =>
    match Cleanup.Report.ofFailures failures with
    | .ok () => (world, none)
    | .error report => (world, some (.returned (Error.cleanup report).message))

mutual

def performAction : CleanupAction → CleanupWorld → CleanupWorld × Option (Cleanup.Cause String)
  | .succeed label, world => (world.leave label, none)
  | .fail label message, world => (world.leave label, some (.returned message))
  | .panic label payload, world => (world.leave label, some (.panicked payload))
  | .nested label actions ending, world =>
    let (world, failures) := runActions 0 actions (world.leave label)
    innerOutcome ending world failures

def runActions (index : Nat) : List CleanupAction → CleanupWorld →
    CleanupWorld × List (Cleanup.Failure String)
  | [], world => (world, [])
  | action :: later, world =>
    let (world, failures) := runActions (index + 1) later world
    let (world, outcome) := performAction action world
    (world, failures ++ Cleanup.Scope.failureAt index outcome)

end

inductive CleanupEnding where
  | drop
  | dispose
  | error

inductive CleanupResult where
  | dropped
  | succeeded
  | reported (report : Cleanup.Report String)
  | refused (error : Error)

structure CleanupOutcome where
  length : Nat
  isEmpty : Bool
  description : String
  trace : List String
  result : CleanupResult
  lines : List Line

def cleanup (actions : List CleanupAction) (ending : CleanupEnding) : CleanupOutcome :=
  let scope := actions.foldl Cleanup.Scope.register ({} : Cleanup.Scope CleanupAction)
  let outcome (world : CleanupWorld) (result : CleanupResult) : CleanupOutcome :=
    { length := scope.length
      isEmpty := scope.isEmpty
      description := scope.describe
      trace := world.trace.reverse
      result := result
      lines := world.journal.lines }
  match ending with
  | .drop =>
    outcome (scope.abandon performAction (fun failure world => world.record failure) {}) .dropped
  | .dispose =>
    match scope.dispose performAction {} with
    | (world, .ok ()) => outcome world .succeeded
    | (world, .error report) => outcome world (.reported report)
  | .error =>
    match scope.dispose performAction {} with
    | (world, .ok ()) => outcome world .succeeded
    | (world, .error report) => outcome world (.refused (.cleanup report))

end LayeredAllocation.Trial
