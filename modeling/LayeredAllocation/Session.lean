import LayeredAllocation.Session.Buffers
import LayeredAllocation.Session.State
import LayeredAllocation.Session.Strategies

namespace LayeredAllocation.Session.State

def causeOf : Except Fault Unit → Option (Cleanup.Cause String)
  | .ok () => none
  | .error (.refused e) => some (.returned e.message)
  | .error (.panicked message) => some (.panicked (.text message))

def perform : Cleanup.Performer Deferred State String
  | .dispose buffer, state =>
    match state.disposeBuffer buffer with
    | (result, _, state) => (state, causeOf result)
  | .drop buffer, state =>
    match state.dropBuffer buffer with
    | (result, state) => (state, causeOf result)
  | .fail e, state => (state, some (.returned e.message))

-- Hands an action to the scope of a name, which begins with its first action.
def defer (state : State) (scope : String) (action : Deferred) : Response × State :=
  let extended := ((state.scopes.find? scope).getD {}).register action
  (.answer (.count extended.length), { state with scopes := state.scopes.bind scope extended })

def deferBuffer (state : State) (scope buffer : String) (plain : Bool) : Response × State :=
  match state.buffers.find? buffer with
  | none => (.illFormed, state)
  | some found =>
    defer { state with buffers := state.buffers.remove buffer } scope
      (if plain then .drop found else .dispose found)

def recordAbandoned (failure : Cleanup.Failure String) (state : State) : State :=
  { state with machine := state.machine.failure (Cleanup.Scope.abandonedLine id failure) }

-- Ends the scope of a name, an empty one if nothing was handed to it.
def endScope (state : State) (name : String) (dropped : Bool) : Response × State :=
  let scope := (state.scopes.find? name).getD {}
  let state := { state with scopes := state.scopes.remove name }
  if dropped then (.answer .nothing, scope.abandon perform recordAbandoned state)
  else
    match scope.dispose perform state with
    | (state, .ok ()) => (.answer (.cleanup none), state)
    | (state, .error report) => (.answer (.cleanup (some (.ofReport state.shown report))), state)

end LayeredAllocation.Session.State

namespace LayeredAllocation.Session

def perform (state : State) : Command → Response × State
  | .create name recipe on => state.create name recipe on
  | .build name kind on => state.build name kind on
  | .drop strategy => state.dropStrategy strategy
  | .statistics strategy => state.statistics strategy
  | .trim strategy => state.trim strategy
  | .close strategy => state.close strategy
  | .report strategy => state.report strategy false
  | .snapshot strategy => state.report strategy true
  | .sink strategy => state.sinkText strategy
  | .fault strategy target count skip => state.plan strategy target count skip
  | .calls strategy => state.calls strategy
  | .allocateBlock strategy name request => state.allocateBlock strategy name request
  | .free strategy block => state.free strategy block
  | .forge name tagOf addressOf delta => state.forge name tagOf addressOf delta
  | .peek block start count => state.peek block start count
  | .poke block start data => state.poke block start data
  | .allocate strategy name element count zero site =>
    state.allocate strategy name element count zero site
  | .emptyBuffer name element => state.introduceBuffer name (.empty element)
  | .borrow name element values => state.borrow name element values
  | .borrowNull name element count => state.borrowNull name element count
  | .storage buffer => state.storage buffer
  | .buffer name act => state.useBuffer name act
  | .deferBuffer scope buffer plain => state.deferBuffer scope buffer plain
  | .deferError scope error => state.defer scope (.fail error)
  | .endScope scope dropped => state.endScope scope dropped

structure Shown where
  response : Response
  message : String
  lines : List Line
  totals : List (String × Nat)

def messageOf : Response → String
  | .fault (.refused e) => e.message
  | .fault (.panicked message) => message
  | _ => ""

def step (state : State) (command : Command) : Shown × State :=
  let silent := { state with machine := { state.machine with journal := [] } }
  match perform silent command with
  | (response, state) =>
    ({ response
       message := state.shown (messageOf response)
       lines := state.machine.journal.lines.map fun line =>
         { line with text := state.shown line.text }
       totals := state.strategies.entries.map fun (name, handle) =>
         (name, (Registry.source handle.number).held state.registry) }, state)

def run (state : State) : List Command → List Shown
  | [] => []
  | command :: rest =>
    match step state command with
    | (shown, state) => shown :: run state rest

end LayeredAllocation.Session
