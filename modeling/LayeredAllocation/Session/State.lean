import LayeredAllocation.Memory
import LayeredAllocation.Registry
import LayeredAllocation.Session.Answer

namespace LayeredAllocation.Session

structure Directory (α : Type) where
  entries : List (String × α) := []

namespace Directory

def find? (directory : Directory α) (name : String) : Option α :=
  (directory.entries.find? fun entry => entry.1 == name).map Prod.snd

def remove (directory : Directory α) (name : String) : Directory α :=
  ⟨directory.entries.filter fun entry => entry.1 != name⟩

def bind (directory : Directory α) (name : String) (value : α) : Directory α :=
  ⟨(directory.remove name).entries ++ [(name, value)]⟩

end Directory

-- How a strategy was made decides what can be learned of it.
inductive Facet where
  | system
  | pages
  | arena
  | pool
  | largeBlock (minBlockSize : Nat)
  | slab
  | hybrid
  | tracker
  | built
deriving DecidableEq, Repr

structure Handle where
  number : Nat
  facet : Facet
deriving DecidableEq, Repr

inductive Deferred where
  | dispose (buffer : Buffer Nat)
  | drop (buffer : Buffer Nat)
  | fail (error : Error)

structure State where
  registry : Registry := {}
  machine : Machine
  strategies : Directory Handle := {}
  -- Trackers whose sink can be read, also when they have ended.
  sinks : Directory Nat := {}
  blocks : Directory Block := {}
  buffers : Directory (Buffer Nat) := {}
  storages : Directory ElementRun := {}
  scopes : Directory (Cleanup.Scope Deferred) := {}

namespace State

def start : State := { machine := { memory := { platform := .ascending } } }

def shown (state : State) (text : String) : String := state.machine.memory.nameAddresses text

def shownAddress (state : State) (address : Nat) : String :=
  (state.machine.memory.addressText? address).getD (Text.Numeral.hexadecimal address)

def settle (state : State) (reply : Reply Registry α) : Except Fault α × State :=
  (reply.result, { state with registry := reply.state, machine := reply.machine })

def release (state : State) (panicking : Bool) (number : Nat) : Option String × State :=
  match state.registry.release panicking number state.machine with
  | (panic, registry, machine) => (panic, { state with registry, machine })

-- Disposes of a buffer, whose owner then has one user less. A panic there hides the answer.
def disposeBuffer (state : State) (buffer : Buffer Nat) : Except Fault Unit × Buffer Nat × State :=
  match buffer.dispose Registry.source state.registry state.machine with
  | (reply, ended) =>
    let (result, state) := state.settle reply
    -- The owner is let go whether or not it took the block back.
    match (if buffer.disposed then none else buffer.owner) with
    | none => (result, ended, state)
    | some owner =>
      let panicking :=
        match result with
        | .error (.panicked _) => true
        | _ => false
      match state.release panicking owner with
      | (none, state) => (result, ended, state)
      | (some message, state) =>
        (if panicking then result else .error (.panicked message), ended, state)

def dropBuffer (state : State) (buffer : Buffer Nat) : Except Fault Unit × State :=
  match state.disposeBuffer buffer with
  | (.error (.refused e), _, state) =>
    (.ok (), { state with machine := state.machine.failure (buffer.dropLine e) })
  | (result, _, state) => (result, state)

def respond (result : Except Fault Unit) (answer : Answer) : Response :=
  match result with
  | .ok () => .answer answer
  | .error fault => .fault fault

def bindStrategy (state : State) (name : String) (handle : Handle) : Except Fault Unit × State :=
  let before := state.strategies.find? name
  let bound :=
    { state with
      registry := state.registry.addUser handle.number
      strategies := state.strategies.bind name handle }
  match before with
  | none => (.ok (), bound)
  | some old =>
    match bound.release false old.number with
    | (none, state) => (.ok (), state)
    | (some message, state) => (.error (.panicked message), state)

def bindBuffer (state : State) (name : String) (buffer : Buffer Nat) : Except Fault Unit × State :=
  let before := state.buffers.find? name
  let bound := { state with buffers := state.buffers.bind name buffer }
  match before with
  | none => (.ok (), bound)
  | some old => bound.dropBuffer old

end State

end LayeredAllocation.Session
