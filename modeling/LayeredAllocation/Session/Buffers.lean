import LayeredAllocation.Memory
import LayeredAllocation.Session.State

namespace LayeredAllocation.Session.State

def showAddress (state : State) (buffer : Buffer Nat) : ShownAddress :=
  if buffer.length = 0 then .null
  else if buffer.run.element.size = 0 then .dangling
  else .place (state.shownAddress buffer.run.address)

def figuresOf (state : State) (buffer : Buffer Nat) : BufferFigures :=
  { address := state.showAddress buffer
    length := buffer.length
    byteLength := buffer.byteLength
    disposed := buffer.disposed
    tag := buffer.tag }

def introduceBuffer (state : State) (name : String) (buffer : Buffer Nat) : Response × State :=
  let answer := Answer.buffer (state.figuresOf buffer)
  match state.bindBuffer name buffer with
  | (result, state) => (respond result answer, state)

def allocate (state : State) (strategy name : String) (element : Element) (count : Nat)
    (zero : Bool) (site : Site) : Response × State :=
  match state.strategies.find? strategy with
  | none => (.illFormed, state)
  | some handle =>
    match state.settle
      (Buffer.allocate (Registry.source handle.number) handle.number element count zero site
        state.registry state.machine) with
    | (.error fault, state) => (.fault fault, state)
    | (.ok buffer, state) =>
      match buffer.owner with
      | none => state.introduceBuffer name buffer
      | some owner =>
        introduceBuffer { state with registry := state.registry.addUser owner } name buffer

-- Gets memory for the values of a buffer that borrows it. Without any byte none is needed.
def lend (state : State) (element : Element) (values : List (List UInt8)) :
    Option (ElementRun × State) :=
  let length := values.length * element.size
  if length = 0 then some (⟨element.align, values.length, element⟩, state)
  else
    match state.machine.memory.obtain .borrowed length element.align with
    | (none, _) => none
    | (some base, memory) =>
      let run : ElementRun := ⟨base, values.length, element⟩
      let memory := run.copyFrom memory values
      some (run, { state with machine := { state.machine with memory } })

def borrow (state : State) (name : String) (element : Element) (values : List Literal) :
    Response × State :=
  match values.mapM element.ofLiteral? with
  | none => (.illFormed, state)
  | some values =>
    match state.lend element values with
    | none => (.illFormed, state)
    | some (run, lent) =>
      match Buffer.borrow element run.address run.count with
      | .error message => (.fault (.panicked message), state)
      | .ok buffer =>
        introduceBuffer { lent with storages := lent.storages.bind name run } name buffer

def borrowNull (state : State) (name : String) (element : Element) (count : Nat) :
    Response × State :=
  match Buffer.borrow element 0 count with
  | .error message => (.fault (.panicked message), state)
  | .ok buffer => state.introduceBuffer name buffer

def scalars (element : Element) (values : List (List UInt8)) : Answer :=
  .values (values.map element.toScalar)

def storage (state : State) (name : String) : Response × State :=
  match state.storages.find? name with
  | none => (.illFormed, state)
  | some run => (.answer (scalars run.element (run.toList state.machine.memory)), state)

def readAnswer (state : State) (result : Except Error α) (answer : α → Answer) :
    Response × State :=
  match result with
  | .error e => (.fault (.refused e), state)
  | .ok value => (.answer (answer value), state)

def changed (state : State) (result : Except Error Memory) : Response × State :=
  match result with
  | .error e => (.fault (.refused e), state)
  | .ok memory => (.answer .nothing, { state with machine := { state.machine with memory } })

def insisting : Response × State → Response × State
  | (.fault (.refused e), state) => (.fault (.panicked e.message), state)
  | other => other

def withValue (state : State) (element : Element) (value : Literal)
    (next : List UInt8 → Response × State) : Response × State :=
  match element.ofLiteral? value with
  | none => (.illFormed, state)
  | some bytes => next bytes

def withValues (state : State) (element : Element) (values : List Literal)
    (next : List (List UInt8) → Response × State) : Response × State :=
  match values.mapM element.ofLiteral? with
  | none => (.illFormed, state)
  | some values => next values

def movePointer (pointer : Pointer) : PointerMove → Pointer
  | .add count => pointer.add count
  | .offset count => pointer.offset count

def pointerFigures (state : State) (memory : Memory) (origin moved : Pointer) (index : Option Nat)
    (described : Bool) : PointerFigures :=
  { distance := moved.distanceFrom origin
    back := origin.distanceFrom moved
    bytes := moved.byteDistance origin
    same := moved.address == origin.address
    isNull := moved.isNull
    read := index.map fun index => moved.element.toScalar (moved.read memory index)
    description :=
      if described then
        some (state.shown ("Pointer(" ++ Text.Numeral.hexadecimal moved.address ++ ")"))
      else none }

def usePointer (state : State) (buffer : Buffer Nat) (moves : List PointerMove)
    (index : Option Nat) (value : Option Literal) (described : Bool) : Response × State :=
  match buffer.pointer with
  | .error e => (.fault (.refused e), state)
  | .ok origin =>
    let moved := moves.foldl movePointer origin
    let finish (memory : Memory) : Response × State :=
      (.answer (.pointer (state.pointerFigures memory origin moved index described)),
        { state with machine := { state.machine with memory } })
    match index, value with
    | some index, some value =>
      state.withValue buffer.run.element value fun bytes =>
        finish (moved.write state.machine.memory index bytes)
    | _, _ => finish state.machine.memory

def rearranged (state : State) (run : ElementRun) (memory : Memory) : Response × State :=
  (.answer (scalars run.element (run.toList memory)),
    { state with machine := { state.machine with memory } })

def useView (state : State) (view : View) (act : ViewAct) : Response × State :=
  let memory := state.machine.memory
  let element := view.run.element
  match act with
  | .length => (.answer (.length view.length), state)
  | .get index =>
    state.readAnswer (view.get memory index) fun value => .value (element.toScalar value)
  | .elements => (.answer (scalars element (view.run.toList memory)), state)
  | .bytes => (.answer (.bytes (view.run.bytes memory)), state)
  | .describe => (.answer (.text (view.describe memory)), state)
  | .set index value =>
    state.withValue element value fun bytes => state.changed (view.set memory index bytes)
  | .fill value =>
    state.withValue element value fun bytes => state.changed (.ok (view.run.fill memory bytes))
  | .clear => state.changed (.ok (view.run.clear memory))
  | .copyFrom values =>
    state.withValues element values fun values => state.changed (view.copyFrom memory values)
  | .reverse => state.rearranged view.run (view.run.reverse memory)
  | .rotate => state.rearranged view.run (view.run.rotate memory)

-- Takes the first range of the buffer, everything if there is none, and each further range of the
-- view before it.
def viewOf (buffer : Buffer Nat) : List IndexRange → Except Error View
  | [] => buffer.slice .full
  | range :: rest =>
    match buffer.slice range with
    | .error e => .error e
    | .ok view => view.slices rest

def useBuffer (state : State) (name : String) (act : BufferAct) : Response × State :=
  match state.buffers.find? name with
  | none => (.illFormed, state)
  | some buffer =>
    let memory := state.machine.memory
    let element := buffer.run.element
    match act with
    | .info => (.answer (.buffer (state.figuresOf buffer)), state)
    | .get index =>
      state.readAnswer (buffer.get memory index) fun value => .value (element.toScalar value)
    | .set index value =>
      state.withValue element value fun bytes => state.changed (buffer.set memory index bytes)
    | .index index =>
      insisting <|
        state.readAnswer (buffer.get memory index) fun value => .value (element.toScalar value)
    | .indexSet index value =>
      insisting <|
        state.withValue element value fun bytes => state.changed (buffer.set memory index bytes)
    | .elements => state.readAnswer (buffer.toList memory) (scalars element)
    | .reverse => state.changed (buffer.reverse memory)
    | .bytes => state.readAnswer (buffer.bytes memory) .bytes
    | .fingerprint =>
      state.readAnswer (buffer.whenLive (memory.fingerprint buffer.run.address buffer.byteLength))
        .fingerprint
    | .pattern seed => state.changed (buffer.writeAll memory (Pattern.byte seed))
    | .fill value =>
      state.withValue element value fun bytes => state.changed (buffer.fill memory bytes)
    | .clear => state.changed (buffer.clear memory)
    | .copyFrom values =>
      state.withValues element values fun values => state.changed (buffer.copyFrom memory values)
    | .copyTo room => state.readAnswer (buffer.copyTo memory room) (scalars element)
    | .dispose =>
      match state.disposeBuffer buffer with
      | (result, ended, state) =>
        (respond result .nothing, { state with buffers := state.buffers.bind name ended })
    | .drop =>
      match dropBuffer { state with buffers := state.buffers.remove name } buffer with
      | (result, state) => (respond result .nothing, state)
    | .describe =>
      let nameOf (owner : Nat) : String := (Registry.source owner).name state.registry
      (.answer (.text (state.shown (buffer.describe nameOf))), state)
    | .pointer moves index value described => state.usePointer buffer moves index value described
    | .view path act =>
      match viewOf buffer path with
      | .error e => (.fault (.refused e), state)
      | .ok view => state.useView view act

end LayeredAllocation.Session.State
