import LayeredAllocation.Element
import LayeredAllocation.Source
import LayeredAllocation.Text
import LayeredAllocation.View
import LayeredAllocation.Word

namespace LayeredAllocation

structure Pointer where
  address : Nat
  element : Element
deriving DecidableEq, Repr

namespace Pointer

def offset (pointer : Pointer) (count : Int) : Pointer :=
  { pointer with address := Word.wrap (pointer.address + count * pointer.element.size) }

def add (pointer : Pointer) (count : Nat) : Pointer := pointer.offset count

def isNull (pointer : Pointer) : Bool := pointer.address = 0

def byteDistance (pointer origin : Pointer) : Int :=
  Word.signed (Word.wrap (pointer.address - origin.address))

def distanceFrom (pointer origin : Pointer) : Int :=
  (pointer.byteDistance origin).tdiv (max pointer.element.size 1)

def read (pointer : Pointer) (memory : Memory) (index : Nat) : List UInt8 :=
  memory.bytes (pointer.add index).address pointer.element.size

def write (pointer : Pointer) (memory : Memory) (index : Nat) (value : List UInt8) : Memory :=
  memory.writeBytes (pointer.add index).address value

end Pointer

-- A buffer whose owner is named by a value of type `ω`.
structure Buffer (ω : Type) where
  run : ElementRun
  align : Nat
  tag : ReleaseTag
  owner : Option ω
  disposed : Bool := false

namespace Buffer
open Text.Numeral (decimal hexadecimal)

-- A buffer without any bytes. Its address is the least that is aligned and not null.
def zeroSized (element : Element) (count : Nat) : Buffer ω :=
  { run := ⟨element.align, count, element⟩
    align := element.align
    tag := .borrowed
    owner := none }

def empty (element : Element) : Buffer ω := zeroSized element 0

def ofBlock (element : Element) (count : Nat) (block : Block) (owner : ω) : Buffer ω :=
  { run := ⟨block.address, count, element⟩
    align := block.align
    tag := block.tag
    owner := some owner }

def nullBorrowMessage : String := "non-empty borrowed buffer requires a non-null pointer"

def borrow (element : Element) (address count : Nat) : Except String (Buffer ω) :=
  if count = 0 then .ok (empty element)
  else if address = 0 then .error nullBorrowMessage
  else
    .ok
      { run := ⟨address, count, element⟩
        align := element.align
        tag := .borrowed
        owner := none }

def length (buffer : Buffer ω) : Nat := buffer.run.count

def byteLength (buffer : Buffer ω) : Nat := buffer.run.byteLength

def address (buffer : Buffer ω) : Nat := if buffer.length = 0 then 0 else buffer.run.address

def block (buffer : Buffer ω) : Block :=
  ⟨buffer.run.address, buffer.byteLength, buffer.align, buffer.tag⟩

-- Asks a source for `count` elements. Without any bytes to ask for, the source is not called.
def allocate (source : Source σ) (owner : ω) (element : Element) (count : Nat) (zero : Bool)
    (site : Site) (state : σ) (machine : Machine) : Reply σ (Buffer ω) :=
  if count = 0 then .done (empty element) state machine
  else if element.size = 0 then .done (zeroSized element count) state machine
  else
    match Request.elements? element.size element.align count zero site with
    | .error e => .refuse e state machine
    | .ok request =>
      match source.allocate request state machine with
      | ⟨.error fault, state, machine⟩ => ⟨.error fault, state, machine⟩
      | ⟨.ok block, state, machine⟩ => .done (ofBlock element count block owner) state machine

def dispose (sourceOf : ω → Source σ) (buffer : Buffer ω) (state : σ) (machine : Machine) :
    Reply σ Unit × Buffer ω :=
  if buffer.disposed then (.done () state machine, buffer)
  else
    let ended := { buffer with disposed := true, owner := none }
    match buffer.owner with
    | none => (.done () state machine, ended)
    | some owner =>
      if (sourceOf owner).releases state then
        ((sourceOf owner).free buffer.block state machine, ended)
      else (.done () state machine, ended)

def checkLive (buffer : Buffer ω) : Except Error Unit :=
  if buffer.disposed then .error (.disposed "buffer") else .ok ()

def whenLive (buffer : Buffer ω) (value : α) : Except Error α :=
  if buffer.disposed then .error (.disposed "buffer") else .ok value

def checkIndex (buffer : Buffer ω) (index : Nat) : Except Error Unit :=
  if buffer.disposed then .error (.disposed "buffer")
  else if index < buffer.length then .ok ()
  else .error (.indexOutOfBounds index buffer.length)

def get (buffer : Buffer ω) (memory : Memory) (index : Nat) : Except Error (List UInt8) :=
  match buffer.checkIndex index with
  | .error e => .error e
  | .ok () => .ok (buffer.run.get memory index)

def set (buffer : Buffer ω) (memory : Memory) (index : Nat) (value : List UInt8) :
    Except Error Memory :=
  match buffer.checkIndex index with
  | .error e => .error e
  | .ok () => .ok (buffer.run.set memory index value)

def toList (buffer : Buffer ω) (memory : Memory) : Except Error (List (List UInt8)) :=
  match buffer.checkLive with
  | .error e => .error e
  | .ok () => .ok (buffer.run.toList memory)

def bytes (buffer : Buffer ω) (memory : Memory) : Except Error (List UInt8) :=
  match buffer.checkLive with
  | .error e => .error e
  | .ok () => .ok (buffer.run.bytes memory)

def writeAll (buffer : Buffer ω) (memory : Memory) (content : Nat → UInt8) : Except Error Memory :=
  buffer.whenLive (memory.write buffer.run.address buffer.byteLength fun i => some (content i))

def fill (buffer : Buffer ω) (memory : Memory) (value : List UInt8) : Except Error Memory :=
  buffer.whenLive (buffer.run.fill memory value)

def clear (buffer : Buffer ω) (memory : Memory) : Except Error Memory :=
  buffer.whenLive (buffer.run.clear memory)

def reverse (buffer : Buffer ω) (memory : Memory) : Except Error Memory :=
  match buffer.checkLive with
  | .error e => .error e
  | .ok () => .ok (buffer.run.reverse memory)

def lengthMismatch (name : String) (given length : Nat) : Error :=
  .invalidArgument name
    ("length " ++ decimal given ++ " does not match buffer length " ++ decimal length)

def copyFrom (buffer : Buffer ω) (memory : Memory) (values : List (List UInt8)) :
    Except Error Memory :=
  match buffer.checkLive with
  | .error e => .error e
  | .ok () =>
    if values.length = buffer.length then .ok (buffer.run.copyFrom memory values)
    else .error (lengthMismatch "src" values.length buffer.length)

def copyTo (buffer : Buffer ω) (memory : Memory) (room : Nat) : Except Error (List (List UInt8)) :=
  match buffer.checkLive with
  | .error e => .error e
  | .ok () =>
    if room = buffer.length then .ok (buffer.run.toList memory)
    else .error (lengthMismatch "dst" room buffer.length)

def pointer (buffer : Buffer ω) : Except Error Pointer :=
  buffer.whenLive ⟨buffer.run.address, buffer.run.element⟩

-- A view of a range. A bad range is reported before a disposed buffer is.
def slice (buffer : Buffer ω) (range : IndexRange) : Except Error View :=
  match range.resolve buffer.length with
  | .error e => .error e
  | .ok (start, stop) => buffer.whenLive ⟨buffer.run.part start stop⟩

def dropLine (buffer : Buffer ω) (e : Error) : String :=
  "failed to release buffer at " ++ hexadecimal buffer.run.address ++ ": " ++ e.message

def describe (nameOf : ω → String) (buffer : Buffer ω) : String :=
  let owner :=
    match buffer.owner with
    | none => "None"
    | some owner => "Some(" ++ Text.Quoted.quote (nameOf owner) ++ ")"
  "Buffer \x7b address: " ++ hexadecimal buffer.address ++ ", len: " ++ decimal buffer.length ++
    ", tag: " ++ buffer.tag.describe ++ ", owner: " ++ owner ++ ", disposed: " ++
    (if buffer.disposed then "true" else "false") ++ " \x7d"

end LayeredAllocation.Buffer
