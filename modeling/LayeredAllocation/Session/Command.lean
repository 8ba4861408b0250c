import LayeredAllocation.Buffer
import LayeredAllocation.Leak
import LayeredAllocation.Strategy.Arena
import LayeredAllocation.Strategy.Hybrid
import LayeredAllocation.Strategy.Pool
import LayeredAllocation.Strategy.Slab
import LayeredAllocation.Text

namespace LayeredAllocation

inductive Literal where
  | integer (z : Int)
  -- Decimal digits for an integer, hexadecimal ones for anything else.
  | text (text : String)
  | unit
deriving DecidableEq, Repr

inductive Scalar where
  | integer (z : Int)
  | raw (bytes : List UInt8)
  | unit
deriving DecidableEq, Repr

namespace Element

def ofLiteral? (element : Element) : Literal → Option (List UInt8)
  | .integer z => element.encode? z
  | .text text =>
    match element.form with
    | .raw =>
      (Text.Hexadecimal.decode? text).filter fun bytes => bytes.length == element.size
    | _ => (Text.Numeral.integerOf? text).bind element.encode?
  | .unit => if element.size = 0 then some [] else none

def toScalar (element : Element) (bytes : List UInt8) : Scalar :=
  match element.form with
  | .raw => if element.size = 0 then .unit else .raw bytes
  | _ => .integer (element.decode bytes)

end Element

namespace Session

inductive RequestShape where
  | bytes (size align : Nat)
  | elements (element : Element) (count : Nat)
deriving DecidableEq, Repr

-- A request as a client words it. The changes are made in this order and not checked.
structure RequestWords where
  shape : RequestShape
  zero : Bool
  site : Site
  withSize : Option Nat := none
  withAlign : Option Nat := none
  withZero : Option Bool := none
deriving DecidableEq, Repr

namespace RequestWords

def accept? (words : RequestWords) : Except Error Request :=
  match words.shape with
  | .bytes size align => Request.bytes? size align words.zero words.site
  | .elements element count =>
    Request.elements? element.size element.align count words.zero words.site

def change (words : RequestWords) (request : Request) : Request :=
  let sized := (words.withSize.map request.withSize).getD request
  let aligned := (words.withAlign.map sized.withAlign).getD sized
  (words.withZero.map aligned.withZero).getD aligned

def request? (words : RequestWords) : Except Error Request := words.accept?.map words.change

end RequestWords

-- How a strategy is to be made. Without a configuration the default one is used.
inductive Recipe where
  | system (budget : Option Nat)
  | pages (large : Bool)
  | arena (config : Option ArenaConfig)
  | pool (config : Option PoolConfig)
  | largeBlock (config : Option LargeBlockConfig)
  | slab (config : Option SlabConfig)
  | hybrid (config : Option HybridThresholds)
  | tracker (name : String) (mode : Option String) (sink : Option Leak.Destination)
deriving DecidableEq, Repr

inductive FaultTarget where
  | allocate
  | free
deriving DecidableEq, Repr

inductive PointerMove where
  | add (count : Nat)
  | offset (count : Int)
deriving DecidableEq, Repr

inductive ViewAct where
  | length
  | get (index : Nat)
  | elements
  | bytes
  | describe
  | set (index : Nat) (value : Literal)
  | fill (value : Literal)
  | clear
  | copyFrom (values : List Literal)
  | reverse
  | rotate
deriving DecidableEq, Repr

inductive BufferAct where
  | info
  | get (index : Nat)
  | set (index : Nat) (value : Literal)
  | index (index : Nat)
  | indexSet (index : Nat) (value : Literal)
  | elements
  | reverse
  | bytes
  | fingerprint
  | pattern (seed : Nat)
  | fill (value : Literal)
  | clear
  | copyFrom (values : List Literal)
  | copyTo (room : Nat)
  | dispose
  | drop
  | describe
  | pointer (moves : List PointerMove) (index : Option Nat) (value : Option Literal) (described : Bool)
  | view (path : List IndexRange) (act : ViewAct)
deriving DecidableEq, Repr

inductive Command where
  | create (name : String) (recipe : Recipe) (on : Option String)
  | build (name : String) (kind : String) (on : String)
  | drop (strategy : String)
  | statistics (strategy : String)
  | trim (strategy : String)
  | close (strategy : String)
  | report (strategy : String)
  | snapshot (strategy : String)
  | sink (strategy : String)
  | fault (strategy : String) (target : FaultTarget) (count skip : Nat)
  | calls (strategy : String)
  | allocateBlock (strategy name : String) (request : RequestWords)
  | free (strategy block : String)
  | forge (name tagOf addressOf : String) (delta : Int)
  | peek (block : String) (start count : Nat)
  | poke (block : String) (start : Nat) (data : List UInt8)
  | allocate (strategy name : String) (element : Element) (count : Nat) (zero : Bool) (site : Site)
  | emptyBuffer (name : String) (element : Element)
  | borrow (name : String) (element : Element) (values : List Literal)
  | borrowNull (name : String) (element : Element) (count : Nat)
  | storage (buffer : String)
  | buffer (name : String) (act : BufferAct)
  | deferBuffer (scope buffer : String) (plain : Bool)
  | deferError (scope : String) (error : Error)
  | endScope (scope : String) (dropped : Bool)

end Session
end LayeredAllocation
