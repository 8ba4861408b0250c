import LayeredAllocation.Memory
import LayeredAllocation.Platform
import LayeredAllocation.Request
import LayeredAllocation.Text

namespace LayeredAllocation

-- How a block is reclaimed. Strategies of one kind are told apart by the number of their owner.
inductive ReleaseTag where
  | system
  | pages
  | borrowed
  | arena (owner chunk : Nat)
  | pool (owner sizeClass : Nat)
  | slab (owner sizeClass page slot : Nat)
  | pinned (owner id : Nat)
deriving DecidableEq, Repr

def ReleaseTag.describe : ReleaseTag → String
  | .system => "System"
  | .pages => "Pages"
  | .borrowed => "Borrowed"
  | .arena owner chunk => "Arena" ++ fields owner [("chunk", chunk)]
  | .pool owner sizeClass => "Pool" ++ fields owner [("size_class", sizeClass)]
  | .slab owner sizeClass page slot =>
    "Slab" ++ fields owner [("class", sizeClass), ("page", page), ("slot", slot)]
  | .pinned owner id => "Pinned" ++ fields owner [("id", id)]
where
  fields (owner : Nat) (rest : List (String × Nat)) : String :=
    " \x7b owner: StrategyId(" ++ Text.Numeral.decimal owner ++ ")" ++
      String.join (rest.map fun (name, value) =>
        ", " ++ name ++ ": " ++ Text.Numeral.decimal value) ++ " \x7d"

structure Block where
  address : Nat
  size : Nat
  align : Nat
  tag : ReleaseTag
deriving DecidableEq, Repr

def Block.extent (block : Block) : Extent := ⟨block.address, block.size⟩

inductive Severity where
  | debug
  | warning
  | failure
deriving DecidableEq, Repr

structure Line where
  severity : Severity
  text : String
deriving DecidableEq, Repr

abbrev Journal := List Line

namespace Journal

def debug (journal : Journal) (text : String) : Journal := ⟨.debug, text⟩ :: journal
def warning (journal : Journal) (text : String) : Journal := ⟨.warning, text⟩ :: journal
def failure (journal : Journal) (text : String) : Journal := ⟨.failure, text⟩ :: journal

def lines (journal : Journal) : List Line := journal.reverse

end Journal

structure Machine where
  memory : Memory
  journal : Journal := []

namespace Machine

def debug (machine : Machine) (text : String) : Machine :=
  { machine with journal := machine.journal.debug text }

def warning (machine : Machine) (text : String) : Machine :=
  { machine with journal := machine.journal.warning text }

def failure (machine : Machine) (text : String) : Machine :=
  { machine with journal := machine.journal.failure text }

def zeroIf (machine : Machine) (wanted : Bool) (start length : Nat) : Machine :=
  if wanted then { machine with memory := machine.memory.zero start length } else machine

def giveBack (machine : Machine) (start length : Nat) : Machine :=
  { machine with memory := machine.memory.giveBack start length }

end Machine

-- How an operation can fall short: by a refusal, which its caller handles, or by a panic, which
-- unwinds through all its callers.
inductive Fault where
  | refused (error : Error)
  | panicked (message : String)
deriving DecidableEq, Repr

structure Reply (σ α : Type) where
  result : Except Fault α
  state : σ
  machine : Machine

namespace Reply

def done (value : α) (state : σ) (machine : Machine) : Reply σ α := ⟨.ok value, state, machine⟩

def refuse (error : Error) (state : σ) (machine : Machine) : Reply σ α :=
  ⟨.error (.refused error), state, machine⟩

def panic (message : String) (state : σ) (machine : Machine) : Reply σ α :=
  ⟨.error (.panicked message), state, machine⟩

def mapState (f : σ → τ) (reply : Reply σ α) : Reply τ α :=
  ⟨reply.result, f reply.state, reply.machine⟩

end Reply

structure Source (σ : Type) where
  name : σ → String
  -- Whether blocks are given back one by one. Otherwise they are reclaimed with the source.
  releases : σ → Bool
  -- The bytes held from beneath, modulo the word size.
  held : σ → Nat
  allocate : Request → σ → Machine → Reply σ Block
  free : Block → σ → Machine → Reply σ Unit

end LayeredAllocation
