import LayeredAllocation.Source

namespace LayeredAllocation.Pages

def pageSize : Nat := 4096

def largePageSize : Nat := 2 * 1024 * 1024

inductive Provider where
  | kernel
  | emulated
deriving DecidableEq, Repr

def noMemory : String := "Cannot allocate memory (os error 12)"

def badArgument : String := "Invalid argument (os error 22)"

def addressLimit : Nat := 0x7fff_ffff_f000

def granularity (large : Bool) : Nat := if large then largePageSize else pageSize

def capacity? (large : Bool) (size : Nat) : Option Nat := Word.roundUp? (max size 1) (granularity large)

def map (provider : Provider) (large : Bool) (size : Nat) (memory : Memory) :
    Except String Extent × Memory :=
  match capacity? large size with
  | none => (.error "mapping size overflow", memory)
  | some capacity =>
    match provider with
    | .kernel =>
      match memory.obtain (if large then .largePages else .pages) capacity pageSize with
      | (none, memory) => (.error noMemory, memory)
      | (some base, memory) => (.ok ⟨base, capacity⟩, memory)
    | .emulated =>
      if capacity ≤ Word.longest - (pageSize - 1) then
        match memory.obtain .pages capacity pageSize with
        | (none, memory) => (.error "failed to allocate pages", memory)
        | (some base, memory) => (.ok ⟨base, capacity⟩, memory)
      else (.error "invalid parameters to Layout::from_size_align", memory)

-- Gives pages back. The answer says what was wrong with the claimed run, if anything was.
def unmap (provider : Provider) (claimed : Extent) (memory : Memory) : Option String × Memory :=
  match provider with
  | .kernel =>
    if claimed.length = 0 ∨ addressLimit < claimed.stop then (some badArgument, memory)
    else (none, memory.giveBack claimed.start claimed.length)
  | .emulated =>
    if claimed.length ≤ Word.longest - (pageSize - 1) then
      (none, memory.giveBack claimed.start claimed.length)
    else (some "invalid parameters to Layout::from_size_align", memory)

end LayeredAllocation.Pages

namespace LayeredAllocation.Pages

structure Span where
  address : Nat
  capacity : Nat
  large : Bool
deriving DecidableEq, Repr

namespace Span
open Text.Numeral (decimal hexadecimal)

def mapKind (large : Bool) (size : Nat) (machine : Machine) : Except String Span × Machine :=
  match Pages.map .kernel large size machine.memory with
  | (.error e, memory) => (.error e, { machine with memory })
  | (.ok mapped, memory) =>
    (.ok ⟨mapped.start, mapped.length, large⟩,
      Machine.debug { machine with memory }
        ("mapped " ++ decimal mapped.length ++ " bytes " ++
          (if large then "of large pages " else "") ++ "at " ++ hexadecimal mapped.start))

def allocate (size : Nat) (machine : Machine) : Except String Span × Machine :=
  mapKind false size machine

def allocateLarge (size : Nat) (machine : Machine) : Except String Span × Machine :=
  mapKind true size machine

def orRegular (size : Nat) : Except String Span × Machine → Except String Span × Machine
  | (.ok span, machine) => (.ok span, machine)
  | (.error e, machine) =>
    allocate size (machine.debug ("large pages unavailable (" ++ e ++ "), using regular pages"))

-- Maps large pages if there are any, and regular pages otherwise.
def allocateWithFallback (size : Nat) (machine : Machine) : Except String Span × Machine :=
  orRegular size (allocateLarge size machine)

def drop (span : Span) (machine : Machine) : Machine :=
  match Pages.unmap .kernel ⟨span.address, span.capacity⟩ machine.memory with
  | (none, memory) => { machine with memory }
  | (some e, memory) =>
    Machine.failure { machine with memory }
      ("failed to unmap " ++ decimal span.capacity ++ " bytes at " ++
        hexadecimal span.address ++ ": " ++ e)

def describe (span : Span) : String :=
  "PageSpan \x7b ptr: " ++ hexadecimal span.address ++ ", capacity: " ++ decimal span.capacity ++
    ", large: " ++ (if span.large then "true" else "false") ++ " \x7d"

end LayeredAllocation.Pages.Span
