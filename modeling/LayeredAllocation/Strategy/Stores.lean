import LayeredAllocation.Pages
import LayeredAllocation.Source
import LayeredAllocation.Table
import LayeredAllocation.Word

namespace LayeredAllocation

structure Layout where
  size : Nat
  align : Nat
deriving DecidableEq, Repr

-- A layout that can be allocated, if the size leaves room for the alignment.
def Layout.make? (size align : Nat) : Except Error Layout :=
  if Word.isPowerOfTwo align ∧ size ≤ Word.longest - (align - 1) then .ok ⟨size, align⟩
  else .error Error.layout

structure SystemStore where
  issued : Table Layout := .empty
  allocated : Counter := {}
  budget : Option Counter := none
deriving Inhabited

namespace SystemStore

def withBudget (limit : Nat) : SystemStore := { budget := some (Counter.ofNat limit) }

def name : String := "system"

def remaining? (store : SystemStore) : Option Nat := store.budget.map Counter.read

-- The store after paying for `size` bytes; `none` if the budget does not reach.
def pay? (store : SystemStore) (size : Nat) : Option SystemStore :=
  match store.budget with
  | none => some store
  | some budget =>
    match budget.withdraw? size with
    | none => none
    | some rest => some { store with budget := some rest }

def refund (store : SystemStore) (size : Nat) : SystemStore :=
  { store with budget := store.budget.map (·.deposit size) }

def record (store : SystemStore) (address : Nat) (layout : Layout) : SystemStore :=
  { store with
    issued := store.issued.insert address layout
    allocated := store.allocated.add layout.size }

def forget (store : SystemStore) (address : Nat) (layout : Layout) : SystemStore :=
  { store with
    issued := store.issued.erase address
    allocated := store.allocated.sub layout.size }

def allocate (request : Request) (store : SystemStore) (machine : Machine) :
    Reply SystemStore Block :=
  match Layout.make? request.size request.align with
  | .error e => .refuse e store machine
  | .ok layout =>
    match store.pay? layout.size with
    | none => .refuse (.outOfMemory layout.size "allocation budget exhausted") store machine
    | some paid =>
      match machine.memory.obtain .heap layout.size layout.align with
      | (none, memory) =>
        .refuse (.outOfMemory layout.size "system allocator returned null")
          (paid.refund layout.size) { machine with memory }
      | (some base, memory) =>
        .done ⟨base, layout.size, layout.align, .system⟩ (paid.record base layout)
          (Machine.zeroIf { machine with memory } request.zero base layout.size)

def free (block : Block) (store : SystemStore) (machine : Machine) : Reply SystemStore Unit :=
  if block.tag ≠ .system then .refuse (.foreignBlock name block.address) store machine
  else
    match store.issued.find? block.address with
    | none => .refuse (.foreignBlock name block.address) store machine
    | some layout =>
      .done () ((store.forget block.address layout).refund layout.size)
        (machine.giveBack block.address layout.size)

def source : Source SystemStore where
  name _ := name
  releases _ := true
  held store := store.allocated.read
  allocate := allocate
  free := free

theorem refund_of_pay? {store paid : SystemStore} {size : Nat}
    (accepted : store.pay? size = some paid) : paid.refund size = store := by
  obtain ⟨issued, allocated, budget⟩ := store
  cases budget with
  | none =>
    simp only [pay?, Option.some.injEq] at accepted
    subst accepted
    rfl
  | some budget =>
    simp only [pay?] at accepted
    split at accepted
    · cases accepted
    · next rest enough =>
      cases accepted
      obtain ⟨_, rfl⟩ := Counter.withdraw?_eq_some enough
      simp [refund, Counter.deposit, Counter.sub_add]

end SystemStore

structure MappingRecord where
  capacity : Nat
  large : Bool
deriving DecidableEq, Repr

structure PageStore where
  prefersLarge : Bool := false
  mappings : Table MappingRecord := .empty
  mapped : Counter := {}
deriving Inhabited

namespace PageStore

def name : String := "pages"

def span (store : PageStore) (size : Nat) (machine : Machine) : Except String Pages.Span × Machine :=
  if store.prefersLarge then Pages.Span.allocateWithFallback size machine
  else Pages.Span.allocate size machine

def allocate (request : Request) (store : PageStore) (machine : Machine) : Reply PageStore Block :=
  if Pages.pageSize < request.align then
    .refuse (.invalidArgument "align"
      ("alignment " ++ Text.Numeral.decimal request.align ++ " exceeds the page size " ++
        Text.Numeral.decimal Pages.pageSize)) store machine
  else
    match store.span request.size machine with
    | (.error e, machine) => .refuse (.outOfMemory request.size e) store machine
    | (.ok span, machine) =>
      .done ⟨span.address, request.size, request.align, .pages⟩
        { store with
          mappings := store.mappings.insert span.address ⟨span.capacity, span.large⟩
          mapped := store.mapped.add span.capacity }
        machine

def free (block : Block) (store : PageStore) (machine : Machine) : Reply PageStore Unit :=
  if block.tag ≠ .pages then .refuse (.foreignBlock name block.address) store machine
  else
    match store.mappings.find? block.address with
    | none => .refuse (.foreignBlock name block.address) store machine
    | some mapping =>
      .done ()
        { store with
          mappings := store.mappings.erase block.address
          mapped := store.mapped.sub mapping.capacity }
        (Pages.Span.drop ⟨block.address, mapping.capacity, mapping.large⟩ machine)

def source : Source PageStore where
  name _ := name
  releases _ := true
  held store := store.mapped.read
  allocate := allocate
  free := free

end LayeredAllocation.PageStore
