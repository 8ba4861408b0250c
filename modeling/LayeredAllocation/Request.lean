import LayeredAllocation.Error
import LayeredAllocation.Word

namespace LayeredAllocation

structure Site where
  file : String
  line : Nat
  column : Nat
deriving DecidableEq, Repr

def Site.internal : Site := ⟨"internal", 0, 0⟩

def Site.text (site : Site) : String :=
  site.file ++ ":" ++ Text.Numeral.decimal site.line ++ ":" ++ Text.Numeral.decimal site.column

structure Request where
  size : Nat
  align : Nat
  zero : Bool
  elementSize : Nat
  count : Nat
  site : Site
deriving DecidableEq, Repr

namespace Request

-- What every strategy may assume of a request.
def Valid (request : Request) : Prop :=
  0 < request.size ∧ Word.isPowerOfTwo request.align = true ∧
    request.size ≤ Word.longest - (request.align - 1)

instance (request : Request) : Decidable request.Valid := inferInstanceAs (Decidable (_ ∧ _ ∧ _))

-- What strategies need of a request to keep the contract.
def Proper (request : Request) : Prop := 0 < request.size ∧ Word.isPowerOfTwo request.align = true

instance (request : Request) : Decidable request.Proper := inferInstanceAs (Decidable (_ ∧ _))

theorem Valid.proper {request : Request} (valid : request.Valid) : request.Proper :=
  ⟨valid.1, valid.2.1⟩

-- Raw bytes. Of several faults the first in this order is reported.
def bytes? (size align : Nat) (zero : Bool) (site : Site) : Except Error Request :=
  if ¬ 0 < size then .error (.invalidArgument "size" "size > 0")
  else if ¬ Word.isPowerOfTwo align then
    .error (.invalidArgument "align" "align.is_power_of_two()")
  else if ¬ size ≤ Word.longest - (align - 1) then
    .error (.invalidArgument "size" "size <= isize::MAX as usize - (align - 1)")
  else .ok ⟨size, align, zero, 1, size, site⟩

def elements? (elementSize elementAlign count : Nat) (zero : Bool) (site : Site) :
    Except Error Request :=
  if count * elementSize ≤ Word.longest then
    match bytes? (count * elementSize) elementAlign zero site with
    | .ok request => .ok { request with elementSize := elementSize, count := count }
    | .error e => .error e
  else
    .error (.invalidArgument "count"
      (Text.Numeral.decimal count ++ " elements of " ++ Text.Numeral.decimal elementSize ++
        " bytes overflow the address space"))

def withSize (request : Request) (size : Nat) : Request := { request with size := size }
def withAlign (request : Request) (align : Nat) : Request := { request with align := align }
def withZero (request : Request) (zero : Bool) : Request := { request with zero := zero }

theorem bytes?_eq_ok {size align : Nat} {zero : Bool} {site : Site} {request : Request} :
    bytes? size align zero site = .ok request ↔
      request = ⟨size, align, zero, 1, size, site⟩ ∧ request.Valid := by
  unfold bytes? Valid
  constructor
  · intro accepted
    split at accepted
    · cases accepted
    · next positive =>
      split at accepted
      · cases accepted
      · next power =>
        split at accepted
        · cases accepted
        · next room =>
          cases accepted
          exact ⟨rfl, Decidable.of_not_not positive, by simpa using power,
            Decidable.of_not_not room⟩
  · rintro ⟨rfl, positive, power, room⟩
    simp_all

theorem elements?_valid {elementSize elementAlign count : Nat} {zero : Bool} {site : Site}
    {request : Request}
    (accepted : elements? elementSize elementAlign count zero site = .ok request) :
    request.Valid ∧ request.size = count * elementSize ∧ request.align = elementAlign := by
  unfold elements? at accepted
  split at accepted
  · split at accepted
    · next raw made =>
      obtain ⟨rfl, valid⟩ := bytes?_eq_ok.1 made
      cases accepted
      exact ⟨valid, rfl, rfl⟩
    · cases accepted
  · cases accepted

end LayeredAllocation.Request
