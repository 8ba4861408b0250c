import LayeredAllocation.Cleanup

namespace LayeredAllocation

inductive Error where
  | outOfMemory (requested : Nat) (reason : String)
  | invalidArgument (name : String) (condition : String)
  | invalidOperation (name : String)
  | indexOutOfBounds (index length : Nat)
  | disposed (what : String)
  | foreignBlock (allocator : String) (address : Nat)
  | doubleFree (allocator : String) (address : Nat)
  | unsupported (allocator : String) (operation : String)
  | leak (allocator : String) (count : Nat) (first : String)
  | cleanup (report : Cleanup.Report String)
  | io (context : String) (cause : String)
deriving DecidableEq, Repr

namespace Error
open Text.Numeral (decimal hexadecimal)

def message : Error → String
  | .outOfMemory requested reason =>
    "out of memory allocating " ++ decimal requested ++ " bytes: " ++ reason
  | .invalidArgument name condition => "invalid argument " ++ name ++ ": " ++ condition
  | .invalidOperation name => "invalid operation " ++ name
  | .indexOutOfBounds index length =>
    "index " ++ decimal index ++ " out of bounds for length " ++ decimal length
  | .disposed what => what ++ " used after it was disposed"
  | .foreignBlock allocator address =>
    "allocator '" ++ allocator ++ "' did not issue block at " ++ hexadecimal address
  | .doubleFree allocator address =>
    "double free of block at " ++ hexadecimal address ++ " in allocator '" ++ allocator ++ "'"
  | .unsupported allocator operation =>
    "allocator '" ++ allocator ++ "' does not support " ++ operation
  | .leak allocator count first =>
    "allocator '" ++ allocator ++ "' leaked " ++ decimal count ++
      " allocation(s), first at " ++ first
  | .cleanup report => "cleanup failed: " ++ report.message id
  | .io context cause => "IO error for '" ++ context ++ "': " ++ cause

def isContractViolation : Error → Bool
  | .invalidArgument .. | .indexOutOfBounds .. | .disposed _ | .foreignBlock .. | .doubleFree .. =>
    true
  | _ => false

def isOutOfMemory : Error → Bool
  | .outOfMemory .. => true
  | _ => false

def cause? : Error → Option String
  | .io _ cause => some cause
  | _ => none

-- Refuses an argument unless its condition holds; the text is the condition as written.
def verify (holds : Bool) (name condition : String) : Except Error Unit :=
  if holds then .ok () else .error (.invalidArgument name condition)

-- A size and an alignment that no layout can have.
def layout : Error := .invalidArgument "layout" "invalid parameters to Layout::from_size_align"

theorem verify_eq_ok_iff {holds : Bool} {name condition : String} :
    verify holds name condition = .ok () ↔ holds = true := by
  cases holds <;> simp [verify]

end LayeredAllocation.Error
