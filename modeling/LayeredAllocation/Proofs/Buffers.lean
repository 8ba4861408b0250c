import LayeredAllocation.Proofs.Makes
import LayeredAllocation.Proofs.Follows
import LayeredAllocation.Proofs.Shapes
import LayeredAllocation.Session

namespace LayeredAllocation

namespace Buffer
variable {below : Source σ}

def drop (sourceOf : ω → Source σ) (buffer : Buffer ω) (state : σ) (machine : Machine) : Reply σ Unit :=
  match (buffer.dispose sourceOf state machine).1 with
  | ⟨.error (.refused e), state, machine⟩ => .done () state (machine.failure (buffer.dropLine e))
  | reply => reply

inductive Access where
  | get (index : Nat)
  | set (index : Nat) (value : List UInt8)
  | elements
  | bytes
  | writeAll (content : Nat → UInt8)
  | fill (value : List UInt8)
  | clear
  | reverse
  | copyFrom (values : List (List UInt8))
  | copyTo (room : Nat)
  | pointer
  | slice (range : IndexRange)

def access (buffer : Buffer ω) (memory : Memory) : Access → Except Error Memory
  | .get index => (buffer.get memory index).map fun _ => memory
  | .set index value => buffer.set memory index value
  | .elements => (buffer.toList memory).map fun _ => memory
  | .bytes => (buffer.bytes memory).map fun _ => memory
  | .writeAll content => buffer.writeAll memory content
  | .fill value => buffer.fill memory value
  | .clear => buffer.clear memory
  | .reverse => buffer.reverse memory
  | .copyFrom values => buffer.copyFrom memory values
  | .copyTo room => (buffer.copyTo memory room).map fun _ => memory
  | .pointer => buffer.pointer.map fun _ => memory
  | .slice range => (buffer.slice range).map fun _ => memory

-- What the owner of a buffer can still expect from it.
def due (below : Source σ) (buffer : Buffer ω) (state : σ) : List Block :=
  if ¬ buffer.disposed ∧ buffer.owner.isSome ∧ below.releases state then [buffer.block] else []

theorem due_disposed {buffer : Buffer ω} (disposed : buffer.disposed = true) (s : σ) :
    buffer.due below s = [] :=
  if_neg fun due => due.1 disposed

theorem due_unowned {buffer : Buffer ω} (unowned : buffer.owner = none) (s : σ) :
    buffer.due below s = [] := by
  simp only [due, unowned, Option.isSome_none, Bool.false_eq_true, false_and, and_false, if_false]

theorem due_ofBlock {element : Element} {count : Nat} {block : Block} (owner : ω)
    (size : block.size = count * element.size) (s : σ) :
    (ofBlock element count block owner).due below s = if below.releases s then [block] else [] := by
  obtain ⟨address, _, align, tag⟩ := block
  cases size
  simp only [due, ofBlock, Bool.false_eq_true, not_false_eq_true, Option.isSome_some, true_and]
  rfl

theorem dispose_settles (buffer : Buffer Unit) (owner : Noted σ) (machine : Machine) :
    (buffer.dispose (fun _ => below.noted) owner machine).1.state.returned =
        buffer.due below owner.beneath ++ owner.returned ∧
      (buffer.dispose (fun _ => below.noted) owner machine).2.disposed = true := by
  unfold dispose
  split
  · next disposed =>
    refine ⟨?_, disposed⟩
    rw [due_disposed disposed]
    rfl
  · next live =>
    dsimp only
    split
    · next unowned =>
      refine ⟨?_, rfl⟩
      rw [due_unowned unowned]
      rfl
    · next owned =>
      split
      · next releases =>
        refine ⟨?_, rfl⟩
        rw [due, owned, if_pos ⟨live, rfl, releases⟩]
        rfl
      · next keeps =>
        refine ⟨?_, rfl⟩
        rw [due, owned, if_neg (fun due => keeps due.2.2)]
        rfl

-- A failure to give the block back is written down, and changes nothing else.
theorem drop_state (sourceOf : ω → Source σ) (buffer : Buffer ω) (s : σ) (machine : Machine) :
    (buffer.drop sourceOf s machine).state = (buffer.dispose sourceOf s machine).1.state := by
  unfold drop
  split
  · next same => rw [same]; rfl
  · rfl

theorem drop_settles (buffer : Buffer Unit) (owner : Noted σ) (machine : Machine) :
    (buffer.drop (fun _ => below.noted) owner machine).state.returned =
      buffer.due below owner.beneath ++ owner.returned := by
  rw [drop_state]
  exact (dispose_settles buffer owner machine).1

theorem disposed_drop_settles (buffer : Buffer Unit) (owner : Noted σ) (machine : Machine) :
    ((buffer.dispose (fun _ => below.noted) owner machine).2.drop (fun _ => below.noted)
        (buffer.dispose (fun _ => below.noted) owner machine).1.state
        (buffer.dispose (fun _ => below.noted) owner machine).1.machine).state.returned =
      buffer.due below owner.beneath ++ owner.returned := by
  obtain ⟨returned, disposed⟩ := dispose_settles buffer owner machine
  rw [drop_settles, due_disposed disposed]
  exact returned

-- Only a buffer with bytes in it has a block, and it is the only one that was issued.
inductive Obtained (element : Element) (count : Nat) (buffer : Buffer Unit)
    (owner : Noted σ) : Prop where
  | empty (unsized : ¬ (count ≠ 0 ∧ element.size ≠ 0)) (unissued : owner.issued = [])
      (unowned : buffer.owner = none)
  | issued {block : Block} (sized : count ≠ 0 ∧ element.size ≠ 0) (issued : owner.issued = [block])
      (made : buffer = ofBlock element count block ()) (size : block.size = count * element.size)

theorem obtained_of_allocate {element : Element} {count : Nat} {zero : Bool} {site : Site} {s : σ}
    {machine machine' : Machine} {buffer : Buffer Unit} {owner : Noted σ} {view : σ → α}
    (shapes : below.Shapes) (keeps : below.Keeps view) (answer :
      Buffer.allocate below.noted () element count zero site { beneath := s } machine =
        ⟨.ok buffer, owner, machine'⟩) :
    owner.returned = [] ∧ view owner.beneath = view s ∧ Obtained element count buffer owner := by
  unfold Buffer.allocate at answer
  split at answer
  · next none =>
    cases answer
    exact ⟨rfl, rfl, .empty (fun sized => sized.1 none) rfl rfl⟩
  · next counted =>
    split at answer
    · next none =>
      cases answer
      exact ⟨rfl, rfl, .empty (fun sized => sized.2 none) rfl rfl⟩
    · next sized =>
      split at answer
      · cases answer
      · next request asked =>
        have shaped := shapes request s machine
        have kept := keeps.allocate request s machine
        have heard : below.noted.allocate request { beneath := s } machine =
            ⟨(below.allocate request s machine).result,
              Noted.hear { beneath := s } request (below.allocate request s machine).result
                (below.allocate request s machine).state,
              (below.allocate request s machine).machine⟩ := rfl
        rw [heard] at answer
        generalize below.allocate request s machine = reply at shaped kept answer
        obtain ⟨result, after, last⟩ := reply
        cases result with
        | error fault => cases answer
        | ok block =>
          cases answer
          have size := (shaped block rfl).1.trans (Request.elements?_valid asked).2.1
          exact ⟨rfl, kept, .issued ⟨counted, sized⟩ rfl rfl size⟩

theorem borrow_unowned {element : Element} {address count : Nat} {buffer : Buffer ω}
    (lent : borrow element address count = .ok buffer) : buffer.owner = none := by
  unfold borrow at lent
  split at lent
  · cases lent
    rfl
  · split at lent
    · cases lent
    · cases lent
      rfl

end Buffer

-- As long as its owner has other users, what a session does to drop a buffer is just that.
theorem Session.State.dropBuffer_of_shared (state : State) {buffer : Buffer Nat} {owner : Nat}
    {node : Node} (live : buffer.disposed = false) (owned : buffer.owner = some owner)
    (found : (buffer.dispose Registry.source state.registry state.machine).1.state.node? owner =
      some node) (shared : 1 < node.users) :
    state.dropBuffer buffer =
      let reply := buffer.drop Registry.source state.registry state.machine
      (reply.result, { state with
        registry := reply.state.modify owner fun node => { node with users := node.users - 1 }
        machine := reply.machine }) := by
  unfold dropBuffer disposeBuffer Buffer.drop
  generalize buffer.dispose Registry.source state.registry state.machine = outcome at found ⊢
  obtain ⟨⟨result, registry, machine⟩, ended⟩ := outcome
  have released : ∀ panicking, registry.release panicking owner machine =
      (none, registry.modify owner fun node => { node with users := node.users - 1 }, machine) := by
    intro panicking
    simp only [Registry.release, Registry.releaseAt, found, if_pos shared]
  simp only [live, owned, Bool.false_eq_true, if_false, settle, release, released]
  rcases result with (error | message) | _ <;> rfl

end LayeredAllocation
