import LayeredAllocation.Buffer
import LayeredAllocation.Proofs.Housing
import LayeredAllocation.Proofs.Registry.Panics

namespace LayeredAllocation

namespace Buffer
variable {buffer : Buffer ω}

def inUse (buffer : Buffer ω) : Bool := !buffer.disposed && buffer.byteLength != 0

theorem inUse_disposed (disposed : buffer.disposed = true) : buffer.inUse = false := by
  rw [inUse, disposed, Bool.not_true, Bool.false_and]

theorem inUse_zeroSized {element : Element} {count : Nat} (none : count = 0 ∨ element.size = 0) :
    (zeroSized element count : Buffer ω).inUse = false := by
  rw [inUse, zeroSized, byteLength, ElementRun.byteLength, Nat.mul_eq_zero.2 none]
  rfl

theorem inUse_ofBlock {element : Element} {count : Nat} {block : Block} {owner : ω}
    (counted : count ≠ 0) (sized : element.size ≠ 0) :
    (ofBlock element count block owner).inUse = true := by
  have some : count * element.size ≠ 0 := Nat.mul_ne_zero counted sized
  simp only [inUse, ofBlock, byteLength, ElementRun.byteLength, Bool.not_false, Bool.true_and,
    bne_iff_ne]
  exact some

theorem not_disposed (inUse : buffer.inUse = true) : buffer.disposed = false := by
  rw [Buffer.inUse, Bool.and_eq_true, Bool.not_eq_true'] at inUse
  exact inUse.1

theorem active_of_owned {owner : ω} (owned : buffer.owner = if buffer.inUse then some owner else none)
    (other : ω) (has : buffer.owner = some other) : buffer.disposed = false := by
  rw [owned] at has
  split at has
  · next inUse => exact not_disposed inUse
  · cases has

end Buffer

namespace Registry
variable {before between after left : Registry} {n backing users depth above : Nat} {given : List Nat}
  {old layer : Layer} {issued live : List Block} {block : Block} {machine : Machine} {probe : Probe}

-- What an operation has made of a strategy with its layer, and what it gave back meanwhile.
structure Served (n backing users : Nat) (before after : Registry) (given : List Nat)
    (old layer : Layer) (issued live : List Block) : Prop where
  kept : Kept (n + 1) before after
  found : ∃ probe, after.node? n = some ⟨.layer backing layer, probe, users⟩
  returned : after.returned backing = given ++ before.returned backing
  houses : layer.Houses (issued ++ live)
  steady : ∀ block ∈ live, layer.ground? block = old.ground? block
  spared : ∀ loan ∈ layer.loans (issued ++ live), loan.address ∉ given

namespace Served

theorem start (found : before.node? n = some ⟨.layer backing layer, probe, users⟩)
    (houses : layer.Houses live) : Served n backing users before before [] layer layer [] live :=
  ⟨.refl _ _, ⟨probe, found⟩, rfl, houses, fun _ _ => rfl, fun _ _ => List.not_mem_nil⟩

-- What was issued may be left out of account.
theorem others (served : Served n backing users before after given old layer issued live) :
    Served n backing users before after given old layer [] live := by
  have sub : live.Sublist (issued ++ live) := List.sublist_append_right _ _
  refine ⟨served.kept, served.found, served.returned, served.houses.fewer sub, served.steady, ?_⟩
  exact fun loan member => served.spared loan (Layer.loans_mono sub.subset member)

theorem reshape {other : Block}
    (served : Served n backing users before after given old layer [block] live)
    (address : other.address = block.address) (tag : other.tag = block.tag) :
    Served n backing users before after given old layer [other] live := by
  refine ⟨served.kept, served.found, served.returned, served.houses.reshape address tag,
    served.steady, ?_⟩
  intro loan member
  have same : loan.address ∈ (layer.loans (other :: live)).map Block.address :=
    List.mem_map_of_mem member
  rw [Layer.loans_reshape address tag] at same
  obtain ⟨seen, member, address⟩ := List.mem_map.1 same
  exact address ▸ served.spared seen member

theorem addUser (founded : before.Founded)
    (served : Served n backing users before after given old layer issued live) :
    Served n backing (users + 1) before (after.addUser n) given old layer issued live := by
  obtain ⟨probe, found⟩ := served.found
  have lower : backing < n := served.kept.founded founded n _ backing found rfl
  refine ⟨served.kept.trans (.modify found rfl), ⟨probe, ?_⟩, ?_, served.houses, served.steady,
    served.spared⟩
  · rw [Registry.addUser, node?_modify, if_pos rfl, found]
    rfl
  · rw [Registry.addUser, returned_modify (Nat.ne_of_gt lower), served.returned]

theorem ofSpares {passed : List Block} {change : Node → Node} {seen : Probe} (founded : before.Founded)
    (found : before.node? n = some ⟨.layer backing old, probe, users⟩) (deep : 0 < depth)
    (spares : Layer.Spares (sourceAt depth backing) before passed old layer issued live left)
    (changed : change ⟨.layer backing old, probe, users⟩ = ⟨.layer backing layer, seen, users⟩) :
    Served n backing users before (left.modify n change) (passed.map Block.address) old layer issued
      live := by
  have lower : backing < n := founded n _ backing found rfl
  have beneath := called_kept founded spares.called
  have still := (beneath.above n lower).trans found
  refine ⟨?_, ⟨seen, ?_⟩, ?_, spares.houses, spares.steady, spares.spared⟩
  · have wide := beneath.mono (Nat.succ_le_succ (Nat.le_of_lt lower))
    exact wide.trans (.modify still (by rw [changed]; rfl))
  · rw [node?_modify, if_pos rfl, still, ← changed]
    rfl
  · rw [returned_modify (Nat.ne_of_gt lower)]
    apply called_returned founded deep _ spares.called
    exact present_of_lt (Option.isSome_iff_exists.2 ⟨_, found⟩) lower

end Served

theorem allocate_served (above : Nat) (request : Request) (founded : before.Founded)
    (found : before.node? n = some ⟨.layer backing layer, probe, users⟩) (houses : layer.Houses live)
    (apart : Layer.LendsApart (sourceAt (n + above) backing) layer live before machine) :
    let reply := (sourceAt (n + above + 1) n).allocate request before machine
    ∃ given now, Served n backing users before reply.state given layer now reply.issued live := by
  have lower : backing < n := founded n _ backing found rfl
  have deep : 0 < n + above := Nat.lt_of_lt_of_le (Nat.zero_lt_of_lt lower) (Nat.le_add_right _ _)
  obtain ⟨seen, failed | through⟩ := allocate_layer (n + above) request machine found
  · rw [failed]
    exact ⟨[], layer, .ofSpares founded found deep (.idle .start houses) rfl⟩
  · obtain ⟨given, spares⟩ := Layer.allocate_spares houses apart
    rw [through]
    exact ⟨_, _, .ofSpares founded found deep spares rfl⟩

theorem free_served (above : Nat) (machine : Machine) (founded : before.Founded)
    (found : before.node? n = some ⟨.layer backing layer, probe, users⟩)
    (houses : layer.Houses (block :: live)) :
    let reply := (sourceAt (n + above + 1) n).free block before machine
    ∃ given now, Served n backing users before reply.state given layer now [] live ∧
      (∀ error, reply.result = .error (.refused error) → now = layer) := by
  have lower : backing < n := founded n _ backing found rfl
  have deep : 0 < n + above := Nat.lt_of_lt_of_le (Nat.zero_lt_of_lt lower) (Nat.le_add_right _ _)
  obtain ⟨seen, failed | through⟩ := free_layer (n + above) block machine found
  · have others := houses.fewer (List.sublist_cons_self _ _)
    rw [failed]
    exact ⟨[], layer, .ofSpares founded found deep (.idle .start others) rfl, fun _ _ => rfl⟩
  · obtain ⟨given, spares, same⟩ :=
      Layer.free_spares (sourceAt (n + above) backing) before machine houses
    rw [through]
    exact ⟨_, _, .ofSpares founded found deep spares rfl, same⟩

-- A buffer does without any block, or it is for the one that was issued.
theorem buffer_served (element : Element) (count : Nat) (zero : Bool) (site : Site)
    (founded : before.Founded) (found : before.node? n = some ⟨.layer backing layer, probe, users⟩)
    (houses : layer.Houses live)
    (apart : Layer.LendsApart (sourceAt n backing) layer live before machine) :
    let reply := Buffer.allocate (source n) n element count zero site before machine
    ∃ given now, Served n backing users before reply.state given layer now [] live ∧
      ∀ buffer, reply.result = .ok buffer → (buffer.owner = none ∧ buffer.inUse = false) ∨
        (buffer.owner = some n ∧ buffer.inUse = true ∧
          Served n backing users before reply.state given layer now [buffer.block] live) := by
  have idle := Served.start found houses
  unfold Buffer.allocate
  split
  · refine ⟨[], layer, idle, fun buffer made => Or.inl ?_⟩
    cases made
    exact ⟨rfl, Buffer.inUse_zeroSized (Or.inl rfl)⟩
  · next counted =>
    split
    · next unsized =>
      refine ⟨[], layer, idle, fun buffer made => Or.inl ?_⟩
      cases made
      exact ⟨rfl, Buffer.inUse_zeroSized (Or.inr unsized)⟩
    · next sized =>
      split
      · exact ⟨[], layer, idle, fun buffer made => nomatch made⟩
      · next request asked =>
        obtain ⟨given, now, served⟩ := allocate_served 0 request founded found houses apart
        unfold source
        generalize (sourceAt (n + 1) n).allocate request before machine = reply at served ⊢
        obtain ⟨result, after, machine'⟩ := reply
        refine ⟨given, now, ?_⟩
        cases result with
        | error fault => exact ⟨served, fun buffer made => nomatch made⟩
        | ok block =>
          refine ⟨served.others, fun buffer made => Or.inr ?_⟩
          cases made
          refine ⟨rfl, ?_, served.reshape rfl rfl⟩
          exact Buffer.inUse_ofBlock counted sized

theorem dispose_served {buffer : Buffer Nat} (machine : Machine) (owned : buffer.owner = some n)
    (active : buffer.disposed = false) (founded : before.Founded)
    (found : before.node? n = some ⟨.layer backing layer, probe, users⟩)
    (houses : layer.Houses (buffer.block :: live)) :
    let outcome := buffer.dispose source before machine
    (before.Running → outcome.1.state.Running) ∧
      ∃ given now, Served n backing users before outcome.1.state given layer now [] live := by
  simp only [Buffer.dispose, active, owned, Bool.false_eq_true, if_false]
  split
  · next releases =>
    obtain ⟨given, now, served, _⟩ := free_served 0 machine founded found houses
    refine ⟨fun running => ?_, given, now, served⟩
    have calm : Calm n before := ⟨founded, running, Option.isSome_iff_exists.2 ⟨_, found⟩⟩
    exact ((sourceAt_calm (n + 1) n (Nat.lt_succ_self n)).free buffer.block machine calm).1.running
  · exact ⟨id, [], layer, .start found (houses.fewer (List.sublist_cons_self _ _))⟩

theorem emptied_served {pool : Pool} (disposing : Bool) (machine : Machine) (founded : before.Founded)
    (found : before.node? n = some ⟨.layer backing (.pool pool), probe, users⟩)
    (houses : (Layer.pool pool).Houses live) :
    let reply := (if disposing then Pool.dispose else Pool.trim) (source backing) (pool, before) machine
    ∃ given, Served n backing users before
      (reply.state.2.setBody n (.layer backing (.pool reply.state.1))) given (.pool pool)
        (.pool reply.state.1) [] live := by
  have emptied : (if disposing then Pool.dispose else Pool.trim) (source backing) (pool, before)
        machine =
      Pool.releaseAll (source backing) none pool.idleBlocks
        { pool.emptied with disposed := disposing || pool.disposed } before machine := by
    cases disposing <;> rfl
  obtain ⟨given, spares⟩ := Pool.emptied_spares (source backing) before machine
    (disposing || pool.disposed) houses
  rw [emptied]
  exact ⟨_, .ofSpares founded found (Nat.succ_pos backing) spares rfl⟩

structure Vacated (n backing users : Nat) (before after : Registry) (given : List Nat)
    (old layer : Layer) (live : List Block) : Prop where
  kept : Kept (n + 1) before after
  found : ∃ probe, after.node? n = some ⟨.layer backing layer, probe, users - 1⟩
  returned : after.returned backing = given ++ before.returned backing
  goesOn : 1 < users → Served n backing (users - 1) before after given old layer [] live
  ends : users ≤ 1 → ∃ offered rest, layer.stock = offered ++ rest ∧
    (∀ loan ∈ offered, given.count loan.address = 1) ∧ (before.Running → rest = [])

theorem Running.withoutUser (running : before.Running) : (before.withoutUser n).Running :=
  running.modify fun _ goesOn => goesOn

-- Each block is passed on once, and it was not given back by the operation before.
theorem count_passed {own : List Nat} {passed rest : List Block} (houses : layer.Houses live)
    (all : passed.reverse ++ rest = layer.stock)
    (spared : ∀ loan ∈ layer.loans live, loan.address ∉ own) :
    ∀ loan ∈ passed, (passed.map Block.address ++ own).count loan.address = 1 := by
  intro loan member
  have loans : layer.loans live = passed.reverse ++ (rest ++ layer.lentOn live) := by
    rw [Layer.loans, ← all, List.append_assoc]
  have distinct := houses.distinct
  rw [loans, List.map_append, List.map_reverse] at distinct
  have distinct := List.nodup_reverse.1 (List.nodup_append.1 distinct).1
  have once := List.count_eq_one_of_mem distinct (List.mem_map_of_mem member)
  have never := spared loan (loans ▸ List.mem_append_left _ (List.mem_reverse.2 member))
  rw [List.count_append, once, List.count_eq_zero.2 never]

theorem Served.release (above : Nat) (panicking : Bool) (machine : Machine) (founded : before.Founded)
    (served : Served n backing users before between given old layer [] live)
    (goesOn : before.Running → between.Running) :
    ∃ given, Vacated n backing users before
      (releaseAt (n + above + 1) panicking n between machine).2.1 given old layer live := by
  obtain ⟨probe, found⟩ := served.found
  have founded := served.kept.founded founded
  have lower : backing < n := founded n _ backing found rfl
  have other := Nat.ne_of_gt lower
  by_cases shared : 1 < users
  · rw [releaseAt_shared panicking machine found shared]
    have kept := served.kept.trans (withoutUser_kept found)
    have found := withoutUser_found found
    have returned : (between.withoutUser n).returned backing = given ++ before.returned backing :=
      (returned_modify other _).trans served.returned
    refine ⟨given, kept, ⟨probe, found⟩, returned, fun _ => ?_,
      fun last => absurd shared (Nat.not_lt.2 last)⟩
    exact ⟨kept, ⟨probe, found⟩, returned, served.houses, served.steady, served.spared⟩
  · have deep : backing < n + above := Nat.lt_of_lt_of_le lower (Nat.le_add_right _ _)
    obtain ⟨passed, rest, left, offered, kept, now, returned⟩ := releaseAt_ends panicking machine
      founded (Nat.zero_lt_of_lt deep) found shared served.houses.stores
    refine ⟨passed.map Block.address ++ given, served.kept.trans kept, ⟨probe, now⟩, ?_,
      fun more => absurd more shared, fun _ => ⟨passed.reverse, rest, offered.all.symm, ?_, ?_⟩⟩
    · rw [returned, served.returned, List.append_assoc]
    · intro loan member
      exact count_passed served.houses offered.all served.spared loan (List.mem_reverse.1 member)
    · intro running
      have parted := withoutUser_kept found
      have present := present_of_lt (Option.isSome_iff_exists.2 ⟨_, withoutUser_found found⟩) lower
      apply (sourceAt_calm (n + above) backing deep).complete _ offered
      exact ⟨parted.founded founded, (goesOn running).withoutUser, present⟩

end Registry

end LayeredAllocation
