import LayeredAllocation.Proofs.Registry.Service
import LayeredAllocation.Session.Strategies

namespace LayeredAllocation

open Registry (Served Vacated sourceAt releaseAt)

namespace Session.State
variable {buffer : Buffer Nat} {n : Nat}

theorem disposeBuffer_unowned (state : State) (unowned : buffer.owner = none) :
    (state.disposeBuffer buffer).2 = ({ buffer with disposed := true }, state) := by
  have outcome : buffer.dispose Registry.source state.registry state.machine =
      (.done () state.registry state.machine, { buffer with disposed := true }) := by
    obtain ⟨run, align, tag, owner, disposed⟩ := buffer
    cases unowned
    cases disposed with
    | true => rfl
    | false => rfl
  simp only [disposeBuffer, outcome, unowned, ite_self]
  rfl

theorem disposeBuffer_owned (state : State) (owned : buffer.owner = some n)
    (active : buffer.disposed = false) :
    let outcome := buffer.dispose Registry.source state.registry state.machine
    (state.disposeBuffer buffer).2.1 = outcome.2 ∧ ∃ panicking,
      (state.disposeBuffer buffer).2.2.registry =
        (releaseAt (n + 1) panicking n outcome.1.state outcome.1.machine).2.1 := by
  simp only [disposeBuffer, active, owned, Bool.false_eq_true, if_false, release, Registry.release]
  split
  · next same => exact ⟨rfl, _, (congrArg (fun released => released.2.registry) same).symm⟩
  · next same => exact ⟨rfl, _, (congrArg (fun released => released.2.registry) same).symm⟩

theorem disposeBuffer_ended (state : State)
    (active : ∀ n, buffer.owner = some n → buffer.disposed = false) :
    (state.disposeBuffer buffer).2.1.owner = none ∧
      (state.disposeBuffer buffer).2.1.disposed = true := by
  cases owner : buffer.owner with
  | none =>
    rw [disposeBuffer_unowned state owner]
    exact ⟨owner, rfl⟩
  | some n =>
    rw [(disposeBuffer_owned state owner (active n owner)).1]
    simp only [Buffer.dispose, active n owner, owner, Bool.false_eq_true, if_false]
    split <;> exact ⟨rfl, rfl⟩

theorem dropBuffer_registry (state : State) (buffer : Buffer Nat) :
    (state.dropBuffer buffer).2.registry = (state.disposeBuffer buffer).2.2.registry := by
  unfold dropBuffer
  split
  · next same => rw [same]
  · next same => rw [same]

end Session.State

structure Tenancy where
  state : Session.State
  handles : Nat
  -- Also those that have been disposed of, or never had a block.
  buffers : List (Buffer Nat) := []
  blocks : List Block := []

namespace Tenancy

-- What clients may do. Strategies on top of one another are some steps away from it, and may let go
-- of it while a panic is under way.
inductive Deed where
  | share
  | leave (above : Nat) (panicking : Bool)
  | allocate (element : Element) (count : Nat) (zero : Bool) (site : Site)
  | dispose (index : Nat)
  | drop (index : Nat)
  | take (above : Nat) (request : Request)
  | giveBack (above index : Nat)
  | empty (disposing : Bool)

def tenants (t : Tenancy) : List (Buffer Nat) := t.buffers.filter Buffer.inUse

def users (t : Tenancy) : Nat := t.handles + t.tenants.length

def live (t : Tenancy) : List Block := t.tenants.map Buffer.block ++ t.blocks

def perform (n : Nat) (t : Tenancy) : Deed → Tenancy
  | .share =>
    { t with
      state := { t.state with registry := t.state.registry.addUser n }
      handles := t.handles + 1 }
  | .leave above panicking =>
    match releaseAt (n + above + 1) panicking n t.state.registry t.state.machine with
    | (_, registry, machine) =>
      { t with state := { t.state with registry, machine }, handles := t.handles - 1 }
  | .allocate element count zero site =>
    match t.state.settle (Buffer.allocate (Registry.source n) n element count zero site
      t.state.registry t.state.machine) with
    | (.error _, state) => { t with state }
    | (.ok buffer, state) =>
      match buffer.owner with
      | none => { t with state, buffers := buffer :: t.buffers }
      | some owner =>
        { t with
          state := { state with registry := state.registry.addUser owner }
          buffers := buffer :: t.buffers }
  | .dispose index =>
    match t.buffers[index]? with
    | none => t
    | some buffer =>
      match t.state.disposeBuffer buffer with
      | (_, ended, state) => { t with state, buffers := t.buffers.set index ended }
  | .drop index =>
    match t.buffers[index]? with
    | none => t
    | some buffer =>
      match t.state.dropBuffer buffer with
      | (_, state) => { t with state, buffers := t.buffers.eraseIdx index }
  | .take above request =>
    match t.state.settle
      ((sourceAt (n + above + 1) n).allocate request t.state.registry t.state.machine) with
    | (.error _, state) => { t with state }
    | (.ok block, state) => { t with state, blocks := block :: t.blocks }
  | .giveBack above index =>
    match t.blocks[index]? with
    | none => t
    | some block =>
      match t.state.settle
        ((sourceAt (n + above + 1) n).free block t.state.registry t.state.machine) with
      | (.error (.refused _), state) => { t with state }
      | (_, state) => { t with state, blocks := t.blocks.eraseIdx index }
  | .empty disposing =>
    match t.state.registry.node? n with
    | some { body := .layer backing (.pool pool), .. } =>
      let emptying := if disposing then Pool.dispose else Pool.trim
      { t with
        state := (t.state.settlePool n backing (emptying (Registry.source backing)
          (pool, t.state.registry) t.state.machine)).2 }
    | _ => t

-- What is lent to the strategy next lies apart from what it has from beneath.
def LentApart (n above : Nat) (t : Tenancy) : Prop :=
  ∀ backing layer probe users, t.state.registry.node? n = some ⟨.layer backing layer, probe, users⟩ →
    Layer.LendsApart (sourceAt (n + above) backing) layer t.live t.state.registry t.state.machine

-- Only who has a handle can call the strategy; a buffer can be let go of without one.
def Allows (n : Nat) (t : Tenancy) : Deed → Prop
  | .share | .leave _ _ | .giveBack _ _ | .empty _ => 0 < t.handles
  | .allocate _ _ _ _ => 0 < t.handles ∧ t.LentApart n 0
  | .take above _ => 0 < t.handles ∧ t.LentApart n above
  | .dispose _ | .drop _ => True

-- A strategy that is new: its handles are its only users.
structure Opens (n backing : Nat) (t : Tenancy) : Prop where
  founded : t.state.registry.Founded
  found : ∃ layer probe, Layer.Made layer ∧ Layer.Stores layer ∧
    t.state.registry.node? n = some ⟨.layer backing layer, probe, t.handles⟩
  unused : t.buffers = [] ∧ t.blocks = []

-- Whatever may have happened to a strategy, and to others beside it, since it was new.
inductive Lived (n : Nat) (first : Tenancy) : Tenancy → Prop where
  | start : Lived n first first
  | done {t : Tenancy} (before : Lived n first t) (deed : Deed) (allowed : t.Allows n deed) :
      Lived n first (t.perform n deed)
  | beside {t : Tenancy} (before : Lived n first t) (state : Session.State)
      (founded : state.registry.Founded)
      (untouched : (state.registry.node? n).map (fun node => (node.body, node.users)) =
        (t.state.registry.node? n).map fun node => (node.body, node.users)) :
      Lived n first { t with state }

section
variable {buffers : List (Buffer Nat)} {buffer ended : Buffer Nat} {index : Nat}

theorem filter_perm (listed : buffers[index]? = some buffer) :
    (buffers.filter Buffer.inUse).Perm ((buffer :: buffers.eraseIdx index).filter Buffer.inUse) := by
  obtain ⟨inside, rfl⟩ := List.getElem?_eq_some_iff.1 listed
  exact (List.getElem_cons_eraseIdx_perm inside).symm.filter _

theorem filter_set_perm (listed : buffers[index]? = some buffer) (unused : ended.inUse = false) :
    ((buffers.set index ended).filter Buffer.inUse).Perm
      ((buffers.eraseIdx index).filter Buffer.inUse) := by
  obtain ⟨inside, _⟩ := List.getElem?_eq_some_iff.1 listed
  have same := (List.set_perm_cons_eraseIdx inside ended).filter Buffer.inUse
  rwa [List.filter_cons_of_neg (by simp [unused])] at same

end

def Owned (n : Nat) (buffers : List (Buffer Nat)) : Prop :=
  ∀ buffer ∈ buffers, buffer.owner = if buffer.inUse then some n else none

structure Standing (n backing : Nat) (t : Tenancy) (layer : Layer) : Prop where
  founded : t.state.registry.Founded
  found : ∃ probe, t.state.registry.node? n = some ⟨.layer backing layer, probe, t.users⟩
  owned : Owned n t.buffers
  houses : 0 < t.users → layer.Houses t.live

structure Step (n backing : Nat) (t after : Tenancy) (old layer : Layer) (given : List Nat) :
    Prop where
  standing : after.Standing n backing layer
  returned : after.state.registry.returned backing = given ++ t.state.registry.returned backing
  steady : 0 < after.users → ∀ buffer ∈ after.tenants, buffer ∈ t.tenants →
    layer.ground? buffer.block = old.ground? buffer.block
  spared : 0 < after.users → ∀ loan ∈ layer.loans (after.tenants.map Buffer.block), loan.address ∉ given
  ended : 0 < t.users → after.users = 0 → ∃ offered rest, layer.stock = offered ++ rest ∧
    (∀ loan ∈ offered, given.count loan.address = 1) ∧ (t.state.registry.Running → rest = [])
  unused : t.users = 0 → given = []

section
variable {t after : Tenancy} {n backing : Nat} {old layer : Layer} {given : List Nat}
  {issued live : List Block} {buffer : Buffer Nat} {index : Nat}

theorem mem_live (member : buffer ∈ t.tenants) : buffer.block ∈ t.live :=
  List.mem_append_left _ (List.mem_map_of_mem member)

theorem tenants_sub_live (t : Tenancy) : t.tenants.map Buffer.block ⊆ t.live :=
  List.subset_append_left _ _

theorem Standing.served (standing : t.Standing n backing old)
    (served : Served n backing after.users t.state.registry after.state.registry given old layer issued
      live)
    (used : 0 < t.users) (some : 0 < after.users)
    (owned : Owned n after.buffers)
    (houses : layer.Houses after.live) (lent : after.tenants.map Buffer.block ⊆ issued ++ live)
    (same : ∀ buffer ∈ after.tenants, buffer ∈ t.tenants → buffer.block ∈ live) :
    Step n backing t after old layer given where
  standing := ⟨served.kept.founded standing.founded, served.found, owned, fun _ => houses⟩
  returned := served.returned
  steady _ buffer member old := served.steady _ (same buffer member old)
  spared _ loan member := served.spared loan (Layer.loans_mono lent member)
  ended _ gone := absurd gone (Nat.ne_of_gt some)
  unused none := absurd none (Nat.ne_of_gt used)

theorem Standing.stays (standing : t.Standing n backing old)
    (served : Served n backing t.users t.state.registry after.state.registry given old layer issued
      live)
    (some : 0 < t.users) (handles : after.handles = t.handles) (tenants : after.tenants = t.tenants)
    (owned : Owned n after.buffers)
    (houses : layer.Houses after.live) (kept : t.tenants.map Buffer.block ⊆ live) :
    Step n backing t after old layer given := by
  have users : after.users = t.users := by rw [Tenancy.users, handles, tenants, Tenancy.users]
  rw [← users] at served
  rw [← tenants] at kept
  have lent := List.Subset.trans kept (List.subset_append_right issued live)
  refine standing.served served some (users ▸ some) owned houses lent ?_
  exact fun buffer member _ => kept (List.mem_map_of_mem member)

theorem Standing.vacated (standing : t.Standing n backing old)
    (vacated : Vacated n backing t.users t.state.registry after.state.registry given old layer live)
    (used : 0 < t.users) (users : after.users = t.users - 1)
    (owned : Owned n after.buffers)
    (same : after.live.Perm live) : Step n backing t after old layer given := by
  have lent := List.Subset.trans (tenants_sub_live after) same.subset
  by_cases more : 1 < t.users
  · have served := vacated.goesOn more
    rw [← users] at served
    have some : 0 < after.users := by omega
    have houses := served.houses.perm same
    refine standing.served served used some owned houses lent fun buffer member _ => ?_
    exact same.mem_iff.1 (mem_live member)
  · have none : ¬ 0 < after.users := by omega
    refine ⟨⟨vacated.kept.founded standing.founded, ?_, owned, fun some => absurd some none⟩,
      vacated.returned, fun some => absurd some none, fun some => absurd some none,
      fun _ _ => vacated.ends (Nat.not_lt.1 more), fun unused => absurd unused (Nat.ne_of_gt used)⟩
    rw [users]
    exact vacated.found

theorem Standing.rests (standing : t.Standing n backing old)
    (registry : after.state.registry = t.state.registry) (handles : after.handles = t.handles)
    (tenants : after.tenants.Perm t.tenants) (blocks : after.blocks = t.blocks)
    (owned : Owned n after.buffers) :
    Step n backing t after old old [] := by
  have users : after.users = t.users := by
    rw [Tenancy.users, handles, tenants.length_eq, Tenancy.users]
  have live : after.live.Perm t.live := by
    rw [Tenancy.live, blocks, Tenancy.live]
    exact (tenants.map Buffer.block).append_right t.blocks
  refine ⟨⟨registry ▸ standing.founded, ?_, owned, ?_⟩, ?_, fun _ _ _ _ => rfl,
    fun _ _ _ => List.not_mem_nil, fun some gone => absurd (users.symm.trans gone) (Nat.ne_of_gt some),
    fun _ => rfl⟩
  · rw [registry, users]
    exact standing.found
  · exact fun some => (standing.houses (users ▸ some)).perm live
  · rw [registry, List.nil_append]

theorem Standing.joins (standing : t.Standing n backing old) {between : Registry}
    (served : Served n backing t.users t.state.registry between given old layer [buffer.block] t.live)
    (owned : buffer.owner = some n) (inUse : buffer.inUse = true)
    (registry : after.state.registry = between.addUser n) (handles : after.handles = t.handles)
    (buffers : after.buffers = buffer :: t.buffers) (blocks : after.blocks = t.blocks)
    (used : 0 < t.users) : Step n backing t after old layer given := by
  have tenants : after.tenants = buffer :: t.tenants := by
    rw [Tenancy.tenants, buffers, List.filter_cons_of_pos inUse, Tenancy.tenants]
  have served := served.addUser standing.founded
  have users : after.users = t.users + 1 := by
    rw [Tenancy.users, handles, tenants]
    rfl
  have live : after.live = [buffer.block] ++ t.live := by
    rw [Tenancy.live, tenants, blocks]
    rfl
  rw [← registry, ← users] at served
  refine standing.served served used (users ▸ Nat.succ_pos _) ?_ (live ▸ served.houses)
    (live ▸ tenants_sub_live after) fun _ _ => mem_live
  rw [buffers]
  exact List.forall_mem_cons.2 ⟨by rw [owned, if_pos inUse], standing.owned⟩

theorem share_step (standing : t.Standing n backing old) (allowed : t.Allows n .share) :
    ∃ layer given, Step n backing t (t.perform n .share) old layer given := by
  obtain ⟨probe, found⟩ := standing.found
  have some : 0 < t.users := Nat.lt_add_right _ allowed
  have houses := standing.houses some
  have served := (Served.start found houses).addUser standing.founded
  have users : (t.perform n .share).users = t.users + 1 := Nat.add_right_comm _ _ _
  rw [← users] at served
  have goesOn : 0 < (t.perform n .share).users := users ▸ Nat.succ_pos _
  exact ⟨old, [], standing.served served some goesOn standing.owned houses (tenants_sub_live t)
    fun _ _ => mem_live⟩

theorem leave_step (standing : t.Standing n backing old) (above : Nat) (panicking : Bool)
    (allowed : t.Allows n (.leave above panicking)) :
    ∃ layer given, Step n backing t (t.perform n (.leave above panicking)) old layer given := by
  obtain ⟨probe, found⟩ := standing.found
  have some : 0 < t.users := Nat.lt_add_right _ allowed
  have served := Served.start found (standing.houses some)
  obtain ⟨given, vacated⟩ := served.release above panicking t.state.machine standing.founded id
  have users : (t.perform n (.leave above panicking)).users = t.users - 1 := by
    have handles : 0 < t.handles := allowed
    change t.handles - 1 + t.tenants.length = t.handles + t.tenants.length - 1
    omega
  exact ⟨old, given, standing.vacated vacated some users standing.owned (.refl _)⟩

theorem allocate_step (standing : t.Standing n backing old) (element : Element) (count : Nat)
    (zero : Bool) (site : Site) (allowed : t.Allows n (.allocate element count zero site)) :
    ∃ layer given,
      Step n backing t (t.perform n (.allocate element count zero site)) old layer given := by
  obtain ⟨handles, apart⟩ := allowed
  obtain ⟨probe, found⟩ := standing.found
  have some : 0 < t.users := Nat.lt_add_right _ handles
  have houses := standing.houses some
  obtain ⟨given, now, served, outcome⟩ := Registry.buffer_served element count zero site
    standing.founded found houses (apart _ _ _ _ found)
  simp only [perform, Session.State.settle]
  generalize Buffer.allocate (Registry.source n) n element count zero site t.state.registry
    t.state.machine = reply at served outcome ⊢
  obtain ⟨result, registry, machine⟩ := reply
  refine ⟨now, given, ?_⟩
  cases result with
  | error fault =>
    exact standing.stays served some rfl rfl standing.owned served.houses (tenants_sub_live t)
  | ok buffer =>
    rcases outcome buffer rfl with ⟨unowned, unused⟩ | ⟨owned, inUse, served⟩
    · have tenants : (buffer :: t.buffers).filter Buffer.inUse = t.tenants :=
        List.filter_cons_of_neg (by simp [unused])
      simp only [unowned]
      refine standing.stays served some rfl tenants ?_ ?_ (tenants_sub_live t)
      · exact List.forall_mem_cons.2 ⟨by simp [unowned, unused], standing.owned⟩
      · rw [live, Tenancy.tenants, tenants]
        exact served.houses
    · simp only [owned]
      exact standing.joins served owned inUse rfl rfl rfl rfl some

theorem disposed_step (standing : t.Standing n backing old) (listed : t.buffers[index]? = some buffer)
    (registry : after.state.registry = (t.state.disposeBuffer buffer).2.2.registry)
    (handles : after.handles = t.handles) (blocks : after.blocks = t.blocks)
    (tenants : after.tenants.Perm ((t.buffers.eraseIdx index).filter Buffer.inUse))
    (others : Owned n after.buffers) :
    ∃ layer given, Step n backing t after old layer given := by
  have parted := filter_perm listed
  have owner := standing.owned buffer (List.mem_of_getElem? listed)
  cases inUse : buffer.inUse with
  | false =>
    rw [List.filter_cons_of_neg (by simp [inUse])] at parted
    rw [inUse, if_neg Bool.false_ne_true] at owner
    rw [t.state.disposeBuffer_unowned owner] at registry
    exact ⟨old, [], standing.rests registry handles (tenants.trans parted.symm) blocks others⟩
  | true =>
    rw [List.filter_cons_of_pos inUse] at parted
    rw [inUse, if_pos rfl] at owner
    have active := Buffer.not_disposed inUse
    have users : t.users = after.users + 1 := by
      rw [Tenancy.users, Tenancy.users, handles, tenants.length_eq, Tenancy.tenants, parted.length_eq]
      rfl
    have live : t.live.Perm (buffer.block :: after.live) := by
      rw [Tenancy.live, Tenancy.live, blocks]
      exact ((parted.trans (tenants.symm.cons buffer)).map Buffer.block).append_right t.blocks
    have some : 0 < t.users := users ▸ Nat.succ_pos _
    have houses := (standing.houses some).perm live.symm
    obtain ⟨probe, found⟩ := standing.found
    obtain ⟨goesOn, given, now, served⟩ := Registry.dispose_served t.state.machine owner active
      standing.founded found houses
    obtain ⟨_, panicking, left⟩ := t.state.disposeBuffer_owned owner active
    obtain ⟨given, vacated⟩ := served.release 0 panicking _ standing.founded goesOn
    rw [Nat.add_zero, ← left, ← registry] at vacated
    have fewer : after.users = t.users - 1 := Nat.eq_sub_of_add_eq users.symm
    exact ⟨now, given, standing.vacated vacated some fewer others (.refl _)⟩

theorem dispose_step (standing : t.Standing n backing old) (index : Nat) :
    ∃ layer given, Step n backing t (t.perform n (.dispose index)) old layer given := by
  simp only [perform]
  split
  · exact ⟨old, [], standing.rests rfl rfl (.refl _) rfl standing.owned⟩
  · next buffer listed =>
    have owner := standing.owned buffer (List.mem_of_getElem? listed)
    obtain ⟨unowned, disposed⟩ := t.state.disposeBuffer_ended (Buffer.active_of_owned owner)
    have unused := Buffer.inUse_disposed disposed
    refine disposed_step standing listed rfl rfl rfl (filter_set_perm listed unused) ?_
    intro other member
    rcases List.mem_or_eq_of_mem_set member with old | rfl
    · exact standing.owned other old
    · rw [unowned, unused]
      rfl

theorem drop_step (standing : t.Standing n backing old) (index : Nat) :
    ∃ layer given, Step n backing t (t.perform n (.drop index)) old layer given := by
  simp only [perform]
  split
  · exact ⟨old, [], standing.rests rfl rfl (.refl _) rfl standing.owned⟩
  · next buffer listed =>
    refine disposed_step standing listed (t.state.dropBuffer_registry buffer) rfl rfl (.refl _) ?_
    exact fun other member => standing.owned other (List.mem_of_mem_eraseIdx member)

theorem take_step (standing : t.Standing n backing old) (above : Nat) (request : Request)
    (allowed : t.Allows n (.take above request)) :
    ∃ layer given, Step n backing t (t.perform n (.take above request)) old layer given := by
  obtain ⟨handles, apart⟩ := allowed
  obtain ⟨probe, found⟩ := standing.found
  have some : 0 < t.users := Nat.lt_add_right _ handles
  obtain ⟨given, now, served⟩ := Registry.allocate_served above request standing.founded found
    (standing.houses some) (apart _ _ _ _ found)
  simp only [perform, Session.State.settle]
  generalize (sourceAt (n + above + 1) n).allocate request t.state.registry t.state.machine = reply
    at served ⊢
  obtain ⟨result, registry, machine⟩ := reply
  refine ⟨now, given, ?_⟩
  cases result with
  | error fault =>
    exact standing.stays served some rfl rfl standing.owned served.houses (tenants_sub_live t)
  | ok block =>
    refine standing.stays served some rfl rfl standing.owned ?_ (tenants_sub_live t)
    exact served.houses.perm List.perm_middle

theorem giveBack_step (standing : t.Standing n backing old) (above index : Nat)
    (allowed : t.Allows n (.giveBack above index)) :
    ∃ layer given, Step n backing t (t.perform n (.giveBack above index)) old layer given := by
  have some : 0 < t.users := Nat.lt_add_right _ allowed
  simp only [perform, Session.State.settle]
  split
  · exact ⟨old, [], standing.rests rfl rfl (.refl _) rfl standing.owned⟩
  · next block listed =>
    obtain ⟨inside, same⟩ := List.getElem?_eq_some_iff.1 listed
    have parted : t.live.Perm (block :: (t.tenants.map Buffer.block ++ t.blocks.eraseIdx index)) := by
      have front := (List.getElem_cons_eraseIdx_perm inside).symm
      rw [same] at front
      exact (front.append_left _).trans List.perm_middle
    obtain ⟨probe, found⟩ := standing.found
    obtain ⟨given, now, served, refused⟩ := Registry.free_served above t.state.machine standing.founded
      found ((standing.houses some).perm parted.symm)
    generalize (sourceAt (n + above + 1) n).free block t.state.registry t.state.machine = reply
      at served refused ⊢
    obtain ⟨result, registry, machine⟩ := reply
    refine ⟨now, given, ?_⟩
    have kept := List.subset_append_left (t.tenants.map Buffer.block) (t.blocks.eraseIdx index)
    rcases result with (error | message) | _
    · cases refused error rfl
      exact standing.stays served some rfl rfl standing.owned (standing.houses some) kept
    · exact standing.stays served some rfl rfl standing.owned served.houses kept
    · exact standing.stays served some rfl rfl standing.owned served.houses kept

theorem empty_step (standing : t.Standing n backing old) (disposing : Bool)
    (allowed : t.Allows n (.empty disposing)) :
    ∃ layer given, Step n backing t (t.perform n (.empty disposing)) old layer given := by
  have some : 0 < t.users := Nat.lt_add_right _ allowed
  obtain ⟨probe, found⟩ := standing.found
  have houses := standing.houses some
  simp only [perform, found]
  split
  · next below pool _ _ same =>
    cases same
    obtain ⟨given, served⟩ := Registry.emptied_served disposing t.state.machine standing.founded found
      houses
    exact ⟨_, _, standing.stays served some rfl rfl standing.owned served.houses (tenants_sub_live t)⟩
  · exact ⟨old, [], standing.rests rfl rfl (.refl _) rfl standing.owned⟩

theorem perform_step (standing : t.Standing n backing old) (deed : Deed) (allowed : t.Allows n deed) :
    ∃ layer given, Step n backing t (t.perform n deed) old layer given := by
  cases deed with
  | share => exact share_step standing allowed
  | leave above panicking => exact leave_step standing above panicking allowed
  | allocate element count zero site => exact allocate_step standing element count zero site allowed
  | dispose index => exact dispose_step standing index
  | drop index => exact drop_step standing index
  | take above request => exact take_step standing above request allowed
  | giveBack above index => exact giveBack_step standing above index allowed
  | empty disposing => exact empty_step standing disposing allowed

theorem Opens.standing (opens : t.Opens n backing) : ∃ layer, t.Standing n backing layer := by
  obtain ⟨founded, ⟨layer, probe, made, stores, found⟩, buffers, blocks⟩ := opens
  have tenants : t.tenants = [] := by rw [tenants, buffers, List.filter_nil]
  refine ⟨layer, founded, ⟨probe, ?_⟩, ?_, fun _ => ?_⟩
  · rw [users, tenants]
    exact found
  · rw [buffers]
    exact fun _ member => absurd member List.not_mem_nil
  · rw [live, tenants, blocks]
    exact made.houses stores

theorem Lived.standing {first : Tenancy} (opens : first.Opens n backing) (lived : Lived n first t) :
    ∃ layer, t.Standing n backing layer := by
  induction lived with
  | start => exact opens.standing
  | done before deed allowed ih =>
    obtain ⟨old, standing⟩ := ih
    obtain ⟨layer, given, step⟩ := perform_step standing deed allowed
    exact ⟨layer, step.standing⟩
  | beside before state founded untouched ih =>
    obtain ⟨layer, standing⟩ := ih
    obtain ⟨probe, found⟩ := standing.found
    rw [found] at untouched
    obtain ⟨⟨body, seen, users⟩, now, same⟩ := Option.map_eq_some_iff.1 untouched
    cases same
    exact ⟨layer, founded, ⟨seen, now⟩, standing.owned, standing.houses⟩

-- The memory lives exactly as long as its users. After each deed a buffer still lies where it lay,
-- and that was not given back, nor is anything that the strategy goes on holding. With the last user
-- all of it is given back, each piece once, whatever the source beneath makes of it; only a slab
-- beneath that was interrupted can stop that. From then on there is nothing to give back.
theorem memory_lives_as_long_as_its_users {first : Tenancy} (opens : first.Opens n backing)
    (lived : Lived n first t) (deed : Deed) (allowed : t.Allows n deed) :
    let after := t.perform n deed
    ∃ old layer given,
      (∃ probe, t.state.registry.node? n = some ⟨.layer backing old, probe, t.users⟩) ∧
      (∃ probe, after.state.registry.node? n = some ⟨.layer backing layer, probe, after.users⟩) ∧
      after.state.registry.returned backing = given ++ t.state.registry.returned backing ∧
      (∀ buffer ∈ after.tenants, ∃ ground, layer.ground? buffer.block = some ground ∧
        ground.address ∉ given ∧ (buffer ∈ t.tenants → old.ground? buffer.block = some ground)) ∧
      (0 < after.users → ∀ loan ∈ layer.stock, loan.address ∉ given) ∧
      (0 < t.users → after.users = 0 → ∃ offered rest, layer.stock = offered ++ rest ∧
        (∀ loan ∈ offered, given.count loan.address = 1) ∧ (t.state.registry.Running → rest = [])) ∧
      (t.users = 0 → given = []) := by
  obtain ⟨old, standing⟩ := lived.standing opens
  obtain ⟨layer, given, step⟩ := perform_step standing deed allowed
  refine ⟨old, layer, given, standing.found, step.standing.found, step.returned, ?_, ?_, step.ended,
    step.unused⟩
  · intro buffer member
    have some : 0 < (t.perform n deed).users :=
      Nat.lt_add_left _ (List.length_pos_of_mem member)
    have houses := step.standing.houses some
    obtain ⟨ground, found⟩ := Option.isSome_iff_exists.1 (houses.grounded _ (mem_live member))
    have lent := Layer.ground_mem (List.mem_map_of_mem member) found
    refine ⟨ground, found, step.spared some ground lent, fun old => ?_⟩
    rw [← step.steady some buffer member old]
    exact found
  · exact fun some loan member => step.spared some loan (List.mem_append_left _ member)

-- A system allocator lends apart what it lends, as long as all that is in use lies in pieces of memory
-- of their own.
def housedBySystem (n : Nat) (t : Tenancy) : Bool :=
  match t.state.registry.node? n with
  | some { body := .layer backing layer, .. } =>
    match t.state.registry.node? backing with
    | some { body := .bottom (.system _), .. } =>
      (layer.loans t.live).all fun loan =>
        t.state.machine.memory.roots.any fun root => root.extent.start = loan.address
    | _ => false
  | _ => false

theorem lentApart_of_system (above : Nat) (fresh : t.state.machine.memory.platform.Fresh)
    (housed : t.housedBySystem n = true) : t.LentApart n above := by
  intro backing layer probe users found request block after machine' answer
  simp only [housedBySystem, found] at housed
  split at housed
  · next store seen uses beneath =>
    generalize n + above = depth at answer
    cases depth with
    | zero => cases answer
    | succ depth =>
      simp only [sourceAt, beneath] at answer
      have step := Probe.allocate_step (Body.source (sourceAt depth)) request seen
        (.bottom (.system store), t.state.registry) t.state.machine
      change (Probe.allocate (Body.source (sourceAt depth)) request
        (seen, .bottom (.system store), t.state.registry) t.state.machine).mapState _ = _ at answer
      generalize Probe.allocate (Body.source (sourceAt depth)) request _ _ = reply at step answer
      cases step with
      | injected sees => cases answer
      | passed sees granted =>
        have supplied := SystemStore.allocate_supplied request store t.state.machine
        change ((SystemStore.source.allocate request store t.state.machine).mapState
          Bottom.system).mapState (fun base => (Body.bottom base, t.state.registry)) = _ at granted
        generalize SystemStore.source.allocate request store t.state.machine = reply at supplied granted
        cases supplied with
        | refused untouched =>
          cases granted
          cases answer
        | granted grants =>
          cases granted
          cases answer
          refine ⟨fun member => ?_, by cases layer <;> rfl⟩
          obtain ⟨loan, lent, same⟩ := List.mem_map.1 member
          obtain ⟨root, old, here⟩ := List.any_eq_true.1 (List.all_eq_true.1 housed loan lent)
          have apart := (fresh _ _ _ _ _ _ grants.placed.placed root old).2
          exact apart ((of_decide_eq_true here).trans same)
  · cases housed

end

def newArena : Tenancy where
  handles := 1
  state :=
    { machine := { memory := { platform := .ascending } }
      registry.nodes :=
        [⟨.bottom (.system {}), { freePlan := .after 0 1 }, 1⟩,
          ⟨.layer 0 (.arena { owner := 1, config := { chunkSize := 64 } }), {}, 1⟩] }

def byte : Element := ⟨1, 1, .unsigned⟩

def oneTenant : Tenancy :=
  (((newArena.perform 1 (.allocate byte 64 false Site.internal)).perform 1
    (.allocate byte 64 false Site.internal)).perform 1 (.leave 0 false)).perform 1 (.dispose 0)

theorem newArena_opens : newArena.Opens 1 0 := by
  refine ⟨?_, ⟨_, _, .arena rfl, trivial, rfl⟩, rfl, rfl⟩
  intro number node backing found stands
  match number with
  | 0 =>
    cases found
    cases stands
  | 1 =>
    cases found
    cases stands
    exact Nat.one_pos
  | number + 2 => cases found

theorem oneTenant_lived : Lived 1 newArena oneTenant := by
  have fresh := Platform.ascending_fresh
  refine .done (.done (.done (.done .start _ ?_) _ ?_) _ ?_) _ trivial
  · exact ⟨by decide, lentApart_of_system 0 fresh (by decide +kernel)⟩
  · exact ⟨by decide, lentApart_of_system 0 fresh (by decide +kernel)⟩
  · exact Nat.one_pos

-- When the other one is dropped, both chunks go back, although the first of them is refused.
theorem memory_lives_as_long_as_its_users_oneTenant :
    let after := oneTenant.perform 1 (.drop 1)
    (oneTenant.users = 1 ∧ after.users = 0 ∧
      after.state.registry.returned 0 = [Platform.floor + 4096, Platform.floor]) ∧
    ∃ old layer given,
      (∃ probe, oneTenant.state.registry.node? 1 = some ⟨.layer 0 old, probe, oneTenant.users⟩) ∧
      (∃ probe, after.state.registry.node? 1 = some ⟨.layer 0 layer, probe, after.users⟩) ∧
      after.state.registry.returned 0 = given ++ oneTenant.state.registry.returned 0 ∧
      (∀ buffer ∈ after.tenants, ∃ ground, layer.ground? buffer.block = some ground ∧
        ground.address ∉ given ∧
        (buffer ∈ oneTenant.tenants → old.ground? buffer.block = some ground)) ∧
      (0 < after.users → ∀ loan ∈ layer.stock, loan.address ∉ given) ∧
      (0 < oneTenant.users → after.users = 0 → ∃ offered rest, layer.stock = offered ++ rest ∧
        (∀ loan ∈ offered, given.count loan.address = 1) ∧
        (oneTenant.state.registry.Running → rest = [])) ∧
      (oneTenant.users = 0 → given = []) := by
  refine ⟨by decide +kernel, ?_⟩
  exact memory_lives_as_long_as_its_users newArena_opens oneTenant_lived (.drop 1) trivial

end Tenancy

end LayeredAllocation
