import LayeredAllocation.Proofs.Buffers

namespace LayeredAllocation

namespace Stack

def takesBack : List Make → Bool
  | [] => true
  | .arena .. :: _ => false
  | .probe :: beneath => takesBack beneath
  | .pool .. :: _ | .slab .. :: _ | .hybrid .. :: _ | .tracker .. :: _ => true

theorem releases_eq : {height : Nat} → (stack : Stack height) →
    (source height).releases stack = takesBack stack.makes
  | 0, _ => rfl
  | height + 1, (layer, beneath) => by
    cases layer with
    | probe inner => exact releases_eq beneath
    | arena inner | pool inner | slab inner | hybrid inner | tracker inner => rfl

end Stack

-- What others do to a stack: calls to any of its layers, with anything in between.
structure Deed (height : Nat) where
  act : Stack height → Machine → Reply (Stack height) (Option Block)
  reaches (stack : Stack height) (machine : Machine) : Stack.Reached stack (act stack machine).state

def Deed.call (height depth : Nat) (call : Call) : Deed height where
  act := Stack.performAt depth call
  reaches _ machine := .call depth call machine .start

namespace Holding
variable {height : Nat}

-- The owner of a buffer, with notes of the calls that the buffer makes to it and of no others.
abbrev Owner (height : Nat) := Noted (Stack height)

def sourceOf (height : Nat) (_ : Unit) : Source (Owner height) := (Stack.source height).noted

def meanwhile (deed : Deed height) (owner : Owner height) (machine : Machine) :
    Reply (Owner height) (Option Block) :=
  (deed.act owner.beneath machine).mapState fun beneath => { owner with beneath }

inductive Use (height : Nat) where
  | access (access : Buffer.Access)
  | dispose
  | meanwhile (deed : Deed height)

end Holding

structure Holding (height : Nat) where
  buffer : Buffer Unit
  owner : Holding.Owner height
  machine : Machine

namespace Holding
variable {height : Nat}

def use (holding : Holding height) : Use height → Holding height
  | .access access =>
    match holding.buffer.access holding.machine.memory access with
    | .ok memory => { holding with machine := { holding.machine with memory } }
    | .error _ => holding
  | .dispose =>
    match holding.buffer.dispose (sourceOf height) holding.owner holding.machine with
    | (reply, ended) => ⟨ended, reply.state, reply.machine⟩
  | .meanwhile deed =>
    let reply := Holding.meanwhile deed holding.owner holding.machine
    { holding with owner := reply.state, machine := reply.machine }

inductive Deferred (height : Nat) where
  | dispose (buffer : Buffer Unit)
  | drop (buffer : Buffer Unit)
  | other (deed : Deed height)

abbrev World (height : Nat) := Owner height × Machine

def perform : Cleanup.Performer (Deferred height) (World height) String
  | .dispose buffer, (owner, machine) =>
    match buffer.dispose (sourceOf height) owner machine with
    | (reply, ended) =>
      -- The buffer belongs to the action and is dropped with it.
      let dropped := ended.drop (sourceOf height) reply.state reply.machine
      ((dropped.state, dropped.machine), Session.State.causeOf reply.result)
  | .drop buffer, (owner, machine) =>
    let reply := buffer.drop (sourceOf height) owner machine
    ((reply.state, reply.machine), Session.State.causeOf reply.result)
  | .other deed, (owner, machine) =>
    let reply := meanwhile deed owner machine
    ((reply.state, reply.machine), Session.State.causeOf (reply.result.map fun _ => ()))

def recordAbandoned (failure : Cleanup.Failure String) (world : World height) : World height :=
  (world.1, world.2.failure (Cleanup.Scope.abandonedLine id failure))

-- How a holding ends. A scope may have any other actions registered before and behind it, and may
-- be disposed of or abandoned.
inductive Ending (height : Nat) where
  | drop
  | scope (plain abandoned : Bool) (before behind : List (Deed height))

def finish (holding : Holding height) : Ending height → Owner height
  | .drop => (holding.buffer.drop (sourceOf height) holding.owner holding.machine).state
  | .scope plain abandoned before behind =>
    let own := if plain then Deferred.drop holding.buffer else .dispose holding.buffer
    let scope : Cleanup.Scope (Deferred height) :=
      ⟨before.map .other ++ own :: behind.map .other⟩
    let world := (holding.owner, holding.machine)
    if abandoned then (scope.abandon perform recordAbandoned world).1
    else (scope.dispose perform world).1.1

def total (holding : Holding height) : List Block :=
  holding.buffer.due (Stack.source height) holding.owner.beneath ++ holding.owner.returned

structure Quiet (before after : Owner height) : Prop where
  returned : after.returned = before.returned
  releases : (Stack.source height).releases after.beneath = (Stack.source height).releases before.beneath

namespace Quiet

theorem refl (owner : Owner height) : Quiet owner owner := ⟨rfl, rfl⟩

theorem trans {first second third : Owner height} (one : Quiet first second)
    (two : Quiet second third) : Quiet first third :=
  ⟨two.returned.trans one.returned, two.releases.trans one.releases⟩

theorem meanwhile (deed : Deed height) (owner : Owner height) (machine : Machine) :
    Quiet owner (Holding.meanwhile deed owner machine).state := by
  refine ⟨rfl, ?_⟩
  have same := (deed.reaches owner.beneath machine).makes
  rw [Stack.releases_eq, Stack.releases_eq, ← same]
  rfl

theorem due {before after : Owner height} (quiet : Quiet before after) (buffer : Buffer Unit) :
    buffer.due (Stack.source height) after.beneath ++ after.returned =
      buffer.due (Stack.source height) before.beneath ++ before.returned := by
  rw [Buffer.due, Buffer.due, quiet.releases, quiet.returned]

end Quiet

theorem use_total (holding : Holding height) (use : Use height) :
    (holding.use use).total = holding.total := by
  cases use with
  | access access =>
    unfold Holding.use
    dsimp only
    split <;> rfl
  | dispose =>
    obtain ⟨returned, disposed⟩ : _ ∧ (holding.buffer.dispose (sourceOf height) _ _).2.disposed = true :=
      holding.buffer.dispose_settles holding.owner holding.machine
    unfold total
    rw [← returned]
    exact congrArg (· ++ _) (Buffer.due_disposed disposed _)
  | meanwhile deed => exact (Quiet.meanwhile deed holding.owner holding.machine).due holding.buffer

theorem uses_total (uses : List (Use height)) (holding : Holding height) :
    (uses.foldl Holding.use holding).total = holding.total := by
  induction uses generalizing holding with
  | nil => rfl
  | cons use rest ih => exact (ih (holding.use use)).trans (holding.use_total use)

theorem others_quiet (deeds : List (Deed height)) (index : Nat) (world : World height) :
    Quiet world.1 (Cleanup.Scope.runFrom perform index (deeds.map .other) world).1.1 := by
  induction deeds generalizing index with
  | nil => exact .refl _
  | cons deed rest ih => exact (ih (index + 1)).trans (.meanwhile deed _ _)

theorem runFrom_others (deeds : List (Deed height)) (behind : List (Deferred height)) (index : Nat)
    (world : World height) :
    Quiet (Cleanup.Scope.runFrom perform (index + deeds.length) behind world).1.1
      (Cleanup.Scope.runFrom perform index (deeds.map .other ++ behind) world).1.1 := by
  induction deeds generalizing index with
  | nil => exact .refl _
  | cons deed rest ih =>
    have earlier := ih (index + 1)
    rw [Nat.add_right_comm] at earlier
    exact earlier.trans (.meanwhile deed _ _)

theorem own_settles (buffer : Buffer Unit) (plain : Bool) (world : World height) :
    (perform (if plain then Deferred.drop buffer else .dispose buffer) world).1.1.returned =
      buffer.due (Stack.source height) world.1.beneath ++ world.1.returned := by
  obtain ⟨owner, machine⟩ := world
  cases plain with
  | true => exact buffer.drop_settles owner machine
  | false => exact buffer.disposed_drop_settles owner machine

theorem abandoned_owner (failures : List (Cleanup.Failure String)) (world : World height) :
    (failures.foldl (fun world failure => recordAbandoned failure world) world).1 = world.1 := by
  induction failures generalizing world with
  | nil => rfl
  | cons failure rest ih => exact ih (recordAbandoned failure world)

theorem finish_returned (holding : Holding height) (ending : Ending height) :
    (holding.finish ending).returned = holding.total := by
  cases ending with
  | drop => exact holding.buffer.drop_settles holding.owner holding.machine
  | scope plain abandoned before behind =>
    have run : (Cleanup.Scope.runFrom perform 0 (before.map .other ++
        (if plain then Deferred.drop holding.buffer else .dispose holding.buffer) ::
          behind.map .other) (holding.owner, holding.machine)).1.1.returned = holding.total := by
      rw [(runFrom_others before _ 0 _).returned]
      exact (own_settles holding.buffer plain _).trans ((others_quiet behind _ _).due holding.buffer)
    unfold finish
    cases abandoned with
    | true => exact (congrArg Noted.returned (abandoned_owner _ _)).trans run
    | false => exact run

end Holding

namespace Stack
open Holding

-- Whatever is done with a buffer over a stack, and however it ends, its owner gets back what it
-- issued for it, once, if there is such a block and the owner takes single blocks back at all.
theorem buffers_return_once {height : Nat} (stack : Stack height) :
    (∀ (element : Element) (count : Nat) zero site machine buffer owner machine',
      Buffer.allocate (source height).noted () element count zero site { beneath := stack } machine =
        ⟨.ok buffer, owner, machine'⟩ →
      ∀ (uses : List (Use height)) (ending : Ending height),
        let gone := (List.foldl Holding.use ⟨buffer, owner, machine'⟩ uses).finish ending
        if (source height).releases stack ∧ count ≠ 0 ∧ element.size ≠ 0 then
          ∃ block, owner.issued = [block] ∧ gone.returned = [block]
        else gone.returned = []) ∧
    ∀ element address count buffer, Buffer.borrow element address count = .ok buffer →
      ∀ machine (uses : List (Use height)) (ending : Ending height),
        ((List.foldl Holding.use ⟨buffer, { beneath := stack }, machine⟩ uses).finish ending).returned =
          [] := by
  constructor
  · intro element count zero site machine buffer owner machine' answer uses ending
    obtain ⟨fresh, made, obtained⟩ :=
      Buffer.obtained_of_allocate (shapes height) (keeps_makes height) answer
    have same : (source height).releases owner.beneath = (source height).releases stack := by
      rw [releases_eq, releases_eq, made]
    have returned : ((List.foldl Holding.use ⟨buffer, owner, machine'⟩ uses).finish ending).returned =
        buffer.due (source height) owner.beneath := by
      rw [finish_returned, uses_total, total, fresh, List.append_nil]
    dsimp only
    rw [returned]
    cases obtained with
    | empty unsized unissued unowned => rw [if_neg fun sized => unsized sized.2, Buffer.due_unowned unowned]
    | @issued block sized issued made size =>
      cases made
      rw [Buffer.due_ofBlock () size, same]
      by_cases releases : (source height).releases stack
      · rw [if_pos ⟨releases, sized⟩, if_pos releases]
        exact ⟨block, issued, rfl⟩
      · rw [if_neg fun all => releases all.1, if_neg releases]
  · intro element address count buffer lent machine uses ending
    rw [finish_returned, uses_total, total, Buffer.due_unowned (Buffer.borrow_unowned lent)]
    rfl

def refusingProbe : Stack 1 := (.probe { freePlan := .after 0 1 }, .system {})

def words : Element := ⟨8, 8, .unsigned⟩

def threeWords : Reply (Owner 1) (Buffer Unit) :=
  Buffer.allocate (source 1).noted () words 3 false Site.internal { beneath := refusingProbe }
    ⟨{ platform := .ascending }, []⟩

def threeWordsBuffer : Buffer Unit := .ofBlock words 3 ⟨Platform.floor, 24, 8, .system⟩ ()

def threeWordsGone : Owner 1 :=
  (List.foldl Holding.use ⟨threeWordsBuffer, threeWords.state, threeWords.machine⟩
    [.access (.set 2 (Element.bytesOfNat 8 7)), .dispose, .dispose]).finish
      (.scope false true [.call 1 0 (.allocate ⟨8, 8, false, 1, 8, Site.internal⟩)] [])

theorem buffers_return_once_threeWords :
    (threeWordsBuffer.dispose (sourceOf 1) threeWords.state threeWords.machine).1.result =
        .error (.refused (.invalidOperation Probe.injected)) ∧
      threeWordsGone.returned = [⟨Platform.floor, 24, 8, .system⟩] := by
  have answer : threeWords = ⟨.ok threeWordsBuffer, threeWords.state, threeWords.machine⟩ := rfl
  have once := (buffers_return_once refusingProbe).1 words 3 false Site.internal _ _ _ _ answer
    [.access (.set 2 (Element.bytesOfNat 8 7)), .dispose, .dispose]
    (.scope false true [.call 1 0 (.allocate ⟨8, 8, false, 1, 8, Site.internal⟩)] [])
  obtain ⟨block, issued, returned⟩ := (if_pos ⟨rfl, by decide, by decide⟩).mp once
  have known : threeWords.state.issued = [⟨Platform.floor, 24, 8, .system⟩] := rfl
  rw [known] at issued
  cases issued
  exact ⟨rfl, returned⟩

end Stack

end LayeredAllocation
