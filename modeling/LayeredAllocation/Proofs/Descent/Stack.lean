import LayeredAllocation.Proofs.Descent

namespace LayeredAllocation

structure Source.Descends (source : Source σ) (inv : σ → Prop) : Prop where
  allocate {request : Request} {s : σ} {machine : Machine} :
    request.Valid → inv s → inv (source.allocate request s machine).state
  free {block : Block} {s : σ} {machine : Machine} :
    inv s → inv (source.free block s machine).state

theorem Source.Descends.freed {source : Source σ} {inv : σ → Prop} {block : Block} {s after : σ}
    {machine machine' : Machine} {result : Except Fault Unit} (descends : source.Descends inv)
    (kept : inv s) (answer : source.free block s machine = ⟨result, after, machine'⟩) : inv after := by
  have left : inv (source.free block s machine).state := descends.free kept
  rwa [answer] at left

namespace Noted

def Sound (inv : σ → Prop) (noted : Noted σ) : Prop :=
  (∀ asked ∈ noted.asked, asked.Valid) ∧ inv noted.beneath

theorem descends {below : Source σ} {inv : σ → Prop} (descends : below.Descends inv) :
    below.noted.Descends (Sound inv) where
  allocate := by
    rintro request noted machine valid ⟨heard, kept⟩
    refine ⟨fun asked member => ?_, descends.allocate valid kept⟩
    rcases List.mem_cons.1 member with rfl | earlier
    · exact valid
    · exact heard asked earlier
  free := by
    rintro block noted machine ⟨heard, kept⟩
    exact ⟨heard, descends.free kept⟩

end Noted

namespace Layer
variable {below : Source σ}

def Sound (inv : σ → Prop) (state : Layer × σ) : Prop := state.1.make.Accepted ∧ inv state.2

theorem descends {inv : σ → Prop} (descends : below.Descends inv) :
    (source below).Descends (Sound inv) where
  allocate := by
    rintro request ⟨layer, s⟩ machine valid ⟨accepted, kept⟩
    have same := (make_kept below).allocate request (layer, s) machine
    refine ⟨same ▸ accepted, ?_⟩
    cases turns accepted valid with
    | alone stocked untouched => rwa [untouched]
    | unfit needs unfit refused => rwa [refused]
    | asked needs fits left =>
      rcases left with asked | ⟨chunk, machine', freed⟩
      · rw [asked]
        exact descends.allocate fits kept
      · rw [freed]
        exact descends.free (descends.allocate fits kept)
  free := by
    rintro block ⟨layer, s⟩ machine ⟨accepted, kept⟩
    have step := free_step below block layer s machine
    generalize (source below).free block (layer, s) machine = reply at step ⊢
    cases step with
    | taken stays runs => exact ⟨stays.make ▸ accepted, kept⟩
    | refused stays runs same => exact ⟨stays.make ▸ accepted, kept⟩
    | interrupted interrupted => exact ⟨accepted, kept⟩
    | unpinned found => exact ⟨accepted, kept⟩
    | handed stays runs answer => exact ⟨stays.make ▸ accepted, descends.freed kept answer⟩

-- A layer sends for what it needs, once, if that is valid, and otherwise refuses without sending.
def Screens (below : Source σ) (layer : Layer) (s : σ) : Prop :=
  ∀ request machine, request.Valid →
    let reply := (source below.noted).allocate request (layer, { beneath := s }) machine
    reply.state.2.asked = ((layer.need? request).filter fun needed => needed.Valid).toList ∧
      ∀ needed, layer.need? request = some needed → ¬ needed.Valid → ∃ name condition,
        reply = .refuse (.invalidArgument name condition) (layer, { beneath := s }) machine

theorem screens {layer : Layer} (accepted : layer.make.Accepted) (s : σ) : Screens below layer s := by
  intro request machine valid
  dsimp only
  have step : Turns below.noted request layer { beneath := s } machine _ := turns accepted valid
  cases step with
  | alone stocked same =>
    rw [same, stocked]
    exact ⟨rfl, fun needed needs => nomatch needs⟩
  | unfit needs unfit refused =>
    refine ⟨?_, fun _ _ _ => ⟨_, _, refused⟩⟩
    rw [refused, needs, Option.filter_some, if_neg (by simpa using unfit)]
    rfl
  | asked needs fits left =>
    constructor
    · rw [needs, Option.filter_some, if_pos (decide_eq_true fits)]
      rcases left with asked | ⟨chunk, machine', freed⟩
      · rw [asked]
        rfl
      · rw [freed]
        rfl
    · intro needed needs' unfit
      cases needs.symm.trans needs'
      exact absurd fits unfit

theorem Made.accepted {layer : Layer} (made : layer.Made) : layer.make.Accepted := by
  cases made with
  | pool accepted => exact accepted
  | largeBlock accepted => exact accepted
  | arena accepted => trivial
  | slab accepted => trivial
  | hybrid => trivial
  | tracker => trivial
  | probe => trivial

end Layer

-- A stack with notes at every level.
def Tower : (height : Nat) → Type
  | 0 => Noted Bottom
  | height + 1 => Noted (Layer × Tower height)

namespace Tower

def source : (height : Nat) → Source (Tower height)
  | 0 => Bottom.source.noted
  | height + 1 => (Layer.source (source height)).noted

def stack : {height : Nat} → Tower height → Stack height
  | 0, tower => tower.beneath
  | _ + 1, tower => (tower.beneath.1, stack tower.beneath.2)

def quiet : {height : Nat} → Stack height → Tower height
  | 0, bottom => { beneath := bottom }
  | _ + 1, (layer, beneath) => { beneath := (layer, quiet beneath) }

def requests : {height : Nat} → Tower height → List Request
  | 0, tower => tower.asked
  | _ + 1, tower => tower.asked ++ requests tower.beneath.2

theorem stack_quiet : {height : Nat} → (stack : Stack height) → (quiet stack).stack = stack
  | 0, _ => rfl
  | _ + 1, (layer, beneath) => congrArg (Prod.mk layer) (stack_quiet beneath)

theorem follows : (height : Nat) → (source height).Follows (Stack.source height) stack
  | 0 => Bottom.source.noted_follows
  | height + 1 =>
    (Layer.source (source height)).noted_follows.trans (Layer.follows (follows height))

def Sound : {height : Nat} → Tower height → Prop
  | 0 => Noted.Sound fun _ => True
  | _ + 1 => Noted.Sound (Layer.Sound Sound)

theorem descends : (height : Nat) → (source height).Descends Sound
  | 0 => Noted.descends ⟨fun _ _ => trivial, fun _ => trivial⟩
  | height + 1 => Noted.descends (Layer.descends (descends height))

theorem Sound.valid : {height : Nat} → {tower : Tower height} → tower.Sound →
    ∀ asked ∈ tower.requests, asked.Valid
  | 0, _, sound, asked, member => sound.1 asked member
  | _ + 1, _, sound, asked, member =>
    (List.mem_append.1 member).elim (sound.1 asked) (Sound.valid sound.2.2 asked)

end Tower

namespace Stack

def Everywhere (holds : {height : Nat} → Layer → Stack height → Prop) :
    {height : Nat} → Stack height → Prop
  | 0, _ => True
  | _ + 1, (layer, beneath) => holds layer beneath ∧ Everywhere holds beneath

def Accepted (stack : Stack height) : Prop := ∀ make ∈ stack.makes, make.Accepted

theorem Made.accepted : {height : Nat} → {stack : Stack height} → stack.Made → stack.Accepted
  | 0, _, _ => List.forall_mem_nil _
  | _ + 1, (_, _), made => List.forall_mem_cons.2 ⟨made.1.accepted, made.2.accepted⟩

theorem Accepted.quiet : {height : Nat} → {stack : Stack height} → stack.Accepted →
    (Tower.quiet stack).Sound
  | 0, _, _ => ⟨List.forall_mem_nil _, trivial⟩
  | _ + 1, (_, _), accepted =>
    have ⟨top, beneath⟩ := List.forall_mem_cons.1 accepted
    ⟨List.forall_mem_nil _, top, Accepted.quiet beneath⟩

theorem Accepted.screened : {height : Nat} → {stack : Stack height} → stack.Accepted →
    stack.Everywhere fun {height} layer beneath => Layer.Screens (source height) layer beneath
  | 0, _, _ => trivial
  | _ + 1, (_, beneath), accepted =>
    have ⟨top, lower⟩ := List.forall_mem_cons.1 accepted
    ⟨Layer.screens top beneath, Accepted.screened lower⟩

theorem requests_stay_valid {height : Nat} {start stack : Stack height} (made : start.Made)
    (reached : Reached start stack) {request : Request} (built : request.Built) (machine : Machine) :
    let reply := (Tower.source height).allocate request (Tower.quiet stack) machine
    reply.mapState Tower.stack = (source height).allocate request stack machine ∧
      (∀ asked ∈ reply.state.requests, asked.Valid ∧
        Layout.make? asked.size asked.align = .ok ⟨asked.size, asked.align⟩) ∧
      stack.Everywhere fun {height} layer beneath => Layer.Screens (source height) layer beneath := by
  have accepted : stack.Accepted := by
    unfold Accepted
    rw [reached.makes]
    exact made.accepted
  refine ⟨?_, fun asked member => ?_, accepted.screened⟩
  · have same := (Tower.follows height).allocate request (Tower.quiet stack) machine
    rwa [Tower.stack_quiet] at same
  · have valid : asked.Valid :=
      ((Tower.descends height).allocate built.valid accepted.quiet).valid asked member
    exact ⟨valid, Layout.make?_of_valid valid⟩

def pagedArena : Stack 2 :=
  (.pool { owner := 2, name := "pool", config := { granularity := 4096 } },
    .arena { owner := 1, config := {} }, .system {})

def pagedArenaAsked : Reply (Tower 2) Block :=
  (Tower.source 2).allocate ⟨100, 64, false, 1, 100, Site.internal⟩ (Tower.quiet pagedArena)
    ⟨{ platform := .ascending }, []⟩

-- A size that is as good as the longest, and does not stay so when it is rounded.
def nearlyLongest : Request := ⟨Word.longest - 7, 8, false, 1, Word.longest - 7, Site.internal⟩

theorem requests_stay_valid_pagedArena :
    pagedArenaAsked.state.requests.map (fun asked => (asked.size, asked.align)) =
      [(100, 64), (4096, 64), (65536, 64)] ∧
    (∀ asked ∈ pagedArenaAsked.state.requests, asked.Valid ∧
      Layout.make? asked.size asked.align = .ok ⟨asked.size, asked.align⟩) ∧
    nearlyLongest.Valid ∧ ∃ name condition, ((source 2).allocate nearlyLongest pagedArena
      ⟨{ platform := .ascending }, []⟩).result = .error (.refused (.invalidArgument name condition)) := by
  have made : pagedArena.Made := ⟨.pool rfl, .arena rfl, .system⟩
  have built : Request.Built ⟨100, 64, false, 1, 100, Site.internal⟩ := .inl ⟨100, 64, _, _, rfl⟩
  obtain ⟨-, valid, screened⟩ :=
    requests_stay_valid made .start built ⟨{ platform := .ascending }, []⟩
  have nearly : nearlyLongest.Valid := by decide +kernel
  obtain ⟨-, refused⟩ := screened.1 nearlyLongest ⟨{ platform := .ascending }, []⟩ nearly
  obtain ⟨name, condition, refused⟩ := refused _ rfl (by decide +kernel)
  refine ⟨by decide +kernel, valid, nearly, name, condition, ?_⟩
  exact congrArg Reply.result refused

end Stack

end LayeredAllocation
