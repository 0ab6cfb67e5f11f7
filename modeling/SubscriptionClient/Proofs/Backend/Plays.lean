import SubscriptionClient.Backend.Session
import SubscriptionClient.Proofs.Backend.Settling

/-!
# Plays

Callers take turns, and after each turn the worker goes on until it has nothing to do, or until it
stands before an answer while the transport is held. Then the view has changed by what the callers
did, and if the transport is not held, by the answers to all jobs that were outstanding.
-/

namespace SubscriptionClient

/-- What callers do in one turn. -/
inductive Deed where
  | run (s : Script)
  | cancel (n : Nat)
  | clearCaches
  | wait
  | hold
  | release

/-- A turn, with the transport that answers in it. -/
structure Turn where
  deed : Deed
  transport : Sent → Reply

/-- A backend whose transport can be held. -/
structure Play where
  backend : Backend
  held : Bool

namespace Play

def start (headers : List (Text × Text)) (clearable : Bool) (name : Text) : Play :=
  ⟨.start headers clearable name, false⟩

def act (p : Play) : Deed → Play
  | .run s => { p with backend := p.backend.perform s }
  | .cancel n => { p with backend := (p.backend.cancel n).1 }
  | .clearCaches => { p with backend := p.backend.clearCaches }
  | .wait => p
  | .hold => { p with held := true }
  | .release => { p with held := false }

def turn (p : Play) (u : Turn) : Play :=
  let acted := p.act u.deed
  { acted with backend := acted.backend.advance acted.held u.transport }

def run (p : Play) (us : List Turn) : Play := us.foldl turn p

end Play

/-- The turn that a step of a session is. -/
def Session.turnOf (s : Session) (step : Step) : Turn where
  deed := match step with
    | .respond _ _ => .wait
    | .run script => .run script
    | .cancel label => match s.ticketOf? label with
      | some n => .cancel n
      | none => .wait
    | .clearCaches => .clearCaches
    | .hold => .hold
    | .release => .release
  transport := (s.act step).1.transport

theorem Session.turn_turnOf (s : Session) (step : Step) :
    (⟨s.backend, s.held⟩ : Play).turn (s.turnOf step) =
      ⟨(s.step step).1.backend, (s.step step).1.held⟩ := by
  cases step with
  | cancel label =>
    simp only [Play.turn, turnOf, Session.step, Session.act]
    cases s.ticketOf? label <;> rfl
  | respond | run | clearCaches | hold | release => rfl

/-- Whether the body of what a call asks for can be built. -/
def Call.IsBuildable (headers : List (Text × Text)) (c : Call) : Prop :=
  ∀ job, c.admission = .dispatch job → ∃ sent, job.request? headers = some sent

/-- Whether nothing follows the calls of a script, and their bodies can be built. -/
structure Script.IsSimple (headers : List (Text × Text)) (s : Script) : Prop where
  silent : s.IsSilent
  buildable : s.All (Call.IsBuildable headers)

def Deed.IsSimple (headers : List (Text × Text)) : Deed → Prop
  | run s => s.IsSimple headers
  | _ => True

/-- What a deed changes in a view. -/
def View.act (s : Slot) (v : View) : Deed → View
  | .run script => v.perform s script
  | .cancel n => v.cancel n
  | _ => v

namespace Backend

variable {headers : List (Text × Text)} {clearable : Bool} {name : Text} {held : Bool}
  {s : Slot} {b c : Backend} {job : Job} {n : Nat} {transport : Sent → Reply}

/-- Whether a state is reached by calls whose bodies can be built and that nothing follows. -/
structure IsRegular (headers : List (Text × Text)) (clearable : Bool) (name : Text)
    (b : Backend) : Prop where
  reached : ReachedBy (Call.IsBuildable headers) .unrestricted (start headers clearable name) b
  quiet : b.IsQuiet

theorem isRegular_start (headers : List (Text × Text)) (clearable : Bool) (name : Text) :
    (start headers clearable name).IsRegular headers clearable name where
  reached := ⟨.refl, followsWith_start headers clearable name⟩
  quiet := by simp [IsQuiet, start]

namespace IsRegular

variable (h : b.IsRegular headers clearable name)

include h

theorem reaches : Reaches .unrestricted (start headers clearable name) b := h.reached.reaches.reaches

theorem headers_eq : b.headers = headers := h.reaches.headers_eq

theorem isOrderly : b.IsOrderly := h.reaches.isOrderly

/-- Every outstanding job was asked for by a call. -/
theorem exists_call (hjob : job ∈ b.outstanding) :
    ∃ call : Call, call.IsBuildable headers ∧ call.admission = .dispatch job := by
  obtain ⟨done, hdone⟩ := exists_done_of_reaches h.reaches
  apply exists_call_of_accepted h.reached.reaches
  rw [hdone]
  exact List.mem_append_right _ hjob

theorem hasBodies : b.HasBodies := by
  intro job hjob
  obtain ⟨call, hcall, hadmission⟩ := h.exists_call hjob
  rw [h.headers_eq]
  exact hcall job hadmission

theorem isBounded (s : Slot) : (b.view s).IsBounded := by
  intro n hn
  exact (isEnrolledOnce_of_reaches h.reaches).lt_length hn

theorem work (transport : Sent → Reply) :
    (b.work transport).IsRegular headers clearable name where
  reached := h.reached.work fun _ => trivial
  quiet := isQuiet_work h.quiet transport

theorem settle_view_work (transport : Sent → Reply) (s : Slot) :
    ((b.work transport).view s).settle headers transport =
      (b.view s).settle headers transport := by
  have hsettle := Backend.settle_view_work h.isOrderly (isFiled_of_reaches h.reaches)
    (awaitsOwn_of_reaches h.reaches) h.quiet h.hasBodies transport s
  rwa [h.headers_eq] at hsettle

end IsRegular

/-! ## Until the worker stops -/

/-- Whether the worker has stopped: it has nothing to do, or it is held before an answer. -/
def HasStopped (held : Bool) (b : Backend) : Prop :=
  b.isResting = true ∨ held = true ∧ b.isAwaiting = true

theorem HasStopped.not_delivering (h : b.HasStopped held) (ho : b.IsOrderly) :
    ∀ outcome ns, b.stage ≠ .delivering outcome ns := by
  intro outcome ns hs
  rcases h with hr | ⟨-, ha⟩
  · have hw : ∀ job, b.queue.worker ≠ .busy job := by
      intro job hw
      simp [isResting, hw] at hr
    simp [ho.fresh hw] at hs
  · cases hw : b.queue.worker <;> simp [isAwaiting, hw, hs] at ha

theorem steps_of_stopped (h : b.HasStopped held) (n : Nat) : steps held transport n b = b := by
  cases n with
  | zero => rfl
  | succ n =>
    have hstop : (b.isResting || (held && b.isAwaiting)) = true := by
      rcases h with hr | ⟨hheld, ha⟩ <;> simp [*]
    rw [steps, if_pos hstop]

theorem steps_of_not_stopped (h : ¬b.HasStopped held) (n : Nat) :
    steps held transport (n + 1) b = steps held transport n (b.work transport) := by
  have hgo : ¬(b.isResting || (held && b.isAwaiting)) = true := by
    simpa [HasStopped] using h
  rw [steps, if_neg hgo]

/-- What the worker has come to: it has stopped, and if it is held nothing has changed that is
shown. Whether held or not, the answers that are to come are the same as before. -/
structure Settles (headers : List (Text × Text)) (clearable : Bool) (name : Text) (held : Bool)
    (transport : Sent → Reply) (b c : Backend) : Prop where
  regular : c.IsRegular headers clearable name
  stopped : c.HasStopped held
  kept (s : Slot) : held = true → c.view s = b.view s
  settled (s : Slot) : (c.view s).settle headers transport = (b.view s).settle headers transport

theorem settles_steps (h : b.IsRegular headers clearable name) (held : Bool)
    (transport : Sent → Reply) (hn : b.left ≤ n) :
    Settles headers clearable name held transport b (b.steps held transport n) := by
  -- on the steps that are allowed: each one uses up what is left, so they suffice
  induction n generalizing b with
  | zero =>
    have hstopped : b.HasStopped held := by
      cases hr : b.isResting with
      | true => exact .inl hr
      | false =>
        have hlt := left_work_lt h.isOrderly h.quiet h.hasBodies hr transport
        omega
    exact ⟨h, hstopped, fun _ _ => rfl, fun _ => rfl⟩
  | succ n ih =>
    by_cases hstopped : b.HasStopped held
    · rw [steps_of_stopped hstopped]
      exact ⟨h, hstopped, fun _ _ => rfl, fun _ => rfl⟩
    · have hr : b.isResting = false := by
        apply Bool.eq_false_iff.mpr
        intro hr
        exact hstopped (.inl hr)
      have hlt := left_work_lt h.isOrderly h.quiet h.hasBodies hr transport
      have hnext := ih (h.work transport) (by omega)
      rw [steps_of_not_stopped hstopped]
      refine ⟨hnext.regular, hnext.stopped, fun s hheld => ?_, fun s => ?_⟩
      · have ha : b.isAwaiting = false := by
          apply Bool.eq_false_iff.mpr
          intro ha
          exact hstopped (.inr ⟨hheld, ha⟩)
        rw [hnext.kept s hheld, view_work_of_not_awaiting h.isOrderly h.quiet h.hasBodies ha]
      · rw [hnext.settled s, h.settle_view_work transport s]

theorem settles_advance (h : b.IsRegular headers clearable name) (held : Bool)
    (transport : Sent → Reply) :
    Settles headers clearable name held transport b (b.advance held transport) := by
  apply settles_steps h held transport
  exact left_le_remaining (length_waiting_le_of_reaches h.reaches)

/-- A worker that has stopped and is not held has nothing outstanding. -/
theorem outstanding_of_released (ho : b.IsOrderly) (h : b.HasStopped false) :
    b.outstanding = [] := by
  have hr : b.isResting = true := by simpa [HasStopped] using h
  exact outstanding_of_isResting ho hr

theorem Settles.view_eq (h : Settles headers clearable name held transport b c) (s : Slot) :
    c.view s = if held then b.view s else (b.view s).settle headers transport := by
  cases held with
  | true => exact h.kept s rfl
  | false =>
    have hnone : (c.view s).outstanding = [] := by
      simp [view, outstanding_of_released h.regular.isOrderly h.stopped]
    rw [← View.settle_of_nil hnone]
    exact h.settled s

end Backend

/-! ## Turns -/

namespace Play

variable {headers : List (Text × Text)} {clearable : Bool} {name : Text} {p : Play} {d : Deed}
  {u : Turn}

/-- What holds between the turns. -/
structure IsAtStop (headers : List (Text × Text)) (clearable : Bool) (name : Text) (p : Play) :
    Prop where
  regular : p.backend.IsRegular headers clearable name
  stopped : p.backend.HasStopped p.held

theorem isAtStop_start (headers : List (Text × Text)) (clearable : Bool) (name : Text) :
    (start headers clearable name).IsAtStop headers clearable name where
  regular := Backend.isRegular_start headers clearable name
  stopped := .inl rfl

theorem IsAtStop.not_delivering (h : p.IsAtStop headers clearable name) :
    ∀ outcome ns, p.backend.stage ≠ .delivering outcome ns :=
  h.stopped.not_delivering h.regular.isOrderly

theorem IsAtStop.act (h : p.IsAtStop headers clearable name) (hd : d.IsSimple headers) :
    (p.act d).backend.IsRegular headers clearable name ∧
      ∀ s, (p.act d).backend.view s = (p.backend.view s).act s d := by
  cases d with
  | run script =>
    have hreached : Backend.ReachedBy (Call.IsBuildable headers) .unrestricted
        (.start headers clearable name) (p.backend.act (.run script)) :=
      h.regular.reached.act hd.buildable (.unrestricted _)
    exact ⟨⟨hreached, Backend.isQuiet_perform hd.silent h.regular.quiet⟩,
      fun s => Backend.view_perform hd.silent h.regular.quiet h.not_delivering
        (h.regular.isBounded s)⟩
  | cancel n =>
    exact ⟨⟨h.regular.reached.cancel trivial, Backend.isQuiet_cancel h.regular.quiet n⟩,
      Backend.view_cancel h.regular.quiet h.not_delivering n⟩
  | clearCaches =>
    show (p.backend.clearCaches).IsRegular headers clearable name ∧
      ∀ s, (p.backend.clearCaches).view s = p.backend.view s
    unfold Backend.clearCaches
    split
    · exact ⟨⟨h.regular.reached.same .cleared rfl, h.regular.quiet.of_tickets rfl⟩, fun _ => rfl⟩
    · exact ⟨h.regular, fun _ => rfl⟩
  | wait | hold | release => exact ⟨h.regular, fun _ => rfl⟩

theorem held_turn (p : Play) (u : Turn) : (p.turn u).held = (p.act u.deed).held := rfl

/-- A turn gets to the next stop, and what it changes in a view depends on the view alone. -/
theorem IsAtStop.turn (h : p.IsAtStop headers clearable name) (hd : u.deed.IsSimple headers) :
    (p.turn u).IsAtStop headers clearable name ∧
      ∀ s, (p.turn u).backend.view s =
        if (p.turn u).held then (p.backend.view s).act s u.deed
        else ((p.backend.view s).act s u.deed).settle headers u.transport := by
  obtain ⟨hregular, hview⟩ := h.act hd
  have hsettles := Backend.settles_advance hregular (p.act u.deed).held u.transport
  refine ⟨⟨hsettles.regular, hsettles.stopped⟩, fun s => ?_⟩
  rw [← hview s]
  exact hsettles.view_eq s

end Play

end SubscriptionClient
