import SubscriptionClient.Proofs.Backend.InFlight
import SubscriptionClient.Proofs.Concurrency.Futures

/-!
# Runs

Every run is a sequence of calls and elementary steps that hand out no future. If the scripts of
callers make only calls of a kind, so does what follows the futures, and the run has no other calls.
-/

namespace SubscriptionClient

def Script.All (P : Call → Prop) : Script → Prop
  | nil => True
  | call _ c next rest => P c ∧ next.All P ∧ rest.All P
  | close rest => rest.All P

theorem Script.all_true (s : Script) : s.All fun _ => True := by
  induction s with
  | nil => trivial
  | call label c next rest ihNext ihRest => exact ⟨trivial, ihNext, ihRest⟩
  | close rest ih => exact ih

namespace Backend

def Action.All (P : Call → Prop) : Action → Prop
  | .run s => s.All P
  | _ => True

/-- A call of a kind, or a step that hands out no future. -/
inductive CallStep (P : Call → Prop) (E : Surroundings) (b : Backend) : Backend → Prop where
  | issued (label : Text) {call : Call} (h : P call) : CallStep P E b (b.issue label call).1
  | quiet {c : Backend} (h : Step E b c) (hn : c.tickets.length = b.tickets.length) :
    CallStep P E b c

abbrev ReachesBy (P : Call → Prop) (E : Surroundings) : Backend → Backend → Prop :=
  Relation.ReflTransGen (CallStep P E)

/-- Whether what follows the futures makes only calls of a kind. -/
def FollowsWith (P : Call → Prop) (b : Backend) : Prop :=
  ∀ (n : Nat) (t : Ticket), b.tickets[n]? = some t → ∀ s ∈ t.future.followers, s.All P

variable {P : Call → Prop} {E : Surroundings} {a b c : Backend}

theorem ReachesBy.reaches (h : ReachesBy P E b c) : Reaches E b c := by
  induction h with
  | refl => exact .refl
  | tail _ hs ih =>
    cases hs with
    | issued label => exact ih.trans (reaches_issue E label _ _)
    | quiet hs => exact ih.tail hs

theorem followsWith_start (headers : List (Text × Text)) (clearable : Bool) (name : Text) :
    (start headers clearable name).FollowsWith P := by
  simp [FollowsWith, start]

theorem followsWith_true (b : Backend) : b.FollowsWith fun _ => True :=
  fun _ _ _ s _ => s.all_true

theorem FollowsWith.of_tickets (h : b.FollowsWith P) (ht : c.tickets = b.tickets) :
    c.FollowsWith P := by
  rwa [FollowsWith, ht]

theorem FollowsWith.of_append (h : b.FollowsWith P) {t : Ticket}
    (ht : c.tickets = b.tickets ++ [t]) (hf : t.future.followers = []) : c.FollowsWith P := by
  intro n u hu s hs
  rw [ht] at hu
  rcases getElem?_concat_eq_some_iff.mp hu with hu | ⟨-, rfl⟩
  · exact h n u hu s hs
  · simp [hf] at hs

theorem length_setFuture (n : Nat) (future : Future (Attempt Outcome) Script) (b : Backend) :
    (b.setFuture n future).tickets.length = b.tickets.length :=
  List.length_modify _ _ _

theorem FollowsWith.setFuture (h : b.FollowsWith P) (n : Nat)
    {future : Future (Attempt Outcome) Script} (hf : ∀ s ∈ future.followers, s.All P) :
    (b.setFuture n future).FollowsWith P := by
  intro m u hu s hs
  simp only [Backend.setFuture, List.getElem?_modify] at hu
  obtain ⟨t, ht, rfl⟩ := Option.map_eq_some_iff.mp hu
  by_cases hm : n = m
  · simp only [hm, if_true] at hs
    exact hf s hs
  · simp only [hm, if_false] at hs
    exact h m t ht s hs

theorem followsWith_issue (h : b.FollowsWith P) (label : Text) (call : Call) :
    (b.issue label call).1.FollowsWith P := by
  rcases issue_cases .unrestricted label call b with ⟨fault, -, hissue⟩ | ⟨d, t, hissue, -, ht, hf⟩
  · rw [hissue]
    exact h.of_tickets rfl
  · rw [hissue]
    exact h.of_append ht hf

/-! ## Scripts -/

/-- A property of states that calls of a kind keep, and so do closing, what is registered to follow,
and the reports of futures that are done. -/
structure IsKept (P : Call → Prop) (I : Backend → Prop) : Prop where
  issue (label : Text) {call : Call} {b : Backend} : P call → I b → I (b.issue label call).1
  follow {n : Nat} {next : Script} {b c : Backend} :
    next.All P → b.followedBy? n next = some c → I b → I c
  note (n : Nat) {b : Backend} : I b → I (b.noteDone n)
  close {b : Backend} : I b → I { b with queue := b.queue.close }

namespace IsKept

variable {I : Backend → Prop}

theorem perform (h : IsKept P I) {s : Script} (hs : s.All P) (hb : I b) : I (b.perform s) := by
  -- what follows a call is part of its script, so the one induction covers calls within calls
  induction s generalizing b with
  | nil => exact hb
  | close rest ih => exact ih hs (h.close hb)
  | call label call next rest ihNext ihRest =>
    obtain ⟨hcall, hnext, hrest⟩ := hs
    have hissued := h.issue label hcall hb
    rcases hissue : b.issue label call with ⟨issued, _ | n⟩
    · rw [hissue] at hissued
      rw [Backend.perform, hissue]
      exact ihRest hrest hissued
    · rw [hissue] at hissued
      simp only [Backend.perform, hissue]
      cases hf : issued.followedBy? n next with
      | some registered => exact ihRest hrest (h.follow hnext hf hissued)
      | none => exact ihRest hrest (ihNext hnext (h.note n hissued))

theorem conclude (h : IsKept P I) (n : Nat) {scripts : List Script}
    (hs : ∀ s ∈ scripts, s.All P) (hb : I b) : I (b.conclude n scripts) := by
  induction scripts generalizing b with
  | nil => exact hb
  | cons s scripts ih =>
    obtain ⟨hs, hscripts⟩ := List.forall_mem_cons.mp hs
    exact ih hscripts (h.perform hs (h.note n hb))

end IsKept

/-- Whether a state is reached by calls of a kind, and no other calls are to follow. -/
structure ReachedBy (P : Call → Prop) (E : Surroundings) (a b : Backend) : Prop where
  reaches : ReachesBy P E a b
  follows : b.FollowsWith P

theorem ReachedBy.quiet (h : ReachedBy P E a b) (hs : Step E b c)
    (hn : c.tickets.length = b.tickets.length) (hc : c.FollowsWith P) : ReachedBy P E a c :=
  ⟨h.reaches.tail (.quiet hs hn), hc⟩

theorem ReachedBy.same (h : ReachedBy P E a b) (hs : Step E b c) (ht : c.tickets = b.tickets) :
    ReachedBy P E a c :=
  h.quiet hs (congrArg List.length ht) (h.follows.of_tickets ht)

theorem tickets_noteDone (n : Nat) (b : Backend) : (b.noteDone n).tickets = b.tickets := by
  obtain ⟨events, he⟩ := exists_noteDone_eq n b
  rw [he]

theorem isKept_reachedBy (P : Call → Prop) (E : Surroundings) (a : Backend) :
    IsKept P (ReachedBy P E a) where
  issue := fun label _ _ hcall h =>
    ⟨h.reaches.tail (.issued label hcall), followsWith_issue h.follows label _⟩
  follow := by
    intro n next b c hnext hc h
    have hstep : Step E b c := .followed hc
    obtain ⟨t, future, ht, hf, rfl⟩ := exists_of_followedBy? hc
    apply h.quiet hstep (length_setFuture n future b)
    apply h.follows.setFuture n
    intro s hs
    rcases Future.mem_followers_of_followedBy? hf hs with hs | rfl
    · exact h.follows n t ht s hs
    · exact hnext
  note := fun n b h => h.same (.reported n) (tickets_noteDone n b)
  close := fun h => h.same .closed rfl

/-! ## Actions -/

namespace ReachedBy

theorem cancel {n : Nat} (h : ReachedBy P E a b) (hc : E.cancels n) :
    ReachedBy P E a (b.cancel n).1 := by
  cases ht : b.tickets[n]? with
  | none =>
    simp only [Backend.cancel, ht]
    exact h
  | some t =>
    simp only [Backend.cancel, ht]
    apply (isKept_reachedBy P E a).conclude
    · exact fun s hs => h.follows n t ht s (Future.mem_followers_of_cancel (.inr hs))
    · apply h.quiet (.cancelled ht hc) (length_setFuture n _ b)
      apply h.follows.setFuture n
      exact fun s hs => h.follows n t ht s (Future.mem_followers_of_cancel (.inl hs))

theorem deliver {job : Job} {outcome : Attempt Outcome} {n : Nat} {ns : List Nat}
    (h : ReachedBy P E a b) (hw : b.queue.worker = .busy job)
    (hs : b.stage = .delivering outcome (n :: ns)) :
    ReachedBy P E a (deliver outcome n { b with stage := .delivering outcome ns }) := by
  cases ht : b.tickets[n]? with
  | none =>
    simp only [Backend.deliver, ht]
    exact h.same (.passedOver hw hs (by simp [ht])) rfl
  | some t =>
    cases hd : t.future.deliver? outcome with
    | none =>
      simp only [Backend.deliver, ht, hd]
      exact h.same (.passedOver hw hs (by simp [ht, hd])) rfl
    | some result =>
      obtain ⟨future, scripts⟩ := result
      simp only [Backend.deliver, ht, hd]
      apply (isKept_reachedBy P E a).conclude
      · exact fun s hs => h.follows n t ht s (Future.mem_followers_of_deliver? hd (.inr hs))
      · apply h.quiet (.delivered hw hs ht hd) (length_setFuture n future _)
        apply FollowsWith.setFuture (h.follows.of_tickets rfl) n
        exact fun s hs => h.follows n t ht s (Future.mem_followers_of_deliver? hd (.inl hs))

theorem work {transport : Sent → Reply} (h : ReachedBy P E a b)
    (ht : ∀ s, E.replies s (transport s)) : ReachedBy P E a (b.work transport) := by
  have hstep := workStep transport b
  generalize b.work transport = c at hstep ⊢
  cases hstep with
  | taken hw => exact h.same (.taken hw) rfl
  | sent hw hs hp => exact h.same (.sent hw hs hp) rfl
  | unsent hw hs hp => exact h.same (.unsent hw hs hp) (tickets_answer _ _ b)
  | @replied _ s _ hw hs hr => exact h.same (.replied hw hs (ht s) hr) (tickets_answer _ _ b)
  | @abandoned _ s _ hw hs hr => exact h.same (.abandoned hw hs (ht s) hr) rfl
  | delivered hw hs => exact h.deliver hw hs
  | finished hw hs => exact h.same (.finished hw hs) rfl

theorem act {action : Action} (h : ReachedBy P E a b) (hP : action.All P)
    (hE : E.Allows [action]) : ReachedBy P E a (b.act action) := by
  cases action with
  | run s => exact (isKept_reachedBy P E a).perform hP h
  | cancel n => exact h.cancel (hE.cancels (by simp))
  | clearCaches =>
    rw [Backend.act, clearCaches]
    split
    · exact h.same .cleared rfl
    · exact h
  | work transport => exact h.work (hE.replies (by simp))

theorem run {actions : List Action} (h : ReachedBy P E a b) (hP : ∀ action ∈ actions, action.All P)
    (hE : E.Allows actions) : ReachedBy P E a (b.run actions) := by
  induction actions generalizing b with
  | nil => exact h
  | cons action actions ih =>
    obtain ⟨hfirst, hrest⟩ := List.forall_mem_cons.mp hP
    exact ih (h.act hfirst hE.head) hrest hE.tail

end ReachedBy

/-- A run of scripts with calls of a kind makes no other calls. -/
theorem reachesBy_run {actions : List Action} (hP : ∀ action ∈ actions, action.All P)
    (hE : E.Allows actions) (hb : b.FollowsWith P) : ReachesBy P E b (b.run actions) :=
  (ReachedBy.run ⟨.refl, hb⟩ hP hE).reaches

/-- Every run goes through elementary steps only. -/
theorem reaches_run {actions : List Action} (h : E.Allows actions) (b : Backend) :
    Reaches E b (b.run actions) := by
  have hall : ∀ action ∈ actions, action.All fun _ => True := by
    intro action _
    cases action with
    | run s => exact s.all_true
    | cancel | clearCaches | work => trivial
  exact (reachesBy_run hall h b.followsWith_true).reaches

end Backend

end SubscriptionClient
