import SubscriptionClient.Proofs.Backend.Order

/-!
# Slots

What holds of the futures and jobs of each family and key even when answers are malformed and
batches are left behind: a batch has only futures that were registered under its family and key, and
every accepted job is outstanding or done with.
-/

namespace SubscriptionClient.Backend

variable {E : Surroundings} {headers : List (Text × Text)} {clearable : Bool} {name : Text}
  {b c : Backend} {job : Job} {n : Nat} {s : Slot}

/-- The futures that were registered under a family and key, in order. -/
def enrolledIn (s : Slot) (b : Backend) : List Nat := b.journal.filterMap (Entry.registeredIn? s)

theorem enrolledIn_of_append {es : List Entry} (hj : c.journal = b.journal ++ es) :
    c.enrolledIn s = b.enrolledIn s ++ es.filterMap (Entry.registeredIn? s) := by
  rw [enrolledIn, hj, List.filterMap_append, enrolledIn]

/-- Whether everyone in a batch was registered there. -/
structure IsFiled (registries : Family → Registry Nat) (journal : List Entry) : Prop where
  nodup_keys (f : Family) : (registries f).keys.Nodup
  registered {s : Slot} {batch : List Nat} : (registries s.1).batch? s.2 = some batch →
    ∀ n ∈ batch, n ∈ journal.filterMap (Entry.registeredIn? s)

theorem isFiled_start (headers : List (Text × Text)) (clearable : Bool) (name : Text) :
    IsFiled (start headers clearable name).registries (start headers clearable name).journal where
  nodup_keys := fun _ => List.nodup_nil
  registered := by simp [start]

namespace IsFiled

variable {registries : Family → Registry Nat} {journal : List Entry}

theorem append (h : IsFiled registries journal) (es : List Entry) :
    IsFiled registries (journal ++ es) where
  nodup_keys := h.nodup_keys
  registered := by
    intro s batch hb n hn
    rw [List.filterMap_append]
    exact List.mem_append_left _ (h.registered hb n hn)

theorem register (h : IsFiled registries journal) (job : Job) (n : Nat)
    (registration : Registration) :
    IsFiled (registeredFor job n registries) (journal ++ [.registered n job registration]) where
  nodup_keys := nodup_keys_registeredFor h.nodup_keys job n
  registered := by
    intro s batch hb m hm
    rw [List.filterMap_append, List.mem_append]
    by_cases hs : job.slot = s
    · subst hs
      rw [batch?_registeredFor_self, Option.some.injEq] at hb
      rw [← hb, List.mem_append, List.mem_singleton] at hm
      rcases hm with hm | rfl
      · cases hbefore : (registries job.slot.1).batch? job.slot.2 with
        | none => simp [hbefore] at hm
        | some before =>
          rw [hbefore] at hm
          exact .inl (h.registered hbefore m hm)
      · exact .inr (by simp [Entry.registeredIn?])
    · rw [batch?_registeredFor_of_ne hs] at hb
      exact .inl (h.registered hb m hm)

theorem drain {batch : List Nat} {registry : Registry Nat} (h : IsFiled registries journal)
    (hd : (registries job.operation.family).drain? job.key = some (batch, registry)) :
    IsFiled (drainedOf job registry registries) journal where
  nodup_keys := by
    intro f
    unfold drainedOf
    split
    · exact Registry.nodup_keys_of_drain? hd (h.nodup_keys _)
    · exact h.nodup_keys f
  registered := by
    intro s batch' hb
    by_cases hs : job.slot = s
    · subst hs
      rw [batch?_drainedOf_self hd (h.nodup_keys _)] at hb
      cases hb
    · rw [batch?_drainedOf_of_ne hd hs] at hb
      exact h.registered hb

theorem step {jobs : List Job} (h : IsFiled b.registries b.journal)
    (hs : RegistryStep E b registries jobs journal) : IsFiled registries journal := by
  cases hs with
  | shared hshared =>
    cases hshared with
    | kept => exact h
    | joined => exact h.register _ _ _
    | accepted =>
      rw [← List.singleton_append, ← List.append_assoc]
      exact (h.register _ _ _).append _
    | refused => exact h.append _
    | answered _ hd => exact (h.drain hd).append _
  | abandoned => exact h

end IsFiled

theorem isFiled_of_reaches (h : Reaches E (start headers clearable name) b) :
    IsFiled b.registries b.journal := by
  induction h with
  | refl => exact isFiled_start headers clearable name
  | tail hb hs ih => exact ih.step (hs.registryStep (Reaches.isOrderly hb))

/-! ## Futures that were registered -/

/-- What a step may do with the futures that were registered. -/
inductive EnrolStep (b c : Backend) : Prop where
  | kept (he : ∀ s, c.enrolledIn s = b.enrolledIn s) (ht : b.tickets.length ≤ c.tickets.length)
  | registered (job : Job)
    (he : ∀ s, c.enrolledIn s =
      b.enrolledIn s ++ if job.slot = s then [b.tickets.length] else [])
    (ht : c.tickets.length = b.tickets.length + 1)

theorem enrolledIn_answer (job : Job) (r : Response) (b : Backend) (s : Slot) :
    (b.answer job r).enrolledIn s = b.enrolledIn s := by
  unfold answer
  dsimp only
  split
  · exact (enrolledIn_of_append rfl).trans (List.append_nil _)
  · rfl

theorem enrolStep_answer (job : Job) (r : Response) (b : Backend) :
    EnrolStep b (b.answer job r) := by
  apply EnrolStep.kept (enrolledIn_answer job r b)
  exact Nat.le_of_eq (congrArg List.length (tickets_answer job r b).symm)

theorem EnrolStep.of_journal {es : List Entry} (job : Job) (hj : c.journal = b.journal ++ es)
    (he : ∀ s, es.filterMap (Entry.registeredIn? s) =
      if job.slot = s then [b.tickets.length] else [])
    (ht : c.tickets.length = b.tickets.length + 1) : EnrolStep b c := by
  refine .registered job (fun s => ?_) ht
  rw [enrolledIn_of_append hj, he s]

theorem Step.enrol (hs : Step E b c) : EnrolStep b c := by
  have hset (n : Nat) (future : Future (Attempt Outcome) Script) :
      EnrolStep b (b.setFuture n future) :=
    .kept (fun _ => rfl) (Nat.le_of_eq (length_setFuture n future b).symm)
  cases hs with
  | settled => exact .kept (fun _ => rfl) (by simp [handOut])
  | @joined label job batch hb =>
    refine .of_journal job (journal_enrol_of_joined label hb) (fun s => ?_)
      List.length_append
    by_cases hs : job.slot = s <;> simp [Entry.registeredIn?, hs]
  | @accepted label job queue hb hq =>
    have hjournal : ({ (b.enrol label job).1 with queue }.record (.accepted job)).journal =
        b.journal ++ [.registered b.tickets.length job .first, .accepted job] := by
      simp [record, journal_enrol_of_first label hb]
    refine .of_journal job hjournal (fun s => ?_) List.length_append
    by_cases hs : job.slot = s <;> simp [Entry.registeredIn?, hs, List.filterMap_cons]
  | @refused label job hb hq =>
    refine .of_journal job rfl (fun s => ?_) List.length_append
    by_cases hs : job.slot = s <;> simp [Entry.registeredIn?, hs, List.filterMap_cons]
  | followed hf =>
    obtain ⟨t, future, -, -, rfl⟩ := exists_of_followedBy? hf
    exact hset _ future
  | reported n =>
    obtain ⟨events, he⟩ := exists_noteDone_eq n b
    rw [he]
    exact .kept (fun _ => rfl) (Nat.le_refl _)
  | cancelled => exact hset _ _
  | unsent | replied => exact enrolStep_answer _ _ b
  | delivered => exact .kept (fun _ => rfl) (Nat.le_of_eq (length_setFuture _ _ _).symm)
  | _ => exact .kept (fun _ => rfl) (Nat.le_refl _)

/-- Whether every future that was registered has been handed out, and was registered under one
family and key only. -/
structure IsEnrolledOnce (b : Backend) : Prop where
  lt_length {n : Nat} {s : Slot} : n ∈ b.enrolledIn s → n < b.tickets.length
  slot_eq {n : Nat} {s s' : Slot} : n ∈ b.enrolledIn s → n ∈ b.enrolledIn s' → s = s'

theorem IsEnrolledOnce.step (h : b.IsEnrolledOnce) (hs : EnrolStep b c) : c.IsEnrolledOnce := by
  cases hs with
  | kept he ht =>
    refine ⟨fun hn => ?_, fun hn hn' => ?_⟩
    · rw [he] at hn
      exact Nat.lt_of_lt_of_le (h.lt_length hn) ht
    · rw [he] at hn hn'
      exact h.slot_eq hn hn'
  | registered job he ht =>
    have hmem {n : Nat} {s : Slot} (hn : n ∈ c.enrolledIn s) :
        n ∈ b.enrolledIn s ∨ n = b.tickets.length ∧ job.slot = s := by
      rw [he, List.mem_append] at hn
      by_cases hs : job.slot = s <;> simp_all
    refine ⟨fun hn => ?_, fun hn hn' => ?_⟩
    · rcases hmem hn with hn | ⟨rfl, -⟩
      · exact ht ▸ Nat.lt_succ_of_lt (h.lt_length hn)
      · exact ht ▸ Nat.lt_succ_self _
    · rcases hmem hn, hmem hn' with ⟨hn | ⟨rfl, rfl⟩, hn' | ⟨hlength, hs'⟩⟩
      · exact h.slot_eq hn hn'
      · exact (Nat.ne_of_lt (h.lt_length hn) hlength).elim
      · exact (Nat.lt_irrefl _ (h.lt_length hn')).elim
      · exact hs'

theorem isEnrolledOnce_of_reaches (h : Reaches E (start headers clearable name) b) :
    b.IsEnrolledOnce := by
  induction h with
  | refl =>
    have hnone (n : Nat) (s : Slot) : n ∉ (start headers clearable name).enrolledIn s := by
      simp [enrolledIn, start]
    exact ⟨fun hn => (hnone _ _ hn).elim, fun hn => (hnone _ _ hn).elim⟩
  | tail _ hs ih => exact ih.step hs.enrol

/-! ## Jobs that are done with -/

theorem RegistryStep.exists_done {registries : Family → Registry Nat} {jobs : List Job}
    {journal : List Entry} (hs : RegistryStep E b registries jobs journal)
    (h : ∃ done, b.accepted = done ++ b.outstanding) :
    ∃ done, journal.filterMap Entry.accepted? = done ++ jobs := by
  obtain ⟨done, hdone⟩ := h
  rw [Backend.accepted] at hdone
  cases hs with
  | shared hshared =>
    cases hshared with
    | kept => exact ⟨done, hdone⟩
    | joined | refused =>
      refine ⟨done, ?_⟩
      simpa [List.filterMap_append, List.filterMap_cons, Entry.accepted?] using hdone
    | accepted =>
      refine ⟨done, ?_⟩
      simp [List.filterMap_append, List.filterMap_cons, Entry.accepted?, hdone]
    | @answered job _ _ _ ho =>
      refine ⟨done ++ [job], ?_⟩
      simp [List.filterMap_append, List.filterMap_cons, Entry.accepted?, hdone, ho]
  | @abandoned job ho =>
    refine ⟨done ++ [job], ?_⟩
    simp [hdone, ho]

theorem exists_done_of_reaches (h : Reaches E (start headers clearable name) b) :
    ∃ done, b.accepted = done ++ b.outstanding := by
  induction h with
  | refl => exact ⟨[], rfl⟩
  | tail hb hs ih => exact (hs.registryStep (Reaches.isOrderly hb)).exists_done ih

/-! ## The request under way -/

/-- Whether the worker awaits the answer to the request of its job. -/
def AwaitsOwn (b : Backend) : Prop :=
  ∀ job sent, b.queue.worker = .busy job → b.stage = .awaiting sent →
    job.request? b.headers = some sent

theorem AwaitsOwn.of_stage (h : ∀ sent, c.stage ≠ .awaiting sent) : c.AwaitsOwn :=
  fun _ sent _ hs => (h sent hs).elim

theorem awaitsOwn_answer (job : Job) (r : Response) (b : Backend) : (b.answer job r).AwaitsOwn := by
  apply AwaitsOwn.of_stage
  intro sent
  rcases answer_queue_and_stage job r b with ⟨-, outcome, ns, h⟩ | ⟨-, h⟩ <;> simp [h]

theorem AwaitsOwn.step (ho : b.IsOrderly) (h : b.AwaitsOwn) (hs : Step E b c) : c.AwaitsOwn := by
  cases hs with
  | accepted label _ hq =>
    intro job sent hw
    exact h job sent ((WorkQueue.busy_submit_iff hq).mp hw)
  | followed hf =>
    obtain ⟨t, future, -, -, rfl⟩ := exists_of_followedBy? hf
    exact h
  | reported n =>
    obtain ⟨events, he⟩ := exists_noteDone_eq n b
    rw [he]
    exact h
  | closed =>
    intro job sent hw
    exact h job sent ((WorkQueue.worker_close b.queue).symm.trans hw)
  | taken hb => exact .of_stage (by simp [ho.fresh hb])
  | @sent job s hw hs hp =>
    intro other sent hw' hs'
    obtain rfl : s = sent := Stage.awaiting.inj hs'
    obtain rfl : job = other := Worker.busy.inj (hw.symm.trans hw')
    show job.request? b.headers = some s
    rw [Job.request?, hp]
    rfl
  | unsent | replied => exact awaitsOwn_answer _ _ b
  | abandoned => exact .of_stage (by simp [abandon, finish])
  | delivered => exact .of_stage (by simp [setFuture])
  | passedOver => exact .of_stage (by simp)
  | finished => exact .of_stage (by simp [finish])
  | _ => exact h

theorem awaitsOwn_of_reaches (h : Reaches E (start headers clearable name) b) : b.AwaitsOwn := by
  induction h with
  | refl => exact .of_stage (by simp [start])
  | tail hb hs ih => exact ih.step (Reaches.isOrderly hb) hs

/-! ## How many wait -/

theorem length_waiting_enrol (label : Text) (job : Job) (b : Backend) :
    (b.enrol label job).1.waiting.length = b.waiting.length + 1 := by
  have hlength := (waitingIn_registeredFor_perm job b.tickets.length b.registries).length_eq
  have hwaiting : (b.enrol label job).1.waiting =
    b.undelivered ++ waitingIn (registeredFor job b.tickets.length b.registries) := rfl
  rw [hwaiting, waiting, List.length_append, List.length_append, hlength, List.length_cons]
  omega

theorem length_waiting_enrol_le (h : b.waiting.length ≤ b.tickets.length) (label : Text)
    (job : Job) : (b.enrol label job).1.waiting.length ≤ (b.enrol label job).1.tickets.length := by
  have htickets : (b.enrol label job).1.tickets.length = b.tickets.length + 1 :=
    List.length_append
  rw [length_waiting_enrol, htickets]
  exact Nat.succ_le_succ h

theorem length_waiting_answer (job : Job) (r : Response)
    (hs : ∀ outcome ns, b.stage ≠ .delivering outcome ns) :
    (b.answer job r).waiting.length ≤ b.waiting.length := by
  have hnone := undelivered_of_not_delivering hs
  cases hd : (b.registries job.operation.family).drain? job.key with
  | some drained =>
    have hlength := (waitingIn_perm_of_drain? hd).length_eq
    rw [answer_of_drain? hd, waiting, waiting, hnone, List.nil_append, hlength]
    exact Nat.le_refl _
  | none =>
    simp only [answer, hd]
    rw [waiting, waiting, hnone]
    exact Nat.le_refl _

theorem length_waiting_le_step (h : b.waiting.length ≤ b.tickets.length) (hs : Step E b c) :
    c.waiting.length ≤ c.tickets.length := by
  cases hs with
  | raised | cleared | closed | taken => exact h
  | settled | refused =>
    apply Nat.le_trans h
    simp [handOut, refuse]
  | joined label | accepted label => exact length_waiting_enrol_le h label _
  | followed hf =>
    obtain ⟨t, future, -, -, rfl⟩ := exists_of_followedBy? hf
    rw [length_setFuture]
    exact h
  | reported n =>
    obtain ⟨events, he⟩ := exists_noteDone_eq n b
    rw [he]
    exact h
  | cancelled =>
    rw [length_setFuture]
    exact h
  | sent hw hs =>
    rw [waiting, undelivered_of_not_delivering (by simp [hs])] at h
    exact h
  | unsent hw hs | replied hw hs =>
    rw [tickets_answer]
    apply Nat.le_trans ?_ h
    apply length_waiting_answer
    simp [hs]
  | abandoned hw hs =>
    rw [waiting, undelivered_of_not_delivering (by simp [hs])] at h
    exact h
  | delivered hw hs =>
    rw [length_setFuture]
    rw [waiting, undelivered, hs] at h
    exact Nat.le_of_succ_le h
  | passedOver hw hs =>
    rw [waiting, undelivered, hs] at h
    exact Nat.le_of_succ_le h
  | finished hw hs =>
    rw [waiting, undelivered, hs] at h
    exact h

theorem length_waiting_le_of_reaches (h : Reaches E (start headers clearable name) b) :
    b.waiting.length ≤ b.tickets.length := by
  induction h with
  | refl => exact Nat.zero_le _
  | tail _ hs ih => exact length_waiting_le_step ih hs

end SubscriptionClient.Backend
