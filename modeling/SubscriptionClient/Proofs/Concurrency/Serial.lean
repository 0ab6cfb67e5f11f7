import SubscriptionClient.Concurrency.WorkQueue

/-!
# Order in a work queue

The stop marker comes only with closing and has nothing behind it, and without a worker that could
take them there are no items.
-/

namespace SubscriptionClient

def QueueItem.job? {α : Type} : QueueItem α → Option α
  | job a => some a
  | stop => none

namespace WorkQueue

variable {α : Type} {q : WorkQueue α}

/-- The accepted jobs that the worker has not taken yet. -/
def waitingJobs (q : WorkQueue α) : List α := q.items.filterMap QueueItem.job?

structure IsSerial (q : WorkQueue α) : Prop where
  absent : q.worker = .absent → q.items = []
  gone : q.worker = .gone → q.items = [] ∧ q.closed = true
  stop {before after : List (QueueItem α)} :
    q.items = before ++ .stop :: after → after = [] ∧ q.closed = true

theorem isSerial_opened (name : Text) : (opened name : WorkQueue α).IsSerial where
  absent := fun _ => rfl
  gone := nofun
  stop := by simp [opened]

theorem stop_notMem_items (h : q.IsSerial) (hq : q.closed = false) : .stop ∉ q.items := by
  intro hmem
  obtain ⟨before, after, hitems⟩ := List.append_of_mem hmem
  simp [(h.stop hitems).2] at hq

theorem isSerial_submit {a : α} {q' : WorkQueue α} (h : q.IsSerial)
    (hs : q.submit a = .ok q') : q'.IsSerial := by
  cases hq : q.closed with
  | true => simp [submit_of_closed hq] at hs
  | false =>
    rw [submit_of_open hq, Except.ok.injEq] at hs
    subst hs
    refine ⟨?_, ?_, ?_⟩
    · cases hw : q.worker <;> simp [Worker.started]
    · intro hgone
      have hw : q.worker = .gone := by
        cases hw : q.worker <;> simp_all [Worker.started]
      simp [(h.gone hw).2] at hq
    · intro before after hitems
      have hmem : .stop ∈ q.items ++ [.job a] := by
        rw [show q.items ++ [.job a] = _ from hitems]
        simp
      simp only [List.mem_append, List.mem_singleton, reduceCtorEq, or_false] at hmem
      exact (stop_notMem_items h hq hmem).elim

theorem isSerial_close (h : q.IsSerial) : q.close.IsSerial := by
  unfold close
  split
  · exact h
  · rename_i hopen
    have hq : q.closed = false := by simpa using hopen
    split
    · rename_i habsent
      refine ⟨h.absent, ?_, fun hitems => ⟨(h.stop hitems).1, rfl⟩⟩
      intro hgone
      simp only at hgone
      simp [hgone, Worker.isAbsent] at habsent
    · rename_i hthere
      refine ⟨?_, ?_, ?_⟩
      · intro habsent
        simp only at habsent
        simp [habsent, Worker.isAbsent] at hthere
      · intro hgone
        simp [(h.gone hgone).2] at hq
      · intro before after hitems
        simp only at hitems
        refine ⟨?_, rfl⟩
        rcases List.eq_nil_or_concat after with rfl | ⟨init, last, rfl⟩
        · rfl
        · have hinit : q.items = before ++ .stop :: init := by
            rw [List.concat_eq_append, ← List.cons_append, ← List.append_assoc] at hitems
            exact (List.append_inj' hitems rfl).1
          exact (stop_notMem_items h hq (by simp [hinit])).elim

theorem isSerial_take (h : q.IsSerial) : q.take.IsSerial := by
  unfold take
  split
  · rename_i a rest hw hitems
    refine ⟨nofun, nofun, ?_⟩
    intro before after hrest
    have hall : q.items = (.job a :: before) ++ .stop :: after := by
      rw [hitems, show rest = _ from hrest, List.cons_append]
    exact h.stop hall
  · rename_i rest hw hitems
    have hall : q.items = [] ++ .stop :: rest := hitems
    have hstop := h.stop hall
    exact ⟨nofun, fun _ => hstop, fun hrest => by simp [hstop.1] at hrest⟩
  · exact h

theorem isSerial_finish (h : q.IsSerial) : q.finish.IsSerial := by
  unfold finish
  split
  · exact ⟨nofun, nofun, h.stop⟩
  · exact h

/-! ## Jobs that wait -/

theorem waitingJobs_submit {a : α} {q' : WorkQueue α} (h : q.submit a = .ok q') :
    q'.waitingJobs = q.waitingJobs ++ [a] := by
  cases hq : q.closed with
  | true => simp [submit_of_closed hq] at h
  | false =>
    rw [submit_of_open hq, Except.ok.injEq] at h
    subst h
    simp [waitingJobs, QueueItem.job?]

@[simp] theorem waitingJobs_close (q : WorkQueue α) : q.close.waitingJobs = q.waitingJobs := by
  unfold close
  split
  · rfl
  · split <;> simp [waitingJobs, QueueItem.job?]

theorem waitingJobs_finish (q : WorkQueue α) : q.finish.waitingJobs = q.waitingJobs := by
  unfold finish
  split <;> rfl

/-! ## Closing -/

theorem close_of_closed (h : q.closed = true) : q.close = q := if_pos h

theorem closed_take (q : WorkQueue α) : q.take.closed = q.closed := by
  unfold take
  split <;> rfl

theorem closed_finish (q : WorkQueue α) : q.finish.closed = q.closed := by
  unfold finish
  split <;> rfl

theorem closed_eq_false_of_submit {a : α} {q' : WorkQueue α} (h : q.submit a = .ok q') :
    q.closed = false := by
  cases hq : q.closed with
  | true => simp [submit_of_closed hq] at h
  | false => rfl

/-! ## The name -/

theorem name_submit {a : α} {q' : WorkQueue α} (h : q.submit a = .ok q') : q'.name = q.name := by
  unfold submit at h
  split at h
  · simp at h
  · rw [← Except.ok.inj h]

theorem name_close (q : WorkQueue α) : q.close.name = q.name := by
  unfold close
  split
  · rfl
  · split <;> rfl

theorem name_take (q : WorkQueue α) : q.take.name = q.name := by
  unfold take
  split <;> rfl

theorem name_finish (q : WorkQueue α) : q.finish.name = q.name := by
  unfold finish
  split <;> rfl

/-! ## The worker -/

theorem worker_close (q : WorkQueue α) : q.close.worker = q.worker := by
  unfold close
  split
  · rfl
  · split <;> rfl

theorem busy_submit_iff {a job : α} {q' : WorkQueue α} (h : q.submit a = .ok q') :
    q'.worker = .busy job ↔ q.worker = .busy job := by
  cases hq : q.closed with
  | true => simp [submit_of_closed hq] at h
  | false =>
    rw [submit_of_open hq, Except.ok.injEq] at h
    subst h
    cases hw : q.worker <;> simp [Worker.started]

end WorkQueue

end SubscriptionClient
