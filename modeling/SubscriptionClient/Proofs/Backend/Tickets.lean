import SubscriptionClient.Proofs.Backend.InFlight
import SubscriptionClient.Proofs.Concurrency.Futures

/-!
# Tickets

What a step does with the futures that were handed out: it hands out a new one, or changes the state
of one, and a future that is done stays as it is.
-/

namespace SubscriptionClient.Backend

variable {E : Surroundings} {b c : Backend} {n : Nat} {t : Ticket}

/-- What a step may do with the tickets. -/
inductive TicketsStep (E : Surroundings) (tickets : List Ticket) : List Ticket → Prop where
  | kept : TicketsStep E tickets tickets
  | handedOut (t : Ticket) (hc : t.future.state.isCancelled = false) :
    TicketsStep E tickets (tickets ++ [t])
  | changed {n : Nat} {t : Ticket} {future : Future (Attempt Outcome) Script}
    (ht : tickets[n]? = some t) (hf : t.future.state.Becomes future.state)
    (hc : future.state.isCancelled = true → t.future.state.isCancelled = true ∨ E.cancels n) :
    TicketsStep E tickets (tickets.modify n fun t => { t with future })

theorem Step.tickets (h : Step E b c) : TicketsStep E b.tickets c.tickets := by
  cases h with
  | raised | closed | cleared | taken | sent | abandoned | passedOver | finished => exact .kept
  | settled | joined | accepted | refused => exact .handedOut _ rfl
  | followed hf =>
    obtain ⟨t, future, ht, hs, rfl⟩ := exists_of_followedBy? hf
    have hstate := Future.state_of_followedBy? hs
    exact .changed ht (hstate ▸ .same _) fun hc => .inl (hstate ▸ hc)
  | reported n =>
    obtain ⟨events, he⟩ := exists_noteDone_eq n b
    rw [he]
    exact .kept
  | cancelled ht hc => exact .changed ht (Future.becomes_cancel _) fun _ => .inr hc
  | unsent | replied =>
    rw [tickets_answer]
    exact .kept
  | delivered hw hs ht hd =>
    refine .changed ht (Future.becomes_of_deliver? hd) fun hc => .inl ?_
    rwa [← Future.isCancelled_of_deliver? hd]

theorem TicketsStep.ticket {tickets tickets' : List Ticket} (h : TicketsStep E tickets tickets')
    (ht : tickets[n]? = some t) :
    ∃ t', tickets'[n]? = some t' ∧ t'.key = t.key ∧ t.future.state.Becomes t'.future.state := by
  cases h with
  | kept => exact ⟨t, ht, rfl, .same _⟩
  | handedOut u hc =>
    have hn : n < tickets.length := (List.getElem?_eq_some_iff.mp ht).1
    exact ⟨t, by rwa [List.getElem?_append_left hn], rfl, .same _⟩
  | @changed m u future hu hf hc =>
    by_cases hm : m = n
    · subst hm
      obtain rfl : u = t := Option.some.inj (hu.symm.trans ht)
      exact ⟨{ u with future }, by simp [hu], rfl, hf⟩
    · exact ⟨t, by rw [List.getElem?_modify_ne _ _ hm, ht], rfl, .same _⟩

/-- Only callers cancel. -/
theorem TicketsStep.cancelled {tickets tickets' : List Ticket} (h : TicketsStep E tickets tickets')
    (hb : ∀ n t, tickets[n]? = some t → t.future.state.isCancelled = true → E.cancels n)
    (ht : tickets'[n]? = some t) (hc : t.future.state.isCancelled = true) : E.cancels n := by
  cases h with
  | kept => exact hb n t ht hc
  | handedOut u hu =>
    rcases getElem?_concat_eq_some_iff.mp ht with ht | ⟨-, rfl⟩
    · exact hb n t ht hc
    · simp [hu] at hc
  | @changed m u future hu hf hcancel =>
    by_cases hm : m = n
    · subst hm
      simp only [List.getElem?_modify_eq, hu, Option.map_eq_map, Option.map_some,
        Option.some.injEq] at ht
      subst ht
      exact (hcancel hc).elim (hb m u hu) id
    · rw [List.getElem?_modify_ne _ _ hm] at ht
      exact hb n t ht hc

theorem Reaches.ticket (h : Reaches E b c) (ht : b.tickets[n]? = some t) :
    ∃ t', c.tickets[n]? = some t' ∧ t'.key = t.key ∧ t.future.state.Becomes t'.future.state := by
  induction h with
  | refl => exact ⟨t, ht, rfl, .same _⟩
  | tail _ hs ih =>
    obtain ⟨u, hu, hk, hb⟩ := ih
    obtain ⟨v, hv, hk', hb'⟩ := hs.tickets.ticket hu
    exact ⟨v, hv, hk'.trans hk, hb.trans hb'⟩

/-- Whoever is cancelled was cancelled by a caller. -/
def CancelsAllowed (E : Surroundings) (b : Backend) : Prop :=
  ∀ n t, b.tickets[n]? = some t → t.future.state.isCancelled = true → E.cancels n

theorem cancelsAllowed_start (headers : List (Text × Text)) (clearable : Bool) (name : Text) :
    CancelsAllowed E (start headers clearable name) := by
  simp [CancelsAllowed, start]

theorem CancelsAllowed.step (h : CancelsAllowed E b) (hs : Step E b c) : CancelsAllowed E c :=
  fun _ _ ht hc => hs.tickets.cancelled h ht hc

end SubscriptionClient.Backend
