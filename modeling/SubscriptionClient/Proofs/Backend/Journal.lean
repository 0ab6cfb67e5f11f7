import SubscriptionClient.Proofs.Backend.Waiting
import SubscriptionClient.Proofs.Concurrency.Logs

/-!
# The journal

The journal tells which batch is open under a family and key: it begins with the first future that
waits for a job and ends when the batch is released, because the job was refused or because its
response is there. The invariant says that this is the batch that the registry has, that its job is
the outstanding one, and that every release is of the open batch as a whole.
-/

namespace SubscriptionClient

namespace Entry

def job : Entry → Job
  | registered _ job _ | accepted job | refused job _ _ | answered job _ _ => job

/-- What a batch is released with. -/
def release? : Entry → Option (List Nat × Attempt Outcome)
  | refused _ batch fault => some (batch, .error fault)
  | answered job batch r => some (batch, job.operation.handle r)
  | _ => none

/-- The future that an entry registers under a family and key. -/
def registeredIn? (s : Slot) : Entry → Option Nat
  | registered n job _ => if job.slot = s then some n else none
  | _ => none

/-- The open batch of a family and key after an entry, and the job that it waits for. -/
def openAfter (s : Slot) (opened : Option (Job × List Nat)) : Entry → Option (Job × List Nat)
  | registered n job .first => if job.slot = s then some (job, [n]) else opened
  | registered n job .joined =>
    if job.slot = s then opened.map fun o => (o.1, o.2 ++ [n]) else opened
  | accepted _ => opened
  | refused job _ _ | answered job _ _ => if job.slot = s then none else opened

/-- Whether an entry fits the batch that is open before it. -/
def Fits (opened : Option (Job × List Nat)) : Entry → Prop
  | registered _ _ .first => opened = none
  | registered _ _ .joined => opened.isSome = true
  | accepted _ => True
  | refused job batch _ | answered job batch _ => opened = some (job, batch)

end Entry

def openBatch (s : Slot) (journal : List Entry) : Option (Job × List Nat) :=
  journal.foldl (Entry.openAfter s) none

/-- Whether every entry fits what comes before it. -/
def IsCoherent (journal : List Entry) : Prop :=
  ∀ before e after, journal = before ++ e :: after → e.Fits (openBatch e.job.slot before)

variable {s : Slot} {journal before mid after : List Entry} {e : Entry} {job : Job} {n : Nat}

theorem openBatch_concat (s : Slot) (journal : List Entry) (e : Entry) :
    openBatch s (journal ++ [e]) = e.openAfter s (openBatch s journal) := by
  simp [openBatch]

theorem openAfter_of_ne (h : e.job.slot ≠ s) (opened : Option (Job × List Nat)) :
    e.openAfter s opened = opened := by
  cases e with
  | registered m other registration => cases registration <;> exact if_neg h
  | accepted => rfl
  | refused | answered => exact if_neg h

theorem registeredIn?_of_ne (h : e.job.slot ≠ s) : e.registeredIn? s = none := by
  cases e with
  | registered => exact if_neg h
  | accepted | refused | answered => rfl

theorem isCoherent_iff : IsCoherent journal ↔
    IsFitting (fun before e => e.Fits (openBatch e.job.slot before)) journal := Iff.rfl

theorem isCoherent_nil : IsCoherent [] := isCoherent_iff.mpr (isFitting_nil _)

theorem IsCoherent.concat (h : IsCoherent journal) (he : e.Fits (openBatch e.job.slot journal)) :
    IsCoherent (journal ++ [e]) := by
  rw [isCoherent_iff, isFitting_concat_iff]
  exact ⟨isCoherent_iff.mp h, he⟩

theorem IsCoherent.of_append (h : IsCoherent (journal ++ after)) : IsCoherent journal := by
  intro before e mid hj
  exact h before e (mid ++ after) (by rw [hj, List.append_assoc, List.cons_append])

/-! ## From the first of a batch to its release -/

/-- While nothing is released those who register join the batch. -/
theorem openBatch_of_first (hc : IsCoherent (before ++ .registered n job .first :: mid))
    (hr : ∀ e ∈ mid, e.job.slot = job.slot → e.release? = none) :
    openBatch job.slot (before ++ .registered n job .first :: mid) =
      some (job, n :: mid.filterMap (Entry.registeredIn? job.slot)) := by
  induction mid using List.reverseRecOn with
  | nil => simp [openBatch_concat, Entry.openAfter]
  | append_singleton mid e ih =>
    rw [← List.cons_append, ← List.append_assoc] at hc ⊢
    have hmid := ih hc.of_append fun e he => hr e (List.mem_append_left [_] he)
    have hfits := hc _ e [] rfl
    have hnone := hr e (by simp)
    rw [openBatch_concat, hmid, List.filterMap_append]
    by_cases hs : e.job.slot = job.slot
    · rw [hs, hmid] at hfits
      cases e with
      | registered m other registration =>
        cases registration with
        | first => simp [Entry.Fits] at hfits
        | joined => simp_all [Entry.openAfter, Entry.registeredIn?, Entry.job]
      | accepted => simp [Entry.openAfter, Entry.registeredIn?]
      | refused | answered => simp [Entry.release?] at hnone; exact (hnone hs).elim
    · simp [openAfter_of_ne hs, registeredIn?_of_ne hs]

/-- What is released is what was registered, for the job of the first. -/
theorem IsCoherent.release_eq {batch : List Nat} {outcome : Attempt Outcome}
    (hc : IsCoherent (before ++ .registered n job .first :: mid ++ e :: after))
    (hr : ∀ e ∈ mid, e.job.slot = job.slot → e.release? = none) (hs : e.job.slot = job.slot)
    (he : e.release? = some (batch, outcome)) :
    e.job = job ∧ batch = n :: mid.filterMap (Entry.registeredIn? job.slot) := by
  have hfits := hc _ e after rfl
  rw [hs, openBatch_of_first hc.of_append hr] at hfits
  cases e with
  | registered | accepted => simp [Entry.release?] at he
  | refused other batch' fault | answered other batch' r =>
    simp only [Entry.release?, Option.some.injEq, Prod.mk.injEq] at he
    simp only [Entry.Fits, Option.some.injEq, Prod.mk.injEq] at hfits
    exact ⟨hfits.1.symm, he.1.symm.trans hfits.2.symm⟩

/-- Who is in an open batch was registered for it. -/
theorem exists_registered_of_openBatch {ns : List Nat}
    (h : openBatch s journal = some (job, ns)) (hn : n ∈ ns) :
    ∃ other registration, .registered n other registration ∈ journal ∧ other.slot = s := by
  induction journal using List.reverseRecOn generalizing job ns with
  | nil => simp [openBatch] at h
  | append_singleton journal e ih =>
    have hold {other : Job} {ns : List Nat} (ho : openBatch s journal = some (other, ns))
        (hn : n ∈ ns) : ∃ other registration,
          .registered n other registration ∈ journal ++ [e] ∧ other.slot = s := by
      obtain ⟨other, registration, hmem, hs⟩ := ih ho hn
      exact ⟨other, registration, List.mem_append_left _ hmem, hs⟩
    rw [openBatch_concat] at h
    cases e with
    | accepted => exact hold h hn
    | refused other | answered other =>
      by_cases hs : other.slot = s
      · simp [Entry.openAfter, hs] at h
      · exact hold (by simpa [Entry.openAfter, hs] using h) hn
    | registered m other registration =>
      by_cases hs : other.slot = s
      · have hnew : n = m → ∃ other' registration', .registered n other' registration' ∈
            journal ++ [.registered m other registration] ∧ other'.slot = s := by
          rintro rfl
          exact ⟨other, registration, by simp, hs⟩
        cases registration with
        | first =>
          simp only [Entry.openAfter, hs, if_true, Option.some.injEq, Prod.mk.injEq] at h
          rw [← h.2, List.mem_singleton] at hn
          exact hnew hn
        | joined =>
          simp only [Entry.openAfter, hs, if_true, Option.map_eq_some_iff, Prod.mk.injEq] at h
          obtain ⟨⟨first, old⟩, ho, -, rfl⟩ := h
          rcases List.mem_append.mp hn with hn | hn
          · exact hold ho hn
          · exact hnew (List.mem_singleton.mp hn)
      · cases registration <;> exact hold (by simpa [Entry.openAfter, hs] using h) hn

/-- Whoever was registered is in the open batch or in one that was released. -/
theorem IsCoherent.open_or_released {registration : Registration} (hc : IsCoherent journal)
    (hr : .registered n job registration ∈ journal) :
    (∃ other ns, openBatch job.slot journal = some (other, ns) ∧ n ∈ ns) ∨
      ∃ e ∈ journal, ∃ batch outcome, e.release? = some (batch, outcome) ∧ n ∈ batch := by
  induction journal using List.reverseRecOn with
  | nil => simp at hr
  | append_singleton journal e ih =>
    have hfits := hc journal e [] rfl
    rw [openBatch_concat]
    rcases List.mem_append.mp hr with hold | hnew
    · rcases ih hc.of_append hold with ⟨other, ns, ho, hn⟩ | ⟨e', he', hrelease⟩
      · by_cases hs : e.job.slot = job.slot
        · rw [hs, ho] at hfits
          cases e with
          | registered m new registration =>
            cases registration with
            | first => simp [Entry.Fits] at hfits
            | joined =>
              refine .inl ⟨other, ns ++ [m], ?_, List.mem_append_left _ hn⟩
              simp_all [Entry.openAfter, Entry.job]
          | accepted => exact .inl ⟨other, ns, ho, hn⟩
          | refused new batch fault =>
            obtain ⟨-, rfl⟩ := Prod.mk.inj (Option.some.inj hfits)
            exact .inr ⟨.refused new ns fault, by simp, ns, _, rfl, hn⟩
          | answered new batch r =>
            obtain ⟨-, rfl⟩ := Prod.mk.inj (Option.some.inj hfits)
            exact .inr ⟨.answered new ns r, by simp, ns, _, rfl, hn⟩
        · refine .inl ⟨other, ns, ?_, hn⟩
          rw [openAfter_of_ne hs, ho]
      · exact .inr ⟨e', List.mem_append_left _ he', hrelease⟩
    · obtain rfl := List.mem_singleton.mp hnew
      cases registration with
      | first => exact .inl ⟨job, [n], by simp [Entry.openAfter], by simp⟩
      | joined =>
        obtain ⟨⟨other, ns⟩, ho⟩ := Option.isSome_iff_exists.mp hfits
        exact .inl ⟨other, ns ++ [n], by simp_all [Entry.openAfter, Entry.job], by simp⟩

/-! ## The journal and the registries -/

/-- The open batches are those of the registries, and their jobs are outstanding. -/
structure IsTold (registries : Family → Registry Nat) (jobs : List Job) (journal : List Entry) :
    Prop where
  coherent : IsCoherent journal
  batch?_eq (s : Slot) : (registries s.1).batch? s.2 = (openBatch s journal).map Prod.snd
  outstanding {s : Slot} {job : Job} {ns : List Nat} :
    openBatch s journal = some (job, ns) → job ∈ jobs ∧ job.slot = s

namespace IsTold

open Backend

variable {registries : Family → Registry Nat} {jobs : List Job} {batch : List Nat}

theorem openBatch_eq_none (h : IsTold registries jobs journal)
    (hb : (registries job.operation.family).batch? job.key = none) :
    openBatch job.slot journal = none := by
  have hs := h.batch?_eq job.slot
  rw [show (registries job.slot.1).batch? job.slot.2 = none from hb] at hs
  exact Option.map_eq_none_iff.mp hs.symm

theorem exists_openBatch_eq (h : IsTold registries jobs journal)
    (hb : (registries job.operation.family).batch? job.key = some batch) :
    ∃ other, openBatch job.slot journal = some (other, batch) := by
  have hs := h.batch?_eq job.slot
  rw [show (registries job.slot.1).batch? job.slot.2 = some batch from hb] at hs
  obtain ⟨⟨other, ns⟩, ho, rfl⟩ := Option.map_eq_some_iff.mp hs.symm
  exact ⟨other, ho⟩

theorem join (h : IsTold registries jobs journal)
    (hb : (registries job.operation.family).batch? job.key = some batch) (n : Nat) :
    IsTold (registeredFor job n registries) jobs (journal ++ [.registered n job .joined]) := by
  obtain ⟨other, ho⟩ := h.exists_openBatch_eq hb
  refine ⟨h.coherent.concat (by simp [Entry.Fits, Entry.job, ho]), ?_, ?_⟩
  · intro s
    rw [openBatch_concat]
    by_cases hs : job.slot = s
    · subst hs
      rw [batch?_registeredFor_self, h.batch?_eq]
      simp [Entry.openAfter, ho]
    · rw [batch?_registeredFor_of_ne hs, h.batch?_eq]
      simp [Entry.openAfter, hs]
  · intro s opened ns hopen
    rw [openBatch_concat] at hopen
    by_cases hs : job.slot = s
    · subst hs
      simp only [Entry.openAfter, if_true, ho, Option.map_some, Option.some.injEq,
        Prod.mk.injEq] at hopen
      exact hopen.1 ▸ h.outstanding ho
    · exact h.outstanding (by simpa [Entry.openAfter, hs] using hopen)

theorem start (h : IsTold registries jobs journal)
    (hb : (registries job.operation.family).batch? job.key = none) (n : Nat) :
    IsTold (registeredFor job n registries) (jobs ++ [job])
      (journal ++ [.registered n job .first, .accepted job]) := by
  have ho := h.openBatch_eq_none hb
  have hstep (s : Slot) : openBatch s (journal ++ [.registered n job .first, .accepted job]) =
      if job.slot = s then some (job, [n]) else openBatch s journal := by
    simp [openBatch, Entry.openAfter]
  refine ⟨?_, ?_, ?_⟩
  · have hfirst := h.coherent.concat (e := .registered n job .first) ho
    rw [← List.singleton_append, ← List.append_assoc]
    exact hfirst.concat trivial
  · intro s
    rw [hstep]
    by_cases hs : job.slot = s
    · subst hs
      rw [batch?_registeredFor_self, h.batch?_eq, ho]
      simp
    · rw [batch?_registeredFor_of_ne hs, h.batch?_eq, if_neg hs]
  · intro s opened ns hopen
    rw [hstep] at hopen
    by_cases hs : job.slot = s
    · simp only [hs, if_true, Option.some.injEq, Prod.mk.injEq] at hopen
      exact hopen.1 ▸ ⟨by simp, hs⟩
    · rw [if_neg hs] at hopen
      exact ⟨List.mem_append_left _ (h.outstanding hopen).1, (h.outstanding hopen).2⟩

theorem refuse (h : IsTold registries jobs journal)
    (hb : (registries job.operation.family).batch? job.key = none) (n : Nat) (fault : Fault) :
    IsTold registries jobs
      (journal ++ [.registered n job .first, .refused job [n] fault]) := by
  have ho := h.openBatch_eq_none hb
  have hstep (s : Slot) :
      openBatch s (journal ++ [.registered n job .first, .refused job [n] fault]) =
        openBatch s journal := by
    by_cases hs : job.slot = s
    · subst hs
      simpa [openBatch, Entry.openAfter] using ho.symm
    · simp [openBatch, Entry.openAfter, hs]
  refine ⟨?_, ?_, ?_⟩
  · have hfirst := h.coherent.concat (e := .registered n job .first) ho
    rw [← List.singleton_append, ← List.append_assoc]
    apply hfirst.concat
    simp [Entry.Fits, Entry.job, openBatch_concat, Entry.openAfter]
  · intro s
    rw [hstep, h.batch?_eq]
  · intro s opened ns hopen
    exact h.outstanding ((hstep s).symm.trans hopen)

/-- The batch that is taken out for a job waits for that very job. -/
theorem openBatch_eq (h : IsTold registries (job :: jobs) journal)
    (hm : IsMatched registries (job :: jobs))
    (hb : (registries job.operation.family).batch? job.key = some batch) :
    openBatch job.slot journal = some (job, batch) := by
  obtain ⟨other, ho⟩ := h.exists_openBatch_eq hb
  obtain ⟨hmem, hslot⟩ := h.outstanding ho
  have hnew := (List.nodup_cons.mp hm.nodup_slots).1
  rcases List.mem_cons.mp hmem with rfl | hmem
  · exact ho
  · exact (hnew (List.mem_map.mpr ⟨other, hmem, hslot⟩)).elim

theorem answer {registry : Registry Nat} (h : IsTold registries (job :: jobs) journal)
    (hm : IsMatched registries (job :: jobs))
    (hd : (registries job.operation.family).drain? job.key = some (batch, registry))
    (r : Response) :
    IsTold (drainedOf job registry registries) jobs (journal ++ [.answered job batch r]) := by
  have ho := h.openBatch_eq hm (Registry.drain?_eq_some_iff.mp hd).1
  refine ⟨h.coherent.concat (e := .answered job batch r) ho, ?_, ?_⟩
  · intro s
    rw [openBatch_concat]
    by_cases hs : job.slot = s
    · subst hs
      rw [batch?_drainedOf_self hd (hm.nodup_keys _)]
      simp [Entry.openAfter]
    · rw [batch?_drainedOf_of_ne hd hs, h.batch?_eq]
      simp [Entry.openAfter, hs]
  · intro s opened ns hopen
    rw [openBatch_concat] at hopen
    by_cases hs : job.slot = s
    · simp [Entry.openAfter, hs] at hopen
    · obtain ⟨hmem, hslot⟩ := h.outstanding (by simpa [Entry.openAfter, hs] using hopen)
      refine ⟨(List.mem_cons.mp hmem).resolve_left ?_, hslot⟩
      rintro rfl
      exact hs hslot

theorem step {b : Backend} {registries : Family → Registry Nat} {jobs : List Job}
    {journal : List Entry} (h : IsTold b.registries b.outstanding b.journal)
    (hm : IsMatched b.registries b.outstanding)
    (hs : SharingStep b registries jobs journal) : IsTold registries jobs journal := by
  cases hs with
  | kept => exact h
  | joined hb => exact h.join hb _
  | accepted hb => exact h.start hb _
  | refused hb => exact h.refuse hb _ _
  | answered ho hd =>
    rw [ho] at h hm
    exact h.answer hm hd _

end IsTold

theorem isTold_start (headers : List (Text × Text)) (clearable : Bool) (name : Text) :
    IsTold (Backend.start headers clearable name).registries
      (Backend.start headers clearable name).outstanding
      (Backend.start headers clearable name).journal where
  coherent := isCoherent_nil
  batch?_eq := fun _ => rfl
  outstanding := nofun

end SubscriptionClient
