import SubscriptionClient.Proofs.Concurrency.Traces

/-!
# Fanning out an outcome

The outcome of a key is offered to the listings of its batch one after the other. A turn touches the
future of its own listing and adds what follows it; nobody is visited who was added on the way, and
a future that is done keeps its outcome for good.
-/

namespace SubscriptionClient

namespace FutureState

variable {α : Type} {a : α}

/-- The state of a future that an outcome was offered to. -/
def given (a : α) : FutureState α → FutureState α
  | pending => finished a
  | cancelled | cancelNoticed => cancelNoticed
  | finished b => finished b

/-- Whether a future refuses any outcome. -/
def refuses : FutureState α → Bool
  | cancelNoticed | finished _ => true
  | pending | cancelled => false

theorem given_of_refuses {s : FutureState α} (h : s.refuses = true) : s.given a = s := by
  cases s with
  | pending | cancelled => cases h
  | cancelNoticed | finished => rfl

/-- Being offered the same outcome again makes no difference. -/
theorem given_given (s : FutureState α) : (s.given a).given a = s.given a := by
  cases s <;> rfl

end FutureState

namespace Future

variable {α κ : Type}

/-- What follows a future and has not been released yet. -/
def awaiting (f : Future α κ) : List κ := if f.isDone then [] else f.followers

theorem awaiting_of_refuses {f : Future α κ} (h : f.state.refuses = true) : f.awaiting = [] := by
  obtain ⟨state, followers⟩ := f
  cases state with
  | pending | cancelled => cases h
  | cancelNoticed | finished => rfl

theorem deliver?_eq (a : α) (f : Future α κ) : f.deliver? a =
    if f.state.refuses then none
    else some (⟨f.state.given a, if f.isDone then f.followers else []⟩, f.awaiting) := by
  obtain ⟨state, followers⟩ := f
  cases state <;> rfl

end Future

namespace Coalescer

variable {α : Type} {a : α} {c d e : Coalescer α} {label key : Text} {batch : List Text}
  {added more : List FollowUp}

/-! ## Offers and registrations -/

/-- An outcome is offered to the futures of some waiters, and others are added. Nothing else
happens. -/
structure Offers (a : α) (batch : List Text) (added : List FollowUp) (c d : Coalescer α) :
    Prop where
  /-- Whoever is new is pending. -/
  state?_eq (label : Text) : d.state? label =
    ((c.state? label).map fun s => if label ∈ batch then s.given a else s).or
      (if label ∈ added.map FollowUp.label then some .pending else none)
  /-- Everyone is added under the key that is theirs, and keeps it. -/
  own {f : FollowUp} : f ∈ added → ∃ w, d.waiter? f.label = some w ∧ w.key = f.key
  keeps_key {label : Text} {w : Waiter α} : c.waiter? label = some w →
    ∃ v, d.waiter? label = some v ∧ v.key = w.key
  registry_eq : d.registry = registerAll added c.registry
  followed_eq : d.followed.map Prod.fst = c.followed.map Prod.fst ++ added.map FollowUp.label

theorem state?_eq_none_iff : c.state? label = none ↔ c.waiter? label = none := by
  rw [state?, Option.map_eq_none_iff]

namespace Offers

theorem refl (a : α) (c : Coalescer α) : Offers a [] [] c c where
  state?_eq := by simp
  own := nofun
  keeps_key := fun hw => ⟨_, hw, rfl⟩
  registry_eq := rfl
  followed_eq := (List.append_nil _).symm

/-- The second time, nobody may be visited who was added the first time. -/
theorem trans {batch batch' : List Text} (h : Offers a batch added c d)
    (h' : Offers a batch' more d e) (hknown : ∀ label ∈ batch', c.state? label ≠ none) :
    Offers a (batch ++ batch') (added ++ more) c e where
  state?_eq := by
    intro label
    rw [h'.state?_eq, h.state?_eq, List.map_append]
    cases hs : c.state? label with
    | some s =>
      by_cases hl : label ∈ batch <;> by_cases hl' : label ∈ batch' <;>
        simp [hl, hl', FutureState.given_given]
    | none =>
      have hl' : label ∉ batch' := fun hmem => hknown label hmem hs
      by_cases hadded : label ∈ added.map FollowUp.label
      · simp only [List.mem_append, hadded, hl', if_true, if_false, true_or, Option.map_none,
          Option.map_some, Option.none_or, Option.some_or]
      · simp only [List.mem_append, hadded, if_false, false_or, Option.map_none, Option.none_or]
  own := by
    intro f hf
    rcases List.mem_append.mp hf with hf | hf
    · obtain ⟨w, hw, hkey⟩ := h.own hf
      obtain ⟨v, hv, hkey'⟩ := h'.keeps_key hw
      exact ⟨v, hv, hkey'.trans hkey⟩
    · exact h'.own hf
  keeps_key := by
    intro label w hw
    obtain ⟨v, hv, hkey⟩ := h.keeps_key hw
    obtain ⟨u, hu, hkey'⟩ := h'.keeps_key hv
    exact ⟨u, hu, hkey'.trans hkey⟩
  registry_eq := by
    rw [h'.registry_eq, h.registry_eq, registerAll, registerAll, registerAll, List.foldl_append]
  followed_eq := by
    rw [h'.followed_eq, h.followed_eq, List.map_append, List.append_assoc]

end Offers

theorem state?_follow (f : FollowUp) (c : Coalescer α) (label : Text) :
    (c.follow f).state? label =
      (c.state? label).or (if f.label = label then some .pending else none) := by
  unfold follow register
  cases hf : c.waiter? f.label with
  | some w =>
    by_cases hl : f.label = label
    · subst hl
      simp only [state?, waiter?] at hf ⊢
      rw [hf, Option.map_some, Option.some_or]
    · simp [state?, waiter?, hl]
  | none =>
    have hsingle : List.find? (·.label == label) [(⟨f.label, f.key, .pending⟩ : Waiter α)] =
        if f.label = label then some ⟨f.label, f.key, .pending⟩ else none := by
      by_cases hl : f.label = label <;> simp [hl]
    rw [state?, waiter?, List.find?_append, hsingle, Option.map_or, state?, waiter?]
    by_cases hl : f.label = label <;> simp [hl, Future.pending]

theorem offers_follow (a : α) (f : FollowUp) (c : Coalescer α) :
    Offers a [] [⟨f.label, c.ownKey f.label f.key⟩] c (c.follow f) := by
  obtain ⟨⟨w, hw, hkey⟩, hkept⟩ := exists_waiter?_register f.label f.key c
  refine ⟨fun label => ?_, fun hf => ?_, fun hv => ⟨_, hkept _ _ hv, rfl⟩,
    (register_eq f.label f.key c).1, ?_⟩
  · simp [state?_follow, eq_comm]
  · obtain rfl := List.mem_singleton.mp hf
    exact ⟨w, hw, hkey⟩
  · have hfollowed : (c.register f.label f.key).1.followed = c.followed := by
      unfold register
      split <;> rfl
    simp [follow, hfollowed]

theorem exists_offers_followAll (a : α) (fs : List FollowUp) (c : Coalescer α) :
    ∃ added, added.map FollowUp.label = fs.map FollowUp.label ∧
      Offers a [] added c (c.followAll fs) := by
  induction fs generalizing c with
  | nil => exact ⟨[], rfl, .refl a c⟩
  | cons f fs ih =>
    obtain ⟨added, hlabels, hoffers⟩ := ih (c.follow f)
    exact ⟨_ :: added, by simp [hlabels], (offers_follow a f c).trans hoffers nofun⟩

theorem offers_setFuture {w : Waiter α} (hw : c.waiter? w.label = some w)
    {future : Future α FollowUp} (h : future.state = w.future.state.given a) :
    Offers a [w.label] [] c (c.setFuture w.label future) := by
  refine ⟨fun label => ?_, nofun, fun {label v} hv => ?_, rfl, (List.append_nil _).symm⟩
  · rw [state?, waiter?_setFuture, state?]
    cases hv : c.waiter? label with
    | none => rfl
    | some v =>
      obtain rfl := label_of_waiter? hv
      by_cases hl : v.label = w.label
      · rw [← hl, hv] at hw
        obtain rfl := Option.some.inj hw
        simp [h]
      · simp [hl]
  · rw [waiter?_setFuture, hv]
    refine ⟨_, rfl, ?_⟩
    by_cases hl : v.label = w.label <;> simp [hl]

theorem offers_refused {w : Waiter α} (hw : c.waiter? w.label = some w)
    (hr : w.future.state.refuses = true) : Offers a [w.label] [] c c where
  state?_eq := by
    intro label
    rw [state?]
    cases hv : c.waiter? label with
    | none => rfl
    | some v =>
      obtain rfl := label_of_waiter? hv
      by_cases hl : v.label = w.label
      · rw [← hl, hv] at hw
        obtain rfl := Option.some.inj hw
        simp [FutureState.given_of_refuses hr]
      · simp [hl]
  own := nofun
  keeps_key := fun hv => ⟨_, hv, rfl⟩
  registry_eq := rfl
  followed_eq := (List.append_nil _).symm

/-! ## Turns -/

/-- A waiter has its turn: an outcome is offered to its future, and whatever follows the future and
has not been released yet is added. -/
structure Turn (a : α) (w : Waiter α) (added : List FollowUp) (c d : Coalescer α) : Prop where
  waiter?_eq : c.waiter? w.label = some w
  deliver_eq : c.deliver w.label a =
    if w.future.state.refuses then .error .futureSettled else .ok d
  unchanged : w.future.state.refuses = true → d = c
  added_eq : added.map FollowUp.label = w.future.awaiting.map FollowUp.label
  offers : Offers a [w.label] added c d

/-- The listings of a batch have their turns in order. -/
inductive Turns (a : α) : List Text → List FollowUp → Coalescer α → Coalescer α → Prop where
  | done (c : Coalescer α) : Turns a [] [] c c
  | next {c d e : Coalescer α} {w : Waiter α} {batch : List Text} {added more : List FollowUp}
    (h : Turn a w added c d) (hs : Turns a batch more d e) :
    Turns a (w.label :: batch) (added ++ more) c e

theorem exists_turn {w : Waiter α} (hw : c.waiter? label = some w) (a : α) :
    ∃ added, Turn a w added c (c.tryDeliver a label) := by
  obtain rfl := label_of_waiter? hw
  by_cases hr : w.future.state.refuses = true
  · have hdeliver : c.deliver w.label a = .error .futureSettled := by
      simp [deliver, hw, Future.deliver?_eq, hr]
    rw [tryDeliver, hdeliver]
    exact ⟨[], hw, by rw [hdeliver, if_pos hr], fun _ => rfl, by
      rw [Future.awaiting_of_refuses hr], offers_refused hw hr⟩
  · have hset : Offers a [w.label] [] c (c.setFuture w.label
        ⟨w.future.state.given a, if w.future.isDone then w.future.followers else []⟩) :=
      offers_setFuture hw rfl
    obtain ⟨added, hlabels, hfollow⟩ := exists_offers_followAll a w.future.awaiting
      (c.setFuture w.label
        ⟨w.future.state.given a, if w.future.isDone then w.future.followers else []⟩)
    have hdeliver : c.deliver w.label a = .ok ((c.setFuture w.label
        ⟨w.future.state.given a, if w.future.isDone then w.future.followers else []⟩).followAll
          w.future.awaiting) := by
      simp [deliver, hw, Future.deliver?_eq, hr]
    rw [tryDeliver, hdeliver]
    exact ⟨added, hw, by rw [hdeliver, if_neg hr], fun h => (hr h).elim, hlabels,
      hset.trans hfollow (by simp)⟩

theorem Offers.state?_ne_none (h : Offers a batch added c d) (hs : c.state? label ≠ none) :
    d.state? label ≠ none := by
  obtain ⟨s, hs⟩ := Option.ne_none_iff_exists'.mp hs
  simp [h.state?_eq, hs]

theorem exists_turns (hknown : ∀ label ∈ batch, c.state? label ≠ none) (a : α) :
    ∃ added, Turns a batch added c (c.visitAll (fun label => deliver label a) batch) := by
  induction batch generalizing c with
  | nil => exact ⟨[], .done c⟩
  | cons label batch ih =>
    obtain ⟨hfirst, hrest⟩ := List.forall_mem_cons.mp hknown
    obtain ⟨w, hw⟩ := Option.ne_none_iff_exists'.mp (fun h => hfirst (state?_eq_none_iff.mpr h))
    obtain ⟨added, hturn⟩ := exists_turn hw a
    obtain ⟨more, hturns⟩ := ih (c := c.tryDeliver a label) fun other hother =>
      hturn.offers.state?_ne_none (hrest other hother)
    obtain rfl := label_of_waiter? hw
    exact ⟨added ++ more, .next hturn hturns⟩

theorem Turns.offers (h : Turns a batch added c d)
    (hknown : ∀ label ∈ batch, c.state? label ≠ none) : Offers a batch added c d := by
  induction h with
  | done c => exact .refl a c
  | next hturn _ ih =>
    obtain ⟨-, hrest⟩ := List.forall_mem_cons.mp hknown
    exact hturn.offers.trans
      (ih fun label hlabel => hturn.offers.state?_ne_none (hrest label hlabel)) hrest

/-! ## Afterwards -/

theorem getD_batch?_registerAll (fs : List FollowUp) (r : Registry Text) (key : Text) :
    ((registerAll fs r).batch? key).getD [] =
      (r.batch? key).getD [] ++ (fs.filter (·.key = key)).map FollowUp.label := by
  induction fs generalizing r with
  | nil => simp [registerAll]
  | cons f fs ih =>
    have hstep : registerAll (f :: fs) r = registerAll fs (r.register f.key f.label).1 := rfl
    rw [hstep, ih]
    by_cases hk : f.key = key
    · rw [← hk, Registry.batch?_register_self]
      simp
    · rw [Registry.batch?_register_of_ne hk]
      simp [hk]

theorem contains_registerAll_iff (fs : List FollowUp) (r : Registry Text) (key : Text) :
    (registerAll fs r).contains key = true ↔
      r.contains key = true ∨ ∃ f ∈ fs, f.key = key := by
  induction fs generalizing r with
  | nil => simp [registerAll]
  | cons f fs ih =>
    have hstep : registerAll (f :: fs) r = registerAll fs (r.register f.key f.label).1 := rfl
    rw [hstep, ih, Registry.contains, Registry.contains]
    by_cases hk : f.key = key
    · rw [← hk, Registry.batch?_register_self]
      simp
    · rw [Registry.batch?_register_of_ne hk]
      simp [hk]

/-- An outcome is fanned out to the batch of a key; the callers in `added` are added meanwhile. -/
structure FansOut (key : Text) (a : α) (batch : List Text) (added : List FollowUp)
    (c d : Coalescer α) : Prop where
  /-- The batch is out before the first turn, and its listings alone have turns. -/
  turns : ∃ drained, c.drain key = .ok (batch, drained) ∧
    drained.registry.contains key = false ∧ Turns a batch added drained d
  /-- Whoever was pending has the outcome, and whoever was done is as before. -/
  state?_eq (label : Text) : d.state? label =
    ((c.state? label).map fun s => if label ∈ batch then s.given a else s).or
      (if label ∈ added.map FollowUp.label then some .pending else none)
  own {f : FollowUp} : f ∈ added → ∃ w, d.waiter? f.label = some w ∧ w.key = f.key
  /-- The key is in flight again only if somebody was added under it. -/
  contains_iff (k : Text) : d.registry.contains k = true ↔
    (k ≠ key ∧ c.registry.contains k = true) ∨ ∃ f ∈ added, f.key = k
  getD_batch?_eq (k : Text) : (d.registry.batch? k).getD [] =
    (if k = key then [] else (c.registry.batch? k).getD []) ++
      (added.filter (·.key = k)).map FollowUp.label

theorem IsSound.fansOut (h : c.IsSound) (hb : c.registry.batch? key = some batch) (a : α) :
    ∃ d added, c.settle key a = .ok (batch, d) ∧ FansOut key a batch added c d := by
  have hdrain := Registry.drain?_eq_some_iff.mpr ⟨hb, rfl⟩
  have hself := Registry.batch?_of_drain?_self hdrain h.nodup_keys
  have hother : ∀ k, k ≠ key → _ := fun k hk => Registry.batch?_of_drain?_of_ne hdrain (Ne.symm hk)
  have hdrained : c.drain key = .ok (batch,
      { c with registry := ⟨Registry.removeIn key c.registry.entries⟩ }) := by
    rw [drain, hdrain]
  have hknown : ∀ label ∈ batch, c.state? label ≠ none := by
    intro label hmem hnone
    obtain ⟨w, hw⟩ := h.known (Registry.mem_waiting_of_batch? hb hmem)
    rw [state?_eq_none_iff, hw] at hnone
    cases hnone
  obtain ⟨added, hturns⟩ := exists_turns
    (c := { c with registry := ⟨Registry.removeIn key c.registry.entries⟩ }) hknown a
  have hoffers := hturns.offers hknown
  refine ⟨_, added, ?_, ⟨_, hdrained, ?_, hturns⟩, hoffers.state?_eq, hoffers.own, fun k => ?_,
    fun k => ?_⟩
  · rw [Coalescer.settle, Coalescer.perform, hdrained]
    rfl
  · simp [Registry.contains, hself]
  · rw [hoffers.registry_eq, contains_registerAll_iff]
    by_cases hk : k = key
    · simp [hk, Registry.contains, hself]
    · simp [hk, Registry.contains, hother k hk]
  · rw [hoffers.registry_eq, getD_batch?_registerAll]
    by_cases hk : k = key
    · simp [hk, hself]
    · simp [hk, hother k hk]

/-! ## Later on -/

/-- Futures become what they may become, and no future is lost. -/
def Keeps (c d : Coalescer α) : Prop :=
  ∀ label s, c.state? label = some s → ∃ t, d.state? label = some t ∧ s.Becomes t

namespace Keeps

theorem refl (c : Coalescer α) : Keeps c c := fun _ s hs => ⟨s, hs, .same s⟩

theorem trans (h : Keeps c d) (h' : Keeps d e) : Keeps c e := by
  intro label s hs
  obtain ⟨t, ht, hst⟩ := h label s hs
  obtain ⟨u, hu, htu⟩ := h' label t ht
  exact ⟨u, hu, hst.trans htu⟩

end Keeps

theorem keeps_register (label key : Text) (c : Coalescer α) :
    Keeps c (c.register label key).1 := by
  intro other s hs
  obtain ⟨w, hw, rfl⟩ := Option.map_eq_some_iff.mp hs
  have hkept := (exists_waiter?_register label key c).2 other w hw
  exact ⟨_, by rw [state?, hkept, Option.map_some], .same _⟩

theorem keeps_setFuture {w : Waiter α} {future : Future α FollowUp} (hw : c.waiter? label = some w)
    (h : w.future.state.Becomes future.state) : Keeps c (c.setFuture label future) := by
  intro other s hs
  obtain ⟨v, hv, rfl⟩ := Option.map_eq_some_iff.mp hs
  rw [state?, waiter?_setFuture, hv]
  obtain rfl := label_of_waiter? hv
  by_cases hl : v.label = label
  · rw [← hl, hv] at hw
    obtain rfl := Option.some.inj hw
    exact ⟨future.state, by simp [hl], h⟩
  · exact ⟨v.future.state, by simp [hl], .same _⟩

theorem keeps_followAll (fs : List FollowUp) (c : Coalescer α) : Keeps c (c.followAll fs) := by
  induction fs generalizing c with
  | nil => exact .refl c
  | cons f fs ih => exact Keeps.trans (keeps_register f.label f.key c) (ih (c.follow f))

theorem keeps_visitAll {visit : Text → Coalescer α → Except Fault (Coalescer α)}
    (hv : ∀ label x y, visit label x = .ok y → Keeps x y) (batch : List Text) (c : Coalescer α) :
    Keeps c (c.visitAll visit batch) := by
  induction batch generalizing c with
  | nil => exact .refl c
  | cons label batch ih =>
    rw [visitAll, List.foldl_cons]
    cases hd : visit label c with
    | ok d => exact (hv label c d hd).trans (ih d)
    | error fault => exact ih c

theorem Later.keeps (h : Later c d) : Keeps c d := by
  induction h with
  | refl c => exact .refl c
  | trans _ _ ih ih' => exact ih.trans ih'
  | registered c label key => exact keeps_register label key c
  | cancelled hd =>
    unfold cancel at hd
    split at hd
    · rename_i w hw
      obtain ⟨rfl, -⟩ := Prod.mk.inj (Except.ok.inj hd)
      exact (keeps_setFuture hw w.future.becomes_cancel).trans (keeps_followAll _ _)
    · cases hd
  | delivered hd =>
    unfold deliver at hd
    split at hd
    · rename_i w hw
      split at hd
      · rename_i hdeliver
        obtain rfl := Except.ok.inj hd
        exact (keeps_setFuture hw (Future.becomes_of_deliver? hdeliver)).trans
          (keeps_followAll _ _)
      · cases hd
    · cases hd
  | followed hd =>
    unfold onDone at hd
    split at hd
    · rename_i w hw
      split at hd
      · rename_i hfollowed
        obtain rfl := Except.ok.inj hd
        refine keeps_setFuture hw ?_
        rw [Future.state_of_followedBy? hfollowed]
        exact .same _
      · obtain rfl := Except.ok.inj hd
        exact keeps_register _ _ _
    · cases hd
  | drained hd =>
    obtain ⟨registry, -, rfl⟩ := exists_of_drain hd
    exact .refl _
  | @performed c d key batch visit _ hd ih =>
    unfold perform at hd
    cases hdrain : c.drain key with
    | error fault =>
      rw [hdrain] at hd
      cases hd
    | ok drained =>
      obtain ⟨registry, -, hdrained⟩ := exists_of_drain hdrain
      rw [hdrain] at hd
      obtain ⟨rfl, rfl⟩ := Prod.mk.inj (Except.ok.inj hd)
      rw [hdrained]
      have hout : Keeps c { c with registry } := .refl c
      exact hout.trans (keeps_visitAll ih _ _)

/-- Whatever was done before with a coalescer and its futures, an outcome is fanned out to the batch
of a key in one turn for each listing; and a future that is done keeps its outcome, whatever is done
with the coalescer later. -/
theorem fan_out_and_stay_put {name : Text} (h : Later (ofName name) c) :
    (∀ (key : Text) (batch : List Text) (a : α), c.registry.batch? key = some batch →
      ∃ d added, c.settle key a = .ok (batch, d) ∧ FansOut key a batch added c d) ∧
    ∀ (d : Coalescer α) (label : Text) (s : FutureState α), Later c d →
      c.state? label = some s → s.isDone = true →
      ∃ t, d.state? label = some t ∧ t.isDone = true ∧ t.outcome? = s.outcome? ∧
        t.isCancelled = s.isCancelled := by
  have hsound : c.IsSound := h.isSound (isSound_ofName name)
  refine ⟨fun key batch a hb => hsound.fansOut hb a, fun d label s hlater hs hdone => ?_⟩
  obtain ⟨t, ht, hbecomes⟩ := hlater.keeps label s hs
  exact ⟨t, ht, hbecomes.isDone hdone, hbecomes.outcome?_eq hdone, hbecomes.isCancelled_eq hdone⟩

/-- A waiter that is listed twice and is followed by a third under the same key, one whose future is
cancelled, and one that was given another outcome already. -/
def mixed : Coalescer Nat :=
  ⟨defaultName, ⟨[("key".toText, ["twice".toText, "cancelled".toText, "twice".toText,
    "early".toText])]⟩,
    [⟨"twice".toText, "key".toText, ⟨.pending, [⟨"third".toText, "key".toText⟩]⟩⟩,
      ⟨"cancelled".toText, "key".toText, ⟨.cancelled, []⟩⟩,
      ⟨"early".toText, "key".toText, ⟨.finished 7, []⟩⟩], []⟩

theorem later_mixed : Later (ofName defaultName) mixed := by
  have hadded : Later (ofName defaultName) ((((ofName defaultName : Coalescer Nat).register
      "twice".toText "key".toText).1.register "cancelled".toText "key".toText).1.register
      "twice".toText "key".toText).1 :=
    (Later.trans (.registered _ _ _) (.registered _ _ _)).trans (.registered _ _ _)
  have hall := hadded.trans (.registered _ "early".toText "key".toText)
  have hfollowed := hall.trans
    (@Later.followed Nat _ _ "twice".toText ⟨"third".toText, "key".toText⟩ rfl)
  have hcancelled := hfollowed.trans (@Later.cancelled Nat _ _ "cancelled".toText true rfl)
  exact hcancelled.trans (@Later.delivered Nat _ _ "early".toText 7 rfl)

theorem fan_out_to_mixed :
    Later (ofName defaultName) mixed ∧
      ∃ d added, mixed.settle "key".toText 1 =
        .ok (["twice".toText, "cancelled".toText, "twice".toText, "early".toText], d) ∧
      FansOut "key".toText 1
        ["twice".toText, "cancelled".toText, "twice".toText, "early".toText] added mixed d ∧
      d.state? "twice".toText = some (.finished 1) ∧
      d.state? "cancelled".toText = some .cancelNoticed ∧
      d.state? "early".toText = some (.finished 7) ∧
      d.state? "third".toText = some .pending ∧
      d.registry.batch? "key".toText = some ["third".toText] := by
  obtain ⟨d, added, hd, hfans⟩ :=
    (fan_out_and_stay_put later_mixed).1 "key".toText _ 1 (by rfl)
  refine ⟨later_mixed, d, added, hd, hfans, ?_⟩
  obtain rfl := (Prod.mk.inj (Except.ok.inj hd)).2
  exact ⟨rfl, rfl, rfl, rfl, rfl⟩

end Coalescer

end SubscriptionClient
