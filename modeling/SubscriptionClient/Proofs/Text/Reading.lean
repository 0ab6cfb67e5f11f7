import Mathlib.Data.List.TakeWhile

/-!
# Reading off codes

A code is read off from the left when no code word begins another one. What is written word by word
in such a code can be read back, whatever comes after it, as long as that does not begin with a code
word itself.
-/

namespace SubscriptionClient

variable {α β : Type} {p : α → Prop} {code : α → List β} {a b : α} {as bs : List α} {r s : List β}

/-- Whether the code words of these items can be read off from the left. -/
def IsPrefixFree (p : α → Prop) (code : α → List β) : Prop :=
  ∀ a b r s, p a → p b → code a ++ r = code b ++ s → a = b

/-- Whether a list does not begin with a code word. -/
def IsStop (p : α → Prop) (code : α → List β) (r : List β) : Prop :=
  ∀ a s, p a → code a ++ s ≠ r

theorem isStop_nil (h : ∀ a, p a → code a ≠ []) : IsStop p code [] := by
  intro a s ha heq
  exact h a ha (List.append_eq_nil_iff.mp heq).1

theorem isStop_cons {z : β} (hne : ∀ a, p a → code a ≠ [])
    (hz : ∀ a, p a → (code a).head? ≠ some z) (r : List β) : IsStop p code (z :: r) := by
  intro a s ha heq
  cases hc : code a with
  | nil => exact hne a ha hc
  | cons y ys =>
    rw [hc, List.cons_append] at heq
    apply hz a ha
    rw [hc, List.head?_cons, (List.cons.inj heq).1]

namespace IsPrefixFree

theorem append_inj (h : IsPrefixFree p code) (ha : p a) (hb : p b)
    (heq : code a ++ r = code b ++ s) : a = b ∧ r = s := by
  have hab := h a b r s ha hb heq
  subst hab
  exact ⟨rfl, List.append_cancel_left heq⟩

theorem flatMap_append_inj (h : IsPrefixFree p code) (hr : IsStop p code r)
    (hs : IsStop p code s) (ha : ∀ a ∈ as, p a) (hb : ∀ b ∈ bs, p b)
    (heq : as.flatMap code ++ r = bs.flatMap code ++ s) : as = bs ∧ r = s := by
  induction as generalizing bs with
  | nil =>
    cases bs with
    | nil => exact ⟨rfl, heq⟩
    | cons b bs =>
      rw [List.flatMap_cons, List.append_assoc] at heq
      exact (hr b _ (hb b List.mem_cons_self) heq.symm).elim
  | cons a as ih =>
    cases bs with
    | nil =>
      rw [List.flatMap_cons, List.append_assoc] at heq
      exact (hs a _ (ha a List.mem_cons_self) heq).elim
    | cons b bs =>
      rw [List.flatMap_cons, List.flatMap_cons, List.append_assoc, List.append_assoc] at heq
      obtain ⟨rfl, hrest⟩ := h.append_inj (ha a List.mem_cons_self) (hb b List.mem_cons_self) heq
      have has : ∀ a ∈ as, p a := fun a' h' => ha a' (List.mem_cons_of_mem a h')
      have hbs : ∀ b ∈ bs, p b := fun b' h' => hb b' (List.mem_cons_of_mem a h')
      obtain ⟨rfl, hrs⟩ := ih has hbs hrest
      exact ⟨rfl, hrs⟩

theorem flatMap_inj (h : IsPrefixFree p code) (hne : ∀ a, p a → code a ≠ [])
    (ha : ∀ a ∈ as, p a) (hb : ∀ b ∈ bs, p b) (heq : as.flatMap code = bs.flatMap code) :
    as = bs := by
  have hstop := isStop_nil hne
  refine (h.flatMap_append_inj hstop hstop ha hb ?_).1
  rw [List.append_nil, List.append_nil, heq]

end IsPrefixFree

/-- Lists with the same images are the same when no two of their items are confused. -/
theorem eq_of_map_eq {f : α → β} (hf : ∀ a ∈ as, ∀ b ∈ bs, f a = f b → a = b)
    (h : as.map f = bs.map f) : as = bs := by
  induction as generalizing bs with
  | nil => exact (List.map_eq_nil_iff.mp h.symm).symm
  | cons a as ih =>
    cases bs with
    | nil => simp at h
    | cons b bs =>
      obtain ⟨hab, hrest⟩ := List.cons.inj h
      obtain rfl := hf a List.mem_cons_self b List.mem_cons_self hab
      rw [ih (fun a' h' b' h'' => hf a' (List.mem_cons_of_mem a h') b' (List.mem_cons_of_mem a h''))
        hrest]

/-! ## Runs -/

section Runs

variable {q : β → Bool} {t u : List β}

/-- Whether a list does not begin with an item of a class. -/
def EndsRun (q : β → Bool) (r : List β) : Prop := ∀ z, r.head? = some z → q z = false

theorem endsRun_nil : EndsRun q [] := nofun

theorem endsRun_cons {z : β} (hz : q z = false) (r : List β) : EndsRun q (z :: r) := by
  intro z' hz'
  obtain rfl := Option.some.inj hz'
  exact hz

theorem takeWhile_append_of_endsRun (ht : ∀ z ∈ t, q z = true) (hr : EndsRun q r) :
    (t ++ r).takeWhile q = t := by
  rw [List.takeWhile_append_of_pos ht]
  cases r with
  | nil => simp
  | cons z r => simp [hr z rfl]

theorem dropWhile_append_of_endsRun (ht : ∀ z ∈ t, q z = true) (hr : EndsRun q r) :
    (t ++ r).dropWhile q = r := by
  rw [List.dropWhile_append_of_pos ht]
  cases r with
  | nil => rfl
  | cons z r => simp [hr z rfl]

/-- A run of items of a class ends where other items begin. -/
theorem run_append_inj (ht : ∀ z ∈ t, q z = true) (hu : ∀ z ∈ u, q z = true) (hr : EndsRun q r)
    (hs : EndsRun q s) (h : t ++ r = u ++ s) : t = u ∧ r = s := by
  have htake := congrArg (List.takeWhile q) h
  rw [takeWhile_append_of_endsRun ht hr, takeWhile_append_of_endsRun hu hs] at htake
  rw [htake] at h
  exact ⟨htake, List.append_cancel_left h⟩

end Runs

/-! ## Separated parts -/

section Separated

variable {e : List β → Prop} {x y : β} {ts us : List (List β)}

theorem intercalate_cons (x : β) (t : List β) (ts : List (List β)) :
    List.intercalate [x] (t :: ts) = t ++ ts.flatMap (x :: ·) := by
  induction ts generalizing t with
  | nil => simp
  | cons u ts ih => rw [List.intercalate_cons_cons, ih, List.flatMap_cons, List.append_assoc]; rfl

theorem exists_intercalate_cons (x y : β) (t : List β) (ts : List (List β)) (r : List β) :
    ∃ l, List.intercalate [x] (t :: ts) ++ y :: r = t ++ l ∧
      (ts = [] ∧ l = y :: r ∨ ts ≠ [] ∧ l = x :: (List.intercalate [x] ts ++ y :: r)) := by
  cases ts with
  | nil => exact ⟨y :: r, by simp [List.intercalate], .inl ⟨rfl, rfl⟩⟩
  | cons u ts => exact ⟨_, by simp [List.intercalate], .inr ⟨nofun, rfl⟩⟩

/-- Whether parts begin with something, but not with the mark `y`. -/
def AvoidsMark (y : β) (ts : List (List β)) : Prop := ∀ t ∈ ts, ∃ z l, t = z :: l ∧ z ≠ y

theorem AvoidsMark.append_ne {t l l' : List β} (h : AvoidsMark y ts) (ht : t ∈ ts) :
    t ++ l ≠ y :: l' := by
  intro heq
  obtain ⟨z, l'', rfl, hz⟩ := h t ht
  exact hz (List.cons.inj heq).1

/-- Parts with the separator `x` between them and the mark `y` at their end. What may follow a part
is described by `e`. -/
theorem intercalate_append_inj (hxy : x ≠ y) (hx : ∀ l, e (x :: l)) (hy : ∀ l, e (y :: l))
    (hq : ∀ t ∈ ts, ∀ u ∈ us, ∀ r s, e r → e s → t ++ r = u ++ s → t = u)
    (ht : AvoidsMark y ts) (hu : AvoidsMark y us)
    (heq : List.intercalate [x] ts ++ y :: r = List.intercalate [x] us ++ y :: s) :
    ts = us ∧ r = s := by
  induction ts generalizing us with
  | nil =>
    cases us with
    | nil => exact ⟨rfl, (List.cons.inj heq).2⟩
    | cons u us =>
      obtain ⟨l, hl, -⟩ := exists_intercalate_cons x y u us s
      exact (hu.append_ne List.mem_cons_self (hl.symm.trans heq.symm)).elim
  | cons t ts ih =>
    obtain ⟨l, hl, hrest⟩ := exists_intercalate_cons x y t ts r
    cases us with
    | nil => exact (ht.append_ne List.mem_cons_self (hl.symm.trans heq)).elim
    | cons u us =>
      obtain ⟨l', hl', hrest'⟩ := exists_intercalate_cons x y u us s
      have he : e l := by
        rcases hrest with ⟨-, rfl⟩ | ⟨-, rfl⟩
        · exact hy r
        · exact hx _
      have he' : e l' := by
        rcases hrest' with ⟨-, rfl⟩ | ⟨-, rfl⟩
        · exact hy s
        · exact hx _
      rw [hl, hl'] at heq
      obtain rfl := hq t List.mem_cons_self u List.mem_cons_self l l' he he' heq
      have hll := List.append_cancel_left heq
      rcases hrest with ⟨rfl, rfl⟩ | ⟨hts, rfl⟩ <;> rcases hrest' with ⟨rfl, rfl⟩ | ⟨hus, rfl⟩
      · exact ⟨rfl, (List.cons.inj hll).2⟩
      · exact (hxy (List.cons.inj hll).1.symm).elim
      · exact (hxy (List.cons.inj hll).1).elim
      · obtain ⟨rfl, hrs⟩ := ih
          (fun t' h' u' h'' => hq t' (List.mem_cons_of_mem t h') u' (List.mem_cons_of_mem t h''))
          (fun t' h' => ht t' (List.mem_cons_of_mem t h'))
          (fun u' h' => hu u' (List.mem_cons_of_mem t h')) (List.cons.inj hll).2
        exact ⟨rfl, hrs⟩

end Separated

end SubscriptionClient
