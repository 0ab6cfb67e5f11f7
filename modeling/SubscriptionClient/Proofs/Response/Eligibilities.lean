import SubscriptionClient.Proofs.Response.Outcomes
import SubscriptionClient.Proofs.Value.Members
import SubscriptionClient.Response.Eligibility

/-!
# What is said of products

Asked about products by their names, an answer says one thing of each, in the order in which they
were first named. It says that a product is eligible or not only where it states so itself, as a
truth value under the product's own name in the body of a success.
-/

namespace SubscriptionClient

/-- Whether a response states that a product is eligible, or that it is not. -/
structure Response.States (r : Response) (product : Text) (eligible : Bool) : Prop where
  failure : r.failure = none
  status : ∃ n : Int, r.status = .int n ∧ n < 300
  body : ∃ members, r.body = .map members ∧
    Value.find? (.text product) members = some (.bool eligible)

namespace Eligibility

/-- What is said of products, once for each, in the order in which they are first named. -/
def table (verdict : Text → Eligibility) (products : List Text) : List (Value × Eligibility) :=
  products.eraseDups.map fun p => (.text p, verdict p)

theorem ofMember?_eq_eligible_iff {member : Option Value} :
    ofMember? member = .eligible ↔ member = some (.bool true) := by
  unfold ofMember?
  split <;> simp_all

theorem ofMember?_eq_ineligible_iff {member : Option Value} :
    ofMember? member = .ineligible ↔ member = some (.bool false) := by
  unfold ofMember?
  split <;> simp_all

theorem eraseDups_concat_of_mem {α : Type} [BEq α] [LawfulBEq α] {x : α} {xs : List α}
    (h : x ∈ xs) : (xs ++ [x]).eraseDups = xs.eraseDups := by
  rw [List.eraseDups_append]
  simp [List.removeAll, h]

theorem eraseDups_concat_of_notMem {α : Type} [BEq α] [LawfulBEq α] {x : α} {xs : List α}
    (h : x ∉ xs) : (xs ++ [x]).eraseDups = xs.eraseDups ++ [x] := by
  rw [List.eraseDups_append]
  simp [List.removeAll, h, List.eraseDups_cons]

theorem put_of_mem (verdict : Text → Eligibility) {p : Text} {ps : List Text} (h : p ∈ ps) :
    Value.put (.text p) (verdict p) (ps.map fun p => (.text p, verdict p)) =
      ps.map fun p => (.text p, verdict p) := by
  induction ps with
  | nil => cases h
  | cons q ps ih =>
    rw [List.map_cons, Value.put]
    by_cases hq : q = p
    · rw [hq, if_pos (Value.sameKey_text_iff.mpr rfl)]
    · have hne : ¬(Value.text q).sameKey (.text p) = true := fun hk =>
        hq (Value.text.inj (Value.sameKey_text_iff.mp hk))
      rw [if_neg hne, ih ((List.mem_cons.mp h).resolve_left (Ne.symm hq))]

theorem put_of_notMem (verdict : Text → Eligibility) {p : Text} {ps : List Text} (h : p ∉ ps) :
    Value.put (.text p) (verdict p) (ps.map fun p => (.text p, verdict p)) =
      (ps ++ [p]).map fun p => (.text p, verdict p) := by
  induction ps with
  | nil => rfl
  | cons q ps ih =>
    obtain ⟨hq, hps⟩ := not_or.mp (List.mem_cons.not.mp h)
    have hne : ¬(Value.text q).sameKey (.text p) = true := fun hk =>
      hq (Value.text.inj (Value.sameKey_text_iff.mp hk)).symm
    rw [List.map_cons, Value.put, if_neg hne, ih hps]
    rfl

theorem ofProducts_text (status : Value → Eligibility) (products : List Text) :
    ofProducts status (products.map .text) = table (fun p => status (.text p)) products := by
  unfold ofProducts Value.collect
  rw [List.map_map, List.foldl_map]
  induction products using List.reverseRecOn with
  | nil => rfl
  | append_singleton products p ih =>
    rw [List.foldl_append, ih, List.foldl_cons, List.foldl_nil, table, table]
    by_cases hp : p ∈ products
    · rw [eraseDups_concat_of_mem hp]
      exact put_of_mem (fun p => status (.text p)) (List.mem_eraseDups.mpr hp)
    · rw [eraseDups_concat_of_notMem hp]
      exact put_of_notMem (fun p => status (.text p)) (mt List.mem_eraseDups.mp hp)

end Eligibility

namespace Response

variable {r : Response} {products : List Text}

theorem checkKeys_text (products : List Text) : checkKeys (products.map .text) = .ok () := by
  have hnone : (products.map Value.text).find? (fun p => !p.isKey) = none := by
    simp [Value.isKey, Value.isSignaling]
  rw [checkKeys, hnone]

theorem unknownEligibilities_text (products : List Text) :
    unknownEligibilities (products.map .text) =
      .ok (Eligibility.table (fun _ => .unknown) products) := by
  rw [unknownEligibilities, checkKeys_text, Eligibility.ofProducts_text]
  rfl

/-- A verdict that follows a response where it states something, and is unknown otherwise. -/
def IsVerdictOf (r : Response) (verdict : Text → Eligibility) : Prop :=
  ∀ p, (verdict p = .eligible ↔ r.States p true) ∧ (verdict p = .ineligible ↔ r.States p false)

theorem isVerdictOf_unknown (h : ∀ p b, ¬r.States p b) : r.IsVerdictOf fun _ => .unknown :=
  fun p => ⟨⟨nofun, fun hs => (h p _ hs).elim⟩, ⟨nofun, fun hs => (h p _ hs).elim⟩⟩

theorem isVerdictOf_ofMember? {n : Int} {members : List (Value × Value)} (hf : r.failure = none)
    (hn : r.status = .int n) (hlt : n < 300) (hb : r.body = .map members) :
    r.IsVerdictOf fun p => .ofMember? (Value.find? (.text p) members) := by
  have hiff (p : Text) (b : Bool) :
      r.States p b ↔ Value.find? (.text p) members = some (.bool b) := by
    constructor
    · rintro ⟨-, -, members', hb', hfind⟩
      obtain rfl := Value.map.inj (hb.symm.trans hb')
      exact hfind
    · exact fun hfind => ⟨hf, ⟨n, hn, hlt⟩, members, hb, hfind⟩
  intro p
  rw [hiff, hiff]
  exact ⟨Eligibility.ofMember?_eq_eligible_iff, Eligibility.ofMember?_eq_ineligible_iff⟩

/-- Whatever the answer is like, as long as its status is a number: there is a verdict on every
product, and it follows the answer. -/
theorem exists_table_of_introEligibility {n : Int} (hn : r.status = .int n)
    (products : List Text) : ∃ verdict, r.IsVerdictOf verdict ∧
      introEligibility (products.map .text) r = .ok (Eligibility.table verdict products) := by
  have hunknown (h : ∀ p b, ¬r.States p b)
      (hr : introEligibility (products.map .text) r = unknownEligibilities (products.map .text)) :
      ∃ verdict, r.IsVerdictOf verdict ∧
        introEligibility (products.map .text) r = .ok (Eligibility.table verdict products) :=
    ⟨_, isVerdictOf_unknown h, hr.trans (unknownEligibilities_text products)⟩
  obtain ⟨status, body, failure⟩ := r
  obtain rfl : status = .int n := hn
  cases failure with
  | some f => exact hunknown (fun p b h => by cases h.failure) rfl
  | none =>
    by_cases hlt : n < 300
    · cases body with
      | map members =>
        refine ⟨_, isVerdictOf_ofMember? rfl rfl hlt rfl, ?_⟩
        simp only [introEligibility, Status.isSuccess?_int, hlt, Except.map, bind, Except.bind,
          decide_true, Bool.not_true, Bool.false_eq_true, if_false, checkKeys_text,
          Eligibility.ofProducts_text]
        rfl
      | _ =>
        refine hunknown (fun p b h => by obtain ⟨_, hb, -⟩ := h.body; cases hb) ?_
        simp only [introEligibility, Status.isSuccess?_int, hlt, Except.map, bind, Except.bind,
          decide_true, Bool.not_true, Bool.false_eq_true, if_false]
    · refine hunknown (fun p b h => ?_) ?_
      · obtain ⟨k, hk, hk'⟩ := h.status
        exact hlt (Value.int.inj hk ▸ hk')
      · simp only [introEligibility, Status.isSuccess?_int, hlt, Except.map, bind, Except.bind,
          decide_false, Bool.not_false, if_true]

end Response

end SubscriptionClient
