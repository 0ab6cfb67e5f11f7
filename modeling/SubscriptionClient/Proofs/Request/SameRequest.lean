import SubscriptionClient.Proofs.Request.PlainCalls

/-!
# One key, one request

Two accepted plain calls have one key exactly when what they would send is the same: the method, the
path, and the body up to the order of members at every depth. The only exception is a collision of
the digest, and even then the endpoint, the method and the path are the same.
-/

namespace SubscriptionClient

open Value RequestKey

/-- Whether two requests are the same up to the order of members in their bodies. -/
structure Sent.Same (s t : Sent) : Prop where
  method : s.method = t.method
  path : s.path = t.path
  body : Option.Rel SameJson s.body t.body

namespace Operation

/-- An operation without a product, with its identity, its body and its key. -/
structure IsKeyed (o : Operation) (key : Text) (identity body : Value) : Prop where
  identity_eq : o.identity? = .ok identity
  isCanonical : identity.IsCanonical
  body_eq : o.body = .ok body
  product_eq : o.product? = none
  slash_notMem : Endpoint.slash ∉ o.user
  key_eq : key = keyOf o.method o.path identity

variable {o p : Operation} {key key' : Text} {v w b c : Value}

theorem user_eq (he : o.endpoint = p.endpoint)
    (h : Endpoint.segments o.user o.endpoint = Endpoint.segments p.user p.endpoint) :
    o.user = p.user := by
  cases o <;> cases p <;> cases he <;>
    simp only [endpoint, Endpoint.segments, List.cons.injEq] at h ⊢
  all_goals first | rfl | exact h.2.1

namespace IsKeyed

theorem endpoint_eq (ho : o.IsKeyed key v b) (hp : p.IsKeyed key' w c)
    (hm : o.method = p.method) (hpath : o.path = p.path) :
    o.endpoint = p.endpoint ∧ o.user = p.user := by
  have hsegments : Endpoint.segments o.user o.endpoint = Endpoint.segments p.user p.endpoint := by
    apply Endpoint.segments_eq_of_pathOf_eq ho.slash_notMem hp.slash_notMem
    rw [← path_eq, ← path_eq, hpath]
  have hendpoint : o.endpoint = p.endpoint := by
    refine Endpoint.eq_of_segments_eq ?_ hsegments
    rw [← method_eq, ← method_eq, hm]
  exact ⟨hendpoint, user_eq hendpoint hsegments⟩

theorem isNull_eq (h : o.IsKeyed key v b) : v.isNull = decide (o.method = .get) :=
  isNull_identity o h.identity_eq

/-- Two keys are equal when the methods and the paths are, and the digests in a post. -/
theorem key_eq_iff (ho : o.IsKeyed key v b) (hp : p.IsKeyed key' w c) :
    key = key' ↔ o.method = p.method ∧ o.path = p.path ∧
      (o.method = .post → Sha256.hexDigest (payload v) = Sha256.hexDigest (payload w)) := by
  have hv := ho.isNull_eq
  have hw := hp.isNull_eq
  rw [ho.key_eq, hp.key_eq]
  by_cases hm : o.method = p.method
  · rw [← hm] at hw ⊢
    cases hmethod : o.method with
    | get =>
      rw [hmethod] at hv hw
      obtain rfl := eq_null_of_isNull hv
      obtain rfl := eq_null_of_isNull hw
      rw [keyOf_null_eq_iff]
      exact ⟨fun h => ⟨rfl, h, nofun⟩, fun h => h.2.1⟩
    | post =>
      rw [hmethod] at hv hw
      rw [keyOf_eq_iff hv hw]
      exact ⟨fun h => ⟨rfl, h.1, fun _ => h.2⟩, fun h => ⟨h.2.1, h.2.2 rfl⟩⟩
  · exact ⟨fun h => absurd (method_eq_of_keyOf_eq h) hm, fun h => absurd h.1 hm⟩

/-- What is sent for an operation: its method and path, and in a post its body. -/
theorem exists_prepare_eq (h : o.IsKeyed key v b) (headers : List (Text × Text)) :
    ∃ s, o.exchange.prepare headers = .ok s ∧ s.method = o.method ∧ s.path = o.path ∧
      s.body = if o.method = .get then none else some b := by
  have hbody : o.exchange.body = .ok b := h.body_eq
  unfold Exchange.prepare
  cases hm : o.method with
  | get =>
    have hm' : o.exchange.method = .get := hm
    rw [hm']
    exact ⟨_, rfl, rfl, rfl, rfl⟩
  | post =>
    have hm' : o.exchange.method = .post := hm
    rw [hm', hbody]
    exact ⟨_, rfl, rfl, rfl, rfl⟩

theorem sameJson_iff (ho : o.IsKeyed key v b) (hp : p.IsKeyed key' w c)
    (he : o.endpoint = p.endpoint) (hm : o.method = .post) : SameJson b c ↔ SameJson v w :=
  sameJson_body_iff he hm ho.product_eq hp.product_eq ho.identity_eq hp.identity_eq ho.body_eq
    hp.body_eq

theorem same_iff {headers : List (Text × Text)} {s t : Sent} (ho : o.IsKeyed key v b)
    (hp : p.IsKeyed key' w c) (hs : o.exchange.prepare headers = .ok s)
    (ht : p.exchange.prepare headers = .ok t) :
    s.Same t ↔ o.method = p.method ∧ o.path = p.path ∧ SameJson v w := by
  obtain ⟨s', hs', hsm, hsp, hsb⟩ := ho.exists_prepare_eq headers
  obtain ⟨t', ht', htm, htp, htb⟩ := hp.exists_prepare_eq headers
  obtain rfl := Except.ok.inj (hs.symm.trans hs')
  obtain rfl := Except.ok.inj (ht.symm.trans ht')
  have hbody (hm : o.method = p.method) (hpath : o.path = p.path) :
      Option.Rel SameJson s.body t.body ↔ SameJson v w := by
    have he := (ho.endpoint_eq hp hm hpath).1
    have hv := ho.isNull_eq
    have hw := hp.isNull_eq
    rw [← hm] at hw htb
    rw [hsb, htb]
    cases hmethod : o.method with
    | get =>
      rw [hmethod] at hv hw
      obtain rfl := eq_null_of_isNull hv
      obtain rfl := eq_null_of_isNull hw
      exact ⟨fun _ => .null, fun _ => .none⟩
    | post => exact Option.rel_some_some.trans (ho.sameJson_iff hp he hmethod)
  constructor
  · intro h
    have hm : o.method = p.method := by rw [← hsm, ← htm, h.method]
    have hpath : o.path = p.path := by rw [← hsp, ← htp, h.path]
    exact ⟨hm, hpath, (hbody hm hpath).mp h.body⟩
  · rintro ⟨hm, hpath, h⟩
    exact ⟨by rw [hsm, htm, hm], by rw [hsp, htp, hpath], (hbody hm hpath).mpr h⟩

/-- The identities under one key are the same unless they collide. -/
theorem sameJson_or_collision (ho : o.IsKeyed key v b) (hp : p.IsKeyed key w c) :
    SameJson v w ∨ Collision v w := by
  obtain ⟨hm, -, hdigest⟩ := (ho.key_eq_iff hp).mp rfl
  have hv := ho.isNull_eq
  have hw := hp.isNull_eq
  rw [← hm] at hw
  cases hmethod : o.method with
  | get =>
    rw [hmethod] at hv hw
    obtain rfl := eq_null_of_isNull hv
    obtain rfl := eq_null_of_isNull hw
    exact .inl .null
  | post => exact RequestKey.sameJson_or_collision ho.isCanonical hp.isCanonical (hdigest hmethod)

end IsKeyed

end Operation

theorem Admission.request_eq {o : Operation} {v : Value} (h : o.identity? = .ok v)
    (hv : v.IsCanonical) : request o = .dispatch ⟨o, keyOf o.method o.path v⟩ := by
  rw [request, o.key?_eq h, make_eq hv]

theorem Call.exists_isKeyed {c : Call} {j : Job} (hc : c.IsPlain) (hj : c.admission = .dispatch j) :
    Asks c j.operation ∧ ∃ v b, j.operation.IsKeyed j.key v b := by
  obtain ⟨hasks, hkey⟩ := asks_of_admission hj
  obtain ⟨v, hv, hplain⟩ := hasks.exists_identity hc
  obtain ⟨b, hb⟩ := hasks.exists_body hc
  rw [Operation.key?_eq j.operation hv] at hkey
  have hcanonical := isCanonical_of_make hplain hkey
  rw [make_eq hcanonical] at hkey
  exact ⟨hasks, v, b, hv, hcanonical, hb, hasks.product?_eq_none hc, hasks.slash_notMem,
    (Except.ok.inj hkey).symm⟩

/-- Under one key plain calls have one endpoint, send the same and name the same, unless their
identities collide. -/
theorem Call.same_of_key_eq {c d : Call} {j k : Job} (hc : c.IsPlain) (hd : d.IsPlain)
    (hj : c.admission = .dispatch j) (hk : d.admission = .dispatch k) (h : j.key = k.key)
    (hno : ¬j.operation.Collides k.operation) :
    j.operation.endpoint = k.operation.endpoint ∧ c.ids = d.ids ∧
      c.receiptBytes? = d.receiptBytes? ∧ ∀ headers, ∃ s t,
        j.operation.exchange.prepare headers = .ok s ∧
        k.operation.exchange.prepare headers = .ok t ∧ s.Same t := by
  obtain ⟨hasks, v, b, hkeyed⟩ := exists_isKeyed hc hj
  obtain ⟨hasks', w, b', hkeyed'⟩ := exists_isKeyed hd hk
  obtain ⟨hm, hp, -⟩ := (hkeyed.key_eq_iff hkeyed').mp h
  obtain ⟨he, hu⟩ := hkeyed.endpoint_eq hkeyed' hm hp
  have hidentities : v.SameJson w :=
    (hkeyed.sameJson_or_collision (h ▸ hkeyed')).resolve_right fun hcollision =>
      hno ⟨v, w, hkeyed.identity_eq, hkeyed'.identity_eq, hcollision⟩
  obtain ⟨hids, hreceipt⟩ := hasks.read_back hasks' hc hd he hu hkeyed.identity_eq
    hkeyed'.identity_eq hidentities
  refine ⟨he, hids, hreceipt, fun headers => ?_⟩
  obtain ⟨s, hs, -⟩ := hkeyed.exists_prepare_eq headers
  obtain ⟨t, ht, -⟩ := hkeyed'.exists_prepare_eq headers
  exact ⟨s, t, hs, ht, (hkeyed.same_iff hkeyed' hs ht).mpr ⟨hm, hp, hidentities⟩⟩

/-- Accepted plain calls have one key exactly when what they send is the same, unless their
identities collide. One key always means one endpoint, method and path; and without a collision also
the same identifiers and the same receipt. -/
theorem keys_identify_requests {c d : Call} {j k : Job} (headers : List (Text × Text))
    (hc : c.IsPlain) (hd : d.IsPlain) (hj : c.admission = .dispatch j)
    (hk : d.admission = .dispatch k) :
    ∃ s t, j.operation.exchange.prepare headers = .ok s ∧
      k.operation.exchange.prepare headers = .ok t ∧
      (s.Same t → j.key = k.key) ∧
      (j.key = k.key → j.operation.endpoint = k.operation.endpoint ∧ s.method = t.method ∧
        s.path = t.path ∧
        (s.Same t ∧ c.ids = d.ids ∧ c.receiptBytes? = d.receiptBytes? ∨
          j.operation.Collides k.operation)) := by
  obtain ⟨hasks, v, b, hkeyed⟩ := Call.exists_isKeyed hc hj
  obtain ⟨hasks', w, b', hkeyed'⟩ := Call.exists_isKeyed hd hk
  obtain ⟨s, hs, hsm, hsp, -⟩ := hkeyed.exists_prepare_eq headers
  obtain ⟨t, ht, htm, htp, -⟩ := hkeyed'.exists_prepare_eq headers
  have hsame := hkeyed.same_iff hkeyed' hs ht
  refine ⟨s, t, hs, ht, ?_, ?_⟩
  · intro h
    obtain ⟨hm, hp, hidentities⟩ := hsame.mp h
    have hpayloads := (payload_eq_iff hkeyed.isCanonical hkeyed'.isCanonical).mpr hidentities
    exact (hkeyed.key_eq_iff hkeyed').mpr ⟨hm, hp, fun _ => by rw [hpayloads]⟩
  · intro hkey
    obtain ⟨hm, hp, -⟩ := (hkeyed.key_eq_iff hkeyed').mp hkey
    obtain ⟨he, hu⟩ := hkeyed.endpoint_eq hkeyed' hm hp
    refine ⟨he, by rw [hsm, htm, hm], by rw [hsp, htp, hp], ?_⟩
    rcases hkeyed.sameJson_or_collision (hkey ▸ hkeyed') with h | h
    · have hback := hasks.read_back hasks' hc hd he hu hkeyed.identity_eq hkeyed'.identity_eq h
      exact .inl ⟨hsame.mpr ⟨hm, hp, h⟩, hback⟩
    · exact .inr ⟨v, w, hkeyed.identity_eq, hkeyed'.identity_eq, h⟩

/-- The order of the members of an attribution does not enter the key. -/
theorem key_of_reordered_attribution :
    ∃ j k : Job,
      (Call.postAttributionData (.record [("ad", .int 1), ("by", .null)]) .adjust
        (.text "me".toText)).admission = .dispatch j ∧
      (Call.postAttributionData (.record [("by", .null), ("ad", .int 1)]) .adjust
        (.text "me".toText)).admission = .dispatch k ∧ j.key = k.key := by
  have hfirst : (Value.record [("ad", .int 1), ("by", .null)]).IsPlain :=
    isPlain_record ["ad", "by"] (by decide) rfl (by simp [IsPlain.null, IsPlain.int])
  have hsecond : (Value.record [("by", .null), ("ad", .int 1)]).IsPlain :=
    isPlain_record ["by", "ad"] (by decide) rfl (by simp [IsPlain.null, IsPlain.int])
  have hidentity (data : Value) (h : data.IsPlain) :
      (Value.record [("network", .int 1), ("data", data)]).IsPlain :=
    isPlain_record Operation.attributionNames (by decide) rfl (by simp [IsPlain.int, h])
  have huser : (Value.text "me".toText).IsIdentifier := ⟨_, rfl, Text.isClean_toText "me"⟩
  have hj := Admission.request_eq (o := .postAttribution "me".toText .adjust
    [(.text "ad".toText, .int 1), (.text "by".toText, .null)]) rfl
    ((hidentity _ hfirst).isCanonical (by decide))
  have hk := Admission.request_eq (o := .postAttribution "me".toText .adjust
    [(.text "by".toText, .null), (.text "ad".toText, .int 1)]) rfl
    ((hidentity _ hsecond).isCanonical (by decide))
  refine ⟨_, _, hj, hk, ?_⟩
  have hc : (Call.postAttributionData (.record [("ad", .int 1), ("by", .null)]) .adjust
      (.text "me".toText)).IsPlain := ⟨by rintro _ ⟨⟩; exact hfirst, huser⟩
  have hd : (Call.postAttributionData (.record [("by", .null), ("ad", .int 1)]) .adjust
      (.text "me".toText)).IsPlain := ⟨by rintro _ ⟨⟩; exact hsecond, huser⟩
  obtain ⟨s, t, hs, ht, hsame, -⟩ := keys_identify_requests [] hc hd hj hk
  apply hsame
  cases hs
  cases ht
  refine ⟨rfl, rfl, .some ?_⟩
  apply (sameJson_record_iff Operation.attributionNames (by decide) rfl rfl).mpr
  refine .cons (.int 1) (.cons (.map (List.Perm.swap _ _ _) ?_) .nil)
  intro k x y hx hy
  simp only [List.mem_cons, List.not_mem_nil, or_false, Prod.mk.injEq] at hx hy
  rcases hx with ⟨rfl, rfl⟩ | ⟨rfl, rfl⟩
  · rcases hy with ⟨h, -⟩ | ⟨-, rfl⟩
    · exact absurd (Value.text.inj h) (by decide)
    · exact .int 1
  · rcases hy with ⟨-, rfl⟩ | ⟨h, -⟩
    · exact .null
    · exact absurd (Value.text.inj h) (by decide)

end SubscriptionClient
