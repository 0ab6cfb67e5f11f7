import SubscriptionClient.Backend.Call

/-!
# What calls raise

A call that raises was misused: its arguments have no key or do not fit.
-/

namespace SubscriptionClient

def Fault.IsMisuse (fault : Fault) : Prop := ∃ m, fault = .misuse m

theorem Fault.isMisuse_misuse (m : Misuse) : (Fault.misuse m).IsMisuse := ⟨m, rfl⟩

variable {fault : Fault}

theorem Attempt.isMisuse_of_ofValues {α : Type} {x : Except Misuse α}
    (h : Attempt.ofValues x = .error fault) : fault.IsMisuse := by
  cases x with
  | ok a => simp [Attempt.ofValues] at h
  | error m => exact ⟨m, (Except.error.inj h).symm⟩

theorem Attempt.isMisuse_of_map {α β : Type} {f : α → β} {x : Attempt α}
    (hx : ∀ fault, x = .error fault → fault.IsMisuse) (h : x.map f = .error fault) :
    fault.IsMisuse := by
  cases x with
  | ok a => simp [Except.map] at h
  | error fault' => exact Except.error.inj h ▸ hx fault' rfl

namespace RequestKey

theorem isMisuse_of_digest? {identity : Value} (h : digest? identity = .error fault) :
    fault.IsMisuse :=
  Attempt.isMisuse_of_map (fun _ hw => Attempt.isMisuse_of_ofValues hw) h

theorem isMisuse_of_make {method path : Text} {identity : Value}
    (h : make method path identity = .error fault) : fault.IsMisuse := by
  unfold make at h
  dsimp only at h
  split at h
  · simp at h
  · exact Attempt.isMisuse_of_map (fun _ hd => isMisuse_of_digest? hd) h

theorem isMisuse_of_receipt {r : Receipt} (h : receipt r = .error fault) : fault.IsMisuse := by
  unfold receipt at h
  cases hp : Attempt.ofValues (productIdentity? r.product) with
  | ok product =>
    rw [hp] at h
    exact isMisuse_of_make (show make _ _ (receiptIdentity r product) = _ from h)
  | error fault' =>
    rw [hp] at h
    exact Except.error.inj h ▸ Attempt.isMisuse_of_ofValues hp

end RequestKey

theorem Operation.isMisuse_of_key? {o : Operation} (h : o.key? = .error fault) :
    fault.IsMisuse := by
  cases o with
  | postReceipt => exact RequestKey.isMisuse_of_receipt h
  | _ =>
    simp only [key?, RequestKey.customerInfo, RequestKey.offerings, RequestKey.logIn,
      RequestKey.createAlias, RequestKey.introEligibility, RequestKey.subscriberAttributes,
      RequestKey.attribution, RequestKey.offerSigning, RequestKey.get, RequestKey.post] at h
    exact RequestKey.isMisuse_of_make h

namespace Admission

theorem isMisuse_of_request {o : Operation} (h : request o = .raised fault) :
    fault.IsMisuse := by
  unfold request at h
  split at h
  · simp at h
  · rename_i fault' hk
    exact Admission.raised.inj h ▸ Operation.isMisuse_of_key? hk

theorem isMisuse_of_withUser {user : Value} {next : Text → Admission}
    (hn : ∀ escaped, next escaped = .raised fault → fault.IsMisuse)
    (h : withUser user next = .raised fault) : fault.IsMisuse := by
  unfold withUser at h
  split at h
  · exact hn _ h
  · simp at h

theorem isMisuse_of_introEligibility {user : Value} {receipt : List UInt8} {products : List Value}
    (h : introEligibility user receipt products = .raised fault) : fault.IsMisuse := by
  unfold introEligibility at h
  split at h
  · simp at h
  · split at h
    · exact isMisuse_of_request h
    · split at h
      · rename_i fault' hu
        obtain rfl := Admission.raised.inj h
        unfold Response.unknownEligibilities Response.checkKeys at hu
        split at hu
        · exact ⟨_, (Except.error.inj hu).symm⟩
        · simp [bind, Except.bind, pure, Except.pure] at hu
      · split at h <;> simp at h

end Admission

theorem Call.isMisuse_of_admission {c : Call} (h : c.admission = .raised fault) :
    fault.IsMisuse := by
  unfold admission at h
  split at h
  · exact Admission.isMisuse_of_withUser (fun _ => Admission.isMisuse_of_request) h
  · exact Admission.isMisuse_of_withUser (fun _ => Admission.isMisuse_of_request) h
  · split at h
    · exact Admission.isMisuse_of_request h
    · simp at h
  · exact Admission.isMisuse_of_withUser (fun _ => Admission.isMisuse_of_request) h
  · exact Admission.isMisuse_of_withUser (fun _ => Admission.isMisuse_of_request) h
  · exact Admission.isMisuse_of_withUser (fun _ => Admission.isMisuse_of_request) h
  · exact Admission.raised.inj h ▸ Fault.isMisuse_misuse _
  · split at h
    · exact Admission.isMisuse_of_introEligibility h
    · exact Admission.raised.inj h ▸ Fault.isMisuse_misuse _
  · split at h
    · simp at h
    · simp at h
    · exact Admission.isMisuse_of_withUser (fun _ => Admission.isMisuse_of_request) h
  · refine Admission.isMisuse_of_withUser (fun escaped hn => ?_) h
    split at hn
    · exact Admission.isMisuse_of_request hn
    · exact Admission.raised.inj hn ▸ Fault.isMisuse_misuse _
  · exact Admission.raised.inj h ▸ Fault.isMisuse_misuse _

end SubscriptionClient
