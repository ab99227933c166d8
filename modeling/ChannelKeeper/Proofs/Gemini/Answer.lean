import ChannelKeeper.Gemini.Request

/-!
# What answers say of keys

An answer rejects the key exactly when its status is 400 or 403, whatever its
body; nothing else that becomes of a request does.
-/

namespace ChannelKeeper.Gemini

/-- The server answered with one of the two statuses that reject a key. -/
def Delivery.refuses : Delivery → Bool
  | .answered status _ _ => status == 400 || status == 403
  | .timedOut | .notConnected | .broken => false

theorem rejectsKey_classify (status : Nat) (body model : String) (milliseconds : Nat) :
    (classify status body model milliseconds).rejectsKey = (status == 400 || status == 403) := by
  simp only [classify]
  split
  · -- a good status, whatever is in the body
    split <;> rfl
  · rfl
  · split <;> rfl
  · rfl
  · rfl
  · rename_i h400 h403 _ _
    simp only [ProbeResult.rejectsKey, ProbeResult.failed, ProbeOutcome.isRejection, Bool.and_false,
      Bool.false_eq, Bool.or_eq_false_iff, beq_eq_false_iff_ne]
    exact ⟨h400, h403⟩

namespace Sender

theorem rejectsKey_resultOf (s : Sender) (model : String) (d : Delivery) :
    (s.resultOf model d).rejectsKey = d.refuses := by
  cases d with
  | answered status body milliseconds => exact rejectsKey_classify status body model milliseconds
  | timedOut | notConnected | broken => rfl

/-- Only an answer to a request that was sent can reject a key. -/
theorem rejectsKey_prober (s : Sender) (call : ProbeCall) :
    (s.prober call).rejectsKey = (s.request? call).any fun r => (s.transport r).refuses := by
  rw [prober]
  cases h : s.request? call with
  | none => rfl
  | some r => exact rejectsKey_resultOf s call.model (s.transport r)

/-- The sender with what becomes of the requests given by the task that makes them. -/
def delivering (s : Sender) (deliveries : Nat → Delivery) (task : Nat) : Prober :=
  { s with transport := fun _ => deliveries task : Sender }.prober

theorem rejectsKey_delivering (s : Sender) (deliveries : Nat → Delivery) (task : Nat)
    (call : ProbeCall) : (s.delivering deliveries task call).rejectsKey =
      ((s.request? call).isSome && (deliveries task).refuses) := by
  rw [delivering, rejectsKey_prober]
  cases h : s.request? call <;> simp_all [request?]

end Sender

end ChannelKeeper.Gemini
