import ChannelKeeper.Proofs.Action
import Mathlib.Data.List.Forall2

/-!
# Two runs

Two actions are alike under a relation of states if from related states they fail with
the same error, or succeed with related values, and leave related states either way.
With equality for values this says that nothing of an action's result depends on what
the relation of states leaves open.
-/

namespace ChannelKeeper

/-- Values that are related, or the same failure. -/
inductive ResultsAlike {ε α β : Type} (Q : α → β → Prop) : Except ε α → Except ε β → Prop
  | ok (h : Q a b) : ResultsAlike Q (.ok a) (.ok b)
  | error (e : ε) : ResultsAlike Q (.error e) (.error e)

theorem ResultsAlike.eq {ε α : Type} {r r' : Except ε α} (h : ResultsAlike Eq r r') : r = r' := by
  cases h with
  | ok h => rw [h]
  | error e => rfl

theorem ResultsAlike.refl {ε α : Type} (r : Except ε α) : ResultsAlike Eq r r := by
  cases r with
  | ok a => exact .ok rfl
  | error e => exact .error e

theorem ResultsAlike.bind {ε α α' β β' : Type} {Q : α → α' → Prop} {P : β → β' → Prop}
    {r : Except ε α} {r' : Except ε α'} {f : α → Except ε β} {f' : α' → Except ε β'}
    (h : ResultsAlike Q r r') (hf : ∀ a a', Q a a' → ResultsAlike P (f a) (f' a')) :
    ResultsAlike P (r >>= f) (r' >>= f') := by
  cases h with
  | ok ha => exact hf _ _ ha
  | error e => exact .error e

namespace Action

variable {σ τ ε ε' α α' β β' : Type} {R : σ → σ → Prop} {Q : α → α' → Prop} {P : β → β' → Prop}

def Alike (R : σ → σ → Prop) (Q : α → α' → Prop) (act : Action σ ε α) (act' : Action σ ε α') : Prop :=
  ∀ s s', R s s' → ResultsAlike Q (act.perform s).1 (act'.perform s').1 ∧
    R (act.perform s).2 (act'.perform s').2

variable {act : Action σ ε α} {act' : Action σ ε α'}

namespace Alike

theorem pure (h : Q a a') :
    Alike R Q (Pure.pure a : Action σ ε α) (Pure.pure a' : Action σ ε α') :=
  fun _ _ hs => ⟨.ok h, hs⟩

theorem throw (e : ε) : Alike R Q (MonadExcept.throw e : Action σ ε α)
    (MonadExcept.throw e : Action σ ε α') := fun _ _ hs => ⟨.error e, hs⟩

theorem ask {f : σ → Except ε α} {f' : σ → Except ε α'}
    (h : ∀ s s', R s s' → ResultsAlike Q (f s) (f' s')) : Alike R Q (Action.ask f) (Action.ask f') :=
  fun s s' hs => ⟨h s s' hs, hs⟩

theorem change {f : σ → Except ε (α × σ)} {f' : σ → Except ε (α' × σ)}
    (h : ∀ s s', R s s' →
      ResultsAlike (fun out out' => Q out.1 out'.1 ∧ R out.2 out'.2) (f s) (f' s')) :
    Alike R Q (Action.change f) (Action.change f') := by
  intro s s' hs
  have hout := h s s' hs
  rw [Action.change, Action.change, perform_ofFunction, perform_ofFunction]
  generalize f s = out at hout
  generalize f' s' = out' at hout
  cases hout with
  | ok hout => exact ⟨.ok hout.1, hout.2⟩
  | error e => exact ⟨.error e, hs⟩

theorem bind {f : α → Action σ ε β} {f' : α' → Action σ ε β'} (h : Alike R Q act act')
    (hf : ∀ a a', Q a a' → Alike R P (f a) (f' a')) : Alike R P (act >>= f) (act' >>= f') := by
  intro s s' hs
  obtain ⟨hresult, hstate⟩ := h s s' hs
  rw [perform_bind, perform_bind]
  generalize act.perform s = out at hresult hstate
  generalize act'.perform s' = out' at hresult hstate
  obtain ⟨r, t⟩ := out
  obtain ⟨r', t'⟩ := out'
  cases hresult with
  | ok ha => exact hf _ _ ha t t' hstate
  | error e => exact ⟨.error e, hstate⟩

theorem guarded {check : σ → Except ε Unit} (h : Alike R Q act act')
    (hcheck : ∀ s s', R s s' → check s = check s') :
    Alike R Q (act.guarded check) (act'.guarded check) :=
  .bind (.ask (Q := Eq) fun s s' hs => hcheck s s' hs ▸ .refl _) fun _ _ _ => h

theorem mapError (f : ε → ε') (h : Alike R Q act act') :
    Alike R Q (act.mapError f) (act'.mapError f) := by
  intro s s' hs
  obtain ⟨hresult, hstate⟩ := h s s' hs
  rw [Action.mapError, Action.mapError, perform_ofFunction, perform_ofFunction]
  generalize act.perform s = out at hresult hstate
  generalize act'.perform s' = out' at hresult hstate
  obtain ⟨r, t⟩ := out
  obtain ⟨r', t'⟩ := out'
  cases hresult with
  | ok ha => exact ⟨.ok ha, hstate⟩
  | error e => exact ⟨.error (f e), hstate⟩

theorem attempt (h : Alike R Q act act') : Alike R (ResultsAlike Q)
    (act.attempt : Action σ ε' _) (act'.attempt : Action σ ε' _) := by
  intro s s' hs
  obtain ⟨hresult, hstate⟩ := h s s' hs
  rw [perform_attempt, perform_attempt]
  exact ⟨.ok hresult, hstate⟩

/-- Parts of related states must be related, and putting related parts back must leave
related states. -/
theorem onPart {T : τ → τ → Prop} {get : τ → σ} {set : σ → τ → τ} (h : Alike R Q act act')
    (hget : ∀ t t', T t t' → R (get t) (get t'))
    (hset : ∀ s s' t t', R s s' → T t t' → T (set s t) (set s' t')) :
    Alike T Q (act.onPart get set) (act'.onPart get set) := by
  intro t t' ht
  obtain ⟨hresult, hstate⟩ := h _ _ (hget t t' ht)
  rw [perform_onPart, perform_onPart]
  exact ⟨hresult, hset _ _ t t' hstate ht⟩

theorem onSamePart {T : τ → τ → Prop} {get : τ → σ} {set : σ → τ → τ} (act : Action σ ε α)
    (hget : ∀ t t', T t t' → get t = get t')
    (hset : ∀ s t t', T t t' → T (set s t) (set s t')) :
    Alike T Eq (act.onPart get set) (act.onPart get set) := by
  intro t t' ht
  rw [perform_onPart, perform_onPart, hget t t' ht]
  exact ⟨.refl _, hset _ t t' ht⟩

end Alike

end Action

end ChannelKeeper
