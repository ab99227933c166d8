import ChannelKeeper.Action

/-!
# What actions do

The result and the state afterwards of every way to make an action from
others. Nothing is said of the state after a failure that the parts do not say.
-/

namespace ChannelKeeper.Action

variable {σ τ ε ε' α β : Type}

@[simp] theorem perform_ofFunction (f : σ → Except ε α × σ) (s : σ) :
    (ofFunction f).perform s = f s := rfl

@[simp] theorem perform_pure (a : α) (s : σ) :
    (pure a : Action σ ε α).perform s = (.ok a, s) := rfl

theorem perform_bind (act : Action σ ε α) (f : α → Action σ ε β) (s : σ) :
    (act >>= f).perform s = match act.perform s with
      | (.ok a, s') => (f a).perform s'
      | (.error e, s') => (.error e, s') := by
  have hb : (act >>= f).perform s = ExceptT.bindCont f (act.perform s).1 (act.perform s).2 := rfl
  rw [hb]
  rcases act.perform s with ⟨_ | _, s'⟩ <;> rfl

theorem perform_bind_ok {act : Action σ ε α} {f : α → Action σ ε β}
    (h : act.perform s = (.ok a, s')) : (act >>= f).perform s = (f a).perform s' := by
  rw [perform_bind, h]

theorem perform_bind_error {act : Action σ ε α} {f : α → Action σ ε β}
    (h : act.perform s = (.error e, s')) : (act >>= f).perform s = (.error e, s') := by
  rw [perform_bind, h]

theorem perform_bind_eq_ok {act : Action σ ε α} {f : α → Action σ ε β} :
    (act >>= f).perform s = (.ok b, s') ↔
      ∃ a t, act.perform s = (.ok a, t) ∧ (f a).perform t = (.ok b, s') := by
  rw [perform_bind]
  rcases act.perform s with ⟨e | a, t⟩
  · simp
  · constructor
    · exact fun h => ⟨a, t, rfl, h⟩
    · rintro ⟨_, _, ⟨⟩, h⟩
      exact h

@[simp] theorem perform_ask (f : σ → Except ε α) (s : σ) : (ask f).perform s = (f s, s) := rfl

theorem perform_ask_eq_ok {f : σ → Except ε α} :
    (ask f).perform s = (.ok a, s') ↔ f s = .ok a ∧ s' = s := by
  rw [perform_ask, Prod.mk.injEq, eq_comm (a := s)]

theorem perform_change_ok {f : σ → Except ε (α × σ)} (h : f s = .ok (a, s')) :
    (change f).perform s = (.ok a, s') := by
  simp [change, h]

theorem perform_change_eq_ok {f : σ → Except ε (α × σ)} :
    (change f).perform s = (.ok a, s') ↔ f s = .ok (a, s') := by
  rw [change, perform_ofFunction]
  rcases f s with e | ⟨b, t⟩ <;> simp

theorem perform_change_eq_error {f : σ → Except ε (α × σ)} :
    (change f).perform s = (.error e, s') ↔ f s = .error e ∧ s' = s := by
  rw [change, perform_ofFunction]
  rcases f s with e | ⟨b, t⟩ <;> simp [eq_comm]

theorem perform_attempt (act : Action σ ε α) (s : σ) :
    (act.attempt : Action σ ε' _).perform s = (.ok (act.perform s).1, (act.perform s).2) := rfl

theorem perform_attempt_bind (act : Action σ ε α) (f : Except ε α → Action σ ε' β) (s : σ) :
    (act.attempt >>= f).perform s = (f (act.perform s).1).perform (act.perform s).2 :=
  perform_bind_ok (perform_attempt act s)

theorem perform_map (f : α → β) (act : Action σ ε α) (s : σ) :
    Action.perform (ExceptT.map f act) s = ((act.perform s).1.map f, (act.perform s).2) := by
  have h : Action.perform (ExceptT.map f act) s = (act >>= fun a => pure (f a)).perform s := rfl
  rw [h, perform_bind]
  rcases act.perform s with ⟨_ | _, _⟩ <;> rfl

theorem perform_map_eq_ok {f : α → β} {act : Action σ ε α} :
    Action.perform (ExceptT.map f act) s = (.ok b, s') ↔
      ∃ a, act.perform s = (.ok a, s') ∧ f a = b := by
  rw [perform_map]
  rcases act.perform s with ⟨_ | a, s₁⟩
  · simp [Except.map]
  · constructor
    · rintro ⟨⟩
      exact ⟨a, rfl, rfl⟩
    · rintro ⟨_, ⟨⟩, rfl⟩
      rfl

theorem perform_mapError (f : ε → ε') (act : Action σ ε α) (s : σ) :
    (act.mapError f).perform s = ((act.perform s).1.mapError f, (act.perform s).2) := by
  rw [mapError, perform_ofFunction]
  rcases act.perform s with ⟨_ | _, _⟩ <;> rfl

theorem perform_mapError_ok {act : Action σ ε α} (f : ε → ε')
    (h : act.perform s = (.ok a, s')) : (act.mapError f).perform s = (.ok a, s') := by
  simp [mapError, h]

theorem perform_mapError_eq_ok {act : Action σ ε α} {f : ε → ε'} :
    (act.mapError f).perform s = (.ok a, s') ↔ act.perform s = (.ok a, s') := by
  rw [mapError, perform_ofFunction]
  rcases act.perform s with ⟨e | a, t⟩ <;> simp

theorem perform_onPart (get : τ → σ) (set : σ → τ → τ) (act : Action σ ε α) (t : τ) :
    (act.onPart get set).perform t = ((act.perform (get t)).1, set (act.perform (get t)).2 t) := rfl

theorem perform_onPart_eq_ok {get : τ → σ} {set : σ → τ → τ} {act : Action σ ε α} {t t' : τ} :
    (act.onPart get set).perform t = (.ok a, t') ↔
      ∃ s, act.perform (get t) = (.ok a, s) ∧ set s t = t' := by
  rw [perform_onPart]
  rcases act.perform (get t) with ⟨result, s⟩
  simp only [Prod.mk.injEq]
  exact ⟨fun ⟨hr, ht⟩ => ⟨s, ⟨hr, rfl⟩, ht⟩, fun ⟨_, ⟨hr, hs⟩, ht⟩ => ⟨hr, hs ▸ ht⟩⟩

theorem perform_fold_cons {f : β → α → Action σ ε β} (h : (f b a).perform s = (.ok b', s')) :
    (fold f b (a :: rest)).perform s = (fold f b' rest).perform s' := by
  rw [fold, perform_bind_ok h]

-- ---------------------------------------------------------------------------
-- One item after the other
-- ---------------------------------------------------------------------------

/-- Every item in turn takes one step and gives its outcome. -/
inductive InTurn (step : α → σ → β → σ → Prop) : List α → σ → List β → σ → Prop
  | done : InTurn step [] s [] s
  | more {a : α} {b : β} {s s₁ s' : σ} {rest : List α} {bs : List β} (hstep : step a s b s₁)
      (hrest : InTurn step rest s₁ bs s') : InTurn step (a :: rest) s (b :: bs) s'

theorem InTurn.imp {step step' : α → σ → β → σ → Prop} {items : List α} {bs : List β}
    (h : InTurn step items s bs s') (himp : ∀ a s b s', step a s b s' → step' a s b s') :
    InTurn step' items s bs s' := by
  induction h with
  | done => exact .done
  | more hstep _ ih => exact .more (himp _ _ _ _ hstep) ih

theorem perform_forEach {f : α → Action σ ε β} {step : α → σ → β → σ → Prop}
    (h : ∀ a s, ∃ b s', (f a).perform s = (.ok b, s') ∧ step a s b s') (items : List α) (s : σ) :
    ∃ bs s', (forEach f items).perform s = (.ok bs, s') ∧ InTurn step items s bs s' := by
  induction items generalizing s with
  | nil => exact ⟨[], s, rfl, .done⟩
  | cons a rest ih =>
    obtain ⟨b, s₁, hperform, hstep⟩ := h a s
    obtain ⟨bs, s', hrest, hsteps⟩ := ih s₁
    refine ⟨b :: bs, s', ?_, .more hstep hsteps⟩
    rw [forEach, perform_bind_ok hperform, perform_bind_ok hrest]
    rfl

-- ---------------------------------------------------------------------------
-- Where an action ends
-- ---------------------------------------------------------------------------

/-- From this state the action ends in one way if it succeeds, in another if it fails. -/
def Triple (act : Action σ ε α) (s : σ) (Q : α → σ → Prop) (E : ε → σ → Prop) : Prop :=
  match act.perform s with
  | (.ok a, s') => Q a s'
  | (.error e, s') => E e s'

variable {act : Action σ ε α} {Q Q' : α → σ → Prop} {E E' : ε → σ → Prop}

theorem triple_iff : act.Triple s Q E ↔
    (∀ a s', act.perform s = (.ok a, s') → Q a s') ∧
      ∀ e s', act.perform s = (.error e, s') → E e s' := by
  rw [Triple]
  rcases act.perform s with ⟨_ | _, _⟩ <;> simp

theorem Triple.pure (h : Q a s) : (Pure.pure a : Action σ ε α).Triple s Q E := h

theorem Triple.throw (h : E e s) : (MonadExcept.throw e : Action σ ε α).Triple s Q E := h

theorem Triple.ask (h : ∀ a, f s = .ok a → Q a s) (he : ∀ e, f s = .error e → E e s) :
    (Action.ask f).Triple s Q E := by
  rw [Triple, perform_ask]
  cases hs : f s with
  | ok a => exact h a hs
  | error e => exact he e hs

theorem Triple.mono (h : act.Triple s Q E) (hQ : ∀ a s', Q a s' → Q' a s')
    (hE : ∀ e s', E e s' → E' e s') : act.Triple s Q' E' := by
  obtain ⟨hok, herror⟩ := triple_iff.mp h
  exact triple_iff.mpr
    ⟨fun a s' hs => hQ a s' (hok a s' hs), fun e s' hs => hE e s' (herror e s' hs)⟩

theorem Triple.mono_error (h : act.Triple s Q E) (hE : ∀ e s', E e s' → E' e s') :
    act.Triple s Q E' :=
  h.mono (fun _ _ => id) hE

theorem Triple.exists_eq {r : Except ε α} {P : σ → Prop}
    (h : act.Triple s (fun a s' => r = .ok a ∧ P s') fun e s' => r = .error e ∧ P s') :
    ∃ s', act.perform s = (r, s') ∧ P s' := by
  revert h
  rw [Triple]
  rcases act.perform s with ⟨_ | _, s'⟩
  · rintro ⟨rfl, hs'⟩
    exact ⟨s', rfl, hs'⟩
  · rintro ⟨rfl, hs'⟩
    exact ⟨s', rfl, hs'⟩

theorem Triple.exists_ok {P : σ → Prop}
    (h : act.Triple s (fun b s' => b = a ∧ P s') fun _ _ => False) :
    ∃ s', act.perform s = (.ok a, s') ∧ P s' := by
  have heq : act.Triple s (fun b s' => (Except.ok a : Except ε α) = .ok b ∧ P s')
      fun e s' => (Except.ok a : Except ε α) = .error e ∧ P s' :=
    h.mono (fun _ _ ⟨hb, hs'⟩ => ⟨congrArg Except.ok hb.symm, hs'⟩) fun _ _ => False.elim
  exact heq.exists_eq

theorem Triple.bind {f : α → Action σ ε β} {R : β → σ → Prop} (h : act.Triple s Q E)
    (hf : ∀ a s', Q a s' → (f a).Triple s' R E) : (act >>= f).Triple s R E := by
  revert h
  rw [Triple, Triple, perform_bind]
  rcases act.perform s with ⟨_ | a, s'⟩
  · exact id
  · exact hf a s'

theorem Triple.map_bind {γ : Type} {f : α → β} {g : β → Action σ ε γ} {R : γ → σ → Prop}
    (h : act.Triple s Q E) (hg : ∀ a s', Q a s' → (g (f a)).Triple s' R E) :
    Triple (ExceptT.map f act >>= g : Action σ ε γ) s R E := by
  have hmap : Triple (ExceptT.map f act) s (fun b s' => ∃ a, b = f a ∧ Q a s') E :=
    show (act >>= fun a => Pure.pure (f a)).Triple s _ E from
      h.bind fun a _ ha => .pure ⟨a, rfl, ha⟩
  refine hmap.bind ?_
  rintro _ s' ⟨a, rfl, ha⟩
  exact hg a s' ha

theorem Triple.mapError {f : ε → ε'} {E : ε' → σ → Prop} (h : act.Triple s Q fun e => E (f e)) :
    (act.mapError f).Triple s Q E := by
  revert h
  rw [Triple, Triple, Action.mapError, perform_ofFunction]
  rcases act.perform s with ⟨_ | _, s'⟩ <;> exact id

theorem Triple.onPart {get : τ → σ} {set : σ → τ → τ} {t : τ} {Q : α → τ → Prop}
    {E : ε → τ → Prop}
    (h : act.Triple (get t) (fun a s => Q a (set s t)) fun e s => E e (set s t)) :
    (act.onPart get set).Triple t Q E := by
  revert h
  rw [Triple, Triple, perform_onPart]
  rcases act.perform (get t) with ⟨_ | _, s'⟩ <;> exact id

-- ---------------------------------------------------------------------------
-- What an action leaves alone
-- ---------------------------------------------------------------------------

/-- Whether it succeeds or fails, the action leaves a view of the state as it was. -/
def Keeps {γ : Type} (view : σ → γ) (act : Action σ ε α) : Prop :=
  ∀ s, view (act.perform s).2 = view s

variable {γ : Type} {view : σ → γ}

theorem Keeps.triple (h : act.Keeps view) (s : σ) :
    act.Triple s (fun a s' => act.perform s = (.ok a, s') ∧ view s' = view s)
      fun _ s' => view s' = view s := by
  have hs := h s
  revert hs
  rw [Triple]
  rcases act.perform s with ⟨_ | _, s'⟩
  · exact id
  · exact fun hs => ⟨rfl, hs⟩

theorem Keeps.pure (a : α) : (Pure.pure a : Action σ ε α).Keeps view := fun _ => rfl

theorem Keeps.throw (e : ε) : (MonadExcept.throw e : Action σ ε α).Keeps view := fun _ => rfl

theorem Keeps.ask (f : σ → Except ε α) : (Action.ask f).Keeps view := fun _ => rfl

/-- What follows a success need only keep the view for the results that there can be. -/
theorem view_perform_bind (view : σ → γ) {f : α → Action σ ε β}
    (hf : ∀ a s s', act.perform s = (.ok a, s') → (f a).Keeps view) (s : σ) :
    view ((act >>= f).perform s).2 = view (act.perform s).2 := by
  rw [perform_bind]
  rcases hact : act.perform s with ⟨_ | a, s'⟩
  · rfl
  · exact hf a s s' hact s'

theorem Keeps.bind_ok {f : α → Action σ ε β} (h : act.Keeps view)
    (hf : ∀ a s s', act.perform s = (.ok a, s') → (f a).Keeps view) :
    (act >>= f).Keeps view :=
  fun s => (view_perform_bind view hf s).trans (h s)

theorem Keeps.bind {f : α → Action σ ε β} (h : act.Keeps view) (hf : ∀ a, (f a).Keeps view) :
    (act >>= f).Keeps view :=
  h.bind_ok fun a _ _ _ => hf a

theorem Keeps.guarded (h : act.Keeps view) (check : σ → Except ε Unit) :
    (act.guarded check).Keeps view :=
  .bind (.ask check) fun _ => h

theorem Keeps.map (h : act.Keeps view) (f : α → β) : Keeps view (ExceptT.map f act) :=
  show (act >>= fun a => Pure.pure (f a)).Keeps view from h.bind fun a => .pure (f a)

theorem Keeps.mapError (h : act.Keeps view) (f : ε → ε') : (act.mapError f).Keeps view := by
  intro s
  have hs := h s
  revert hs
  rw [Action.mapError, perform_ofFunction]
  rcases act.perform s with ⟨_ | _, s'⟩ <;> exact id

theorem Keeps.attempt (h : act.Keeps view) : (act.attempt : Action σ ε' _).Keeps view := h

theorem Keeps.onPart {get : τ → σ} {set : σ → τ → τ} (h : act.Keeps view)
    (get_set : ∀ s t, get (set s t) = s) : (act.onPart get set).Keeps fun t => view (get t) := by
  intro t
  exact (congrArg view (get_set _ t)).trans (h (get t))

theorem Keeps.forEach {f : α → Action σ ε β} (h : ∀ a, (f a).Keeps view) (items : List α) :
    (Action.forEach f items).Keeps view := by
  induction items with
  | nil => exact .pure _
  | cons a rest ih => exact (h a).bind fun _ => ih.bind fun _ => .pure _

theorem Keeps.fold {f : β → α → Action σ ε β} (h : ∀ b a, (f b a).Keeps view) (b : β)
    (items : List α) : (Action.fold f b items).Keeps view := by
  induction items generalizing b with
  | nil => exact .pure b
  | cons a rest ih => exact (h b a).bind ih

-- ---------------------------------------------------------------------------
-- What an action leaves true
-- ---------------------------------------------------------------------------

/-- Whether it succeeds or fails, the action leaves a property of the state true. -/
def Preserves (P : σ → Prop) (act : Action σ ε α) : Prop :=
  ∀ s, P s → P (act.perform s).2

variable {P : σ → Prop}

theorem Keeps.preserves {p : γ → Prop} (h : act.Keeps view) : act.Preserves fun s => p (view s) :=
  fun s hs => (congrArg p (h s)).mpr hs

theorem Preserves.pure (a : α) : (Pure.pure a : Action σ ε α).Preserves P := fun _ => id

theorem Preserves.throw (e : ε) : (MonadExcept.throw e : Action σ ε α).Preserves P := fun _ => id

theorem Preserves.change {f : σ → Except ε (α × σ)}
    (h : ∀ s a s', P s → f s = .ok (a, s') → P s') : (Action.change f).Preserves P := by
  intro s hs
  rw [Action.change, perform_ofFunction]
  rcases hf : f s with e | ⟨a, s'⟩
  · exact hs
  · exact h s a s' hs hf

/-- What follows need only preserve the property for the results that there can be. -/
theorem Preserves.bind_ok {f : α → Action σ ε β} (h : act.Preserves P)
    (hf : ∀ a s s', P s → act.perform s = (.ok a, s') → (f a).Preserves P) :
    (act >>= f).Preserves P := by
  intro s hs
  have hact := h s hs
  rw [perform_bind]
  rcases hperform : act.perform s with ⟨_ | a, s'⟩
  · rw [hperform] at hact
    exact hact
  · rw [hperform] at hact
    exact hf a s s' hs hperform s' hact

theorem Preserves.bind {f : α → Action σ ε β} (h : act.Preserves P)
    (hf : ∀ a, (f a).Preserves P) : (act >>= f).Preserves P :=
  h.bind_ok fun a _ _ _ _ => hf a

theorem Preserves.mapError (h : act.Preserves P) (f : ε → ε') : (act.mapError f).Preserves P := by
  intro s hs
  have hact := h s hs
  revert hact
  rw [Action.mapError, perform_ofFunction]
  rcases act.perform s with ⟨_ | _, s'⟩ <;> exact id

theorem Preserves.attempt (h : act.Preserves P) : (act.attempt : Action σ ε' _).Preserves P := h

theorem Preserves.onPart {get : τ → σ} {set : σ → τ → τ} (h : act.Preserves P)
    (get_set : ∀ s t, get (set s t) = s) : (act.onPart get set).Preserves fun t => P (get t) := by
  intro t ht
  exact (congrArg P (get_set _ t)).mpr (h (get t) ht)

theorem Preserves.fold {f : β → α → Action σ ε β} {items : List α}
    (h : ∀ b, ∀ a ∈ items, (f b a).Preserves P) (b : β) : (Action.fold f b items).Preserves P := by
  induction items generalizing b with
  | nil => exact .pure b
  | cons a rest ih =>
    exact (h b a List.mem_cons_self).bind (ih fun b a ha => h b a (List.mem_cons_of_mem _ ha))

end ChannelKeeper.Action
