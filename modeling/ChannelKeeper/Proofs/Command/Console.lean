import ChannelKeeper.Command.Desk
import ChannelKeeper.Proofs.Action

/-!
# Where runs end

What a run makes of an operation on the state, of lines that are printed and of a
question. Nothing is said of what is printed, nor of the errors that are reported.
-/

namespace ChannelKeeper

namespace Run

variable {σ α : Type}

/-- The run prints, and does nothing else. -/
def Prints (act : Run σ Unit) : Prop :=
  ∀ c, ∃ printed, act.perform c = (.ok (), { c with printed := printed })

theorem Prints.onlyIf {act : Run σ Unit} (h : Prints act) (condition : Bool) :
    Prints (onlyIf condition act) := by
  cases condition with
  | true => exact h
  | false => exact fun c => ⟨c.printed, rfl⟩

theorem prints_line (text : String) : Prints (line text : Run σ Unit) := fun _ => ⟨_, rfl⟩

theorem prints_lines (texts : List String) : Prints (lines texts : Run σ Unit) := fun _ => ⟨_, rfl⟩

variable {Q : α → Console σ → Prop} {E : CommandError → Console σ → Prop} {c : Console σ}

theorem Prints.triple {act : Run σ Unit} {Q : Unit → Console σ → Prop} (h : Prints act)
    (hQ : ∀ c', c'.state = c.state → Q () c') : act.Triple c Q E := by
  obtain ⟨printed, hact⟩ := h c
  rw [Action.Triple, hact]
  exact hQ _ rfl

theorem Prints.bind {act : Run σ Unit} {f : Unit → Run σ α} (h : Prints act)
    (hf : ∀ c', c'.state = c.state → (f ()).Triple c' Q E) : (act >>= f).Triple c Q E :=
  Action.Triple.bind (h.triple (Q := fun _ c' => c'.state = c.state) fun _ => id) fun _ => hf

theorem triple_task {act : Workspace.Task σ α} {Q : α → σ → Prop} {E : σ → Prop}
    (h : act.Triple c.state Q fun _ => E) :
    (task act).Triple c (fun a c' => Q a c'.state) fun _ c' => E c'.state :=
  .mapError (.onPart h)

-- ---------------------------------------------------------------------------
-- What is left alone and what is left true
-- ---------------------------------------------------------------------------

section

variable {γ : Type} {view : σ → γ} {P : σ → Prop}

theorem Prints.keeps {act : Run σ Unit} (h : Prints act) (view : σ → γ) :
    act.Keeps (view ∘ Console.state) := by
  intro c
  obtain ⟨printed, hact⟩ := h c
  rw [hact]
  rfl

theorem Prints.preserves {act : Run σ Unit} (h : Prints act) (P : σ → Prop) :
    act.Preserves (P ∘ Console.state) :=
  (h.keeps id).preserves

theorem Prints.keeps_return {act : Run σ Unit} {a : α} (h : Prints act) :
    (act >>= fun _ => pure a).Keeps (view ∘ Console.state) :=
  .bind (h.keeps _) fun _ => .pure _

theorem Prints.preserves_return {act : Run σ Unit} {a : α} (h : Prints act) :
    (act >>= fun _ => pure a).Preserves (P ∘ Console.state) :=
  .bind (h.preserves _) fun _ => .pure _

theorem keeps_task {act : Workspace.Task σ α} (h : act.Keeps view) :
    (task act).Keeps (view ∘ Console.state) :=
  .mapError (h.onPart fun _ _ => rfl) _

theorem keeps_during_task {act : Workspace.Task σ α} (h : act.Keeps view) (deed : String) :
    (during deed (task act)).Keeps (view ∘ Console.state) :=
  (keeps_task h).mapError _

theorem keeps_tableTask {act : Workspace.TableTask σ α} (h : act.Keeps view) :
    (tableTask act).Keeps (view ∘ Console.state) :=
  .mapError (h.onPart fun _ _ => rfl) _

theorem preserves_task {act : Workspace.Task σ α} (h : act.Preserves P) :
    (task act).Preserves (P ∘ Console.state) :=
  .mapError (h.onPart fun _ _ => rfl) _

end

/-- The answer is never yes. -/
def Refused (act : Run σ Bool) : Prop := ∀ c c', act.perform c ≠ (.ok true, c')

theorem Refused.keeps_bind {γ : Type} {view : Console σ → γ} {act : Run σ Bool}
    {f : Bool → Run σ α} (h : Refused act) (hact : act.Keeps view) (hf : (f false).Keeps view) :
    (act >>= f).Keeps view := by
  refine hact.bind_ok fun yes c c' hyes => ?_
  cases yes with
  | true => exact absurd hyes (h c c')
  | false => exact hf

theorem Refused.bind {act : Run σ α} {f : α → Run σ Bool} (h : ∀ a, Refused (f a)) :
    Refused (act >>= f) := by
  intro c c' hyes
  obtain ⟨a, c₁, -, hf⟩ := Action.perform_bind_eq_ok.mp hyes
  exact h a c₁ c' hf

theorem perform_work_eq_ok {act : Action σ ε α} {f : ε → CommandError} {c c' : Console σ} :
    (work act f).perform c = (.ok a, c') ↔
      ∃ s, act.perform c.state = (.ok a, s) ∧ { c with state := s } = c' := by
  rw [work, Action.perform_mapError_eq_ok, Action.perform_onPart_eq_ok]

theorem perform_during_task_eq_ok {act : Workspace.Task σ α} {c c' : Console σ} :
    (during deed (task act)).perform c = (.ok a, c') ↔
      ∃ s, act.perform c.state = (.ok a, s) ∧ { c with state := s } = c' := by
  rw [during, Action.perform_mapError_eq_ok, task, perform_work_eq_ok]

theorem perform_during_tableTask_eq_ok {act : Workspace.TableTask σ α} {c c' : Console σ} :
    (during deed (tableTask act)).perform c = (.ok a, c') ↔
      ∃ s, act.perform c.state = (.ok a, s) ∧ { c with state := s } = c' := by
  rw [during, Action.perform_mapError_eq_ok, tableTask, perform_work_eq_ok]

end Run

theorem Desk.tester_workers_pos {σ : Type} (d : Desk σ) (workers : Option Nat) :
    0 < (d.tester workers).workers :=
  Nat.lt_of_lt_of_le Nat.zero_lt_one (Nat.le_max_right _ _)

theorem Desk.prints_present {σ : Type} (d : Desk σ) (v : Json.Value) {act : Run σ Unit}
    (h : Run.Prints act) : Run.Prints (d.present v act) := by
  rw [Desk.present]
  split
  · exact Run.prints_line _
  · exact h

theorem Desk.confirm_keeps {σ γ : Type} (d : Desk σ) (question : String) (agreed : Bool)
    (view : Console σ → γ) : (d.confirm question agreed).Keeps view := by
  cases agreed with
  | true => exact .pure _
  | false => exact .ask _

/-- A question changes nothing, and an agreement given beforehand is no refusal. -/
theorem Desk.triple_confirm {σ : Type} (d : Desk σ) (question : String) (agreed : Bool)
    (c : Console σ) : (d.confirm question agreed).Triple c
      (fun yes c' => c' = c ∧
        (yes = false → agreed = false ∧ d.operator.confirms question = .ok false))
      fun _ c' => c' = c := by
  cases agreed with
  | true => exact .pure ⟨rfl, fun h => by cases h⟩
  | false =>
    refine .ask (fun yes hanswer => ⟨rfl, ?_⟩) fun _ _ => rfl
    rintro rfl
    exact ⟨rfl, hanswer⟩

end ChannelKeeper
