import ChannelKeeper.Proofs.Action
import ChannelKeeper.World

/-!
# The two parts of a world

What an action on the data or on the files of a world does to the whole. The other
part stays as it is.
-/

namespace ChannelKeeper.World

variable {δ φ ε α : Type} {s s' : World δ φ}

theorem data_set (data : δ) (w : World δ φ) :
    ({ w with data := data } : World δ φ).data = data := rfl

theorem set_data (w : World δ φ) : ({ w with data := w.data } : World δ φ) = w := rfl

theorem onData_eq_ok {act : Action δ ε α} {a : α} :
    (act.onPart World.data fun data w => { w with data := data }).perform s = (.ok a, s') ↔
      act.perform s.data = (.ok a, s'.data) ∧ s'.files = s.files := by
  rw [Action.perform_onPart]
  rcases act.perform s.data with ⟨result, d⟩
  obtain ⟨d', f'⟩ := s'
  simp only [Prod.mk.injEq, World.mk.injEq]
  exact ⟨fun ⟨hr, hd, hf⟩ => ⟨⟨hr, hd⟩, hf.symm⟩, fun ⟨⟨hr, hd⟩, hf⟩ => ⟨hr, hd, hf.symm⟩⟩

theorem onFiles_eq_ok {act : Action φ ε α} {a : α} :
    (act.onPart World.files fun files w => { w with files := files }).perform s = (.ok a, s') ↔
      act.perform s.files = (.ok a, s'.files) ∧ s'.data = s.data := by
  rw [Action.perform_onPart]
  rcases act.perform s.files with ⟨result, f⟩
  obtain ⟨d', f'⟩ := s'
  simp only [Prod.mk.injEq, World.mk.injEq]
  exact ⟨fun ⟨hr, hd, hf⟩ => ⟨⟨hr, hf⟩, hd.symm⟩, fun ⟨⟨hr, hf⟩, hd⟩ => ⟨hr, hd.symm, hf⟩⟩

theorem onFiles_keeps {γ : Type} (act : Action φ ε α) (view : δ → γ) :
    (act.onPart World.files fun files w => { w with files := files }).Keeps
      fun s : World δ φ => view s.data :=
  fun _ => rfl

end ChannelKeeper.World
