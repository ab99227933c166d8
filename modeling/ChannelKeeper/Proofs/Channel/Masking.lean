import ChannelKeeper.Channel.Basic

/-!
# Hidden secrets

What is shown of a channel whose secrets are hidden depends on little of them: of a
secret of more than eight characters on the first and the last four, and of a shorter
one on nothing but that it is not empty.
-/

namespace ChannelKeeper

/-- Secrets that differ in what is hidden of them at most. -/
inductive SecretsAlike (a b : String) : Prop
  | same (h : a = b)
  | long (ha : 8 < a.toList.length) (hb : 8 < b.toList.length)
      (first : a.toList.take 4 = b.toList.take 4)
      (last : Credential.lastChars 4 a.toList = Credential.lastChars 4 b.toList)
  | short (ha : 1 ≤ a.toList.length ∧ a.toList.length ≤ 8)
      (hb : 1 ≤ b.toList.length ∧ b.toList.length ≤ 8)

namespace Channel

theorem hideSecret_short {secret : String}
    (h : 1 ≤ secret.toList.length ∧ secret.toList.length ≤ 8) :
    hideSecret secret = Credential.mask := by
  have hne : secret.isEmpty = false := by
    rw [Bool.eq_false_iff]
    intro he
    rw [String.isEmpty_iff] at he
    subst he
    cases h.1
  simp only [hideSecret, hne, Bool.false_eq_true, if_false, Credential.masked, h.2, if_true]

theorem hideSecret_long {secret : String} (h : 8 < secret.toList.length) : hideSecret secret =
    String.ofList (secret.toList.take 4 ++ Credential.mask.toList ++
      Credential.lastChars 4 secret.toList) := by
  have hne : secret.isEmpty = false := by
    rw [Bool.eq_false_iff]
    intro he
    rw [String.isEmpty_iff] at he
    subst he
    cases h
  have hlong : ¬ secret.toList.length ≤ 8 := Nat.not_le_of_lt h
  simp only [hideSecret, hne, Bool.false_eq_true, if_false, Credential.masked, hlong]

theorem hideSecret_congr {a b : String} (h : SecretsAlike a b) : hideSecret a = hideSecret b := by
  cases h with
  | same h => rw [h]
  | long ha hb first last => rw [hideSecret_long ha, hideSecret_long hb, first, last]
  | short ha hb => rw [hideSecret_short ha, hideSecret_short hb]

/-- Channels that are the same but for their secrets. -/
structure LooksLike (c d : Channel) : Prop where
  key : SecretsAlike c.key d.key
  other : SecretsAlike c.other d.other
  rest : { c with key := "", other := "" } = { d with key := "", other := "" }

theorem LooksLike.masked_eq {c d : Channel} (h : c.LooksLike d) : c.masked = d.masked := by
  have hmasked : ∀ e : Channel, e.masked =
      { ({ e with key := "", other := "" } : Channel) with
        key := hideSecret e.key, other := hideSecret e.other } := fun _ => rfl
  rw [hmasked c, hmasked d, hideSecret_congr h.key, hideSecret_congr h.other, h.rest]

theorem LooksLike.selects_eq {c d : Channel} (h : c.LooksLike d) (f : ChannelFilter) :
    f.selects c = f.selects d := by
  have hselects : ∀ e : Channel,
      f.selects e = f.selects { e with key := "", other := "" } := fun _ => rfl
  rw [hselects c, hselects d, h.rest]

theorem LooksLike.id_eq {c d : Channel} (h : c.LooksLike d) : c.id = d.id :=
  show ({ c with key := "", other := "" } : Channel).id = _ from h.rest ▸ rfl

end Channel

end ChannelKeeper
