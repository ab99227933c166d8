import ChannelKeeper.Proofs.Backup.Loading
import ChannelKeeper.Proofs.Channel.Fields

/-!
# Infos that are written as they were read

The info of a row is read from a cell and written to a cell again. An info that is
nothing is written as an empty object and stays one from then on. Any other is read again
as it was, if it is no text or a text that is no JSON, and if its floats read back.
Nothing is said of blank texts and of texts that are JSON themselves, which a cell can
give by quoting them.
-/

namespace ChannelKeeper.ChannelColumn

open Json

/-- The text that this is written as gives it back, unless it is nothing. -/
structure InfoStays (v : Value) : Prop where
  texts : ∀ s, v = .string s → Text.isBlankText s = false ∧ Value.read? s = none
  floats : ∀ x, .float x ∈ v.numbers → (Number.float x).ReadsBack

def orEmpty : Value → Value
  | .null => .object []
  | v => v

/-- What is read again of an info that is written. -/
def reread (v : Value) : Value := infoOfCell (some (infoText v))

theorem reread_null : reread .null = .object [] := rfl

theorem infoText_orEmpty (v : Value) : infoText (orEmpty v) = infoText v := by
  cases v <;> rfl

theorem reread_string {s : String} (hblank : Text.isBlankText s = false)
    (hread : Value.read? s = none) : reread (.string s) = .string s := by
  rw [reread, infoText, infoOfCell, hblank, hread]
  rfl

theorem nesting_infoOfCell (cell : Option String) :
    (infoOfCell cell).nesting ≤ Value.depthLimit := by
  cases cell with
  | none => exact Nat.zero_le _
  | some s =>
    rw [infoOfCell]
    by_cases hblank : Text.isBlankText s
    · rw [if_pos hblank]
      exact Nat.zero_le _
    · rw [if_neg hblank]
      cases hread : Value.read? s with
      | none => exact Nat.zero_le _
      | some v => exact Value.nesting_read? hread

/-- An info that came from a cell is written and read again. -/
theorem reread_infoOfCell (cell : Option String) (h : InfoStays (infoOfCell cell)) :
    reread (infoOfCell cell) = orEmpty (infoOfCell cell) := by
  have hwellFormed := wellFormed_infoOfCell cell
  have hnesting := nesting_infoOfCell cell
  generalize infoOfCell cell = v at *
  match v with
  | .null => exact reread_null
  | .string s =>
    obtain ⟨hblank, hread⟩ := h.texts s rfl
    exact reread_string hblank hread
  | .bool _ | .number _ | .array _ | .object _ =>
    exact InfoReadsBack.infoOfCell ⟨nofun, nofun, hwellFormed, h.floats, hnesting⟩

/-- The info is nothing, or a cell gives it back: it is no text, or a text that is no JSON. -/
inductive InfoKept : Value → Prop
  | null : InfoKept .null
  | text (hblank : Text.isBlankText s = false) (hread : Value.read? s = none) : InfoKept (.string s)
  | value (h : InfoReadsBack v) : InfoKept v

theorem InfoKept.reread_eq {v : Value} (h : InfoKept v) : reread v = orEmpty v := by
  cases h with
  | null => exact reread_null
  | text hblank hread => exact reread_string hblank hread
  | value h =>
    have hsame : orEmpty v = v := by
      cases v with
      | null => exact absurd rfl h.notNull
      | string | bool | number | array | object => rfl
    rw [hsame]
    exact h.infoOfCell

theorem infoStays_null : InfoStays .null := ⟨nofun, fun x hx => by cases hx⟩

theorem infoStays_text {s : String} (hblank : Text.isBlankText s = false)
    (hread : Value.read? s = none) : InfoStays (infoOfCell (some s)) := by
  have hinfo : infoOfCell (some s) = .string s := by
    rw [infoOfCell, hblank, hread]
    rfl
  rw [hinfo]
  refine ⟨?_, fun x hx => by cases hx⟩
  rintro _ ⟨⟩
  exact ⟨hblank, hread⟩

/-- Nothing in a cell becomes an empty object, and a float another one. -/
theorem info_changed_by_rewriting :
    infoOfCell none = .null ∧ reread (infoOfCell none) = .object [] ∧
      reread (infoOfCell none) ≠ infoOfCell none ∧
      reread (infoOfCell (some "1e-24")) ≠ infoOfCell (some "1e-24") := by
  refine ⟨rfl, rfl, nofun, fun h => ?_⟩
  have hnumbers : (reread (infoOfCell (some "1e-24"))).numbers ≠
      (infoOfCell (some "1e-24")).numbers := by decide +kernel
  exact hnumbers (congrArg Value.numbers h)

end ChannelKeeper.ChannelColumn
