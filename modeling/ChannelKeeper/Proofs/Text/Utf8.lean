import ChannelKeeper.Text.Utf8
import Mathlib.Tactic.SplitIfs

/-!
# UTF-8 read back

The octets of a text are read as the text, so two texts have different octets. Nothing is said
of octets that no text has.
-/

namespace ChannelKeeper.Text.Utf8

variable {n low high bits b : Nat}

-- ---------------------------------------------------------------------------
-- First octets
-- ---------------------------------------------------------------------------

theorem first_one (h : n < 0x80) : first n = ([some (Char.ofNat n)], .start) := by
  simp [first, h]

theorem first_two (h : 0x80 ≤ n) (hn : n < 0x800) :
    first (0xC0 + n / 0x40) = ([], .inside 1 0x80 0xBF (n / 0x40)) := by
  have hhigh : ¬0xC0 + n / 0x40 < 0x80 := by omega
  have hrange : 0xC2 ≤ 0xC0 + n / 0x40 ∧ 0xC0 + n / 0x40 ≤ 0xDF := by omega
  simp [first, hhigh, hrange]

/-- The bounds of the second octet leave out what is too short or a surrogate. -/
theorem first_three (h : 0x800 ≤ n) (hn : n < 0x10000) (hvalid : n < 0xD800 ∨ 0xDFFF < n) :
    ∃ low high, first (0xE0 + n / 0x1000) = ([], .inside 2 low high (n / 0x1000)) ∧
      low ≤ 0x80 + n / 0x40 % 0x40 ∧ 0x80 + n / 0x40 % 0x40 ≤ high := by
  by_cases hshort : n / 0x1000 = 0
  · exact ⟨0xA0, 0xBF, by simp [first, hshort], by omega, by omega⟩
  · by_cases hsurrogate : n / 0x1000 = 0xD
    · exact ⟨0x80, 0x9F, by simp [first, hsurrogate], by omega, by omega⟩
    · refine ⟨0x80, 0xBF, ?_, by omega, by omega⟩
      rw [first, if_neg (by omega), if_neg (by omega), if_neg (by omega), if_neg (by omega),
        if_pos (by omega), Nat.add_sub_cancel_left]

/-- Those of the longest characters leave out what is too short or too great. -/
theorem first_four (h : 0x10000 ≤ n) (hn : n < 0x110000) :
    ∃ low high, first (0xF0 + n / 0x40000) = ([], .inside 3 low high (n / 0x40000)) ∧
      low ≤ 0x80 + n / 0x1000 % 0x40 ∧ 0x80 + n / 0x1000 % 0x40 ≤ high := by
  by_cases hshort : n / 0x40000 = 0
  · exact ⟨0x90, 0xBF, by simp [first, hshort], by omega, by omega⟩
  · by_cases hgreat : n / 0x40000 = 4
    · exact ⟨0x80, 0x8F, by simp [first, hgreat], by omega, by omega⟩
    · refine ⟨0x80, 0xBF, ?_, by omega, by omega⟩
      rw [first, if_neg (by omega), if_neg (by omega), if_neg (by omega), if_neg (by omega),
        if_neg (by omega), if_neg (by omega), if_neg (by omega), if_pos (by omega),
        Nat.add_sub_cancel_left]

-- ---------------------------------------------------------------------------
-- Later octets
-- ---------------------------------------------------------------------------

theorem decodeFrom_first {found : List (Option Char)} {s : State} (h : first b = (found, s))
    (rest : List Nat) : decodeFrom .start (b :: rest) = found ++ decodeFrom s rest := by
  rw [decodeFrom, step, h]

theorem decodeFrom_inside {owed : Nat} (howed : 1 < owed) (hlow : low ≤ b) (hhigh : b ≤ high)
    (rest : List Nat) : decodeFrom (.inside owed low high bits) (b :: rest) =
      decodeFrom (.inside (owed - 1) 0x80 0xBF (bits * 0x40 + (b - 0x80))) rest := by
  simp [decodeFrom, step, hlow, hhigh, show ¬owed ≤ 1 by omega]

theorem decodeFrom_last (hlow : low ≤ b) (hhigh : b ≤ high) (rest : List Nat) :
    decodeFrom (.inside 1 low high bits) (b :: rest) =
      some (Char.ofNat (bits * 0x40 + (b - 0x80))) :: decodeFrom .start rest := by
  simp [decodeFrom, step, hlow, hhigh]

-- ---------------------------------------------------------------------------
-- Texts
-- ---------------------------------------------------------------------------

theorem decodeFrom_encodeChar (c : Char) (rest : List Nat) :
    decodeFrom .start (encodeChar c ++ rest) = some c :: decodeFrom .start rest := by
  have hvalid : c.toNat < 0xD800 ∨ 0xDFFF < c.toNat ∧ c.toNat < 0x110000 := c.valid
  have hread {bits : Nat} (h : bits = c.toNat) : Char.ofNat bits = c := by
    rw [h, Char.ofNat_toNat]
  unfold encodeChar
  simp only
  split_ifs with h1 h2 h3
  · rw [List.singleton_append, decodeFrom_first (first_one h1), hread rfl]
    rfl
  · rw [List.cons_append, decodeFrom_first (first_two (by omega) h2), List.nil_append,
      List.singleton_append, decodeFrom_last (by omega) (by omega), hread (by omega)]
  · obtain ⟨low, high, hfirst, hlow, hhigh⟩ := first_three (by omega) h3 (by omega)
    rw [List.cons_append, decodeFrom_first hfirst, List.nil_append, List.cons_append,
      decodeFrom_inside (by omega) hlow hhigh, List.singleton_append,
      decodeFrom_last (by omega) (by omega), hread (by omega)]
  · obtain ⟨low, high, hfirst, hlow, hhigh⟩ := first_four (n := c.toNat) (by omega) (by omega)
    rw [List.cons_append, decodeFrom_first hfirst, List.nil_append, List.cons_append,
      decodeFrom_inside (by omega) hlow hhigh, List.cons_append,
      decodeFrom_inside (by omega) (by omega) (by omega), List.singleton_append,
      decodeFrom_last (by omega) (by omega), hread (by omega)]

theorem decodeFrom_encode (s : List Char) : decodeFrom .start (encode s) = s.map some := by
  induction s with
  | nil => rfl
  | cons c rest ih =>
    rw [encode, List.flatMap_cons, decodeFrom_encodeChar, ← encode, ih, List.map_cons]

theorem decodeLossy_encode (s : String) : decodeLossy (encode s.toList) = s := by
  rw [decodeLossy, decodeFrom_encode, List.map_map]
  simp [Function.comp_def]

theorem encode_injective : Function.Injective encode := by
  intro s t h
  have hread := congrArg (decodeFrom .start) h
  rw [decodeFrom_encode, decodeFrom_encode] at hread
  exact (List.map_inj_right fun _ _ => Option.some.inj).mp hread

end ChannelKeeper.Text.Utf8
