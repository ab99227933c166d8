import Mathlib.Data.List.TakeWhile
import ChannelKeeper.Json.Reader
import ChannelKeeper.Json.Writer

/-!
# Written numbers

A written number is read up to the first character that cannot go on with it, and
an integer of 64 bits reads back as itself. For a float this is a property of the
number, because the reader rounds in short steps: nothing is said here of which
floats have it, except that an infinite one, written as `null`, has not.
-/

namespace ChannelKeeper.Json

/-- The text written for the number is read as this number. -/
def Number.ReadsBack (n : Number) : Prop :=
  ∃ text, readNumber (writeNumber n) = some (text, []) ∧ text.toNumber? = some n

instance (n : Number) : Decidable n.ReadsBack :=
  decidable_of_iff (((readNumber (writeNumber n)).bind fun (text, rest) =>
      if rest = [] then text.toNumber? else none) = some n) (by
    simp only [Number.ReadsBack, Option.bind_eq_some_iff, Prod.exists]
    constructor
    · rintro ⟨text, rest, hread, hn⟩
      split at hn
      · rename_i hrest
        exact ⟨text, hrest ▸ hread, hn⟩
      · cases hn
    · rintro ⟨text, hread, hn⟩
      exact ⟨text, [], hread, hn⟩)

def continuesNumber (c : Char) : Bool :=
  c.isDigit || c == '.' || c == 'e' || c == 'E' || c == '+' || c == '-'

/-- A number in front of the text ends there. -/
def EndsNumber (rest : List Char) : Prop := ∀ c ∈ rest.head?, continuesNumber c = false

def readUnsigned (negative : Bool) (s : List Char) : Option (NumberText × List Char) := do
  let (whole, s) ← readWhole s
  let (fraction, s) ← readFraction s
  let (exponent, s) ← readExponent s
  return (⟨negative, whole, fraction, exponent⟩, s)

-- ---------------------------------------------------------------------------
-- The parts of a number
-- ---------------------------------------------------------------------------

theorem readNumber_of_ne {c : Char} (h : c ≠ '-') (s : List Char) :
    readNumber (c :: s) = readUnsigned false (c :: s) := by
  unfold readNumber
  split
  rename_i hm
  split at hm
  · rename_i he
    exact absurd (List.cons.inj he).1 h
  · cases hm
    rfl

theorem readUnsigned_eq_some {negative : Bool} {s left : List Char} {text : NumberText} :
    readUnsigned negative s = some (text, left) ↔ ∃ whole s₁ fraction s₂ exponent,
      readWhole s = some (whole, s₁) ∧ readFraction s₁ = some (fraction, s₂) ∧
      readExponent s₂ = some (exponent, left) ∧ text = ⟨negative, whole, fraction, exponent⟩ := by
  simp only [readUnsigned, bind, pure, Option.bind_eq_some_iff, Prod.exists, Option.some.injEq,
    Prod.mk.injEq]
  constructor
  · rintro ⟨whole, s₁, hw, fraction, s₂, hf, exponent, s₃, he, rfl, rfl⟩
    exact ⟨whole, s₁, fraction, s₂, exponent, hw, hf, he, rfl⟩
  · rintro ⟨whole, s₁, fraction, s₂, exponent, hw, hf, he, rfl⟩
    exact ⟨whole, s₁, hw, fraction, s₂, hf, exponent, left, he, rfl, rfl⟩

-- ---------------------------------------------------------------------------
-- A number in front of a text
-- ---------------------------------------------------------------------------

theorem endsNumber_nil : EndsNumber [] := nofun

theorem endsNumber_cons {c : Char} (h : continuesNumber c = false) (s : List Char) :
    EndsNumber (c :: s) := by
  rintro d ⟨⟩
  exact h

theorem EndsNumber.head_ne {c d : Char} {s : List Char} (h : EndsNumber (c :: s))
    (hd : continuesNumber d = true) : c ≠ d := by
  rintro rfl
  exact Bool.false_ne_true ((h c rfl).symm.trans hd)

theorem EndsNumber.isDigit {c : Char} {s : List Char} (h : EndsNumber (c :: s)) :
    c.isDigit = false := by
  have := h c rfl
  simp_all [continuesNumber]

section

variable {s rest left : List Char} (hr : EndsNumber rest)

include hr

theorem digitsOf_append : digitsOf (s ++ rest) = ((digitsOf s).1, (digitsOf s).2 ++ rest) := by
  induction s with
  | nil =>
    cases rest with
    | nil => rfl
    | cons c r => simp [digitsOf, hr.isDigit]
  | cons c s ih =>
    simp only [digitsOf, Prod.mk.injEq] at ih
    cases hc : c.isDigit <;> simp [digitsOf, hc, ih]

theorem readDigits_append (h : readDigits s = some (digits, left)) :
    readDigits (s ++ rest) = some (digits, left ++ rest) := by
  unfold readDigits at h ⊢
  rw [digitsOf_append hr]
  generalize digitsOf s = found at h ⊢
  obtain ⟨_ | ⟨d, ds⟩, r⟩ := found
  · cases h
  · cases h
    rfl

theorem readWhole_append (h : readWhole s = some (digits, left)) :
    readWhole (s ++ rest) = some (digits, left ++ rest) := by
  cases s with
  | nil => cases h
  | cons c s =>
    by_cases hc : c = '0'
    · subst hc
      simp only [List.cons_append, readWhole] at h ⊢
      cases s with
      | nil =>
        cases h
        cases rest with
        | nil => rfl
        | cons d r => simp [hr.isDigit]
      | cons d s =>
        by_cases hd : d.isDigit
        · simp [hd] at h
        · simp only [List.cons_append, List.head?_cons, Option.any_some, hd, Bool.false_eq_true,
            if_false] at h ⊢
          cases h
          rfl
    · rw [readWhole.eq_2 _ (by simp [hc])] at h
      rw [List.cons_append, readWhole.eq_2 _ (by simp [hc]), ← List.cons_append]
      exact readDigits_append hr h

theorem readFraction_append (h : readFraction s = some (fraction, left)) :
    readFraction (s ++ rest) = some (fraction, left ++ rest) := by
  cases s with
  | nil =>
    cases h
    cases rest with
    | nil => rfl
    | cons c r => exact readFraction.eq_2 _ fun _ he => hr.head_ne rfl (List.cons.inj he).1
  | cons c s =>
    by_cases hc : c = '.'
    · subst hc
      simp only [List.cons_append, readFraction, Option.map_eq_some_iff] at h ⊢
      obtain ⟨⟨digits, r⟩, hd, he⟩ := h
      cases he
      exact ⟨_, readDigits_append hr hd, rfl⟩
    · rw [readFraction.eq_2 _ (by simp [hc])] at h
      cases h
      exact readFraction.eq_2 _ (by simp [hc])

theorem readExponent_append (h : readExponent s = some (exponent, left)) :
    readExponent (s ++ rest) = some (exponent, left ++ rest) := by
  cases s with
  | nil =>
    cases h
    cases rest with
    | nil => rfl
    | cons c r =>
      have he : ¬ (c = 'e' ∨ c = 'E') := not_or.mpr ⟨hr.head_ne rfl, hr.head_ne rfl⟩
      simp [readExponent, he]
  | cons c s =>
    simp only [List.cons_append, readExponent] at h ⊢
    split at h
    · rename_i hc
      rw [if_pos hc]
      simp only [Option.map_eq_some_iff] at h ⊢
      obtain ⟨⟨digits, r⟩, hd, he⟩ := h
      cases he
      have hsign : readExponentSign (s ++ rest) =
          ((readExponentSign s).1, (readExponentSign s).2 ++ rest) := by
        cases s with
        | nil => cases hd
        | cons d s =>
          rw [List.cons_append, readExponentSign.eq_def, readExponentSign.eq_def]
          split <;> simp_all
      rw [hsign]
      exact ⟨_, readDigits_append hr hd, rfl⟩
    · rename_i hc
      cases h
      rw [if_neg hc]
      rfl

theorem readUnsigned_append (h : readUnsigned negative s = some (text, left)) :
    readUnsigned negative (s ++ rest) = some (text, left ++ rest) := by
  obtain ⟨whole, s₁, fraction, s₂, exponent, hw, hf, he, rfl⟩ := readUnsigned_eq_some.mp h
  exact readUnsigned_eq_some.mpr ⟨whole, s₁ ++ rest, fraction, s₂ ++ rest, exponent,
    readWhole_append hr hw, readFraction_append hr hf, readExponent_append hr he, rfl⟩

theorem readNumber_append (h : readNumber s = some (text, left)) :
    readNumber (s ++ rest) = some (text, left ++ rest) := by
  cases s with
  | nil => cases h
  | cons c s =>
    by_cases hc : c = '-'
    · subst hc
      exact readUnsigned_append hr h
    · rw [readNumber_of_ne hc] at h
      rw [List.cons_append, readNumber_of_ne hc]
      exact readUnsigned_append hr h

end

theorem head_of_readNumber (h : readNumber s = some (text, left)) :
    ∃ c r, s = c :: r ∧ (c.isDigit ∨ c = '-') := by
  cases s with
  | nil => cases h
  | cons c r =>
    refine ⟨c, r, rfl, ?_⟩
    by_cases hc : c = '-'
    · exact .inr hc
    · rw [readNumber_of_ne hc] at h
      obtain ⟨whole, s₁, -, -, -, hw, -⟩ := readUnsigned_eq_some.mp h
      by_cases hz : c = '0'
      · exact .inl (hz ▸ by decide)
      · rw [readWhole.eq_2 _ (by simp [hz])] at hw
        refine .inl (Decidable.byContradiction fun hd => ?_)
        simp [readDigits, digitsOf, hd] at hw

-- ---------------------------------------------------------------------------
-- Integers
-- ---------------------------------------------------------------------------

theorem naturalOf_toDigits (n : Nat) : naturalOf (Nat.toDigits 10 n) = n := by
  have h : naturalOf (Nat.toDigits 10 n) = Nat.ofDigitChars 10 (Nat.toDigits 10 n) 0 := by
    simp only [naturalOf, Nat.ofDigitChars, digitValue, Nat.mul_comm]
  rw [h, Nat.ofDigitChars_ten_toDigits]

theorem head_toDigits (n : Nat) (hn : 0 < n) : ∃ d ds, Nat.toDigits 10 n = d :: ds ∧ d ≠ '0' := by
  induction n using Nat.strongRecOn with
  | ind n ih =>
    by_cases h : n < 10
    · exact ⟨n.digitChar, [], Nat.toDigits_of_lt_base h, by simp [Nat.digitChar_eq_zero]; omega⟩
    · obtain ⟨d, ds, hd, hne⟩ := ih (n / 10) (by omega) (by omega)
      refine ⟨d, ds ++ [(n % 10).digitChar], ?_, hne⟩
      rw [Nat.toDigits_of_base_le (by decide) (by omega), hd, List.cons_append]

theorem readDigits_toDigits (n : Nat) :
    readDigits (Nat.toDigits 10 n) = some (Nat.toDigits 10 n, []) := by
  have hd : ∀ c ∈ Nat.toDigits 10 n, c.isDigit = true := fun c hc =>
    Nat.isDigit_of_mem_toDigits (by decide) (by decide) hc
  have hdigits : digitsOf (Nat.toDigits 10 n) = (Nat.toDigits 10 n, []) := by
    rw [digitsOf, List.takeWhile_eq_self_iff.mpr hd, List.dropWhile_eq_nil_iff.mpr hd]
  rw [readDigits, hdigits]
  split
  · rename_i he
    exact absurd (Prod.mk.inj he).1 Nat.toDigits_ne_nil
  · rfl

theorem readUnsigned_toDigits (negative : Bool) (n : Nat) :
    readUnsigned negative (Nat.toDigits 10 n) =
      some (⟨negative, Nat.toDigits 10 n, none, none⟩, []) := by
  have hw : readWhole (Nat.toDigits 10 n) = some (Nat.toDigits 10 n, []) := by
    rcases Nat.eq_zero_or_pos n with rfl | hn
    · rfl
    · obtain ⟨d, ds, hd, hne⟩ := head_toDigits n hn
      rw [← readDigits_toDigits n, hd, readWhole.eq_2 _ (by simp [hne])]
  exact readUnsigned_eq_some.mpr ⟨_, [], none, [], none, hw, rfl, rfl, rfl⟩

theorem writeNumber_ofNat (n : Nat) : writeNumber (.int n) = Nat.toDigits 10 n := by
  have h : toString (n : Int) = toString n := rfl
  rw [writeNumber, h, Nat.toString_eq_ofList_toDigits, String.toList_ofList]

theorem writeNumber_negSucc (n : Nat) :
    writeNumber (.int (.negSucc n)) = '-' :: Nat.toDigits 10 (n + 1) := by
  have h : toString (Int.negSucc n) = "-" ++ toString (n + 1) := rfl
  rw [writeNumber, h, String.toList_append, Nat.toString_eq_ofList_toDigits, String.toList_ofList,
    String.toList_ofList]
  rfl

theorem readNumber_toDigits (n : Nat) :
    readNumber (Nat.toDigits 10 n) = some (⟨false, Nat.toDigits 10 n, none, none⟩, []) := by
  rw [← readUnsigned_toDigits]
  cases hd : Nat.toDigits 10 n with
  | nil => exact absurd hd Nat.toDigits_ne_nil
  | cons c s =>
    have hc : c.isDigit = true :=
      Nat.isDigit_of_mem_toDigits (by decide) (by decide) (hd ▸ List.mem_cons_self)
    refine readNumber_of_ne ?_ s
    rintro rfl
    cases hc

theorem readsBack_int {n : Int} (hl : -(maxNegative : Int) ≤ n) (hu : n ≤ maxUnsigned) :
    (Number.int n).ReadsBack := by
  cases n with
  | ofNat n =>
    have hn : n ≤ maxUnsigned := Int.ofNat_le.mp hu
    refine ⟨⟨false, Nat.toDigits 10 n, none, none⟩, ?_, ?_⟩
    · exact (congrArg readNumber (writeNumber_ofNat n)).trans (readNumber_toDigits n)
    · simp [NumberText.toNumber?, naturalOf_toDigits, hn]
  | negSucc n =>
    have hn : n + 1 ≤ maxNegative := by omega
    refine ⟨⟨true, Nat.toDigits 10 (n + 1), none, none⟩, ?_, ?_⟩
    · rw [writeNumber_negSucc]
      exact readUnsigned_toDigits true (n + 1)
    · simp [NumberText.toNumber?, naturalOf_toDigits, hn, Int.negSucc_eq]

/-- An infinite number is written as `null`. -/
theorem not_readsBack_infinite (negative : Bool) :
    ¬ (Number.float (.infinite negative)).ReadsBack := by
  rintro ⟨text, h, -⟩
  cases h

end ChannelKeeper.Json
