import ChannelKeeper.Proofs.Lists
import ChannelKeeper.Text.Amount

/-!
# Numbers in texts

The text of a number is its digits, behind a minus where it is negative. That of a count has
commas between them: one before each group of three, counted from the right, that has a digit
in front, and no other. It is the only such text, so the rule leaves nothing open. This holds
of every integer, also of the least one of 64 bits, whose absolute value does not fit them.
Nothing is said of sizes, which are rounded.
-/

namespace ChannelKeeper.Text

-- ---------------------------------------------------------------------------
-- Decimals
-- ---------------------------------------------------------------------------

theorem isDigit_of_mem_toString {c : Char} {n : Nat} (h : c ∈ (toString n).toList) :
    c.isDigit := by
  rw [Nat.toString_eq_ofList_toDigits, String.toList_ofList] at h
  exact Nat.isDigit_of_mem_toDigits (by decide) (by decide) h

theorem not_mem_toString {c : Char} (hc : c.isDigit = false) (n : Nat) :
    c ∉ (toString n).toList := by
  intro h
  simp [isDigit_of_mem_toString h] at hc

def signOf (n : Int) : List Char := if n < 0 then ['-'] else []

theorem toList_toString (n : Int) :
    (toString n).toList = signOf n ++ (toString n.natAbs).toList := by
  rw [Int.toString_eq_repr, Int.repr_eq_if, signOf]
  by_cases hn : n < 0
  · have habs : (-n).toNat = n.natAbs := by omega
    rw [if_neg (by omega), if_pos hn, habs, String.toList_append]
    rfl
  · have habs : n.toNat = n.natAbs := by omega
    rw [if_pos (by omega), if_neg hn, habs]
    rfl

theorem eq_minus_of_mem_signOf {c : Char} {n : Int} (h : c ∈ signOf n) : c = '-' := by
  unfold signOf at h
  split at h
  · exact List.mem_singleton.mp h
  · contradiction

theorem minus_or_isDigit_of_mem_toString {c : Char} {n : Int} (h : c ∈ (toString n).toList) :
    c = '-' ∨ c.isDigit := by
  rw [toList_toString, List.mem_append] at h
  exact h.imp eq_minus_of_mem_signOf isDigit_of_mem_toString

-- ---------------------------------------------------------------------------
-- Grouped texts
-- ---------------------------------------------------------------------------

def digitCount (text : List Char) : Nat := text.countP Char.isDigit

def withoutCommas (text : List Char) : List Char := text.filter (· ≠ ',')

/-- Commas stand between digits, and where groups of three begin. -/
structure HasGroups (text : List Char) : Prop where
  /-- So no comma is first or last, and none is next to a sign. -/
  between {before after} : text = before ++ ',' :: after →
    before.getLast?.any Char.isDigit ∧ after.head?.any Char.isDigit
  comma_iff {before c after} : text = before ++ c :: after → c.isDigit →
    (before.getLast? = some ',' ↔ digitCount (c :: after) % 3 = 0 ∧ 0 < digitCount before)

/-- The number, with nothing added to it but such commas. -/
structure IsGrouped (n : Int) (text : String) : Prop where
  lossless : withoutCommas text.toList = (toString n).toList
  groups : HasGroups text.toList

theorem ne_comma_of_isDigit {c : Char} (h : c.isDigit) : c ≠ ',' := by
  rintro rfl
  contradiction

@[simp] theorem withoutCommas_comma (text : List Char) :
    withoutCommas (',' :: text) = withoutCommas text := rfl

theorem withoutCommas_cons {c : Char} (h : c ≠ ',') (text : List Char) :
    withoutCommas (c :: text) = c :: withoutCommas text :=
  List.filter_cons_of_pos (by simpa using h)

theorem digitCount_withoutCommas (text : List Char) :
    digitCount (withoutCommas text) = digitCount text := by
  rw [digitCount, withoutCommas, List.countP_filter]
  refine List.countP_congr fun c _ => ?_
  simpa using ne_comma_of_isDigit

theorem digitCount_eq_length {digits : List Char} (h : ∀ c ∈ digits, c.isDigit) :
    digitCount digits = digits.length :=
  List.countP_eq_length.mpr h

-- ---------------------------------------------------------------------------
-- One text for each number
-- ---------------------------------------------------------------------------

section
variable {before u v : List Char}

/-- Of two grouped texts that have begun alike, where one goes on with a comma so does the other. -/
theorem HasGroups.head?_comma (hu : HasGroups (before ++ ',' :: u)) (hv : HasGroups (before ++ v))
    (h : withoutCommas u = withoutCommas v) : v.head? = some ',' := by
  cases u with
  | nil => simpa using (hu.between rfl).2
  | cons d u =>
    have hdigit : d.isDigit := by simpa using (hu.between rfl).2
    have hd : d ≠ ',' := ne_comma_of_isDigit hdigit
    cases v with
    | nil =>
      rw [withoutCommas_cons hd] at h
      contradiction
    | cons c v =>
      by_contra hcomma
      have hcount : digitCount (d :: u) = digitCount (c :: v) := by
        rw [← digitCount_withoutCommas, h, digitCount_withoutCommas]
      rw [withoutCommas_cons hd, withoutCommas_cons (by simpa using hcomma)] at h
      obtain rfl : d = c := (List.cons.inj h).1
      obtain ⟨hgroup, hfront⟩ :=
        (hu.comma_iff (List.append_cons before ',' (d :: u)) hdigit).mp (by simp)
      have hlast : before.getLast? = some ',' := by
        refine (hv.comma_iff rfl hdigit).mpr ⟨hcount ▸ hgroup, ?_⟩
        simpa [digitCount] using hfront
      -- then the first text has two commas side by side
      obtain ⟨front, rfl⟩ := List.getLast?_eq_some_iff.mp hlast
      have hnext := (hu.between (List.append_assoc front [','] (',' :: d :: u))).2
      contradiction

theorem HasGroups.head?_comma_iff (hu : HasGroups (before ++ u)) (hv : HasGroups (before ++ v))
    (h : withoutCommas u = withoutCommas v) : u.head? = some ',' ↔ v.head? = some ',' := by
  constructor
  · intro hcomma
    obtain ⟨u, rfl⟩ := List.head?_eq_some_iff.mp hcomma
    exact hu.head?_comma hv h
  · intro hcomma
    obtain ⟨v, rfl⟩ := List.head?_eq_some_iff.mp hcomma
    exact hv.head?_comma hu h.symm

/-- A grouped text is known by what it is without its commas. -/
theorem HasGroups.eq_of_withoutCommas (before : List Char) (hu : HasGroups (before ++ u))
    (hv : HasGroups (before ++ v)) (h : withoutCommas u = withoutCommas v) : u = v := by
  -- along both texts at once: `before` is what they have begun with
  have hcomma := hu.head?_comma_iff hv h
  induction u generalizing before v with
  | nil =>
    cases v with
    | nil => rfl
    | cons d v =>
      have hd : d ≠ ',' := by simpa using hcomma
      rw [withoutCommas_cons hd] at h
      contradiction
  | cons c u ih =>
    obtain ⟨w, rfl, hrest⟩ : ∃ w, v = c :: w ∧ withoutCommas u = withoutCommas w := by
      by_cases hc : c = ','
      · subst hc
        obtain ⟨w, rfl⟩ := List.head?_eq_some_iff.mp (hcomma.mp rfl)
        exact ⟨w, rfl, h⟩
      · rw [withoutCommas_cons hc] at h
        cases v with
        | nil => contradiction
        | cons d w =>
          have hd : d ≠ ',' := by simpa [hc] using hcomma
          rw [withoutCommas_cons hd] at h
          obtain ⟨rfl, hrest⟩ := List.cons.inj h
          exact ⟨w, rfl, hrest⟩
    rw [List.append_cons] at hu hv
    rw [ih (before ++ [c]) hu hv hrest (hu.head?_comma_iff hv hrest)]

end

-- ---------------------------------------------------------------------------
-- Digits with more digits behind them
-- ---------------------------------------------------------------------------

/-- A digit and the comma after it, if it has one. -/
def withComma (behind : Nat) (c : Char) : List Char :=
  if behind ≠ 0 ∧ behind % 3 = 0 then [c, ','] else [c]

/-- Digits grouped with `behind` more to come, so that what stands in front can be told apart. -/
def groupBefore (behind : Nat) : List Char → List Char
  | [] => []
  | c :: rest => withComma (rest.length + behind) c ++ groupBefore behind rest

theorem groupDigits_eq (digits : List Char) : groupDigits digits = groupBefore 0 digits := by
  induction digits with
  | nil => rfl
  | cons c rest ih =>
    simp only [groupDigits, groupBefore, withComma, Nat.add_zero, ih, ne_eq,
      List.length_eq_zero_iff]
    split_ifs <;> rfl

section
variable {digits before after left right : List Char} {behind : Nat} {c d : Char}

theorem groupBefore_append (behind : Nat) (front back : List Char) :
    groupBefore behind (front ++ back) =
      groupBefore (back.length + behind) front ++ groupBefore behind back := by
  induction front with
  | nil => rfl
  | cons c rest ih =>
    rw [List.cons_append, groupBefore, groupBefore, ih, List.length_append, Nat.add_assoc,
      List.append_assoc]

theorem withoutCommas_groupBefore (h : ∀ c ∈ digits, c.isDigit) :
    withoutCommas (groupBefore behind digits) = digits := by
  induction digits with
  | nil => rfl
  | cons c rest ih =>
    obtain ⟨hc, hrest⟩ := List.forall_mem_cons.mp h
    rw [groupBefore, withComma]
    split_ifs
    · rw [List.cons_append, withoutCommas_cons (ne_comma_of_isDigit hc), List.singleton_append,
        withoutCommas_comma, ih hrest]
    · rw [List.singleton_append, withoutCommas_cons (ne_comma_of_isDigit hc), ih hrest]

theorem digitCount_groupBefore (h : ∀ c ∈ digits, c.isDigit) :
    digitCount (groupBefore behind digits) = digits.length := by
  rw [← digitCount_withoutCommas, withoutCommas_groupBefore h, digitCount_eq_length h]

theorem head?_groupBefore (behind : Nat) (digits : List Char) :
    (groupBefore behind digits).head? = digits.head? := by
  cases digits with
  | nil => rfl
  | cons c rest =>
    rw [groupBefore, withComma]
    split_ifs <;> rfl

theorem withComma_eq_append (h : withComma behind d = left ++ c :: right) :
    (left = [] ∧ c = d) ∨ (left = [d] ∧ c = ',' ∧ right = [] ∧ behind ≠ 0 ∧ behind % 3 = 0) := by
  unfold withComma at h
  split_ifs at h with hgroup
  · rcases List.cons_eq_append_iff.mp h with ⟨hleft, hdigit⟩ | ⟨rest, hleft, hcomma⟩
    · exact .inl ⟨hleft, (List.cons.inj hdigit).1⟩
    · obtain ⟨rfl, hplace⟩ := List.singleton_eq_append_iff.mp hcomma |>.resolve_right (by simp)
      obtain ⟨rfl, rfl⟩ := List.cons.inj hplace
      exact .inr ⟨hleft, rfl, rfl, hgroup⟩
  · obtain ⟨hleft, hplace⟩ := List.singleton_eq_append_iff.mp h |>.resolve_right (by simp)
    exact .inl ⟨hleft, (List.cons.inj hplace).1⟩

theorem groupBefore_eq_append (h : groupBefore behind digits = before ++ c :: after) :
    ∃ front d back left right, digits = front ++ d :: back ∧
      withComma (back.length + behind) d = left ++ c :: right ∧
      before = groupBefore (back.length + 1 + behind) front ++ left ∧
      after = right ++ groupBefore behind back := by
  induction digits generalizing before with
  | nil => simp [groupBefore] at h
  | cons d rest ih =>
    rcases Lists.append_eq_append_cons h with ⟨right, hpiece, hafter⟩ | ⟨more, rfl, hrest⟩
    · exact ⟨[], d, rest, before, right, rfl, hpiece, rfl, hafter⟩
    · obtain ⟨front, e, back, left, right, rfl, hpiece, rfl, hafter⟩ := ih hrest
      refine ⟨d :: front, e, back, left, right, rfl, hpiece, ?_, hafter⟩
      rw [groupBefore, List.length_append, List.length_cons, Nat.add_assoc, List.append_assoc]

theorem getLast?_groupBefore (h : ∀ c ∈ digits, c.isDigit) (hbehind : behind ≠ 0) :
    (groupBefore behind digits).getLast? = some ',' ↔ behind % 3 = 0 ∧ 0 < digits.length := by
  rcases List.eq_nil_or_concat digits with rfl | ⟨front, d, rfl⟩
  · simp [groupBefore]
  · have hd : d ≠ ',' := ne_comma_of_isDigit (h d (by simp))
    rw [List.concat_eq_append, groupBefore_append, groupBefore, groupBefore, withComma]
    split_ifs with hgroup <;> simp_all

end

-- ---------------------------------------------------------------------------
-- Digits behind a sign
-- ---------------------------------------------------------------------------

section
variable {sign digits before after : List Char} {c : Char} (hsign : ∀ c ∈ sign, c = '-')
include hsign

theorem withoutCommas_signed (text : List Char) :
    withoutCommas (sign ++ text) = sign ++ withoutCommas text := by
  have hkept : sign.filter (· ≠ ',') = sign :=
    List.filter_eq_self.mpr fun c hc => by simp [hsign c hc]
  rw [withoutCommas, List.filter_append, hkept, withoutCommas]

theorem digitCount_signed (text : List Char) : digitCount (sign ++ text) = digitCount text := by
  have hnone : sign.countP Char.isDigit = 0 := by
    refine List.countP_eq_zero.mpr fun c hc => ?_
    rw [hsign c hc]
    decide
  rw [digitCount, List.countP_append, hnone, Nat.zero_add, digitCount]

theorem getLast?_signed (text : List Char) :
    (sign ++ text).getLast? = some ',' ↔ text.getLast? = some ',' := by
  rw [List.getLast?_append]
  cases text.getLast? with
  | none =>
    have hne : sign.getLast? ≠ some ',' := fun h =>
      absurd (hsign ',' (List.mem_of_getLast? h)) (by decide)
    simp [hne]
  | some c => simp

theorem signed_eq_append (h : sign ++ groupDigits digits = before ++ c :: after) (hc : c ≠ '-') :
    ∃ front d back left right, digits = front ++ d :: back ∧
      withComma back.length d = left ++ c :: right ∧
      before = sign ++ groupBefore (back.length + 1) front ++ left ∧
      after = right ++ groupBefore 0 back := by
  rcases Lists.append_eq_append_cons h with ⟨right, rfl, -⟩ | ⟨left, rfl, hplace⟩
  · exact absurd (hsign c (by simp)) hc
  · rw [groupDigits_eq] at hplace
    obtain ⟨front, d, back, left, right, hdigits, hpiece, rfl, hafter⟩ :=
      groupBefore_eq_append hplace
    exact ⟨front, d, back, left, right, hdigits, hpiece, (List.append_assoc ..).symm, hafter⟩

theorem hasGroups_signed (hdigits : ∀ c ∈ digits, c.isDigit) :
    HasGroups (sign ++ groupDigits digits) := by
  constructor
  · intro before after h
    obtain ⟨front, d, back, left, right, rfl, hpiece, rfl, rfl⟩ :=
      signed_eq_append hsign h (by decide)
    have hd : d.isDigit := hdigits d (by simp)
    rcases withComma_eq_append hpiece with ⟨-, rfl⟩ | ⟨rfl, -, rfl, hback, -⟩
    · contradiction
    · obtain ⟨e, rest, rfl⟩ := List.exists_cons_of_length_pos (Nat.pos_of_ne_zero hback)
      have he : e.isDigit := hdigits e (by simp)
      simp [head?_groupBefore, hd, he]
  · intro before c after h hc
    obtain ⟨front, d, back, left, right, rfl, hpiece, rfl, rfl⟩ :=
      signed_eq_append hsign h (by rintro rfl; contradiction)
    rcases withComma_eq_append hpiece with ⟨rfl, rfl⟩ | ⟨-, rfl, -⟩
    · obtain ⟨hfront, hback⟩ := List.forall_mem_append.mp hdigits
      have hafter : c :: (right ++ groupBefore 0 back) = groupBefore 0 (c :: back) := by
        rw [groupBefore, Nat.add_zero, hpiece]
        rfl
      rw [List.append_nil, getLast?_signed hsign, getLast?_groupBefore hfront (by omega), hafter,
        digitCount_groupBefore hback, digitCount_signed hsign, digitCount_groupBefore hfront,
        List.length_cons]
    · contradiction

end

-- ---------------------------------------------------------------------------
-- Counts
-- ---------------------------------------------------------------------------

theorem toList_countText (n : Int) :
    (countText n).toList = signOf n ++ groupDigits (toString n.natAbs).toList := by
  rw [Nat.toString_eq_ofList_toDigits, String.toList_ofList]
  unfold countText signOf
  dsimp only
  split_ifs
  · rw [String.toList_append, String.toList_ofList, String.toList_ofList]
  · rw [String.toList_ofList, List.nil_append]

theorem isGrouped_countText (n : Int) : IsGrouped n (countText n) := by
  have hsign : ∀ c ∈ signOf n, c = '-' := fun _ => eq_minus_of_mem_signOf
  have hdigits : ∀ c ∈ (toString n.natAbs).toList, c.isDigit := fun _ => isDigit_of_mem_toString
  constructor
  · rw [toList_countText, toList_toString, withoutCommas_signed hsign, groupDigits_eq,
      withoutCommas_groupBefore hdigits]
  · rw [toList_countText]
    exact hasGroups_signed hsign hdigits

/-- A count has the one text that the rule gives it. -/
theorem isGrouped_iff {n : Int} {text : String} : IsGrouped n text ↔ text = countText n := by
  have hcount := isGrouped_countText n
  constructor
  · intro h
    have heq := h.lossless.trans hcount.lossless.symm
    exact String.toList_inj.mp (HasGroups.eq_of_withoutCommas [] h.groups hcount.groups heq)
  · rintro rfl
    exact hcount

example : countText (-9223372036854775808) = "-9,223,372,036,854,775,808" := by
  decide +kernel

end ChannelKeeper.Text
