import ChannelKeeper.Proofs.Lists
import ChannelKeeper.Proofs.Sql.Script
import ChannelKeeper.Proofs.Text.Split

/-!
# Reading what was written

What the reader of scripts makes of texts that are put together from words,
numbers, and quoted texts and names: in front of a delimiter each is one piece,
and pieces are read one after the other. A statement that is written as tokens
is told apart as what it was. Nothing is said of texts that are not written so.
-/

namespace ChannelKeeper.Sql.Script

-- ---------------------------------------------------------------------------
-- Reading on
-- ---------------------------------------------------------------------------

variable {quote : Char}

theorem run_append (r : Reading) (s t : List Char) :
    run quote r (s ++ t) = run quote (run quote r s) t := List.foldl_append

@[simp]
theorem run_nil (r : Reading) : run quote r [] = r := rfl

@[simp]
theorem run_cons (r : Reading) (c : Char) (s : List Char) :
    run quote r (c :: s) = run quote (step quote r c) s := rfl

theorem step_between {r : Reading} (hr : r.mode = .between) (c : Char) :
    step quote r c = start quote r c := by
  simp only [step, hr]

@[simp]
theorem emit_mode (r : Reading) (ts : List Token) : (r.emit ts).mode = .between := rfl

@[simp]
theorem emit_emit (r : Reading) (ts us : List Token) :
    (r.emit ts).emit us = r.emit (ts ++ us) := by
  simp [Reading.emit]

theorem emit_nil {r : Reading} (hr : r.mode = .between) : r.emit [] = r := by
  cases r
  simp_all [Reading.emit]

/-- The same after statements that are complete. -/
def Reading.after (r : Reading) (earlier : List (List Token)) : Reading :=
  { r with done := earlier ++ r.done }

theorem after_start (earlier : List (List Token)) :
    ({} : Reading).after earlier = { done := earlier } := by
  simp [Reading.after]

theorem settle_after (r : Reading) (earlier : List (List Token)) :
    (r.after earlier).settle = r.settle.after earlier := by
  cases hm : r.mode <;> simp [Reading.settle, Reading.after, Reading.emit, hm]

theorem close_after (r : Reading) (earlier : List (List Token)) :
    (r.after earlier).close = r.close.after earlier := by
  simp [Reading.close, Reading.after]

theorem start_after (r : Reading) (earlier : List (List Token)) (c : Char) :
    start quote (r.after earlier) c = (start quote r c).after earlier := by
  simp only [start, close_after, apply_ite (Reading.after · earlier)]
  rfl

theorem step_after (r : Reading) (earlier : List (List Token)) (c : Char) :
    step quote (r.after earlier) c = (step quote r c).after earlier := by
  have hm : (r.after earlier).mode = r.mode := rfl
  cases h : r.mode <;> simp only [step, hm, h, settle_after, start_after] <;>
    first | rfl | (split_ifs <;> rfl)

/-- Statements that are complete do not bear on what comes next. -/
theorem run_after (r : Reading) (earlier : List (List Token)) (s : List Char) :
    run quote (r.after earlier) s = (run quote r s).after earlier := by
  induction s generalizing r with
  | nil => rfl
  | cons c rest ih => rw [run_cons, run_cons, step_after, ih]

-- ---------------------------------------------------------------------------
-- Within a token
-- ---------------------------------------------------------------------------

theorem step_word (r : Reading) (hc : continuesWord c) :
    step quote { r with mode := .word held } c = { r with mode := .word (held ++ [c]) } :=
  if_pos hc

theorem step_number (r : Reading) (hc : continuesNumber held c) :
    step quote { r with mode := .number held } c = { r with mode := .number (held ++ [c]) } :=
  if_pos hc

theorem step_quoted (r : Reading) (mark c : Char) :
    step quote { r with mode := .quoted mark held } c =
      { r with mode := if c = mark then .quote mark held else .quoted mark (held ++ [c]) } := rfl

theorem step_doubled (r : Reading) (mark : Char) :
    step quote { r with mode := .quote mark held } mark =
      { r with mode := .quoted mark (held ++ [mark]) } :=
  if_pos rfl

theorem run_word (r : Reading) (hs : s.all continuesWord) :
    run quote { r with mode := .word held } s = { r with mode := .word (held ++ s) } := by
  induction s generalizing held with
  | nil => simp
  | cons c rest ih =>
    rw [List.all_cons, Bool.and_eq_true] at hs
    obtain ⟨hc, hrest⟩ := hs
    rw [run_cons, step_word r hc, ih hrest, List.append_assoc, List.singleton_append]

theorem run_doubled (r : Reading) (mark : Char) (s : List Char) :
    run quote { r with mode := .quoted mark held } (Text.Chars.replace mark [mark, mark] s) =
      { r with mode := .quoted mark (held ++ s) } := by
  induction s generalizing held with
  | nil => simp [Text.Chars.replace]
  | cons c rest ih =>
    rw [Text.Chars.replace, List.flatMap_cons, ← Text.Chars.replace, run_append]
    by_cases h : c = mark
    · -- the second of the two marks goes on with the text
      subst h
      rw [if_pos rfl, run_cons, step_quoted, if_pos rfl, run_cons, step_doubled, run_nil, ih,
        List.append_assoc, List.singleton_append]
    · rw [if_neg h, run_cons, step_quoted, if_neg h, run_nil, ih, List.append_assoc,
        List.singleton_append]

theorem run_lineComment (r : Reading) (hs : ∀ c ∈ s, c ≠ '\n' ∧ c ≠ '\r') :
    run quote { r with mode := .lineComment } s = { r with mode := .lineComment } := by
  induction s with
  | nil => rfl
  | cons c rest ih =>
    obtain ⟨hn, hr⟩ := hs c List.mem_cons_self
    simp only [run_cons, step, hn, hr, decide_false, Bool.or_self, Bool.false_eq_true, ↓reduceIte]
    exact ih fun d hd => hs d (List.mem_cons_of_mem c hd)

-- ---------------------------------------------------------------------------
-- Numbers
-- ---------------------------------------------------------------------------

/-- A character that goes on with a number whatever stands before it. -/
def inNumber (c : Char) : Bool := c.isDigit || c == '.' || isExponentMark c

theorem run_number (r : Reading) (hs : s.all inNumber) :
    run quote { r with mode := .number held } s = { r with mode := .number (held ++ s) } := by
  induction s generalizing held with
  | nil => simp
  | cons c rest ih =>
    rw [List.all_cons, Bool.and_eq_true] at hs
    obtain ⟨hc, hrest⟩ := hs
    have hn : continuesNumber held c = true := by
      rw [continuesNumber, ← inNumber, hc, Bool.true_or]
    rw [run_cons, step_number r hn, ih hrest, List.append_assoc, List.singleton_append]

theorem isDigits_iff {s : List Char} : isDigits s ↔ s ≠ [] ∧ s.all Char.isDigit := by
  simp [isDigits]

theorem all_inNumber {s : List Char} (h : s.all Char.isDigit) : s.all inNumber := by
  rw [List.all_eq_true] at h ⊢
  intro c hc
  simp [inNumber, h c hc]

theorem isDecimal_all {s : List Char} (h : isDecimal s) : s.all inNumber := by
  unfold isDecimal at h
  split at h
  · exact all_inNumber (isDigits_iff.mp h).2
  · rename_i whole fraction heq
    obtain ⟨rfl, -⟩ := Text.Chars.splitOnce_eq_some.mp heq
    have hall := all_inNumber (isDigits_iff.mp h).2
    simp only [List.all_append, List.all_cons, Bool.and_eq_true] at hall ⊢
    exact ⟨hall.1, rfl, hall.2⟩

theorem isDecimal_cases {s : List Char} (h : isDecimal s) :
    (∃ c rest, s = c :: rest ∧ c.isDigit) ∨
      ∃ c rest, s = '.' :: c :: rest ∧ c.isDigit := by
  unfold isDecimal at h
  split at h
  · obtain ⟨hne, hall⟩ := isDigits_iff.mp h
    obtain ⟨c, rest, rfl⟩ := List.exists_cons_of_ne_nil hne
    exact .inl ⟨c, rest, rfl, List.all_eq_true.mp hall c List.mem_cons_self⟩
  · rename_i whole fraction heq
    obtain ⟨rfl, -⟩ := Text.Chars.splitOnce_eq_some.mp heq
    obtain ⟨hne, hall⟩ := isDigits_iff.mp h
    rw [List.all_eq_true] at hall
    cases whole with
    | nil =>
      obtain ⟨c, rest, rfl⟩ := List.exists_cons_of_ne_nil hne
      exact .inr ⟨c, rest, rfl, hall c List.mem_cons_self⟩
    | cons c more => exact .inl ⟨c, _, rfl, hall c List.mem_cons_self⟩

theorem not_startsWord {c : Char} (h : c.isDigit) : startsWord c = false := by
  have hword : startsWord c = (decide (c.val ≥ 'A'.val ∧ c.val ≤ 'Z'.val) ||
      (decide (c.val ≥ 'a'.val) && decide (c.val ≤ 'z'.val)) || c == '_') := rfl
  have hd : 48 ≤ c.toNat ∧ c.toNat ≤ 57 := by
    simpa [Char.isDigit, UInt32.le_iff_toNat_le] using h
  have hu : c ≠ '_' := by rintro rfl; contradiction
  have hA : 'A'.toNat = 65 := rfl
  have ha : 'a'.toNat = 97 := rfl
  rw [hword]
  simp only [UInt32.le_iff_toNat_le, beq_eq_false_iff_ne.mpr hu, Bool.or_false, ge_iff_le,
    Bool.or_eq_false_iff, Bool.and_eq_false_iff, decide_eq_false_iff_not, Char.toNat_val]
  omega

theorem run_decimal {r : Reading} (hr : r.mode = .between) {s : List Char} (h : isDecimal s) :
    run quote r s = { r with mode := .number s } := by
  have hall := isDecimal_all h
  obtain ⟨c, rest, rfl, hc⟩ | ⟨c, rest, rfl, hc⟩ := isDecimal_cases h
  · rw [List.all_cons, Bool.and_eq_true] at hall
    rw [run_cons, step_between hr, start, not_startsWord hc, if_neg Bool.false_ne_true, if_pos hc,
      run_number r hall.2, List.singleton_append]
  · simp only [List.all_cons, Bool.and_eq_true] at hall
    have hpoint : step quote r '.' = { r with mode := .point } := by
      rw [step_between hr]
      rfl
    have hdigit : step quote { r with mode := .point } c = { r with mode := .number ['.', c] } := by
      simp only [step, hc, ↓reduceIte]
    rw [run_cons, hpoint, run_cons, hdigit, run_number r hall.2.2]
    rfl

theorem run_exponent (r : Reading) (he : isExponentMark e) (hx : isDigits (withoutSign x)) :
    run quote { r with mode := .number held } (e :: x) =
      { r with mode := .number (held ++ e :: x) } := by
  have hmark : run quote { r with mode := .number held } [e] =
      { r with mode := .number (held ++ [e]) } := run_number r (by simp [inNumber, he])
  rw [← List.singleton_append, run_append, hmark]
  cases x with
  | nil => simp [withoutSign, isDigits] at hx
  | cons c rest =>
    rw [withoutSign] at hx
    split at hx
    · -- the sign stands right after the mark
      rename_i hsign
      have hn : continuesNumber (held ++ [e]) c = true := by simp [continuesNumber, hsign, he]
      rw [run_cons, step_number r hn, run_number r (all_inNumber (isDigits_iff.mp hx).2),
        List.append_assoc, List.append_assoc]
      rfl
    · rw [run_number r (all_inNumber (isDigits_iff.mp hx).2), List.append_assoc]

theorem run_unsigned {r : Reading} (hr : r.mode = .between) {s : List Char} (h : isUnsigned s) :
    run quote r s = { r with mode := .number s } := by
  rw [isUnsigned, Bool.and_eq_true] at h
  obtain ⟨hm, hx⟩ := h
  have hs := List.takeWhile_append_dropWhile (p := (!isExponentMark ·)) (l := s)
  generalize hmantissa : s.takeWhile (!isExponentMark ·) = mantissa at hm hs
  split at hx
  · rename_i heq
    obtain rfl : mantissa = s := by simpa [heq] using hs
    exact run_decimal hr hm
  · rename_i e exponent heq
    have he : isExponentMark e := by
      have := List.head_dropWhile_not (!isExponentMark ·) (l := s) (by simp [heq])
      simpa [heq] using this
    rw [heq] at hs
    rw [← hs, run_append, run_decimal hr hm, run_exponent r he hx]

theorem isUnsigned_head {s : List Char} (h : isUnsigned s) :
    ∃ c rest, s = c :: rest ∧ c ≠ '-' := by
  rw [isUnsigned, Bool.and_eq_true] at h
  rw [← List.takeWhile_append_dropWhile (p := (!isExponentMark ·)) (l := s)]
  obtain ⟨c, rest, heq, hc⟩ | ⟨c, rest, heq, -⟩ := isDecimal_cases h.1
  · exact ⟨c, _, by rw [heq]; rfl, by rintro rfl; contradiction⟩
  · exact ⟨'.', _, by rw [heq]; rfl, by decide⟩

-- ---------------------------------------------------------------------------
-- Tokens in front of a delimiter
-- ---------------------------------------------------------------------------

def delimiters : List Char := [' ', '\n', ',', '(', ')', ';']

/-- The quotes that systems put around names. -/
def IsNameQuote (c : Char) : Prop := c = '"' ∨ c = Char.ofNat 0x60

/-- In front of a delimiter the text is read as these tokens. -/
def Piece (quote : Char) (s : List Char) (ts : List Token) : Prop :=
  ∀ (r : Reading) (c : Char), r.mode = .between → c ∈ delimiters →
    step quote (run quote r s) c = start quote (r.emit ts) c

theorem Piece.nil : Piece quote [] [] := by
  intro r c hr hc
  rw [run_nil, step_between hr, emit_nil hr]

theorem Piece.word (hc : startsWord c) (hs : s.all continuesWord) :
    Piece quote (c :: s) [.word (String.ofList ((c :: s).map Char.toUpper))] := by
  intro r d hr hd
  have hn : continuesWord d = false := by revert d; decide
  rw [run_cons, step_between hr, start, if_pos hc, run_word r hs, step, hn]
  rfl

theorem Piece.keyword {w : String} (hne : w.toList ≠ [])
    (hw : ∀ c ∈ w.toList, startsWord c ∧ c.toUpper = c) : Piece quote w.toList [.word w] := by
  have hupper : w.toList.map Char.toUpper = w.toList :=
    (List.map_congr_left fun c hc => (hw c hc).2).trans (List.map_id _)
  cases hl : w.toList with
  | nil => contradiction
  | cons c rest =>
    rw [hl] at hw hupper
    have hrest : rest.all continuesWord := by
      rw [List.all_eq_true]
      intro d hd
      rw [continuesWord, (hw d (List.mem_cons_of_mem c hd)).1, Bool.true_or]
    have hword : Piece quote (c :: rest) _ := Piece.word (hw c List.mem_cons_self).1 hrest
    rwa [hupper, ← hl, String.ofList_toList, hl] at hword

theorem Piece.number (h : isUnsigned s) : Piece quote s [.number (String.ofList s)] := by
  intro r d hr hd
  have hd' : (inNumber d || isSign d) = false := by revert d; decide
  have hn : continuesNumber s d = false := by
    rw [Bool.or_eq_false_iff] at hd'
    rw [continuesNumber, ← inNumber, hd'.1, hd'.2, Bool.false_and, Bool.or_self]
  rw [run_unsigned hr h]
  simp only [step, hn]
  rfl

section

variable (hq : IsNameQuote quote)
include hq

theorem start_blank (r : Reading) {c : Char} (hc : c = ' ' ∨ c = '\n') : start quote r c = r := by
  rcases hq with rfl | rfl <;> rcases hc with rfl | rfl <;> rfl

theorem start_symbol (r : Reading) {c : Char} (hc : c = ',' ∨ c = '(' ∨ c = ')') :
    start quote r c = r.emit [.symbol c] := by
  rcases hq with rfl | rfl <;> rcases hc with rfl | rfl | rfl <;> rfl

theorem start_semicolon (r : Reading) : start quote r ';' = r.close := by
  rcases hq with rfl | rfl <;> rfl

theorem start_quote (r : Reading) {mark : Char} (hm : mark = '\'' ∨ mark = quote) :
    start quote r mark = { r with mode := .quoted mark [] } := by
  rcases hq with rfl | rfl <;> rcases hm with rfl | rfl <;> rfl

theorem Piece.quoted (hm : mark = '\'' ∨ mark = quote) (s : List Char) :
    Piece quote (mark :: (Text.Chars.replace mark [mark, mark] s ++ [mark]))
      [quotedToken mark (String.ofList s)] := by
  intro r d hr hd
  have hn : d ≠ mark := by
    rcases hq with rfl | rfl <;> rcases hm with rfl | rfl <;> revert d <;> decide
  rw [run_cons, step_between hr, start_quote hq r hm, run_append, run_doubled r mark s, run_cons,
    step_quoted, if_pos rfl]
  exact if_neg hn

theorem Piece.signed (hc : isSign c) (h : isUnsigned s) :
    Piece quote (c :: s) [.symbol c, .number (String.ofList s)] := by
  intro r d hr hd
  -- what follows the sign makes no comment of it
  obtain ⟨e, rest, rfl, he⟩ := isUnsigned_head h
  have hstep : step quote (step quote r c) e = step quote (r.emit [.symbol c]) e := by
    have hcases : c = '+' ∨ c = '-' := by simpa [isSign] using hc
    rcases hcases with rfl | rfl
    · have hplus : start quote r '+' = r.emit [.symbol '+'] := by rcases hq with rfl | rfl <;> rfl
      rw [step_between hr, hplus]
    · have hdash : start quote r '-' = { r with mode := .dash } := by
        rcases hq with rfl | rfl <;> rfl
      rw [step_between hr, hdash, step_between (emit_mode ..)]
      simp only [step, he]
      rfl
  rw [run_cons, run_cons, hstep, ← run_cons, Piece.number h _ d (emit_mode ..) hd, emit_emit]
  rfl

theorem Piece.blank (hs : Piece quote s ts) (ht : Piece quote t us) :
    Piece quote (s ++ ' ' :: t) (ts ++ us) := by
  intro r c hr hc
  rw [run_append, run_cons, hs r ' ' hr (by decide), start_blank hq _ (.inl rfl),
    ht _ c (emit_mode r ts) hc, emit_emit]

theorem Piece.symbol (hs : Piece quote s ts) (hd : d = ',' ∨ d = '(' ∨ d = ')')
    (ht : Piece quote t us) : Piece quote (s ++ d :: t) (ts ++ .symbol d :: us) := by
  intro r c hr hc
  have hm : d ∈ delimiters := by rcases hd with rfl | rfl | rfl <;> decide
  rw [run_append, run_cons, hs r d hr hm, start_symbol hq _ hd, ht _ c (emit_mode ..) hc,
    emit_emit, emit_emit, List.singleton_append]

theorem Piece.bracketed (hs : Piece quote s ts) (ht : Piece quote t us) :
    Piece quote ('(' :: (s ++ ')' :: t)) (.symbol '(' :: (ts ++ .symbol ')' :: us)) :=
  Piece.symbol hq .nil (.inr (.inl rfl)) (Piece.symbol hq hs (.inr (.inr rfl)) ht)

theorem Piece.run_line (hs : Piece quote s ts) (d : List (List Token)) :
    run quote { done := d } (s ++ [';', '\n']) = { done := d ++ [ts] } := by
  rw [run_append, run_cons, hs _ ';' rfl (by decide), start_semicolon hq, run_cons,
    step_between rfl, start_blank hq _ (.inr rfl), run_nil]
  rfl

theorem Piece.join (h : List.Forall₂ (Piece quote) parts tss) :
    Piece quote (Text.Chars.joinWith [',', ' '] parts) ([.symbol ','].intercalate tss) := by
  induction h with
  | nil => exact .nil
  | @cons s ts parts tss hs hrest ih =>
    cases hrest with
    | nil => simpa [Text.Chars.joinWith] using hs
    | @cons t us parts tss ht hrest =>
      have := Piece.symbol hq hs (.inl rfl) (Piece.blank hq .nil ih)
      simpa [Text.Chars.joinWith, List.intercalate_cons_cons] using this

end
-- ---------------------------------------------------------------------------
-- Statements written as tokens
-- ---------------------------------------------------------------------------

def Literal.tokens : Literal → List Token
  | null => [.word "NULL"]
  | text content => [.text content]
  | number digits =>
    match digits.toList with
    | [] => [.number ""]
    | c :: rest =>
      if isSign c then [.symbol c, .number (String.ofList rest)] else [.number digits]

/-- The number of the literal, if it is one, is a number of SQL. -/
def Literal.IsValid : Literal → Prop
  | number digits => isNumber digits
  | _ => True

theorem isUnsigned_nil : isUnsigned [] = false := by decide

theorem literalOf?_tokens {l : Literal} (h : l.IsValid) : literalOf? l.tokens = some l := by
  cases l with
  | null => rfl
  | text content => rfl
  | number digits =>
    have hn : isUnsigned (withoutSign digits.toList) := h
    cases hd : digits.toList with
    | nil => rw [hd, withoutSign, isUnsigned_nil] at hn; contradiction
    | cons c rest =>
      rw [hd, withoutSign] at hn
      simp only [Literal.tokens, hd]
      by_cases hc : isSign c
      · rw [if_pos hc] at hn ⊢
        have hs : String.singleton c ++ String.ofList rest = digits := by
          rw [← String.toList_inj, hd]
          simp
        simp [literalOf?, hc, hn, hs]
      · rw [if_neg hc] at hn ⊢
        simp [literalOf?, hd, hn]

/-- An item of a list: it is not empty, and no comma or bracket ends it early. -/
def IsItem (ts : List Token) : Prop := ts ≠ [] ∧ .symbol ',' ∉ ts ∧ .symbol ')' ∉ ts

theorem Literal.tokens_isItem (l : Literal) : IsItem l.tokens := by
  cases l with
  | null => simp [IsItem, tokens]
  | text content => simp [IsItem, tokens]
  | number digits =>
    cases hd : digits.toList with
    | nil => simp [IsItem, tokens, hd]
    | cons c rest =>
      by_cases hc : isSign c
      · have hne : c ≠ ',' ∧ c ≠ ')' := by constructor <;> rintro rfl <;> contradiction
        simp [IsItem, tokens, hd, hc, hne.1.symm, hne.2.symm]
      · simp [IsItem, tokens, hd, hc]

def listed (parts : List (List Token)) : List Token := [.symbol ','].intercalate parts

theorem items_listed {parts : List (List Token)} (h : ∀ p ∈ parts, IsItem p) :
    items (listed parts) = parts := by
  unfold items
  cases parts with
  | nil => rfl
  | cons p rest =>
    have hp := (h p List.mem_cons_self).1
    have hne : listed (p :: rest) ≠ [] := by
      cases rest <;> simp [listed, hp, List.intercalate_cons_cons]
    rw [if_neg hne]
    exact List.splitOn_intercalate _ (fun q hq => (h q hq).2.1) (by simp)

theorem bracket_not_mem_listed {parts : List (List Token)} (h : ∀ p ∈ parts, IsItem p) :
    .symbol ')' ∉ listed parts := by
  induction parts with
  | nil => simp [listed]
  | cons p rest ih =>
    have hp := (h p List.mem_cons_self).2.2
    have hrest := ih fun q hq => h q (List.mem_cons_of_mem p hq)
    cases rest with
    | nil => simpa [listed] using hp
    | cons q more =>
      rw [listed, List.intercalate_cons_cons, ← listed]
      simp [hp, hrest]

theorem bracketed?_listed {item? : List Token → Option α} {parts : List (List Token)}
    (h : ∀ p ∈ parts, IsItem p) (hv : parts.mapM item? = some values) (rest : List Token) :
    bracketed? item? (.symbol '(' :: (listed parts ++ .symbol ')' :: rest)) =
      some (values, rest) := by
  have hb : ∀ t ∈ listed parts, (t != .symbol ')') = true := fun t ht =>
    bne_iff_ne.mpr fun heq => bracket_not_mem_listed h (heq ▸ ht)
  rw [bracketed?, List.dropWhile_append_of_pos hb, List.takeWhile_append_of_pos hb]
  simp [items_listed h, hv]

def Insert.tokens (i : Insert) : List Token :=
  .word "INSERT" :: .word "INTO" :: .name i.table :: .symbol '(' ::
    (listed (i.columns.map fun c => [.name c]) ++ .symbol ')' :: .word "VALUES" :: .symbol '(' ::
      (listed (i.values.map Literal.tokens) ++ [.symbol ')']))

theorem ofTokens_insert {i : Insert} (h : ∀ v ∈ i.values, v.IsValid) :
    Statement.ofTokens i.tokens = .insert i := by
  have hcolumns : ∀ rest, bracketed? nameOf?
      (.symbol '(' :: (listed (i.columns.map fun c => [.name c]) ++ .symbol ')' :: rest)) =
        some (i.columns, rest) := by
    intro rest
    have hm : (i.columns.map fun c => [Token.name c]).mapM nameOf? = some i.columns :=
      Lists.mapM_map_eq_some fun c _ => rfl
    exact bracketed?_listed (by simp [IsItem]) hm rest
  have hvalues : bracketed? literalOf?
      (.symbol '(' :: (listed (i.values.map Literal.tokens) ++ [.symbol ')'])) =
        some (i.values, []) := by
    have hm : (i.values.map Literal.tokens).mapM literalOf? = some i.values :=
      Lists.mapM_map_eq_some fun v hv => literalOf?_tokens (h v hv)
    have hitems : ∀ p ∈ i.values.map Literal.tokens, IsItem p := by
      intro p hp
      obtain ⟨v, -, rfl⟩ := List.mem_map.mp hp
      exact v.tokens_isItem
    exact bracketed?_listed hitems hm []
  have hi : insert? i.tokens = some i := by
    rw [Insert.tokens, insert?, hcolumns]
    simp [hvalues]
  unfold Statement.ofTokens
  split
  · simp [Insert.tokens] at *
  · rw [hi]; rfl

end ChannelKeeper.Sql.Script
