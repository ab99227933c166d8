import ChannelKeeper.Proofs.Text.Utf8
import ChannelKeeper.Proofs.Url.Credentials
import ChannelKeeper.Url.Form

/-!
# Percent-decoding

What is read of an encoded name, password or segment of a path. Encoding leaves percent signs
alone, so the encoded characters are read back, and a text is read as another one if it holds
an escape of its own. A pair that is written in a query is read as the pair, whatever its texts
hold. Nothing is said of decoded octets that are no UTF-8.
-/

namespace ChannelKeeper.Url

open Text.Utf8 (encodeChar)

def isHexDigit (c : Char) : Bool := (hexValue? c.toNat).isSome

/-- A percent sign and two hexadecimal digits at the front. -/
def StartsEscape (s : List Char) : Prop :=
  ∃ a b, isHexDigit a ∧ isHexDigit b ∧ ['%', a, b] <+: s

/-- A percent sign and two hexadecimal digits anywhere. -/
def HasEscape (s : List Char) : Prop :=
  ∃ a b, isHexDigit a ∧ isHexDigit b ∧ ['%', a, b] <:+: s

theorem hasEscape_cons {c : Char} {s : List Char} :
    HasEscape (c :: s) ↔ StartsEscape (c :: s) ∨ HasEscape s := by
  simp only [HasEscape, StartsEscape, List.infix_cons_iff, and_or_left, exists_or]

theorem not_hasEscape_nil : ¬HasEscape [] := by
  simp [HasEscape]

theorem startsEscape_iff {s : List Char} : StartsEscape s ↔
    ∃ a b rest, isHexDigit a ∧ isHexDigit b ∧ s = '%' :: a :: b :: rest := by
  constructor
  · rintro ⟨a, b, ha, hb, rest, rfl⟩
    exact ⟨a, b, rest, ha, hb, rfl⟩
  · rintro ⟨a, b, rest, ha, hb, rfl⟩
    exact ⟨a, b, ha, hb, rest, rfl⟩

-- ---------------------------------------------------------------------------
-- Octets
-- ---------------------------------------------------------------------------

theorem encodeChar_of_lt {c : Char} (h : c.toNat < 0x80) : encodeChar c = [c.toNat] := by
  simp [encodeChar, h]

theorem le_of_mem_encodeChar {c : Char} (h : 0x80 ≤ c.toNat) {n : Nat} (hn : n ∈ encodeChar c) :
    0x80 ≤ n := by
  unfold encodeChar at hn
  simp only at hn
  split_ifs at hn <;> simp only [List.mem_cons, List.not_mem_nil, or_false] at hn <;> omega

theorem hexValue?_of_le {n : Nat} (h : 0x80 ≤ n) : hexValue? n = none := by
  unfold hexValue?
  split_ifs <;> first | rfl | omega

/-- The first octet of a character is a digit just if the character is. -/
theorem exists_encodeChar (c : Char) :
    ∃ n ns, encodeChar c = n :: ns ∧ hexValue? n = hexValue? c.toNat := by
  by_cases h : c.toNat < 0x80
  · exact ⟨c.toNat, [], encodeChar_of_lt h, rfl⟩
  · obtain ⟨n, ns, hn⟩ := List.exists_cons_of_ne_nil (encodeChar_ne_nil c)
    have hle : 0x80 ≤ n := le_of_mem_encodeChar (by omega) (hn ▸ List.mem_cons_self)
    exact ⟨n, ns, hn, by rw [hexValue?_of_le hle, hexValue?_of_le (by omega)]⟩

theorem ne_of_mem_encodeChar {c : Char} (hc : c ≠ '%') {n : Nat} (hn : n ∈ encodeChar c) :
    n ≠ 37 := by
  by_cases h : c.toNat < 0x80
  · rw [encodeChar_of_lt h, List.mem_singleton] at hn
    rintro rfl
    exact hc (Char.toNat_inj.mp hn.symm)
  · have := le_of_mem_encodeChar (by omega) hn
    omega

theorem toNat_lt_of_isHexDigit {c : Char} (h : isHexDigit c) : c.toNat < 0x80 := by
  by_contra hc
  simp [isHexDigit, hexValue?_of_le (show 0x80 ≤ c.toNat by omega)] at h

theorem percentDecodeOctets_append {l : List Nat} (h : ∀ n ∈ l, n ≠ 37) (m : List Nat) :
    percentDecodeOctets (l ++ m) = l ++ percentDecodeOctets m := by
  induction l with
  | nil => rfl
  | cons n rest ih =>
    obtain ⟨hn, hrest⟩ := List.forall_mem_cons.mp h
    rw [List.cons_append, percentDecodeOctets.eq_2 _ _ (by simp [hn]), ih hrest, List.cons_append]

theorem percentDecodeOctets_percent {l : List Nat}
    (h : ∀ a b rest, l = a :: b :: rest → hexValue? a = none ∨ hexValue? b = none) :
    percentDecodeOctets (37 :: l) = 37 :: percentDecodeOctets l := by
  match l with
  | [] => rfl
  | [a] => rfl
  | a :: b :: rest =>
    rw [percentDecodeOctets]
    rcases h a b rest rfl with ha | hb
    · rw [ha]
    · rw [hb]
      cases hexValue? a <;> rfl

-- ---------------------------------------------------------------------------
-- Characters
-- ---------------------------------------------------------------------------

theorem percentDecode_escape {a b : Char} {x y : Nat} (ha : hexValue? a.toNat = some x)
    (hb : hexValue? b.toNat = some y) (s : List Char) :
    percentDecode ('%' :: a :: b :: s) = (x * 16 + y) :: percentDecode s := by
  have hoctets : Text.Utf8.encode ('%' :: a :: b :: s) =
      37 :: a.toNat :: b.toNat :: Text.Utf8.encode s := by
    have hdigit {c : Char} (hc : isHexDigit c) := encodeChar_of_lt (toNat_lt_of_isHexDigit hc)
    simp only [Text.Utf8.encode, List.flatMap_cons, hdigit (c := a) (by simp [isHexDigit, ha]),
      hdigit (c := b) (by simp [isHexDigit, hb])]
    rfl
  rw [percentDecode, hoctets, percentDecodeOctets, ha, hb]
  rfl

theorem percentDecode_cons {c : Char} {s : List Char} (h : ¬StartsEscape (c :: s)) :
    percentDecode (c :: s) = encodeChar c ++ percentDecode s := by
  by_cases hc : c = '%'
  · subst hc
    refine percentDecodeOctets_percent (l := Text.Utf8.encode s) ?_
    intro x y rest hrest
    rw [Text.Utf8.encode] at hrest
    cases s with
    | nil => cases hrest
    | cons a s =>
      obtain ⟨n, ns, hn, hhex⟩ := exists_encodeChar a
      rw [List.flatMap_cons, hn, List.cons_append, List.cons.injEq] at hrest
      obtain ⟨rfl, hrest⟩ := hrest
      by_cases ha : isHexDigit a
      · -- a digit is one octet, so the next octet belongs to the next character
        rw [encodeChar_of_lt (toNat_lt_of_isHexDigit ha), List.cons.injEq] at hn
        obtain ⟨-, rfl⟩ := hn
        cases s with
        | nil => cases hrest
        | cons b s =>
          obtain ⟨m, ms, hm, hhex'⟩ := exists_encodeChar b
          rw [List.nil_append, List.flatMap_cons, hm, List.cons_append, List.cons.injEq] at hrest
          obtain ⟨rfl, -⟩ := hrest
          right
          rw [hhex', ← Option.not_isSome_iff_eq_none]
          exact fun hb => h (startsEscape_iff.mpr ⟨a, b, s, ha, hb, rfl⟩)
      · left
        rw [hhex, ← Option.not_isSome_iff_eq_none]
        exact ha
  · exact percentDecodeOctets_append (fun n => ne_of_mem_encodeChar hc) _

theorem startsEscape_of_append_cons {a c : Char} (hc : isHexDigit c = false) {s t : List Char}
    (h : StartsEscape (a :: (s ++ c :: t))) : StartsEscape (a :: s) := by
  obtain ⟨x, y, more, hx, hy, heq⟩ := startsEscape_iff.mp h
  obtain ⟨rfl, hrest⟩ := List.cons.inj heq
  cases s with
  | nil =>
    obtain ⟨rfl, -⟩ := List.cons.inj hrest
    simp [hc] at hx
  | cons d others =>
    obtain ⟨rfl, hothers⟩ := List.cons.inj hrest
    cases others with
    | nil =>
      obtain ⟨rfl, -⟩ := List.cons.inj hothers
      simp [hc] at hy
    | cons e others =>
      obtain ⟨rfl, -⟩ := List.cons.inj hothers
      exact startsEscape_iff.mpr ⟨d, e, others, hx, hy, rfl⟩

theorem percentDecode_append_cons {c : Char} (hc : isHexDigit c = false) (s t : List Char) :
    percentDecode (s ++ c :: t) = percentDecode s ++ percentDecode (c :: t) := by
  -- an escape takes three characters at once
  induction hn : s.length using Nat.strongRecOn generalizing s with
  | ind n ih =>
    cases s with
    | nil => rfl
    | cons a rest =>
      by_cases hescape : StartsEscape (a :: rest)
      · obtain ⟨x, y, more, hx, hy, heq⟩ := startsEscape_iff.mp hescape
        obtain ⟨m, hm⟩ := Option.isSome_iff_exists.mp hx
        obtain ⟨k, hk⟩ := Option.isSome_iff_exists.mp hy
        have hlength : more.length < n := by
          rw [← hn, heq]
          simp only [List.length_cons]
          omega
        rw [heq, List.cons_append, List.cons_append, List.cons_append, percentDecode_escape hm hk,
          percentDecode_escape hm hk, ih more.length hlength more rfl, List.cons_append]
      · have hstill := mt (startsEscape_of_append_cons (t := t) hc) hescape
        rw [List.cons_append, percentDecode_cons hstill, percentDecode_cons hescape,
          ih rest.length (by simp [← hn]) rest rfl, List.append_assoc]

theorem length_percentDecodeOctets_le (l : List Nat) :
    (percentDecodeOctets l).length ≤ l.length := by
  fun_induction percentDecodeOctets l <;> simp only [List.length_cons, List.length_nil] at * <;>
    omega

/-- A text is read as it stands just if it has no escape. -/
theorem percentDecode_eq_iff {s : List Char} :
    percentDecode s = Text.Utf8.encode s ↔ ¬HasEscape s := by
  induction s with
  | nil => simp [not_hasEscape_nil, percentDecode, Text.Utf8.encode, percentDecodeOctets]
  | cons c s ih =>
    rw [hasEscape_cons, not_or]
    by_cases h : StartsEscape (c :: s)
    · -- an escape is one octet, and no other octet makes up for the two that are missing
      obtain ⟨a, b, rest, ha, hb, heq⟩ := startsEscape_iff.mp h
      obtain ⟨x, hx⟩ := Option.isSome_iff_exists.mp ha
      obtain ⟨y, hy⟩ := Option.isSome_iff_exists.mp hb
      refine iff_of_false (fun hread => ?_) fun hno => hno.1 h
      have hlength := congrArg List.length hread
      have hrest : (percentDecode rest).length ≤ _ :=
        length_percentDecodeOctets_le (Text.Utf8.encode rest)
      have hcount (d : Char) : 0 < (encodeChar d).length :=
        List.length_pos_iff.mpr (encodeChar_ne_nil d)
      have := hcount '%'
      have := hcount a
      have := hcount b
      rw [heq, percentDecode_escape hx hy] at hlength
      simp only [Text.Utf8.encode, List.flatMap_cons, List.length_append, List.length_cons]
        at hlength hrest
      omega
    · rw [percentDecode_cons h, Text.Utf8.encode, List.flatMap_cons, List.append_cancel_left_eq,
        ← Text.Utf8.encode, ih]
      exact (and_iff_right h).symm

theorem eq_of_percentDecode {part whole : List Char} (hpart : part.Sublist whole)
    (h : percentDecode part = Text.Utf8.encode whole) : part = whole ∧ ¬HasEscape whole := by
  have hoctets : (Text.Utf8.encode part).Sublist (Text.Utf8.encode whole) :=
    Lists.flatMap_sublist hpart _
  have hlength : (percentDecode part).length ≤ (Text.Utf8.encode part).length :=
    length_percentDecodeOctets_le _
  rw [h] at hlength
  have heq := Text.Utf8.encode_injective (hoctets.eq_of_length_le hlength)
  subst heq
  exact ⟨rfl, percentDecode_eq_iff.mp h⟩

instance (s : List Char) : Decidable (HasEscape s) :=
  decidable_of_iff (percentDecode s ≠ Text.Utf8.encode s)
    (not_iff_comm.mp percentDecode_eq_iff.symm)

-- ---------------------------------------------------------------------------
-- Encoded texts
-- ---------------------------------------------------------------------------

theorem hexValue?_hexUpper : ∀ k < 16, hexValue? (hexUpper k).toNat = some k := by decide

theorem percentDecode_percentOctet {n : Nat} (hn : n < 0x100) (s : List Char) :
    percentDecode (percentOctet n ++ s) = n :: percentDecode s := by
  have hread := percentDecode_escape (hexValue?_hexUpper (n / 16) (by omega))
    (hexValue?_hexUpper (n % 16) (by omega)) s
  rwa [Nat.div_add_mod'] at hread

theorem percentDecode_percentOctets {l : List Nat} (h : ∀ n ∈ l, n < 0x100) (s : List Char) :
    percentDecode (l.flatMap percentOctet ++ s) = l ++ percentDecode s := by
  induction l with
  | nil => rfl
  | cons n rest ih =>
    obtain ⟨hn, hrest⟩ := List.forall_mem_cons.mp h
    rw [List.flatMap_cons, List.append_assoc, percentDecode_percentOctet hn, ih hrest,
      List.cons_append]

/-- A character that stands for itself where the characters of a set are encoded. -/
def isLeftBy (inSet : Char → Bool) (c : Char) : Bool := !(inSet c || 0x80 ≤ c.toNat)

variable {inSet : Char → Bool} {c : Char} {s : List Char}

theorem percentEncode_cons_left (hc : isLeftBy inSet c) :
    percentEncode inSet (c :: s) = c :: percentEncode inSet s := by
  have hset : (inSet c || decide (0x80 ≤ c.toNat)) = false := by
    simpa only [isLeftBy, Bool.not_eq_true'] using hc
  simp only [percentEncode, List.flatMap_cons, hset, Bool.false_eq_true, ↓reduceIte,
    List.singleton_append]

theorem percentEncode_cons_encoded (hc : isLeftBy inSet c = false) :
    percentEncode inSet (c :: s) =
      (encodeChar c).flatMap percentOctet ++ percentEncode inSet s := by
  have hset : (inSet c || decide (0x80 ≤ c.toNat)) = true := by
    simpa only [isLeftBy, Bool.not_eq_false'] using hc
  simp only [percentEncode, List.flatMap_cons, hset, ↓reduceIte]

theorem isPlain_of_isHexDigit (h : isHexDigit c) : isPlain c := by
  have hdigits : ∀ n < 0x80, (hexValue? n).isSome → isPlain (Char.ofNat n) := by decide
  simpa using hdigits c.toNat (toNat_lt_of_isHexDigit h) h

theorem percentEncode_eq_cons_digit {rest : List Char} (hc : isHexDigit c)
    (h : percentEncode inSet s = c :: rest) :
    ∃ t, s = c :: t ∧ rest = percentEncode inSet t := by
  cases s with
  | nil => cases h
  | cons d t =>
    cases hd : isLeftBy inSet d with
    | true =>
      rw [percentEncode_cons_left hd, List.cons.injEq] at h
      obtain ⟨rfl, rfl⟩ := h
      exact ⟨t, rfl, rfl⟩
    | false =>
      obtain ⟨n, ns, hn⟩ := List.exists_cons_of_ne_nil (encodeChar_ne_nil d)
      rw [percentEncode_cons_encoded hd, hn, List.flatMap_cons] at h
      obtain ⟨rfl, -⟩ := List.cons.inj h
      exact absurd hc (by decide)

theorem startsEscape_percentEncode (hc : isLeftBy inSet c)
    (h : StartsEscape (percentEncode inSet (c :: s))) : StartsEscape (c :: s) := by
  obtain ⟨a, b, rest, ha, hb, heq⟩ := startsEscape_iff.mp h
  rw [percentEncode_cons_left hc, List.cons.injEq] at heq
  obtain ⟨rfl, heq⟩ := heq
  obtain ⟨t, rfl, ht⟩ := percentEncode_eq_cons_digit ha heq
  obtain ⟨t, rfl, -⟩ := percentEncode_eq_cons_digit hb ht.symm
  exact startsEscape_iff.mpr ⟨a, b, t, ha, hb, rfl⟩

/-- What is read of an encoded text is what is read of the text itself, if the characters of
escapes are not among those that are encoded. -/
theorem percentDecode_percentEncode (hset : ∀ c, isPlain c → inSet c = false) (s : List Char) :
    percentDecode (percentEncode inSet s) = percentDecode s := by
  have hleft {c : Char} (hc : isPlain c) : isLeftBy inSet c := by
    simp [isLeftBy, hset c hc, lt_of_isPlain hc]
  induction hn : s.length using Nat.strongRecOn generalizing s with
  | ind n ih =>
    have ih' : ∀ t : List Char, t.length < s.length →
        percentDecode (percentEncode inSet t) = percentDecode t :=
      fun t ht => ih t.length (hn ▸ ht) t rfl
    cases s with
    | nil => rfl
    | cons c t =>
      by_cases hescape : StartsEscape (c :: t)
      -- The three characters of an escape are left as they are, and so read alike.
      · obtain ⟨a, b, rest, ha, hb, heq⟩ := startsEscape_iff.mp hescape
        obtain ⟨x, hx⟩ := Option.isSome_iff_exists.mp ha
        obtain ⟨y, hy⟩ := Option.isSome_iff_exists.mp hb
        rw [heq, percentEncode_cons_left (hleft (by decide)),
          percentEncode_cons_left (hleft (isPlain_of_isHexDigit ha)),
          percentEncode_cons_left (hleft (isPlain_of_isHexDigit hb)), percentDecode_escape hx hy,
          percentDecode_escape hx hy, ih' rest (by simp [heq]; omega)]
      · rw [percentDecode_cons hescape, ← ih' t (by simp)]
        cases hc : isLeftBy inSet c with
        | true =>
          rw [percentEncode_cons_left hc, percentDecode_cons]
          rw [← percentEncode_cons_left hc]
          exact fun h => hescape (startsEscape_percentEncode hc h)
        | false =>
          rw [percentEncode_cons_encoded hc,
            percentDecode_percentOctets (fun n => encodeChar_lt)]

-- ---------------------------------------------------------------------------
-- Forms
-- ---------------------------------------------------------------------------

theorem not_startsEscape {c : Char} (hc : c ≠ '%') (s : List Char) : ¬StartsEscape (c :: s) := by
  rintro ⟨a, b, -, -, hprefix⟩
  exact hc (List.cons_prefix_cons.mp hprefix).1.symm

namespace Form

open Text.Chars (splitOn splitOnce splitOnce_eq_some)

/-- What a blank is written as is read as a blank. -/
def unplus (c : Char) : Char := if c = '+' then ' ' else c

theorem decode_eq (s : List Char) : decode s = Text.Utf8.decodeLossy (percentDecode (s.map unplus)) :=
  rfl

theorem keptInForm : ∀ n < 0x80, keepsInForm n →
    Char.ofNat n ≠ '%' ∧ unplus (Char.ofNat n) = Char.ofNat n ∧ (Char.ofNat n).toNat = n := by
  decide

theorem lt_of_keepsInForm {n : Nat} (h : keepsInForm n) : n < 0x80 := by
  by_contra hn
  have hsome : keepsInForm n = false := by
    simp only [keepsInForm, Bool.or_eq_false_iff, Bool.and_eq_false_iff, decide_eq_false_iff_not,
      beq_eq_false_iff_ne]
    omega
  simp [hsome] at h

theorem unplus_percentOctet {n : Nat} (hn : n < 0x100) :
    (percentOctet n).map unplus = percentOctet n := by
  have hdigit : ∀ k < 16, unplus (hexUpper k) = hexUpper k := by decide
  have hpercent : unplus '%' = '%' := rfl
  rw [percentOctet, List.map_cons, List.map_cons, List.map_cons, List.map_nil, hpercent,
    hdigit (n / 16) (by omega), hdigit (n % 16) (by omega)]

theorem percentDecode_encodeOctet {n : Nat} (hn : n < 0x100) (s : List Char) :
    percentDecode ((encodeOctet n).map unplus ++ s) = n :: percentDecode s := by
  unfold encodeOctet
  split_ifs with hblank hkeeps
  · subst hblank
    exact percentDecode_cons (not_startsEscape (by decide) s)
  · have hlt := lt_of_keepsInForm hkeeps
    obtain ⟨hpercent, hunplus, hnat⟩ := keptInForm n hlt hkeeps
    rw [List.map_singleton, hunplus, List.singleton_append,
      percentDecode_cons (not_startsEscape hpercent s), encodeChar_of_lt (by omega), hnat]
    rfl
  · rw [unplus_percentOctet hn, percentDecode_percentOctet hn]

theorem percentDecode_encodeOctets {octets : List Nat} (h : ∀ n ∈ octets, n < 0x100) :
    percentDecode ((octets.flatMap encodeOctet).map unplus) = octets := by
  induction octets with
  | nil => rfl
  | cons n rest ih =>
    obtain ⟨hn, hrest⟩ := List.forall_mem_cons.mp h
    rw [List.flatMap_cons, List.map_append, percentDecode_encodeOctet hn, ih hrest]

theorem octet_lt {s : List Char} {n : Nat} (h : n ∈ Text.Utf8.encode s) : n < 0x100 := by
  obtain ⟨c, -, hn⟩ := List.mem_flatMap.mp h
  exact encodeChar_lt hn

theorem decode_encode (s : String) : decode (encode s) = s := by
  rw [decode_eq, encode, percentDecode_encodeOctets fun n => octet_lt, Text.Utf8.decodeLossy_encode]

theorem mark_not_mem_encode (s : String) : '&' ∉ encode s ∧ '=' ∉ encode s := by
  have hoctet : ∀ n < 0x100, '&' ∉ encodeOctet n ∧ '=' ∉ encodeOctet n := by decide +kernel
  constructor
  all_goals
    intro hmem
    obtain ⟨n, hn, hmem⟩ := List.mem_flatMap.mp hmem
  · exact (hoctet n (octet_lt hn)).1 hmem
  · exact (hoctet n (octet_lt hn)).2 hmem

theorem parse_encodePair (name value : String) :
    parse (encodePair name value) = [(name, value)] := by
  obtain ⟨hname, hequals⟩ := mark_not_mem_encode name
  have hone : splitOn '&' (encodePair name value) = [encodePair name value] := by
    rw [Text.Chars.splitOn_eq]
    refine List.splitOn_eq_singleton ?_
    simp [encodePair, hname, (mark_not_mem_encode value).1]
  have hsplit : splitOnce '=' (encodePair name value) = some (encode name, encode value) :=
    splitOnce_eq_some.mpr ⟨rfl, hequals⟩
  have hsome : (encodePair name value).isEmpty = false := by simp [encodePair]
  simp only [parse, hone, List.filter_cons, hsome, Bool.not_false, ↓reduceIte, List.filter_nil,
    List.map_cons, List.map_nil, hsplit, decode_encode]

end Form

end ChannelKeeper.Url
