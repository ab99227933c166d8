import ChannelKeeper.Proofs.Url.Credentials

/-!
# Hosts read back

The host of a database server is read back from its text, whatever text it was read from:
a name that was encoded is not encoded a second time, and the shortest text of an address
of 128 bits stands for the same pieces. Nothing is said of the hosts of the web.
-/

namespace ChannelKeeper.Url

open Text.Chars (joinWith splitOn splitOn_joinWith)

theorem percentEncode_of_forall {inSet : Char → Bool} {s : List Char}
    (h : ∀ c ∈ s, inSet c = false ∧ c.toNat < 0x80) : percentEncode inSet s = s := by
  induction s with
  | nil => rfl
  | cons c rest ih =>
    obtain ⟨⟨hset, hlt⟩, hrest⟩ := List.forall_mem_cons.mp h
    have hkept : (inSet c || decide (0x80 ≤ c.toNat)) = false := by simpa [hset] using hlt
    have hih := ih hrest
    rw [percentEncode] at hih ⊢
    rw [List.flatMap_cons, hih]
    simp [hkept]

namespace Host

-- ---------------------------------------------------------------------------
-- Hexadecimal digits
-- ---------------------------------------------------------------------------

theorem hexValue?_digitChar : ∀ d < 16, hexValue? d.digitChar.toNat = some d := by decide

theorem digitsIn_toDigits (n : Nat) : digitsIn 16 (Nat.toDigits 16 n) = some n := by
  induction n using Nat.strongRecOn with
  | ind n ih =>
    by_cases h : n < 16
    · simp [Nat.toDigits_of_lt_base h, digitsIn, hexValue?_digitChar n h, h]
    · have hlow : n % 16 < 16 := by omega
      have hhigh := ih (n / 16) (by omega)
      rw [digitsIn] at hhigh
      rw [Nat.toDigits_of_base_le (by decide) (by omega), digitsIn, List.foldlM_append, hhigh]
      simp [hexValue?_digitChar _ hlow, hlow, Nat.div_add_mod']

theorem digitsIn_lt {s : List Char} (h : digitsIn 16 s = some n) : n < 16 ^ s.length := by
  induction s using List.reverseRecOn generalizing n with
  | nil =>
    obtain rfl : 0 = n := by simpa [digitsIn] using h
    simp
  | append_singleton s c ih =>
    rw [digitsIn, List.foldlM_append] at h
    obtain ⟨m, hm, hn⟩ := Option.bind_eq_some_iff.mp h
    have hlt := ih hm
    simp only [List.foldlM_cons, List.foldlM_nil, Option.bind_eq_bind, Option.bind_eq_some_iff] at hn
    obtain ⟨k, ⟨d, -, hk⟩, hn⟩ := hn
    obtain ⟨hd, hk⟩ := Option.ite_none_right_eq_some.mp hk
    cases hn
    cases hk
    rw [List.length_append, List.length_singleton, Nat.pow_succ]
    omega

theorem exists_of_mem_toDigits {c : Char} {base n : Nat} (hb : 1 < base)
    (h : c ∈ Nat.toDigits base n) : ∃ d < base, c = d.digitChar := by
  induction n using Nat.strongRecOn with
  | ind n ih =>
    by_cases hn : n < base
    · rw [Nat.toDigits_of_lt_base hn, List.mem_singleton] at h
      exact ⟨n, hn, h⟩
    · rw [Nat.toDigits_of_base_le hb (by omega), List.mem_append, List.mem_singleton] at h
      rcases h with h | h
      · exact ih (n / base) (Nat.div_lt_self (by omega) hb) h
      · exact ⟨n % base, Nat.mod_lt n (by omega), h⟩

theorem not_mem_toDigits {c : Char} (h : ∀ d < 16, d.digitChar ≠ c) (n : Nat) :
    c ∉ Nat.toDigits 16 n := by
  intro hc
  obtain ⟨d, hd, heq⟩ := exists_of_mem_toDigits (by decide) hc
  exact h d hd heq.symm

-- ---------------------------------------------------------------------------
-- Pieces
-- ---------------------------------------------------------------------------

/-- The pieces of an address fit in 16 bits each. -/
def FitPieces (ns : List Nat) : Prop := ∀ n ∈ ns, n < 0x10000

theorem hexPiece_toDigits {n : Nat} (h : n < 0x10000) : hexPiece (Nat.toDigits 16 n) = some n := by
  have hlength : (Nat.toDigits 16 n).length ≤ 4 :=
    (Nat.length_toDigits_le_iff (by decide) (by decide)).mpr h
  have hempty : (Nat.toDigits 16 n).isEmpty = false := by simp [Nat.toDigits_ne_nil]
  simp [hexPiece, hempty, hlength, digitsIn_toDigits]

theorem hexPiece_lt {s : List Char} (h : hexPiece s = some n) : n < 0x10000 := by
  obtain ⟨hlength, h⟩ := Option.ite_none_left_eq_some.mp h
  simp only [Bool.or_eq_true, decide_eq_true_eq, not_or, Nat.not_lt] at hlength
  calc n < 16 ^ s.length := digitsIn_lt h
    _ ≤ 16 ^ 4 := Nat.pow_le_pow_right (by decide) hlength.2

theorem octetPart_le {s : List Char} (h : octetPart s = some n) : n ≤ 255 := by
  obtain ⟨-, h⟩ := Option.ite_none_left_eq_some.mp h
  obtain ⟨m, -, h⟩ := Option.bind_eq_some_iff.mp h
  obtain ⟨hle, h⟩ := Option.ite_none_right_eq_some.mp h
  cases h
  exact hle

theorem embeddedIpv4_fit {s : List Char} (h : embeddedIpv4 s = some ns) : FitPieces ns := by
  obtain ⟨parts, hparts, h⟩ := Option.bind_eq_some_iff.mp h
  have hle : ∀ n ∈ parts, n ≤ 255 := Lists.forall_mem_of_mapM (fun _ _ => octetPart_le) hparts
  split at h
  · cases h
    simp only [List.forall_mem_cons] at hle
    simp only [FitPieces, List.forall_mem_cons]
    refine ⟨by omega, by omega, by simp⟩
  · cases h

theorem pieceList_fit {pieces : List (List Char)} (h : pieceList pieces = some ns) :
    FitPieces ns := by
  fun_induction pieceList pieces generalizing ns with
  | case1 =>
    cases h
    simp [FitPieces]
  | case2 last hdot => exact embeddedIpv4_fit h
  | case3 last hdot =>
    obtain ⟨n, hn, rfl⟩ := Option.map_eq_some_iff.mp h
    simpa [FitPieces] using hexPiece_lt hn
  | case4 piece rest hmore ih =>
    obtain ⟨n, hn, h⟩ := Option.bind_eq_some_iff.mp h
    obtain ⟨ms, hms, h⟩ := Option.bind_eq_some_iff.mp h
    cases h
    exact List.forall_mem_cons.mpr ⟨hexPiece_lt hn, ih hms⟩

theorem piecesOf_fit {s : List Char} (h : piecesOf s = some ns) : FitPieces ns := by
  unfold piecesOf at h
  split at h
  · cases h
    simp [FitPieces]
  · exact pieceList_fit h

def joinedPieces (ns : List Nat) : List Char := joinWith [':'] (ns.map (Nat.toDigits 16))

theorem joinedPieces_cons_cons (m n : Nat) (ns : List Nat) :
    joinedPieces (m :: n :: ns) = Nat.toDigits 16 m ++ ':' :: joinedPieces (n :: ns) := by
  simp [joinedPieces, joinWith, List.intercalate]

theorem joinedPieces_singleton (n : Nat) : joinedPieces [n] = Nat.toDigits 16 n := by
  simp [joinedPieces, joinWith, List.intercalate]

theorem exists_joinedPieces (n : Nat) (ns : List Nat) :
    ∃ c s, joinedPieces (n :: ns) = c :: s ∧ c ≠ ':' := by
  obtain ⟨c, s, hc⟩ := List.exists_cons_of_ne_nil (Nat.toDigits_ne_nil (n := n) (b := 16))
  have hne : c ≠ ':' := by
    rintro rfl
    exact not_mem_toDigits (by decide) n (hc ▸ List.mem_cons_self)
  cases ns with
  | nil => exact ⟨c, s, by rw [joinedPieces_singleton, hc], hne⟩
  | cons m more => exact ⟨c, _, by rw [joinedPieces_cons_cons, hc, List.cons_append], hne⟩

theorem mem_joinedPieces {c : Char} {ns : List Nat} (h : c ∈ joinedPieces ns) :
    c = ':' ∨ ∃ d < 16, c = d.digitChar := by
  induction ns with
  | nil => cases h
  | cons n rest ih =>
    cases rest with
    | nil =>
      rw [joinedPieces_singleton] at h
      exact .inr (exists_of_mem_toDigits (by decide) h)
    | cons m more =>
      rw [joinedPieces_cons_cons, List.mem_append, List.mem_cons] at h
      rcases h with h | h | h
      · exact .inr (exists_of_mem_toDigits (by decide) h)
      · exact .inl h
      · exact ih h

theorem pieceList_toDigits (h : FitPieces ns) :
    pieceList (ns.map (Nat.toDigits 16)) = some ns := by
  induction ns with
  | nil => rfl
  | cons n rest ih =>
    obtain ⟨hn, hrest⟩ := List.forall_mem_cons.mp h
    cases rest with
    | nil =>
      have hdot : '.' ∉ Nat.toDigits 16 n := not_mem_toDigits (by decide) n
      simp [pieceList, hdot, hexPiece_toDigits hn]
    | cons m more =>
      rw [List.map_cons, List.map_cons, pieceList, ← List.map_cons, ih hrest,
        hexPiece_toDigits hn]
      · rfl
      · simp

theorem piecesOf_joined (h : FitPieces ns) : piecesOf (joinedPieces ns) = some ns := by
  cases ns with
  | nil => rfl
  | cons n rest =>
    have hcolon : ∀ piece ∈ (n :: rest).map (Nat.toDigits 16), ':' ∉ piece := by
      intro piece hp
      obtain ⟨m, -, rfl⟩ := List.mem_map.mp hp
      exact not_mem_toDigits (by decide) m
    obtain ⟨c, s, hs, -⟩ := exists_joinedPieces n rest
    rw [piecesOf, if_neg (by simp [hs]), joinedPieces, splitOn_joinWith hcolon (by simp),
      pieceList_toDigits h]

-- ---------------------------------------------------------------------------
-- Gaps
-- ---------------------------------------------------------------------------

theorem aroundGap_digits {s : List Char} (h : ':' ∉ s) (t : List Char) :
    aroundGap (s ++ t) = (aroundGap t).map fun (before, after) => (s ++ before, after) := by
  induction s with
  | nil => simp
  | cons c rest ih =>
    obtain ⟨hc, hrest⟩ : ':' ≠ c ∧ ':' ∉ rest := by simpa using h
    rw [List.cons_append, aroundGap.eq_2 _ _ (by simp [hc.symm]), ih hrest, Option.map_map]
    rfl

/-- Between pieces there are single colons, so the first gap is one that follows them. -/
theorem aroundGap_joined (ns : List Nat) (t : List Char) :
    aroundGap (joinedPieces ns ++ t) =
      (aroundGap t).map fun (before, after) => (joinedPieces ns ++ before, after) := by
  have hcolon (n : Nat) : ':' ∉ Nat.toDigits 16 n := not_mem_toDigits (by decide) n
  induction ns with
  | nil =>
    simp [joinedPieces, joinWith]
  | cons n rest ih =>
    cases rest with
    | nil => rw [joinedPieces_singleton, aroundGap_digits (hcolon n)]
    | cons m more =>
      obtain ⟨c, s, hs, hc⟩ := exists_joinedPieces m more
      rw [joinedPieces_cons_cons, List.append_assoc, aroundGap_digits (hcolon n),
        List.cons_append, hs, List.cons_append, aroundGap.eq_2 _ _ (by simp [hc]),
        ← List.cons_append, ← hs, ih, Option.map_map, Option.map_map]
      simp [Function.comp_def]

theorem aroundGap_joined_none (ns : List Nat) : aroundGap (joinedPieces ns) = none := by
  simpa [aroundGap] using aroundGap_joined ns []

theorem aroundGap_joined_some (ns : List Nat) (t : List Char) :
    aroundGap (joinedPieces ns ++ ':' :: ':' :: t) = some (joinedPieces ns, t) := by
  simpa [aroundGap] using aroundGap_joined ns (':' :: ':' :: t)

theorem zeroRun_spec (ns : List Nat) :
    ns = List.replicate (zeroRun ns) 0 ++ ns.drop (zeroRun ns) := by
  induction ns with
  | nil => rfl
  | cons n rest ih =>
    by_cases h : n = 0
    · have hrun : zeroRun (n :: rest) = zeroRun rest + 1 := by simp [zeroRun, h]
      rw [hrun, List.replicate_succ, List.cons_append, List.drop_succ_cons, ← ih, h]
    · simp [zeroRun, h]

theorem foldl_longer_mem (runs : List (Nat × Nat)) (best : Nat × Nat) :
    runs.foldl (fun (b : Nat × Nat) r => if b.2 < r.2 then r else b) best ∈ best :: runs := by
  induction runs generalizing best with
  | nil => simp
  | cons r rest ih =>
    rw [List.foldl_cons]
    split
    · exact List.mem_cons_of_mem best (ih r)
    · exact (List.sublist_cons_self r rest).cons_cons best |>.subset (ih best)

theorem longestGap_spec {start length : Nat} (h : longestGap ns = some (start, length)) :
    2 ≤ length ∧
      ns = ns.take start ++ (List.replicate length 0 ++ ns.drop (start + length)) := by
  obtain ⟨hlong, h⟩ := Option.ite_none_right_eq_some.mp h
  have hmem := foldl_longer_mem ((List.range ns.length).map fun i => (i, zeroRun (ns.drop i))) (0, 0)
  rw [Option.some.inj h] at hlong hmem
  refine ⟨hlong, ?_⟩
  rcases List.mem_cons.mp hmem with hnone | hrun
  · cases hnone
    omega
  · obtain ⟨i, -, hi⟩ := List.mem_map.mp hrun
    cases hi
    rw [← List.drop_drop, ← zeroRun_spec, List.take_append_drop]

-- ---------------------------------------------------------------------------
-- Addresses
-- ---------------------------------------------------------------------------

/-- Eight pieces of 16 bits. -/
structure IsAddress (ns : List Nat) : Prop where
  length : ns.length = 8
  fit : FitPieces ns

theorem isAddress_around {front back : List Nat} (hf : FitPieces front) (hb : FitPieces back)
    (h : front.length + back.length ≤ 7) :
    IsAddress (front ++ List.replicate (8 - front.length - back.length) 0 ++ back) where
  length := by
    simp only [List.length_append, List.length_replicate]
    omega
  fit := by
    intro n hn
    simp only [List.mem_append, List.mem_replicate] at hn
    rcases hn with (hn | ⟨-, rfl⟩) | hn
    · exact hf n hn
    · decide
    · exact hb n hn

theorem isAddress_of_parseIpv6 {s : List Char} {h : Host} (hs : parseIpv6 s = .ok h) :
    ∃ ns, h = .ipv6 ns ∧ IsAddress ns := by
  unfold parseIpv6 at hs
  simp only at hs
  split at hs
  · rename_i ns hns
    cases hs
    refine ⟨ns, rfl, ?_⟩
    split at hns
    · obtain ⟨ms, hms, hns⟩ := Option.bind_eq_some_iff.mp hns
      obtain ⟨hlength, hns⟩ := Option.ite_none_right_eq_some.mp hns
      cases hns
      exact ⟨hlength, piecesOf_fit hms⟩
    · rename_i before after hgap
      split at hns
      · cases hns
      · obtain ⟨front, hfront, hns⟩ := Option.bind_eq_some_iff.mp hns
        obtain ⟨back, hback, hns⟩ := Option.bind_eq_some_iff.mp hns
        obtain ⟨hlength, hns⟩ := Option.ite_none_right_eq_some.mp hns
        cases hns
        exact isAddress_around (piecesOf_fit hfront) (piecesOf_fit hback) hlength
  · cases hs

/-- All pieces of an address stand in its text, or all but a run of zeros. -/
theorem toList_ipv6Text (ns : List Nat) : (ipv6Text ns).toList = joinedPieces ns ∨
    ∃ front length back, 2 ≤ length ∧ ns = front ++ (List.replicate length 0 ++ back) ∧
      (ipv6Text ns).toList = joinedPieces front ++ ':' :: ':' :: joinedPieces back := by
  have hpart (xs : List Nat) : (Text.join ":" (xs.map hexText)).toList = joinedPieces xs := by
    simp [Text.toList_join, joinedPieces, hexText, Function.comp_def]
  unfold ipv6Text
  simp only
  cases hgap : longestGap ns with
  | none => exact .inl (hpart ns)
  | some gap =>
    obtain ⟨start, length⟩ := gap
    obtain ⟨hlong, hns⟩ := longestGap_spec hgap
    refine .inr ⟨ns.take start, length, ns.drop (start + length), hlong, hns, ?_⟩
    simp only [String.toList_append, hpart, List.append_assoc]
    rfl

theorem mem_ipv6Text {c : Char} {ns : List Nat} (h : c ∈ (ipv6Text ns).toList) :
    c = ':' ∨ ∃ d < 16, c = d.digitChar := by
  rcases toList_ipv6Text ns with hall | ⟨front, length, back, -, -, htext⟩
  · exact mem_joinedPieces (hall ▸ h)
  · rw [htext] at h
    simp only [List.mem_append, List.mem_cons] at h
    rcases h with h | h | h | h
    · exact mem_joinedPieces h
    · exact .inl h
    · exact .inl h
    · exact mem_joinedPieces h

theorem parseIpv6_text {ns : List Nat} (h : IsAddress ns) :
    parseIpv6 (ipv6Text ns).toList = .ok (.ipv6 ns) := by
  rcases toList_ipv6Text ns with hall | ⟨front, length, back, hlong, rfl, htext⟩
  · simp [hall, parseIpv6, aroundGap_joined_none, piecesOf_joined h.fit, h.length]
  · have hfront : FitPieces front := fun n hn => h.fit n (by simp [hn])
    have hback : FitPieces back := fun n hn => h.fit n (by simp [hn])
    have hlength : front.length + (length + back.length) = 8 := by simpa using h.length
    have hrun : 8 - front.length - back.length = length := by omega
    have hdot : '.' ∉ joinedPieces front := by
      have hdigits : ∀ d < 16, '.' ≠ d.digitChar := by decide
      intro hc
      rcases mem_joinedPieces hc with hcolon | ⟨d, hd, heq⟩
      · contradiction
      · exact hdigits d hd heq
    simp [htext, parseIpv6, aroundGap_joined_some, hdot, piecesOf_joined hfront,
      piecesOf_joined hback, hrun, show front.length + back.length ≤ 7 by omega]

-- ---------------------------------------------------------------------------
-- Texts of hosts
-- ---------------------------------------------------------------------------

/-- A host that is read back from where it stands in a URL, with or without a port. -/
structure IsReadBack (h : Host) : Prop where
  chars : ∀ c ∈ h.text.toList, isEdge c = false ∧ endsAuthority false c = false ∧ c ≠ '@'
  split : ∀ port : List Char, port.head?.all (· = ':') →
    splitHost false (h.text.toList ++ port) = (h.text.toList, port)
  parse : parsePlain h.text.toList = .ok h

theorem splitHost_port {port : List Char} (h : port.head?.all (· = ':')) :
    splitHost false port = ([], port) := by
  cases port with
  | nil => rfl
  | cons c rest =>
    obtain rfl : c = ':' := by simpa using h
    rfl

theorem splitHost_outside {s : List Char} (h : ∀ c ∈ s, c ≠ ':' ∧ c ≠ '[' ∧ c ≠ ']')
    (t : List Char) : splitHost false (s ++ t) = (s ++ (splitHost false t).1, (splitHost false t).2) := by
  induction s with
  | nil => rfl
  | cons c rest ih =>
    obtain ⟨⟨hcolon, hopen, hclose⟩, hrest⟩ := List.forall_mem_cons.mp h
    simp [splitHost, hcolon, hopen, hclose, ih hrest]

theorem splitHost_inside {s : List Char} (h : ∀ c ∈ s, c ≠ '[' ∧ c ≠ ']') (t : List Char) :
    splitHost true (s ++ t) = (s ++ (splitHost true t).1, (splitHost true t).2) := by
  induction s with
  | nil => rfl
  | cons c rest ih =>
    obtain ⟨⟨hopen, hclose⟩, hrest⟩ := List.forall_mem_cons.mp h
    simp [splitHost, hopen, hclose, ih hrest]

/-- A character that stands for itself in a name. -/
def isNameChar (c : Char) : Bool := !(endsHost c || isControl c || 0x80 ≤ c.toNat)

theorem isNameChar_of_isPlain {c : Char} (h : isPlain c) : isNameChar c := by
  have hascii : ∀ n < 0x80, isPlain (Char.ofNat n) → isNameChar (Char.ofNat n) := by
    decide +kernel
  simpa using hascii c.toNat (lt_of_isPlain h) (by simpa using h)

theorem isNameChar_encoded {s : List Char} (h : s.any endsHost = false) :
    ∀ c ∈ percentEncode isControl s, isNameChar c := by
  intro c hc
  rcases mem_percentEncode hc with hplain | ⟨hmem, hset, hlt⟩
  · exact isNameChar_of_isPlain hplain
  · have hends : endsHost c = false := by simpa using List.any_eq_false.mp h c hmem
    simp [isNameChar, hends, hset, hlt]

theorem isNameChar_separates {c : Char} (h : isNameChar c) :
    isEdge c = false ∧ endsAuthority false c = false ∧ c ∉ ['@', ':', '[', ']'] := by
  have hascii : ∀ n < 0x80, isNameChar (Char.ofNat n) → isEdge (Char.ofNat n) = false ∧
      endsAuthority false (Char.ofNat n) = false ∧ Char.ofNat n ∉ ['@', ':', '[', ']'] := by
    decide
  have hlt : c.toNat < 0x80 := by
    simp only [isNameChar, Bool.not_eq_true', Bool.or_eq_false_iff, decide_eq_false_iff_not] at h
    omega
  simpa using hascii c.toNat hlt (by simpa using h)

theorem isReadBack_domain {name : List Char} (h : ∀ c ∈ name, isNameChar c) :
    IsReadBack (.domain (String.ofList name)) := by
  have hsep : ∀ c ∈ name, c ≠ '@' ∧ c ≠ ':' ∧ c ≠ '[' ∧ c ≠ ']' := by
    intro c hc
    simpa using (isNameChar_separates (h c hc)).2.2
  have hkept : ∀ c ∈ name, endsHost c = false ∧ isControl c = false ∧ c.toNat < 0x80 := by
    intro c hc
    simpa [isNameChar, and_assoc] using h c hc
  refine ⟨?_, ?_, ?_⟩
  · intro c hc
    rw [Host.text, String.toList_ofList] at hc
    have hc' := isNameChar_separates (h c hc)
    exact ⟨hc'.1, hc'.2.1, (hsep c hc).1⟩
  · intro port hport
    rw [Host.text, String.toList_ofList, splitHost_outside fun c hc => (hsep c hc).2,
      splitHost_port hport, List.append_nil]
  · have hbracket : bracketed? name = none := by
      cases name with
      | nil => rfl
      | cons c rest =>
        have hopen : c ≠ '[' := (hsep c List.mem_cons_self).2.2.1
        simp [bracketed?, hopen]
    have hany : name.any endsHost = false :=
      List.any_eq_false.mpr fun c hc => by simp [(hkept c hc).1]
    simp [Host.text, parsePlain, hbracket, hany, percentEncode_of_forall fun c hc => (hkept c hc).2]

theorem isReadBack_ipv6 {ns : List Nat} (h : IsAddress ns) : IsReadBack (.ipv6 ns) := by
  have hdigits : ∀ d < 16, isEdge d.digitChar = false ∧ endsAuthority false d.digitChar = false ∧
      d.digitChar ∉ ['@', '[', ']'] := by decide
  have hchars : ∀ c ∈ (ipv6Text ns).toList,
      isEdge c = false ∧ endsAuthority false c = false ∧ c ∉ ['@', '[', ']'] := by
    intro c hc
    rcases mem_ipv6Text hc with rfl | ⟨d, hd, rfl⟩
    · decide
    · exact hdigits d hd
  have htext : (Host.text (.ipv6 ns)).toList = '[' :: ((ipv6Text ns).toList ++ [']']) := by
    simp [Host.text]
  refine ⟨?_, ?_, ?_⟩ <;> rw [htext]
  · intro c hc
    simp only [List.mem_append, List.mem_cons, List.not_mem_nil, or_false] at hc
    rcases hc with rfl | hc | rfl
    · decide
    · have hc' := hchars c hc
      exact ⟨hc'.1, hc'.2.1, fun hat => hc'.2.2 (by simp [hat])⟩
    · decide
  · intro port hport
    have hinside : ∀ c ∈ (ipv6Text ns).toList, c ≠ '[' ∧ c ≠ ']' := by
      intro c hc
      have hc' := (hchars c hc).2.2
      simp only [List.mem_cons, not_or] at hc'
      exact ⟨hc'.2.1, hc'.2.2.1⟩
    simp [splitHost, splitHost_inside hinside, splitHost_port hport]
  · simp [parsePlain, bracketed?, parseIpv6_text h]

theorem isAddress_of_bracketed {s : List Char} {h : Host} (hs : bracketed? s = some (.ok h)) :
    ∃ ns, h = .ipv6 ns ∧ IsAddress ns := by
  unfold bracketed? at hs
  split at hs
  · split at hs
    · exact isAddress_of_parseIpv6 (Option.some.inj hs)
    · cases hs
  · cases hs

/-- What a name was encoded from does not matter, nor how an address was written. -/
theorem isReadBack_of_parsePlain {s : List Char} {h : Host} (hs : parsePlain s = .ok h) :
    IsReadBack h := by
  unfold parsePlain at hs
  split at hs
  · rename_i hb
    obtain ⟨ns, rfl, hns⟩ := isAddress_of_bracketed (hs ▸ hb)
    exact isReadBack_ipv6 hns
  · split at hs
    · cases hs
    · rename_i hends
      cases hs
      exact isReadBack_domain (isNameChar_encoded (by simpa using hends))

theorem eq_nil_of_parsePlain {s : List Char} (h : parsePlain s = .ok (.domain "")) : s = [] := by
  unfold parsePlain at h
  split at h
  · rename_i hb
    obtain ⟨ns, hns, -⟩ := isAddress_of_bracketed (h ▸ hb)
    cases hns
  · split at h
    · cases h
    · by_contra hs
      simp [percentEncode_ne_nil hs] at h

end Host

end ChannelKeeper.Url
