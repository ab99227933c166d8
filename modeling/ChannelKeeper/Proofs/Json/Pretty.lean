import Mathlib.Data.List.DropRight
import ChannelKeeper.Proofs.Json.Number

/-!
# Spread documents are read

A value in its spread form is read as one document that says the same: the same
containers in the same order, with names and strings in the pieces that they are
escaped to. Only the numbers are asked to read back. A written string is read up to its
closing quote, whatever follows, and stands for the text it was written for; strings that
are escaped in other ways are not looked at.
-/

namespace ChannelKeeper.Json

/-- What the reader makes of a written character: control characters without a
letter of their own are given by number. -/
def pieceOf (c : Char) : Piece :=
  if c.toNat < 0x20 ∧ c ∉ ['\x08', '\t', '\n', '\x0c', '\r'] then .unit c.toNat else .char c

def piecesOf (s : String) : List Piece := s.toList.map pieceOf

-- ---------------------------------------------------------------------------
-- Written strings
-- ---------------------------------------------------------------------------

theorem readUnit_hexChar : ∀ n < 0x20,
    readUnit '0' '0' (hexChar (n / 16)) (hexChar (n % 16)) = some n := by decide

theorem readString_simple {e c : Char} (h : simpleEscape? e = some c) (s : List Char) :
    readString ('\\' :: e :: s) =
      (readString s).map fun (pieces, rest) => (.char c :: pieces, rest) := by
  have hu : e ≠ 'u' := by
    rintro rfl
    cases h
  rw [readString.eq_4 e s fun _ _ _ _ _ he => absurd he hu, h]
  cases readString s <;> rfl

theorem readString_plain {c : Char} (hq : c ≠ '"') (hs : c ≠ '\\') (hc : ¬ c.toNat < 0x20)
    (s : List Char) :
    readString (c :: s) = (readString s).map fun (pieces, rest) => (.char c :: pieces, rest) := by
  rw [readString.eq_5 c s hq (fun _ _ _ _ _ h => absurd h hs) fun _ _ h => absurd h hs]
  exact if_neg fun h => h.elim hc hs

theorem readString_escapeChar (c : Char) (s : List Char) :
    readString (escapeChar c ++ s) =
      (readString s).map fun (pieces, rest) => (pieceOf c :: pieces, rest) := by
  unfold escapeChar
  split
  case h_8 hquote hslash hb hf hn hr ht =>
    split
    · rename_i hlow
      have hpiece : pieceOf c = .unit c.toNat := by simp_all [pieceOf]
      simp only [List.cons_append, List.nil_append, readString, readUnit_hexChar _ hlow, hpiece]
      cases readString s <;> rfl
    · rename_i hlow
      have hpiece : pieceOf c = .char c := by simp [pieceOf, hlow]
      rw [hpiece]
      exact readString_plain hquote hslash hlow s
  all_goals exact readString_simple rfl s

theorem readString_flatMap (s rest : List Char) :
    readString (s.flatMap escapeChar ++ '"' :: rest) = some (s.map pieceOf, rest) := by
  induction s with
  | nil => rfl
  | cons c s ih =>
    rw [List.flatMap_cons, List.append_assoc, readString_escapeChar, ih]
    rfl

-- ---------------------------------------------------------------------------
-- What written strings mean
-- ---------------------------------------------------------------------------

theorem decodePieces_unit {n : Nat} (hn : n < 0xD800) (pieces : List Piece) :
    decodePieces (.unit n :: pieces) = (decodePieces pieces).map (Char.ofNat n :: ·) := by
  have hhigh : ¬ (0xD800 ≤ n ∧ n ≤ 0xDBFF) := by omega
  have hlow : ¬ (0xDC00 ≤ n ∧ n ≤ 0xDFFF) := by omega
  rw [decodePieces.eq_def]
  simp only [if_neg hhigh, if_neg hlow]

theorem decodePieces_map (s : List Char) : decodePieces (s.map pieceOf) = some s := by
  induction s with
  | nil => rfl
  | cons c s ih =>
    rw [List.map_cons, pieceOf]
    split
    · rename_i hc
      rw [decodePieces_unit (by omega), ih, Option.map_some, Char.ofNat_toNat]
    · rw [decodePieces, ih, Option.map_some]

theorem decodeText_piecesOf (s : String) : decodeText (piecesOf s) = some s := by
  rw [decodeText, piecesOf, decodePieces_map, Option.map_some, String.ofList_toList]

-- ---------------------------------------------------------------------------
-- Written values
-- ---------------------------------------------------------------------------

mutual

/-- What the spread form of a value says. -/
def Value.document : Value → Document
  | .null => .null
  | .bool b => .bool b
  | .number n =>
    match readNumber (writeNumber n) with
    | some (text, _) => .number text
    | none => .null
  | .string s => .string (piecesOf s)
  | .array items => .array (itemDocuments items)
  | .object members => .object (memberDocuments members)

def itemDocuments : List Value → List Document
  | [] => []
  | v :: rest => v.document :: itemDocuments rest

def memberDocuments : List (String × Value) → List (List Piece × Document)
  | [] => []
  | (name, v) :: rest => (piecesOf name, v.document) :: memberDocuments rest

end

mutual

def Value.numbers : Value → List Number
  | .number n => [n]
  | .array items => itemNumbers items
  | .object members => memberNumbers members
  | _ => []

def itemNumbers : List Value → List Number
  | [] => []
  | v :: rest => v.numbers ++ itemNumbers rest

def memberNumbers : List (String × Value) → List Number
  | [] => []
  | (_, v) :: rest => v.numbers ++ memberNumbers rest

end

-- ---------------------------------------------------------------------------
-- Blanks
-- ---------------------------------------------------------------------------

theorem skipSpace_cons {c : Char} (h : isSpace c = false) (s : List Char) :
    skipSpace (c :: s) = c :: s := by simp [skipSpace, h]

theorem skipSpace_space (s : List Char) : skipSpace (' ' :: s) = skipSpace s := rfl

theorem skipSpace_newLine (level : Nat) (s : List Char) :
    skipSpace (newLine level ++ s) = skipSpace s := by
  have h : ∀ n, skipSpace (List.replicate n ' ' ++ s) = skipSpace s := fun n => by
    induction n with
    | zero => rfl
    | succ n ih => rw [List.replicate_succ, List.cons_append, skipSpace_space, ih]
  exact h _

theorem readValue_congr {s t : List Char} (h : skipSpace s = skipSpace t) (fuel : Nat) :
    readValue fuel s = readValue fuel t := by
  cases fuel with
  | zero => rfl
  | succ fuel => simp only [readValue, h]

theorem endsNumber_newLine (level : Nat) (s : List Char) : EndsNumber (newLine level ++ s) :=
  endsNumber_cons rfl _

-- ---------------------------------------------------------------------------
-- The first character of a value
-- ---------------------------------------------------------------------------

/-- A character that a value may start with, which is neither a blank nor the end
of an array. -/
def StartsValue (c : Char) : Prop := isSpace c = false ∧ c ≠ ']'

theorem startsValue_of_isDigit {c : Char} (h : c.isDigit ∨ c = '-') : StartsValue c := by
  obtain h | rfl := h
  · refine ⟨?_, ?_⟩
    · rw [isSpace, Bool.or_eq_false_iff, Bool.or_eq_false_iff, Bool.or_eq_false_iff]
      simp only [beq_eq_false_iff_ne]
      refine ⟨⟨⟨?_, ?_⟩, ?_⟩, ?_⟩ <;> rintro rfl <;> cases h
    · rintro rfl
      cases h
  · exact ⟨rfl, by decide⟩

theorem head_writeNumber {n : Number} (h : n.ReadsBack) :
    ∃ c r, writeNumber n = c :: r ∧ StartsValue c := by
  obtain ⟨text, hread, -⟩ := h
  obtain ⟨c, r, hw, hc⟩ := head_of_readNumber hread
  exact ⟨c, r, hw, startsValue_of_isDigit hc⟩

theorem head_writePretty {v : Value} (hv : ∀ n ∈ v.numbers, n.ReadsBack) (level : Nat) :
    ∃ c r, writePretty level v = c :: r ∧ StartsValue c := by
  cases v with
  | null => exact ⟨_, _, rfl, rfl, by decide⟩
  | bool b => cases b <;> exact ⟨_, _, rfl, rfl, by decide⟩
  | number n => exact head_writeNumber (hv n (List.mem_singleton_self n))
  | string s => exact ⟨_, _, rfl, rfl, by decide⟩
  | array items => cases items <;> exact ⟨_, _, rfl, rfl, by decide⟩
  | object members => cases members <;> exact ⟨_, _, rfl, rfl, by decide⟩

theorem readValue_number {c : Char} (h : c.isDigit ∨ c = '-') (fuel : Nat) (r : List Char) :
    readValue (fuel + 1) (c :: r) =
      (readNumber (c :: r)).map fun (n, rest) => (.number n, rest) := by
  have hne : ∀ d : Char, ¬ (d.isDigit ∨ d = '-') → ∀ r', c :: r ≠ d :: r' := by
    rintro d hd r' he
    exact hd ((List.cons.inj he).1 ▸ h)
  rw [readValue, skipSpace_cons (startsValue_of_isDigit h).1]
  split <;> rename_i he
  · exact absurd he (hne _ (by decide) _)
  · exact absurd he (hne _ (by decide) _)
  · exact absurd he (hne _ (by decide) _)
  · exact absurd he (hne _ (by decide) _)
  · exact absurd he (hne _ (by decide) _)
  · exact absurd he (hne _ (by decide) _)
  · rfl

-- ---------------------------------------------------------------------------
-- Values
-- ---------------------------------------------------------------------------

theorem readValue_writeNumber {n : Number} (h : n.ReadsBack) (fuel : Nat) {rest : List Char}
    (hr : EndsNumber rest) : readValue (fuel + 1) (writeNumber n ++ rest) =
      some ((Value.number n).document, rest) := by
  obtain ⟨text, hread, -⟩ := h
  obtain ⟨c, r, hw, hc⟩ := head_of_readNumber hread
  have happend := readNumber_append hr hread
  rw [Value.document, hread]
  rw [hw, List.cons_append] at happend ⊢
  rw [readValue_number hc, happend]
  rfl

theorem readValue_string (fuel : Nat) (s : String) (rest : List Char) :
    readValue (fuel + 1) (writeString s ++ rest) = some (.string (piecesOf s), rest) := by
  have hread := readString_flatMap s.toList rest
  rw [writeString, List.cons_append, List.append_assoc, List.singleton_append, readValue,
    skipSpace_cons (c := '"') rfl]
  simp only [hread, Option.map_some, piecesOf]

theorem readValue_array {s left : List Char} {items : List Document} (fuel : Nat)
    (hs : ∀ r, skipSpace s ≠ ']' :: r) (hread : readItems fuel (skipSpace s) = some (items, left)) :
    readValue (fuel + 1) ('[' :: s) = some (.array items, left) := by
  rw [readValue, skipSpace_cons (c := '[') rfl]
  simp only [hread, Option.map_some]

theorem readValue_object {s left : List Char} {members : List (List Piece × Document)} (fuel : Nat)
    (hs : ∀ r, skipSpace s ≠ '\x7d' :: r)
    (hread : readMembers fuel (skipSpace s) = some (members, left)) :
    readValue (fuel + 1) ('\x7b' :: s) = some (.object members, left) := by
  rw [readValue, skipSpace_cons (c := '\x7b') rfl]
  simp only [hread, Option.map_some]

theorem readItems_last {s rest left : List Char} {item : Document} (fuel : Nat)
    (hread : readValue fuel s = some (item, left)) (hl : skipSpace left = ']' :: rest) :
    readItems (fuel + 1) s = some ([item], rest) := by
  simp [readItems, hread, hl]

theorem readItems_more {s rest left next : List Char} {item : Document} {items : List Document}
    (fuel : Nat) (hread : readValue fuel s = some (item, left))
    (hl : skipSpace left = ',' :: next) (hn : readItems fuel next = some (items, rest)) :
    readItems (fuel + 1) s = some (item :: items, rest) := by
  simp [readItems, hread, hl, hn]

theorem readString_name (name : String) (s : List Char) :
    readString (name.toList.flatMap escapeChar ++ '"' :: ':' :: s) =
      some (piecesOf name, ':' :: s) :=
  readString_flatMap _ _

theorem skipSpace_writeString (name : String) (s : List Char) :
    skipSpace (writeString name ++ s) = writeString name ++ s :=
  skipSpace_cons (c := '"') rfl _

theorem readMembers_last {start s rest left : List Char} {value : Document} {name : String}
    (fuel : Nat) (hs : skipSpace start = writeString name ++ ':' :: s)
    (hread : readValue fuel s = some (value, left)) (hl : skipSpace left = '\x7d' :: rest) :
    readMembers (fuel + 1) start = some ([(piecesOf name, value)], rest) := by
  simp [readMembers, hs, writeString, skipSpace_cons (c := ':') rfl, readString_name, hread, hl]

theorem readMembers_more {start s rest left next : List Char} {value : Document}
    {members : List (List Piece × Document)} {name : String} (fuel : Nat)
    (hs : skipSpace start = writeString name ++ ':' :: s)
    (hread : readValue fuel s = some (value, left)) (hl : skipSpace left = ',' :: next)
    (hn : readMembers fuel next = some (members, rest)) :
    readMembers (fuel + 1) start = some ((piecesOf name, value) :: members, rest) := by
  simp [readMembers, hs, writeString, skipSpace_cons (c := ':') rfl, readString_name, hread, hl, hn]

-- ---------------------------------------------------------------------------
-- Values inside values
-- ---------------------------------------------------------------------------

theorem skipSpace_skipSpace (s : List Char) : skipSpace (skipSpace s) = skipSpace s :=
  List.dropWhile_idempotent isSpace s

theorem readItems_skipSpace (fuel : Nat) (s : List Char) :
    readItems fuel (skipSpace s) = readItems fuel s := by
  cases fuel with
  | zero => rfl
  | succ fuel => simp only [readItems, readValue_congr (skipSpace_skipSpace s)]

theorem readMembers_skipSpace (fuel : Nat) (s : List Char) :
    readMembers fuel (skipSpace s) = readMembers fuel s := by
  cases fuel with
  | zero => rfl
  | succ fuel => simp only [readMembers, skipSpace_skipSpace]

theorem prettyItems_opening {v : Value} (hv : ∀ n ∈ v.numbers, n.ReadsBack) (level : Nat)
    (vs : List Value) (s r : List Char) :
    skipSpace (prettyItems level (v :: vs) ++ s) ≠ ']' :: r := by
  have hopen : ∃ tail,
      prettyItems level (v :: vs) = newLine level ++ (writePretty level v ++ tail) := by
    cases vs with
    | nil => exact ⟨[], by simp [prettyItems]⟩
    | cons w ws => exact ⟨_, by rw [prettyItems, List.append_assoc]⟩
  obtain ⟨tail, ht⟩ := hopen
  obtain ⟨c, t, hw, hspace, hc⟩ := head_writePretty hv level
  rw [ht, hw, List.append_assoc, skipSpace_newLine, List.cons_append, List.cons_append,
    skipSpace_cons hspace]
  exact fun he => hc (List.cons.inj he).1

theorem prettyMembers_opening (m : String × Value) (level : Nat) (ms : List (String × Value))
    (s r : List Char) : skipSpace (prettyMembers level (m :: ms) ++ s) ≠ '\x7d' :: r := by
  have hopen : ∃ tail, prettyMembers level (m :: ms) = newLine level ++ '"' :: tail := by
    cases ms <;>
      exact ⟨_, by rw [prettyMembers, writeString, List.append_assoc, List.cons_append]⟩
  obtain ⟨tail, ht⟩ := hopen
  rw [ht, List.append_assoc, skipSpace_newLine, List.cons_append, skipSpace_cons rfl]
  exact fun he => absurd (List.cons.inj he).1 (by decide)

-- The recursion is on the fuel, as it is in the reader: a call takes one off it, and
-- leaves a bracket, a line break or a name behind, so the length that is left shrinks
-- with it.
mutual

/-- The fuel that the reader of a whole text starts with is enough. -/
theorem readValue_writePretty : (fuel : Nat) → (v : Value) → (∀ n ∈ v.numbers, n.ReadsBack) →
    (level : Nat) → 2 * (writePretty level v).length ≤ fuel → (rest : List Char) →
    EndsNumber rest → readValue fuel (writePretty level v ++ rest) = some (v.document, rest)
  | 0, v, hv, level, hf, _, _ => by
    obtain ⟨c, r, hw, -⟩ := head_writePretty hv level
    simp [hw] at hf
  | _ + 1, .null, _, _, _, _, _ => rfl
  | _ + 1, .bool true, _, _, _, _, _ => rfl
  | _ + 1, .bool false, _, _, _, _, _ => rfl
  | fuel + 1, .number n, hv, _, _, rest, hr =>
    readValue_writeNumber (hv n (List.mem_singleton_self n)) fuel hr
  | fuel + 1, .string s, _, _, _, rest, _ => readValue_string fuel s rest
  | _ + 1, .array [], _, _, _, _, _ => rfl
  | fuel + 1, .array (v :: vs), hv, level, hf, rest, _ => by
    have hitems := readItems_prettyItems fuel v vs hv (level + 1)
      (by simp only [writePretty, List.length_cons, List.length_append] at hf; omega) level rest
    have hne := prettyItems_opening (List.forall_mem_append.mp hv).1 (level + 1) vs
    simp only [writePretty, List.cons_append, List.append_assoc, List.nil_append]
    exact readValue_array fuel (hne _) ((readItems_skipSpace fuel _).trans hitems)
  | _ + 1, .object [], _, _, _, _, _ => rfl
  | fuel + 1, .object (m :: ms), hv, level, hf, rest, _ => by
    have hmembers := readMembers_prettyMembers fuel m ms hv (level + 1)
      (by simp only [writePretty, List.length_cons, List.length_append] at hf; omega) level rest
    have hne := prettyMembers_opening m (level + 1) ms
    simp only [writePretty, List.cons_append, List.append_assoc, List.nil_append]
    exact readValue_object fuel (hne _) ((readMembers_skipSpace fuel _).trans hmembers)

theorem readItems_prettyItems : (fuel : Nat) → (v : Value) → (vs : List Value) →
    (∀ n ∈ itemNumbers (v :: vs), n.ReadsBack) → (level : Nat) →
    2 * (prettyItems level (v :: vs)).length ≤ fuel → (outer : Nat) → (rest : List Char) →
    readItems fuel (prettyItems level (v :: vs) ++ (newLine outer ++ ']' :: rest)) =
      some (itemDocuments (v :: vs), rest)
  | 0, _, vs, _, _, hf, _, _ => by cases vs <;> simp [prettyItems, newLine] at hf
  | fuel + 1, v, [], hv, level, hf, outer, rest => by
    have hvalue := readValue_writePretty fuel v (List.forall_mem_append.mp hv).1 level
      (by simp only [prettyItems, newLine, List.length_cons, List.length_append] at hf; omega)
      (newLine outer ++ ']' :: rest) (endsNumber_newLine outer _)
    rw [← readValue_congr (skipSpace_newLine level _)] at hvalue
    rw [prettyItems, List.append_assoc]
    exact readItems_last fuel hvalue (skipSpace_newLine outer _)
  | fuel + 1, v, w :: ws, hv, level, hf, outer, rest => by
    simp only [prettyItems, newLine, List.length_cons, List.length_append] at hf
    have hvalue := readValue_writePretty fuel v (List.forall_mem_append.mp hv).1 level
      (by omega) (',' :: (prettyItems level (w :: ws) ++ (newLine outer ++ ']' :: rest)))
      (endsNumber_cons rfl _)
    have hmore := readItems_prettyItems fuel w ws (List.forall_mem_append.mp hv).2 level
      (by omega) outer rest
    rw [← readValue_congr (skipSpace_newLine level _)] at hvalue
    rw [prettyItems, List.append_assoc, List.append_assoc, List.cons_append]
    exact readItems_more fuel hvalue (skipSpace_cons rfl _) hmore

theorem readMembers_prettyMembers : (fuel : Nat) → (m : String × Value) →
    (ms : List (String × Value)) → (∀ n ∈ memberNumbers (m :: ms), n.ReadsBack) → (level : Nat) →
    2 * (prettyMembers level (m :: ms)).length ≤ fuel → (outer : Nat) → (rest : List Char) →
    readMembers fuel (prettyMembers level (m :: ms) ++ (newLine outer ++ '\x7d' :: rest)) =
      some (memberDocuments (m :: ms), rest)
  | 0, _, ms, _, _, hf, _, _ => by cases ms <;> simp [prettyMembers, newLine] at hf
  | fuel + 1, (name, v), [], hv, level, hf, outer, rest => by
    simp only [prettyMembers, newLine, List.length_cons, List.length_append] at hf
    have hvalue := readValue_writePretty fuel v (List.forall_mem_append.mp hv).1 level
      (by omega) (newLine outer ++ '\x7d' :: rest) (endsNumber_newLine outer _)
    rw [← readValue_congr (skipSpace_space _)] at hvalue
    simp only [prettyMembers, List.append_assoc, List.cons_append]
    exact readMembers_last fuel
      ((skipSpace_newLine level _).trans (skipSpace_writeString name _)) hvalue
      (skipSpace_newLine outer _)
  | fuel + 1, (name, v), m :: ms, hv, level, hf, outer, rest => by
    simp only [prettyMembers, newLine, List.length_cons, List.length_append] at hf
    have hvalue := readValue_writePretty fuel v (List.forall_mem_append.mp hv).1 level
      (by omega) (',' :: (prettyMembers level (m :: ms) ++ (newLine outer ++ '\x7d' :: rest)))
      (endsNumber_cons rfl _)
    have hmore := readMembers_prettyMembers fuel m ms (List.forall_mem_append.mp hv).2 level
      (by omega) outer rest
    rw [← readValue_congr (skipSpace_space _)] at hvalue
    simp only [prettyMembers, List.append_assoc, List.cons_append]
    exact readMembers_more fuel
      ((skipSpace_newLine level _).trans (skipSpace_writeString name _)) hvalue
      (skipSpace_cons rfl _) hmore

end

/-- A value whose numbers read back is read as its document. -/
theorem Document.read?_pretty {v : Value} (hv : ∀ n ∈ v.numbers, n.ReadsBack) :
    Document.read? v.pretty = some v.document := by
  have hread := readValue_writePretty (2 * (writePretty 0 v).length + 2) v hv 0 (by omega) []
    endsNumber_nil
  rw [List.append_nil] at hread
  simp only [Document.read?, Value.pretty, String.toList_ofList, hread]
  rfl

end ChannelKeeper.Json
