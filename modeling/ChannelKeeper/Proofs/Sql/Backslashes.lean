import ChannelKeeper.Proofs.Sql.Dump
import ChannelKeeper.Sql.Dialect

/-!
# Texts where a backslash escapes

MySQL has a rule of its own for texts between single quotes: a doubled quote stands
for one, and a backslash with the character after it for what the two mean together.
A dump doubles quotes and leaves backslashes as they are. So MySQL reads the texts of
a row as they were exactly if each backslash in them stands in front of `%` or `_`,
where it means itself. Nothing is said of cells that are no texts, and of a mode in
which MySQL takes backslashes for themselves.
-/

namespace ChannelKeeper.Sql

-- ---------------------------------------------------------------------------
-- Reading texts
-- ---------------------------------------------------------------------------

/-- The letters that a backslash gives a meaning to, and that meaning. -/
def escapes : List (Char × Char) :=
  [('0', Char.ofNat 0), ('b', Char.ofNat 8), ('n', '\n'), ('r', '\r'), ('t', '\t'),
    ('Z', Char.ofNat 26)]

/-- What a backslash in front of the character stands for. -/
def escaped (c : Char) : List Char :=
  if c = '%' ∨ c = '_' then ['\\', c]
  else match escapes.find? (·.1 = c) with
    | some (_, meaning) => [meaning]
    | none => [c]

/-- Reads a text after its opening quote: what it says, and what follows its closing one. -/
def readContent : List Char → Option (List Char × List Char)
  | [] => none
  | '\\' :: c :: s => (readContent s).map fun (t, rest) => (escaped c ++ t, rest)
  | '\'' :: '\'' :: s => (readContent s).map fun (t, rest) => ('\'' :: t, rest)
  | '\'' :: s => some ([], s)
  | c :: s => (readContent s).map fun (t, rest) => (c :: t, rest)

def skipBlanks (s : List Char) : List Char := s.dropWhile (·.isWhitespace)

/-- After its opening bracket a list is read as these texts, up to its closing one. -/
inductive ReadsTexts : List Char → List (List Char) → List Char → Prop
  | none (hend : skipBlanks s = ')' :: rest) : ReadsTexts s [] rest
  | last (hopen : skipBlanks s = '\'' :: content) (htext : readContent content = some (t, s'))
      (hend : skipBlanks s' = ')' :: rest) : ReadsTexts s [t] rest
  | more (hopen : skipBlanks s = '\'' :: content) (htext : readContent content = some (t, s'))
      (hcomma : skipBlanks s' = ',' :: next) (hmore : ReadsTexts next (u :: us) rest) :
      ReadsTexts s (t :: u :: us) rest

/-- Each backslash stands in front of `%` or `_`. -/
def keepsBackslashes : List Char → Bool
  | [] => true
  | ['\\'] => false
  | '\\' :: c :: s => (c == '%' || c == '_') && keepsBackslashes s
  | _ :: s => keepsBackslashes s

def doubled (s : List Char) : List Char := Text.Chars.replace '\'' ['\'', '\''] s

-- ---------------------------------------------------------------------------
-- Character by character
-- ---------------------------------------------------------------------------

theorem doubled_quote (s : List Char) : doubled ('\'' :: s) = '\'' :: '\'' :: doubled s := rfl

theorem doubled_cons {c : Char} (hc : c ≠ '\'') (s : List Char) :
    doubled (c :: s) = c :: doubled s := by
  simp [doubled, Text.Chars.replace, hc]

theorem readContent_escape (c : Char) (s : List Char) : readContent ('\\' :: c :: s) =
    (readContent s).map fun (t, rest) => (escaped c ++ t, rest) := rfl

theorem readContent_quote {s : List Char} (hs : s.head? ≠ some '\'') :
    readContent ('\'' :: s) = some ([], s) := by
  cases s with
  | nil => rfl
  | cons c s =>
    have hc : c ≠ '\'' := by simpa using hs
    simp [readContent, hc]

theorem readContent_cons {c : Char} (hb : c ≠ '\\') (hq : c ≠ '\'') (s : List Char) :
    readContent (c :: s) = (readContent s).map fun (t, rest) => (c :: t, rest) := by
  simp [readContent, hb, hq]

theorem keepsBackslashes_cons {c : Char} (hc : c ≠ '\\') (s : List Char) :
    keepsBackslashes (c :: s) = keepsBackslashes s := by
  simp [keepsBackslashes, hc]

theorem keepsBackslashes_escape {c : Char} {s : List Char} :
    keepsBackslashes ('\\' :: c :: s) ↔ (c = '%' ∨ c = '_') ∧ keepsBackslashes s := by
  simp [keepsBackslashes]

theorem escaped_eq_backslash {c : Char} {t u : List Char} (h : escaped c ++ t = '\\' :: u) :
    c = '\\' ∧ t = u ∨ (c = '%' ∨ c = '_') ∧ c :: t = u := by
  unfold escaped at h
  split at h
  · rename_i hc
    exact .inr ⟨hc, (List.cons.inj h).2⟩
  · split at h
    · rename_i letter meaning hfind
      have hmeaning : ∀ p ∈ escapes, p.2 ≠ '\\' := by decide
      exact absurd (List.cons.inj h).1 (hmeaning _ (List.mem_of_find?_eq_some hfind))
    · exact .inl (List.cons.inj h)

-- ---------------------------------------------------------------------------
-- One text
-- ---------------------------------------------------------------------------

theorem exists_doubled_cons (c : Char) (s : List Char) :
    ∃ tail, doubled (c :: s) = c :: tail ∧ (c ≠ '\'' → tail = doubled s) := by
  by_cases hc : c = '\''
  · subst hc
    exact ⟨'\'' :: doubled s, doubled_quote s, fun h => absurd rfl h⟩
  · exact ⟨doubled s, doubled_cons hc s, fun _ => rfl⟩

/-- A backslash is read as itself only in front of another one, or of `%` or `_`. -/
theorem readContent_backslash {c : Char} {s r t rest : List Char}
    (h : readContent ('\\' :: doubled (c :: s) ++ r) = some ('\\' :: t, rest)) :
    c = '\\' ∧ readContent (doubled s ++ r) = some (t, rest) ∨
      (c = '%' ∨ c = '_') ∧ ∃ u, t = c :: u ∧ readContent (doubled s ++ r) = some (u, rest) := by
  obtain ⟨tail, htail, hplain⟩ := exists_doubled_cons c s
  rw [htail, List.cons_append, List.cons_append, readContent_escape] at h
  obtain ⟨⟨u, rest'⟩, hread, heq⟩ := Option.map_eq_some_iff.mp h
  obtain ⟨htext, rfl⟩ := Prod.mk.inj heq
  rcases escaped_eq_backslash htext with ⟨rfl, rfl⟩ | ⟨hc, rfl⟩
  · rw [hplain (by decide)] at hread
    exact .inl ⟨rfl, hread⟩
  · have hne : c ≠ '\'' := by rcases hc with rfl | rfl <;> decide
    rw [hplain hne] at hread
    exact .inr ⟨hc, u, rfl, hread⟩

theorem map_cons_eq_some {read : Option (List Char × List Char)} :
    read.map (fun (t, rest) => (c :: t, rest)) = some (c :: s, rest) ↔ read = some (s, rest) := by
  cases read <;> simp [Prod.ext_iff]

section

variable {r : List Char} (hr : r.head? ≠ some '\'')
include hr

theorem readContent_end : readContent (doubled [] ++ '\'' :: r) = some ([], r) :=
  readContent_quote hr

omit hr in
/-- A backslash at the end takes the closing quote for itself. -/
theorem readContent_last_ne {t rest : List Char} :
    readContent (doubled ['\\'] ++ '\'' :: r) ≠ some ('\\' :: t, rest) := by
  intro h
  obtain ⟨⟨u, rest'⟩, -, heq⟩ := Option.map_eq_some_iff.mp h
  cases heq

/-- What is swallowed is never made up for: no text is read with more backslashes in
front than it was written with. -/
theorem readContent_ne_longer (s : List Char) (n : Nat) (rest : List Char) :
    readContent (doubled s ++ '\'' :: r) ≠ some (List.replicate (n + 1) '\\' ++ s, rest) := by
  -- each pair that is swallowed asks for one backslash more, so the induction is for all of them
  induction hs : s.length using Nat.strongRecOn generalizing s n with
  | ind length ih =>
  subst hs
  intro h
  rw [List.replicate_succ, List.cons_append] at h
  match s with
  | [] =>
    rw [readContent_end hr] at h
    cases h
  | c :: s =>
    by_cases hq : c = '\''
    · subst hq
      obtain ⟨⟨u, rest'⟩, -, heq⟩ := Option.map_eq_some_iff.mp h
      cases heq
    by_cases hb : c = '\\'
    · subst hb
      rw [doubled_cons (by decide)] at h
      match s with
      | [] => exact readContent_last_ne h
      | d :: s =>
        rcases readContent_backslash h with ⟨rfl, hread⟩ | ⟨hd, u, htext, -⟩
        · have hshorter : s.length < ('\\' :: '\\' :: s).length := by
            simp only [List.length_cons]
            omega
          refine ih s.length hshorter s (n + 1) rfl (hread.trans ?_)
          simp [List.replicate_succ']
        · have hhead : '\\' = d := by
            cases n with
            | zero => exact (List.cons.inj htext).1
            | succ n => exact (List.cons.inj htext).1
          subst hhead
          simp at hd
    · rw [doubled_cons hq, List.cons_append, readContent_cons hb hq] at h
      obtain ⟨⟨u, rest'⟩, -, heq⟩ := Option.map_eq_some_iff.mp h
      exact hb (List.cons.inj (Prod.mk.inj heq).1).1

/-- A text is read as it was exactly if each of its backslashes is kept. -/
theorem readContent_doubled_iff (s rest : List Char) :
    readContent (doubled s ++ '\'' :: r) = some (s, rest) ↔ rest = r ∧ keepsBackslashes s := by
  induction s using keepsBackslashes.induct with
  | case1 => simp [readContent_end hr, keepsBackslashes, eq_comm]
  | case2 =>
    refine ⟨fun h => absurd h readContent_last_ne, fun h => ?_⟩
    simp [keepsBackslashes] at h
  | case3 c s ih =>
    rw [doubled_cons (by decide), keepsBackslashes_escape]
    constructor
    · intro h
      rcases readContent_backslash h with ⟨rfl, hread⟩ | ⟨hc, u, htext, hread⟩
      -- An escaped quote takes both characters, and the text read would be too short.
      · exact absurd hread (readContent_ne_longer hr s 0 rest)
      · obtain rfl := (List.cons.inj htext).2
        obtain ⟨hrest, hkept⟩ := ih.mp hread
        exact ⟨hrest, hc, hkept⟩
    · rintro ⟨hrest, hc, hkept⟩
      have hread := ih.mpr ⟨hrest, hkept⟩
      have hne : c ≠ '\'' := by rcases hc with rfl | rfl <;> decide
      have hescaped : escaped c = ['\\', c] := by rcases hc with rfl | rfl <;> rfl
      rw [doubled_cons hne, List.cons_append, List.cons_append, readContent_escape, hread,
        Option.map_some, hescaped]
      rfl
  | case4 c s hlast hpair ih =>
    have hb : c ≠ '\\' := by
      rintro rfl
      cases s with
      | nil => exact hlast rfl rfl
      | cons d s => exact hpair d s rfl rfl
    rw [keepsBackslashes_cons hb, ← ih]
    by_cases hq : c = '\''
    · subst hq
      exact map_cons_eq_some
    · rw [doubled_cons hq, List.cons_append, readContent_cons hb hq]
      exact map_cons_eq_some

end

-- ---------------------------------------------------------------------------
-- Lists of texts
-- ---------------------------------------------------------------------------

theorem ReadsTexts.unique (h : ReadsTexts s ts rest) (h' : ReadsTexts s ts' rest') :
    ts = ts' ∧ rest = rest' := by
  -- What opens or ends the list decides the case, so both readings take the same one.
  induction h generalizing ts' with
  | none hend =>
    cases h' with
    | none hend' => cases hend.symm.trans hend'; exact ⟨rfl, rfl⟩
    | last hopen' => cases hend.symm.trans hopen'
    | more hopen' => cases hend.symm.trans hopen'
  | last hopen htext hend =>
    cases h' with
    | none hend' => cases hopen.symm.trans hend'
    | last hopen' htext' hend' =>
      cases hopen.symm.trans hopen'
      cases htext.symm.trans htext'
      cases hend.symm.trans hend'
      exact ⟨rfl, rfl⟩
    | more hopen' htext' hcomma' =>
      cases hopen.symm.trans hopen'
      cases htext.symm.trans htext'
      cases hend.symm.trans hcomma'
  | more hopen htext hcomma hmore ih =>
    cases h' with
    | none hend' => cases hopen.symm.trans hend'
    | last hopen' htext' hend' =>
      cases hopen.symm.trans hopen'
      cases htext.symm.trans htext'
      cases hcomma.symm.trans hend'
    | more hopen' htext' hcomma' hmore' =>
      cases hopen.symm.trans hopen'
      cases htext.symm.trans htext'
      cases hcomma.symm.trans hcomma'
      obtain ⟨hts, hrest⟩ := ih hmore'
      exact ⟨congrArg _ hts, hrest⟩

theorem ReadsTexts.skipped (h : ReadsTexts s ts rest) (hs : skipBlanks s' = skipBlanks s) :
    ReadsTexts s' ts rest := by
  cases h with
  | none hend => exact .none (hs.trans hend)
  | last hopen htext hend => exact .last (hs.trans hopen) htext hend
  | more hopen htext hcomma hmore => exact .more (hs.trans hopen) htext hcomma hmore

def quoted (s : List Char) : List Char := '\'' :: (doubled s ++ ['\''])

theorem readContent_quoted_iff {d : Char} (hd : d = ',' ∨ d = ')') (t s rest : List Char) :
    readContent (doubled t ++ '\'' :: d :: s) = some (t, rest) ↔
      rest = d :: s ∧ keepsBackslashes t := by
  refine readContent_doubled_iff ?_ t rest
  rcases hd with rfl | rfl <;> simp

theorem readsTexts_quoted_iff (ts : List (List Char)) (rest : List Char) :
    ReadsTexts (Text.Chars.joinWith [',', ' '] (ts.map quoted) ++ ')' :: rest) ts rest ↔
      ∀ t ∈ ts, keepsBackslashes t := by
  induction ts with
  | nil =>
    have hread : ReadsTexts (')' :: rest) [] rest := .none rfl
    simpa [Text.Chars.joinWith] using hread
  | cons t ts ih =>
    cases ts with
    | nil =>
      have hsplit : Text.Chars.joinWith [',', ' '] ([t].map quoted) ++ ')' :: rest =
          '\'' :: (doubled t ++ '\'' :: ')' :: rest) := by
        simp [Text.Chars.joinWith, quoted]
      rw [hsplit, List.forall_mem_singleton]
      constructor
      · intro h
        cases h with
        | last hopen htext hend =>
          cases hopen
          exact ((readContent_quoted_iff (.inr rfl) t rest _).mp htext).2
      · intro h
        exact .last rfl ((readContent_quoted_iff (.inr rfl) t rest _).mpr ⟨rfl, h⟩) rfl
    | cons u us =>
      have hsplit : Text.Chars.joinWith [',', ' '] ((t :: u :: us).map quoted) ++ ')' :: rest =
          '\'' :: (doubled t ++ '\'' :: ',' :: ' ' ::
            (Text.Chars.joinWith [',', ' '] ((u :: us).map quoted) ++ ')' :: rest)) := by
        simp [Text.Chars.joinWith, quoted]
      rw [hsplit, List.forall_mem_cons, ← ih]
      constructor
      · intro h
        cases h with
        | more hopen htext hcomma hmore =>
          cases hopen
          obtain ⟨rfl, ht⟩ := (readContent_quoted_iff (.inl rfl) t _ _).mp htext
          cases hcomma
          exact ⟨ht, hmore.skipped rfl⟩
      · rintro ⟨ht, hmore⟩
        exact .more rfl ((readContent_quoted_iff (.inl rfl) t _ _).mpr ⟨rfl, ht⟩) rfl
          (hmore.skipped rfl)

-- ---------------------------------------------------------------------------
-- Rows of a dump
-- ---------------------------------------------------------------------------

theorem toList_quoteText (text : String) : (quoteText text).toList = quoted text.toList := by
  simp [quoteText, quoted, doubled, Text.replace, Text.onChars]

theorem rowLiterals_texts {columns : List Column} {texts : List String}
    (h : ∀ p ∈ columns.zip texts, ¬p.1.isNumeric) :
    rowLiterals columns (texts.map some) = texts.map quoteText := by
  induction texts generalizing columns with
  | nil => cases columns <;> rfl
  | cons text texts ih =>
    cases columns with
    | nil =>
      have hrest : ∀ p ∈ ([] : List Column).zip texts, ¬p.1.isNumeric := by simp
      simp [rowLiterals, literal, ih hrest]
    | cons column columns =>
      rw [List.zip_cons_cons, List.forall_mem_cons] at h
      simp [rowLiterals, literal, h.1, ih h.2]

def valuesText (dump : TableDump) (row : List Cell) : String :=
  Text.join ", " (rowLiterals dump.columns row)

theorem insertLine_eq (dump : TableDump) (quote : Char) (row : List Cell) :
    ∃ head, insertLine dump quote row = head ++ " VALUES (" ++ valuesText dump row ++ ");\n" := by
  refine ⟨"INSERT INTO " ++ quoteIdent quote dump.table ++ " (" ++
    Text.join ", " (dump.columns.map fun c => quoteIdent quote c.name) ++ ")", ?_⟩
  rw [← String.toList_inj, insertLine, toList_insertStatement]
  simp [valuesText, Text.toList_join]

theorem exists_renderDump_eq {dump : TableDump} {row : List Cell} (hrow : row ∈ dump.rows)
    (quote : Char) (time : String) :
    ∃ before after, renderDump dump quote time = before ++ insertLine dump quote row ++ after := by
  obtain ⟨earlier, later, hrows⟩ := List.append_of_mem hrow
  refine ⟨beforeRows dump quote time ++ String.join (earlier.map (insertLine dump quote)),
    String.join (later.map (insertLine dump quote)), ?_⟩
  rw [renderDump_eq, rowLines, hrows]
  simp [String.append_assoc]

/-- The values listed for a row of texts are read as these texts exactly if each backslash in
them stands in front of `%` or `_`. Nothing but the closing bracket belongs to the list. -/
theorem texts_read_back_iff {dump : TableDump} {texts : List String}
    (hrow : texts.map some ∈ dump.rows) (htexts : ∀ p ∈ dump.columns.zip texts, ¬p.1.isNumeric)
    (time : String) :
    ∃ before after,
      renderDump dump Backend.mysql.identifierQuote time =
          before ++ " VALUES (" ++ valuesText dump (texts.map some) ++ ")" ++ after ∧
        (ReadsTexts (valuesText dump (texts.map some) ++ ")" ++ after).toList
            (texts.map String.toList) after.toList ↔
          ∀ text ∈ texts, keepsBackslashes text.toList) := by
  obtain ⟨before, after, hdump⟩ := exists_renderDump_eq hrow Backend.mysql.identifierQuote time
  obtain ⟨head, hline⟩ := insertLine_eq dump Backend.mysql.identifierQuote (texts.map some)
  refine ⟨before ++ head, ";\n" ++ after, ?_, ?_⟩
  · rw [hdump, hline]
    simp [← String.toList_inj]
  · have hvalues : (valuesText dump (texts.map some)).toList =
        Text.Chars.joinWith [',', ' '] ((texts.map String.toList).map quoted) := by
      rw [valuesText, Text.toList_join, rowLiterals_texts htexts, List.map_map, List.map_map]
      simp [Function.comp_def, toList_quoteText]
    have hlist := readsTexts_quoted_iff (texts.map String.toList) (";\n" ++ after).toList
    rw [List.forall_mem_map, ← hvalues] at hlist
    simpa using hlist

def sampleTexts : List String := ["it's", "50\\%", "", "a, b);"]

def textDump : TableDump where
  table := "t"
  createStatement := none
  columns := [⟨"name", "text"⟩, ⟨"pattern", "varchar"⟩]
  rows := [sampleTexts.map some]

theorem texts_read_back_iff_sample :
    ∃ before after,
      renderDump textDump Backend.mysql.identifierQuote "now" =
          before ++ " VALUES (" ++ "'it''s', '50\\%', '', 'a, b);'" ++ ")" ++ after ∧
        ReadsTexts ("'it''s', '50\\%', '', 'a, b);'" ++ ")" ++ after).toList
          (sampleTexts.map String.toList) after.toList := by
  have hrow : sampleTexts.map some ∈ textDump.rows := by decide
  have htexts : ∀ p ∈ textDump.columns.zip sampleTexts, ¬p.1.isNumeric := by decide
  have hvalues : valuesText textDump (sampleTexts.map some) =
      "'it''s', '50\\%', '', 'a, b);'" := by decide
  obtain ⟨before, after, hdump, hread⟩ := texts_read_back_iff hrow htexts "now"
  rw [hvalues] at hdump hread
  exact ⟨before, after, hdump, hread.mpr (by decide)⟩

def pathDump : TableDump where
  table := "t"
  createStatement := none
  columns := [⟨"p", "text"⟩]
  rows := [[some "C:\\new"], [some "C:\\"]]

/-- A backslash makes a line break of the letter after it, and one at the end takes the quote
that was to close the text. -/
theorem backslash_read_as_escape :
    renderDump pathDump Backend.mysql.identifierQuote "now" =
        beforeRows pathDump Backend.mysql.identifierQuote "now" ++
          "INSERT INTO `t` (`p`) VALUES ('C:\\new');\nINSERT INTO `t` (`p`) VALUES ('C:\\');\n" ∧
      (∀ read rest, ReadsTexts "'C:\\new');\n".toList read rest →
        read = ["C:\new".toList] ∧ read ≠ ["C:\\new".toList]) ∧
      ∀ read rest, ¬ReadsTexts "'C:\\');\n".toList read rest := by
  refine ⟨by rw [renderDump_eq]; rfl, ?_, ?_⟩
  · intro read rest hread
    have hnew : ReadsTexts "'C:\\new');\n".toList ["C:\new".toList] [';', '\n'] :=
      .last rfl rfl rfl
    obtain ⟨rfl, -⟩ := hread.unique hnew
    exact ⟨rfl, by decide⟩
  · intro read rest hread
    cases hread with
    | none hend => cases hend
    | last hopen htext => cases hopen; cases htext
    | more hopen htext => cases hopen; cases htext

end ChannelKeeper.Sql
