import ChannelKeeper.Proofs.Sql.Reading
import ChannelKeeper.Proofs.Text.Numbers
import ChannelKeeper.Sql.Dump

/-!
# What a dump says

A dump is read back by the lexical rules of SQL. Its rows give the cells of the
table whatever stands in names and texts, as long as the cells of numeric
columns hold numbers; the whole dump is what it is made of if no name ends a
comment line either. Without these two conditions a stored text can add
statements. Nothing is said of systems that read `\` as an escape.
-/

namespace ChannelKeeper.Sql

open Script (Piece IsNameQuote Literal Insert Statement Token)

-- ---------------------------------------------------------------------------
-- Cells
-- ---------------------------------------------------------------------------

/-- The literal that a cell of a column is to be read as. -/
def cellLiteral (numeric : Bool) : Cell → Literal
  | none => .null
  | some text => if numeric && !text.isEmpty then .number text else .text text

theorem cellLiteral_cell (numeric : Bool) (cell : Cell) :
    (cellLiteral numeric cell).cell = cell := by
  cases cell with
  | none => rfl
  | some text => cases hn : numeric && !text.isEmpty <;> simp [cellLiteral, hn, Literal.cell]

def holdsNumber (cell : Cell) : Bool := cell.all fun text => text.isEmpty || Script.isNumber text

theorem cellLiteral_isValid {numeric : Bool} {cell : Cell} (h : numeric → holdsNumber cell) :
    (cellLiteral numeric cell).IsValid := by
  cases cell with
  | none => trivial
  | some text =>
    rw [cellLiteral]
    split
    · rename_i hn
      rw [Bool.and_eq_true, Bool.not_eq_true'] at hn
      have hnumber := h hn.1
      rwa [holdsNumber, Option.all_some, hn.2, Bool.false_or] at hnumber
    · trivial

def rowValues : List Column → List Cell → List Literal
  | _, [] => []
  | [], cell :: cells => cellLiteral false cell :: rowValues [] cells
  | column :: columns, cell :: cells =>
    cellLiteral column.isNumeric cell :: rowValues columns cells

theorem rowValues_cells (columns : List Column) (row : List Cell) :
    (rowValues columns row).map Literal.cell = row := by
  induction columns, row using rowValues.induct with
  | case1 columns => simp [rowValues]
  | case2 cell cells ih => rw [rowValues, List.map_cons, ih, cellLiteral_cell]
  | case3 column columns cell cells ih => rw [rowValues, List.map_cons, ih, cellLiteral_cell]

/-- The cells of numeric columns hold numbers, if anything. -/
def NumericCells (columns : List Column) (row : List Cell) : Prop :=
  ∀ p ∈ columns.zip row, p.1.isNumeric → holdsNumber p.2

instance (columns : List Column) (row : List Cell) : Decidable (NumericCells columns row) :=
  inferInstanceAs (Decidable (∀ p ∈ columns.zip row, p.1.isNumeric → holdsNumber p.2))

theorem rowValues_isValid {columns : List Column} {row : List Cell} (h : NumericCells columns row) :
    ∀ v ∈ rowValues columns row, v.IsValid := by
  induction columns, row using rowValues.induct with
  | case1 columns => simp [rowValues]
  | case2 cell cells ih =>
    rw [rowValues, List.forall_mem_cons]
    exact ⟨cellLiteral_isValid (by simp), ih (by simp [NumericCells])⟩
  | case3 column columns cell cells ih =>
    rw [NumericCells, List.zip_cons_cons, List.forall_mem_cons] at h
    rw [rowValues, List.forall_mem_cons]
    exact ⟨cellLiteral_isValid h.1, ih h.2⟩

-- ---------------------------------------------------------------------------
-- The texts of names, literals and rows
-- ---------------------------------------------------------------------------

section

variable {quote : Char} (hq : IsNameQuote quote)
include hq

theorem piece_quoteIdent (name : String) :
    Piece quote (quoteIdent quote name).toList [.name name] := by
  have hquote : quote = '\'' ∨ quote = quote := .inr rfl
  have hname : Script.quotedToken quote (String.ofList name.toList) = .name name := by
    rcases hq with rfl | rfl <;> simp [Script.quotedToken]
  have hpiece := Piece.quoted hq hquote name.toList
  rw [hname] at hpiece
  simpa [quoteIdent, Text.replace, Text.onChars] using hpiece

theorem piece_quoteText (text : String) : Piece quote (quoteText text).toList [.text text] := by
  have hquote : '\'' = '\'' ∨ '\'' = quote := .inl rfl
  have hpiece := Piece.quoted hq hquote text.toList
  simpa [quoteText, Text.replace, Text.onChars, Script.quotedToken] using hpiece

theorem piece_number {text : String} (h : Script.isNumber text) :
    Piece quote text.toList (Literal.number text).tokens := by
  rw [Script.isNumber] at h
  cases hd : text.toList with
  | nil => rw [hd, Script.withoutSign, Script.isUnsigned_nil] at h; contradiction
  | cons c rest =>
    rw [hd, Script.withoutSign] at h
    simp only [Literal.tokens, hd]
    split at h
    · rename_i hc
      rw [if_pos hc]
      exact Piece.signed hq hc h
    · rename_i hc
      rw [if_neg hc]
      have hpiece : Piece quote (c :: rest) _ := Piece.number h
      rwa [← hd, String.ofList_toList, hd] at hpiece

theorem piece_literal {numeric : Bool} {cell : Cell} (h : numeric → holdsNumber cell) :
    Piece quote (literal numeric cell).toList (cellLiteral numeric cell).tokens := by
  have hvalid := cellLiteral_isValid h
  cases cell with
  | none => exact Piece.keyword (w := "NULL") (by decide) (by decide)
  | some text =>
    rw [cellLiteral] at hvalid ⊢
    rw [literal]
    split
    · rename_i hn
      rw [if_pos hn] at hvalid
      exact piece_number hq hvalid
    · exact piece_quoteText hq text

theorem pieces_rowLiterals {columns : List Column} {row : List Cell}
    (h : NumericCells columns row) :
    List.Forall₂ (Piece quote) ((rowLiterals columns row).map String.toList)
      ((rowValues columns row).map Literal.tokens) := by
  induction columns, row using rowValues.induct with
  | case1 columns => simp [rowValues, rowLiterals]
  | case2 cell cells ih =>
    rw [rowValues, rowLiterals]
    exact .cons (piece_literal hq (by simp)) (ih (by simp [NumericCells]))
  | case3 column columns cell cells ih =>
    rw [NumericCells, List.zip_cons_cons, List.forall_mem_cons] at h
    rw [rowValues, rowLiterals]
    exact .cons (piece_literal hq h.1) (ih h.2)

theorem pieces_columns (columns : List Column) :
    List.Forall₂ (Piece quote) ((columns.map fun c => quoteIdent quote c.name).map String.toList)
      ((columns.map (·.name)).map fun name => [.name name]) := by
  induction columns with
  | nil => exact .nil
  | cons column rest ih => exact .cons (piece_quoteIdent hq column.name) ih

-- ---------------------------------------------------------------------------
-- Statements
-- ---------------------------------------------------------------------------

/-- The insertion that a row of the dump is to be read as. -/
def rowInsert (dump : TableDump) (row : List Cell) : Insert where
  table := dump.table
  columns := dump.columns.map (·.name)
  values := rowValues dump.columns row

def insertLine (dump : TableDump) (quote : Char) (row : List Cell) : String :=
  insertStatement (quoteIdent quote dump.table)
    (Text.join ", " (dump.columns.map fun c => quoteIdent quote c.name))
    (rowLiterals dump.columns row)

omit hq in
theorem toList_insertStatement (table columns : String) (literals : List String) :
    (insertStatement table columns literals).toList =
      "INSERT".toList ++ ' ' :: ("INTO".toList ++ ' ' :: (table.toList ++ ' ' ::
        '(' :: (columns.toList ++ ')' :: ' ' :: ("VALUES".toList ++ ' ' ::
          '(' :: (Text.Chars.joinWith [',', ' '] (literals.map String.toList) ++ [')']))))) ++
        [';', '\n'] := by
  unfold insertStatement
  simp [Text.toList_join]

theorem run_insertLine {dump : TableDump} {row : List Cell} (h : NumericCells dump.columns row)
    (d : List (List Token)) :
    Script.run quote { done := d } (insertLine dump quote row).toList =
      { done := d ++ [(rowInsert dump row).tokens] } := by
  have htable := piece_quoteIdent hq dump.table
  have hcolumns := Piece.join hq (pieces_columns hq dump.columns)
  have hvalues := Piece.join hq (pieces_rowLiterals hq h)
  have hinsert : Piece quote "INSERT".toList [.word "INSERT"] :=
    Piece.keyword (by decide) (by decide)
  have hinto : Piece quote "INTO".toList [.word "INTO"] := Piece.keyword (by decide) (by decide)
  have hword : Piece quote "VALUES".toList [.word "VALUES"] :=
    Piece.keyword (by decide) (by decide)
  -- the line from its end to its beginning
  have hlists := Piece.bracketed hq hcolumns (Piece.blank hq .nil
    (Piece.blank hq hword (Piece.bracketed hq hvalues .nil)))
  have hline := Piece.blank hq hinsert (Piece.blank hq hinto (Piece.blank hq htable hlists))
  have hsep : ", ".toList = [',', ' '] := by simp
  rw [insertLine, toList_insertStatement, Text.toList_join, hsep]
  exact hline.run_line hq d

theorem run_join_insertLine {dump : TableDump} {rows : List (List Cell)}
    (h : ∀ row ∈ rows, NumericCells dump.columns row) (d : List (List Token)) :
    Script.run quote { done := d } (String.join (rows.map (insertLine dump quote))).toList =
      { done := d ++ rows.map fun row => (rowInsert dump row).tokens } := by
  induction rows generalizing d with
  | nil => simp
  | cons row rest ih =>
    rw [List.forall_mem_cons] at h
    rw [List.map_cons, String.join_cons, String.toList_append, Script.run_append,
      run_insertLine hq h.1, ih h.2]
    simp

def dropLine (quote : Char) (table : String) : String :=
  "DROP TABLE IF EXISTS " ++ quoteIdent quote table ++ ";\n"

def dropTokens (table : String) : List Token :=
  [.word "DROP", .word "TABLE", .word "IF", .word "EXISTS", .name table]

theorem run_dropLine (table : String) (d : List (List Token)) :
    Script.run quote { done := d } (dropLine quote table).toList =
      { done := d ++ [dropTokens table] } := by
  have hname := piece_quoteIdent hq table
  have hdrop : Piece quote "DROP".toList [.word "DROP"] := Piece.keyword (by decide) (by decide)
  have htable : Piece quote "TABLE".toList [.word "TABLE"] := Piece.keyword (by decide) (by decide)
  have hif : Piece quote "IF".toList [.word "IF"] := Piece.keyword (by decide) (by decide)
  have hexists : Piece quote "EXISTS".toList [.word "EXISTS"] :=
    Piece.keyword (by decide) (by decide)
  have hline := Piece.blank hq hdrop (Piece.blank hq htable (Piece.blank hq hif
    (Piece.blank hq hexists hname)))
  have htext : (dropLine quote table).toList =
      "DROP".toList ++ ' ' :: ("TABLE".toList ++ ' ' :: ("IF".toList ++ ' ' ::
        ("EXISTS".toList ++ ' ' :: (quoteIdent quote table).toList))) ++ [';', '\n'] := by
    unfold dropLine
    simp
  rw [htext]
  exact hline.run_line hq d

-- ---------------------------------------------------------------------------
-- Comments
-- ---------------------------------------------------------------------------

omit hq

def OneLine (text : String) : Prop := ∀ c ∈ text.toList, c ≠ '\n' ∧ c ≠ '\r'

instance (text : String) : Decidable (OneLine text) :=
  inferInstanceAs (Decidable (∀ c ∈ text.toList, c ≠ '\n' ∧ c ≠ '\r'))

theorem OneLine.append (hs : OneLine s) (ht : OneLine t) : OneLine (s ++ t) := by
  intro c hc
  rw [String.toList_append, List.mem_append] at hc
  exact hc.elim (hs c) (ht c)

theorem oneLine_toString (n : Nat) : OneLine (toString n) := by
  intro c hc
  have hdigit := Text.isDigit_of_mem_toString hc
  constructor <;> rintro rfl <;> contradiction

def commentLine (text : String) : String := "--" ++ text ++ "\n"

include hq

theorem run_commentLine {text : String} (h : OneLine text) (d : List (List Token)) :
    Script.run quote { done := d } (commentLine text).toList = { done := d } := by
  have hdashes : Script.run quote { done := d } "--".toList =
      { done := d, mode := .lineComment } := by
    rcases hq with rfl | rfl <;> rfl
  have htext : Script.run quote { done := d, mode := .lineComment } text.toList =
      { done := d, mode := .lineComment } := Script.run_lineComment { done := d } h
  have hend : Script.run quote { done := d, mode := .lineComment } "\n".toList =
      { done := d } := rfl
  rw [commentLine, String.toList_append, String.toList_append, Script.run_append,
    Script.run_append, hdashes, htext, hend]

theorem run_emptyLine (d : List (List Token)) :
    Script.run quote { done := d } "\n".toList = { done := d } := by
  rcases hq with rfl | rfl <;> rfl

def heading (dump : TableDump) (time : String) : String :=
  commentLine (" Backup of table " ++ dump.table) ++ commentLine (" Generated: " ++ time) ++
    commentLine (" Rows: " ++ toString dump.rows.length) ++ "\n"

theorem run_heading {dump : TableDump} {time : String} (htable : OneLine dump.table)
    (htime : OneLine time) (d : List (List Token)) :
    Script.run quote { done := d } (heading dump time).toList = { done := d } := by
  have h₁ : OneLine " Backup of table " := by decide
  have h₂ : OneLine " Generated: " := by decide
  have h₃ : OneLine " Rows: " := by decide
  unfold heading
  simp only [String.toList_append, Script.run_append, run_commentLine hq (h₁.append htable),
    run_commentLine hq (h₂.append htime), run_commentLine hq (h₃.append (oneLine_toString _)),
    run_emptyLine hq]

theorem parse_createPart_none : Script.parse quote (createPart none) = some [] := by
  rcases hq with rfl | rfl <;> rfl

theorem run_createPart {statement : Option String}
    (h : Script.parse quote (createPart statement) = some created) (d : List (List Token)) :
    ∃ more, Script.run quote { done := d } (createPart statement ++ "\n").toList =
      { done := d ++ more } ∧ more.map Statement.ofTokens = created := by
  rw [Script.parse, Option.map_eq_some_iff] at h
  obtain ⟨more, hmore, rfl⟩ := h
  refine ⟨more, ?_, rfl⟩
  rw [Script.Reading.statements?, Option.ite_none_right_eq_some, Option.some.injEq] at hmore
  obtain ⟨⟨hstatement, hmode⟩, hdone⟩ := hmore
  rw [String.toList_append, Script.run_append, ← Script.after_start, Script.run_after]
  generalize Script.run quote {} (createPart statement).toList = r at *
  obtain ⟨done, tokens, mode⟩ := r
  subst hdone hstatement
  rcases hmode with rfl | rfl
  · exact run_emptyLine hq (d ++ done)
  · rfl

end

-- ---------------------------------------------------------------------------
-- The dump
-- ---------------------------------------------------------------------------

theorem parse_of_run {quote : Char} {text : String}
    (h : Script.run quote {} text.toList = { done := d }) :
    Script.parse quote text = some (d.map Statement.ofTokens) := by
  rw [Script.parse, h]
  rfl

def rowLines (dump : TableDump) (quote : Char) : String :=
  String.join (dump.rows.map (insertLine dump quote))

def beforeRows (dump : TableDump) (quote : Char) (time : String) : String :=
  heading dump time ++ dropLine quote dump.table ++ (createPart dump.createStatement ++ "\n")

theorem renderDump_eq (dump : TableDump) (quote : Char) (time : String) :
    renderDump dump quote time =
      beforeRows dump quote time ++ rowLines dump quote := by
  unfold renderDump beforeRows heading dropLine rowLines
  rw [← String.toList_inj]
  simp [commentLine]
  rfl

theorem run_rowLines {dump : TableDump} {quote : Char} (hq : IsNameQuote quote)
    (hcells : ∀ row ∈ dump.rows, NumericCells dump.columns row) :
    Script.run quote {} (rowLines dump quote).toList =
      { done := dump.rows.map fun row => (rowInsert dump row).tokens } := by
  rw [rowLines, run_join_insertLine hq hcells, List.nil_append]

theorem map_ofTokens_rows {dump : TableDump}
    (hcells : ∀ row ∈ dump.rows, NumericCells dump.columns row) :
    (dump.rows.map fun row => (rowInsert dump row).tokens).map Statement.ofTokens =
      dump.rows.map fun row => .insert (rowInsert dump row) := by
  rw [List.map_map]
  refine List.map_congr_left fun row hrow => ?_
  exact Script.ofTokens_insert (rowValues_isValid (hcells row hrow))

/-- The rows of a dump, read by themselves, insert exactly the rows of the table: each names the
table and all its columns and lists the cells, `NULL` for a missing one and the same text or number
for every other. Nothing is asked of the names or of the cells of other columns. -/
theorem rows_read_back {dump : TableDump} {quote : Char} (hq : IsNameQuote quote)
    (hcells : ∀ row ∈ dump.rows, NumericCells dump.columns row) (time : String) :
    renderDump dump quote time = beforeRows dump quote time ++ rowLines dump quote ∧
      Script.parse quote (rowLines dump quote) =
        some (dump.rows.map fun row => .insert (rowInsert dump row)) ∧
      ∀ row ∈ dump.rows, (rowInsert dump row).values.map Literal.cell = row := by
  refine ⟨renderDump_eq dump quote time, ?_, fun row _ => rowValues_cells dump.columns row⟩
  rw [parse_of_run (run_rowLines hq hcells), map_ofTokens_rows hcells]

/-- A table whose names hold quotes and whose cells hold what SQL gives a meaning to. -/
def sampleDump : TableDump where
  table := "odd\"name"
  createStatement := some "CREATE TABLE t (id INTEGER)"
  columns := [⟨"id", "INTEGER"⟩, ⟨"a, \"b\"", "text"⟩]
  rows := [[some "-1.5e3", some "it's; -- (done),\n"], [none, some "7"]]

theorem rows_read_back_sample :
    renderDump sampleDump '"' "now" =
        beforeRows sampleDump '"' "now" ++ rowLines sampleDump '"' ∧
      Script.parse '"' (rowLines sampleDump '"') = some
        [.insert { table := "odd\"name", columns := ["id", "a, \"b\""],
                   values := [.number "-1.5e3", .text "it's; -- (done),\n"] },
         .insert { table := "odd\"name", columns := ["id", "a, \"b\""],
                   values := [.null, .text "7"] }] := by
  have hcells : ∀ row ∈ sampleDump.rows, NumericCells sampleDump.columns row := by decide
  obtain ⟨hparts, hread, -⟩ := rows_read_back (.inl rfl) hcells "now"
  exact ⟨hparts, hread.trans rfl⟩

/-- A dump is read part by part: none leaves anything begun for the next. -/
theorem parse_renderDump {dump : TableDump} {quote : Char} {time : String}
    {created : List Statement} (hq : IsNameQuote quote)
    (hheading : Script.run quote {} (heading dump time).toList = { done := before })
    (hcreate : Script.parse quote (createPart dump.createStatement) = some created)
    (hrows : Script.run quote {} (rowLines dump quote).toList = { done := rows }) :
    Script.parse quote (renderDump dump quote time) = some (before.map Statement.ofTokens ++
      (.drop dump.table :: created ++ rows.map Statement.ofTokens)) := by
  obtain ⟨more, hmore, rfl⟩ := run_createPart hq hcreate (before ++ [dropTokens dump.table])
  have hrun : Script.run quote {} (renderDump dump quote time).toList =
      { done := before ++ [dropTokens dump.table] ++ more ++ rows } := by
    rw [renderDump_eq, beforeRows, String.toList_append, String.toList_append,
      String.toList_append, Script.run_append, Script.run_append, Script.run_append, hheading,
      run_dropLine hq, hmore, ← Script.after_start, Script.run_after, hrows]
    rfl
  rw [parse_of_run hrun]
  simp [dropTokens, Statement.ofTokens]

/-- A dump consists of comments, the deletion of its table, the part that creates the table, and
the insertion of each row with a literal for each cell. The header is not checked for line breaks
nor a numeric column for its texts, so both are asked for here. -/
theorem dump_statements {dump : TableDump} {quote : Char} {time : String} {created : List Statement}
    (hq : IsNameQuote quote) (htable : OneLine dump.table) (htime : OneLine time)
    (hcells : ∀ row ∈ dump.rows, NumericCells dump.columns row)
    (hcreate : Script.parse quote (createPart dump.createStatement) = some created) :
    Script.parse quote (renderDump dump quote time) =
        some (.drop dump.table :: created ++
          dump.rows.map fun row => .insert (rowInsert dump row)) ∧
      ∀ row ∈ dump.rows, (rowInsert dump row).values.map Literal.cell = row := by
  refine ⟨?_, fun row _ => rowValues_cells dump.columns row⟩
  have hheading := run_heading hq htable htime []
  have hrows := run_rowLines hq hcells
  rw [parse_renderDump hq hheading hcreate hrows, map_ofTokens_rows hcells]
  rfl

theorem dump_statements_sample : Script.parse '"' (renderDump sampleDump '"' "now") = some
    [.drop "odd\"name",
     .other [.word "CREATE", .word "TABLE", .word "T", .symbol '(', .word "ID", .word "INTEGER",
       .symbol ')'],
     .insert { table := "odd\"name", columns := ["id", "a, \"b\""],
               values := [.number "-1.5e3", .text "it's; -- (done),\n"] },
     .insert { table := "odd\"name", columns := ["id", "a, \"b\""],
               values := [.null, .text "7"] }] := by
  have hcells : ∀ row ∈ sampleDump.rows, NumericCells sampleDump.columns row := by decide
  have hnow : OneLine "now" := by decide
  obtain ⟨hread, -⟩ := dump_statements (.inl rfl) (by decide) hnow hcells rfl
  exact hread.trans rfl

/-- A text in a column that is numeric by its declared type. -/
def mixedDump : TableDump where
  table := "t"
  createStatement := none
  columns := [⟨"id", "INTEGER"⟩]
  rows := [[some "1); DROP TABLE users; --"]]

def brokenNameDump : TableDump where
  table := "t\nDELETE FROM users; --"
  createStatement := none
  columns := []
  rows := []

/-- Either brings a statement of its own. -/
theorem stored_text_adds_statement :
    Script.parse '"' (renderDump mixedDump '"' "now") = some
        [.drop "t", .insert { table := "t", columns := ["id"], values := [.number "1"] },
         .other [.word "DROP", .word "TABLE", .word "USERS"]] ∧
      Script.parse '"' (renderDump brokenNameDump '"' "now") = some
        [.other [.word "DELETE", .word "FROM", .word "USERS"],
         .drop "t\nDELETE FROM users; --"] := by
  have hq : IsNameQuote '"' := .inl rfl
  have hnow : OneLine "now" := by decide
  constructor
  · have hrows : Script.run '"' {} (rowLines mixedDump '"').toList =
        { done := [Insert.tokens { table := "t", columns := ["id"], values := [.number "1"] },
            [.word "DROP", .word "TABLE", .word "USERS"]] } := by decide +kernel
    have hheading : Script.run '"' {} (heading mixedDump "now").toList = {} :=
      run_heading hq (by decide) hnow []
    exact (parse_renderDump hq hheading (parse_createPart_none hq) hrows).trans rfl
  · have hheading : Script.run '"' {} (heading brokenNameDump "now").toList =
        { done := [[.word "DELETE", .word "FROM", .word "USERS"]] } := by decide +kernel
    exact (parse_renderDump hq hheading (parse_createPart_none hq) rfl).trans rfl

end ChannelKeeper.Sql
