import ChannelKeeper.Channel.Export
import ChannelKeeper.Key.Basic
import ChannelKeeper.Proofs.Text.Split

/-!
# Sheets read back

The common format of comma-separated records has a reader of its own here, with the line
feed as the end of a record: whatever its fields hold, a sheet is read back as the records
it was written from. Nothing is said of readers that trim fields or take a carriage return
for the end of a record.
-/

namespace ChannelKeeper

namespace Csv

open Text.Chars (joinWith replace)

-- ---------------------------------------------------------------------------
-- Reading
-- ---------------------------------------------------------------------------

/-- Where a reader stands: before a field, inside one with what it has of it, or after a quote
that ends a quoted field or is the first of two. -/
inductive Place where
  | start
  | plain (field : List Char)
  | quoted (field : List Char)
  | closed (field : List Char)

/-- The field that a comma, a line feed or the end of the text would end. -/
def Place.field? : Place → Option (List Char)
  | .start => some []
  | .plain field => some field
  | .quoted _ => none
  | .closed field => some field

/-- The place after a character that ends no field. Line endings stand in quoted fields only, and a
quote opens a field, closes it, or is one of two. -/
def Place.next? : Place → Char → Option Place
  | .start, c =>
    if c = '"' then some (.quoted []) else if c = '\r' then none else some (.plain [c])
  | .plain field, c => if c = '"' ∨ c = '\r' then none else some (.plain (field ++ [c]))
  | .quoted field, c => some (if c = '"' then .closed field else .quoted (field ++ [c]))
  | .closed field, c => if c = '"' then some (.quoted (field ++ [c])) else none

/-- The records of a text, the first of which begins with the given fields. The last record may
lack its line feed. -/
def readFrom : List (List Char) → Place → List Char → Option (List (List (List Char)))
  | [], .start, [] => some []
  | done, place, [] => place.field?.map fun field => [done ++ [field]]
  | done, place, c :: rest =>
    match if c = ',' ∨ c = '\n' then place.field? else none with
    | some field =>
      if c = ',' then readFrom (done ++ [field]) .start rest
      else (readFrom [] .start rest).map ((done ++ [field]) :: ·)
    | none => (place.next? c).bind fun place => readFrom done place rest

def read (text : String) : Option (List (List String)) :=
  (readFrom [] .start text.toList).map (·.map (·.map String.ofList))

-- ---------------------------------------------------------------------------
-- Fields
-- ---------------------------------------------------------------------------

section

variable {done : List (List Char)} {place : Place} {field : List Char}

theorem readFrom_comma (h : place.field? = some field) (t : List Char) :
    readFrom done place (',' :: t) = readFrom (done ++ [field]) .start t := by
  simp [readFrom, h]

theorem readFrom_lineFeed (h : place.field? = some field) (t : List Char) :
    readFrom done place ('\n' :: t) = (readFrom [] .start t).map ((done ++ [field]) :: ·) := by
  simp [readFrom, h]

theorem readFrom_next {c : Char} (hc : (c = ',' ∨ c = '\n') → place.field? = none)
    (t : List Char) :
    readFrom done place (c :: t) = (place.next? c).bind fun place => readFrom done place t := by
  have hnone : (if c = ',' ∨ c = '\n' then place.field? else none) = none := by
    split
    · exact hc ‹_›
    · rfl
  simp only [readFrom, hnone]

theorem readFrom_plain {s : List Char} (h : needsQuotes s = false) (t : List Char) :
    readFrom done (.plain field) (s ++ t) = readFrom done (.plain (field ++ s)) t := by
  induction s generalizing field with
  | nil => simp
  | cons c rest ih =>
    obtain ⟨⟨⟨⟨hcomma, hquote⟩, hfeed⟩, hreturn⟩, hrest⟩ :
        (((c ≠ ',' ∧ c ≠ '"') ∧ c ≠ '\n') ∧ c ≠ '\r') ∧ needsQuotes rest = false := by
      simpa [needsQuotes] using h
    rw [List.cons_append, readFrom_next (by simp [hcomma, hfeed])]
    simp [Place.next?, hquote, hreturn, ih hrest]

theorem readFrom_quoted (s t : List Char) :
    readFrom done (.quoted field) (replace '"' ['"', '"'] s ++ t) =
      readFrom done (.quoted (field ++ s)) t := by
  induction s generalizing field with
  | nil => simp [replace]
  | cons c rest ih =>
    by_cases hc : c = '"'
    · subst hc
      have hpair : replace '"' ['"', '"'] ('"' :: rest) ++ t =
          '"' :: '"' :: (replace '"' ['"', '"'] rest ++ t) := rfl
      rw [hpair, readFrom_next (by simp), Place.next?, if_pos rfl, Option.bind_some,
        readFrom_next (by simp), Place.next?, if_pos rfl, Option.bind_some, ih]
      simp
    · have hkept : replace '"' ['"', '"'] (c :: rest) ++ t =
          c :: (replace '"' ['"', '"'] rest ++ t) := by simp [replace, hc]
      rw [hkept, readFrom_next (fun _ => rfl), Place.next?, if_neg hc, Option.bind_some, ih]
      simp

/-- A written field leads to a place that has it, whatever follows. -/
theorem exists_readFrom_writeField (done : List (List Char)) (field : List Char) :
    ∃ place, place.field? = some field ∧
      ∀ t, readFrom done .start (writeField field ++ t) = readFrom done place t := by
  unfold writeField
  split
  · refine ⟨.closed field, rfl, fun t => ?_⟩
    rw [List.cons_append, List.append_assoc, readFrom_next (by simp), Place.next?, if_pos rfl,
      Option.bind_some, readFrom_quoted, List.singleton_append, readFrom_next (by simp)]
    rfl
  · rename_i hneeds
    cases field with
    | nil => exact ⟨.start, rfl, fun t => rfl⟩
    | cons c rest =>
      obtain ⟨⟨⟨⟨hcomma, hquote⟩, hfeed⟩, hreturn⟩, hrest⟩ :
          (((c ≠ ',' ∧ c ≠ '"') ∧ c ≠ '\n') ∧ c ≠ '\r') ∧ needsQuotes rest = false := by
        simpa [needsQuotes] using hneeds
      refine ⟨.plain (c :: rest), rfl, fun t => ?_⟩
      rw [List.cons_append, readFrom_next (by simp [hcomma, hfeed])]
      simp [Place.next?, hquote, hreturn, readFrom_plain hrest]

end

-- ---------------------------------------------------------------------------
-- Records
-- ---------------------------------------------------------------------------

theorem readFrom_joined {fields : List (List Char)} (h : fields ≠ [])
    (done : List (List Char)) (t : List Char) :
    readFrom done .start (joinWith [','] (fields.map writeField) ++ '\n' :: t) =
      (readFrom [] .start t).map ((done ++ fields) :: ·) := by
  induction fields generalizing done with
  | nil => contradiction
  | cons field rest ih =>
    obtain ⟨place, hplace, hread⟩ := exists_readFrom_writeField done field
    cases rest with
    | nil => simp [joinWith, List.intercalate, hread, readFrom_lineFeed hplace]
    | cons next more =>
      have hjoin : joinWith [','] ((field :: next :: more).map writeField) ++ '\n' :: t =
          writeField field ++
            ',' :: (joinWith [','] ((next :: more).map writeField) ++ '\n' :: t) := by
        simp [joinWith, List.intercalate]
      rw [hjoin, hread, readFrom_comma hplace, ih (by simp)]
      simp

theorem readFrom_writeRecord {fields : List (List Char)} (h : fields ≠ []) (t : List Char) :
    readFrom [] .start (writeRecord fields ++ t) = (readFrom [] .start t).map (fields :: ·) := by
  unfold writeRecord
  split
  · simp [readFrom, Place.next?, Place.field?]
  · rw [List.append_assoc, List.singleton_append, readFrom_joined h, List.nil_append]

theorem readFrom_records {records : List (List (List Char))} (h : ∀ r ∈ records, r ≠ []) :
    readFrom [] .start (records.flatMap writeRecord) = some records := by
  induction records with
  | nil => rfl
  | cons record rest ih =>
    obtain ⟨hrecord, hrest⟩ := List.forall_mem_cons.mp h
    rw [List.flatMap_cons, readFrom_writeRecord hrecord, ih hrest, Option.map_some]

theorem read_render {records : List (List String)} (h : ∀ r ∈ records, r ≠ []) :
    read (render records) = some records := by
  have htext : (render records).toList =
      (records.map (·.map String.toList)).flatMap writeRecord := by
    rw [render, String.toList_ofList, List.flatMap_map]
  have hne : ∀ r ∈ records.map (·.map String.toList), r ≠ [] := by
    simpa using h
  rw [read, htext, readFrom_records hne, Option.map_some, List.map_map]
  simp [Function.comp_def]

example : read "a,\" b\nc\"\"\"\n\"\",d\n" = some [["a", " b\nc\""], ["", "d"]] ∧
    read "a\"b\n" = none := by decide

end Csv

-- ---------------------------------------------------------------------------
-- Exports
-- ---------------------------------------------------------------------------

theorem statusName_eq (code : Int) : statusName code =
    if code = 0 then "Unknown" else if code = 1 then "Enabled"
    else if code = 2 then "Manually Disabled" else if code = 3 then "Auto Disabled"
    else "Unknown (" ++ toString code ++ ")" := by
  unfold statusName ChannelStatus.ofCode
  split_ifs <;> rfl

theorem KeyList.statusWord_eq (k : ExtractedKey) :
    statusWord k = if k.channelStatus = 1 then "enabled" else "disabled" := by
  simp only [statusWord, ExtractedKey.isEnabled, beq_iff_eq]

theorem replace_comma (models : String) : Text.replace ',' ";" models =
    String.ofList (models.toList.map fun c => if c = ',' then ';' else c) := by
  have hsemicolon : ";".toList = [';'] := by decide
  rw [Text.replace, Text.onChars, Text.Chars.replace, hsemicolon, List.map_eq_flatMap]
  congr 2
  funext c
  split <;> rfl

/-- The sheet of channels and the sheet of keys are read back record by record: after the header
each channel has its twenty fields, with times as the clocks of the zone show them, and each key
has five. -/
theorem sheets_read_back (channels : List Channel) (keys : List ExtractedKey)
    (time source : String) (zone : Zone) :
    (let shown (seconds : Int) : String :=
      if seconds = 0 then ""
      else if -8334601228800 ≤ seconds ∧ seconds ≤ 8210266876799 then
        Calendar.dateTimeText (seconds + zone.offset seconds)
      else toString seconds
    let statusText (code : Int) : String :=
      if code = 0 then "Unknown" else if code = 1 then "Enabled"
      else if code = 2 then "Manually Disabled" else if code = 3 then "Auto Disabled"
      else "Unknown (" ++ toString code ++ ")"
    Csv.read (Channel.renderExport .csv channels time source zone) =
      some (["ID", "Name", "Type", "TypeName", "Status", "StatusName", "Group", "Weight",
          "Priority", "Balance", "UsedQuota", "Models", "BaseURL", "CreatedTime", "TestTime",
          "ResponseTime", "Tag", "Key", "Other", "Setting"] ::
        channels.map fun c =>
          [toString c.id, c.name, toString c.kind, ChannelType.name c.kind, toString c.status,
            statusText c.status, c.group, (c.weight.map toString).getD "",
            (c.priority.map toString).getD "", Decimal.fixed 2 c.balance, toString c.usedQuota,
            c.models, c.baseUrl.getD "", shown c.createdTime, shown c.testTime,
            toString c.responseTime, c.tag.getD "", c.key, c.other, c.setting.getD ""])) ∧
    Csv.read (KeyList.render .csv keys) =
      some (["channel_id", "channel_name", "status", "api_key", "models"] :: keys.map fun k =>
        [toString k.channelId, k.channelName,
          if k.channelStatus = 1 then "enabled" else "disabled", k.apiKey,
          String.ofList (k.models.toList.map fun c => if c = ',' then ';' else c)]) := by
  constructor
  · simp only [← statusName_eq]
    exact Csv.read_render (by simp [Channel.sheetHeader, Channel.sheetRecord])
  · simp only [← KeyList.statusWord_eq, ← replace_comma]
    exact Csv.read_render (by simp [KeyList.sheetRecord])

end ChannelKeeper
