import ChannelKeeper.Proofs.Key.Extraction
import ChannelKeeper.Proofs.Text.Numbers

/-!
# Lists of keys read back

A list of keys is read back without the keys that look like comments. In a detailed list the
comment of a key ends with its line, so a channel's name of several lines adds what stands on
the later ones. Nothing is said of lists that were not written here.
-/

namespace ChannelKeeper

namespace KeyList

open Credential (IsEntry)

-- ---------------------------------------------------------------------------
-- Reading line by line
-- ---------------------------------------------------------------------------

/-- A line, without blanks at its ends, that is neither empty nor a comment. -/
def isListed (line : String) : Bool := line ≠ "" ∧ line.toList.head? ≠ some '#'

/-- The carriage return at the end of a line is a blank, and a last line without characters is not
listed, so a list may be read as if every line feed stood between two lines. -/
theorem parse_eq (content : String) :
    parse content = ((Text.splitOn '\n' content).map Text.trim).filter isListed := by
  let read (line : List Char) : String := Text.trim (String.ofList line)
  have hreturn (line : List Char) :
      read (if line.getLast? = some '\r' then line.dropLast else line) = read line := by
    split
    · rename_i hlast
      have hline := List.dropLast_append_getLast? '\r' hlast
      conv_rhs => rw [← hline]
      simp [read, Text.trim, Text.onChars,
        Text.Chars.trim_append_blank (b := '\r') (by decide) line.dropLast]
    · rfl
  have hempty : [read []].filter isListed = [] := by decide
  have hpieces : parse content = ((Text.Chars.lines content.toList).map read).filter isListed := by
    simp only [parse, Text.lines, List.map_map]
    rfl
  have hsplit : ((Text.splitOn '\n' content).map Text.trim).filter isListed =
      ((Text.Chars.splitOn '\n' content.toList).map read).filter isListed := by
    simp only [Text.splitOn, List.map_map]
    rfl
  rw [hpieces, hsplit, Text.Chars.lines]
  rcases List.eq_nil_or_concat (Text.Chars.splitOn '\n' content.toList) with hnil | ⟨init, last, h⟩
  · simp [hnil]
  · rw [List.concat_eq_append] at h
    simp only [h, List.dropLast_concat, List.getLast?_concat]
    have hinit : (init.map fun l => if l.getLast? = some '\r' then l.dropLast else l).map read =
        init.map read := by
      rw [List.map_map]
      exact List.map_congr_left fun line _ => hreturn line
    cases last with
    | nil => rw [hinit, List.map_append, List.filter_append, List.map_singleton, hempty,
        List.append_nil]
    | cons c rest => rw [List.map_append, hinit, List.map_append]

theorem parse_append (content more : String) :
    parse (content ++ "\n" ++ more) = parse content ++ parse more := by
  have hparts : (content ++ "\n" ++ more).toList = content.toList ++ '\n' :: more.toList := by
    simp
  simp only [parse_eq, Text.splitOn, hparts, Text.Chars.splitOn_append_cons, List.map_append,
    List.filter_append]

theorem splitOn_of_one_line {line : String} (h : '\n' ∉ line.toList) :
    Text.splitOn '\n' line = [line] := by
  rw [Text.splitOn, Text.Chars.splitOn_eq, List.splitOn_eq_singleton h, List.map_singleton,
    String.ofList_toList]

theorem parse_of_isEntry {key : String} (h : IsEntry key) :
    parse key = [key].filter isListed := by
  rw [parse_eq, splitOn_of_one_line h.one_line, List.map_singleton, h.trimmed]

theorem parse_empty : parse "" = [] := by decide

theorem parse_key_append {key : String} (h : IsEntry key) (more : String) :
    parse (key ++ "\n" ++ more) = [key].filter isListed ++ parse more := by
  rw [parse_append, parse_of_isEntry h]

-- ---------------------------------------------------------------------------
-- Simple lists
-- ---------------------------------------------------------------------------

theorem parse_renderSimple {keys : List String} (h : ∀ key ∈ keys, IsEntry key) :
    parse (renderSimple keys) = keys.filter isListed := by
  induction keys with
  | nil => exact parse_empty
  | cons key rest ih =>
    obtain ⟨hkey, hrest⟩ := List.forall_mem_cons.mp h
    have hcons : renderSimple (key :: rest) = key ++ "\n" ++ renderSimple rest := by
      simp [renderSimple]
    rw [hcons, parse_key_append hkey, ih hrest, ← List.filter_append, List.singleton_append]

-- ---------------------------------------------------------------------------
-- Detailed lists
-- ---------------------------------------------------------------------------

/-- What a detailed list says of a key's channel. -/
def description (k : ExtractedKey) : String :=
  k.channelName ++ " (ID: " ++ toString k.channelId ++ ", Status: " ++ statusWord k ++ ")"

/-- What a list reads of the description of a channel, which should be nothing: only its first line
stands behind a mark. -/
def strayLines (k : ExtractedKey) : List String :=
  ((Text.splitOn '\n' (description k)).tail.map Text.trim).filter isListed

/-- The lines of a description after the first one, on which a channel's name of several lines goes
on, are blank or comments of their own. -/
def IsComment (k : ExtractedKey) : Prop := ∀ line ∈ (Text.splitOn '\n' (description k)).tail,
  Text.trim line = "" ∨ (Text.trim line).toList.head? = some '#'

instance (k : ExtractedKey) : Decidable (IsComment k) :=
  inferInstanceAs (Decidable (∀ line ∈ (Text.splitOn '\n' (description k)).tail,
    Text.trim line = "" ∨ (Text.trim line).toList.head? = some '#'))

theorem strayLines_eq_nil_iff {k : ExtractedKey} : strayLines k = [] ↔ IsComment k := by
  simp only [strayLines, List.filter_eq_nil_iff, List.forall_mem_map, isListed, IsComment,
    decide_eq_true_eq, not_and_or, not_not]

theorem isListed_mark (s : List Char) :
    isListed (Text.trim (String.ofList ('#' :: s))) = false := by
  have htrim : Text.Chars.trim ('#' :: s) = '#' :: Text.Chars.trimEnd s :=
    Text.Chars.trimEnd_append_cons (by decide) [] s
  simp [isListed, Text.trim, Text.onChars, htrim]

theorem parse_description (k : ExtractedKey) :
    parse ("# Channel: " ++ description k) = strayLines k := by
  have hmark : "# Channel: ".toList = '#' :: " Channel: ".toList := by decide
  have hnone : '\n' ∉ "# Channel: ".toList := by decide
  obtain ⟨first, pieces, hpieces, hsplit⟩ :=
    Text.Chars.splitOn_append_left hnone (description k).toList
  have hfirst : ¬isListed (Text.trim (String.ofList ("# Channel: ".toList ++ first))) := by
    rw [hmark, List.cons_append, isListed_mark]
    simp
  rw [parse_eq, Text.splitOn, String.toList_append, hsplit, strayLines, Text.splitOn, hpieces,
    List.map_cons, List.map_cons, List.filter_cons_of_neg hfirst, List.map_cons, List.tail_cons]

theorem detailedEntry_eq (k : ExtractedKey) :
    detailedEntry k = "# Channel: " ++ description k ++ "\n" ++ (k.apiKey ++ "\n" ++ "\n") := by
  have hparts (mark name before id between status close feed key : String)
      {ending feeds : String} (hending : ending = close ++ feed) (hfeeds : feeds = feed ++ feed) :
      mark ++ name ++ before ++ id ++ between ++ status ++ ending ++ key ++ feeds =
        mark ++ (name ++ before ++ id ++ between ++ status ++ close) ++ feed ++
          (key ++ feed ++ feed) := by
    subst hending hfeeds
    simp only [String.append_assoc]
  exact hparts "# Channel: " k.channelName " (ID: " _ ", Status: " _ ")" "\n" k.apiKey (by decide)
    (by decide)

theorem render_detailed_cons (k : ExtractedKey) (keys : List ExtractedKey) :
    render .detailed (k :: keys) =
      "# Channel: " ++ description k ++ "\n" ++
        (k.apiKey ++ "\n" ++ ("" ++ "\n" ++ render .detailed keys)) := by
  have hparts (comment feed key rest : String) : comment ++ feed ++ (key ++ feed ++ feed) ++ rest =
      comment ++ feed ++ (key ++ feed ++ ("" ++ feed ++ rest)) := by
    simp only [String.append_assoc, String.empty_append]
  have hrender (keys : List ExtractedKey) :
      render .detailed keys = String.join (keys.map detailedEntry) := rfl
  rw [hrender, hrender, List.map_cons, String.join_cons, detailedEntry_eq]
  exact hparts _ "\n" k.apiKey _

theorem parse_detailed {keys : List ExtractedKey} (h : ∀ k ∈ keys, IsEntry k.apiKey) :
    parse (render .detailed keys) =
      keys.flatMap fun k => strayLines k ++ [k.apiKey].filter isListed := by
  induction keys with
  | nil => exact parse_empty
  | cons k rest ih =>
    obtain ⟨hkey, hrest⟩ := List.forall_mem_cons.mp h
    rw [render_detailed_cons, parse_append, parse_description, parse_key_append hkey, parse_append,
      parse_empty, List.nil_append, ih hrest, List.flatMap_cons, List.append_assoc]

/-- Only a name of several lines goes on behind a mark. -/
theorem isComment_of_one_line {k : ExtractedKey} (h : '\n' ∉ k.channelName.toList) :
    IsComment k := by
  have hid : '\n' ∉ (toString k.channelId).toList := fun hmem =>
    absurd (Text.minus_or_isDigit_of_mem_toString hmem) (by decide)
  have hstatus : '\n' ∉ (statusWord k).toList := by
    unfold statusWord
    split <;> decide
  have hline : '\n' ∉ (description k).toList := by
    simp only [description, String.toList_append, List.mem_append, not_or]
    exact ⟨⟨⟨⟨⟨h, by decide⟩, hid⟩, by decide⟩, hstatus⟩, by decide⟩
  intro line hmem
  simp [splitOn_of_one_line hline] at hmem

theorem parse_detailed_eq_iff {keys : List ExtractedKey} (h : ∀ k ∈ keys, IsEntry k.apiKey) :
    parse (render .detailed keys) = (keys.map (·.apiKey)).filter isListed ↔
      ∀ k ∈ keys, IsComment k := by
  have hown : (keys.map (·.apiKey)).filter isListed =
      keys.flatMap fun k => [k.apiKey].filter isListed := by
    rw [← List.flatMap_singleton' (keys.map (·.apiKey)), List.flatMap_map, List.filter_flatMap]
  rw [parse_detailed h, hown, Lists.flatMap_append_eq_iff]
  simp only [strayLines_eq_nil_iff]

end KeyList

-- ---------------------------------------------------------------------------
-- Results
-- ---------------------------------------------------------------------------

theorem isEntry_of_mem_extractKeys {channels : List Channel} {k : ExtractedKey}
    (h : k ∈ extractKeys channels) : Credential.IsEntry k.apiKey := by
  obtain ⟨c, -, -, hkey⟩ := exists_of_mem_extractKeys h
  exact Credential.isEntry_of_mem_entries (List.mem_of_mem_filter hkey)

/-- The keys of a list are read back as they were taken out, but for those that look like comments,
and from a detailed list just if the names of their channels add no line to it. -/
theorem extracted_keys_read_back (channels : List Channel) :
    let keys := extractKeys channels
    let kept := (keys.map (·.apiKey)).filter fun key => key.toList.head? ≠ some '#'
    KeyList.parse (KeyList.render .simple keys) = kept ∧
    (KeyList.parse (KeyList.render .detailed keys) = kept ↔ ∀ k ∈ keys, KeyList.IsComment k) ∧
    ∀ k : ExtractedKey, '\n' ∉ k.channelName.toList → KeyList.IsComment k := by
  intro keys kept
  have hentry : ∀ k ∈ keys, Credential.IsEntry k.apiKey := fun _ => isEntry_of_mem_extractKeys
  have hkept : kept = (keys.map (·.apiKey)).filter KeyList.isListed := by
    refine List.filter_congr fun key hkey => ?_
    obtain ⟨k, hk, rfl⟩ := List.mem_map.mp hkey
    simp [KeyList.isListed, (hentry k hk).ne_empty]
  rw [hkept]
  refine ⟨KeyList.parse_renderSimple ?_, KeyList.parse_detailed_eq_iff hentry,
    fun _ => KeyList.isComment_of_one_line⟩
  simpa using hentry

theorem extracted_keys_read_back_sample :
    let keys := extractKeys [{ id := 1, name := "pool\n# of two", status := 1, key := "a\n#b\nc" }]
    (∀ k ∈ keys, KeyList.IsComment k) ∧
    KeyList.parse (KeyList.render .detailed keys) = ["a", "c"] ∧
    KeyList.IsComment ⟨1, "pool", 24, 1, "a", ""⟩ :=
  have hcomment : ∀ k ∈ extractKeys [{
      id := 1, name := "pool\n# of two", status := 1, key := "a\n#b\nc" }],
      KeyList.IsComment k := by decide +kernel
  have hread := extracted_keys_read_back
    [{ id := 1, name := "pool\n# of two", status := 1, key := "a\n#b\nc" }]
  ⟨hcomment, (hread.2.1.mpr hcomment).trans (by decide +kernel), hread.2.2 _ (by decide)⟩

/-- The second line of this name has left the comment. -/
theorem name_read_as_key :
    let keys := extractKeys [{ id := 1, name := "a\nb", status := 1, key := "k" }]
    keys.map (·.apiKey) = ["k"] ∧
    KeyList.parse (KeyList.render .detailed keys) = ["b (ID: 1, Status: enabled)", "k"] := by
  decide +kernel

end ChannelKeeper
