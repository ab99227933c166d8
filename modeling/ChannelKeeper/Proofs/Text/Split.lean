import ChannelKeeper.Proofs.Lists
import ChannelKeeper.Text.Chars

/-!
# Splitting, joining and trimming

`splitOn` and `joinWith` undo each other on pieces without the separator, a split
at the first or last separator is found by where the others are, words end at
blanks, and trimming a second time changes nothing. Nothing is said of texts that
are split at more than one character.
-/

namespace ChannelKeeper.Text

namespace Chars

-- ---------------------------------------------------------------------------
-- Splitting
-- ---------------------------------------------------------------------------

theorem splitOn_eq (sep : Char) (s : List Char) : splitOn sep s = s.splitOn sep := by
  induction s with
  | nil => rfl
  | cons c rest ih =>
    rw [List.splitOn_cons_eq_if_modifyHead, splitOn, ih]
    by_cases h : c = sep
    · simp [h]
    · have hne := List.splitOn_ne_nil sep rest
      simp only [h, ↓reduceIte, beq_eq_false_iff_ne.mpr h, Bool.false_eq_true]
      split
      · contradiction
      · rename_i heq; simp [heq]

theorem not_mem_of_mem_splitOn {sep : Char} {s p : List Char} (h : p ∈ splitOn sep s) :
    sep ∉ p := by
  induction s generalizing p with
  | nil =>
    obtain rfl : p = [] := by simpa [splitOn] using h
    simp
  | cons c rest ih =>
    rw [splitOn] at h
    split at h
    · rcases List.mem_cons.mp h with rfl | h
      · simp
      · exact ih h
    · rename_i hc
      split at h
      · obtain rfl : p = [c] := by simpa using h
        simpa using Ne.symm hc
      · rename_i piece pieces heq
        rcases List.mem_cons.mp h with rfl | h
        · simpa [Ne.symm hc] using ih (p := piece) (by simp [heq])
        · exact ih (by simp [heq, h])

theorem sublist_of_mem_splitOn {sep : Char} {s p : List Char} (h : p ∈ splitOn sep s) :
    p.Sublist s := by
  induction s generalizing p with
  | nil =>
    obtain rfl : p = [] := by simpa [splitOn] using h
    exact .refl _
  | cons c rest ih =>
    rw [splitOn] at h
    split at h
    · rcases List.mem_cons.mp h with rfl | h
      · exact List.nil_sublist _
      · exact (ih h).cons c
    · split at h
      · obtain rfl : p = [c] := by simpa using h
        exact (List.nil_sublist rest).cons_cons c
      · rename_i piece pieces heq
        rcases List.mem_cons.mp h with rfl | h
        · exact (ih (by simp [heq])).cons_cons c
        · exact (ih (by simp [heq, h])).cons c

theorem splitOn_joinWith {sep : Char} {pieces : List (List Char)} (hs : ∀ p ∈ pieces, sep ∉ p)
    (hn : pieces ≠ []) : splitOn sep (joinWith [sep] pieces) = pieces := by
  rw [splitOn_eq]
  exact List.splitOn_intercalate sep hs hn

theorem joinWith_splitOn (sep : Char) (s : List Char) : joinWith [sep] (splitOn sep s) = s := by
  rw [splitOn_eq]
  exact List.intercalate_splitOn sep

theorem splitOn_append {sep : Char} (s : List Char) {t : List Char} (ht : sep ∉ t) :
    ∃ pieces last, splitOn sep s = pieces ++ [last] ∧
      splitOn sep (s ++ t) = pieces ++ [last ++ t] := by
  induction s with
  | nil =>
    refine ⟨[], [], rfl, ?_⟩
    rw [splitOn_eq]
    exact List.splitOn_eq_singleton ht
  | cons c rest ih =>
    obtain ⟨pieces, last, hrest, hmore⟩ := ih
    rw [List.cons_append, splitOn, splitOn, hrest, hmore]
    split
    · exact ⟨[] :: pieces, last, rfl, rfl⟩
    · cases pieces with
      | nil => exact ⟨[], c :: last, rfl, rfl⟩
      | cons piece pieces => exact ⟨(c :: piece) :: pieces, last, rfl, rfl⟩

theorem splitOn_append_left {sep : Char} {s : List Char} (hs : sep ∉ s) (t : List Char) :
    ∃ first pieces, splitOn sep t = first :: pieces ∧
      splitOn sep (s ++ t) = (s ++ first) :: pieces := by
  induction s with
  | nil =>
    have hne : splitOn sep t ≠ [] := by simp [splitOn_eq]
    obtain ⟨first, pieces, ht⟩ := List.exists_cons_of_ne_nil hne
    exact ⟨first, pieces, ht, ht⟩
  | cons c rest ih =>
    obtain ⟨hc, hrest⟩ : sep ≠ c ∧ sep ∉ rest := by simpa using hs
    obtain ⟨first, pieces, ht, hmore⟩ := ih hrest
    refine ⟨first, pieces, ht, ?_⟩
    rw [List.cons_append, splitOn, if_neg hc.symm, hmore]
    rfl

theorem splitOn_append_cons (sep : Char) (s t : List Char) :
    splitOn sep (s ++ sep :: t) = splitOn sep s ++ splitOn sep t := by
  induction s with
  | nil => simp [splitOn]
  | cons c rest ih =>
    rw [List.cons_append, splitOn, splitOn, ih]
    split
    · rfl
    · cases hpieces : splitOn sep rest with
      | nil => simp [splitOn_eq] at hpieces
      | cons piece pieces => rfl

theorem splitOnce_eq_none {sep : Char} {s : List Char} : splitOnce sep s = none ↔ sep ∉ s := by
  induction s with
  | nil => simp [splitOnce]
  | cons c rest ih =>
    by_cases h : c = sep
    · simp [splitOnce, h]
    · simp [splitOnce, h, ih, Ne.symm h]

theorem splitOnce_eq_some {sep : Char} {s before after : List Char} :
    splitOnce sep s = some (before, after) ↔ s = before ++ sep :: after ∧ sep ∉ before := by
  induction s generalizing before with
  | nil => simp [splitOnce]
  | cons c rest ih =>
    rw [splitOnce]
    by_cases h : c = sep
    · subst h
      cases before with
      | nil => simp [eq_comm]
      | cons d more =>
        simp only [↓reduceIte, Option.some.injEq, Prod.mk.injEq, List.cons_append,
          List.cons.injEq, List.mem_cons, not_or]
        grind
    · cases before with
      | nil => simp [h]
      | cons d more =>
        simp only [h, ↓reduceIte, Option.map_eq_some_iff, Prod.exists, Prod.mk.injEq,
          List.cons.injEq, List.cons_append, List.mem_cons, not_or]
        grind

theorem splitOnce_append {sep : Char} {s : List Char} (h : sep ∉ s) (t : List Char) :
    splitOnce sep (s ++ t) = (splitOnce sep t).map fun (a, b) => (s ++ a, b) := by
  cases ht : splitOnce sep t with
  | none =>
    rw [Option.map_none, splitOnce_eq_none]
    simpa [h] using splitOnce_eq_none.mp ht
  | some parts =>
    obtain ⟨a, b⟩ := parts
    obtain ⟨rfl, ha⟩ := splitOnce_eq_some.mp ht
    exact splitOnce_eq_some.mpr ⟨by simp, by simp [h, ha]⟩

theorem splitLast_eq_some {sep : Char} {s before after : List Char} :
    splitLast sep s = some (before, after) ↔ s = before ++ sep :: after ∧ sep ∉ after := by
  have hreverse : s = before ++ sep :: after ↔
      s.reverse = after.reverse ++ sep :: before.reverse := by
    rw [← List.reverse_inj]
    simp
  rw [hreverse, ← List.mem_reverse, ← splitOnce_eq_some, splitLast]
  constructor
  · intro h
    obtain ⟨⟨a, b⟩, hsplit, heq⟩ := Option.map_eq_some_iff.mp h
    obtain ⟨rfl, rfl⟩ : b.reverse = before ∧ a.reverse = after := by simpa using heq
    simpa using hsplit
  · intro h
    simp [h]

theorem splitLast_eq_none {sep : Char} {s : List Char} : splitLast sep s = none ↔ sep ∉ s := by
  rw [splitLast, Option.map_eq_none_iff, splitOnce_eq_none, List.mem_reverse]

theorem occursIn_iff {pattern s : List Char} : occursIn pattern s ↔ pattern <:+: s := by
  induction s with
  | nil => simp [occursIn]
  | cons c rest ih =>
    rw [occursIn, Bool.or_eq_true, ih, List.isPrefixOf_iff_prefix, List.infix_cons_iff]

-- ---------------------------------------------------------------------------
-- Words
-- ---------------------------------------------------------------------------

@[simp]
theorem words_nil : words [] = [] := rfl

theorem words_blank {b : Char} (hb : isBlank b) (s : List Char) : words (b :: s) = words s := by
  rw [words.eq_def]
  simp [hb]

theorem words_singleton {c : Char} (hc : isBlank c = false) : words [c] = [[c]] := by
  rw [words.eq_def]
  simp [hc]

theorem words_end {c b : Char} (hc : isBlank c = false) (hb : isBlank b) (s : List Char) :
    words (c :: b :: s) = [c] :: words (b :: s) := by
  rw [words.eq_def]
  simp [hc, hb]

theorem words_within {c d : Char} (hc : isBlank c = false) (hd : isBlank d = false)
    (h : words (d :: s) = w :: ws) : words (c :: d :: s) = (c :: w) :: ws := by
  rw [words.eq_def]
  simp [hc, hd, h]

theorem words_ne_nil {c : Char} (hc : isBlank c = false) (s : List Char) : words (c :: s) ≠ [] := by
  cases s with
  | nil => simp [words_singleton hc]
  | cons d rest =>
    cases hd : isBlank d with
    | true => simp [words_end hc hd]
    | false =>
      rw [words.eq_def]
      simp only [hc, hd, Bool.false_eq_true, ↓reduceIte]
      split <;> simp

theorem words_append_blank {b : Char} (hb : isBlank b) (s t : List Char) :
    words (s ++ b :: t) = words s ++ words t := by
  induction s with
  | nil => exact words_blank hb t
  | cons c rest ih =>
    cases hc : isBlank c with
    | true => rw [List.cons_append, words_blank hc, words_blank hc, ih]
    | false =>
      cases rest with
      | nil => simp [words_end hc hb, words_blank hb, words_singleton hc]
      | cons d more =>
        cases hd : isBlank d with
        | true =>
          rw [words_end hc hd]
          exact (words_end hc hd _).trans (congrArg _ ih)
        | false =>
          obtain ⟨w, ws, hw⟩ := List.exists_cons_of_ne_nil (words_ne_nil hd more)
          rw [words_within hc hd hw]
          rw [hw] at ih
          exact words_within hc hd ih

theorem words_of_no_blank {w : List Char} (hne : w ≠ []) (hw : ∀ c ∈ w, isBlank c = false) :
    words w = [w] := by
  induction w with
  | nil => contradiction
  | cons c rest ih =>
    have hc := hw c List.mem_cons_self
    cases rest with
    | nil => exact words_singleton hc
    | cons d more =>
      have hd := hw d (by simp)
      exact words_within hc hd (ih (by simp) fun e he => hw e (List.mem_cons_of_mem c he))

theorem words_append_left {s : List Char} (hs : s.getLast?.all isBlank) (t : List Char) :
    words (s ++ t) = words s ++ words t := by
  induction s using List.reverseRecOn with
  | nil => rfl
  | append_singleton a b _ =>
    have hb : isBlank b := by simpa using hs
    rw [List.append_assoc, List.singleton_append, words_append_blank hb, words_append_blank hb,
      words_nil, List.append_nil]

theorem words_append_right {t : List Char} (ht : t.head?.all isBlank) (s : List Char) :
    words (s ++ t) = words s ++ words t := by
  cases t with
  | nil => simp
  | cons b rest =>
    have hb : isBlank b := by simpa using ht
    rw [words_append_blank hb, words_blank hb]

-- ---------------------------------------------------------------------------
-- Trimming
-- ---------------------------------------------------------------------------

theorem trimEnd_isInitial (s : List Char) : trimEnd s <+: s := List.rdropWhile_prefix isBlank s

theorem trimStart_append_cons {c : Char} (hc : isBlank c = false) (s t : List Char) :
    trimStart (s ++ c :: t) = trimStart s ++ c :: t :=
  Lists.dropWhile_append_cons hc s t

theorem trimEnd_append_cons {c : Char} (hc : isBlank c = false) (s t : List Char) :
    trimEnd (s ++ c :: t) = s ++ c :: trimEnd t :=
  Lists.rdropWhile_append_cons hc s t

theorem trim_append_cons {c : Char} (hc : isBlank c = false) (s t : List Char) :
    trim (s ++ c :: t) = trimStart s ++ c :: trimEnd t := by
  rw [trim, trimStart_append_cons hc, trimEnd_append_cons hc]

theorem mem_of_mem_trim {c : Char} {s : List Char} (h : c ∈ trim s) : c ∈ s :=
  (List.dropWhile_suffix isBlank).subset ((trimEnd_isInitial (trimStart s)).subset h)

theorem trimEnd_trimEnd (s : List Char) : trimEnd (trimEnd s) = trimEnd s :=
  List.rdropWhile_idempotent isBlank s

/-- Dropping blanks at the end does not bring a blank to the front. -/
theorem trimStart_trimEnd {s : List Char} (h : trimStart s = s) :
    trimStart (trimEnd s) = trimEnd s := by
  obtain ⟨dropped, hd⟩ := trimEnd_isInitial s
  cases he : trimEnd s with
  | nil => rfl
  | cons c rest =>
    rw [he, List.cons_append] at hd
    rw [← hd] at h
    cases hb : isBlank c with
    | false => simp [trimStart, hb]
    | true =>
      have hl := congrArg List.length h
      have := (List.dropWhile_suffix isBlank (l := rest ++ dropped)).length_le
      simp only [trimStart, hb, List.dropWhile_cons_of_pos, List.length_cons] at hl
      omega

theorem trim_append_word {w : List Char} (hne : w ≠ []) (hw : ∀ c ∈ w, isBlank c = false)
    (s t : List Char) : trim (s ++ (w ++ t)) = trimStart s ++ (w ++ trimEnd t) := by
  have hstart : trimStart (s ++ (w ++ t)) = trimStart s ++ (w ++ t) := by
    obtain ⟨c, rest, rfl⟩ := List.exists_cons_of_ne_nil hne
    exact trimStart_append_cons (hw c List.mem_cons_self) s (rest ++ t)
  have hend : trimEnd (trimStart s ++ (w ++ t)) = trimStart s ++ (w ++ trimEnd t) := by
    obtain ⟨rest, d, rfl⟩ := (List.eq_nil_or_concat w).resolve_left hne
    have hd := trimEnd_append_cons (hw d (by simp)) (trimStart s ++ rest) t
    simpa using hd
  rw [trim, hstart, hend]

theorem trim_append_blank {b : Char} (hb : isBlank b) (s : List Char) :
    trim (s ++ [b]) = trim s := by
  rw [trim, trim, trimStart, List.dropWhile_append, trimStart]
  split
  · rename_i hall
    simp [List.isEmpty_iff.mp hall, hb]
  · simp [trimEnd, hb]

theorem words_trimStart (s : List Char) : words (trimStart s) = words s := by
  induction s with
  | nil => rfl
  | cons c rest ih =>
    cases hc : isBlank c with
    | true => simpa [trimStart, hc, words_blank hc] using ih
    | false => simp [trimStart, hc]

theorem words_trimEnd (s : List Char) : words (trimEnd s) = words s := by
  induction s using List.reverseRecOn with
  | nil => rfl
  | append_singleton rest c ih =>
    cases hc : isBlank c with
    | true => simpa [trimEnd, hc, words_append_blank hc] using ih
    | false => simp [trimEnd, hc]

theorem words_trim (s : List Char) : words (trim s) = words s := by
  rw [trim, words_trimEnd, words_trimStart]

theorem trim_trim (s : List Char) : trim (trim s) = trim s := by
  have h : trimStart (trimStart s) = trimStart s := List.dropWhile_idempotent isBlank s
  rw [trim, trim, trimStart_trimEnd h, trimEnd_trimEnd]

end Chars

theorem append_inj_of_length {s t ending ending' : String} (h : s ++ ending = t ++ ending')
    (hlength : ending.length = ending'.length) : s = t ∧ ending = ending' := by
  rw [← String.toList_inj, String.toList_append, String.toList_append] at h
  have hparts := List.append_inj' h (by rwa [String.length_toList, String.length_toList])
  exact ⟨String.toList_inj.mp hparts.1, String.toList_inj.mp hparts.2⟩

theorem splitOn_ne_nil (sep : Char) (s : String) : splitOn sep s ≠ [] := by
  rw [splitOn, Chars.splitOn_eq]
  simp

theorem splitOn_append (sep : Char) (s : String) {t : String} (ht : sep ∉ t.toList) :
    ∃ pieces last, splitOn sep s = pieces ++ [last] ∧
      splitOn sep (s ++ t) = pieces ++ [last ++ t] := by
  obtain ⟨pieces, last, hs, hst⟩ := Chars.splitOn_append s.toList ht
  refine ⟨pieces.map String.ofList, String.ofList last, ?_, ?_⟩
  · rw [splitOn, hs, List.map_append, List.map_singleton]
  · rw [splitOn, String.toList_append, hst, List.map_append, List.map_singleton,
      String.ofList_append, String.ofList_toList]

theorem splitOn_inj {sep : Char} {s t : String} (h : splitOn sep s = splitOn sep t) : s = t := by
  have hpieces : Chars.splitOn sep s.toList = Chars.splitOn sep t.toList :=
    List.map_injective_iff.mpr (fun _ _ => String.ofList_inj.mp) h
  have hjoined := congrArg (Chars.joinWith [sep]) hpieces
  rwa [Chars.joinWith_splitOn, Chars.joinWith_splitOn, String.toList_inj] at hjoined

theorem splitOnce_append {sep : Char} {before : List Char} (h : sep ∉ before) (after : List Char) :
    splitOnce sep (String.ofList (before ++ sep :: after)) =
      some (String.ofList before, String.ofList after) := by
  have hparts : Chars.splitOnce sep (before ++ sep :: after) = some (before, after) :=
    Chars.splitOnce_eq_some.mpr ⟨rfl, h⟩
  simp [splitOnce, hparts]

theorem toList_join (sep : String) (pieces : List String) :
    (join sep pieces).toList = Chars.joinWith sep.toList (pieces.map String.toList) := by
  rw [join, String.toList_ofList]

theorem toList_trim (s : String) : (trim s).toList = Chars.trim s.toList := by
  simp [trim, onChars]

theorem not_mem_trim {c : Char} {s : String} (h : c ∉ s.toList) : c ∉ (trim s).toList := by
  rw [toList_trim]
  exact fun hc => h (Chars.mem_of_mem_trim hc)

theorem trim_trim (s : String) : trim (trim s) = trim s := by
  simp [trim, onChars, Chars.trim_trim]

theorem words_trim (s : String) : words (trim s) = words s := by
  rw [words, words, toList_trim, Chars.words_trim]

/-- Joined items are read back, if they have no blanks at their ends and no separator. -/
theorem trimmed_splitOn_join {sep : Char} {items : List String} (htrim : ∀ e ∈ items, trim e = e)
    (hne : ∀ e ∈ items, e ≠ "") (hsep : ∀ e ∈ items, sep ∉ e.toList) :
    ((splitOn sep (join (String.singleton sep) items)).map trim).filter (· ≠ "") = items := by
  cases items with
  | nil => rfl
  | cons e rest =>
    have hpieces : ∀ p ∈ (e :: rest).map String.toList, sep ∉ p := by
      intro p hp
      obtain ⟨x, hx, rfl⟩ := List.mem_map.mp hp
      exact hsep x hx
    have hsplit : splitOn sep (join (String.singleton sep) (e :: rest)) = e :: rest := by
      rw [splitOn, join, String.toList_ofList, String.toList_singleton,
        Chars.splitOn_joinWith hpieces (by simp)]
      simp
    have htrimmed : (e :: rest).map trim = e :: rest :=
      (List.map_congr_left htrim).trans (List.map_id _)
    rw [hsplit, htrimmed, List.filter_eq_self]
    simpa using hne

theorem afterStart?_append (start rest : String) : afterStart? start (start ++ rest) = some rest := by
  have hprefix : start.toList.isPrefixOf? (start.toList ++ rest.toList) = some rest.toList :=
    List.isPrefixOf?_eq_some_iff_append_eq.mpr rfl
  rw [afterStart?, String.toList_append, hprefix, Option.map_some, String.ofList_toList]

theorem exists_of_startsWith {start s : String} (h : startsWith start s) :
    ∃ rest, s = start ++ rest := by
  rw [startsWith, List.isPrefixOf_iff_prefix] at h
  obtain ⟨rest, hrest⟩ := h
  exact ⟨String.ofList rest, by rw [← String.toList_inj, String.toList_append,
    String.toList_ofList, hrest]⟩

theorem afterStart?_of_not_start {start s : String} (h : startsWith start s = false) :
    afterStart? start s = none := by
  rw [afterStart?, Option.map_eq_none_iff]
  cases hprefix : start.toList.isPrefixOf? s.toList with
  | none => rfl
  | some rest =>
    have hstarts : startsWith start s :=
      List.isPrefixOf_iff_prefix.mpr ⟨rest, List.isPrefixOf?_eq_some_iff_append_eq.mp hprefix⟩
    exact absurd (h.symm.trans hstarts) Bool.false_ne_true

end ChannelKeeper.Text
