import ChannelKeeper.Proofs.Url.Normal

/-!
# Paths of the web

A path of the web is read piece by piece between its slashes, so that what follows another
path behind a slash is read on from the segments of this. A query and a fragment begin where
the path ends. Nothing is said of the paths of other schemes, in which a backslash is a
character like any other.
-/

namespace ChannelKeeper.Url

open Text.Chars (splitOn splitOnce splitOnce_eq_some splitOnce_eq_none splitOnce_append
  sublist_of_mem_splitOn)

-- ---------------------------------------------------------------------------
-- Paths
-- ---------------------------------------------------------------------------

/-- The slashes of a path may be written either way. -/
def upright (c : Char) : Char := if c = '\\' then '/' else c

/-- The encoded pieces between the slashes of a path. -/
def piecesOf (s : List Char) : List String :=
  (splitOn '/' (s.map upright)).map fun p => String.ofList (percentEncode inPathSet p)

theorem percentEncode_append (inSet : Char → Bool) (s t : List Char) :
    percentEncode inSet (s ++ t) = percentEncode inSet s ++ percentEncode inSet t :=
  List.flatMap_append

theorem segmentsOf_eq (s : List Char) : segmentsOf true s = resolveDots [] (piecesOf s) := rfl

theorem piecesOf_append (s t : List Char) :
    piecesOf (s ++ '/' :: t) = piecesOf s ++ piecesOf t := by
  have hslash : upright '/' = '/' := rfl
  rw [piecesOf, List.map_append, List.map_cons, hslash, Text.Chars.splitOn_append_cons,
    List.map_append]
  rfl

theorem piecesOf_ne_nil (s : List Char) : piecesOf s ≠ [] := by
  simp [piecesOf, Text.Chars.splitOn_eq]

theorem piecesOf_slashes (n : Nat) :
    piecesOf (List.replicate n '/') = List.replicate (n + 1) "" := by
  induction n with
  | zero => rfl
  | succ n ih =>
    have happend := piecesOf_append [] (List.replicate n '/')
    rw [List.nil_append, ← List.replicate_succ, ih] at happend
    exact happend

theorem slash_not_mem_piecesOf {s : List Char} : ∀ p ∈ piecesOf s, '/' ∉ p.toList := by
  intro p hp
  obtain ⟨piece, hpiece, rfl⟩ := List.mem_map.mp hp
  rw [String.toList_ofList]
  intro hc
  rcases mem_percentEncode hc with hplain | ⟨hmem, -⟩
  · exact absurd hplain (by decide)
  · exact Text.Chars.not_mem_of_mem_splitOn hpiece hmem

theorem upright_eq_self {c : Char} (h : upright c ≠ '/') : upright c = c ∧ c ≠ '\\' := by
  unfold upright at h ⊢
  split at h
  · exact absurd rfl h
  · rename_i hc
    exact ⟨if_neg hc, hc⟩

theorem mem_pieces {s p : List Char} (h : p ∈ splitOn '/' (s.map upright)) :
    p.Sublist s ∧ ∀ c ∈ p, isSlash c = false := by
  have hslash := Text.Chars.not_mem_of_mem_splitOn h
  obtain ⟨part, hpart, rfl⟩ := List.sublist_map_iff.mp (sublist_of_mem_splitOn h)
  have hself : ∀ c ∈ part, upright c = c ∧ c ≠ '\\' := fun c hc =>
    upright_eq_self fun heq => hslash (List.mem_map.mpr ⟨c, hc, heq⟩)
  have hmap : part.map upright = part :=
    (List.map_congr_left fun c hc => (hself c hc).1).trans (List.map_id' _)
  rw [hmap] at hslash ⊢
  refine ⟨hpart, fun c hc => ?_⟩
  have hne : c ≠ '/' := fun heq => hslash (heq ▸ hc)
  simp [isSlash, hne, (hself c hc).2]

/-- The last piece of a path is made of a part of it without slashes of either kind. -/
theorem exists_last_piece (s : List Char) : ∃ pieces last,
    piecesOf s = pieces ++ [String.ofList (percentEncode inPathSet last)] ∧ last.Sublist s ∧
      ∀ c ∈ last, isSlash c = false := by
  have hne : splitOn '/' (s.map upright) ≠ [] := by simp [Text.Chars.splitOn_eq]
  obtain ⟨front, last, hsplit⟩ : ∃ front last, splitOn '/' (s.map upright) = front ++ [last] :=
    ⟨_, _, (List.dropLast_append_getLast hne).symm⟩
  refine ⟨front.map fun p => String.ofList (percentEncode inPathSet p), last, ?_,
    mem_pieces (by rw [hsplit]; simp)⟩
  rw [piecesOf, hsplit, List.map_append, List.map_singleton]

/-- The segments so far after another piece that is not the last one. -/
def enter (done : List String) (piece : String) : List String :=
  if isDoubleDot piece then done.tail else if isSingleDot piece then done else piece :: done

theorem resolveDots_cons (done : List String) (piece : String) {rest : List String}
    (h : rest ≠ []) : resolveDots done (piece :: rest) = resolveDots (enter done piece) rest := by
  obtain ⟨next, more, rfl⟩ := List.exists_cons_of_ne_nil h
  rw [resolveDots.eq_3 _ _ _ h, enter]
  split_ifs <;> rfl

theorem resolveDots_append (done pieces : List String) {rest : List String} (h : rest ≠ []) :
    resolveDots done (pieces ++ rest) = resolveDots (pieces.foldl enter done) rest := by
  induction pieces generalizing done with
  | nil => rfl
  | cons piece pieces ih =>
    rw [List.cons_append, resolveDots_cons done piece (by simp [h]), ih, List.foldl_cons]

theorem foldl_enter_empty (done : List String) (n : Nat) :
    (List.replicate n "").foldl enter done = List.replicate n "" ++ done := by
  induction n generalizing done with
  | zero => rfl
  | succ n ih =>
    have hempty : enter done "" = "" :: done := rfl
    rw [List.replicate_succ, List.foldl_cons, hempty, ih, ← List.replicate_succ,
      List.replicate_succ', List.append_assoc, List.singleton_append]

theorem exists_resolveDots (done pieces : List String) : ∃ n,
    resolveDots done pieces = (pieces.foldl enter done).reverse ++ List.replicate n "" := by
  induction pieces using List.reverseRecOn with
  | nil => exact ⟨0, by simp [resolveDots]⟩
  | append_singleton pieces last _ =>
    rw [resolveDots_append done pieces (by simp), List.foldl_concat, resolveDots, enter]
    split_ifs
    · exact ⟨1, by simp⟩
    · exact ⟨1, by simp⟩
    · exact ⟨0, by simp⟩

theorem length_le_of_isDot {s : String} (h : isSingleDot s ∨ isDoubleDot s) : s.toList.length ≤ 6 := by
  have hlower (t : String) (ht : String.ofList (s.toList.map Char.toLower) = t) :
      s.toList.length = t.toList.length := by
    rw [← ht, String.toList_ofList, List.length_map]
  simp only [isSingleDot, isDoubleDot, List.contains_cons, List.contains_nil, Bool.or_false,
    Bool.or_eq_true, beq_iff_eq] at h
  rcases h with (h | h) | h | h | h | h <;> rw [hlower _ h] <;> decide

/-- The last segment of a path is its last piece, unless this is a dot segment. -/
theorem resolveDots_concat (done pieces : List String) (last : String) : ∃ segments,
    resolveDots done (pieces ++ [last]) = segments ++ [last] ∨
    resolveDots done (pieces ++ [last]) = segments ++ [""] := by
  rw [resolveDots_append done pieces (by simp), resolveDots]
  split_ifs
  · exact ⟨_, .inr List.reverse_cons⟩
  · exact ⟨_, .inr List.reverse_cons⟩
  · exact ⟨_, .inl List.reverse_cons⟩

/-- The segments of a path when more follows it after a slash. -/
def openSegments : List Char → List String
  | [] => []
  | _ :: rest => ((piecesOf rest).foldl enter []).reverse

theorem pathOf_cons {c : Char} (hc : isSlash c) (rest : List Char) :
    pathOf true (c :: rest) = .rooted (segmentsOf true rest) := by
  simp only [isSlash, Bool.or_eq_true, beq_iff_eq] at hc
  rcases hc with rfl | rfl <;> rfl

theorem pathOf_append {path : List Char} (h : path.head?.all isSlash) (more : List Char) :
    pathOf true (path ++ '/' :: more) =
      .rooted (resolveDots (openSegments path).reverse (piecesOf more)) := by
  cases path with
  | nil => rfl
  | cons c rest =>
    rw [List.cons_append, pathOf_cons (by simpa using h), segmentsOf_eq, piecesOf_append,
      resolveDots_append _ _ (piecesOf_ne_nil more), openSegments, List.reverse_reverse]

theorem exists_pathOf_slashes {path : List Char} (h : path.head?.all isSlash) (n : Nat) :
    ∃ k, pathOf true (path ++ List.replicate n '/') =
      .rooted (openSegments path ++ List.replicate k "") := by
  cases n with
  | zero =>
    rw [List.replicate_zero, List.append_nil]
    cases path with
    | nil => exact ⟨1, rfl⟩
    | cons c rest =>
      obtain ⟨k, hk⟩ := exists_resolveDots [] (piecesOf rest)
      exact ⟨k, by rw [pathOf_cons (by simpa using h), segmentsOf_eq, hk, openSegments]⟩
  | succ n =>
    obtain ⟨k, hk⟩ := exists_resolveDots (openSegments path).reverse (List.replicate (n + 1) "")
    refine ⟨n + 1 + k, ?_⟩
    rw [List.replicate_succ, pathOf_append h, piecesOf_slashes, hk, foldl_enter_empty,
      List.reverse_append, List.reverse_reverse, List.reverse_replicate, List.append_assoc,
      List.replicate_append_replicate]

-- ---------------------------------------------------------------------------
-- What follows the authority
-- ---------------------------------------------------------------------------

theorem tailOf_append {s : List Char} (hquery : '?' ∉ s) (hfragment : '#' ∉ s) (t : List Char) :
    tailOf true (s ++ t) = { tailOf true t with path := s ++ (tailOf true t).path } := by
  unfold tailOf
  rw [splitOnce_append hfragment]
  cases splitOnce '#' t with
  | none =>
    simp only [Option.map_none]
    rw [splitOnce_append hquery]
    cases splitOnce '?' t <;> rfl
  | some parts =>
    obtain ⟨body, fragment⟩ := parts
    simp only [Option.map_some]
    rw [splitOnce_append hquery]
    cases splitOnce '?' body <;> rfl

theorem tailOf_path {s : List Char} (hquery : '?' ∉ s) (hfragment : '#' ∉ s) :
    tailOf true s = ⟨s, none, none⟩ := by
  simp [tailOf, splitOnce_eq_none.mpr hquery, splitOnce_eq_none.mpr hfragment]

theorem not_mem_of_tailOf {s : List Char} (hquery : (tailOf true s).query = none)
    (hfragment : (tailOf true s).fragment = none) : '?' ∉ s ∧ '#' ∉ s := by
  unfold tailOf at hquery hfragment
  cases hbody : splitOnce '#' s with
  | none =>
    simp only [hbody] at hquery
    cases hpath : splitOnce '?' s with
    | none => exact ⟨splitOnce_eq_none.mp hpath, splitOnce_eq_none.mp hbody⟩
    | some parts => simp [hpath] at hquery
  | some parts =>
    simp only [hbody] at hfragment
    split at hfragment <;> cases hfragment

/-- What stands before the first separator, or the whole text. -/
def before (sep : Char) (s : List Char) : List Char := (splitOnce sep s).elim s (·.1)

theorem before_spec (sep : Char) (s : List Char) : (before sep s).Sublist s ∧ sep ∉ before sep s := by
  unfold before
  cases h : splitOnce sep s with
  | none => exact ⟨.refl s, splitOnce_eq_none.mp h⟩
  | some parts =>
    obtain ⟨first, rest⟩ := parts
    obtain ⟨rfl, hfirst⟩ := splitOnce_eq_some.mp h
    exact ⟨List.sublist_append_left _ _, hfirst⟩

theorem path_tailOf (s : List Char) : (tailOf true s).path = before '?' (before '#' s) := by
  unfold tailOf before
  cases splitOnce '#' s with
  | none =>
    simp only [Option.elim_none]
    cases splitOnce '?' s <;> rfl
  | some parts =>
    obtain ⟨body, fragment⟩ := parts
    simp only [Option.elim_some]
    cases splitOnce '?' body <;> rfl

/-- What a path that follows another is made of: a part of the text, without what ends a path. -/
theorem mem_path_tailOf (s : List Char) : (tailOf true s).path.Sublist s ∧
    ∀ c ∈ (tailOf true s).path, c ≠ '?' ∧ c ≠ '#' := by
  obtain ⟨hbody, hhash⟩ := before_spec '#' s
  obtain ⟨hpath, hmark⟩ := before_spec '?' (before '#' s)
  rw [path_tailOf]
  refine ⟨hpath.trans hbody, fun c hc => ⟨?_, ?_⟩⟩
  · rintro rfl
    exact hmark hc
  · rintro rfl
    exact hhash (hpath.mem hc)

end ChannelKeeper.Url
