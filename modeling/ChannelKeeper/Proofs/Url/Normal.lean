import ChannelKeeper.Proofs.Url.Rendered

/-!
# URLs in normal form

The URL of a database server is read back from its text as it is, whether it was read from a
text or put together: what was encoded is not encoded a second time, and of a path whose dots
were resolved none is left to resolve. Only credentials or a port without a host are refused.
Nothing is said of the schemes of the web.
-/

namespace ChannelKeeper.Url

open Text.Chars (splitOn splitOnce splitLast splitOnce_eq_some splitOnce_eq_none splitLast_eq_none)

-- ---------------------------------------------------------------------------
-- Encoded texts
-- ---------------------------------------------------------------------------

/-- A text in which nothing of a set is left to encode. -/
def IsEncoded (inSet : Char → Bool) (s : String) : Prop :=
  ∀ c ∈ s.toList, inSet c = false ∧ c.toNat < 0x80

instance (inSet : Char → Bool) (s : String) : Decidable (IsEncoded inSet s) :=
  inferInstanceAs (Decidable (∀ c ∈ s.toList, inSet c = false ∧ c.toNat < 0x80))

/-- A character that is dropped neither where it stands nor at an end. -/
def isVisible (c : Char) : Bool := 0x20 < c.toNat && c.toNat < 0x80

/-- The set leaves the characters of escapes alone, and no blank or control. -/
structure IsPartSet (inSet : Char → Bool) : Prop where
  escapes : ∀ c, isPlain c → inSet c = false
  visible : ∀ c, inSet c = false → c.toNat < 0x80 → isVisible c

theorem isPartSet_of_subset {inSet : Char → Bool} (hin : ∀ c, inSet c → inUserinfoSet c)
    (hblank : ∀ c, isControl c || c == ' ' → inSet c) : IsPartSet inSet where
  escapes c hc := by
    by_contra hset
    rw [Bool.not_eq_false] at hset
    simp [isPlain, hin c hset] at hc
  visible c hc hlt := by
    have hshown : ¬(isControl c || c == ' ') := fun hset => by simp [hblank c hset] at hc
    have hspace : c.toNat ≠ 0x20 := fun hn => hshown (by
      obtain rfl : c = ' ' := Char.toNat_inj.mp hn
      decide)
    simp only [isControl, Bool.or_eq_true, decide_eq_true_eq, beq_iff_eq, not_or] at hshown
    simp only [isVisible, Bool.and_eq_true, decide_eq_true_eq]
    omega

theorem isPartSet_path : IsPartSet inPathSet :=
  isPartSet_of_subset (fun c h => by simp [inUserinfoSet, h]) fun c h => by
    simp_all [inPathSet, inFragmentSet]

theorem isPartSet_query : IsPartSet inQuerySet := by
  refine isPartSet_of_subset (fun c h => ?_) fun c h => by simp_all [inQuerySet]
  simp only [inQuerySet, Bool.or_eq_true] at h
  rcases h with ((((h | h) | h) | h) | h) | h <;> simp [inUserinfoSet, inPathSet, inFragmentSet, h]

theorem isPartSet_fragment : IsPartSet inFragmentSet :=
  isPartSet_of_subset (fun c h => by simp [inUserinfoSet, inPathSet, h]) fun c h => by
    simp_all [inFragmentSet]

variable {inSet : Char → Bool}

theorem isEncoded_of_plain (hset : IsPartSet inSet) {s : String} (h : ∀ c ∈ s.toList, isPlain c) :
    IsEncoded inSet s :=
  fun c hc => ⟨hset.escapes c (h c hc), lt_of_isPlain (h c hc)⟩

theorem IsEncoded.append {s t : String} (hs : IsEncoded inSet s) (ht : IsEncoded inSet t) :
    IsEncoded inSet (s ++ t) := by
  intro c hc
  rw [String.toList_append, List.mem_append] at hc
  exact hc.elim (hs c) (ht c)

theorem isEncoded_percentEncode (hset : IsPartSet inSet) (s : List Char) :
    IsEncoded inSet (String.ofList (percentEncode inSet s)) := by
  intro c hc
  rw [String.toList_ofList] at hc
  rcases mem_percentEncode hc with hplain | ⟨-, hkept⟩
  · exact ⟨hset.escapes c hplain, lt_of_isPlain hplain⟩
  · exact hkept

theorem IsEncoded.percentEncode_eq {s : String} (h : IsEncoded inSet s) :
    String.ofList (percentEncode inSet s.toList) = s := by
  rw [percentEncode_of_forall h, String.ofList_toList]

theorem IsEncoded.visible {s : String} (h : IsEncoded inSet s) (hset : IsPartSet inSet) :
    ∀ c ∈ s.toList, isVisible c :=
  fun c hc => hset.visible c (h c hc).1 (h c hc).2

theorem IsEncoded.not_mem {s : String} (h : IsEncoded inSet s) {c : Char} (hc : inSet c) :
    c ∉ s.toList := by
  intro hmem
  simp [(h c hmem).1] at hc

-- ---------------------------------------------------------------------------
-- Segments
-- ---------------------------------------------------------------------------

/-- A segment of a path that is read as it stands. -/
structure IsSegment (s : String) : Prop where
  encoded : IsEncoded inPathSet s
  no_slash : '/' ∉ s.toList
  not_single : isSingleDot s = false
  not_double : isDoubleDot s = false

theorem isSegment_empty : IsSegment "" := ⟨by simp [IsEncoded], by simp, by decide, by decide⟩

theorem forall_mem_resolveDots {P : String → Prop} (hempty : P "") {done pieces : List String}
    (hdone : ∀ s ∈ done, P s)
    (h : ∀ s ∈ pieces, isSingleDot s = false → isDoubleDot s = false → P s) :
    ∀ s ∈ resolveDots done pieces, P s := by
  induction pieces generalizing done with
  | nil => simpa [resolveDots] using hdone
  | cons piece rest ih =>
    obtain ⟨hpiece, hrest⟩ := List.forall_mem_cons.mp h
    have htail : ∀ s ∈ done.tail, P s := fun s hs => hdone s (List.mem_of_mem_tail hs)
    have hpush {s : String} {kept : List String} (hs : P s) (hkept : ∀ t ∈ kept, P t) :
        ∀ t ∈ s :: kept, P t := List.forall_mem_cons.mpr ⟨hs, hkept⟩
    cases rest with
    | nil =>
      simp only [resolveDots]
      split
      · simpa only [List.mem_reverse] using hpush hempty htail
      · split
        · simpa only [List.mem_reverse] using hpush hempty hdone
        · simpa only [List.mem_reverse] using hpush (hpiece (by simp_all) (by simp_all)) hdone
    | cons next more =>
      simp only [resolveDots]
      split
      · exact ih htail hrest
      · split
        · exact ih hdone hrest
        · exact ih (hpush (hpiece (by simp_all) (by simp_all)) hdone) hrest

theorem resolveDots_segments {segments : List String} (h : ∀ s ∈ segments, IsSegment s)
    (done : List String) : resolveDots done segments = done.reverse ++ segments := by
  induction segments generalizing done with
  | nil => simp [resolveDots]
  | cons s rest ih =>
    obtain ⟨hs, hrest⟩ := List.forall_mem_cons.mp h
    cases rest with
    | nil => simp [resolveDots, hs.not_single, hs.not_double]
    | cons t more => simp [resolveDots, hs.not_single, hs.not_double, ih hrest]

theorem isSegment_segmentsOf (s : List Char) : ∀ t ∈ segmentsOf false s, IsSegment t := by
  refine forall_mem_resolveDots isSegment_empty (by simp) fun t ht hsingle hdouble => ?_
  obtain ⟨piece, hpiece, rfl⟩ := List.mem_map.mp ht
  refine ⟨isEncoded_percentEncode isPartSet_path piece, ?_, hsingle, hdouble⟩
  rw [String.toList_ofList]
  intro hc
  rcases mem_percentEncode hc with hplain | ⟨hmem, -⟩
  · exact absurd hplain (by decide)
  · exact Text.Chars.not_mem_of_mem_splitOn hpiece hmem

theorem isSegment_pathOf (s : List Char) :
    ∃ segments, pathOf false s = .rooted segments ∧ ∀ t ∈ segments, IsSegment t := by
  unfold pathOf
  split
  · exact ⟨[], rfl, by simp⟩
  · exact ⟨_, rfl, isSegment_segmentsOf _⟩
  · exact ⟨_, rfl, isSegment_segmentsOf _⟩
  · exact ⟨_, rfl, isSegment_segmentsOf _⟩

theorem splitOn_segments {first : String} {rest : List String}
    (h : ∀ s ∈ first :: rest, '/' ∉ s.toList) :
    splitOn '/' (first.toList ++ rest.flatMap fun s => '/' :: s.toList) =
      (first :: rest).map String.toList := by
  induction rest generalizing first with
  | nil =>
    rw [List.flatMap_nil, List.append_nil, Text.Chars.splitOn_eq,
      List.splitOn_eq_singleton (h first List.mem_cons_self)]
    rfl
  | cons s more ih =>
    obtain ⟨hfirst, hrest⟩ := List.forall_mem_cons.mp h
    rw [List.flatMap_cons, List.cons_append, Text.Chars.splitOn_append_cons, ih hrest,
      Text.Chars.splitOn_eq, List.splitOn_eq_singleton hfirst]
    rfl

theorem toList_render_rooted (segments : List String) :
    (Path.render (.rooted segments)).toList = segments.flatMap fun s => '/' :: s.toList := by
  induction segments with
  | nil => rfl
  | cons s rest ih =>
    rw [Path.render, List.map_cons, String.join_cons, String.toList_append]
    rw [Path.render] at ih
    simp [ih]

theorem pathOf_render {segments : List String} (h : ∀ s ∈ segments, IsSegment s) :
    pathOf false (Path.render (.rooted segments)).toList = .rooted segments := by
  rw [toList_render_rooted]
  cases segments with
  | nil => rfl
  | cons first rest =>
    have hpieces := splitOn_segments fun s hs => (h s hs).no_slash
    have hencode : ((first :: rest).map String.toList).map
        (fun p => String.ofList (percentEncode inPathSet p)) = first :: rest := by
      rw [List.map_map]
      exact (List.map_congr_left fun s hs => (h s hs).encoded.percentEncode_eq).trans
        (List.map_id' _)
    simp only [List.flatMap_cons, List.cons_append, pathOf, segmentsOf, Bool.false_eq_true,
      ↓reduceIte, hpieces, hencode, resolveDots_segments h, List.reverse_nil, List.nil_append]

-- ---------------------------------------------------------------------------
-- What follows the authority
-- ---------------------------------------------------------------------------

/-- A URL whose path, query and fragment are read as they stand. -/
structure HasEncodedTail (u : Url) : Prop where
  segments : ∀ segments, u.path = .rooted segments → ∀ s ∈ segments, IsSegment s
  query : ∀ q, u.query = some q → IsEncoded inQuerySet q
  fragment : ∀ f, u.fragment = some f → IsEncoded inFragmentSet f

def queryTail (body : List Char) (fragment : Option String) : Tail :=
  match splitOnce '?' body with
  | some (path, query) => ⟨path, some (String.ofList (percentEncode inQuerySet query)), fragment⟩
  | none => ⟨body, none, fragment⟩

theorem tailOf_eq (s : List Char) : tailOf false s = match splitOnce '#' s with
    | some (body, f) => queryTail body (some (String.ofList (percentEncode inFragmentSet f)))
    | none => queryTail s none := by
  unfold tailOf queryTail
  cases splitOnce '#' s <;> rfl

theorem queryTail_encoded {fragment : Option String}
    (hf : ∀ f, fragment = some f → IsEncoded inFragmentSet f) (body : List Char) :
    (∀ q, (queryTail body fragment).query = some q → IsEncoded inQuerySet q) ∧
    ∀ f, (queryTail body fragment).fragment = some f → IsEncoded inFragmentSet f := by
  unfold queryTail
  split
  · exact ⟨fun q hq => Option.some.inj hq ▸ isEncoded_percentEncode isPartSet_query _, hf⟩
  · exact ⟨by simp, hf⟩

theorem tailOf_encoded (s : List Char) :
    (∀ q, (tailOf false s).query = some q → IsEncoded inQuerySet q) ∧
    ∀ f, (tailOf false s).fragment = some f → IsEncoded inFragmentSet f := by
  rw [tailOf_eq]
  split
  · refine queryTail_encoded (fun f hf => ?_) _
    exact Option.some.inj hf ▸ isEncoded_percentEncode isPartSet_fragment _
  · exact queryTail_encoded (by simp) _

theorem queryTail_text {path : List Char} (hpath : '?' ∉ path) {query : Option String}
    (hq : ∀ q, query = some q → IsEncoded inQuerySet q) (fragment : Option String) :
    queryTail (path ++ (afterMark "?" query).toList) fragment = ⟨path, query, fragment⟩ := by
  cases query with
  | none =>
    have hsplit : splitOnce '?' path = none := splitOnce_eq_none.mpr hpath
    simp [queryTail, afterMark, hsplit]
  | some q =>
    have hsplit : splitOnce '?' (path ++ '?' :: q.toList) = some (path, q.toList) :=
      splitOnce_eq_some.mpr ⟨rfl, hpath⟩
    simp [queryTail, afterMark, hsplit, (hq q rfl).percentEncode_eq]

theorem tailOf_text {path : List Char} (hquery : '?' ∉ path) (hfragment : '#' ∉ path)
    {query fragment : Option String} (hq : ∀ q, query = some q → IsEncoded inQuerySet q)
    (hf : ∀ f, fragment = some f → IsEncoded inFragmentSet f) :
    tailOf false (path ++ (afterMark "?" query).toList ++ (afterMark "#" fragment).toList) =
      ⟨path, query, fragment⟩ := by
  have hbody : '#' ∉ path ++ (afterMark "?" query).toList := by
    cases query with
    | none => simpa [afterMark] using hfragment
    | some q => simpa [afterMark, hfragment] using (hq q rfl).not_mem (by decide)
  rw [tailOf_eq]
  cases fragment with
  | none =>
    have hsplit : splitOnce '#' (path ++ (afterMark "?" query).toList) = none :=
      splitOnce_eq_none.mpr hbody
    have hnone : (afterMark "#" none).toList = [] := rfl
    rw [hnone, List.append_nil, hsplit]
    exact queryTail_text hquery hq none
  | some f =>
    have hmark : (afterMark "#" (some f)).toList = '#' :: f.toList := by simp [afterMark]
    have hsplit : splitOnce '#' (path ++ (afterMark "?" query).toList ++ '#' :: f.toList) =
        some (path ++ (afterMark "?" query).toList, f.toList) :=
      splitOnce_eq_some.mpr ⟨rfl, hbody⟩
    simp only [hmark, hsplit, (hf f rfl).percentEncode_eq]
    exact queryTail_text hquery hq (some f)

-- ---------------------------------------------------------------------------
-- Normal forms
-- ---------------------------------------------------------------------------

/-- A server's URL all of whose parts are read as they stand, if only it has a host. -/
structure IsNormal (u : Url) : Prop extends IsReadable u, HasEncodedTail u

/-- Name, password and port stand beside a host. -/
def IsAddressed (u : Url) : Prop :=
  u.host = none → u.username = "" ∧ u.password = none ∧ u.port = none

variable {u v : Url}

theorem IsReadable.authorityOf_addressed (hu : IsReadable u) (ha : u.IsAddressed) :
    Url.authorityOf u.scheme u.authorityText.toList =
      .ok { scheme := u.scheme, hasAuthority := true, username := u.username,
            password := u.password, host := u.host, port := u.port } := by
  cases hh : u.host with
  | some host => rw [hu.authorityOf (by simp [hh]), hh]
  | none =>
    obtain ⟨hname, hpassword, hport⟩ := ha hh
    have htext : u.authorityText = "" := by
      simp [authorityText, userinfoText, hostText, portText, hh, hname, hpassword, hport]
    rw [htext, hname, hpassword, hport]
    rcases mem_serverSchemes.mp hu.scheme with h | h | h <;> rw [h] <;> rfl

theorem IsReadable.authorityOf_refused (hu : IsReadable u) (ha : ¬u.IsAddressed) :
    Url.authorityOf u.scheme u.authorityText.toList = .error .emptyHost := by
  obtain ⟨hh, hset⟩ := Classical.not_imp.mp ha
  have htext : u.hostText = "" := by simp [hostText, hh]
  have hparse : Host.parsePlain [] = .ok (.domain "") := rfl
  obtain ⟨userinfo, hcred, heq⟩ := hu.authorityOf_eq
  rw [heq, htext, String.empty_append, serverOf, Host.splitHost_port (head?_portText u), hcred]
  simp only [hparse, portOf_portText hu, Except.bind]
  cases hport : u.port with
  | some n => simp [portText, hport]
  | none =>
    have hcredentials : u.username = "" → u.password ≠ none :=
      fun hname hp => hset ⟨hname, hp, hport⟩
    simpa [portText, hport] using hcredentials

-- ---------------------------------------------------------------------------
-- Reading back
-- ---------------------------------------------------------------------------

theorem isVisible_of_isPlain {c : Char} (h : isPlain c) : isVisible c := by
  have hlow : ¬c.toNat ≤ 0x20 := fun hle => by simp [not_isPlain (.inl hle)] at h
  simp only [isVisible, Bool.and_eq_true, decide_eq_true_eq]
  exact ⟨by omega, lt_of_isPlain h⟩

theorem isVisible_host {h : Host} (hh : h.IsReadBack) : ∀ c ∈ h.text.toList, isVisible c := by
  have hparse := hh.parse
  unfold Host.parsePlain at hparse
  split at hparse
  · rename_i hb
    obtain ⟨ns, rfl, -⟩ := Host.isAddress_of_bracketed (hparse ▸ hb)
    have hdigits : ∀ d < 16, isVisible d.digitChar := by decide
    intro c hc
    have hc : c = '[' ∨ c ∈ (Host.ipv6Text ns).toList ∨ c = ']' := by
      simpa [Host.text, or_assoc] using hc
    rcases hc with rfl | hc | rfl
    · decide
    · rcases Host.mem_ipv6Text hc with rfl | ⟨d, hd, rfl⟩
      · decide
      · exact hdigits d hd
    · decide
  · split at hparse
    · cases hparse
    · have htext := congrArg Host.text (Except.ok.inj hparse)
      intro c hc
      have hedge := (hh.chars c hc).1
      rw [← htext, Host.text, String.toList_ofList] at hc
      rcases mem_percentEncode hc with hplain | ⟨-, -, hlt⟩
      · exact isVisible_of_isPlain hplain
      · simp only [isEdge, decide_eq_false_iff_not, Nat.not_le] at hedge
        simp [isVisible, hedge, hlt]

theorem isVisible_authorityText (hu : IsReadable u) :
    ∀ c ∈ u.authorityText.toList, isVisible c := by
  intro c hc
  simp only [authorityText, String.toList_append, List.mem_append] at hc
  rcases hc with hc | hc | hc
  · have hmarks : ∀ c ∈ [':', '@'], isVisible c := by decide
    rcases mem_userinfoText hu hc with hplain | hmark
    · exact isVisible_of_isPlain hplain
    · exact hmarks c hmark
  · unfold hostText at hc
    cases hhost : u.host with
    | none => simp [hhost] at hc
    | some host =>
      rw [hhost] at hc
      exact isVisible_host (hu.host host hhost).1 c hc
  · have hdigits : ∀ d < 10, isVisible d.digitChar := by decide
    rcases mem_portText hc with rfl | ⟨d, hd, rfl⟩
    · decide
    · exact hdigits d hd

theorem isVisible_afterMark {mark : String} (hmark : ∀ c ∈ mark.toList, isVisible c)
    {part : Option String} {inSet : Char → Bool} (hset : IsPartSet inSet)
    (h : ∀ q, part = some q → IsEncoded inSet q) : ∀ c ∈ (afterMark mark part).toList, isVisible c := by
  intro c hc
  cases part with
  | none => simp [afterMark] at hc
  | some q =>
    rcases List.mem_append.mp (String.toList_append ▸ hc) with hc | hc
    · exact hmark c hc
    · exact (h q rfl).visible hset c hc

theorem isVisible_afterAuthority (hu : IsNormal u) :
    ∀ c ∈ u.afterAuthority.toList, isVisible c := by
  obtain ⟨segments, hpath⟩ := hu.path
  intro c hc
  rw [afterAuthority, pathText_of_authority hu.authority, hpath, String.toList_append,
    String.toList_append, List.mem_append, List.mem_append] at hc
  rcases hc with (hc | hc) | hc
  · rw [toList_render_rooted] at hc
    obtain ⟨s, hs, hc⟩ := List.mem_flatMap.mp hc
    rcases List.mem_cons.mp hc with rfl | hc
    · decide
    · exact (hu.segments segments hpath s hs).encoded.visible isPartSet_path c hc
  · exact isVisible_afterMark (by decide) isPartSet_query hu.query c hc
  · exact isVisible_afterMark (by decide) isPartSet_fragment hu.fragment c hc

theorem IsNormal.visible_render (hu : IsNormal u) : ∀ c ∈ u.render.toList, isVisible c := by
  have hscheme : ∀ scheme ∈ serverSchemes, ∀ c ∈ scheme.toList, isVisible c := by decide
  intro c hc
  rw [toList_render hu.toIsReadable] at hc
  simp only [List.mem_append, List.mem_cons] at hc
  rcases hc with hc | rfl | rfl | rfl | hc | hc
  · exact hscheme u.scheme hu.scheme c hc
  · decide
  · decide
  · decide
  · exact isVisible_authorityText hu.toIsReadable c hc
  · exact isVisible_afterAuthority hu c hc

theorem tailOf_afterAuthority (hu : IsNormal u) : tailOf false u.afterAuthority.toList =
    ⟨u.path.render.toList, u.query, u.fragment⟩ := by
  obtain ⟨segments, hpath⟩ := hu.path
  have hsegments := hu.segments segments hpath
  have hno {c : Char} (hslash : c ≠ '/') (hset : inPathSet c) : c ∉ u.path.render.toList := by
    rw [hpath, toList_render_rooted]
    intro hc
    obtain ⟨s, hs, hc⟩ := List.mem_flatMap.mp hc
    rcases List.mem_cons.mp hc with rfl | hc
    · exact hslash rfl
    · exact (hsegments s hs).encoded.not_mem hset hc
  rw [afterAuthority, pathText_of_authority hu.authority, String.toList_append,
    String.toList_append]
  exact tailOf_text (hno (by decide) (by decide)) (hno (by decide) (by decide)) hu.query
    hu.fragment

/-- Path, query and fragment are read back whatever becomes of the authority. -/
theorem IsNormal.parse_render (hu : IsNormal u) : parse u.render =
    (Url.authorityOf u.scheme u.authorityText.toList).map fun v =>
      { v with path := u.path, query := u.query, fragment := u.fragment } := by
  obtain ⟨segments, hpath⟩ := hu.path
  have hvisible : ∀ c ∈ u.authorityText.toList ++ u.afterAuthority.toList, isEdge c = false := by
    intro c hc
    have hc := hu.visible_render c (by simp [toList_render hu.toIsReadable, List.mem_append.mp hc])
    simp only [isVisible, Bool.and_eq_true, decide_eq_true_eq] at hc
    simpa [isEdge] using hc.1
  have hends := Lists.rdropWhile_append_of_forall hvisible []
  rw [List.append_nil, List.rdropWhile_nil, List.append_nil] at hends
  have hkept : (u.authorityText.toList ++ u.afterAuthority.toList).filter (!isDropped ·) =
      u.authorityText.toList ++ u.afterAuthority.toList :=
    List.filter_eq_self.mpr fun c hc => by simp [not_isDropped (hvisible c hc)]
  have hclean := cleaned_of_server hu.scheme (toList_render hu.toIsReadable)
  rw [hends, hkept] at hclean
  rw [parse_of_cleaned hu.scheme hclean, afterSlashes_append
    (isSpecialScheme_server u.scheme hu.scheme) (staysInside_authorityText hu.toIsReadable)
    (head?_afterAuthority hu.toIsReadable), tailOf_afterAuthority hu, hpath,
    pathOf_render (hu.segments segments hpath)]

theorem IsNormal.parse_render_addressed (hu : IsNormal u) (ha : u.IsAddressed) :
    parse u.render = .ok u := by
  have hauthority : u.hasAuthority = true := hu.authority
  rw [hu.parse_render, hu.authorityOf_addressed ha, Except.map, ← hauthority]

theorem IsNormal.parse_render_refused (hu : IsNormal u) (ha : ¬u.IsAddressed) :
    parse u.render = .error .emptyHost := by
  rw [hu.parse_render, hu.authorityOf_refused ha]
  rfl

-- ---------------------------------------------------------------------------
-- What is read
-- ---------------------------------------------------------------------------

theorem userinfoOf_spec (s : List Char) : (userinfoOf s).1.toList.all isPlain ∧
    ∀ p, (userinfoOf s).2 = some p → IsSecret p := by
  have hencode (part : List Char) : (encode part).toList.all isPlain := by
    simpa [encode] using percentEncode_all part
  unfold userinfoOf
  simp only
  split
  · exact ⟨hencode _, by simp⟩
  · rename_i name password hne hsplit
    refine ⟨hencode _, fun p hp => ?_⟩
    obtain rfl := Option.some.inj hp
    exact isSecret_encode (by rintro rfl; exact hne rfl)
  · exact ⟨hencode _, by simp⟩

theorem lt_of_portOf {scheme : String} {s : List Char} {n : Nat}
    (h : portOf scheme s = .ok (some n)) : n < 0x10000 := by
  unfold portOf at h
  split at h
  · cases h
  · split at h
    · cases h
    · simp only at h
      split at h
      · cases h
      · split at h
        · cases h
        · cases h
          omega

theorem serverOf_eq_ok {scheme : String} {userinfo hostPort hostChars portChars : List Char}
    {username : String} {password : Option String}
    (hsplit : splitHost false hostPort = (hostChars, portChars))
    (hcred : userinfoOf userinfo = (username, password))
    (h : serverOf scheme userinfo hostPort = .ok u) :
    ∃ host port, Host.parsePlain hostChars = .ok host ∧
      portOf scheme (portChars.drop 1) = .ok port ∧
      (host = .domain "" → portChars = [] ∧ username = "" ∧ password = none) ∧
      u = { scheme := scheme, hasAuthority := true, username := username, password := password,
            host := if host = .domain "" then none else some host, port := port } := by
  rw [serverOf, hsplit, hcred] at h
  obtain ⟨host, hparse, h⟩ := bind_eq_ok.mp h
  split at h
  · cases h
  · rename_i hport
    obtain ⟨port, hread, h⟩ := bind_eq_ok.mp h
    dsimp only at h
    split at h
    · cases h
    · rename_i hcredentials
      refine ⟨host, port, hparse, hread, fun hdomain => ⟨?_, ?_⟩, (Except.ok.inj h).symm⟩
      · simpa [hdomain] using hport
      · simpa [hdomain] using hcredentials

theorem isNormal_of_serverOf {scheme : String} (hs : scheme ∈ serverSchemes)
    {userinfo hostPort : List Char} (h : serverOf scheme userinfo hostPort = .ok u) :
    IsNormal u ∧ u.IsAddressed ∧ u.scheme = scheme := by
  obtain ⟨hname, hpassword⟩ := userinfoOf_spec userinfo
  obtain ⟨host, port, hparse, hread, hempty, rfl⟩ := serverOf_eq_ok rfl rfl h
  refine ⟨{
    scheme := hs
    authority := rfl
    username := hname
    password := hpassword
    host := ?_
    port := ?_
    path := ⟨[], rfl⟩
    segments := ?_
    query := by simp
    fragment := by simp }, ?_, rfl⟩
  · intro found hfound
    obtain ⟨hdomain, hfound⟩ := Option.ite_none_left_eq_some.mp hfound
    obtain rfl := Option.some.inj hfound
    exact ⟨Host.isReadBack_of_parsePlain hparse, hdomain⟩
  · rintro n rfl
    exact lt_of_portOf hread
  · intro segments hsegments
    cases hsegments
    simp
  · intro hhost
    obtain ⟨hchars, hnoname, hnone⟩ := hempty (by simpa using hhost)
    rw [hchars] at hread
    exact ⟨hnoname, hnone, (Except.ok.inj hread).symm⟩

theorem isNormal_of_authorityOf {scheme : String} (hs : scheme ∈ serverSchemes) {s : List Char}
    (h : Url.authorityOf scheme s = .ok u) : IsNormal u ∧ u.IsAddressed ∧ u.scheme = scheme := by
  have hplain := isSpecialScheme_server scheme hs
  cases hlast : splitLast '@' s with
  | none =>
    rw [authorityOf_no_split hplain hlast] at h
    exact isNormal_of_serverOf hs h
  | some parts =>
    rw [authorityOf_split hplain hlast] at h
    split at h
    · cases h
    · exact isNormal_of_serverOf hs h

theorem IsNormal.withTail (hu : IsNormal u) (s : List Char) :
    IsNormal { u with path := pathOf false (tailOf false s).path, query := (tailOf false s).query,
                      fragment := (tailOf false s).fragment } := by
  obtain ⟨segments, hpath, hsegments⟩ := isSegment_pathOf (tailOf false s).path
  exact {
    hu with
    path := ⟨segments, hpath⟩
    segments := fun found hfound => Path.rooted.inj (hpath.symm.trans hfound) ▸ hsegments
    query := (tailOf_encoded s).1
    fragment := (tailOf_encoded s).2 }

theorem isNormal_of_afterSlashes {scheme : String} (hs : scheme ∈ serverSchemes) {s : List Char}
    (h : afterSlashes scheme s = .ok u) : IsNormal u ∧ u.IsAddressed ∧ u.scheme = scheme := by
  rw [afterSlashes, isSpecialScheme_server scheme hs] at h
  obtain ⟨v, hread, h⟩ := bind_eq_ok.mp h
  cases h
  obtain ⟨hv, ha, rfl⟩ := isNormal_of_authorityOf hs hread
  exact ⟨hv.withTail _, ha, rfl⟩

theorem isNormal_of_parse {scheme text : String} (hs : scheme ∈ serverSchemes) {rest : List Char}
    (ht : text.toList = scheme.toList ++ ':' :: '/' :: '/' :: rest) (h : parse text = .ok u) :
    IsNormal u ∧ u.IsAddressed ∧ u.scheme = scheme := by
  rw [parse_of_cleaned hs (cleaned_of_server hs ht)] at h
  exact isNormal_of_afterSlashes hs h

-- ---------------------------------------------------------------------------
-- Setting parts
-- ---------------------------------------------------------------------------

theorem IsReadable.isFor (hu : IsReadable u) :
    IsFor u.scheme u.username (u.password.getD "") u where
  toIsReadable := hu
  ofSystem := rfl
  ofName := (encode_of_plain hu.username).symm
  ofSecret := by
    cases hp : u.password with
    | none => rfl
    | some p => exact (encode_of_plain (hu.password p hp).plain).symm

theorem isPlain_encodeOctet {n : Nat} (hn : n < 0x100) : ∀ c ∈ Form.encodeOctet n, isPlain c := by
  have hkept : ∀ n < 0x100, Form.keepsInForm n → isPlain (Char.ofNat n) := by decide +kernel
  unfold Form.encodeOctet
  split
  · decide
  · split
    · rename_i hkeeps
      simpa using hkept n hn hkeeps
    · exact List.all_eq_true.mp (percentOctet_all hn)

theorem isEncoded_encode (s : String) : IsEncoded inQuerySet (String.ofList (Form.encode s)) := by
  refine isEncoded_of_plain isPartSet_query fun c hc => ?_
  rw [String.toList_ofList, Form.encode, Text.Utf8.encode] at hc
  obtain ⟨n, hn, hc⟩ := List.mem_flatMap.mp hc
  obtain ⟨d, -, hn⟩ := List.mem_flatMap.mp hn
  exact isPlain_encodeOctet (encodeChar_lt hn) c hc

theorem isEncoded_encodePair (name value : String) :
    IsEncoded inQuerySet (String.ofList (Form.encodePair name value)) := by
  have hequals : IsEncoded inQuerySet "=" := by decide
  have hparts : String.ofList (Form.encodePair name value) =
      String.ofList (Form.encode name) ++ "=" ++ String.ofList (Form.encode value) := by
    rw [← String.toList_inj]
    simp [Form.encodePair]
  rw [hparts]
  exact ((isEncoded_encode name).append hequals).append (isEncoded_encode value)

theorem HasEncodedTail.congr (h : HasEncodedTail u) (hpath : v.path = u.path)
    (hquery : v.query = u.query) (hfragment : v.fragment = u.fragment) : HasEncodedTail v :=
  ⟨hpath ▸ h.segments, hquery ▸ h.query, hfragment ▸ h.fragment⟩

namespace HasEncodedTail

theorem setUsername? (h : HasEncodedTail u) {name : String} (hv : u.setUsername? name = some v) :
    HasEncodedTail v := by
  obtain ⟨-, hv⟩ := Option.ite_none_right_eq_some.mp hv
  exact Option.some.inj hv ▸ h.congr rfl rfl rfl

theorem setPassword? (h : HasEncodedTail u) {new : String} (hv : u.setPassword? new = some v) :
    HasEncodedTail v := by
  obtain ⟨-, hv⟩ := Option.ite_none_right_eq_some.mp hv
  exact Option.some.inj hv ▸ h.congr rfl rfl rfl

theorem setPort? (h : HasEncodedTail u) {port : Option Nat} (hv : u.setPort? port = some v) :
    HasEncodedTail v := by
  obtain ⟨-, hv⟩ := Option.ite_none_right_eq_some.mp hv
  exact Option.some.inj hv ▸ h.congr rfl rfl rfl

theorem setPlainHost? (h : HasEncodedTail u) {name : String}
    (hv : u.setPlainHost? name = some v) : HasEncodedTail v := by
  obtain ⟨found, hfound⟩ := exists_setPlainHost? name
  rw [hfound] at hv
  obtain ⟨host, -, rfl⟩ := Option.map_eq_some_iff.mp hv
  exact h.congr rfl rfl rfl

theorem setPath (hs : u.scheme ∈ serverSchemes) (h : HasEncodedTail u) (text : String) :
    HasEncodedTail (u.setPath text) := by
  have hplain : u.isSpecial = false := isSpecialScheme_server u.scheme hs
  unfold Url.setPath
  simp only [hplain]
  split
  · exact ⟨by simp, h.query, h.fragment⟩
  · obtain ⟨segments, hpath, hsegments⟩ :=
      isSegment_pathOf (text.toList.filter fun c => !isDropped c)
    exact ⟨fun found hfound => Path.rooted.inj (hpath.symm.trans hfound) ▸ hsegments, h.query,
      h.fragment⟩

theorem appendPair (h : HasEncodedTail u) (name value : String) :
    HasEncodedTail (u.appendPair name value) := by
  have hpair := isEncoded_encodePair name value
  have hmark : IsEncoded inQuerySet "&" := by decide
  refine ⟨h.segments, fun q hq => ?_, h.fragment⟩
  obtain rfl := Option.some.inj hq
  split
  · exact hpair
  · exact hpair
  · rename_i given _ hgiven
    exact ((h.query given hgiven).append hmark).append hpair

end HasEncodedTail

/-- The URL of a system in normal form, with a host. -/
structure IsComplete (system : String) (u : Url) : Prop extends IsNormal u where
  ofSystem : u.scheme = system
  named : u.host.isSome

namespace IsComplete

variable {system : String}

theorem isAddressed (h : IsComplete system u) : u.IsAddressed := by
  intro hnone
  simpa [hnone] using h.named

theorem setUsername? (h : IsComplete system u) {name : String}
    (hv : u.setUsername? name = some v) : IsComplete system v := by
  obtain ⟨hfor, hhost, -⟩ := h.isFor.setUsername? hv
  exact ⟨⟨hfor.toIsReadable, h.toHasEncodedTail.setUsername? hv⟩, hfor.ofSystem.trans h.ofSystem,
    hhost ▸ h.named⟩

theorem setPassword? (h : IsComplete system u) {new : String}
    (hv : u.setPassword? new = some v) : IsComplete system v := by
  obtain ⟨hfor, hhost, -⟩ := h.isFor.setPassword? hv
  exact ⟨⟨hfor.toIsReadable, h.toHasEncodedTail.setPassword? hv⟩, hfor.ofSystem.trans h.ofSystem,
    hhost ▸ h.named⟩

theorem setPort? (h : IsComplete system u) {port : Option Nat}
    (hp : ∀ n, port = some n → n < 0x10000) (hv : u.setPort? port = some v) :
    IsComplete system v := by
  have htail := h.toHasEncodedTail.setPort? hv
  obtain ⟨-, hv⟩ := Option.ite_none_right_eq_some.mp hv
  obtain rfl := Option.some.inj hv
  refine ⟨⟨{ h.toIsReadable with port := fun n hn => ?_ }, htail⟩, h.ofSystem, h.named⟩
  exact hp n (Option.ite_none_left_eq_some.mp hn).2

theorem setPlainHost? (h : IsComplete system u) {name : String} (hname : name ≠ "")
    (hv : u.setPlainHost? name = some v) : IsComplete system v := by
  obtain ⟨hfor, -, hhost⟩ := h.isFor.setPlainHost? hv
  exact ⟨⟨hfor.toIsReadable, h.toHasEncodedTail.setPlainHost? hv⟩,
    hfor.ofSystem.trans h.ofSystem, hhost hname⟩

theorem setPath (h : IsComplete system u) (text : String) :
    IsComplete system (u.setPath text) := by
  obtain ⟨hfor, hhost, -⟩ := h.isFor.setPath text
  exact ⟨⟨hfor.toIsReadable, .setPath h.scheme h.toHasEncodedTail text⟩,
    hfor.ofSystem.trans h.ofSystem, hhost ▸ h.named⟩

theorem appendPair (h : IsComplete system u) (name value : String) :
    IsComplete system (u.appendPair name value) :=
  ⟨⟨(h.isFor.appendPair name value).1.toIsReadable, h.toHasEncodedTail.appendPair name value⟩,
    h.ofSystem, h.named⟩

end IsComplete

end ChannelKeeper.Url
