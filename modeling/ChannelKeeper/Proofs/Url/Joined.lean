import ChannelKeeper.Proofs.Url.Paths

/-!
# Text after the URL of a web server

What is written after a URL of the web, behind a slash, is read after its path: the URL keeps
its server, and its path goes on with the segments of the text. Nothing is said of URLs with a
query or a fragment of their own, nor of those at whose end blanks are dropped.
-/

namespace ChannelKeeper.Url

open Text.Chars (splitOnce splitLast splitOnce_eq_some splitOnce_eq_none)

-- ---------------------------------------------------------------------------
-- Servers
-- ---------------------------------------------------------------------------

namespace Host

theorem ne_empty_of_parseDomain {s : List Char} {host : Host} (h : parseDomain s = .ok host) :
    host ≠ .domain "" := by
  unfold parseDomain at h
  split at h
  · rename_i hb
    obtain ⟨ns, rfl, -⟩ := isAddress_of_bracketed (h ▸ hb)
    simp
  · split at h
    · cases h
    · rename_i decoded _
      generalize toAscii decoded.toList = name at h
      simp only at h
      split_ifs at h with hany hempty hnumber
      · unfold parseIpv4 at h
        simp only at h
        split_ifs at h
        all_goals
          split at h
          · cases h
          · split_ifs at h
            cases h
            simp
      · cases h
        simpa using hempty

end Host

/-- The schemes of web servers. -/
def webSchemes : List String := ["http", "https"]

theorem isSpecialScheme_web : ∀ scheme ∈ webSchemes, isSpecialScheme scheme = true := by decide

variable {scheme : String} {u v : Url}

theorem of_ite_error {α : Type} {c : Prop} [Decidable c] {fault : Fault} {x : Except Fault α} {a : α}
    (h : (if c then .error fault else x) = .ok a) : x = .ok a := by
  split at h
  · cases h
  · exact h

theorem authorityOf_spec {s : List Char} (h : authorityOf scheme s = .ok v) :
    v.scheme = scheme ∧ v.hasAuthority = true ∧ (isSpecialScheme scheme → v.host.isSome) := by
  cases hlast : splitLast '@' s
  all_goals
    simp only [authorityOf, hlast, bind, Except.bind, pure, Except.pure, throw, throwThe,
      MonadExceptOf.throw] at h
    replace h := of_ite_error (of_ite_error h)
    split at h
    all_goals
      rename_i hspecial
      split at h
      · cases h
      · rename_i host hparse
        replace h := of_ite_error h
        split at h
        · cases h
        · cases of_ite_error h
          refine ⟨rfl, rfl, fun hweb => ?_⟩
          first
          | exact absurd hweb hspecial
          | simp [Host.ne_empty_of_parseDomain hparse]

theorem afterSlashes_spec {s : List Char} (h : afterSlashes scheme s = .ok u) :
    u.scheme = scheme ∧ u.hasAuthority = true ∧ (isSpecialScheme scheme → u.host.isSome) := by
  unfold afterSlashes at h
  obtain ⟨v, hread, h⟩ := bind_eq_ok.mp h
  cases h
  obtain ⟨hscheme, hauthority, hhost⟩ := authorityOf_spec hread
  exact ⟨hscheme, hauthority, hhost⟩

theorem scheme_of_fileUrl {s : List Char} (h : fileUrl s = .ok u) : u.scheme = "file" := by
  unfold fileUrl at h
  extract_lets hasHost rest hostChars jp at h
  split at h
  · cases h
    rfl
  · obtain ⟨host, -, h⟩ := bind_eq_ok.mp h
    cases h
    rfl

theorem afterSlashes_of_parse {text : String} (hs : u.scheme ∈ webSchemes) (h : parse text = .ok u) :
    ∃ rest, schemeOf (cleaned text) = some (u.scheme, rest) ∧
      afterSlashes u.scheme (rest.dropWhile isSlash) = .ok u := by
  have hweb : isSpecialScheme u.scheme := isSpecialScheme_web u.scheme hs
  unfold parse at h
  split at h
  · cases h
  · rw [scheme_of_fileUrl h] at hs
    exact absurd hs (by decide)
  · rename_i scheme rest _ hscheme
    split at h
    · obtain ⟨rfl, -⟩ := afterSlashes_spec h
      exact ⟨rest, hscheme, h⟩
    · rename_i hplain
      split at h
      · obtain ⟨rfl, -⟩ := afterSlashes_spec h
        exact absurd hweb hplain
      · cases h
        exact absurd hweb hplain

theorem server_of_parse {text : String} (hs : u.scheme ∈ webSchemes) (h : parse text = .ok u) :
    u.hasAuthority = true ∧ u.host.isSome := by
  obtain ⟨rest, -, hafter⟩ := afterSlashes_of_parse hs h
  obtain ⟨-, hauthority, hhost⟩ := afterSlashes_spec hafter
  exact ⟨hauthority, hhost (isSpecialScheme_web _ hs)⟩

theorem parse_of_schemeOf {text : String} (hs : scheme ∈ webSchemes) {rest : List Char}
    (h : schemeOf (cleaned text) = some (scheme, rest)) :
    parse text = afterSlashes scheme (rest.dropWhile isSlash) := by
  rw [parse, h]
  rcases List.mem_pair.mp hs with rfl | rfl <;> rfl

-- ---------------------------------------------------------------------------
-- Ends
-- ---------------------------------------------------------------------------

/-- Nothing is dropped at the end of a text but what is dropped anywhere. -/
def KeepsEnd (s : List Char) : Prop := ∀ c ∈ s.rtakeWhile isEdge, isDropped c

instance (s : List Char) : Decidable (KeepsEnd s) :=
  inferInstanceAs (Decidable (∀ c ∈ s.rtakeWhile isEdge, isDropped c))

theorem keepsEnd_append_cons {c : Char} (hc : isEdge c = false) (s t : List Char) :
    KeepsEnd (s ++ c :: t) ↔ KeepsEnd t := by
  rw [KeepsEnd, KeepsEnd, Lists.rtakeWhile_append_cons hc]

theorem cleaned_of_keepsEnd {text : String} {a b : List Char} {c : Char}
    (h : text.toList = a ++ c :: b) (hc : isEdge c = false) (hb : KeepsEnd b) :
    cleaned text = (a.dropWhile isEdge).filter (!isDropped ·) ++ c :: b.filter (!isDropped ·) := by
  rw [cleaned_eq h hc, Lists.filter_rdropWhile fun d hd => by simp [hb d hd]]

theorem filter_slashes (n : Nat) :
    (List.replicate n '/').filter (!isDropped ·) = List.replicate n '/' := by
  refine List.filter_eq_self.mpr fun c hc => ?_
  rw [List.eq_of_mem_replicate hc]
  decide

theorem mem_of_mem_cleaned {text : String} {c : Char} (h : c ∈ cleaned text) : c ∈ text.toList := by
  unfold cleaned at h
  simp only at h
  replace h := List.mem_of_mem_filter h
  rw [List.mem_reverse] at h
  replace h := (List.dropWhile_sublist _).mem h
  rw [List.mem_reverse] at h
  exact (List.dropWhile_sublist _).mem h

theorem colon_mem_of_schemeOf {s : List Char} {found : String × List Char}
    (h : schemeOf s = some found) : ':' ∈ s := by
  by_contra hcolon
  rw [← splitOnce_eq_none] at hcolon
  unfold schemeOf at h
  split at h
  · cases h
  · rw [hcolon] at h
    cases h

-- ---------------------------------------------------------------------------
-- Joined texts
-- ---------------------------------------------------------------------------

/-- A URL with more after its open path: what follows decides on the query and the fragment. -/
def joined (u : Url) (segments : List String) (more : List Char) : Url :=
  { u with path := .rooted (resolveDots segments.reverse (piecesOf (tailOf true more).path)),
           query := (tailOf true more).query, fragment := (tailOf true more).fragment }

/-- The authority ends where the text after it begins, whatever that is. -/
theorem exists_afterSlashes (hs : scheme ∈ webSchemes) (s : List Char) :
    ∃ authority path, path.head?.all (endsAuthority true) ∧
      ∀ more : List Char, more.head?.all (endsAuthority true) →
        afterSlashes scheme (s ++ more) = (authorityOf scheme authority).map fun v =>
          { v with path := pathOf true (tailOf true (path ++ more)).path,
                   query := (tailOf true (path ++ more)).query,
                   fragment := (tailOf true (path ++ more)).fragment } := by
  let inside (c : Char) : Bool := !endsAuthority true c
  refine ⟨s.takeWhile inside, s.dropWhile inside, ?_, fun more hmore => ?_⟩
  · have hhead := List.head?_dropWhile_not inside s
    cases hpath : s.dropWhile inside with
    | nil => rfl
    | cons c rest => simpa [hpath, inside] using hhead
  · have hparts : (s ++ more).takeWhile inside = s.takeWhile inside ∧
        (s ++ more).dropWhile inside = s.dropWhile inside ++ more := by
      cases more with
      | nil => simp
      | cons c rest =>
        have hc : inside c = false := by simpa [inside] using hmore
        exact ⟨Lists.takeWhile_append_cons hc s rest, Lists.dropWhile_append_cons hc s rest⟩
    rw [afterSlashes, isSpecialScheme_web scheme hs, hparts.1, hparts.2]
    cases authorityOf scheme (s.takeWhile inside) <;> rfl

theorem afterSlashes_nil (hs : scheme ∈ webSchemes) : afterSlashes scheme [] = .error .emptyHost := by
  rcases List.mem_pair.mp hs with rfl | rfl <;> rfl

variable {base : String} {front : List Char} {n : Nat}

theorem exists_parse_append (hbase : base.toList = front ++ List.replicate n '/')
    (hend : KeepsEnd base.toList) (hread : parse base = .ok u) (hs : u.scheme ∈ webSchemes) :
    ∃ s, ∀ (text : String) (more : List Char), text.toList = front ++ more →
      KeepsEnd text.toList →
      parse text = afterSlashes u.scheme (s ++ more.filter (!isDropped ·)) := by
  obtain ⟨rest, hscheme, hafter⟩ := afterSlashes_of_parse hs hread
  -- the front holds the scheme with its colon
  have hcolon : ':' ∈ front := by
    have hmem := mem_of_mem_cleaned (colon_mem_of_schemeOf hscheme)
    rw [hbase, List.mem_append] at hmem
    exact hmem.resolve_right fun h => absurd (List.eq_of_mem_replicate h) (by decide)
  obtain ⟨⟨name, after⟩, hsplit⟩ := Option.ne_none_iff_exists'.mp
    (mt splitOnce_eq_none.mp (not_not.mpr hcolon))
  obtain ⟨rfl, hname⟩ := splitOnce_eq_some.mp hsplit
  let start := (name.dropWhile isEdge).filter (!isDropped ·)
  let kept := after.filter (!isDropped ·)
  have hstart : ':' ∉ start := fun h =>
    hname ((List.dropWhile_sublist _).mem (List.mem_of_mem_filter h))
  have hclean {text : String} {more : List Char}
      (htext : text.toList = (name ++ ':' :: after) ++ more) (hkeeps : KeepsEnd text.toList) :
      cleaned text = start ++ ':' :: (kept ++ more.filter (!isDropped ·)) := by
    rw [List.append_assoc, List.cons_append] at htext
    rw [htext, keepsEnd_append_cons (by decide)] at hkeeps
    rw [cleaned_of_keepsEnd htext (by decide) hkeeps, List.filter_append]
  rw [hclean hbase hend, filter_slashes, schemeOf_append hstart, Option.map_eq_some_iff] at hscheme
  obtain ⟨⟨scheme, _⟩, hname, heq⟩ := hscheme
  obtain ⟨rfl, rfl⟩ := Prod.mk.inj heq
  -- what is left after the slashes is not nothing, as that is no authority
  have hne : kept.dropWhile isSlash ≠ [] := by
    intro hnil
    have hall : (kept ++ List.replicate n '/').dropWhile isSlash = [] := by
      rw [List.dropWhile_append, hnil]
      simp [isSlash]
    rw [hall, afterSlashes_nil hs] at hafter
    cases hafter
  refine ⟨kept.dropWhile isSlash, fun text more htext hkeeps => ?_⟩
  have hfound : schemeOf (cleaned text) = some (u.scheme, kept ++ more.filter (!isDropped ·)) := by
    rw [hclean htext hkeeps, schemeOf_append hstart, hname]
    rfl
  rw [parse_of_schemeOf hs hfound, List.dropWhile_append, if_neg (by simpa using hne)]

/-- What is written after a URL of the web without query and fragment is read after its path. -/
theorem exists_joined (hbase : base.toList = front ++ List.replicate n '/')
    (hend : KeepsEnd base.toList) (hread : parse base = .ok u) (hs : u.scheme ∈ webSchemes)
    (hquery : u.query = none) (hfragment : u.fragment = none) :
    ∃ segments : List String,
      (∃ k, u.path = .rooted (segments ++ List.replicate k "")) ∧
      ∀ (text : String) (more : List Char), text.toList = front ++ '/' :: more → KeepsEnd more →
        parse text = .ok (u.joined segments (more.filter (!isDropped ·))) := by
  obtain ⟨s, hparse⟩ := exists_parse_append hbase hend hread hs
  obtain ⟨authority, path, hpath, hafter⟩ := exists_afterSlashes hs s
  have hopens : (List.replicate n '/').head?.all (endsAuthority true) := by
    cases n <;> simp [endsAuthority, List.replicate_succ]
  have hself := hparse base _ hbase hend
  rw [hread, filter_slashes, hafter _ hopens] at hself
  obtain ⟨v, hauthority, hu⟩ := map_eq_ok.mp hself.symm
  obtain ⟨hmark, hhash⟩ := not_mem_of_tailOf (s := path ++ List.replicate n '/')
    (by rw [← hu] at hquery; exact hquery) (by rw [← hu] at hfragment; exact hfragment)
  rw [tailOf_path hmark hhash] at hu
  replace hmark : '?' ∉ path := fun h => hmark (List.mem_append_left _ h)
  replace hhash : '#' ∉ path := fun h => hhash (List.mem_append_left _ h)
  have hslash : path.head?.all isSlash := by
    cases path with
    | nil => rfl
    | cons c rest =>
      simp only [List.mem_cons, not_or] at hmark hhash
      simpa [endsAuthority, isSlash, Ne.symm hmark.1, Ne.symm hhash.1] using hpath
  obtain ⟨k, hk⟩ := exists_pathOf_slashes hslash n
  refine ⟨openSegments path, ⟨k, ?_⟩, fun text more htext hmore => ?_⟩
  · rw [← hu]
    exact hk
  · have hkeeps : KeepsEnd text.toList := by
      rw [htext, keepsEnd_append_cons (by decide)]
      exact hmore
    have hrest := tailOf_append (s := path ++ ['/']) (by simp [hmark]) (by simp [hhash])
      (more.filter (!isDropped ·))
    rw [List.append_assoc, List.singleton_append] at hrest
    rw [hparse text _ htext hkeeps, List.filter_cons_of_pos (by decide), hafter _ (by rfl), hrest,
      hauthority, ← hu, Except.map, joined]
    simp only [List.append_assoc, List.singleton_append, pathOf_append hslash]

end ChannelKeeper.Url
