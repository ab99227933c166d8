import ChannelKeeper.Gemini.Request
import ChannelKeeper.Proofs.Url.Decoding
import ChannelKeeper.Proofs.Url.Joined

/-!
# What requests name

A request is made of its address as a text, into which the model is put as it stands, while the
key is encoded. So the key arrives whatever it is, and the model does if nothing in it ends a
segment of a path, is dropped from a URL or is an escape. Nothing is said of bases with a query
or a fragment of their own, nor of those at whose end blanks are dropped.
-/

namespace ChannelKeeper.Gemini

open Text.Chars (splitLast splitLast_eq_some)

/-- A text that is one segment of a path as it stands. -/
structure IsSegmentText (model : String) : Prop where
  chars : ∀ c ∈ model.toList, c ∉ ['/', '\\', '?', '#', '\t', '\n', '\r']
  noEscape : ¬Url.HasEscape model.toList

namespace Request

/-- A request with one pair in its query, the key, and the model after the path of a base. -/
structure Names (r : Request) (basePath key model : String) : Prop where
  query : r.url.query.map (Url.Form.parse ·.toList) = some [("key", key)]
  path : ∃ segment, r.url.pathText =
      withoutEndSlashes basePath ++ "/models/" ++ segment ++ ":generateContent" ∧
    '/' ∉ segment.toList ∧ Url.percentDecode segment.toList = Text.Utf8.encode model.toList

/-- With one slash at its end the path of a base ends in one. -/
def EndsOnce (base : String) : Prop :=
  ∀ v, Url.parse (withoutEndSlashes base ++ "/") = .ok v → ¬"//".toList <:+ v.pathText.toList

-- ---------------------------------------------------------------------------
-- Slashes at the end
-- ---------------------------------------------------------------------------

theorem toList_withoutEndSlashes (s : String) :
    (withoutEndSlashes s).toList = s.toList.rdropWhile (· == '/') := by
  rw [withoutEndSlashes, String.toList_ofList, List.rdropWhile]

theorem exists_endSlashes (s : String) :
    ∃ n, s.toList = (withoutEndSlashes s).toList ++ List.replicate n '/' := by
  refine ⟨(s.toList.rtakeWhile (· == '/')).length, ?_⟩
  have hslashes : s.toList.rtakeWhile (· == '/') =
      List.replicate (s.toList.rtakeWhile (· == '/')).length '/' :=
    List.eq_replicate_of_mem fun c hc => by simpa using List.mem_rtakeWhile_imp hc
  rw [toList_withoutEndSlashes, ← hslashes, List.rdropWhile_append_rtakeWhile]

theorem withoutEndSlashes_append {s : String} {front : List Char} {n : Nat}
    (h : s.toList = front ++ List.replicate n '/') :
    (withoutEndSlashes s).toList = front.rdropWhile (· == '/') := by
  rw [toList_withoutEndSlashes, h]
  clear h
  induction n with
  | zero => rw [List.replicate_zero, List.append_nil]
  | succ n ih =>
    rw [List.replicate_succ', ← List.append_assoc, List.rdropWhile_concat_pos _ _ _ (by simp), ih]

theorem rdropWhile_slash {s : List Char} : s.rdropWhile (· == '/') = s ↔ ¬['/'] <:+ s := by
  rw [List.rdropWhile_eq_self_iff, List.singleton_suffix_iff_getLast?_eq_some]
  constructor
  · intro h hlast
    have hne : s ≠ [] := List.ne_nil_of_mem (List.mem_of_getLast? hlast)
    rw [List.getLast?_eq_some_getLast hne, Option.some.injEq] at hlast
    exact h hne (beq_iff_eq.mpr hlast)
  · intro h hne hlast
    rw [List.getLast?_eq_some_getLast hne, beq_iff_eq.mp hlast] at h
    exact h rfl

-- ---------------------------------------------------------------------------
-- Addresses
-- ---------------------------------------------------------------------------

def collection : List Char := "models".toList

def method : List Char := ":generateContent".toList

theorem method_eq : method = ':' :: "generateContent".toList := by decide

def named (model : String) : List Char := (model.toList ++ method).filter (!Url.isDropped ·)

def pathAfter (done : List String) (model : String) : Url.Path :=
  .rooted (Url.resolveDots done (Url.piecesOf (Url.tailOf true (named model)).path))

variable {base : String} {u : Url}

theorem toList_named (root model : String) :
    (root ++ "/models/" ++ model ++ ":generateContent").toList =
      (root.toList ++ '/' :: collection) ++ '/' :: (model.toList ++ method) := by
  -- stated of any texts, as these would be unfolded letter by letter
  have hparts (slashed last : String) (word : List Char) (h : slashed.toList = '/' :: (word ++ ['/'])) :
      (root ++ slashed ++ model ++ last).toList =
        (root.toList ++ '/' :: word) ++ '/' :: (model.toList ++ last.toList) := by
    simp [h]
  exact hparts _ _ _ (by decide)

theorem toList_address (base model : String) : (address base model).toList =
    (withoutEndSlashes base).toList ++ '/' :: (collection ++ '/' :: (model.toList ++ method)) :=
  (toList_named _ _).trans (List.append_assoc ..)

theorem joined_named (u : Url) (segments : List String) (model : String) :
    u.joined segments (collection ++ '/' :: named model) =
      { u with path := pathAfter ("models" :: segments.reverse) model
               query := (Url.tailOf true (named model)).query
               fragment := (Url.tailOf true (named model)).fragment } := by
  have htail := Url.tailOf_append (s := collection ++ ['/']) (by decide) (by decide) (named model)
  rw [List.append_assoc, List.singleton_append] at htail
  have hpieces : Url.piecesOf collection = ["models"] := by decide
  rw [Url.joined, htail]
  simp only [List.append_assoc, List.singleton_append, Url.piecesOf_append, hpieces]
  rw [Url.resolveDots_cons _ _ (Url.piecesOf_ne_nil _)]
  rfl

theorem toList_render_append (segments : List String) (n : Nat) :
    (Url.Path.render (.rooted (segments ++ List.replicate n ""))).toList =
      (Url.Path.render (.rooted segments)).toList ++ List.replicate n '/' := by
  rw [Url.toList_render_rooted, Url.toList_render_rooted, List.flatMap_append,
    List.append_cancel_left_eq]
  induction n with
  | zero => rfl
  | succ n ih =>
    rw [List.replicate_succ, List.flatMap_cons, ih]
    rfl

theorem toList_render_concat (segments : List String) (last : String) :
    (Url.Path.render (.rooted (segments ++ [last]))).toList =
      (Url.Path.render (.rooted segments)).toList ++ '/' :: last.toList := by
  simp [Url.toList_render_rooted]

theorem toList_render_pair (segments : List String) (word : String) (last : List Char) :
    (Url.Path.render (.rooted (String.ofList last :: word :: segments.reverse).reverse)).toList =
      ((Url.Path.render (.rooted segments)).toList ++ '/' :: word.toList) ++ '/' :: last := by
  rw [List.reverse_cons, List.reverse_cons, List.reverse_reverse, toList_render_concat,
    toList_render_concat, String.toList_ofList]

theorem toList_pathText_joined (segments : List String) (h : u.hasAuthority = true) :
    (u.joined segments []).pathText.toList =
      (Url.Path.render (.rooted segments)).toList ++ List.replicate 1 '/' := by
  have hauthority : (u.joined segments []).hasAuthority = true := h
  have hpath : Url.resolveDots segments.reverse [""] = segments ++ List.replicate 1 "" := by
    simp [Url.resolveDots, Url.isDoubleDot, Url.isSingleDot]
  rw [Url.pathText_of_authority hauthority, ← toList_render_append, ← hpath]
  rfl

/-- Whatever the model and the key, there is a request to the server of the base, and its path
goes on from that of the base. -/
theorem exists_request (hread : Url.parse base = .ok u) (hs : u.scheme ∈ Url.webSchemes)
    (hquery : u.query = none) (hfragment : u.fragment = none) (hend : Url.KeepsEnd base.toList)
    (call : ProbeCall) : ∃ segments r, of? base call = some r ∧
      r.url = Url.appendPair
        { u with path := pathAfter ("models" :: segments.reverse) call.model
                 query := (Url.tailOf true (named call.model)).query
                 fragment := (Url.tailOf true (named call.model)).fragment } "key" call.key ∧
      (withoutEndSlashes u.pathText).toList =
        (Url.Path.render (.rooted segments)).toList.rdropWhile (· == '/') ∧
      (EndsOnce base ↔ ¬['/'] <:+ (Url.Path.render (.rooted segments)).toList) := by
  obtain ⟨n, hbase⟩ := exists_endSlashes base
  obtain ⟨segments, ⟨k, hpath⟩, hjoined⟩ :=
    Url.exists_joined hbase hend hread hs hquery hfragment
  obtain ⟨hauthority, hhost⟩ := Url.server_of_parse hs hread
  refine ⟨segments, _, ?_, by rw [← joined_named], ?_, ?_⟩
  · have hmethod : Url.KeepsEnd (collection ++ '/' :: (call.model.toList ++ method)) := by
      rw [Url.keepsEnd_append_cons (by decide), method_eq, Url.keepsEnd_append_cons (by decide)]
      decide
    have hparse := hjoined _ _ (toList_address base call.model) hmethod
    have hfiltered : collection.filter (!Url.isDropped ·) = collection := by decide
    rw [List.filter_append, hfiltered, List.filter_cons_of_pos (by decide), ← named] at hparse
    have hweb : isWebAddress (u.joined segments (collection ++ '/' :: named call.model)) := by
      have hscheme := List.mem_pair.mp hs
      simpa [isWebAddress, Url.joined, hhost] using hscheme
    rw [of?, hparse]
    exact if_pos hweb
  · refine withoutEndSlashes_append (n := k) ?_
    rw [Url.pathText_of_authority hauthority, hpath, toList_render_append]
  · have hone := hjoined (withoutEndSlashes base ++ "/") [] (by simp) (by decide)
    have hslashes : "//".toList = ['/'] ++ List.replicate 1 '/' := by decide
    rw [EndsOnce, hone, hslashes]
    simp only [Except.ok.injEq, forall_eq', List.filter_nil]
    rw [toList_pathText_joined segments hauthority, List.suffix_append_self_iff]

-- ---------------------------------------------------------------------------
-- Models
-- ---------------------------------------------------------------------------

variable {model : String}

theorem percentEncode_method : Url.percentEncode Url.inPathSet method = method := by decide

theorem named_of_isSegmentText (h : IsSegmentText model) : named model = model.toList ++ method := by
  have hmethod : method.filter (!Url.isDropped ·) = method := by decide
  have hmodel : model.toList.filter (!Url.isDropped ·) = model.toList := by
    refine List.filter_eq_self.mpr fun c hc => ?_
    have := h.chars c hc
    simp only [List.mem_cons, not_or] at this
    simp [Url.isDropped, this]
  rw [named, List.filter_append, hmodel, hmethod]

theorem not_mem_of_isSegmentText (h : IsSegmentText model) :
    ∀ c ∈ model.toList ++ method, c ∉ ['/', '\\', '?', '#'] := by
  intro c hc hmark
  rcases List.mem_append.mp hc with hc | hc
  · exact h.chars c hc (List.mem_append_left ['\t', '\n', '\r'] hmark)
  · have hmethod : ∀ c ∈ method, c ∉ ['/', '\\', '?', '#'] := by decide
    exact hmethod c hc hmark

theorem tailOf_of_isSegmentText (h : IsSegmentText model) :
    Url.tailOf true (named model) = ⟨model.toList ++ method, none, none⟩ := by
  have hmarks := not_mem_of_isSegmentText h
  rw [named_of_isSegmentText h]
  exact Url.tailOf_path (fun hc => hmarks _ hc (by decide)) fun hc => hmarks _ hc (by decide)

theorem pathAfter_of_isSegmentText (h : IsSegmentText model) (segments : List String) :
    (pathAfter ("models" :: segments.reverse) model).render.toList =
      ((Url.Path.render (.rooted segments)).toList ++ '/' :: collection) ++
        '/' :: (Url.percentEncode Url.inPathSet model.toList ++ method) := by
  have hmarks := not_mem_of_isSegmentText h
  have hupright : (model.toList ++ method).map Url.upright = model.toList ++ method := by
    refine (List.map_congr_left fun c hc => if_neg ?_).trans (List.map_id' _)
    rintro rfl
    exact hmarks _ hc (by decide)
  have hpieces : Url.piecesOf (model.toList ++ method) =
      [String.ofList (Url.percentEncode Url.inPathSet model.toList ++ method)] := by
    rw [Url.piecesOf, hupright, Text.Chars.splitOn_eq,
      List.splitOn_eq_singleton fun hc => hmarks _ hc (by decide), List.map_singleton,
      Url.percentEncode_append, percentEncode_method]
  have hlong : ¬(String.ofList (Url.percentEncode Url.inPathSet model.toList ++
      method)).toList.length ≤ 6 := by
    have hlength : method.length = 16 := by decide
    rw [String.toList_ofList, List.length_append, hlength]
    omega
  obtain ⟨hsingle, hdouble⟩ := not_or.mp (mt Url.length_le_of_isDot hlong)
  rw [pathAfter, tailOf_of_isSegmentText h, hpieces, Url.resolveDots, if_neg hdouble,
    if_neg hsingle]
  exact toList_render_pair _ _ _

theorem append_slash_inj {a b c d : List Char} (h : a ++ '/' :: b = c ++ '/' :: d) (hb : '/' ∉ b)
    (hd : '/' ∉ d) : a = c ∧ b = d := by
  have hsplit := splitLast_eq_some.mpr ⟨h, hd⟩
  rw [splitLast_eq_some.mpr ⟨rfl, hb⟩] at hsplit
  exact Prod.mk.inj (Option.some.inj hsplit)

theorem slash_not_mem_method {s : List Char} (h : '/' ∉ s) : '/' ∉ s ++ method := by
  have hmethod : '/' ∉ method := by decide
  simp [h, hmethod]

theorem slash_not_mem_encoded (h : IsSegmentText model) :
    '/' ∉ Url.percentEncode Url.inPathSet model.toList := by
  intro hslash
  rcases Url.mem_percentEncode hslash with hplain | ⟨hmem, -⟩
  · exact absurd hplain (by decide)
  · exact h.chars _ hmem (by decide)

/-- A path that names a model has it as its last piece, so that nothing in it is a mark. -/
theorem isSegmentText_of_path {done : List String} {front segment : List Char}
    (hpath : (pathAfter done model).render.toList = front ++ '/' :: (segment ++ method))
    (hslash : '/' ∉ segment)
    (hread : Url.percentDecode segment = Text.Utf8.encode model.toList) : IsSegmentText model := by
  obtain ⟨hpart, hmarks⟩ := Url.mem_path_tailOf (named model)
  obtain ⟨pieces, last, hpieces, hlast, hslashes⟩ :=
    Url.exists_last_piece (Url.tailOf true (named model)).path
  have hwhole : last.Sublist (model.toList ++ method) :=
    (hlast.trans hpart).trans List.filter_sublist
  -- the last segment is the last piece, as it is not empty
  have hencoded : Url.percentEncode Url.inPathSet last = segment ++ method := by
    have hend := slash_not_mem_method hslash
    have hpiece := Url.slash_not_mem_piecesOf _ (hpieces ▸ List.mem_append_right _ List.mem_cons_self)
    rw [pathAfter, hpieces] at hpath
    obtain ⟨segments, hsegments | hsegments⟩ := Url.resolveDots_concat done pieces
      (String.ofList (Url.percentEncode Url.inPathSet last))
    all_goals
      rw [hsegments, toList_render_concat] at hpath
    · simpa only [String.toList_ofList] using (append_slash_inj hpath hpiece hend).2
    · have hempty := (append_slash_inj hpath (by simp) hend).2
      simp [method_eq] at hempty
  have hdecoded : Url.percentDecode last = Text.Utf8.encode (model.toList ++ method) := by
    have hmethod : Url.percentDecode method = Text.Utf8.encode method := by decide
    rw [← Url.percentDecode_percentEncode Url.isPartSet_path.escapes, hencoded, method_eq,
      Url.percentDecode_append_cons (by decide), ← method_eq, hmethod, hread]
    exact List.flatMap_append.symm
  obtain ⟨rfl, hescape⟩ := Url.eq_of_percentDecode hwhole hdecoded
  constructor
  · intro c hc hmark
    have hmem : c ∈ model.toList ++ method := List.mem_append_left _ hc
    have hpath := hlast.mem hmem
    have hkept := (List.mem_filter.mp (hpart.mem hpath)).2
    have hslash := hslashes c hmem
    obtain ⟨hquery, hfragment⟩ := hmarks c hpath
    simp only [Url.isDropped, Url.isSlash, Bool.not_eq_true', Bool.or_eq_false_iff,
      beq_eq_false_iff_ne] at hkept hslash
    simp [hslash, hkept, hquery, hfragment] at hmark
  · rintro ⟨a, b, ha, hb, hinfix⟩
    exact hescape ⟨a, b, ha, hb, hinfix.trans (List.prefix_append _ _).isInfix⟩

/-- The request of a prober names the key and the model if the model is a segment as it stands
and the path of the base ends once, and only then. -/
theorem names_iff_isSegmentText (s : Sender) (call : ProbeCall)
    (hread : Url.parse (call.baseUrl.getD s.baseUrl) = .ok u) (hs : u.scheme ∈ Url.webSchemes)
    (hquery : u.query = none) (hfragment : u.fragment = none)
    (hend : Url.KeepsEnd (call.baseUrl.getD s.baseUrl).toList) :
    ∃ r, s.request? call = some r ∧ (r.Names u.pathText call.key call.model ↔
      IsSegmentText call.model ∧ EndsOnce (call.baseUrl.getD s.baseUrl)) := by
  obtain ⟨segments, r, hrequest, hurl, hbase, honce⟩ :=
    exists_request hread hs hquery hfragment hend call
  have hpath : r.url.pathText.toList =
      (pathAfter ("models" :: segments.reverse) call.model).render.toList := by
    have hauthority : r.url.hasAuthority = true := by
      rw [hurl]
      exact (Url.server_of_parse hs hread).1
    rw [Url.pathText_of_authority hauthority, hurl]
    rfl
  refine ⟨r, hrequest, fun hnames => ?_, fun ⟨hmodel, hone⟩ => ?_⟩
  · obtain ⟨segment, hsegment, hslash, hdecode⟩ := hnames.path
    rw [hsegment, toList_named] at hpath
    have hmodel := isSegmentText_of_path hpath.symm hslash hdecode
    rw [pathAfter_of_isSegmentText hmodel] at hpath
    obtain ⟨hfront, -⟩ := append_slash_inj hpath (slash_not_mem_method hslash)
      (slash_not_mem_method (slash_not_mem_encoded hmodel))
    rw [hbase] at hfront
    exact ⟨hmodel, honce.mpr (rdropWhile_slash.mp (List.append_cancel_right hfront))⟩
  · rw [rdropWhile_slash.mpr (honce.mp hone)] at hbase
    constructor
    · rw [hurl, Url.appendPair, tailOf_of_isSegmentText hmodel]
      simp [Url.Form.parse_encodePair]
    · refine ⟨String.ofList (Url.percentEncode Url.inPathSet call.model.toList), ?_, ?_, ?_⟩
      · rw [← String.toList_inj, hpath, pathAfter_of_isSegmentText hmodel, ← hbase]
        exact (toList_named _ _ |>.trans (by rw [String.toList_ofList])).symm
      · rw [String.toList_ofList]
        exact slash_not_mem_encoded hmodel
      · rw [String.toList_ofList, Url.percentDecode_percentEncode Url.isPartSet_path.escapes]
        exact Url.percentDecode_eq_iff.mpr hmodel.noEscape

theorem names_iff_isSegmentText_sample :
    let s : Sender := { transport := .offline, baseUrl := "http://127.0.0.1:8080/v1//" }
    ∃ u, Url.parse s.baseUrl = .ok u ∧ u.pathText = "/v1//" ∧
      (∃ r, s.request? ⟨"a b&c=é", "gemini 2.5é", none⟩ = some r ∧
        r.Names u.pathText "a b&c=é" "gemini 2.5é") ∧
      ∃ r, s.request? ⟨"k", "tuned/%41", none⟩ = some r ∧ ¬r.Names u.pathText "k" "tuned/%41" := by
  intro s
  let u : Url :=
    { scheme := "http", hasAuthority := true, host := some (.ipv4 0x7F000001), port := some 8080,
      path := .rooted ["v1", "", ""] }
  have hread : Url.parse s.baseUrl = .ok u := by decide +kernel
  have honce : EndsOnce s.baseUrl := by
    intro v hv
    have hone : Url.parse (withoutEndSlashes s.baseUrl ++ "/") =
        .ok { u with path := .rooted ["v1", ""] } := by decide +kernel
    obtain rfl := Except.ok.inj (hone.symm.trans hv)
    decide +kernel
  have hend : Url.KeepsEnd s.baseUrl.toList := by decide +kernel
  have hnamed (key model : String) :=
    names_iff_isSegmentText s ⟨key, model, none⟩ hread (by decide) rfl rfl hend
  obtain ⟨r, hrequest, hnames⟩ := hnamed "a b&c=é" "gemini 2.5é"
  obtain ⟨r', hrequest', hnames'⟩ := hnamed "k" "tuned/%41"
  exact ⟨u, hread, by decide +kernel,
    ⟨r, hrequest, hnames.mpr ⟨⟨by decide +kernel, by decide +kernel⟩, honce⟩⟩,
    r', hrequest', fun h => (hnames'.mp h).1.chars '/' (by decide) (by decide)⟩

/-- A mark in a model ends the path. A blank at the end of a base, which is dropped where the
base stands alone, is read as a part of its port. -/
theorem mark_and_blank_misread :
    ∃ u, Url.parse "http://127.0.0.1:1" = .ok u ∧ Url.parse "http://127.0.0.1:1 " = .ok u ∧
      u.scheme = "http" ∧ u.query = none ∧ u.fragment = none ∧
      (∃ r, of? "http://127.0.0.1:1" ⟨"k", "a?b", none⟩ = some r ∧
        ¬r.Names u.pathText "k" "a?b") ∧
      of? "http://127.0.0.1:1 " ⟨"k", "m", none⟩ = none := by
  refine ⟨{ scheme := "http", hasAuthority := true, host := some (.ipv4 0x7F000001),
            port := some 1, path := .rooted [""] },
    by decide +kernel, by decide +kernel, rfl, rfl, rfl, ⟨⟨{
      scheme := "http", hasAuthority := true, host := some (.ipv4 0x7F000001), port := some 1,
      path := .rooted ["models", "a"], query := some "b:generateContent&key=k" }⟩,
      by decide +kernel, fun hnames => ?_⟩, by decide +kernel⟩
  have hquery := hnames.query
  revert hquery
  decide +kernel

end Request

end ChannelKeeper.Gemini
