import ChannelKeeper.Proofs.Url.Decoding
import ChannelKeeper.Proofs.Url.Hosts

/-!
# URLs read back

The URL of a database server is read back from its text with the same scheme, credentials,
host and port, and each way of setting a part keeps it so. Nothing is said of the path and
the query, in which blanks at the end and line endings are dropped.
-/

namespace ChannelKeeper.Url

open Text.Chars (splitOnce splitLast splitOnce_eq_some splitOnce_eq_none splitLast_eq_some
  splitLast_eq_none)

-- ---------------------------------------------------------------------------
-- Ports
-- ---------------------------------------------------------------------------

theorem foldl_toDigits (n : Nat) :
    (Nat.toDigits 10 n).foldl (fun n c => n * 10 + (c.toNat - 48)) 0 = n := by
  have hread := Nat.ofDigitChars_ten_toDigits (n := n)
  have hzero : '0'.toNat = 48 := rfl
  simpa only [Nat.ofDigitChars_eq_foldl, Nat.mul_comm, hzero] using hread

theorem all_isDigit_toDigits (n : Nat) : (Nat.toDigits 10 n).all Char.isDigit :=
  List.all_eq_true.mpr fun _ => Nat.isDigit_of_mem_toDigits (by decide) (by decide)

theorem defaultPort?_server : ∀ scheme ∈ serverSchemes, defaultPort? scheme = none := by decide

theorem isSpecialScheme_server : ∀ scheme ∈ serverSchemes, isSpecialScheme scheme = false := by
  decide

theorem portOf_toString {scheme : String} (hs : scheme ∈ serverSchemes) {n : Nat}
    (hn : n < 0x10000) : portOf scheme (toString n).toList = .ok (some n) := by
  have hsmall : ¬65535 < n := by omega
  rw [Nat.toString_eq_ofList_toDigits, String.toList_ofList, portOf]
  simp [Nat.toDigits_ne_nil, all_isDigit_toDigits, foldl_toDigits, hsmall,
    defaultPort?_server scheme hs]

-- ---------------------------------------------------------------------------
-- Parts that are read back
-- ---------------------------------------------------------------------------

/-- A server's URL whose parts are read back from its text, as long as it has a host. -/
structure IsReadable (u : Url) : Prop extends IsServer u where
  password : ∀ p, u.password = some p → IsSecret p
  host : ∀ h, u.host = some h → h.IsReadBack ∧ h ≠ .domain ""
  port : ∀ n, u.port = some n → n < 0x10000
  path : ∃ segments, u.path = .rooted segments

theorem not_mem_of_plain {c : Char} (hc : isPlain c = false) {s : List Char} (h : s.all isPlain) :
    c ∉ s := by
  intro hmem
  simp [List.all_eq_true.mp h c hmem] at hc

theorem encode_of_plain {s : String} (h : s.toList.all isPlain) : encode s.toList = s := by
  have hkept : ∀ c ∈ s.toList, inUserinfoSet c = false ∧ c.toNat < 0x80 := by
    simpa [isPlain] using h
  rw [encode, percentEncode_of_forall hkept, String.ofList_toList]

theorem userinfoOf_name {name : String} (h : name.toList.all isPlain) :
    userinfoOf name.toList = (name, none) := by
  have hcolon : ':' ∉ name.toList := not_mem_of_plain (by decide) h
  rw [userinfoOf, splitOnce_eq_none.mpr hcolon]
  exact congrArg (·, none) (encode_of_plain h)

theorem userinfoOf_secret {name secret : String} (h : name.toList.all isPlain)
    (hs : IsSecret secret) :
    userinfoOf (name.toList ++ ':' :: secret.toList) = (name, some secret) := by
  have hcolon : ':' ∉ name.toList := not_mem_of_plain (by decide) h
  have hsplit : splitOnce ':' (name.toList ++ ':' :: secret.toList) =
      some (name.toList, secret.toList) := splitOnce_eq_some.mpr ⟨rfl, hcolon⟩
  have hencoded := encode_of_plain hs.plain
  obtain ⟨c, rest, hc⟩ := List.exists_cons_of_ne_nil hs.nonempty
  rw [hc] at hsplit hencoded ⊢
  rw [userinfoOf, hsplit]
  exact congrArg₂ Prod.mk (encode_of_plain h) (congrArg some hencoded)

variable {u : Url}

theorem IsReadable.credentials (hu : IsReadable u) {hostPort : List Char} (h : '@' ∉ hostPort) :
    (∃ userinfo ≠ [],
      splitLast '@' (u.userinfoText.toList ++ hostPort) = some (userinfo, hostPort) ∧
      userinfoOf userinfo = (u.username, u.password)) ∨
    u.userinfoText = "" ∧ u.username = "" ∧ u.password = none := by
  cases hp : u.password with
  | some p =>
    have hsplit : splitLast '@' (u.userinfoText.toList ++ hostPort) =
        some (u.username.toList ++ ':' :: p.toList, hostPort) :=
      splitLast_eq_some.mpr ⟨by simp [userinfoText, hp], h⟩
    exact .inl ⟨_, by simp, hsplit, userinfoOf_secret hu.username (hu.password p hp)⟩
  | none =>
    by_cases hempty : u.username = ""
    · exact .inr ⟨by simp [userinfoText, hp, hempty], hempty, rfl⟩
    · have hsplit : splitLast '@' (u.userinfoText.toList ++ hostPort) =
          some (u.username.toList, hostPort) :=
        splitLast_eq_some.mpr ⟨by simp [userinfoText, hp, hempty], h⟩
      exact .inl ⟨_, by simpa using hempty, hsplit, userinfoOf_name hu.username⟩

-- ---------------------------------------------------------------------------
-- Authorities
-- ---------------------------------------------------------------------------

/-- What stands between the two slashes and the path. -/
def authorityText (u : Url) : String := u.userinfoText ++ (u.hostText ++ u.portText)

theorem head?_portText (u : Url) : u.portText.toList.head?.all (· = ':') := by
  unfold portText
  split <;> simp

theorem portOf_portText (hu : IsReadable u) :
    portOf u.scheme (u.portText.toList.drop 1) = .ok u.port := by
  unfold portText
  cases hport : u.port with
  | none => rfl
  | some n => simpa using portOf_toString hu.scheme (hu.port n hport)

/-- What stands in an authority neither ends it nor is dropped at an end. -/
def isKept (c : Char) : Bool := !(isEdge c || endsAuthority false c)

theorem isKept_of_isPlain {c : Char} (h : isPlain c) : isKept c := by
  have hedge : isEdge c = false := by
    by_contra hedge
    simp only [isEdge, Bool.not_eq_false, decide_eq_true_eq] at hedge
    simp [not_isPlain (.inl hedge)] at h
  have hends : endsAuthority false c = false :=
    staysInside_of_plain (s := [c]) (by simpa using h) c (by simp)
  simp [isKept, hedge, hends]

theorem mem_portText {c : Char} (h : c ∈ u.portText.toList) :
    c = ':' ∨ ∃ d < 10, c = d.digitChar := by
  unfold portText at h
  split at h
  · rw [String.toList_append, Nat.toString_eq_ofList_toDigits] at h
    rcases List.mem_append.mp h with hc | hc
    · exact .inl (by simpa using hc)
    · rw [String.toList_ofList] at hc
      exact .inr (Host.exists_of_mem_toDigits (by decide) hc)
  · simp at h

theorem isKept_portText {c : Char} (h : c ∈ u.portText.toList) : isKept c ∧ c ≠ '@' := by
  have hdigits : ∀ d < 10, isKept d.digitChar ∧ d.digitChar ≠ '@' := by decide
  rcases mem_portText h with rfl | ⟨d, hd, rfl⟩
  · decide
  · exact hdigits d hd

theorem isKept_hostPort (hu : IsReadable u) {c : Char}
    (h : c ∈ (u.hostText ++ u.portText).toList) : isKept c ∧ c ≠ '@' := by
  rcases List.mem_append.mp (String.toList_append ▸ h) with hc | hc
  · unfold hostText at hc
    cases hhost : u.host with
    | none => simp [hhost] at hc
    | some host =>
      rw [hhost] at hc
      obtain ⟨hedge, hends, hat⟩ := (hu.host host hhost).1.chars c hc
      simp [isKept, hedge, hends, hat]
  · exact isKept_portText hc

theorem mem_userinfoText (hu : IsReadable u) {c : Char} (h : c ∈ u.userinfoText.toList) :
    isPlain c ∨ c ∈ [':', '@'] := by
  have hplain {s : String} (hs : s.toList.all isPlain) (hc : c ∈ s.toList) : isPlain c :=
    List.all_eq_true.mp hs c hc
  unfold userinfoText at h
  split at h
  · rename_i p hp
    simp only [String.toList_append, List.mem_append] at h
    rcases h with ((h | h) | h) | h
    · exact .inl (hplain hu.username h)
    · exact .inr (by simp_all)
    · exact .inl (hplain (hu.password p hp).plain h)
    · exact .inr (by simp_all)
  · split at h
    · simp at h
    · rcases List.mem_append.mp (String.toList_append ▸ h) with h | h
      · exact .inl (hplain hu.username h)
      · exact .inr (by simp_all)

theorem isKept_userinfoText (hu : IsReadable u) {c : Char} (h : c ∈ u.userinfoText.toList) :
    isKept c := by
  have hmarks : ∀ c ∈ [':', '@'], isKept c := by decide
  rcases mem_userinfoText hu h with hplain | hmark
  · exact isKept_of_isPlain hplain
  · exact hmarks c hmark

theorem isKept_authorityText (hu : IsReadable u) {c : Char} (h : c ∈ u.authorityText.toList) :
    isKept c := by
  rcases List.mem_append.mp (String.toList_append ▸ h) with h | h
  · exact isKept_userinfoText hu h
  · exact (isKept_hostPort hu h).1

/-- The server of an authority in its two parts. Credentials and a port are refused without a host,
and a port first. -/
def serverOf (scheme : String) (userinfo hostPort : List Char) : Except Fault Url :=
  let (hostChars, portChars) := splitHost false hostPort
  (Host.parsePlain hostChars).bind fun host =>
    if host = .domain "" ∧ portChars ≠ [] then .error .emptyHost
    else (portOf scheme (portChars.drop 1)).bind fun port =>
      let (username, password) := userinfoOf userinfo
      if host = .domain "" ∧ (username ≠ "" ∨ password.isSome) then .error .emptyHost
      else .ok
        { scheme := scheme, hasAuthority := true, username := username, password := password,
          host := if host = .domain "" then none else some host, port := port }

theorem authorityOf_split {scheme : String} (hs : isSpecialScheme scheme = false)
    {s userinfo hostPort : List Char} (h : splitLast '@' s = some (userinfo, hostPort)) :
    authorityOf scheme s = if userinfo = [] ∧ hostPort = [] then .error .emptyHost
      else serverOf scheme userinfo hostPort := by
  simp [authorityOf, serverOf, hs, h, bind, Except.bind, pure, Except.pure, throw, throwThe,
    MonadExceptOf.throw]

theorem authorityOf_no_split {scheme : String} (hs : isSpecialScheme scheme = false)
    {s : List Char} (h : splitLast '@' s = none) : authorityOf scheme s = serverOf scheme [] s := by
  simp [authorityOf, serverOf, hs, h, bind, Except.bind, pure, Except.pure, throw, throwThe,
    MonadExceptOf.throw]

theorem IsReadable.authorityOf_eq (hu : IsReadable u) :
    ∃ userinfo, userinfoOf userinfo = (u.username, u.password) ∧
      Url.authorityOf u.scheme u.authorityText.toList =
        serverOf u.scheme userinfo (u.hostText ++ u.portText).toList := by
  have hplain := isSpecialScheme_server u.scheme hu.scheme
  have hno : '@' ∉ (u.hostText ++ u.portText).toList := fun hc => (isKept_hostPort hu hc).2 rfl
  rw [authorityText, String.toList_append]
  rcases hu.credentials hno with ⟨userinfo, hne, hat, hcred⟩ | ⟨htext, hname, hpassword⟩
  · refine ⟨userinfo, hcred, ?_⟩
    rw [authorityOf_split hplain hat, if_neg fun h => hne h.1]
  · refine ⟨[], by rw [hname, hpassword]; rfl, ?_⟩
    rw [htext, String.toList_empty, List.nil_append,
      authorityOf_no_split hplain (splitLast_eq_none.mpr hno)]

theorem IsReadable.authorityOf (hu : IsReadable u) (hh : u.host.isSome) :
    authorityOf u.scheme u.authorityText.toList =
      .ok { scheme := u.scheme, hasAuthority := true, username := u.username,
            password := u.password, host := u.host, port := u.port } := by
  obtain ⟨h, hhost⟩ := Option.isSome_iff_exists.mp hh
  obtain ⟨hread, hne⟩ := hu.host h hhost
  have hsplit : splitHost false (u.hostText ++ u.portText).toList =
      (h.text.toList, u.portText.toList) := by
    rw [String.toList_append, hostText, hhost]
    exact hread.split _ (head?_portText u)
  obtain ⟨userinfo, hcred, heq⟩ := hu.authorityOf_eq
  rw [heq, serverOf, hsplit, hcred]
  simp only [hread.parse, portOf_portText hu, Except.bind]
  simp [hne, hhost]

-- ---------------------------------------------------------------------------
-- Whole URLs
-- ---------------------------------------------------------------------------

def afterAuthority (u : Url) : String :=
  u.pathText ++ afterMark "?" u.query ++ afterMark "#" u.fragment

theorem toList_render (hu : IsReadable u) : u.render.toList = u.scheme.toList ++
    ':' :: '/' :: '/' :: (u.authorityText.toList ++ u.afterAuthority.toList) := by
  simp [render, hu.authority, authorityText, afterAuthority]

theorem pathText_of_authority (h : u.hasAuthority) : u.pathText = u.path.render := by
  unfold pathText
  split <;> simp_all

theorem head?_afterAuthority (hu : IsReadable u) :
    u.afterAuthority.toList.head?.all (endsAuthority false) := by
  obtain ⟨segments, hpath⟩ := hu.path
  have hrender : u.pathText = Path.render (.rooted segments) := by
    rw [pathText_of_authority hu.authority, hpath]
  cases segments with
  | nil =>
    cases hq : u.query <;> cases hf : u.fragment <;>
      simp [afterAuthority, hrender, Path.render, afterMark, hq, hf, endsAuthority]
  | cons segment rest => simp [afterAuthority, hrender, Path.render, endsAuthority]

theorem afterSlashes_append {scheme : String} (hs : isSpecialScheme scheme = false)
    {authority tail : List Char} (ha : StaysInside authority)
    (ht : tail.head?.all (endsAuthority false)) :
    afterSlashes scheme (authority ++ tail) = (Url.authorityOf scheme authority).map fun u =>
      { u with path := pathOf false (tailOf false tail).path, query := (tailOf false tail).query,
               fragment := (tailOf false tail).fragment } := by
  have hinside : ∀ c ∈ authority, (!endsAuthority false c) = true := by simpa [StaysInside] using ha
  have htake : tail.takeWhile (fun c => !endsAuthority false c) = [] := by
    cases tail with
    | nil => rfl
    | cons c rest => simpa using ht
  have hdrop : tail.dropWhile (fun c => !endsAuthority false c) = tail := by
    cases tail with
    | nil => rfl
    | cons c rest => simpa using ht
  rw [afterSlashes, hs, List.takeWhile_append_of_pos hinside, List.dropWhile_append_of_pos hinside,
    htake, hdrop, List.append_nil]
  cases Url.authorityOf scheme authority <;> rfl

theorem staysInside_authorityText (hu : IsReadable u) : StaysInside u.authorityText.toList := by
  intro c hc
  have := isKept_authorityText hu hc
  simp_all [isKept]

/-- Cleaning a URL reaches what stands after the authority at most. -/
theorem exists_cleaned (hu : IsReadable u) : ∃ tail, tail.head?.all (endsAuthority false) ∧
    cleaned u.render =
      u.scheme.toList ++ ':' :: '/' :: '/' :: (u.authorityText.toList ++ tail) := by
  have hedge : ∀ c ∈ u.authorityText.toList, isEdge c = false := by
    intro c hc
    have := isKept_authorityText hu hc
    simp_all [isKept]
  have hkept : u.authorityText.toList.filter (!isDropped ·) = u.authorityText.toList :=
    List.filter_eq_self.mpr fun c hc => by simp [not_isDropped (hedge c hc)]
  refine ⟨(u.afterAuthority.toList.rdropWhile isEdge).filter (!isDropped ·), ?_, ?_⟩
  · have hhead := head?_afterAuthority hu
    cases htail : u.afterAuthority.toList with
    | nil => rfl
    | cons c rest =>
      have hc : endsAuthority false c := by simpa [htail] using hhead
      have hcedge : isEdge c = false := by
        simp only [endsAuthority, Bool.false_and, Bool.or_false, Bool.or_eq_true, beq_iff_eq] at hc
        rcases hc with (rfl | rfl) | rfl <;> rfl
      have hdrop := Lists.rdropWhile_append_cons hcedge [] rest
      rw [List.nil_append] at hdrop
      simp [hdrop, not_isDropped hcedge, hc]
  · rw [cleaned_of_server hu.scheme (toList_render hu), Lists.rdropWhile_append_of_forall hedge,
      List.filter_append, hkept]

/-- A server's URL leads to the same server with the same credentials when it is read. -/
theorem IsReadable.parse_render (hu : IsReadable u) (hh : u.host.isSome) :
    ∃ path query fragment, parse u.render =
      .ok { u with path := path, query := query, fragment := fragment } := by
  obtain ⟨tail, htail, hclean⟩ := exists_cleaned hu
  refine ⟨pathOf false (tailOf false tail).path, (tailOf false tail).query,
    (tailOf false tail).fragment, ?_⟩
  rw [parse_of_cleaned hu.scheme hclean, afterSlashes_append
    (isSpecialScheme_server u.scheme hu.scheme) (staysInside_authorityText hu) htail,
    hu.authorityOf hh]
  simp [Except.map, hu.authority]

theorem exists_pathOf (special : Bool) (s : List Char) :
    ∃ segments, pathOf special s = .rooted segments := by
  unfold pathOf
  split
  · split <;> exact ⟨_, rfl⟩
  · exact ⟨_, rfl⟩
  · split <;> exact ⟨_, rfl⟩
  · exact ⟨_, rfl⟩

theorem exists_setPath_rooted (u : Url) (text : String) :
    ∃ segments, u.setPath text = { u with path := .rooted segments } := by
  unfold setPath
  simp only
  split
  · exact ⟨[], rfl⟩
  · obtain ⟨segments, hpath⟩ := exists_pathOf u.isSpecial (text.toList.filter (!isDropped ·))
    exact ⟨segments, by rw [hpath]⟩

theorem exists_host_of_setPlainHost? {v : Url} {text : String} (h : u.setPlainHost? text = some v) :
    ∃ host, v = { u with host := host } ∧
      (∀ found, host = some found → found.IsReadBack ∧ found ≠ .domain "") ∧
      (text ≠ "" → host.isSome) := by
  obtain ⟨chars, hchars, h⟩ := Option.bind_eq_some_iff.mp h
  have hne : text ≠ "" → chars ≠ [] := by
    rintro htext rfl
    split at hchars
    · simp_all
    · split at hchars
      · cases hchars
      · rename_i hsplit _
        cases hchars
        exact hsplit rfl
      · simp_all
  split at h
  · rename_i hparse
    cases h
    refine ⟨none, rfl, by simp, fun htext => ?_⟩
    exact absurd (Host.eq_nil_of_parsePlain hparse) (hne htext)
  · rename_i host hdomain hparse
    cases h
    refine ⟨some host, rfl, fun found hfound => ?_, fun _ => rfl⟩
    obtain rfl := Option.some.inj hfound
    exact ⟨Host.isReadBack_of_parsePlain hparse, hdomain⟩
  · cases h

-- ---------------------------------------------------------------------------
-- Credentials
-- ---------------------------------------------------------------------------

/-- The user name and the password of a URL, decoded, are the given ones. -/
structure LogsIn (u : Url) (user password : String) : Prop where
  username : percentDecode u.username.toList = Text.Utf8.encode user.toList
  password : percentDecode (u.password.getD "").toList = Text.Utf8.encode password.toList

instance (u : Url) (user password : String) : Decidable (u.LogsIn user password) :=
  decidable_of_iff
    (percentDecode u.username.toList = Text.Utf8.encode user.toList ∧
      percentDecode (u.password.getD "").toList = Text.Utf8.encode password.toList)
    ⟨fun h => ⟨h.1, h.2⟩, fun h => ⟨h.1, h.2⟩⟩

/-- A readable URL with encoded credentials; no password and an empty one are the same. -/
structure IsFor (system name secret : String) (u : Url) : Prop extends IsReadable u where
  ofSystem : u.scheme = system
  ofName : u.username = encode name.toList
  ofSecret : u.password.getD "" = encode secret.toList

variable {v : Url} {system name secret : String}

theorem percentDecode_encode (s : List Char) :
    percentDecode (encode s).toList = percentDecode s := by
  rw [encode, String.toList_ofList]
  refine percentDecode_percentEncode (fun c hc => ?_) s
  simp only [isPlain, Bool.not_eq_true', Bool.or_eq_false_iff] at hc
  exact hc.1

/-- A text is read as a URL of a scheme. It logs in with the given credentials, unless an escape in
them is read as another character. -/
structure IsReadAs (text system name secret : String) (u : Url) : Prop where
  parse : Url.parse text = .ok u
  ofSystem : u.scheme = system
  logsIn_iff : u.LogsIn name secret ↔ ¬HasEscape name.toList ∧ ¬HasEscape secret.toList

theorem IsFor.read_back (h : IsFor system name secret u) (hh : u.host.isSome) :
    ∃ read, IsReadAs u.render system name secret read ∧ read.port = u.port := by
  obtain ⟨path, query, fragment, hread⟩ := h.parse_render hh
  refine ⟨_, ⟨hread, h.ofSystem, ?_⟩, rfl⟩
  rw [← percentDecode_eq_iff, ← percentDecode_eq_iff, ← percentDecode_encode name.toList,
    ← percentDecode_encode secret.toList, ← h.ofName, ← h.ofSecret]
  exact ⟨fun ⟨hname, hsecret⟩ => ⟨hname, hsecret⟩, fun ⟨hname, hsecret⟩ => ⟨hname, hsecret⟩⟩

namespace IsFor

theorem setUsername? (h : IsFor system name secret u) {new : String}
    (hv : u.setUsername? new = some v) :
    IsFor system new secret v ∧ v.host = u.host ∧ v.port = u.port := by
  obtain ⟨-, hv⟩ := Option.ite_none_right_eq_some.mp hv
  obtain rfl := Option.some.inj hv
  have hplain : (encode new.toList).toList.all isPlain := by
    simpa [encode] using percentEncode_all new.toList
  exact ⟨{ h with username := hplain, ofName := rfl }, rfl, rfl⟩

theorem setPassword? (h : IsFor system name secret u) {new : String}
    (hv : u.setPassword? new = some v) :
    IsFor system name new v ∧ v.host = u.host ∧ v.port = u.port := by
  obtain ⟨-, hv⟩ := Option.ite_none_right_eq_some.mp hv
  obtain rfl := Option.some.inj hv
  refine ⟨{ h with password := ?_, ofSecret := ?_ }, rfl, rfl⟩
  · intro p hp
    obtain ⟨hne, hp⟩ := Option.ite_none_left_eq_some.mp hp
    obtain rfl := Option.some.inj hp
    exact isSecret_encode (by simpa using hne)
  · by_cases hempty : new = ""
    · simp [hempty, encode, percentEncode]
    · simp [hempty, encoded, encode]

theorem setPort? (h : IsFor system name secret u) {n : Nat} (hn : n < 0x10000)
    (hv : u.setPort? (some n) = some v) :
    IsFor system name secret v ∧ v.host = u.host ∧ v.port = some n := by
  obtain ⟨-, hv⟩ := Option.ite_none_right_eq_some.mp hv
  rw [defaultPort?_server u.scheme h.scheme, if_neg (by simp)] at hv
  obtain rfl := Option.some.inj hv
  refine ⟨{ h with port := ?_ }, rfl, rfl⟩
  intro m hm
  obtain rfl := Option.some.inj hm
  exact hn

theorem setPlainHost? (h : IsFor system name secret u) {text : String}
    (hv : u.setPlainHost? text = some v) :
    IsFor system name secret v ∧ v.port = u.port ∧ (text ≠ "" → v.host.isSome) := by
  obtain ⟨host, rfl, hread, hsome⟩ := exists_host_of_setPlainHost? hv
  exact ⟨{ h with host := hread }, rfl, hsome⟩

theorem setPath (h : IsFor system name secret u) (text : String) :
    IsFor system name secret (u.setPath text) ∧ (u.setPath text).host = u.host ∧
      (u.setPath text).port = u.port := by
  obtain ⟨segments, hpath⟩ := exists_setPath_rooted u text
  rw [hpath]
  exact ⟨{ h with path := ⟨segments, rfl⟩ }, rfl, rfl⟩

theorem appendPair (h : IsFor system name secret u) (key value : String) :
    IsFor system name secret (u.appendPair key value) ∧
      (u.appendPair key value).host = u.host ∧ (u.appendPair key value).port = u.port :=
  ⟨{ h with }, rfl, rfl⟩

end IsFor

end ChannelKeeper.Url
