import ChannelKeeper.Proofs.Dsn.Credentials
import ChannelKeeper.Proofs.Url.Normal

/-!
# Connection URLs as a normal form

A connection URL is its own connection URL, and its scheme names the system of the form in which
the address was read. Only the words of a user, a password or a port that are followed by an
empty host have a URL that is refused. Nothing is said of which addresses have a connection URL.
-/

namespace ChannelKeeper.Dsn

open Text (isBlank startsWith trim words occursIn)
open Text.Chars (splitOnce_eq_some trimStart trimEnd)
open Url (IsNormal IsComplete serverSchemes)

-- ---------------------------------------------------------------------------
-- Ways to a connection URL
-- ---------------------------------------------------------------------------

theorem toList_of_startsWith {scheme text : String} (h : startsWith (scheme ++ "://") text) :
    ∃ rest, text.toList = scheme.toList ++ ':' :: '/' :: '/' :: rest := by
  obtain ⟨rest, rfl⟩ := Text.exists_of_startsWith h
  exact ⟨rest.toList, by simp⟩

theorem connectionUrl_path {dsn path : String} (h : trim dsn = "sqlite:" ++ path) :
    connectionUrl dsn = .ok (sqliteUrl path) := by
  have hempty : ("sqlite:" ++ path).isEmpty = false := by simp
  unfold connectionUrl
  simp only [h, hempty, Text.afterStart?_append, Bool.false_eq_true, ↓reduceIte]

/-- How an address became a connection URL. -/
inductive IsMade (dsn : String) : String → Prop
  | path {path : String} (hpath : trim dsn = "sqlite:" ++ path) : IsMade dsn (sqliteUrl path)
  | url {scheme : String} {u : Url} (hs : scheme ∈ serverSchemes)
      (hstart : startsWith (scheme ++ "://") (trim dsn)) (hu : Url.parse (trim dsn) = .ok u) :
      IsMade dsn u.render
  | driver {u : Url} (hn : namesScheme dsn = false) (hd : isDriverForm (trim dsn))
      (hu : ofDriverForm? (trim dsn) = some u) : IsMade dsn u.render
  | words {u : Url} (hn : namesScheme dsn = false) (hd : isDriverForm (trim dsn) = false)
      (he : occursIn "=" (trim dsn)) (hu : ofWords? (trim dsn) = some u) : IsMade dsn u.render

theorem isMade_of_connectionUrl {dsn url : String} (h : connectionUrl dsn = .ok url) :
    IsMade dsn url := by
  have hne : trim dsn ≠ "" := by
    rintro heq
    simp [connectionUrl, heq] at h
  by_cases hpath : startsWith "sqlite:" (trim dsn)
  · obtain ⟨path, htrim⟩ := Text.exists_of_startsWith hpath
    rw [connectionUrl_path htrim] at h
    cases h
    exact .path htrim
  · by_cases hscheme : urlSchemes.any (startsWith · (trim dsn))
    · rw [urlSchemes_eq, List.any_map, List.any_eq_true] at hscheme
      obtain ⟨scheme, hs, hstart⟩ := hscheme
      obtain ⟨rest, hrest⟩ := toList_of_startsWith hstart
      rw [connectionUrl_server hs hrest] at h
      cases hparse : Url.parse (trim dsn) with
      | error fault =>
        rw [hparse] at h
        cases h
      | ok u =>
        rw [hparse] at h
        cases h
        exact .url hs hstart hparse
    · have hnone : namesScheme dsn = false := by simp [namesScheme, hpath, hscheme]
      rw [connectionUrl_of_no_scheme hnone hne] at h
      obtain ⟨u, hu, rfl⟩ := answered_eq_ok h
      by_cases hd : isDriverForm (trim dsn)
      · rw [if_pos hd] at hu
        exact .driver hnone hd hu
      · rw [if_neg hd] at hu
        obtain ⟨he, hu⟩ := Option.ite_none_right_eq_some.mp hu
        exact .words hnone (by simpa using hd) he hu

-- ---------------------------------------------------------------------------
-- Systems
-- ---------------------------------------------------------------------------

/-- The system of the first form in which a trimmed address is read. -/
def systemOf? (dsn : String) : Option Sql.Backend :=
  if startsWith "sqlite:" dsn then some .sqlite
  else if startsWith "postgres://" dsn || startsWith "postgresql://" dsn then some .postgres
  else if startsWith "mysql://" dsn || isDriverForm dsn then some .mysql
  else if occursIn "=" dsn then some .postgres
  else none

theorem systemOf?_server {scheme text : String} (hs : scheme ∈ serverSchemes) {rest : List Char}
    (h : text.toList = scheme.toList ++ ':' :: '/' :: '/' :: rest) :
    systemOf? text = some (if scheme = "mysql" then .mysql else .postgres) := by
  rcases Url.mem_serverSchemes.mp hs with rfl | rfl | rfl <;> simp [systemOf?, startsWith, h]

theorem systemOf?_of_no_scheme {dsn : String} (h : namesScheme dsn = false) :
    systemOf? (trim dsn) = if isDriverForm (trim dsn) then some .mysql
      else if occursIn "=" (trim dsn) then some .postgres else none := by
  simp only [namesScheme, urlSchemes, List.any_cons, List.any_nil, Bool.or_false,
    Bool.or_eq_false_iff] at h
  simp [systemOf?, h]

theorem backendOf_render {u : Url} (hu : u.IsReadable) :
    backendOf u.render = .ok (if u.scheme = "mysql" then .mysql else .postgres) :=
  backendOf_server hu.scheme (Url.toList_render hu)

-- ---------------------------------------------------------------------------
-- Paths
-- ---------------------------------------------------------------------------

theorem toList_sqliteUrl (path : String) : (sqliteUrl path).toList =
    "sqlite".toList ++ ':' :: '/' :: '/' :: ((Text.afterStart? "//" path).getD path).toList := by
  simp [sqliteUrl]

theorem backendOf_sqliteUrl (path : String) : backendOf (sqliteUrl path) = .ok .sqlite := by
  have hparts := splitOnce_eq_some.mpr ⟨toList_sqliteUrl path, by decide⟩
  simp only [backendOf, Text.splitOnce, hparts, Option.map_some, String.ofList_toList]

theorem trimEnd_afterSlashes {path : String} (h : trimEnd path.toList = path.toList) :
    trimEnd ((Text.afterStart? "//" path).getD path).toList =
      ((Text.afterStart? "//" path).getD path).toList := by
  by_cases hslashes : startsWith "//" path
  · obtain ⟨rest, rfl⟩ := Text.exists_of_startsWith hslashes
    have hparts : ("//" ++ rest).toList = ['/'] ++ '/' :: rest.toList := by simp
    rw [hparts, Text.Chars.trimEnd_append_cons (by decide)] at h
    simpa [Text.afterStart?_append] using h
  · rwa [Text.afterStart?_of_not_start (by simpa using hslashes), Option.getD_none]

/-- Slashes are put before a path just once. -/
theorem connectionUrl_sqliteUrl {dsn path : String} (h : trim dsn = "sqlite:" ++ path) :
    connectionUrl (sqliteUrl path) = .ok (sqliteUrl path) := by
  let rest := (Text.afterStart? "//" path).getD path
  have hpath : trimEnd path.toList = path.toList := by
    have hparts : (trim dsn).toList = "sqlite".toList ++ ':' :: path.toList := by simp [h]
    have htrim := congrArg String.toList (Text.trim_trim dsn)
    have hstart : trimStart "sqlite".toList = "sqlite".toList := by decide
    rw [Text.toList_trim, hparts, Text.Chars.trim_append_cons (by decide), hstart] at htrim
    simpa using htrim
  have hurl : sqliteUrl path = "sqlite:" ++ ("//" ++ rest) := by
    rw [← String.toList_inj, toList_sqliteUrl]
    simp [rest]
  have htrim : trim (sqliteUrl path) = "sqlite:" ++ ("//" ++ rest) := by
    have hstart : trimStart ("sqlite".toList ++ [':', '/']) = "sqlite".toList ++ [':', '/'] := by
      decide
    have hparts : (sqliteUrl path).toList =
        ("sqlite".toList ++ [':', '/']) ++ '/' :: rest.toList := by
      rw [toList_sqliteUrl]
      simp [rest]
    rw [← hurl, ← String.toList_inj, Text.toList_trim, hparts,
      Text.Chars.trim_append_cons (by decide), hstart, trimEnd_afterSlashes hpath]
  rw [connectionUrl_path htrim, sqliteUrl, Text.afterStart?_append, Option.getD_some, sqliteUrl]

-- ---------------------------------------------------------------------------
-- Servers
-- ---------------------------------------------------------------------------

theorem isBlank_of_isVisible {c : Char} (h : Url.isVisible c) : isBlank c = false := by
  simp only [Url.isVisible, Bool.and_eq_true, decide_eq_true_eq] at h
  simp only [isBlank, Bool.or_eq_false_iff, Bool.and_eq_false_iff, decide_eq_false_iff_not,
    beq_eq_false_iff_ne]
  omega

theorem trim_render {u : Url} (hu : IsNormal u) : trim u.render = u.render := by
  have hvisible : ∀ c ∈ u.render.toList, isBlank c = false :=
    fun c hc => isBlank_of_isVisible (hu.visible_render c hc)
  have hne : u.render.toList ≠ [] := by simp [Url.toList_render hu.toIsReadable]
  have htrim := Text.Chars.trim_append_word hne hvisible [] []
  have hnil : trimStart [] = [] ∧ trimEnd [] = [] := ⟨rfl, rfl⟩
  rw [hnil.1, hnil.2, List.append_nil, List.nil_append] at htrim
  rw [← String.toList_inj, Text.toList_trim, htrim]

theorem connectionUrl_render {u : Url} (hu : IsNormal u) :
    connectionUrl u.render = .ok u.render ↔ u.IsAddressed := by
  have hstart := Url.toList_render hu.toIsReadable
  rw [← trim_render hu] at hstart
  rw [connectionUrl_server hu.scheme hstart, trim_render hu]
  by_cases ha : u.IsAddressed
  · simp [hu.parse_render_addressed ha, ha]
  · simp [hu.parse_render_refused ha, ha]

theorem isComplete_localServer {scheme : String} (hs : scheme ∈ serverSchemes) :
    IsComplete scheme (localServer scheme) where
  toIsReadable := (isFor_localServer hs).toIsReadable
  segments segments h := by
    cases h
    simp
  query := by simp [localServer]
  fragment := by simp [localServer]
  ofSystem := rfl
  named := rfl

-- ---------------------------------------------------------------------------
-- The driver form
-- ---------------------------------------------------------------------------

section

variable {system : String} {u v : Url}

theorem isComplete_withAddress? (hu : IsComplete system u) {address : String}
    (h : withAddress? u address = some v) : IsComplete system v := by
  obtain ⟨host, port, w, hnamed, hport, hw, hv⟩ := withAddress?_eq_some h
  exact (hu.setPlainHost? hnamed hw).setPort? hport hv

theorem isComplete_withCharsets (hu : IsComplete system u) (parameters : String) :
    IsComplete system (withCharsets u parameters) :=
  withCharsets_induction hu (fun value hw => hw.appendPair "charset" value) parameters

theorem isComplete_withCredentials (hu : IsComplete system u)
    {user password database parameters : String}
    (h : ((u.setUsername? user).bind fun w => (withPassword? w password).bind fun w =>
      some (withCharsets (w.setPath database) parameters)) = some v) : IsComplete system v := by
  obtain ⟨named, hnamed, h⟩ := Option.bind_eq_some_iff.mp h
  obtain ⟨secured, hsecured, h⟩ := Option.bind_eq_some_iff.mp h
  obtain rfl := Option.some.inj h
  have hnamed := hu.setUsername? hnamed
  have hsecured : IsComplete system secured := by
    unfold withPassword? at hsecured
    split at hsecured
    · exact Option.some.inj hsecured ▸ hnamed
    · exact hnamed.setPassword? hsecured
  exact isComplete_withCharsets (hsecured.setPath database) parameters

theorem isComplete_ofDriverForm? {text : String} (h : ofDriverForm? text = some u) :
    IsComplete "mysql" u := by
  have hlocal : IsComplete "mysql" (localServer "mysql") := isComplete_localServer (by decide)
  unfold ofDriverForm? at h
  obtain ⟨⟨credentials, rest⟩, -, h⟩ := Option.bind_eq_some_iff.mp h
  obtain ⟨⟨protocol, rest⟩, -, h⟩ := Option.bind_eq_some_iff.mp h
  obtain ⟨⟨address, rest⟩, -, h⟩ := Option.bind_eq_some_iff.mp h
  simp only at h
  split at h
  · obtain ⟨server, hserver, h⟩ := Option.bind_eq_some_iff.mp h
    obtain rfl := Option.some.inj hserver
    exact isComplete_withCredentials (hlocal.appendPair "socket" address) h
  · obtain ⟨server, hserver, h⟩ := Option.bind_eq_some_iff.mp h
    exact isComplete_withCredentials (isComplete_withAddress? hlocal hserver) h

end

-- ---------------------------------------------------------------------------
-- Words
-- ---------------------------------------------------------------------------

theorem setPlainHost?_empty (u : Url) : u.setPlainHost? "" = some { u with host := none } := rfl

/-- What has been set after some of the words, an absent host and an absent port included. -/
structure HasSet (given : List String) (u : Url) : Prop extends HasRead given u where
  tail : u.HasEncodedTail
  no_host : wordValue? "host" given = some "" → u.host = none
  port_iff : u.port = none ↔ wordValue? "port" given = none

theorem HasSet.start : HasSet [] (localServer "postgres") where
  toHasRead := .start
  tail := (isComplete_localServer (by decide)).toHasEncodedTail
  no_host h := by cases h
  port_iff := ⟨fun _ => rfl, fun _ => rfl⟩

theorem HasSet.step {given : List String} {u v : Url} {word : String} (hu : HasSet given u)
    (h : withWord? u word = some v) : HasSet (given ++ [word]) v := by
  have hread := hu.toHasRead.step h
  obtain ⟨⟨key, value⟩, hword, h⟩ := Option.bind_eq_some_iff.mp h
  have hvalue := wordValue?_concat hword
  have hkeep (htail : v.HasEncodedTail) (hhost : v.host = u.host) (hport : v.port = u.port)
      (hkey : key ∉ ["host", "port"]) : HasSet (given ++ [word]) v := by
    simp only [List.mem_cons, List.not_mem_nil, or_false, not_or] at hkey
    refine ⟨hread, htail, ?_, ?_⟩
    · rw [hvalue, if_neg hkey.1, hhost]
      exact hu.no_host
    · rw [hvalue, if_neg hkey.2, hport]
      exact hu.port_iff
  have hnormal : IsNormal u := ⟨hu.isFor.toIsReadable, hu.tail⟩
  -- One case for each key that is known, and one for all others.
  dsimp only at h
  split at h
  · refine ⟨hread, hu.tail.setPlainHost? h, ?_, ?_⟩
    · rw [hvalue, if_pos rfl]
      rintro hempty
      obtain rfl := Option.some.inj hempty
      rw [setPlainHost?_empty] at h
      exact Option.some.inj h ▸ rfl
    · rw [hvalue, if_neg (by decide), (hu.isFor.setPlainHost? h).2.1]
      exact hu.port_iff
  · obtain ⟨n, hn, h⟩ := Option.bind_eq_some_iff.mp h
    obtain ⟨-, hhost, hport⟩ := hu.isFor.setPort? (portOf?_lt hn) h
    refine ⟨hread, hu.tail.setPort? h, ?_, ?_⟩
    · rw [hvalue, if_neg (by decide), hhost]
      exact hu.no_host
    · simp [hvalue, hport]
  · obtain ⟨-, hhost, hport⟩ := hu.isFor.setUsername? h
    exact hkeep (hu.tail.setUsername? h) hhost hport (by decide)
  · obtain ⟨-, hhost, hport⟩ := hu.isFor.setPassword? h
    exact hkeep (hu.tail.setPassword? h) hhost hport (by decide)
  · cases h
    obtain ⟨-, hhost, hport⟩ := hu.isFor.setPath value
    exact hkeep (.setPath hnormal.scheme hu.tail value) hhost hport (by decide)
  · cases h
    exact hkeep (hu.tail.appendPair "sslmode" value) rfl rfl (by decide)
  · cases h
    exact hkeep hu.tail rfl rfl (by simp_all)

/-- An address of words, the last of which that names a host is empty, after a user, a password or
a port was given. -/
structure LosesHost (dsn : String) : Prop where
  no_scheme : namesScheme dsn = false
  no_driver : isDriverForm (trim dsn) = false
  host : wordValue? "host" (words dsn) = some ""
  given : (wordValue? "user" (words dsn)).getD "" ≠ "" ∨
    (wordValue? "password" (words dsn)).getD "" ≠ "" ∨ wordValue? "port" (words dsn) ≠ none

instance (dsn : String) : Decidable (LosesHost dsn) :=
  decidable_of_iff
    (namesScheme dsn = false ∧ isDriverForm (trim dsn) = false ∧
      wordValue? "host" (words dsn) = some "" ∧
      ((wordValue? "user" (words dsn)).getD "" ≠ "" ∨
        (wordValue? "password" (words dsn)).getD "" ≠ "" ∨ wordValue? "port" (words dsn) ≠ none))
    ⟨fun ⟨h₁, h₂, h₃, h₄⟩ => ⟨h₁, h₂, h₃, h₄⟩, fun ⟨h₁, h₂, h₃, h₄⟩ => ⟨h₁, h₂, h₃, h₄⟩⟩

theorem hasSet_ofWords? {dsn : String} {u : Url} (h : ofWords? (trim dsn) = some u) :
    HasSet (words dsn) u := by
  rw [ofWords?, Text.words_trim] at h
  exact foldlM_withWord?_induction HasSet.start HasSet.step h

theorem encode_eq_empty_iff {s : String} : Url.encode s.toList = "" ↔ s = "" := by
  constructor
  · intro h
    by_contra hne
    have hencoded := Url.isSecret_encode (s := s.toList) (by simpa using hne)
    exact hencoded.nonempty (by simp [h])
  · rintro rfl
    rfl

theorem HasSet.isAddressed_iff {given : List String} {u : Url} (hu : HasSet given u) :
    u.IsAddressed ↔ (wordValue? "host" given = some "" →
      (wordValue? "user" given).getD "" = "" ∧ (wordValue? "password" given).getD "" = "" ∧
        wordValue? "port" given = none) := by
  have hhost : u.host = none ↔ wordValue? "host" given = some "" := by
    refine ⟨fun hnone => ?_, hu.no_host⟩
    by_contra hgiven
    simpa [hnone] using hu.host hgiven
  have hpassword : u.password = none ↔ u.password.getD "" = "" := by
    cases hp : u.password with
    | none => simp
    | some p => simpa using (hu.isFor.password p hp).nonempty
  rw [Url.IsAddressed, hhost, hpassword, hu.isFor.ofName, hu.isFor.ofSecret, encode_eq_empty_iff,
    encode_eq_empty_iff, hu.port_iff]

theorem HasSet.isAddressed_iff_keeps {dsn : String} {u : Url} (hu : HasSet (words dsn) u)
    (hn : namesScheme dsn = false) (hd : isDriverForm (trim dsn) = false) :
    u.IsAddressed ↔ ¬LosesHost dsn := by
  rw [hu.isAddressed_iff]
  constructor
  · rintro h ⟨-, -, hhost, hgiven⟩
    obtain ⟨huser, hpassword, hport⟩ := h hhost
    simp_all
  · intro h hhost
    by_contra hgiven
    refine h ⟨hn, hd, hhost, ?_⟩
    simpa only [not_and_or] using hgiven

theorem keepsHost_of_namesScheme {dsn : String} (h : namesScheme dsn) : ¬LosesHost dsn :=
  fun hlost => absurd (hlost.no_scheme.symm.trans h) Bool.false_ne_true

-- ---------------------------------------------------------------------------
-- Results
-- ---------------------------------------------------------------------------

/-- A connection URL is its own connection URL, unless words have lost their host, and names the
system of the form of the address. -/
theorem connectionUrl_is_normal {dsn url : String} (h : connectionUrl dsn = .ok url) :
    (connectionUrl url = .ok url ↔ ¬LosesHost dsn) ∧
    ∃ system, systemOf? (trim dsn) = some system ∧ backendOf url = .ok system := by
  cases isMade_of_connectionUrl h with
  | @path path htrim =>
    have hstart : startsWith "sqlite:" (trim dsn) := by
      rw [startsWith, List.isPrefixOf_iff_prefix, htrim, String.toList_append]
      exact List.prefix_append _ _
    have hkept : ¬LosesHost dsn := keepsHost_of_namesScheme (by simp [namesScheme, hstart])
    exact ⟨iff_of_true (connectionUrl_sqliteUrl htrim) hkept, .sqlite, by simp [systemOf?, hstart],
      backendOf_sqliteUrl path⟩
  | @url scheme u hs hstart hu =>
    obtain ⟨rest, hrest⟩ := toList_of_startsWith hstart
    obtain ⟨hnormal, haddressed, rfl⟩ := Url.isNormal_of_parse hs hrest hu
    have hnamed : urlSchemes.any (startsWith · (trim dsn)) := by
      rw [urlSchemes_eq, List.any_map, List.any_eq_true]
      exact ⟨u.scheme, hs, hstart⟩
    have hkept : ¬LosesHost dsn := keepsHost_of_namesScheme (by simp [namesScheme, hnamed])
    exact ⟨iff_of_true ((connectionUrl_render hnormal).mpr haddressed) hkept, _,
      systemOf?_server hs hrest, backendOf_render hnormal.toIsReadable⟩
  | @driver u hn hd hu =>
    have hcomplete := isComplete_ofDriverForm? hu
    have hnormal := hcomplete.toIsNormal
    have hkept : ¬LosesHost dsn :=
      fun hlost => absurd (hlost.no_driver.symm.trans hd) Bool.false_ne_true
    refine ⟨iff_of_true ((connectionUrl_render hnormal).mpr hcomplete.isAddressed) hkept, .mysql, ?_, ?_⟩
    · rw [systemOf?_of_no_scheme hn, if_pos hd]
    · rw [backendOf_render hnormal.toIsReadable, if_pos hcomplete.ofSystem]
  | @words u hn hd he hu =>
    have hset := hasSet_ofWords? hu
    have hnormal : IsNormal u := ⟨hset.isFor.toIsReadable, hset.tail⟩
    refine ⟨(connectionUrl_render hnormal).trans (hset.isAddressed_iff_keeps hn hd), .postgres,
      ?_, ?_⟩
    · rw [systemOf?_of_no_scheme hn, hd, if_neg (by simp), if_pos he]
    · rw [backendOf_render hnormal.toIsReadable, hset.isFor.ofSystem, if_neg (by decide)]

theorem connectionUrl_is_normal_sample :
    let made := "mysql://root:p%40ss@db:3307/b?charset=utf8"
    (connectionUrl " root:p@ss@tcp(db:3307)/a/../b?charset=utf8" = .ok made ∧
      connectionUrl made = .ok made ∧ backendOf made = .ok .mysql) ∧
    connectionUrl "port=5432 host=" = .ok "postgres://:5432" ∧
    connectionUrl "postgres://:5432" ≠ .ok "postgres://:5432" := by
  intro made
  have hmade : connectionUrl " root:p@ss@tcp(db:3307)/a/../b?charset=utf8" = .ok made := by
    decide +kernel
  have hlost : connectionUrl "port=5432 host=" = .ok "postgres://:5432" := by decide +kernel
  obtain ⟨hself, system, hsystem, hbackend⟩ := connectionUrl_is_normal hmade
  have hmysql : systemOf? (trim " root:p@ss@tcp(db:3307)/a/../b?charset=utf8") = some .mysql := by
    decide +kernel
  obtain rfl := Option.some.inj (hmysql.symm.trans hsystem)
  exact ⟨⟨hmade, hself.mpr (by decide +kernel), hbackend⟩, hlost,
    fun h => (connectionUrl_is_normal hlost).1.mp h (by decide +kernel)⟩

/-- A host that is taken away after a user was given leaves a URL that is refused. -/
theorem lost_host_refused :
    connectionUrl "user=u host=" = .ok "postgres://u@" ∧
    connectionUrl "postgres://u@" = .error (.invalidDsn "empty host") := by
  decide +kernel

end ChannelKeeper.Dsn
