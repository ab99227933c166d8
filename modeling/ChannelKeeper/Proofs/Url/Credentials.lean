import ChannelKeeper.Proofs.Text.Split
import ChannelKeeper.Url.Parser

/-!
# URLs with credentials

Where the URL of a database server leads is settled by all but its password, and
setting another part leaves the password alone. An encoded name or password holds none
of the characters that end one. Nothing is said of the schemes of the web, whose hosts
are read in another way.
-/

namespace ChannelKeeper.Url

open Text (isBlank)
open Text.Chars (splitOnce splitLast splitOnce_eq_some splitOnce_eq_none splitLast_eq_some
  splitLast_eq_none)

-- ---------------------------------------------------------------------------
-- Characters
-- ---------------------------------------------------------------------------

/-- A character that stands for itself in a name or password. -/
def isPlain (c : Char) : Bool := !(inUserinfoSet c || 0x80 ≤ c.toNat)

theorem lt_of_isPlain {c : Char} (h : isPlain c) : c.toNat < 0x80 := by
  simp only [isPlain, Bool.not_eq_true', Bool.or_eq_false_iff, decide_eq_false_iff_not] at h
  omega

theorem encodeChar_lt {c : Char} {n : Nat} (hn : n ∈ Text.Utf8.encodeChar c) : n < 0x100 := by
  have hc : c.toNat < 0x110000 := by
    rcases c.valid with h | h <;> simp only [Char.toNat] <;> omega
  unfold Text.Utf8.encodeChar at hn
  simp only at hn
  split_ifs at hn <;> simp only [List.mem_cons, List.not_mem_nil, or_false] at hn <;> omega

theorem encodeChar_ne_nil (c : Char) : Text.Utf8.encodeChar c ≠ [] := by
  unfold Text.Utf8.encodeChar
  simp only
  split_ifs <;> simp

theorem percentOctet_all {n : Nat} (hn : n < 0x100) : (percentOctet n).all isPlain := by
  have hdigit : ∀ k < 16, isPlain (hexUpper k) := by decide
  have hhigh := hdigit (n / 16) (by omega)
  have hlow := hdigit (n % 16) (by omega)
  have hpercent : isPlain '%' := by decide
  simp [percentOctet, hpercent, hhigh, hlow]

theorem mem_percentEncode {inSet : Char → Bool} {s : List Char} {d : Char}
    (h : d ∈ percentEncode inSet s) : isPlain d ∨ d ∈ s ∧ inSet d = false ∧ d.toNat < 0x80 := by
  obtain ⟨c, hc, hd⟩ := List.mem_flatMap.mp h
  split at hd
  · obtain ⟨n, hn, hd⟩ := List.mem_flatMap.mp hd
    exact .inl (List.all_eq_true.mp (percentOctet_all (encodeChar_lt hn)) d hd)
  · rename_i hkept
    obtain rfl : d = c := by simpa using hd
    exact .inr ⟨hc, by simpa using hkept⟩

theorem percentEncode_all (s : List Char) : (percentEncode inUserinfoSet s).all isPlain := by
  rw [List.all_eq_true]
  intro d hd
  rcases mem_percentEncode hd with hplain | ⟨-, hset, hlt⟩
  · exact hplain
  · simp [isPlain, hset, hlt]

theorem percentEncode_ne_nil {inSet : Char → Bool} {s : List Char} (h : s ≠ []) :
    percentEncode inSet s ≠ [] := by
  obtain ⟨c, rest, rfl⟩ := List.exists_cons_of_ne_nil h
  obtain ⟨n, ns, hn⟩ := List.exists_cons_of_ne_nil (encodeChar_ne_nil c)
  rw [percentEncode, List.flatMap_cons]
  split <;> simp [hn, percentOctet]

theorem not_isPlain {c : Char} (h : c.toNat ≤ 0x20 ∨ c ∈ ['/', '?', '#', ':', '@']) :
    isPlain c = false := by
  rcases h with h | h
  · have hset : inUserinfoSet c = true := by
      rcases Nat.lt_or_eq_of_le h with hlt | heq
      · simp [inUserinfoSet, inPathSet, inFragmentSet, isControl, hlt]
      · obtain rfl : c = ' ' := Char.toNat_inj.mp heq
        decide
    simp [isPlain, hset]
  · revert c
    decide

theorem isBlank_of_isPlain {c : Char} (h : isPlain c) : isBlank c = false := by
  have hlow : ¬ c.toNat ≤ 0x20 := fun hle => by simp [not_isPlain (.inl hle)] at h
  have hhigh := lt_of_isPlain h
  simp only [isBlank, Bool.or_eq_false_iff, Bool.and_eq_false_iff, decide_eq_false_iff_not,
    beq_eq_false_iff_ne]
  omega

-- ---------------------------------------------------------------------------
-- Cleaning
-- ---------------------------------------------------------------------------

/-- Controls and blanks at the ends of a text are dropped. -/
def isEdge (c : Char) : Bool := c.toNat ≤ 0x20

theorem not_isDropped {c : Char} (h : isEdge c = false) : isDropped c = false := by
  rw [isDropped, Bool.or_eq_false_iff, Bool.or_eq_false_iff]
  refine ⟨⟨?_, ?_⟩, ?_⟩ <;> rw [beq_eq_false_iff_ne] <;> rintro rfl <;> contradiction

/-- A character that is not dropped stays between what is left on its two sides. -/
theorem cleaned_eq {text : String} {a b : List Char} {c : Char} (h : text.toList = a ++ c :: b)
    (hc : isEdge c = false) :
    cleaned text = (a.dropWhile isEdge).filter (!isDropped ·) ++
      c :: (b.rdropWhile isEdge).filter (!isDropped ·) := by
  have htrim : cleaned text =
      ((text.toList.dropWhile isEdge).rdropWhile isEdge).filter (!isDropped ·) := rfl
  rw [htrim, h, Lists.dropWhile_append_cons hc, Lists.rdropWhile_append_cons hc, List.filter_append,
    List.filter_cons_of_pos (by simp [not_isDropped hc])]

-- ---------------------------------------------------------------------------
-- Schemes
-- ---------------------------------------------------------------------------

theorem schemeOf_append {name : List Char} (h : ':' ∉ name) (rest : List Char) :
    schemeOf (name ++ ':' :: rest) =
      (schemeOf (name ++ [':'])).map fun (scheme, _) => (scheme, rest) := by
  have hsplit (r : List Char) : splitOnce ':' (name ++ ':' :: r) = some (name, r) :=
    splitOnce_eq_some.mpr ⟨rfl, h⟩
  cases name with
  | nil => rfl
  | cons c more =>
    simp only [List.cons_append] at hsplit
    simp only [List.cons_append, schemeOf, hsplit]
    split <;> rfl

theorem schemeOf_equals {key : List Char} (h : ':' ∉ key) (rest : List Char) :
    schemeOf (key ++ '=' :: rest) = none := by
  have hall (more : List Char) : (key ++ '=' :: more).all
      (fun c => c.isAlphanum || c == '+' || c == '-' || c == '.') = false := by
    rw [List.all_eq_false]
    exact ⟨'=', by simp, by decide⟩
  cases hrest : splitOnce ':' rest with
  | none =>
    have hsplit : splitOnce ':' (key ++ '=' :: rest) = none := by
      rw [splitOnce_eq_none] at hrest ⊢
      simp [h, hrest]
    cases key <;> simp_all [schemeOf]
  | some parts =>
    obtain ⟨more, after⟩ := parts
    obtain ⟨rfl, hmore⟩ := splitOnce_eq_some.mp hrest
    have hsplit : splitOnce ':' (key ++ '=' :: (more ++ ':' :: after)) =
        some (key ++ '=' :: more, after) := by
      rw [splitOnce_eq_some]
      simp [h, hmore]
    cases key <;> simp_all [schemeOf]

-- ---------------------------------------------------------------------------
-- Authorities
-- ---------------------------------------------------------------------------

/-- Host and port of an authority with credentials, which has to have a host. -/
def hostPortOf (scheme : String) (s : List Char) : Except Fault (Host × Option Nat) := do
  let (hostChars, portChars) := splitHost false s
  let host ← Host.parsePlain hostChars
  if host == .domain "" then throw .emptyHost
  let port ← portOf scheme (portChars.drop 1)
  return (host, port)

def encode (s : List Char) : String := String.ofList (percentEncode inUserinfoSet s)

theorem authorityOf_credentials {scheme : String} (hs : isSpecialScheme scheme = false)
    {user password host : List Char} (hu : ':' ∉ user) (hp : password ≠ []) (hh : '@' ∉ host) :
    authorityOf scheme (user ++ ':' :: (password ++ '@' :: host)) =
      (hostPortOf scheme host).map fun (host, port) =>
        { scheme := scheme, hasAuthority := true, username := encode user,
          password := some (encode password), host := some host, port := port } := by
  have hat : splitLast '@' (user ++ ':' :: (password ++ '@' :: host)) =
      some (user ++ ':' :: password, host) := splitLast_eq_some.mpr ⟨by simp, hh⟩
  have hcolon : splitOnce ':' (user ++ ':' :: password) = some (user, password) :=
    splitOnce_eq_some.mpr ⟨rfl, hu⟩
  have huserinfo : userinfoOf (user ++ ':' :: password) =
      (encode user, some (encode password)) := by
    obtain ⟨c, rest, rfl⟩ := List.exists_cons_of_ne_nil hp
    simp only [userinfoOf, hcolon]
    rfl
  have hne : (some (user ++ ':' :: password) == some []) = false := by simp
  simp only [authorityOf, hostPortOf, hs, hat, huserinfo, Option.getD_some, hne, Bool.false_and]
  generalize splitHost false host = parts
  obtain ⟨hostChars, portChars⟩ := parts
  simp only
  cases Host.parsePlain hostChars with
  | error fault => rfl
  | ok found =>
    cases hf : found == Host.domain "" with
    | true =>
      -- without a host the port is not looked at
      cases portChars <;> simp [hf, bind, Except.bind, portOf, throw, throwThe,
        MonadExceptOf.throw, Except.map]
    | false =>
      cases portOf scheme (portChars.drop 1) <;>
        simp [hf, bind, Except.bind, pure, Except.pure, Except.map]

/-- The name ends at the first colon, so what follows one in it counts to the password. -/
theorem exists_name_end (user : List Char) : ∃ name front, ':' ∉ name ∧
    ∀ s : List Char, user ++ ':' :: s = name ++ ':' :: (front ++ s) := by
  cases h : splitOnce ':' user with
  | none => exact ⟨user, [], splitOnce_eq_none.mp h, fun s => rfl⟩
  | some parts =>
    obtain ⟨name, after⟩ := parts
    obtain ⟨rfl, hname⟩ := splitOnce_eq_some.mp h
    exact ⟨name, after ++ [':'], hname, fun s => by simp⟩

/-- The credentials end at the last at sign, so one in what follows them counts among them. -/
theorem exists_credentials_end (tail : List Char) : ∃ more host, '@' ∉ host ∧
    ∀ password : List Char, password ++ '@' :: tail = (password ++ more) ++ '@' :: host := by
  cases h : splitLast '@' tail with
  | none => exact ⟨[], tail, splitLast_eq_none.mp h, fun password => by simp⟩
  | some parts =>
    obtain ⟨before, after⟩ := parts
    obtain ⟨rfl, hafter⟩ := splitLast_eq_some.mp h
    exact ⟨'@' :: before, after, hafter, fun password => by simp⟩

-- ---------------------------------------------------------------------------
-- Whole URLs
-- ---------------------------------------------------------------------------

/-- The schemes that are taken for those of a database server. -/
def serverSchemes : List String := ["mysql", "postgres", "postgresql"]

theorem mem_serverSchemes {scheme : String} : scheme ∈ serverSchemes ↔
    scheme = "mysql" ∨ scheme = "postgres" ∨ scheme = "postgresql" := by
  simp [serverSchemes]

def credentialed (scheme : String) (user password rest : List Char) : List Char :=
  scheme.toList ++ ':' :: '/' :: '/' :: (user ++ ':' :: (password ++ '@' :: rest))

def StaysInside (s : List Char) : Prop := ∀ c ∈ s, endsAuthority false c = false

instance (s : List Char) : Decidable (StaysInside s) :=
  inferInstanceAs (Decidable (∀ c ∈ s, endsAuthority false c = false))

theorem staysInside_of_plain {s : List Char} (h : s.all isPlain) : StaysInside s := by
  intro c hc
  have hplain := List.all_eq_true.mp h c hc
  by_contra hends
  simp only [endsAuthority, Bool.false_and, Bool.or_false, Bool.or_eq_true, beq_iff_eq,
    Bool.not_eq_false] at hends
  rcases hends with (rfl | rfl) | rfl <;> contradiction

/-- A URL of a database server, its name encoded. It may lack a host. -/
structure IsServer (u : Url) : Prop where
  scheme : u.scheme ∈ serverSchemes
  authority : u.hasAuthority
  username : u.username.toList.all isPlain

theorem IsServer.takesCredentials {u : Url} (h : IsServer u) (hh : u.host.isSome) :
    u.takesCredentials := by
  have hfile : ∀ scheme ∈ serverSchemes, (scheme != "file") = true := by decide
  rw [Url.takesCredentials, hh, hfile u.scheme h.scheme]
  rfl

theorem setPassword?_password (u : Url) (old : Option String) (new : String) :
    ({ u with password := old } : Url).setPassword? new = u.setPassword? new := rfl

/-- The authority goes on at least to the at sign after the password. -/
theorem authority_credentials {user password : List Char} (hi : StaysInside user)
    (hp : StaysInside password) (rest : List Char) :
    (user ++ ':' :: (password ++ '@' :: rest)).takeWhile (!endsAuthority false ·) =
        user ++ ':' :: (password ++ '@' :: rest.takeWhile (!endsAuthority false ·)) ∧
      (user ++ ':' :: (password ++ '@' :: rest)).dropWhile (!endsAuthority false ·) =
        rest.dropWhile (!endsAuthority false ·) := by
  have hinside : ∀ c ∈ user ++ ':' :: (password ++ ['@']), (!endsAuthority false c) = true := by
    intro c hc
    rw [Bool.not_eq_true']
    simp only [List.mem_append, List.mem_cons, List.not_mem_nil, or_false] at hc
    rcases hc with hc | rfl | hc | rfl
    · exact hi c hc
    · rfl
    · exact hp c hc
    · rfl
  have hparts (s : List Char) : user ++ ':' :: (password ++ '@' :: s) =
      (user ++ ':' :: (password ++ ['@'])) ++ s := by simp
  rw [hparts rest, hparts (rest.takeWhile _), List.takeWhile_append_of_pos hinside,
    List.dropWhile_append_of_pos hinside]
  exact ⟨rfl, rfl⟩

theorem afterSlashes_credentials {scheme : String} (hs : scheme ∈ serverSchemes)
    {user : List Char} (hi : StaysInside user) (rest : List Char) :
    ∃ (front more : List Char) (opened : Except Fault Url),
      (∀ u, opened = .ok u → IsServer u ∧ u.host.isSome) ∧
      ∀ password ≠ [], StaysInside password →
        afterSlashes scheme (user ++ ':' :: (password ++ '@' :: rest)) =
          opened.map fun u => { u with password := some (encode (front ++ (password ++ more))) } := by
  have hplain : isSpecialScheme scheme = false := by revert scheme; decide
  obtain ⟨name, front, hname, hfront⟩ := exists_name_end user
  obtain ⟨more, host, hhost, hmore⟩ :=
    exists_credentials_end (rest.takeWhile fun c => !endsAuthority false c)
  let tail := tailOf false (rest.dropWhile fun c => !endsAuthority false c)
  refine ⟨front, more, (hostPortOf scheme host).map fun (host, port) =>
    { scheme := scheme, hasAuthority := true, username := encode name, host := some host,
      port := port, path := pathOf false tail.path, query := tail.query,
      fragment := tail.fragment }, ?_, ?_⟩
  · intro u hopened
    obtain ⟨found, -, rfl⟩ := map_eq_ok.mp hopened
    exact ⟨⟨hs, rfl, by simpa [encode] using percentEncode_all name⟩, rfl⟩
  · intro password hp hpi
    obtain ⟨htake, hdrop⟩ := authority_credentials hi hpi rest
    have hne : front ++ (password ++ more) ≠ [] := by simp [hp]
    -- the colon and the at sign that are read may stand apart from the password
    have hread : user ++ ':' :: (password ++ '@' :: rest.takeWhile (!endsAuthority false ·)) =
        name ++ ':' :: ((front ++ (password ++ more)) ++ '@' :: host) := by
      rw [hmore, hfront, List.append_assoc front]
    rw [afterSlashes, hplain, htake, hread, hdrop, authorityOf_credentials hplain hname hne hhost]
    cases hostPortOf scheme host <;> rfl

theorem schemeOf_server : ∀ scheme ∈ serverSchemes,
    ':' ∉ scheme.toList ∧ schemeOf (scheme.toList ++ [':']) = some (scheme, []) := by
  decide

theorem parse_of_cleaned {scheme text : String} (hs : scheme ∈ serverSchemes) {rest : List Char}
    (h : cleaned text = scheme.toList ++ ':' :: '/' :: '/' :: rest) :
    parse text = afterSlashes scheme rest := by
  obtain ⟨hcolon, hscheme⟩ := schemeOf_server scheme hs
  rw [parse, h, schemeOf_append hcolon, hscheme]
  rcases mem_serverSchemes.mp hs with rfl | rfl | rfl <;> rfl

theorem cleaned_of_server {scheme text : String} (hs : scheme ∈ serverSchemes) {rest : List Char}
    (h : text.toList = scheme.toList ++ ':' :: '/' :: '/' :: rest) :
    cleaned text = scheme.toList ++
      ':' :: '/' :: '/' :: (rest.rdropWhile isEdge).filter (!isDropped ·) := by
  have hsplit : text.toList = (scheme.toList ++ [':', '/']) ++ '/' :: rest := by simp [h]
  have hfront : ((scheme.toList ++ [':', '/']).dropWhile isEdge).filter (!isDropped ·) =
      scheme.toList ++ [':', '/'] := by
    rcases mem_serverSchemes.mp hs with rfl | rfl | rfl <;> rfl
  rw [cleaned_eq hsplit (by decide), hfront]
  simp

/-- Where a URL with credentials leads is settled by all but the password. -/
theorem parse_credentials {scheme : String} (hs : scheme ∈ serverSchemes)
    {user : List Char} (hi : StaysInside user) (rest : List Char) :
    ∃ (front more : List Char) (opened : Except Fault Url),
      (∀ u, opened = .ok u → IsServer u ∧ u.host.isSome) ∧
      ∀ password ≠ [], StaysInside password → (∀ c ∈ password, isDropped c = false) →
        parse (String.ofList (credentialed scheme user password rest)) =
          opened.map fun u => { u with password := some (encode (front ++ (password ++ more))) } := by
  let user' := user.filter (!isDropped ·)
  let rest' := (rest.rdropWhile isEdge).filter (!isDropped ·)
  have hi' : StaysInside user' := fun c hc => hi c (List.mem_of_mem_filter hc)
  obtain ⟨front, more, opened, hserver, hopened⟩ := afterSlashes_credentials hs hi' rest'
  refine ⟨front, more, opened, hserver, fun password hp hpi hpd => ?_⟩
  have hpassword : password.filter (!isDropped ·) = password :=
    List.filter_eq_self.mpr fun c hc => by simp [hpd c hc]
  -- cleaning reaches the name and what follows the password, but neither scheme nor password
  have hclean : cleaned (String.ofList (credentialed scheme user password rest)) =
      scheme.toList ++ ':' :: '/' :: '/' :: (user' ++ ':' :: (password ++ '@' :: rest')) := by
    have hsplit : (String.ofList (credentialed scheme user password rest)).toList =
        (scheme.toList ++ ':' :: '/' :: '/' :: (user ++ ':' :: password)) ++ '@' :: rest := by
      simp [credentialed]
    have hfront (s : List Char) : (scheme.toList ++ ':' :: '/' :: '/' :: s).dropWhile isEdge =
        scheme.toList ++ ':' :: '/' :: '/' :: s := by
      rcases mem_serverSchemes.mp hs with rfl | rfl | rfl <;> rfl
    have hkept : (scheme.toList ++ [':', '/', '/']).filter (!isDropped ·) =
        scheme.toList ++ [':', '/', '/'] := by
      rcases mem_serverSchemes.mp hs with rfl | rfl | rfl <;> rfl
    have hassoc : scheme.toList ++ ':' :: '/' :: '/' :: (user ++ ':' :: password) =
        (scheme.toList ++ [':', '/', '/']) ++ (user ++ ':' :: password) := by simp
    rw [cleaned_eq hsplit (by decide), hfront, hassoc, List.filter_append, hkept,
      List.filter_append, List.filter_cons_of_pos (by decide), hpassword]
    simp [user', rest']
  rw [parse_of_cleaned hs hclean, hopened password hp hpi]

-- ---------------------------------------------------------------------------
-- Setting parts
-- ---------------------------------------------------------------------------

/-- A change of a URL that neither reads nor writes its password. -/
structure LeavesPassword (change : Url → Option Url) : Prop where
  password : ∀ u q, change { u with password := q } = (change u).map ({ · with password := q })
  server : ∀ u v, IsServer u → change u = some v → IsServer v

theorem leavesPassword_none : LeavesPassword fun _ => none where
  password _ _ := rfl
  server _ _ _ h := by contradiction

theorem leavesPassword_some : LeavesPassword some where
  password _ _ := rfl
  server _ _ hu h := Option.some.inj h ▸ hu

theorem leavesPassword_setUsername? (name : String) : LeavesPassword (·.setUsername? name) where
  password u q := by
    have htakes : ({ u with password := q } : Url).takesCredentials = u.takesCredentials := rfl
    cases h : u.takesCredentials <;> simp [setUsername?, htakes, h]
  server u v hu h := by
    obtain ⟨-, hv⟩ := Option.ite_none_right_eq_some.mp h
    obtain rfl := Option.some.inj hv
    exact ⟨hu.scheme, hu.authority, by simpa [encoded] using percentEncode_all name.toList⟩

theorem leavesPassword_setPort? (port : Option Nat) : LeavesPassword (·.setPort? port) where
  password u q := by
    have htakes : ({ u with password := q } : Url).takesCredentials = u.takesCredentials := rfl
    cases h : u.takesCredentials <;> simp [setPort?, htakes, h]
  server u v hu h := by
    obtain ⟨-, hv⟩ := Option.ite_none_right_eq_some.mp h
    obtain rfl := Option.some.inj hv
    exact ⟨hu.scheme, hu.authority, hu.username⟩

/-- The host that a name stands for; `none` within is no host. -/
theorem exists_setPlainHost? (name : String) : ∃ found : Option (Option Host),
    ∀ u : Url, u.setPlainHost? name = found.map fun host => { u with host := host } := by
  unfold setPlainHost?
  simp only
  generalize (if (name.toList.head? == some '[' && name.toList.getLast? == some ']') = true then
    some name.toList else _ : Option (List Char)) = chars?
  cases chars? with
  | none => exact ⟨none, fun u => rfl⟩
  | some chars =>
    simp only [Option.bind_some]
    split
    · exact ⟨some none, fun u => rfl⟩
    · rename_i host _ _
      exact ⟨some (some host), fun u => rfl⟩
    · exact ⟨none, fun u => rfl⟩

theorem leavesPassword_setPlainHost? (name : String) : LeavesPassword (·.setPlainHost? name) := by
  obtain ⟨found, hfound⟩ := exists_setPlainHost? name
  refine ⟨fun u q => ?_, fun u v hu h => ?_⟩
  · rw [hfound, hfound]
    cases found <;> rfl
  · rw [hfound] at h
    obtain ⟨host, -, rfl⟩ := Option.map_eq_some_iff.mp h
    exact ⟨hu.scheme, hu.authority, hu.username⟩

theorem exists_setPath (text : String) : ∃ path : Bool → Path,
    ∀ u : Url, u.setPath text = { u with path := path u.isSpecial } := by
  let s := text.toList.filter fun c => !isDropped c
  refine ⟨fun special => if (s.head? == some '?' || s.head? == some '#') && !special then .rooted []
    else pathOf special s, fun u => ?_⟩
  unfold setPath
  simp only [s]
  split <;> rfl

theorem leavesPassword_setPath (text : String) :
    LeavesPassword fun u => some (u.setPath text) := by
  obtain ⟨path, hpath⟩ := exists_setPath text
  refine ⟨fun u q => ?_, fun u v hu h => ?_⟩
  · rw [hpath, hpath]
    rfl
  · rw [hpath] at h
    obtain rfl := Option.some.inj h
    exact ⟨hu.scheme, hu.authority, hu.username⟩

theorem leavesPassword_appendPair (name value : String) :
    LeavesPassword fun u => some (u.appendPair name value) where
  password _ _ := rfl
  server u v hu h := by
    obtain rfl := Option.some.inj h
    exact ⟨hu.scheme, hu.authority, hu.username⟩

-- ---------------------------------------------------------------------------
-- One server
-- ---------------------------------------------------------------------------

/-- An encoded password. -/
structure IsSecret (s : String) : Prop where
  nonempty : s.toList ≠ []
  plain : s.toList.all isPlain

theorem isSecret_encode {s : List Char} (h : s ≠ []) : IsSecret (encode s) where
  nonempty := by simpa [encode] using percentEncode_ne_nil h
  plain := by simpa [encode] using percentEncode_all s

/-- URLs of one server that differ in a password at most. -/
inductive SameServer : Url → Url → Prop
  | same (u : Url) : SameServer u u
  | secret {u : Url} {p p' : String} (hu : IsServer u) (hp : IsSecret p) (hp' : IsSecret p') :
    SameServer { u with password := some p } { u with password := some p' }

theorem sameServer_refl : (found : Option Url) → Option.Rel SameServer found found
  | none => .none
  | some u => .some (.same u)

theorem SameServer.change {change : Url → Option Url} (hc : LeavesPassword change) {u u' : Url}
    (h : SameServer u u') : Option.Rel SameServer (change u) (change u') := by
  cases h with
  | same u => exact sameServer_refl _
  | @secret u p p' hu hp hp' =>
    rw [hc.password u (some p), hc.password u (some p')]
    cases hv : change u with
    | none => exact .none
    | some v => exact .some (.secret (hc.server u v hu hv) hp hp')

theorem SameServer.setPassword? {u u' : Url} (h : SameServer u u') (new : String) :
    u.setPassword? new = u'.setPassword? new := by
  cases h with
  | same u => rfl
  | @secret u p p' hu hp hp' =>
    rw [setPassword?_password u (some p), setPassword?_password u (some p')]

theorem IsServer.of_setPassword? {u v : Url} (hu : IsServer u) {new : String}
    (h : u.setPassword? new = some v) : IsServer v := by
  obtain ⟨-, hv⟩ := Option.ite_none_right_eq_some.mp h
  obtain rfl := Option.some.inj hv
  exact ⟨hu.scheme, hu.authority, hu.username⟩

theorem IsServer.setPassword? {u : Url} (hu : IsServer u) {new new' : String} (h : new ≠ "")
    (h' : new' ≠ "") : Option.Rel SameServer (u.setPassword? new) (u.setPassword? new') := by
  have hset {p : String} (hp : p ≠ "") : u.setPassword? p =
      if u.takesCredentials then some { u with password := some (encode p.toList) } else none := by
    simp [Url.setPassword?, encoded, encode, hp]
  have hsecret {p : String} (hp : p ≠ "") : IsSecret (encode p.toList) :=
    isSecret_encode (by simpa using hp)
  rw [hset h, hset h']
  split
  · exact .some (.secret hu (hsecret h) (hsecret h'))
  · exact .none

-- ---------------------------------------------------------------------------
-- Writing
-- ---------------------------------------------------------------------------

def afterCredentials (u : Url) : String :=
  u.hostText ++ u.portText ++ u.pathText ++ afterMark "?" u.query ++ afterMark "#" u.fragment

theorem render_credentials {u : Url} {password : String} (hu : u.hasAuthority)
    (hp : u.password = some password) :
    u.render.toList =
      credentialed u.scheme u.username.toList password.toList u.afterCredentials.toList := by
  simp [render, userinfoText, hu, hp, credentialed, afterCredentials]

end ChannelKeeper.Url
