import ChannelKeeper.Dsn
import ChannelKeeper.Proofs.Url.Credentials

/-!
# Masked addresses

What is shown of an address is settled by all but its password: of a URL with
credentials, of credentials that are not taken for a URL, and of words without an at
sign. Nothing is said of passwords with blanks.
-/

namespace ChannelKeeper.Dsn

open Text (isBlank occursIn trim words)
open Text.Chars (splitOnce_eq_some splitLast_eq_some splitLast_eq_none trimStart trimEnd
  trimStart_append_cons trimEnd_append_cons)
open Url (credentialed StaysInside serverSchemes)

-- ---------------------------------------------------------------------------
-- Passwords
-- ---------------------------------------------------------------------------

/-- A password that can stand in an address. -/
structure IsPassword (s : List Char) : Prop where
  nonempty : s ≠ []
  no_blank : ∀ c ∈ s, isBlank c = false

instance (s : List Char) : Decidable (IsPassword s) :=
  decidable_of_iff (s ≠ [] ∧ ∀ c ∈ s, isBlank c = false) ⟨fun h => ⟨h.1, h.2⟩, fun h => ⟨h.1, h.2⟩⟩

theorem IsPassword.no_dropped {s : List Char} (h : IsPassword s) :
    ∀ c ∈ s, Url.isDropped c = false := by
  intro c hc
  have hblank := h.no_blank c hc
  by_contra hd
  simp only [Url.isDropped, Bool.or_eq_true, beq_iff_eq, Bool.not_eq_false] at hd
  rcases hd with (rfl | rfl) | rfl <;> contradiction

-- ---------------------------------------------------------------------------
-- Credentials
-- ---------------------------------------------------------------------------

theorem maskedPlain_credentials {text : String} {name password host : List Char} (hn : ':' ∉ name)
    (hh : '@' ∉ host) (h : text.toList = name ++ ':' :: (password ++ '@' :: host)) :
    maskedPlain text = String.ofList name ++ ":***@" ++ String.ofList host := by
  have hat : Text.Chars.splitLast '@' text.toList = some (name ++ ':' :: password, host) :=
    splitLast_eq_some.mpr ⟨by simp [h], hh⟩
  have hcolon : Text.Chars.splitOnce ':' (name ++ ':' :: password) = some (name, password) :=
    splitOnce_eq_some.mpr ⟨rfl, hn⟩
  simp only [maskedPlain, Text.splitLast, hat, Option.map_some, Text.splitOnce,
    String.toList_ofList, hcolon]

theorem trim_credentials (user password rest : List Char) :
    Text.Chars.trim (user ++ ':' :: (password ++ '@' :: rest)) =
      trimStart user ++ ':' :: (password ++ '@' :: trimEnd rest) := by
  have hend := trimEnd_append_cons (c := '@') (by decide) (trimStart user ++ ':' :: password) rest
  rw [Text.Chars.trim, trimStart_append_cons (by decide)]
  simpa using hend

theorem exists_credentials (user rest : List Char) : ∃ name front back host,
    ':' ∉ name ∧ '@' ∉ host ∧ ∀ password : List Char,
      Text.Chars.trim (user ++ ':' :: (password ++ '@' :: rest)) =
        name ++ ':' :: ((front ++ (password ++ back)) ++ '@' :: host) := by
  obtain ⟨name, front, hname, hfront⟩ := Url.exists_name_end (trimStart user)
  obtain ⟨back, host, hhost, hback⟩ := Url.exists_credentials_end (trimEnd rest)
  refine ⟨name, front, back, host, hname, hhost, fun password => ?_⟩
  rw [trim_credentials, hback, hfront]
  simp

-- ---------------------------------------------------------------------------
-- Addresses that are no URLs
-- ---------------------------------------------------------------------------

/-- An address that begins like a URL and has the mark of one anywhere in it. -/
def seemsUrl (dsn : String) : Bool :=
  occursIn "://" (trim dsn) && (Url.schemeOf (Url.cleaned (trim dsn))).isSome

theorem masked_of_not_seemsUrl {dsn : String} (h : seemsUrl dsn = false) :
    masked dsn = maskedPlain (trim dsn) := by
  have hurl : maskedUrl? (trim dsn) = none := by
    unfold maskedUrl?
    cases hmark : occursIn "://" (trim dsn) with
    | false => rfl
    | true =>
      have hscheme : Url.schemeOf (Url.cleaned (trim dsn)) = none := by
        simpa [seemsUrl, hmark] using h
      simp only [Url.parse, hscheme, ↓reduceIte]
  rw [masked, hurl, Option.getD_none]

theorem masked_credentials (user rest : List Char) : ∃ shown, ∀ (password : List Char) (dsn : String),
    dsn.toList = user ++ ':' :: (password ++ '@' :: rest) → seemsUrl dsn = false →
      masked dsn = shown := by
  obtain ⟨name, front, back, host, hname, hhost, hparts⟩ := exists_credentials user rest
  refine ⟨String.ofList name ++ ":***@" ++ String.ofList host, fun password dsn hdsn h => ?_⟩
  rw [masked_of_not_seemsUrl h]
  exact maskedPlain_credentials hname hhost (by rw [Text.toList_trim, hdsn, hparts])

example : masked "root:12@45@tcp(db:3306)/gw" = "root:***@tcp(db:3306)/gw" := by decide +kernel

def passwordName : List Char := ['p', 'a', 's', 's', 'w', 'o', 'r', 'd']

theorem toList_passwordKey : "password=".toList = passwordName ++ ['='] := by decide

def passwordWord (password : List Char) : List Char := passwordName ++ '=' :: password

theorem passwordWord_ne_nil (password : List Char) : passwordWord password ≠ [] := by
  simp [passwordWord]

theorem IsPassword.word_no_blank {password : List Char} (h : IsPassword password) :
    ∀ c ∈ passwordWord password, isBlank c = false := by
  have hname : ∀ c ∈ passwordName, isBlank c = false := by decide
  intro c hc
  simp only [passwordWord, List.mem_append, List.mem_cons] at hc
  rcases hc with hc | rfl | hc
  · exact hname c hc
  · rfl
  · exact h.no_blank c hc

theorem trim_password {before after password : List Char} (hp : IsPassword password) {dsn : String}
    (h : dsn.toList = before ++ (passwordWord password ++ after)) :
    (trim dsn).toList = trimStart before ++ (passwordWord password ++ trimEnd after) := by
  rw [Text.toList_trim, h,
    Text.Chars.trim_append_word (passwordWord_ne_nil password) hp.word_no_blank]

theorem words_password {before after password : List Char} (hb : before.getLast?.all isBlank)
    (ha : after.head?.all isBlank) (hp : IsPassword password) {dsn : String}
    (h : dsn.toList = before ++ (passwordWord password ++ after)) :
    words (trim dsn) = (Text.Chars.words before).map String.ofList ++
      String.ofList (passwordWord password) :: (Text.Chars.words after).map String.ofList := by
  rw [Text.words_trim, words, h, Text.Chars.words_append_left hb,
    Text.Chars.words_append_right ha,
    Text.Chars.words_of_no_blank (passwordWord_ne_nil password) hp.word_no_blank]
  simp

theorem maskedWord_password (password : List Char) :
    maskedWord (String.ofList (passwordWord password)) = "password=***" := by
  have hstart : Text.startsWith "password=" (String.ofList (passwordWord password)) := by
    rw [Text.startsWith, toList_passwordKey, String.toList_ofList, List.isPrefixOf_iff_prefix]
    exact ⟨password, by simp [passwordWord]⟩
  rw [maskedWord, if_pos hstart]

theorem masked_words {before after : List Char} (hb : before.getLast?.all isBlank)
    (ha : after.head?.all isBlank) : ∃ shown, ∀ (password : List Char) (dsn : String),
      IsPassword password → dsn.toList = before ++ (passwordWord password ++ after) →
      '@' ∉ dsn.toList → seemsUrl dsn = false → masked dsn = shown := by
  refine ⟨Text.join " " (((Text.Chars.words before).map String.ofList).map maskedWord ++
    "password=***" :: ((Text.Chars.words after).map String.ofList).map maskedWord),
    fun password dsn hp hdsn hat h => ?_⟩
  have hlast : Text.splitLast '@' (trim dsn) = none := by
    rw [Text.splitLast, Option.map_eq_none_iff, splitLast_eq_none]
    exact Text.not_mem_trim hat
  have hkey : occursIn "password=" (trim dsn) := by
    rw [occursIn, Text.Chars.occursIn_iff, toList_passwordKey, trim_password hp hdsn]
    exact ⟨trimStart before, password ++ trimEnd after, by simp [passwordWord]⟩
  rw [masked_of_not_seemsUrl h, maskedPlain, hlast]
  simp only [hkey, ↓reduceIte, words_password hb ha hp hdsn, List.map_append, List.map_cons,
    maskedWord_password]

example : masked "host=pg password=secret" = "host=pg password=***" := by decide +kernel

-- ---------------------------------------------------------------------------
-- URLs with credentials
-- ---------------------------------------------------------------------------

theorem trim_credentialed {scheme : String} (hs : scheme ∈ serverSchemes)
    (user password rest : List Char) :
    trim (String.ofList (credentialed scheme user password rest)) =
      String.ofList (credentialed scheme user password (trimEnd rest)) := by
  have hstart : ∀ scheme ∈ serverSchemes, trimStart scheme.toList = scheme.toList := by decide
  have htrim := trim_credentials scheme.toList ('/' :: '/' :: (user ++ ':' :: password)) rest
  rw [hstart scheme hs] at htrim
  rw [← String.toList_inj, Text.toList_trim, String.toList_ofList, String.toList_ofList]
  simpa [credentialed] using htrim

theorem occursIn_credentialed (scheme : String) (user password rest : List Char) :
    Text.occursIn "://" (String.ofList (credentialed scheme user password rest)) := by
  have hmarker : "://".toList = [':', '/', '/'] := by simp
  rw [Text.occursIn, Text.Chars.occursIn_iff, hmarker, String.toList_ofList]
  exact ⟨scheme.toList, user ++ ':' :: (password ++ '@' :: rest), by simp [credentialed]⟩

/-- A URL with credentials is shown without its password, also when it cannot be read. -/
theorem masked_credentialed {scheme : String} (hs : scheme ∈ serverSchemes) {user : List Char}
    (hi : StaysInside user) (rest : List Char) :
    ∃ shown, ∀ password, IsPassword password → StaysInside password →
      masked (String.ofList (credentialed scheme user password rest)) = shown := by
  obtain ⟨front, more, opened, hserver, hopened⟩ := Url.parse_credentials hs hi (trimEnd rest)
  cases opened with
  | error fault =>
    -- what cannot be read is cut at its colon, which is that of the scheme
    obtain ⟨back, host, hhost, hback⟩ := Url.exists_credentials_end (trimEnd rest)
    refine ⟨scheme ++ ":***@" ++ String.ofList host, fun password hp hpi => ?_⟩
    have hparse := hopened password hp.nonempty hpi hp.no_dropped
    have hcolon : ':' ∉ scheme.toList := (Url.schemeOf_server scheme hs).1
    have hparts : (String.ofList (credentialed scheme user password (trimEnd rest))).toList =
        scheme.toList ++
          ':' :: (('/' :: '/' :: (user ++ ':' :: (password ++ back))) ++ '@' :: host) := by
      rw [String.toList_ofList, credentialed, hback]
      simp
    rw [masked, trim_credentialed hs, maskedUrl?, if_pos (occursIn_credentialed ..), hparse]
    simpa [Except.map] using maskedPlain_credentials hcolon hhost hparts
  | ok u =>
    obtain ⟨hu, hhost⟩ := hserver u rfl
    have htakes := hu.takesCredentials hhost
    refine ⟨((u.setPassword? "***").getD u).render, fun password hp hpi => ?_⟩
    have hparse := hopened password hp.nonempty hpi hp.no_dropped
    rw [masked, trim_credentialed hs, maskedUrl?, if_pos (occursIn_credentialed ..), hparse]
    simp only [Except.map, Option.isSome_some, ↓reduceIte, Option.getD_some,
      Url.setPassword?_password u]
    rw [Url.setPassword?, if_pos htakes]
    rfl

example : masked "mysql://root:123456@db/gw" = "mysql://root:***@db/gw" := by decide +kernel

end ChannelKeeper.Dsn
