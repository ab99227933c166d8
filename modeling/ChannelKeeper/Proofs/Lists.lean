import Mathlib.Algebra.GroupWithZero.Nat
import Mathlib.Data.List.DropRight
import Mathlib.Data.List.Nodup

/-!
# Lists and results

What the other modules need of lists, and of results that are made in steps, beyond the
libraries.
-/

namespace ChannelKeeper.Lists

/-- Goes through the list, where another instance would go through all characters there are. -/
instance decidableForallMem (p : Char → Prop) [DecidablePred p] (s : List Char) :
    Decidable (∀ c ∈ s, p c) :=
  List.decidableBAll p s

theorem nodup_eraseDups [BEq α] [LawfulBEq α] : (l : List α) → l.eraseDups.Nodup
  | [] => by simp
  | a :: rest => by
    rw [List.eraseDups_cons, List.nodup_cons, List.mem_eraseDups]
    exact ⟨by simp, nodup_eraseDups (rest.filter fun b => !b == a)⟩
termination_by l => l.length
decreasing_by
  have := List.length_filter_le (fun b => !b == a) rest
  simp only [List.length_cons]
  omega

theorem map_filterMap_sublist {f : β → γ} {g : α → Option β} {h : α → γ}
    (hf : ∀ a b, g a = some b → f b = h a) (l : List α) :
    ((l.filterMap g).map f).Sublist (l.map h) := by
  induction l with
  | nil => simp
  | cons a rest ih =>
    cases hg : g a with
    | none => simpa [hg] using ih.cons (h a)
    | some b => simpa [hg, hf a b hg] using ih.cons_cons (h a)

theorem flatMap_sublist {β : Type} {s t : List α} (h : s.Sublist t) (f : α → List β) :
    (s.flatMap f).Sublist (t.flatMap f) := by
  induction h with
  | slnil => exact .refl _
  | cons a _ ih =>
    rw [List.flatMap_cons]
    exact ih.trans (List.sublist_append_right _ _)
  | cons_cons a _ ih =>
    rw [List.flatMap_cons, List.flatMap_cons]
    exact ih.append_left _

theorem sublist_flatMap_append {f g : α → List β} (l : List α) :
    (l.flatMap g).Sublist (l.flatMap fun a => f a ++ g a) := by
  induction l with
  | nil => simp
  | cons a rest ih =>
    rw [List.flatMap_cons, List.flatMap_cons]
    exact (List.sublist_append_right (f a) (g a)).append ih

/-- What is put before the items of each part shows, unless it is nothing. -/
theorem flatMap_append_eq_iff {f g : α → List β} {l : List α} :
    (l.flatMap fun a => f a ++ g a) = l.flatMap g ↔ ∀ a ∈ l, f a = [] := by
  constructor
  · intro heq
    induction l with
    | nil => simp
    | cons a rest ih =>
      rw [List.flatMap_cons, List.flatMap_cons] at heq
      have hlength := congrArg List.length heq
      have hrest := (sublist_flatMap_append (f := f) (g := g) rest).length_le
      simp only [List.length_append] at hlength
      have hnone : f a = [] := List.length_eq_zero_iff.mp (by omega)
      rw [hnone, List.nil_append, List.append_cancel_left_eq] at heq
      exact List.forall_mem_cons.mpr ⟨hnone, ih heq⟩
  · intro h
    exact List.flatMap_congr fun a ha => by rw [h a ha, List.nil_append]

theorem sum_map_filterMap {M : Type} [AddMonoid M] {g : α → Option β} {weight : β → M}
    {total : α → M} (hs : ∀ a b, g a = some b → weight b = total a)
    (hn : ∀ a, g a = none → total a = 0) (l : List α) :
    ((l.filterMap g).map weight).sum = (l.map total).sum := by
  induction l with
  | nil => rfl
  | cons a rest ih =>
    cases hg : g a with
    | none => simpa [hg, hn a hg] using ih
    | some b =>
      rw [List.filterMap_cons_some hg, List.map_cons, List.map_cons, List.sum_cons, List.sum_cons,
        hs a b hg, ih]

theorem foldl_change_of_not_mem {key : α → γ} {keyOf : β → γ} {change : α → β → α} {bs : List β}
    {a : α} (hother : ∀ a b, keyOf b ≠ key a → change a b = a) (h : ∀ b ∈ bs, keyOf b ≠ key a) :
    bs.foldl change a = a := by
  induction bs with
  | nil => rfl
  | cons b rest ih =>
    obtain ⟨hb, hrest⟩ := List.forall_mem_cons.mp h
    rw [List.foldl_cons, hother a b hb]
    exact ih hrest

theorem foldl_change_of_mem {key : α → γ} {keyOf : β → γ} {change : α → β → α} {bs : List β} {a : α}
    (hkey : ∀ a b, key (change a b) = key a) (hother : ∀ a b, keyOf b ≠ key a → change a b = a)
    (hn : (bs.map keyOf).Nodup) (hb : b ∈ bs) (hown : keyOf b = key a) :
    bs.foldl change a = change a b := by
  induction bs with
  | nil => cases hb
  | cons b' rest ih =>
    obtain ⟨hb', hrest⟩ := List.nodup_cons.mp hn
    rw [List.foldl_cons]
    rcases List.mem_cons.mp hb with rfl | hb
    · refine foldl_change_of_not_mem hother fun b' hmem he => hb' (List.mem_map.mpr ⟨b', hmem, ?_⟩)
      rw [he, hkey, hown]
    · have hne : keyOf b' ≠ key a := fun he => hb' (List.mem_map.mpr ⟨b, hb, hown.trans he.symm⟩)
      rw [hother a b' hne]
      exact ih hrest hb

theorem getElem?_set_of_some {l : List α} (h : l[i]? = some b) (a : α) (j : Nat) :
    (l.set i a)[j]? = if j = i then some a else l[j]? := by
  obtain ⟨hi, -⟩ := List.getElem?_eq_some_iff.mp h
  rw [List.getElem?_set, if_pos hi]
  simp only [eq_comm]

theorem countP_set_of_some {l : List α} (h : l[i]? = some b) (a : α) (p : α → Bool) :
    (l.set i a).countP p + (if p b then 1 else 0) = l.countP p + if p a then 1 else 0 := by
  induction l generalizing i with
  | nil => simp at h
  | cons c rest ih =>
    cases i with
    | zero =>
      obtain rfl : c = b := by simpa using h
      simp only [List.set_cons_zero, List.countP_cons]
      omega
    | succ i =>
      have := ih (i := i) (by simpa using h)
      simp only [List.set_cons_succ, List.countP_cons]
      omega

theorem dropWhile_append_cons {p : α → Bool} {c : α} (hc : p c = false) (s t : List α) :
    (s ++ c :: t).dropWhile p = s.dropWhile p ++ c :: t := by
  induction s with
  | nil => simp [hc]
  | cons d rest ih => cases hd : p d <;> simp [hd, ih]

theorem takeWhile_append_cons {p : α → Bool} {c : α} (hc : p c = false) (s t : List α) :
    (s ++ c :: t).takeWhile p = s.takeWhile p := by
  induction s with
  | nil => simp [hc]
  | cons d rest ih => cases hd : p d <;> simp [hd, ih]

theorem rdropWhile_append_cons {p : α → Bool} {c : α} (hc : p c = false) (s t : List α) :
    (s ++ c :: t).rdropWhile p = s ++ c :: t.rdropWhile p := by
  simp only [List.rdropWhile, List.reverse_append, List.reverse_cons, List.append_assoc,
    List.singleton_append]
  rw [dropWhile_append_cons hc]
  simp

theorem rtakeWhile_append_cons {p : α → Bool} {c : α} (hc : p c = false) (s t : List α) :
    (s ++ c :: t).rtakeWhile p = t.rtakeWhile p := by
  simp only [List.rtakeWhile, List.reverse_append, List.reverse_cons, List.append_assoc,
    List.singleton_append]
  rw [takeWhile_append_cons hc]

theorem rdropWhile_append_of_forall {p : α → Bool} {s : List α} (h : ∀ c ∈ s, p c = false)
    (t : List α) : (s ++ t).rdropWhile p = s ++ t.rdropWhile p := by
  induction s using List.reverseRecOn with
  | nil => rfl
  | append_singleton s c _ => simpa using rdropWhile_append_cons (h c (by simp)) s t

/-- A filter does not notice that items at the end are dropped which it leaves out. -/
theorem filter_rdropWhile {p q : α → Bool} {s : List α} (h : ∀ c ∈ s.rtakeWhile p, q c = false) :
    (s.rdropWhile p).filter q = s.filter q := by
  have hrest : (s.rtakeWhile p).filter q = [] :=
    List.filter_eq_nil_iff.mpr fun c hc => by simp [h c hc]
  have hparts := congrArg (List.filter q) (List.rdropWhile_append_rtakeWhile (p := p) (l := s))
  rwa [List.filter_append, hrest, List.append_nil] at hparts

theorem forall_mem_of_mapM {f : α → Option β} {P : β → Prop} (hf : ∀ a b, f a = some b → P b)
    {l : List α} {bs : List β} (h : l.mapM f = some bs) : ∀ b ∈ bs, P b := by
  induction l generalizing bs with
  | nil =>
    obtain rfl : [] = bs := by simpa using h
    simp
  | cons a rest ih =>
    rw [List.mapM_cons] at h
    obtain ⟨b, hb, h⟩ := Option.bind_eq_some_iff.mp h
    obtain ⟨more, hmore, h⟩ := Option.bind_eq_some_iff.mp h
    cases h
    exact List.forall_mem_cons.mpr ⟨hf a b hb, ih hmore⟩

theorem mapM_map_eq_some {f : α → β} {g : β → Option α} {l : List α}
    (h : ∀ a ∈ l, g (f a) = some a) : (l.map f).mapM g = some l := by
  induction l with
  | nil => rfl
  | cons a rest ih =>
    have hrest := ih fun b hb => h b (List.mem_cons_of_mem a hb)
    simp [h a List.mem_cons_self, hrest]

/-- An item takes the place of those with its key, or comes last. -/
def putBy [BEq κ] (key : α → κ) (a : α) (l : List α) : List α :=
  if l.any (key · == key a) then l.map fun b => if key b == key a then a else b else l ++ [a]

section

variable [BEq κ] [LawfulBEq κ] (key : α → κ) (a : α) (l : List α)

theorem find?_putBy_self : (putBy key a l).find? (key · == key a) = some a := by
  unfold putBy
  split
  · rename_i h
    induction l with
    | nil => simp at h
    | cons b rest ih =>
      by_cases hb : key b = key a
      · simp [hb]
      · simpa [hb] using ih (by simpa [hb] using h)
  · rename_i h
    have hnone : l.find? (key · == key a) = none := by simpa using h
    simp [List.find?_append, hnone]

theorem find?_putBy_of_ne {k : κ} (h : k ≠ key a) :
    (putBy key a l).find? (key · == k) = l.find? (key · == k) := by
  unfold putBy
  split
  · clear * - h
    induction l with
    | nil => rfl
    | cons b rest ih =>
      by_cases hb : key b = key a
      · simp [hb, h.symm, ih]
      · by_cases hk : key b = k <;> simp [hb, hk, ih, h]
  · simp [List.find?_append, h.symm]

end

/-- Where the items that a test holds of come first, it splits the list at one place. -/
theorem append_inj_of_forall {p : α → Bool} {l₁ l₂ m₁ m₂ : List α} (h : l₁ ++ l₂ = m₁ ++ m₂)
    (hl₁ : ∀ a ∈ l₁, p a) (hl₂ : ∀ a ∈ l₂, !p a) (hm₁ : ∀ a ∈ m₁, p a) (hm₂ : ∀ a ∈ m₂, !p a) :
    l₁ = m₁ ∧ l₂ = m₂ := by
  have hfirst : ∀ {s t : List α}, (∀ a ∈ s, p a) → (∀ a ∈ t, !p a) → (s ++ t).filter p = s := by
    intro s t hs ht
    rw [List.filter_append, List.filter_eq_self.mpr hs, List.filter_eq_nil_iff.mpr, List.append_nil]
    exact fun a ha => by simpa using ht a ha
  obtain rfl : l₁ = m₁ := by rw [← hfirst hl₁ hl₂, h, hfirst hm₁ hm₂]
  exact ⟨rfl, List.append_cancel_left h⟩

theorem append_eq_append_cons {s t before after : List α} {a : α}
    (h : s ++ t = before ++ a :: after) :
    (∃ right, s = before ++ a :: right ∧ after = right ++ t) ∨
      ∃ left, before = s ++ left ∧ t = left ++ a :: after := by
  rcases List.append_eq_append_iff.mp h with hlater | ⟨within, hs, hplace⟩
  · exact .inr hlater
  · cases within with
    | nil => exact .inr ⟨[], by simpa using hs.symm, hplace.symm⟩
    | cons b right =>
      obtain ⟨rfl, hafter⟩ := List.cons.inj hplace
      exact .inl ⟨right, hs, hafter⟩

/-- A stricter test leaves a part of what another leaves, and all of it only if it
agrees on every item. -/
theorem map_filter_eq_iff {f : α → β} {p q : α → Bool} (h : ∀ a, p a = true → q a = true)
    {l : List α} : (l.filter p).map f = (l.filter q).map f ↔
      ∀ a ∈ l, q a = true → p a = true := by
  have hsub : (l.filter p).Sublist (l.filter q) := List.monotone_filter_right l h
  constructor
  · intro heq a ha hq
    have hlength := congrArg List.length heq
    rw [List.length_map, List.length_map] at hlength
    have hmem : a ∈ l.filter p := hsub.eq_of_length hlength ▸ List.mem_filter.mpr ⟨ha, hq⟩
    exact (List.mem_filter.mp hmem).2
  · intro hall
    refine congrArg _ (List.filter_congr fun a ha => ?_)
    exact Bool.eq_iff_iff.mpr ⟨h a, hall a ha⟩

theorem filter_mergeSort {le : α → α → Bool} (trans : ∀ a b c, le a b → le b c → le a c)
    (total : ∀ a b, le a b || le b a) (p : α → Bool) (l : List α) :
    (l.filter p).mergeSort le = (l.mergeSort le).filter p := by
  induction l with
  | nil => simp
  | cons a rest ih =>
    obtain ⟨l₁, l₂, hall, hrest, hl₁⟩ := List.mergeSort_cons trans total a rest
    rw [hall, List.filter_append, List.filter_cons]
    rw [hrest, List.filter_append] at ih
    by_cases ha : p a = true
    · rw [if_pos ha, List.filter_cons_of_pos ha]
      obtain ⟨m₁, m₂, hkept, hmrest, hm₁⟩ := List.mergeSort_cons trans total a (rest.filter p)
      -- both sides put the item behind those that come strictly before it
      have hafter : ∀ {s t u}, List.mergeSort u le = s ++ a :: t → ∀ b ∈ t, !!le a b := by
        intro s t u h b hb
        have hsorted := List.pairwise_mergeSort trans total u
        rw [h] at hsorted
        simpa using List.rel_of_pairwise_cons (List.pairwise_append.mp hsorted).2.1 hb
      obtain ⟨rfl, rfl⟩ := append_inj_of_forall (p := fun b => !le a b) (hmrest.symm.trans ih) hm₁
        (hafter hkept) (fun b hb => hl₁ b (List.mem_of_mem_filter hb))
        (fun b hb => hafter hall b (List.mem_of_mem_filter hb))
      exact hkept
    · rw [if_neg ha, List.filter_cons_of_neg ha]
      exact ih

end ChannelKeeper.Lists

namespace ChannelKeeper

theorem bind_eq_ok {ε α β : Type} {x : Except ε α} {f : α → Except ε β} {b : β} :
    (x >>= f) = .ok b ↔ ∃ a, x = .ok a ∧ f a = .ok b := by
  cases x with
  | error e =>
    constructor
    · rintro ⟨⟩
    · rintro ⟨_, ⟨⟩, -⟩
  | ok a =>
    constructor
    · exact fun h => ⟨a, rfl, h⟩
    · rintro ⟨_, ⟨⟩, h⟩
      exact h

theorem map_eq_ok {ε α β : Type} {x : Except ε α} {f : α → β} {b : β} :
    x.map f = .ok b ↔ ∃ a, x = .ok a ∧ f a = b := by
  cases x <;> simp [Except.map]

end ChannelKeeper
