import ChannelKeeper.Proofs.Files.Written
import ChannelKeeper.Proofs.Text.Split

/-!
# Where paths lead

A path into a directory leads as far below it as it has parts, if none of them is empty
or made of dots only, and two such paths of different texts lead to different places.
Nothing is said of paths with other parts.
-/

namespace ChannelKeeper

namespace Path

/-- The path goes down at each of its parts. -/
def GoesDown (path : String) : Prop := ∀ part ∈ Text.splitOn '/' path, part ∉ ["", ".", ".."]

instance (path : String) : Decidable (GoesDown path) := by
  unfold GoesDown
  infer_instance

/-- So does what is before the last slash. -/
def IsPlain (name : String) : Prop :=
  ∀ part ∈ (Text.splitOn '/' name).dropLast, part ∉ ["", ".", ".."]

instance (name : String) : Decidable (IsPlain name) := by
  unfold IsPlain
  infer_instance

variable {base name ending path : String}

theorem notMem_dots (h : 2 < name.length) : name ∉ ["", ".", ".."] := by
  intro hmem
  simp only [List.mem_cons, List.not_mem_nil, or_false] at hmem
  rcases hmem with rfl | rfl | rfl <;> revert h <;> decide

/-- An ending of more than two characters makes a name of the last part, too. -/
theorem IsPlain.goesDown (h : IsPlain name) (hslash : '/' ∉ ending.toList)
    (hlength : 2 < ending.length) : GoesDown (name ++ ending) := by
  obtain ⟨pieces, last, hname, hpath⟩ := Text.splitOn_append '/' name hslash
  intro part hpart
  rw [hpath] at hpart
  rcases List.mem_append.mp hpart with hpart | hpart
  · refine h part ?_
    rwa [hname, List.dropLast_concat]
  · obtain rfl := List.mem_singleton.mp hpart
    refine notMem_dots ?_
    rw [String.length_append]
    omega

theorem GoesDown.not_isAbsolute (h : GoesDown path) : isAbsolute path = false := by
  rw [isAbsolute, Text.startsWith]
  cases hpath : path.toList with
  | nil => rfl
  | cons c rest =>
    have hc : c ≠ '/' := by
      rintro rfl
      refine h "" ?_ (by decide)
      rw [Text.splitOn, hpath]
      exact List.mem_map.mpr ⟨[], List.mem_cons_self, rfl⟩
    simpa [List.isPrefixOf] using Ne.symm hc

theorem GoesDown.getLast?_ne (h : GoesDown path) : path.toList.getLast? ≠ some '/' := by
  intro hlast
  obtain ⟨front, hpath⟩ := List.getLast?_eq_some_iff.mp hlast
  refine h "" ?_ (by decide)
  rw [Text.splitOn, hpath, Text.Chars.splitOn_eq, List.splitOn_append_cons_self, List.map_append]
  exact List.mem_append_right _ (List.mem_singleton_self _)

theorem GoesDown.isEmpty_eq (h : GoesDown path) : path.isEmpty = false := by
  rw [Bool.eq_false_iff]
  intro hempty
  obtain rfl := String.isEmpty_iff.mp hempty
  exact h "" (by decide) (by decide)

theorem GoesDown.filter_eq (h : GoesDown path) :
    (Text.splitOn '/' path).filter (!·.isEmpty) = Text.splitOn '/' path := by
  rw [List.filter_eq_self]
  intro part hpart
  have hne : part ≠ "" := fun he => h part hpart (he ▸ List.mem_cons_self)
  simpa using hne

/-- A directory's path does not end with a slash. -/
def IsDirectoryPath (base : String) : Prop :=
  base.isEmpty = false ∧ base.toList.getLast? ≠ some '/'

theorem GoesDown.join_eq (h : GoesDown path) (hbase : IsDirectoryPath base) :
    join base path = base ++ "/" ++ path := by
  rw [join, h.not_isAbsolute, hbase.1, if_neg (by simp), if_neg hbase.2]

theorem splitOn_slash (base path : String) : Text.splitOn '/' (base ++ "/" ++ path) =
    Text.splitOn '/' base ++ Text.splitOn '/' path := by
  have hchars : (base ++ "/" ++ path).toList = base.toList ++ '/' :: path.toList := by
    rw [String.toList_append, String.toList_append, List.append_assoc]
    rfl
  rw [Text.splitOn, hchars, Text.Chars.splitOn_eq, List.splitOn_append_cons_self, List.map_append,
    Text.splitOn, Text.splitOn, Text.Chars.splitOn_eq, Text.Chars.splitOn_eq]

theorem isAbsolute_append (hbase : IsDirectoryPath base) (rest : String) :
    isAbsolute (base ++ rest) = isAbsolute base := by
  rw [isAbsolute, isAbsolute, Text.startsWith, Text.startsWith, String.toList_append]
  cases hb : base.toList with
  | nil =>
    have hempty := hbase.1
    rw [String.toList_eq_nil_iff.mp hb] at hempty
    cases hempty
  | cons c more => rfl

end Path

namespace Disk

open ChannelKeeper.Path (GoesDown IsDirectoryPath)

variable {d : Disk} {l l' : Location} {base path : String}

theorem foldlM_step_down {names : List String} (hnames : ∀ name ∈ names, name ∉ ["", ".", ".."])
    (h : names.foldlM d.step l = .ok l') : l' = l ++ names := by
  induction names generalizing l with
  | nil =>
    cases h
    rw [List.append_nil]
  | cons name rest ih =>
    obtain ⟨hname, hrest⟩ := List.forall_mem_cons.mp hnames
    rw [List.foldlM_cons] at h
    have hstep : d.step l name = .ok (l ++ [name]) ∨ ∃ e, d.step l name = .error e := by
      simp only [List.mem_cons, List.not_mem_nil, or_false, not_or] at hname
      unfold step
      split
      · exact .inr ⟨_, rfl⟩
      · exact .inr ⟨_, rfl⟩
      · left
        rw [if_neg (by simpa using hname.2.1), if_neg (by simpa using hname.2.2)]
    rcases hstep with hstep | ⟨e, hstep⟩
    · rw [hstep] at h
      rw [ih hrest h, List.append_assoc, List.singleton_append]
    · rw [hstep] at h
      cases h

/-- A path below a directory leads below where that is. -/
theorem locate_join (hbase : IsDirectoryPath base) (h : GoesDown path)
    (hl : d.locate base = .ok l) (hp : d.locate (Path.join base path) = .ok l') :
    l' = l ++ Text.splitOn '/' path := by
  have hlast : (base ++ "/" ++ path).toList.getLast? ≠ some '/' := by
    have hne : path.toList ≠ [] := by
      intro hnil
      have hempty := h.isEmpty_eq
      rw [String.toList_eq_nil_iff.mp hnil] at hempty
      cases hempty
    rw [String.toList_append, List.getLast?_append_of_ne_nil _ hne]
    exact h.getLast?_ne
  have hne : (base ++ "/" ++ path).isEmpty = false := by
    simp
  have habsolute : Path.isAbsolute (base ++ "/" ++ path) = Path.isAbsolute base := by
    rw [String.append_assoc, Path.isAbsolute_append hbase]
  rw [locate] at hl hp
  rw [hbase.1, if_neg Bool.false_ne_true, if_neg hbase.2] at hl
  rw [h.join_eq hbase, hne, if_neg Bool.false_ne_true, if_neg hlast, habsolute,
    Path.splitOn_slash, List.filter_append, h.filter_eq, List.foldlM_append, hl] at hp
  exact foldlM_step_down h hp

end Disk

end ChannelKeeper
