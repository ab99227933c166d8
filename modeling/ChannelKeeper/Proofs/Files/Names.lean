import ChannelKeeper.Proofs.Files.Places

/-!
# Files of other names

A file is read as before after a writing to a path with another last name, and after any
writing that fails. On a disk this is so wherever the two paths lead, because no path
leads to a file of another name. Nothing is said of paths of one name that lead to two
files.
-/

namespace ChannelKeeper

namespace Path

variable {base name path : String}

/-- The parts of a path that name something or lead back. -/
def steps (path : String) : List String :=
  (Text.splitOn '/' path).filter fun part => !part.isEmpty && part != "."

theorem parts_eq (path : String) :
    parts path = steps path ∨ ∃ mark ∈ ["/", "."], parts path = mark :: steps path := by
  unfold parts
  dsimp only
  split_ifs
  · exact .inr ⟨"/", by decide, rfl⟩
  · exact .inr ⟨".", by decide, rfl⟩
  · exact .inl rfl

theorem fileName?_eq_some (h : fileName? path = some name) :
    (steps path).getLast? = some name ∧ name ≠ ".." := by
  unfold fileName? at h
  split at h
  · cases h
  · cases h
  · cases h
  · cases h
  · rename_i last hroot hdot hback hlast
    cases h
    refine ⟨?_, hback⟩
    rcases parts_eq path with heq | ⟨mark, hmark, heq⟩
    · rwa [heq] at hlast
    · rw [heq, List.getLast?_cons, Option.some.injEq] at hlast
      cases hsteps : (steps path).getLast? with
      | none =>
        rw [hsteps] at hlast
        obtain rfl : mark = name := hlast
        simp only [List.mem_cons, List.not_mem_nil, or_false] at hmark
        exact (hmark.elim hroot hdot).elim
      | some last =>
        rw [hsteps] at hlast
        exact congrArg some hlast

theorem fileName?_of_getLast? (h : (Text.splitOn '/' path).getLast? = some name)
    (hname : name ∉ ["", ".", ".."]) : fileName? path = some name := by
  simp only [List.mem_cons, List.not_mem_nil, or_false, not_or] at hname
  obtain ⟨front, hpieces⟩ := List.getLast?_eq_some_iff.mp h
  have hsteps : (steps path).getLast? = some name := by
    have hkept : (!name.isEmpty && name != ".") = true := by simp [hname.1, hname.2.1]
    rw [steps, hpieces, List.filter_append, List.filter_singleton, hkept, cond_true,
      List.getLast?_concat]
  have hparts : (parts path).getLast? = some name := by
    rcases parts_eq path with heq | ⟨mark, -, heq⟩
    · rw [heq, hsteps]
    · rw [heq, List.getLast?_cons, hsteps]
      rfl
  have hroot : name ≠ "/" := by
    rintro rfl
    obtain ⟨piece, hpiece, heq⟩ := List.mem_map.mp (List.mem_of_getLast? h)
    obtain rfl : piece = ['/'] := String.ofList_inj.mp heq
    exact Text.Chars.not_mem_of_mem_splitOn hpiece List.mem_cons_self
  unfold fileName?
  rw [hparts]
  split <;> simp_all

theorem getLast?_splitOn_join (base name : String) :
    (Text.splitOn '/' (join base name)).getLast? = (Text.splitOn '/' name).getLast? := by
  have hslash (base : String) : (Text.splitOn '/' (base ++ "/" ++ name)).getLast? =
      (Text.splitOn '/' name).getLast? := by
    rw [splitOn_slash, List.getLast?_append_of_ne_nil _ (Text.splitOn_ne_nil '/' name)]
  unfold join
  split_ifs with hsecond hend
  · rfl
  · obtain ⟨front, hfront⟩ := List.getLast?_eq_some_iff.mp hend
    have hbase : base = String.ofList front ++ "/" := by
      rw [← String.toList_inj, hfront, String.toList_append, String.toList_ofList]
      rfl
    rw [hbase, hslash]
  · exact hslash base

def lastPart (path : String) : String :=
  (Text.splitOn '/' path).getLast (Text.splitOn_ne_nil '/' path)

theorem fileName?_join_append (base name : String) {ending : String} (hslash : '/' ∉ ending.toList)
    (hlength : 2 < ending.length) :
    fileName? (join base (name ++ ending)) = some (lastPart name ++ ending) := by
  obtain ⟨pieces, last, hname, hwhole⟩ := Text.splitOn_append '/' name hslash
  have hlast : lastPart name = last := by
    unfold lastPart
    simp only [hname, List.getLast_concat]
  refine fileName?_of_getLast? ?_ (notMem_dots ?_)
  · rw [getLast?_splitOn_join, hwhole, hlast, List.getLast?_concat]
  · rw [String.length_append]
    omega

/-- Both paths end in names, and these are not the same. -/
def Apart (path other : String) : Prop :=
  ∃ name name', fileName? path = some name ∧ fileName? other = some name' ∧ name ≠ name'

theorem Apart.ne {other : String} (h : Apart path other) : other ≠ path := by
  rintro rfl
  obtain ⟨name, name', hname, hname', hne⟩ := h
  exact hne (Option.some.inj (hname.symm.trans hname'))

end Path

/-- A writing leaves files of other names as they are, and if it fails all files. -/
def FileStore.KeepsOthers {σ : Type} (files : FileStore σ) : Prop :=
  ∀ path content other s,
    (((files.write path content).perform s).1 = .ok () → Path.Apart path other) →
    ∀ text, ((files.read other).perform s).1 = .ok text →
      ((files.read other).perform ((files.write path content).perform s).2).1 = .ok text

namespace MemoryFiles

theorem find?_put_of_ne (m : MemoryFiles) {path other : String} (content : String)
    (h : other ≠ path) : (m.put path content).find? other = m.find? other := by
  rw [find?, find?, files_put]
  exact Lists.find?_putBy_of_ne KeptFile.path _ m.files h

theorem keepsOthers_store : store.KeepsOthers := by
  intro path content other m hapart text hread
  have hwritten : (store.write path content).perform m =
      if m.isReadOnly then (.error readOnly, m) else (.ok (), m.put path content) := by
    cases hr : m.isReadOnly <;> simp [store, Action.change, write, hr]
  rw [hwritten] at hapart ⊢
  split
  · exact hread
  · rename_i hopen
    rw [if_neg hopen] at hapart
    have hfind := m.find?_put_of_ne content (hapart rfl).ne
    revert hread
    simp only [store, Action.perform_ask, read, hfind]
    exact id

end MemoryFiles

namespace Disk

variable {d d' : Disk} {l l' : Location} {path name : String}

/-- Where a part of a path leads to from a directory. -/
def follow (at_ : Location) (name : String) : Location :=
  if name = ".." then at_.dropLast else at_ ++ [name]

/-- Where a path leads if all that it goes through is there. -/
def destination (start : Location) (path : String) : Location :=
  (Path.steps path).foldl follow (if Path.isAbsolute path then [] else start)

/-- Single dots lead nowhere else. -/
theorem foldlM_step_eq_ok {names : List String} (h : names.foldlM d.step l = .ok l') :
    l' = (names.filter (· != ".")).foldl follow l := by
  induction names generalizing l with
  | nil =>
    cases h
    rfl
  | cons name rest ih =>
    rw [List.foldlM_cons] at h
    obtain ⟨at_, hstep, hrest⟩ := bind_eq_ok.mp h
    rw [ih hrest]
    unfold step at hstep
    split at hstep
    · cases hstep
    · cases hstep
    · by_cases hdot : name = "."
      · subst hdot
        cases hstep
        rfl
      · rw [List.filter_cons_of_pos (by simpa using hdot), List.foldl_cons, follow]
        rw [if_neg (by simpa using hdot)] at hstep
        by_cases hback : name = ".."
        · rw [if_pos (by simpa using hback)] at hstep
          cases hstep
          rw [if_pos hback]
        · rw [if_neg (by simpa using hback)] at hstep
          cases hstep
          rw [if_neg hback]

theorem locate_eq_ok (h : d.locate path = .ok l) : l = destination d.workingDirectory path := by
  have hfilter : ((Text.splitOn '/' path).filter (!·.isEmpty)).filter (· != ".") =
      Path.steps path := by
    rw [List.filter_filter, Path.steps]
    simp only [Bool.and_comm]
  rw [destination]
  unfold locate at h
  dsimp only at h
  split_ifs at h
  all_goals
    rw [foldlM_step_eq_ok h]
    simp [*]

/-- A path that ends in a name leads to a place of this name. -/
theorem getLast?_locate (h : d.locate path = .ok l) (hname : Path.fileName? path = some name) :
    l.getLast? = some name := by
  obtain ⟨hlast, hback⟩ := Path.fileName?_eq_some hname
  obtain ⟨front, hsteps⟩ := List.getLast?_eq_some_iff.mp hlast
  rw [locate_eq_ok h, destination, hsteps, List.foldl_append, List.foldl_cons, List.foldl_nil,
    follow, if_neg hback]
  exact List.getLast?_concat

theorem KeepsOutside.read {places : List Location} (h : d.KeepsOutside places d')
    (hplaces : ∀ l, d.locate path = .ok l → l ∉ places) {text : String}
    (hread : d.read path = .ok text) : d'.read path = .ok text := by
  obtain ⟨⟨l, node⟩, hnode, hread⟩ := bind_eq_ok.mp hread
  obtain ⟨hl, hn⟩ := nodeAt_eq_ok.mp hnode
  exact bind_eq_ok.mpr ⟨_, nodeAt_eq_ok.mpr ⟨h.locate hl, h.others (hplaces l hl) hn⟩, hread⟩

theorem keepsOthers_store : store.KeepsOthers := by
  intro path content other d hapart text hread
  have hread : d.read other = .ok text := hread
  show ((d.write path content).2).read other = .ok text
  rw [perform_write] at hapart
  obtain ⟨d₁, hkeeps, ⟨d', hwrite, heq⟩ | ⟨e, heq⟩⟩ := write_cases d path content
  · rw [heq] at hapart ⊢
    obtain ⟨name, name', hname, hname', hne⟩ := hapart rfl
    obtain ⟨at_, hlocate, hnode, rfl⟩ := writeFile_eq_ok hwrite
    refine (keepsOutside_put hnode).read ?_ (hkeeps.read (fun _ _ => List.not_mem_nil) hread)
    intro l hl hmem
    obtain rfl := List.mem_singleton.mp hmem
    have h := getLast?_locate hlocate hname
    rw [getLast?_locate hl hname'] at h
    exact hne (Option.some.inj h).symm
  · rw [heq]
    exact hkeeps.read (fun _ _ => List.not_mem_nil) hread

end Disk

end ChannelKeeper
