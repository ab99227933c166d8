import ChannelKeeper.Files.Disk
import ChannelKeeper.Files.Memory
import ChannelKeeper.Proofs.Action
import ChannelKeeper.Proofs.Lists

/-!
# Written files are there

A place keeps what is written: right after a file was written it is found and read
as the text that was written. Both places of this library keep files. On a disk a
writing leaves all directories as they are, and all that is found elsewhere, so a path
that led to a place still leads there. Nothing is said of files in memory after later
operations.
-/

namespace ChannelKeeper

/-- After a successful writing the file is there with its content. -/
def FileStore.Keeps {σ : Type} (files : FileStore σ) : Prop :=
  ∀ path content s s', (files.write path content).perform s = (.ok (), s') →
    (files.exists? path).perform s' = (.ok true, s') ∧
      (files.read path).perform s' = (.ok content, s')

-- ---------------------------------------------------------------------------
-- Files in memory
-- ---------------------------------------------------------------------------

namespace MemoryFiles

theorem files_put (m : MemoryFiles) (path content : String) :
    (m.put path content).files =
      Lists.putBy KeptFile.path ⟨path, .text content, some m.now⟩ m.files := by
  simp only [put, Lists.putBy, find?, List.find?_isSome, ← List.any_eq_true]
  split <;> rfl

theorem find?_put (m : MemoryFiles) (path content : String) :
    (m.put path content).find? path = some ⟨path, .text content, some m.now⟩ := by
  rw [find?, files_put]
  exact Lists.find?_putBy_self KeptFile.path ⟨path, .text content, some m.now⟩ m.files

theorem keeps_store : store.Keeps := by
  intro path content s s' h
  obtain rfl : s.put path content = s' := by
    cases hr : s.isReadOnly <;> simp [store, Action.change, write, hr] at h
    exact h
  have hfind := s.find?_put path content
  constructor
  · simp [store, hfind]
  · simp [store, read, hfind, Content.readText, Content.toText?]

end MemoryFiles

-- ---------------------------------------------------------------------------
-- Files on a disk
-- ---------------------------------------------------------------------------

namespace Disk

/-- Directories stay, and so does what is found outside some places. -/
structure KeepsOutside (places : List Location) (d d' : Disk) : Prop where
  workingDirectory : d'.workingDirectory = d.workingDirectory
  directories (h : d.node? l = some .directory) : d'.node? l = some .directory
  others (hl : l ∉ places) (h : d.node? l = some node) : d'.node? l = some node

variable {d d' : Disk} {at_ l l' : Location} {node : DiskNode}

theorem nodes_put (d : Disk) (at_ : Location) (node : DiskNode) :
    (d.put at_ node).nodes = Lists.putBy Prod.fst (at_, node) d.nodes := by
  simp only [put, Lists.putBy]
  split
  · refine List.map_congr_left fun old _ => ?_
    split <;> rename_i h
    · rw [eq_of_beq h]
    · rfl
  · rfl

theorem workingDirectory_put (d : Disk) (at_ : Location) (node : DiskNode) :
    (d.put at_ node).workingDirectory = d.workingDirectory := by
  unfold put
  split <;> rfl

theorem node?_put_of_ne (h : l ≠ at_) : (d.put at_ node).node? l = d.node? l := by
  have hfind := Lists.find?_putBy_of_ne Prod.fst (at_, node) d.nodes h
  simp only [node?, workingDirectory_put, nodes_put, hfind]

theorem node?_put_self (h : d.node? at_ ≠ some .directory) :
    (d.put at_ node).node? at_ = some node := by
  have hplace : ¬ (at_.isEmpty || at_ == d.workingDirectory) = true := by
    intro hd
    rw [node?, if_pos hd] at h
    exact h rfl
  have hfind := Lists.find?_putBy_self Prod.fst (at_, node) d.nodes
  simp only [node?, workingDirectory_put, nodes_put, if_neg hplace, hfind, Option.map_some]

theorem KeepsOutside.refl (places : List Location) (d : Disk) : d.KeepsOutside places d :=
  ⟨rfl, id, fun _ => id⟩

theorem KeepsOutside.mono {places places' : List Location} (h : d.KeepsOutside places d')
    (hsub : places ⊆ places') : d.KeepsOutside places' d' :=
  ⟨h.workingDirectory, h.directories, fun hl => h.others fun hmem => hl (hsub hmem)⟩

theorem KeepsOutside.trans {places : List Location} {d₁ d₂ : Disk} (h : d.KeepsOutside places d₁)
    (h' : d₁.KeepsOutside places d₂) : d.KeepsOutside places d₂ :=
  ⟨h'.workingDirectory.trans h.workingDirectory, fun hd => h'.directories (h.directories hd),
    fun hl hn => h'.others hl (h.others hl hn)⟩

theorem keepsOutside_put (h : d.node? at_ ≠ some .directory) :
    d.KeepsOutside [at_] (d.put at_ node) where
  workingDirectory := workingDirectory_put d at_ node
  directories {l} hl := by
    have hne : l ≠ at_ := by
      rintro rfl
      exact h hl
    rw [node?_put_of_ne hne, hl]
  others hl hn := by rw [node?_put_of_ne (List.mem_singleton.not.mp hl), hn]

section

variable {places : List Location} (hk : d.KeepsOutside places d')
include hk

/-- A path goes through directories only. -/
theorem KeepsOutside.step {name : String} (hs : d.step l name = .ok l') :
    d'.step l name = .ok l' := by
  have hdir : d.node? l = some .directory := by
    unfold Disk.step at hs
    split at hs
    · cases hs
    · cases hs
    · assumption
  rw [← hs, Disk.step, Disk.step, hdir, hk.directories hdir]

theorem KeepsOutside.foldlM_step {names : List String} (hs : names.foldlM d.step l = .ok l') :
    names.foldlM d'.step l = .ok l' := by
  induction names generalizing l with
  | nil => exact hs
  | cons name rest ih =>
    rw [List.foldlM_cons] at hs ⊢
    obtain ⟨m, hm, hrest⟩ := bind_eq_ok.mp hs
    exact bind_eq_ok.mpr ⟨m, hk.step hm, ih hrest⟩

theorem KeepsOutside.locate {path : String} (hl : d.locate path = .ok l) :
    d'.locate path = .ok l := by
  simp only [Disk.locate, hk.workingDirectory] at hl ⊢
  by_cases hp : path.isEmpty
  · rw [if_pos hp] at hl
    cases hl
  · rw [if_neg hp] at hl ⊢
    exact hk.foldlM_step hl

end

/-- A written file stands where its path leads, which was no directory. -/
theorem writeFile_eq_ok {path content : String} (h : d.writeFile path content = .ok d') :
    ∃ at_, d.locate path = .ok at_ ∧ d.node? at_ ≠ some .directory ∧
      d' = d.put at_ (.file (.text content) d.now) := by
  obtain ⟨at_, hl, h⟩ := bind_eq_ok.mp h
  refine ⟨at_, hl, ?_⟩
  dsimp only at h
  split at h
  · cases h
  · rename_i hn
    cases h
    exact ⟨by simp [hn], rfl⟩
  · rename_i hn
    split at h
    · cases h
      exact ⟨by simp [hn], rfl⟩
    · cases h
    · cases h

theorem nodeAt_writeFile {path content : String} (h : d.writeFile path content = .ok d') :
    ∃ at_, d'.nodeAt path = .ok (at_, .file (.text content) d.now) := by
  obtain ⟨at_, hl, hn, rfl⟩ := writeFile_eq_ok h
  refine ⟨at_, ?_⟩
  simp only [nodeAt, (keepsOutside_put hn).locate hl, bind, Except.bind, node?_put_self hn]

-- ---------------------------------------------------------------------------
-- Directories on a disk
-- ---------------------------------------------------------------------------

theorem keepsOutside_put_fresh (h : d.node? at_ = none) (node : DiskNode) :
    d.KeepsOutside [] (d.put at_ node) := by
  have hput : d.KeepsOutside [at_] (d.put at_ node) := keepsOutside_put (by simp [h])
  refine ⟨hput.workingDirectory, hput.directories, fun {l old} _ hl => hput.others ?_ hl⟩
  rw [List.mem_singleton]
  rintro rfl
  cases h.symm.trans hl

theorem nodeAt_eq_ok {path : String} :
    d.nodeAt path = .ok (l, node) ↔ d.locate path = .ok l ∧ d.node? l = some node := by
  rw [nodeAt]
  cases hl : d.locate path with
  | error e => simp [bind, Except.bind]
  | ok at_ =>
    cases hn : d.node? at_ with
    | none =>
      simp only [bind, Except.bind, hn, reduceCtorEq, Except.ok.injEq, false_iff, not_and]
      rintro rfl hnode
      cases hn.symm.trans hnode
    | some old =>
      simp only [bind, Except.bind, hn, Except.ok.injEq, Prod.mk.injEq]
      constructor
      · rintro ⟨rfl, rfl⟩
        exact ⟨rfl, hn⟩
      · rintro ⟨rfl, hnode⟩
        exact ⟨rfl, Option.some.inj (hn.symm.trans hnode)⟩

theorem isDirectory_iff {path : String} :
    d.isDirectory path = true ↔ ∃ l, d.nodeAt path = .ok (l, .directory) := by
  rw [isDirectory]
  split
  · rename_i l hl
    exact iff_of_true rfl ⟨l, hl⟩
  · rename_i hnot
    exact iff_of_false Bool.false_ne_true fun ⟨l, hl⟩ => hnot l hl

/-- A directory is made where its path leads without a slash at the end, and where
nothing was. -/
theorem makeDirectory_eq_ok {path : String} (h : d.makeDirectory path = .ok d') :
    ∃ at_, d.locate (if (withoutEndSlash path).isEmpty then path else withoutEndSlash path) =
        .ok at_ ∧ d.node? at_ = none ∧ d' = d.put at_ .directory := by
  obtain ⟨at_, hl, h⟩ := bind_eq_ok.mp h
  refine ⟨at_, hl, ?_⟩
  split at h
  · cases h
  · rename_i hn
    split at h
    · cases h
      exact ⟨hn, rfl⟩
    · cases h
    · cases h

theorem makeDirectory_keeps {path : String} (h : d.makeDirectory path = .ok d') :
    d.KeepsOutside [] d' := by
  obtain ⟨at_, -, hn, rfl⟩ := makeDirectory_eq_ok h
  exact keepsOutside_put_fresh hn _

theorem ensureDirectory_eq_ok {path : String} (h : d.ensureDirectory path = .ok d') :
    d.makeDirectory path = .ok d' ∨ d.isDirectory path = true ∧ d' = d := by
  unfold ensureDirectory at h
  split at h
  · rename_i hmade
    cases h
    exact .inl hmade
  · split at h
    · rename_i hdir
      cases h
      exact .inr ⟨hdir, rfl⟩
    · cases h

theorem ensureDirectory_keeps {path : String} (h : d.ensureDirectory path = .ok d') :
    d.KeepsOutside [] d' := by
  rcases ensureDirectory_eq_ok h with hmade | ⟨-, rfl⟩
  · exact makeDirectory_keeps hmade
  · exact .refl _ _

/-- Making directories changes nothing that is there, also where it fails. -/
theorem createDirectories_keeps (fuel : Nat) (d : Disk) (path : String) :
    d.KeepsOutside [] (createDirectories fuel d path).2 := by
  induction fuel generalizing path with
  | zero => exact .refl _ _
  | succ fuel ih =>
    unfold createDirectories
    split
    · exact .refl _ _
    · split
      · rename_i hmade
        exact makeDirectory_keeps hmade
      · split
        · exact .refl _ _
        · split
          · exact .refl _ _
          · rename_i parent _
            have hparent := ih parent
            split
            · rename_i e d₁ hd₁
              rwa [hd₁] at hparent
            · rename_i d₁ hd₁
              rw [hd₁] at hparent
              split
              · rename_i d₂ hensured
                exact hparent.trans (ensureDirectory_keeps hensured)
              · exact hparent

theorem withoutEndSlash_eq {path : String} (h : path.toList.getLast? ≠ some '/') :
    withoutEndSlash path = path := by
  have hdrop : path.toList.reverse.dropWhile (· == '/') = path.toList.reverse := by
    rw [List.dropWhile_eq_self_iff]
    intro hlength hslash
    refine h ?_
    rw [← List.head?_reverse, List.head?_eq_getElem?, List.getElem?_eq_getElem hlength]
    exact congrArg some (eq_of_beq hslash)
  rw [withoutEndSlash, hdrop, List.reverse_reverse, String.ofList_toList]

theorem nodeAt_makeDirectory {path : String} (hpath : path.toList.getLast? ≠ some '/')
    (h : d.makeDirectory path = .ok d') : ∃ l, d'.nodeAt path = .ok (l, .directory) := by
  obtain ⟨at_, hl, hn, rfl⟩ := makeDirectory_eq_ok h
  rw [withoutEndSlash_eq hpath, ite_self] at hl
  have hnone : d.node? at_ ≠ some .directory := by simp [hn]
  exact ⟨at_, nodeAt_eq_ok.mpr ⟨(keepsOutside_put hnone).locate hl, node?_put_self hnone⟩⟩

theorem nodeAt_ensureDirectory {path : String} (hpath : path.toList.getLast? ≠ some '/')
    (h : d.ensureDirectory path = .ok d') : ∃ l, d'.nodeAt path = .ok (l, .directory) := by
  rcases ensureDirectory_eq_ok h with hmade | ⟨hdir, rfl⟩
  · exact nodeAt_makeDirectory hpath hmade
  · exact isDirectory_iff.mp hdir

theorem nodeAt_createDirectory {path : String} (hpath : path.toList.getLast? ≠ some '/')
    (hne : path.isEmpty = false) (h : d.createDirectory path = (.ok (), d')) :
    ∃ l, d'.nodeAt path = .ok (l, .directory) := by
  unfold createDirectory createDirectories at h
  rw [hne] at h
  simp only [Bool.false_eq_true, if_false] at h
  split at h
  · rename_i hmade
    cases h
    exact nodeAt_makeDirectory hpath hmade
  · split at h
    · obtain ⟨hresult, rfl⟩ := Prod.mk.inj h
      split at hresult
      · rename_i hdir
        exact isDirectory_iff.mp hdir
      · cases hresult
    · split at h
      · cases h
      · split at h
        · cases h
        · rename_i d₁ _
          cases hensured : d₁.ensureDirectory path with
          | error e =>
            rw [hensured] at h
            cases h
          | ok d₂ =>
            rw [hensured] at h
            cases h
            exact nodeAt_ensureDirectory hpath hensured

theorem perform_write (d : Disk) (path content : String) :
    (store.write path content).perform d = d.write path content := rfl

theorem perform_createDirectory (d : Disk) (path : String) :
    (store.createDirectory path).perform d = d.createDirectory path := rfl

/-- Directories may be made before a file is written, and they stay if it cannot be. -/
theorem write_cases (d : Disk) (path content : String) : ∃ d₁, d.KeepsOutside [] d₁ ∧
    ((∃ d', d₁.writeFile path content = .ok d' ∧ d.write path content = (.ok (), d')) ∨
      ∃ e, d.write path content = (.error e, d₁)) := by
  unfold write
  cases Path.parent? path with
  | none =>
    refine ⟨d, .refl _ _, ?_⟩
    dsimp only
    cases d.writeFile path content with
    | error e => exact .inr ⟨e, rfl⟩
    | ok d' => exact .inl ⟨d', rfl, rfl⟩
  | some parent =>
    have hmade : d.KeepsOutside []
        (if parent.isEmpty then (.ok (), d) else d.createDirectory parent).2 := by
      split
      · exact .refl _ _
      · exact createDirectories_keeps _ _ _
    dsimp only
    generalize (if parent.isEmpty then (.ok (), d) else d.createDirectory parent) = made at hmade
    obtain ⟨_ | _, d₁⟩ := made
    · exact ⟨d₁, hmade, .inr ⟨_, rfl⟩⟩
    · refine ⟨d₁, hmade, ?_⟩
      dsimp only
      cases d₁.writeFile path content with
      | error e => exact .inr ⟨e, rfl⟩
      | ok d' => exact .inl ⟨d', rfl, rfl⟩

theorem workingDirectory_write (d : Disk) (path content : String) :
    (d.write path content).2.workingDirectory = d.workingDirectory := by
  obtain ⟨d₁, hkeeps, ⟨d', hwrite, heq⟩ | ⟨e, heq⟩⟩ := write_cases d path content
  · obtain ⟨at_, -, -, rfl⟩ := writeFile_eq_ok hwrite
    rw [heq]
    exact (workingDirectory_put _ _ _).trans hkeeps.workingDirectory
  · rw [heq]
    exact hkeeps.workingDirectory

theorem write_eq_ok {path content : String} (h : d.write path content = (.ok (), d')) :
    ∃ d₁, d.KeepsOutside [] d₁ ∧ d₁.writeFile path content = .ok d' := by
  obtain ⟨d₁, hkeeps, ⟨d₂, hwrite, heq⟩ | ⟨e, heq⟩⟩ := write_cases d path content
  · cases h.symm.trans heq
    exact ⟨d₁, hkeeps, hwrite⟩
  · cases h.symm.trans heq

theorem write_eq_error {path content : String} (h : d.write path content = (.error e, d')) :
    d.KeepsOutside [] d' := by
  obtain ⟨d₁, hkeeps, ⟨d₂, -, heq⟩ | ⟨e, heq⟩⟩ := write_cases d path content
  · cases h.symm.trans heq
  · cases h.symm.trans heq
    exact hkeeps

theorem keeps_store : store.Keeps := by
  intro path content s s' h
  obtain ⟨d, -, hd⟩ := write_eq_ok h
  obtain ⟨at_, hn⟩ := nodeAt_writeFile hd
  constructor
  · simp [store, hn, Except.isOk, Except.toBool]
  · simp [store, read, hn, bind, Except.bind, Content.readText, Content.toText?]

end Disk

end ChannelKeeper
