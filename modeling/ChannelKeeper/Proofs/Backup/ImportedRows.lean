import ChannelKeeper.Proofs.Backup.ImportRun

/-!
# The rows that an import leaves

What a run of an import makes of the rows is told by the rows and the next id alone. A
row is found by its place, so the same rows in another order may be left otherwise, but
only where rows are replaced and a channel matches several of them. Nothing is said here
of the calls of a store, of which a run has none that failed.
-/

namespace ChannelKeeper

open MemoryChannels (isMatch)

-- ---------------------------------------------------------------------------
-- What an import makes of the rows
-- ---------------------------------------------------------------------------

/-- The rows and the next id after a channel was imported. -/
def withImported (shown : Channel → Channel) (updateExisting : Bool) (p : List Channel × Int)
    (c : Channel) : List Channel × Int :=
  match p.1.find? (isMatch c.name c.id) with
  | none => (p.1 ++ [shown { c with id := p.2 }], p.2 + 1)
  | some row =>
    if updateExisting then
      (p.1.map fun old => if old.id = row.id then shown { c with id := row.id } else old, p.2)
    else p

section

variable {shown : Channel → Channel} {updateExisting : Bool} {p q : List Channel × Int}
  {rows listed todo : List Channel} {c : Channel}

theorem isSome_find?_isMatch (rows : List Channel) (c : Channel) :
    (rows.find? (isMatch c.name c.id)).isSome = isKnown rows c := by
  rw [Bool.eq_iff_iff, List.find?_isSome, isKnown, List.any_eq_true]

theorem find?_isMatch_eq_none (h : isKnown rows c = false) :
    rows.find? (isMatch c.name c.id) = none := by
  rwa [← isSome_find?_isMatch, Option.isSome_eq_false_iff, Option.isNone_iff_eq_none] at h

theorem withImported_of_new (h : isKnown p.1 c = false) :
    withImported shown updateExisting p c = (p.1 ++ [shown { c with id := p.2 }], p.2 + 1) := by
  rw [withImported, find?_isMatch_eq_none h]

theorem withImported_of_known (h : isKnown p.1 c = true) :
    withImported shown false p c = p := by
  rw [← isSome_find?_isMatch] at h
  obtain ⟨row, hrow⟩ := Option.isSome_iff_exists.mp h
  rw [withImported, hrow]
  rfl

theorem withImported_of_found (h : p.1.find? (isMatch c.name c.id) = some row) :
    withImported shown true p c =
      (p.1.map fun old => if old.id = row.id then shown { c with id := row.id } else old, p.2) := by
  rw [withImported, h]
  rfl

theorem withImported_cases (shown : Channel → Channel) (updateExisting : Bool)
    (p : List Channel × Int) (c : Channel) :
    (isKnown p.1 c = false ∧
      withImported shown updateExisting p c = (p.1 ++ [shown { c with id := p.2 }], p.2 + 1)) ∨
    (isKnown p.1 c = true ∧ updateExisting = false ∧ withImported shown updateExisting p c = p) ∨
    ∃ row ∈ p.1.find? (isMatch c.name c.id), updateExisting = true ∧
      withImported shown updateExisting p c =
        (p.1.map fun old => if old.id = row.id then shown { c with id := row.id } else old, p.2) := by
  cases hknown : isKnown p.1 c with
  | false => exact .inl ⟨rfl, withImported_of_new hknown⟩
  | true =>
    cases updateExisting with
    | false => exact .inr (.inl ⟨rfl, rfl, withImported_of_known hknown⟩)
    | true =>
      rw [← isSome_find?_isMatch] at hknown
      obtain ⟨row, hrow⟩ := Option.isSome_iff_exists.mp hknown
      exact .inr (.inr ⟨row, hrow, rfl, withImported_of_found hrow⟩)

theorem withImported_congr {shown' : Channel → Channel}
    (h : ∀ id, shown { c with id := id } = shown' { c with id := id }) :
    withImported shown updateExisting p c = withImported shown' updateExisting p c := by
  rw [withImported, withImported]
  simp only [h]

theorem Numbered.withImported (h : Numbered p.1 p.2) (updateExisting : Bool) (c : Channel) :
    Numbered (withImported id updateExisting p c).1 (withImported id updateExisting p c).2 := by
  rcases withImported_cases id updateExisting p c with ⟨-, heq⟩ | ⟨-, -, heq⟩ | ⟨row, -, -, heq⟩
  · rw [heq]
    exact h.concat rfl
  · rwa [heq]
  · rw [heq]
    exact h.replace { c with id := row.id }

-- ---------------------------------------------------------------------------
-- Rows that are found
-- ---------------------------------------------------------------------------

/-- Of the rows that a channel matches, the first has the least id. -/
def FindsLeast (rows : List Channel) (c : Channel) : Prop :=
  ∀ row ∈ rows.find? (isMatch c.name c.id), ∀ other ∈ rows,
    isMatch c.name c.id other = true → row.id ≤ other.id

instance (rows : List Channel) (c : Channel) : Decidable (FindsLeast rows c) :=
  inferInstanceAs (Decidable (∀ row ∈ rows.find? (isMatch c.name c.id), ∀ other ∈ rows,
    isMatch c.name c.id other = true → row.id ≤ other.id))

/-- Each channel that is imported with updates finds the row with the least id when its
turn comes. -/
def FindLeastInTurn (p : List Channel × Int) : List Channel → Prop
  | [] => True
  | c :: rest => FindsLeast p.1 c ∧ FindLeastInTurn (withImported id true p c) rest

instance decidableFindLeastInTurn : (p : List Channel × Int) → (todo : List Channel) →
    Decidable (FindLeastInTurn p todo)
  | _, [] => inferInstanceAs (Decidable True)
  | p, c :: rest =>
    haveI := decidableFindLeastInTurn (withImported id true p c) rest
    inferInstanceAs (Decidable (FindsLeast p.1 c ∧ FindLeastInTurn (withImported id true p c) rest))

theorem FindsLeast.find?_eq (h : FindsLeast rows c) (h' : FindsLeast listed c)
    (hp : rows.Perm listed) (hd : DistinctIds rows) :
    rows.find? (isMatch c.name c.id) = listed.find? (isMatch c.name c.id) := by
  cases hrow : rows.find? (isMatch c.name c.id) with
  | none =>
    symm
    rw [List.find?_eq_none] at hrow ⊢
    exact fun other hother => hrow other (hp.mem_iff.mpr hother)
  | some row =>
    have hmem := List.mem_of_find?_eq_some hrow
    have hmatch := List.find?_some hrow
    cases hfirst : listed.find? (isMatch c.name c.id) with
    | none => exact absurd hmatch (List.find?_eq_none.mp hfirst row (hp.mem_iff.mp hmem))
    | some first =>
      have hmem' := hp.mem_iff.mpr (List.mem_of_find?_eq_some hfirst)
      have hle : row.id ≤ first.id := h row hrow first hmem' (List.find?_some hfirst)
      have hge : first.id ≤ row.id := h' first hfirst row (hp.mem_iff.mp hmem) hmatch
      rw [hd.eq_of_id hmem hmem' (Int.le_antisymm hle hge)]

theorem FindsLeast.of_pairwise (h : rows.Pairwise fun a b => a.id < b.id) (c : Channel) :
    FindsLeast rows c := by
  intro row hrow other hother hmatch
  obtain ⟨-, before, after, rfl, hbefore⟩ := List.find?_eq_some_iff_append.mp hrow
  rcases List.mem_append.mp hother with hother | hother
  · exact absurd hmatch (by simpa using hbefore other hother)
  · rcases List.mem_cons.mp hother with rfl | hother
    · exact Int.le_refl _
    · exact Int.le_of_lt ((List.pairwise_cons.mp (List.pairwise_append.mp h).2.1).1 other hother)

theorem pairwise_withImported (h : p.1.Pairwise fun a b => a.id < b.id) (hn : Numbered p.1 p.2)
    (updateExisting : Bool) (c : Channel) :
    (withImported id updateExisting p c).1.Pairwise fun a b => a.id < b.id := by
  rcases withImported_cases id updateExisting p c with ⟨-, heq⟩ | ⟨-, -, heq⟩ | ⟨row, -, -, heq⟩
  · rw [heq]
    refine List.pairwise_append.mpr ⟨h, List.pairwise_singleton _ _, fun row hrow other hother => ?_⟩
    rw [List.mem_singleton.mp hother]
    exact hn.below row hrow
  · rwa [heq]
  · rw [heq]
    refine List.pairwise_map.mpr (h.imp fun {a b} hlt => ?_)
    split <;> split <;> simp_all

theorem FindLeastInTurn.of_pairwise (h : p.1.Pairwise fun a b => a.id < b.id) (hn : Numbered p.1 p.2)
    (todo : List Channel) : FindLeastInTurn p todo := by
  induction todo generalizing p with
  | nil => trivial
  | cons c rest ih =>
    exact ⟨.of_pairwise h c, ih (pairwise_withImported h hn true c) (hn.withImported true c)⟩

-- ---------------------------------------------------------------------------
-- The same rows in two orders
-- ---------------------------------------------------------------------------

theorem isKnown_perm (h : rows.Perm listed) (c : Channel) : isKnown rows c = isKnown listed c :=
  h.any_eq

theorem withImported_perm (hp : p.1.Perm q.1) (hn : p.2 = q.2)
    (hfind : updateExisting = true →
      p.1.find? (isMatch c.name c.id) = q.1.find? (isMatch c.name c.id)) :
    (withImported id updateExisting p c).1.Perm (withImported id updateExisting q c).1 ∧
      (withImported id updateExisting p c).2 = (withImported id updateExisting q c).2 := by
  rcases withImported_cases id updateExisting p c with
    ⟨hknown, heq⟩ | ⟨hknown, rfl, heq⟩ | ⟨row, hrow, rfl, heq⟩
  · rw [heq, withImported_of_new ((isKnown_perm hp c).symm.trans hknown), hn]
    exact ⟨hp.append_right _, rfl⟩
  · rw [heq, withImported_of_known ((isKnown_perm hp c).symm.trans hknown)]
    exact ⟨hp, hn⟩
  · rw [heq, withImported_of_found ((hfind rfl).symm.trans hrow)]
    exact ⟨hp.map _, hn⟩

/-- Rows in two orders are imported alike as long as the same ones are found. -/
theorem foldl_withImported_perm (hp : p.1.Perm q.1) (hn : p.2 = q.2) (hnumbered : Numbered p.1 p.2)
    (hleast : updateExisting = true → FindLeastInTurn p todo ∧ FindLeastInTurn q todo) :
    (todo.foldl (withImported id updateExisting) p).1.Perm
        (todo.foldl (withImported id updateExisting) q).1 ∧
      (todo.foldl (withImported id updateExisting) p).2 =
        (todo.foldl (withImported id updateExisting) q).2 := by
  induction todo generalizing p q with
  | nil => exact ⟨hp, hn⟩
  | cons c rest ih =>
    have hfind (hu : updateExisting = true) :
        p.1.find? (isMatch c.name c.id) = q.1.find? (isMatch c.name c.id) := by
      obtain ⟨⟨hleast, -⟩, ⟨hleast', -⟩⟩ := hleast hu
      exact hleast.find?_eq hleast' hp hnumbered.distinct
    obtain ⟨hp', hn'⟩ := withImported_perm hp hn hfind
    refine ih hp' hn' (hnumbered.withImported _ c) fun hu => ?_
    obtain ⟨⟨-, hrest⟩, ⟨-, hrest'⟩⟩ := hleast hu
    subst hu
    exact ⟨hrest, hrest'⟩

end

-- ---------------------------------------------------------------------------
-- Runs over one store
-- ---------------------------------------------------------------------------

section

variable {σ : Type} {w : Workspace σ} {s s' : σ} {updateExisting dryRun : Bool}
  {r r' : ImportReport} {c : Channel} {todo : List Channel}

theorem ChannelImport.report_eq {t : FallibleTable σ}
    (h : ChannelImport t updateExisting dryRun r c s r' s') :
    r' = if isKnown (t.rows s) c && !updateExisting then r.recordSkip else r.recordSuccess := by
  cases h with
  | kept hfor hu => simp [← FallibleTable.isSome_rowFor?, hfor, hu]
  | promised hfor hd =>
    rcases hfor with hfor | hu
    · simp [FallibleTable.rowFor?_eq_none_iff.mp hfor]
    · simp [hu]
  | replaced row s' hfor hu => simp [hu]
  | added s' hfor => simp [FallibleTable.rowFor?_eq_none_iff.mp hfor]

theorem ChannelImport.eq_of_dryRun {t : FallibleTable σ}
    (h : ChannelImport t updateExisting true r c s r' s') : s' = s := by
  cases h with
  | kept | promised => rfl
  | replaced _ _ _ _ hd => cases hd
  | added _ _ hd => cases hd

theorem ChannelImport.rows_eq {t : FallibleTable σ}
    (h : ChannelImport t updateExisting false r c s r' s') :
    (t.rows s', t.next s') = withImported (t.shown s) updateExisting (t.rows s, t.next s) c ∧
      t.shown s' = t.shown s := by
  cases h with
  | kept hfor hu =>
    subst hu
    rw [FallibleTable.isSome_rowFor?] at hfor
    exact ⟨(withImported_of_known hfor).symm, rfl⟩
  | promised _ hd => cases hd
  | replaced row s' hfor hu _ hr hn hsame =>
    subst hu
    rw [hr, hn, withImported_of_found (p := (t.rows s, t.next s)) hfor]
    exact ⟨rfl, hsame⟩
  | added s' hfor _ hr hn hsame =>
    rw [hr, hn, withImported_of_new (p := (t.rows s, t.next s))
      (FallibleTable.rowFor?_eq_none_iff.mp hfor)]
    exact ⟨rfl, hsame⟩

theorem ImportRun.eq_of_dryRun {t : FallibleTable σ}
    (h : ImportRun t updateExisting true todo r s r' s') : s' = s := by
  induction h with
  | done => rfl
  | more _ hstep _ ih => exact ih.trans hstep.eq_of_dryRun

theorem ImportRun.rows_eq_foldl {t : FallibleTable σ}
    (h : ImportRun t updateExisting false todo r s r' s')
    (hshown : ∀ c ∈ todo, ∀ id, t.shown s { c with id := id } = { c with id := id }) :
    t.rows s' = (todo.foldl (withImported id updateExisting) (t.rows s, t.next s)).1 ∧
      t.next s' = (todo.foldl (withImported id updateExisting) (t.rows s, t.next s)).2 := by
  refine Prod.mk.inj (?_ : (t.rows s', t.next s') = todo.foldl _ (t.rows s, t.next s))
  induction h with
  | done => rfl
  | @more c rest r r₁ r' s s₁ s' _ hstep _ ih =>
    obtain ⟨hc, hrest⟩ := List.forall_mem_cons.mp hshown
    obtain ⟨hrows, hsame⟩ := hstep.rows_eq
    have hplain : withImported (t.shown s) updateExisting (t.rows s, t.next s) c =
        withImported id updateExisting (t.rows s, t.next s) c := withImported_congr hc
    rw [ih (hsame ▸ hrest), hrows, hplain, List.foldl_cons]

end

end ChannelKeeper
