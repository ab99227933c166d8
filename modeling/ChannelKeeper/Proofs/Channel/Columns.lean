import ChannelKeeper.Channel.Columns
import Mathlib.Data.List.Nodup

/-!
# Cells and fields

A column reads its own field and leaves the others alone, so a channel that is
read from cells follows a change of one cell in one field. Which columns a table
has is left open.
-/

namespace ChannelKeeper.ChannelColumn

open Relational (Datum)

def readAll (cells : String → Datum) (columns : List ChannelColumn) (c : Channel) : Channel :=
  columns.foldl (fun c column => column.read ((cells column.name).cast column.kind) c) c

/-- A value in the cell of this name is seen as a change of the channel. -/
structure Sets (name : String) (value : Datum) (change : Channel → Channel) : Prop where
  own : ∀ column ∈ all, column.name = name → ∀ d c,
    column.read (value.cast column.kind) c = change (column.read d c) ∧
      column.read (value.cast column.kind) (change c) = change (column.read d c)
  others : ∀ column ∈ all, column.name ≠ name → ∀ d c,
    column.read d (change c) = change (column.read d c)

/-- An integer in the cell of this name is seen as the value of a field. -/
structure Shows (name : String) (field : Channel → Int) : Prop where
  own : ∀ column ∈ all, column.name = name → ∀ n c,
    field (column.read ((Datum.integer n).cast column.kind) c) = n
  others : ∀ column ∈ all, column.name ≠ name → ∀ d c, field (column.read d c) = field c

-- ---------------------------------------------------------------------------
-- Rows of cells
-- ---------------------------------------------------------------------------

variable {columns : List ChannelColumn} {cells cells' : String → Datum} {name : String}

theorem readAll_cons (cells : String → Datum) (column : ChannelColumn)
    (rest : List ChannelColumn) (c : Channel) :
    readAll cells (column :: rest) c =
      readAll cells rest (column.read ((cells column.name).cast column.kind) c) := rfl

theorem readAll_congr_read (h : ∀ column ∈ columns, ∀ c,
      column.read ((cells column.name).cast column.kind) c =
        column.read ((cells' column.name).cast column.kind) c)
    (c : Channel) : readAll cells columns c = readAll cells' columns c := by
  induction columns generalizing c with
  | nil => rfl
  | cons column rest ih =>
    rw [readAll_cons, readAll_cons, h column List.mem_cons_self]
    exact ih (fun d hd => h d (List.mem_cons_of_mem _ hd)) _

theorem readAll_congr (h : ∀ column ∈ columns, cells column.name = cells' column.name)
    (c : Channel) : readAll cells columns c = readAll cells' columns c :=
  readAll_congr_read (fun column hc _ => by rw [h column hc]) c

theorem Sets.readAll_change (h : Sets name value change) (hc : columns ⊆ all) (c : Channel) :
    readAll (Function.update cells name value) columns (change c) =
      change (readAll cells columns c) := by
  induction columns generalizing c with
  | nil => rfl
  | cons column rest ih =>
    obtain ⟨hcolumn, hrest⟩ := List.cons_subset.mp hc
    rw [readAll_cons, readAll_cons]
    by_cases hn : column.name = name
    · rw [hn, Function.update_self, (h.own column hcolumn hn _ c).2]
      exact ih hrest _
    · rw [Function.update_of_ne hn, h.others column hcolumn hn]
      exact ih hrest _

theorem Sets.readAll_update (h : Sets name value change) (hc : columns ⊆ all)
    (hm : name ∈ columns.map (·.name)) (c : Channel) :
    readAll (Function.update cells name value) columns c = change (readAll cells columns c) := by
  induction columns generalizing c with
  | nil => cases hm
  | cons column rest ih =>
    obtain ⟨hcolumn, hrest⟩ := List.cons_subset.mp hc
    rw [readAll_cons, readAll_cons]
    by_cases hn : column.name = name
    · rw [hn, Function.update_self, (h.own column hcolumn hn _ c).1]
      exact h.readAll_change hrest _
    · rw [Function.update_of_ne hn]
      refine ih hrest ?_ _
      rcases List.mem_cons.mp hm with hm | hm
      · exact absurd hm.symm hn
      · exact hm

theorem Sets.readAll_eq (h : Sets name value change) (hc : columns ⊆ all)
    (hm : name ∈ columns.map (·.name)) (hcell : cells name = value) (c : Channel) :
    readAll cells columns c = change (readAll cells columns c) := by
  have hsame : Function.update cells name value = cells := by
    rw [← hcell, Function.update_eq_self]
  calc
    readAll cells columns c = readAll (Function.update cells name value) columns c := by rw [hsame]
    _ = change (readAll cells columns c) := h.readAll_update hc hm c

theorem Shows.readAll_of_eq (h : Shows name field) (hc : columns ⊆ all)
    (hcell : cells name = .integer n) (c : Channel) (hf : field c = n) :
    field (readAll cells columns c) = n := by
  induction columns generalizing c with
  | nil => exact hf
  | cons column rest ih =>
    obtain ⟨hcolumn, hrest⟩ := List.cons_subset.mp hc
    rw [readAll_cons]
    refine ih hrest _ ?_
    by_cases hn : column.name = name
    · rw [hn, hcell, h.own column hcolumn hn]
    · rw [h.others column hcolumn hn, hf]

theorem Shows.readAll (h : Shows name field) (hc : columns ⊆ all)
    (hm : name ∈ columns.map (·.name)) (hcell : cells name = .integer n) (c : Channel) :
    field (readAll cells columns c) = n := by
  induction columns generalizing c with
  | nil => cases hm
  | cons column rest ih =>
    obtain ⟨hcolumn, hrest⟩ := List.cons_subset.mp hc
    rw [readAll_cons]
    by_cases hn : column.name = name
    · refine h.readAll_of_eq hrest hcell _ ?_
      rw [hn, hcell, h.own column hcolumn hn]
    · refine ih hrest ?_ _
      rcases List.mem_cons.mp hm with hm | hm
      · exact absurd hm.symm hn
      · exact hm

-- ---------------------------------------------------------------------------
-- Names of columns
-- ---------------------------------------------------------------------------

theorem nodup_names : (all.map (·.name)).Nodup := by decide

theorem eq_of_name (ha : a ∈ all) (hb : b ∈ all) (h : a.name = b.name) : a = b :=
  List.inj_on_of_nodup_map nodup_names ha hb h

theorem eq_of_find (hown : all.find? (·.name == name) = some own) (hc : column ∈ all)
    (hn : column.name = name) : column = own := by
  have hname : own.name = name := by simpa using List.find?_some hown
  exact eq_of_name hc (List.mem_of_find?_eq_some hown) (hn.trans hname.symm)

/-- The names of columns differ in more than the case of letters. -/
theorem sameLetters_names : ∀ a ∈ all.map (·.name), ∀ b ∈ all.map (·.name),
    Text.sameLetters a b = (a == b) := by decide +kernel

-- ---------------------------------------------------------------------------
-- Single columns
-- ---------------------------------------------------------------------------

theorem Sets.of_find {found : ChannelColumn} (hfound : all.find? (·.name == name) = some found)
    {value : Datum} {change : Channel → Channel}
    (hself : ∀ d c, found.read (value.cast found.kind) c = change (found.read d c) ∧
      found.read (value.cast found.kind) (change c) = change (found.read d c))
    (hothers : ∀ column ∈ all, column.name ≠ name → ∀ d c,
      column.read d (change c) = change (column.read d c)) : Sets name value change where
  own column hc hn := by
    obtain rfl := eq_of_find hfound hc hn
    exact hself
  others := hothers

theorem Shows.of_find {found : ChannelColumn} (hfound : all.find? (·.name == name) = some found)
    {field : Channel → Int}
    (hself : ∀ n c, field (found.read ((Datum.integer n).cast found.kind) c) = n)
    (hothers : ∀ column ∈ all, column.name ≠ name → ∀ d c, field (column.read d c) = field c) :
    Shows name field where
  own column hc hn := by
    obtain rfl := eq_of_find hfound hc hn
    exact hself
  others := hothers

theorem sets_key (key : String) : Sets "key" (.text key) fun c => { c with key := key } :=
  .of_find rfl (fun _ _ => ⟨rfl, rfl⟩) (by simp [all, int, text, maybeInt, maybeText])

theorem sets_status (status : Int) :
    Sets "status" (.integer status) fun c => { c with status := status } :=
  .of_find rfl (fun _ _ => ⟨rfl, rfl⟩) (by simp [all, int, text, maybeInt, maybeText])

theorem sets_name (name : String) : Sets "name" (.text name) fun c => { c with name := name } :=
  .of_find rfl (fun _ _ => ⟨rfl, rfl⟩) (by simp [all, int, text, maybeInt, maybeText])

theorem sets_models (models : String) :
    Sets "models" (.text models) fun c => { c with models := models } :=
  .of_find rfl (fun _ _ => ⟨rfl, rfl⟩) (by simp [all, int, text, maybeInt, maybeText])

theorem shows_id : Shows "id" (·.id) :=
  .of_find rfl (fun _ _ => rfl) (by simp [all, int, text, maybeInt, maybeText])

theorem shows_kind : Shows "type" (·.kind) :=
  .of_find rfl (fun _ _ => rfl) (by simp [all, int, text, maybeInt, maybeText])

theorem shows_status : Shows "status" (·.status) :=
  .of_find rfl (fun _ _ => rfl) (by simp [all, int, text, maybeInt, maybeText])

def number (d : Datum) : Int := (int? (d.cast .int)).getD 0

/-- The columns whose cells a filter tests. -/
def criteria : List String := ["id", "type", "status"]

theorem read_number (hm : name ∈ criteria) (hc : column ∈ all) (hn : column.name = name)
    (d : Datum) (c : Channel) : column.read (d.cast column.kind) c =
      column.read ((Datum.integer (number d)).cast column.kind) c := by
  simp only [criteria, List.mem_cons, List.not_mem_nil, or_false] at hm
  rcases hm with rfl | rfl | rfl
  · obtain rfl := eq_of_find rfl hc hn
    rfl
  · obtain rfl := eq_of_find rfl hc hn
    rfl
  · obtain rfl := eq_of_find rfl hc hn
    rfl

theorem field_readAll (h : Shows name field) (hname : name ∈ criteria)
    (hc : columns ⊆ all) (hm : name ∈ columns.map (·.name)) (c : Channel) :
    field (readAll cells columns c) = number (cells name) := by
  have hread : readAll cells columns c =
      readAll (Function.update cells name (.integer (number (cells name)))) columns c := by
    refine readAll_congr_read (fun column hcolumn c => ?_) c
    by_cases hn : column.name = name
    · rw [hn, Function.update_self]
      exact read_number hname (hc hcolumn) hn _ c
    · rw [Function.update_of_ne hn]
  rw [hread]
  exact h.readAll hc hm (Function.update_self ..) c

theorem write_name (hc : column ∈ all) (hn : column.name = "name") (c : Channel) :
    column.write c = .text c.name := by
  obtain rfl := eq_of_find rfl hc hn
  rfl

theorem write_of_id (id : Int) : ∀ column ∈ all, column.name ≠ "id" → ∀ c : Channel,
    column.write { c with id := id } = column.write c := by
  simp [all, int, text, maybeInt, maybeText]

end ChannelKeeper.ChannelColumn
