import ChannelKeeper.Proofs.Channel.Columns
import ChannelKeeper.Proofs.Json.Compact

/-!
# Fields that are written and read

A channel that is written to some of the columns and read from them has the fields of
these columns as they were, and the default in all others. The info comes back if it
is neither null nor a string, which are written as other texts are, and if its text
does: floats in it must read back and its containers must not nest too deep.
-/

namespace ChannelKeeper

/-- The channel with the fields of these columns and the default in all others. -/
def Channel.limitedTo (names : List String) (c : Channel) : Channel where
  id := if "id" ∈ names then c.id else 0
  kind := if "type" ∈ names then c.kind else 0
  key := if "key" ∈ names then c.key else ""
  organization := if "open_ai_organization" ∈ names then c.organization else none
  testModel := if "test_model" ∈ names then c.testModel else none
  status := if "status" ∈ names then c.status else 0
  name := if "name" ∈ names then c.name else ""
  weight := if "weight" ∈ names then c.weight else none
  createdTime := if "created_time" ∈ names then c.createdTime else 0
  testTime := if "test_time" ∈ names then c.testTime else 0
  responseTime := if "response_time" ∈ names then c.responseTime else 0
  baseUrl := if "base_url" ∈ names then c.baseUrl else none
  other := if "other" ∈ names then c.other else ""
  balance := if "balance" ∈ names then c.balance else .zero
  balanceUpdatedTime := if "balance_updated_time" ∈ names then c.balanceUpdatedTime else 0
  models := if "models" ∈ names then c.models else ""
  group := if "group" ∈ names then c.group else ""
  usedQuota := if "used_quota" ∈ names then c.usedQuota else 0
  modelMapping := if "model_mapping" ∈ names then c.modelMapping else none
  statusCodeMapping := if "status_code_mapping" ∈ names then c.statusCodeMapping else none
  priority := if "priority" ∈ names then c.priority else none
  autoBan := if "auto_ban" ∈ names then c.autoBan else none
  otherInfo := if "other_info" ∈ names then c.otherInfo else ""
  tag := if "tag" ∈ names then c.tag else none
  setting := if "setting" ∈ names then c.setting else none
  paramOverride := if "param_override" ∈ names then c.paramOverride else none
  info := if "channel_info" ∈ names then c.info else .null

theorem Channel.limitedTo_nil (c : Channel) : c.limitedTo [] = {} := rfl

theorem Channel.limitedTo_all (c : Channel) :
    c.limitedTo (ChannelColumn.all.map (·.name)) = c := by
  simp [limitedTo, ChannelColumn.all, ChannelColumn.int, ChannelColumn.text,
    ChannelColumn.maybeInt, ChannelColumn.maybeText]

theorem Channel.limitedTo_congr {names names' : List String} (h : ∀ n, n ∈ names ↔ n ∈ names')
    (c : Channel) : c.limitedTo names = c.limitedTo names' := by
  simp only [limitedTo, h]

namespace ChannelColumn

open Relational (Datum)

theorem cast_write : ∀ column ∈ all, ∀ c : Channel,
    (column.write c).cast column.kind = column.write c := by
  have hint : ∀ n, (Datum.integer n).cast .int = .integer n := fun _ => rfl
  have hfloat : ∀ x, (Datum.real x).cast .float = .real x := fun _ => rfl
  have htext : ∀ s, (Datum.text s).cast .text = .text s := fun _ => rfl
  have hmaybeInt : ∀ o : Option Int, (optionalInt o).cast .int = optionalInt o := by
    intro o
    cases o <;> rfl
  have hmaybeText : ∀ o : Option String, (optionalText o).cast .text = optionalText o := by
    intro o
    cases o <;> rfl
  simp only [all, int, text, maybeInt, maybeText, List.forall_mem_cons, hint, hfloat, htext,
    hmaybeInt, hmaybeText, implies_true, List.not_mem_nil, false_implies, and_self]

theorem int?_optionalInt (o : Option Int) : int? (optionalInt o) = o := by
  cases o <;> rfl

theorem text?_optionalText (o : Option String) : text? (optionalText o) = o := by
  cases o <;> rfl

theorem read_write {c : Channel} : ∀ column ∈ all, (column.name = "channel_info" →
      infoOfCell (some (infoText c.info)) = c.info) →
    ∀ names, column.read (column.write c) (c.limitedTo names) =
      c.limitedTo (column.name :: names) := by
  have hint : ∀ n, (int? (.integer n)).getD 0 = n := fun _ => rfl
  have hfloat : ∀ x, (float? (.real x)).getD .zero = x := fun _ => rfl
  have htext : ∀ s, (text? (.text s)).getD "" = s := fun _ => rfl
  have hown : text? (.text (infoText c.info)) = some (infoText c.info) := rfl
  simp only [all, int, text, maybeInt, maybeText, List.forall_mem_cons]
  simp +contextual only [hint, hfloat, htext, int?_optionalInt, text?_optionalText, hown,
    Channel.limitedTo, List.mem_cons, String.reduceEq, true_or, false_or, if_true, implies_true,
    List.not_mem_nil, false_implies, and_self, forall_const]

theorem readAll_limitedTo {c : Channel} {cells : String → Datum} {columns : List ChannelColumn}
    (hc : columns ⊆ all)
    (hinfo : "channel_info" ∈ columns.map (·.name) → infoOfCell (some (infoText c.info)) = c.info)
    (hcells : ∀ column ∈ columns, (cells column.name).cast column.kind = column.write c)
    (names : List String) :
    readAll cells columns (c.limitedTo names) =
      c.limitedTo (columns.map (·.name) ++ names) := by
  induction columns generalizing names with
  | nil => rfl
  | cons column rest ih =>
    obtain ⟨hcolumn, hrest⟩ := List.cons_subset.mp hc
    obtain ⟨hcell, hcells⟩ := List.forall_mem_cons.mp hcells
    rw [List.map_cons, List.mem_cons] at hinfo
    rw [readAll_cons, hcell, read_write column hcolumn fun hn => hinfo (.inl hn.symm),
      ih hrest (fun hm => hinfo (.inr hm)) hcells]
    refine Channel.limitedTo_congr (fun n => ?_) c
    simp only [List.map_cons, List.mem_append, List.mem_cons]
    tauto

/-- The cells that a channel was written to show its fields, and no others. -/
theorem readAll_written {c : Channel} {cells : String → Datum} {columns : List ChannelColumn}
    (hc : columns ⊆ all)
    (hinfo : "channel_info" ∈ columns.map (·.name) → infoOfCell (some (infoText c.info)) = c.info)
    (hcells : ∀ column ∈ columns, (cells column.name).cast column.kind = column.write c) :
    readAll cells columns {} = c.limitedTo (columns.map (·.name)) := by
  have hread := readAll_limitedTo hc hinfo hcells []
  rwa [Channel.limitedTo_nil, List.append_nil] at hread

-- ---------------------------------------------------------------------------
-- Infos
-- ---------------------------------------------------------------------------

theorem isBlank_of_isDigit {c : Char} (h : c.isDigit = true) : Text.isBlank c = false := by
  simp only [Char.isDigit, Bool.and_eq_true, decide_eq_true_eq] at h
  have hrange : 48 ≤ c.toNat ∧ c.toNat ≤ 57 :=
    ⟨UInt32.le_iff_toNat_le.mp h.1, UInt32.le_iff_toNat_le.mp h.2⟩
  simp only [Text.isBlank, Bool.or_eq_false_iff, Bool.and_eq_false_iff, beq_eq_false_iff_ne,
    decide_eq_false_iff_not]
  omega

theorem isBlankText_compact {v : Json.Value} (hv : ∀ n ∈ v.numbers, n.ReadsBack) :
    Text.isBlankText v.compact = false := by
  have hhead : ∃ c r, Json.writeCompact v = c :: r ∧ Text.isBlank c = false := by
    cases v with
    | null => exact ⟨_, _, rfl, rfl⟩
    | bool b => cases b <;> exact ⟨_, _, rfl, rfl⟩
    | number n =>
      obtain ⟨text, hread, -⟩ := hv n (List.mem_singleton_self n)
      obtain ⟨c, r, hw, hc | rfl⟩ := Json.head_of_readNumber hread
      · exact ⟨c, r, hw, isBlank_of_isDigit hc⟩
      · exact ⟨_, r, hw, rfl⟩
    | string s => exact ⟨_, _, rfl, rfl⟩
    | array items => exact ⟨_, _, rfl, rfl⟩
    | object members => exact ⟨_, _, rfl, rfl⟩
  obtain ⟨c, r, hw, hc⟩ := hhead
  rw [Text.isBlankText, Json.Value.compact, String.toList_ofList, hw, List.all_cons, hc]
  rfl

/-- An info that is a value of its own kind, which its text gives back. -/
structure InfoReadsBack (v : Json.Value) : Prop where
  notNull : v ≠ .null
  notString : ∀ s, v ≠ .string s
  wellFormed : v.WellFormed
  floats : ∀ x, .float x ∈ v.numbers → (Json.Number.float x).ReadsBack
  nesting : v.nesting ≤ Json.Value.depthLimit

theorem InfoReadsBack.infoOfCell {v : Json.Value} (h : InfoReadsBack v) :
    infoOfCell (some (infoText v)) = v := by
  have hnumbers := Json.Value.readsBack_of_fits h.wellFormed.integers h.floats
  have htext : infoText v = v.compact := by
    cases v with
    | null => exact absurd rfl h.notNull
    | string s => exact absurd rfl (h.notString s)
    | bool | number | array | object => rfl
  rw [htext, ChannelColumn.infoOfCell, isBlankText_compact hnumbers,
    Json.Value.read?_compact h.wellFormed.ordered hnumbers h.nesting]
  rfl

end ChannelColumn

end ChannelKeeper
