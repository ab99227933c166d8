import ChannelKeeper.Key.Keeping
import ChannelKeeper.Proofs.Action
import ChannelKeeper.Proofs.Text.Split

/-!
# Entries of a stored text, and keys that are taken out

Every entry that is read from a stored text is a line without blanks at its
ends, and such lines, written one below the other, are read back as they are.
The stored text itself need not come back: blank lines and blanks at the ends of
a line are lost. The keys taken out of channels are their plain entries, each with
the id of its channel. The order of the keys is not looked at.
-/

namespace ChannelKeeper.Credential

/-- A line that can stand as an entry of its own. -/
structure IsEntry (entry : String) : Prop where
  trimmed : Text.trim entry = entry
  ne_empty : entry ≠ ""
  one_line : '\n' ∉ entry.toList

theorem isEntry_of_mem_entries (h : entry ∈ entries stored) : IsEntry entry := by
  simp only [entries, Text.splitOn, List.map_map, List.mem_filter, List.mem_map,
    Function.comp_apply, decide_eq_true_eq] at h
  obtain ⟨⟨line, hline, rfl⟩, hne⟩ := h
  refine ⟨Text.trim_trim _, hne, fun hc => ?_⟩
  rw [Text.toList_trim, String.toList_ofList] at hc
  exact Text.Chars.not_mem_of_mem_splitOn hline (Text.Chars.mem_of_mem_trim hc)

/-- Reading undoes writing, for entries that are lines of their own. -/
theorem entries_ofLines (h : ∀ e ∈ es, IsEntry e) : entries (ofLines es) = es :=
  Text.trimmed_splitOn_join (fun e he => (h e he).trimmed) (fun e he => (h e he).ne_empty)
    fun e he => (h e he).one_line

/-- Writing a part of the entries keeps exactly that part. -/
theorem entries_ofLines_filter (p : String → Bool) (stored : String) :
    entries (ofLines ((entries stored).filter p)) = (entries stored).filter p :=
  entries_ofLines fun _ he => isEntry_of_mem_entries (List.mem_of_mem_filter he)

end ChannelKeeper.Credential

namespace ChannelKeeper

theorem exists_of_mem_extractKeys (h : k ∈ extractKeys channels) :
    ∃ c ∈ channels, k.channelId = c.id ∧ k.apiKey ∈ c.plainKeys := by
  obtain ⟨c, hc, hk⟩ := List.mem_flatMap.mp h
  obtain ⟨key, hkey, rfl⟩ := List.mem_map.mp hk
  exact ⟨c, hc, rfl, hkey⟩

theorem mem_extractKeys {c : Channel} (hc : c ∈ channels) (hkey : key ∈ c.plainKeys) :
    ⟨c.id, c.name, c.kind, c.status, key, c.models⟩ ∈ extractKeys channels :=
  List.mem_flatMap.mpr ⟨c, hc, List.mem_map_of_mem hkey⟩

theorem Workspace.extractKeys_eq_ok {σ : Type} {w : Workspace σ} {s s' : σ}
    (h : (w.extractKeys f).perform s = (.ok keys, s')) :
    ∃ listed, (w.channels.list f).perform s = (.ok listed, s') ∧
      keys = ChannelKeeper.extractKeys listed := by
  obtain ⟨listed, s₁, hlist, hkeys⟩ := Action.perform_bind_eq_ok.mp h
  cases hkeys
  exact ⟨listed, Action.perform_mapError_eq_ok.mp hlist, rfl⟩

end ChannelKeeper
