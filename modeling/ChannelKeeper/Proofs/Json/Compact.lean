import ChannelKeeper.Proofs.Json.Value

/-!
# Compact documents are read

The compact form of a value is read as the same document as its spread form, and so
as the value itself where its numbers read back and its containers do not nest too
deep.
-/

namespace ChannelKeeper.Json

theorem head_writeCompact {v : Value} (hv : ∀ n ∈ v.numbers, n.ReadsBack) :
    ∃ c r, writeCompact v = c :: r ∧ StartsValue c := by
  cases v with
  | null => exact ⟨_, _, rfl, rfl, by decide⟩
  | bool b => cases b <;> exact ⟨_, _, rfl, rfl, by decide⟩
  | number n => exact head_writeNumber (hv n (List.mem_singleton_self n))
  | string s => exact ⟨_, _, rfl, rfl, by decide⟩
  | array items => exact ⟨_, _, rfl, rfl, by decide⟩
  | object members => exact ⟨_, _, rfl, rfl, by decide⟩

theorem compactItems_opening {v : Value} (hv : ∀ n ∈ v.numbers, n.ReadsBack) (vs : List Value)
    (s r : List Char) : skipSpace (compactItems (v :: vs) ++ s) ≠ ']' :: r := by
  have hopen : ∃ tail, compactItems (v :: vs) = writeCompact v ++ tail := by
    cases vs with
    | nil => exact ⟨[], by simp [compactItems]⟩
    | cons w ws => exact ⟨_, rfl⟩
  obtain ⟨tail, ht⟩ := hopen
  obtain ⟨c, t, hw, hspace, hc⟩ := head_writeCompact hv
  rw [ht, hw, List.append_assoc, List.cons_append, skipSpace_cons hspace]
  exact fun he => hc (List.cons.inj he).1

theorem compactMembers_opening (m : String × Value) (ms : List (String × Value)) (s r : List Char) :
    skipSpace (compactMembers (m :: ms) ++ s) ≠ '\x7d' :: r := by
  have hopen : ∃ tail, compactMembers (m :: ms) = '"' :: tail := by
    cases ms <;> exact ⟨_, by rw [compactMembers, writeString, List.cons_append]⟩
  obtain ⟨tail, ht⟩ := hopen
  rw [ht, List.cons_append, skipSpace_cons rfl]
  exact fun he => absurd (List.cons.inj he).1 (by decide)

-- As for the spread form, the recursion is on the fuel. Nothing but the items stands
-- between two brackets, so it is the brackets that pay for the calls inside them.
mutual

theorem readValue_writeCompact : (fuel : Nat) → (v : Value) → (∀ n ∈ v.numbers, n.ReadsBack) →
    2 * (writeCompact v).length ≤ fuel → (rest : List Char) → EndsNumber rest →
    readValue fuel (writeCompact v ++ rest) = some (v.document, rest)
  | 0, v, hv, hf, _, _ => by
    obtain ⟨c, r, hw, -⟩ := head_writeCompact hv
    simp [hw] at hf
  | _ + 1, .null, _, _, _, _ => rfl
  | _ + 1, .bool true, _, _, _, _ => rfl
  | _ + 1, .bool false, _, _, _, _ => rfl
  | fuel + 1, .number n, hv, _, rest, hr =>
    readValue_writeNumber (hv n (List.mem_singleton_self n)) fuel hr
  | fuel + 1, .string s, _, _, rest, _ => readValue_string fuel s rest
  | _ + 1, .array [], _, _, _, _ => rfl
  | fuel + 1, .array (v :: vs), hv, hf, rest, _ => by
    have hitems := readItems_compactItems fuel v vs hv
      (by simp only [writeCompact, List.length_cons, List.length_append] at hf; omega) rest
    have hne := compactItems_opening (List.forall_mem_append.mp hv).1 vs
    simp only [writeCompact, List.cons_append, List.append_assoc, List.nil_append]
    exact readValue_array fuel (hne _) ((readItems_skipSpace fuel _).trans hitems)
  | _ + 1, .object [], _, _, _, _ => rfl
  | fuel + 1, .object (m :: ms), hv, hf, rest, _ => by
    have hmembers := readMembers_compactMembers fuel m ms hv
      (by simp only [writeCompact, List.length_cons, List.length_append] at hf; omega) rest
    have hne := compactMembers_opening m ms
    simp only [writeCompact, List.cons_append, List.append_assoc, List.nil_append]
    exact readValue_object fuel (hne _) ((readMembers_skipSpace fuel _).trans hmembers)

theorem readItems_compactItems : (fuel : Nat) → (v : Value) → (vs : List Value) →
    (∀ n ∈ itemNumbers (v :: vs), n.ReadsBack) → 2 * (compactItems (v :: vs)).length + 1 ≤ fuel →
    (rest : List Char) →
    readItems fuel (compactItems (v :: vs) ++ ']' :: rest) = some (itemDocuments (v :: vs), rest)
  | 0, _, _, _, hf, _ => absurd hf (Nat.not_succ_le_zero _)
  | fuel + 1, v, [], hv, hf, rest => by
    have hvalue := readValue_writeCompact fuel v (List.forall_mem_append.mp hv).1
      (Nat.le_of_succ_le_succ hf) (']' :: rest) (endsNumber_cons rfl _)
    exact readItems_last fuel hvalue (skipSpace_cons rfl _)
  | fuel + 1, v, w :: ws, hv, hf, rest => by
    simp only [compactItems, List.length_cons, List.length_append] at hf
    have hvalue := readValue_writeCompact fuel v (List.forall_mem_append.mp hv).1 (by omega)
      (',' :: (compactItems (w :: ws) ++ ']' :: rest)) (endsNumber_cons rfl _)
    have hmore := readItems_compactItems fuel w ws (List.forall_mem_append.mp hv).2 (by omega) rest
    rw [compactItems, List.append_assoc, List.cons_append]
    exact readItems_more fuel hvalue (skipSpace_cons rfl _) hmore

theorem readMembers_compactMembers : (fuel : Nat) → (m : String × Value) →
    (ms : List (String × Value)) → (∀ n ∈ memberNumbers (m :: ms), n.ReadsBack) →
    2 * (compactMembers (m :: ms)).length + 1 ≤ fuel → (rest : List Char) →
    readMembers fuel (compactMembers (m :: ms) ++ '\x7d' :: rest) =
      some (memberDocuments (m :: ms), rest)
  | 0, _, _, _, hf, _ => absurd hf (Nat.not_succ_le_zero _)
  | fuel + 1, (name, v), [], hv, hf, rest => by
    simp only [compactMembers, List.length_cons, List.length_append] at hf
    have hvalue := readValue_writeCompact fuel v (List.forall_mem_append.mp hv).1 (by omega)
      ('\x7d' :: rest) (endsNumber_cons rfl _)
    simp only [compactMembers, List.append_assoc, List.cons_append]
    exact readMembers_last fuel (skipSpace_writeString name _) hvalue (skipSpace_cons rfl _)
  | fuel + 1, (name, v), m :: ms, hv, hf, rest => by
    simp only [compactMembers, List.length_cons, List.length_append] at hf
    have hvalue := readValue_writeCompact fuel v (List.forall_mem_append.mp hv).1 (by omega)
      (',' :: (compactMembers (m :: ms) ++ '\x7d' :: rest)) (endsNumber_cons rfl _)
    have hmore := readMembers_compactMembers fuel m ms (List.forall_mem_append.mp hv).2
      (by omega) rest
    simp only [compactMembers, List.append_assoc, List.cons_append]
    exact readMembers_more fuel (skipSpace_writeString name _) hvalue (skipSpace_cons rfl _) hmore

end

theorem Document.read?_compact {v : Value} (hv : ∀ n ∈ v.numbers, n.ReadsBack) :
    Document.read? v.compact = some v.document := by
  have hread := readValue_writeCompact (2 * (writeCompact v).length + 2) v hv (by omega) []
    endsNumber_nil
  rw [List.append_nil] at hread
  simp only [Document.read?, Value.compact, String.toList_ofList, hread]
  rfl

theorem Value.read?_compact {v : Value} (ho : v.Ordered) (hv : ∀ n ∈ v.numbers, n.ReadsBack)
    (hn : v.nesting ≤ depthLimit) : read? v.compact = some v := by
  rw [read?, Document.read?_compact hv]
  exact (ofDocument?_document v ho hv depthLimit).trans (if_pos hn)

end ChannelKeeper.Json
