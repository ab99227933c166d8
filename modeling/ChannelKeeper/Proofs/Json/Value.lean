import Mathlib.Data.String.Basic
import ChannelKeeper.Proofs.Json.Pretty

/-!
# Written values are read as themselves

A value whose objects are sorted by name comes back from its document when its
containers do not nest deeper than the reader allows, and is refused otherwise.
Every value that is read has sorted objects and integers of 64 bits.
-/

namespace ChannelKeeper.Json

namespace Value

mutual

/-- How many containers stand in each other. -/
def nesting : Value → Nat
  | .array items => itemNesting items + 1
  | .object members => memberNesting members + 1
  | _ => 0

def itemNesting : List Value → Nat
  | [] => 0
  | v :: rest => max v.nesting (itemNesting rest)

def memberNesting : List (String × Value) → Nat
  | [] => 0
  | (_, v) :: rest => max v.nesting (memberNesting rest)

end

mutual

/-- The names of every object increase. -/
def Ordered : Value → Prop
  | .array items => ItemsOrdered items
  | .object members => (members.map Prod.fst).Pairwise (· < ·) ∧ MembersOrdered members
  | _ => True

def ItemsOrdered : List Value → Prop
  | [] => True
  | v :: rest => v.Ordered ∧ ItemsOrdered rest

def MembersOrdered : List (String × Value) → Prop
  | [] => True
  | (_, v) :: rest => v.Ordered ∧ MembersOrdered rest

end

/-- An integer that a text can hold without loss. -/
def IntFits (n : Int) : Prop := -(maxNegative : Int) ≤ n ∧ n ≤ maxUnsigned

/-- A value as a text can hold it, its floats apart. -/
structure WellFormed (v : Value) : Prop where
  ordered : v.Ordered
  integers : ∀ n, .int n ∈ v.numbers → IntFits n

theorem wellFormed_of_plain {v : Value} (ho : v.Ordered) (hn : v.numbers = []) : v.WellFormed :=
  ⟨ho, fun _ h => absurd (hn ▸ h) List.not_mem_nil⟩

/-- All numbers of a value read back when its floats do. -/
theorem readsBack_of_fits {v : Value} (hi : ∀ n, .int n ∈ v.numbers → IntFits n)
    (hf : ∀ x, .float x ∈ v.numbers → (Number.float x).ReadsBack) :
    ∀ n ∈ v.numbers, n.ReadsBack := by
  intro n hn
  cases n with
  | int n => exact readsBack_int (hi n hn).1 (hi n hn).2
  | float x => exact hf x hn

@[simp] theorem nesting_text (o : Option String) : (Value.optional .string o).nesting = 0 := by
  cases o <;> rfl

@[simp] theorem nesting_int (o : Option Int) : (Value.optional .int o).nesting = 0 := by
  cases o <;> rfl

@[simp] theorem numbers_text (o : Option String) : (Value.optional .string o).numbers = [] := by
  cases o <;> rfl

@[simp] theorem numbers_int (o : Option Int) :
    (Value.optional .int o).numbers = o.toList.map .int := by
  cases o <;> rfl

-- ---------------------------------------------------------------------------
-- Reading a written value
-- ---------------------------------------------------------------------------

theorem document_number {n : Number} (h : n.ReadsBack) :
    ∃ text, (Value.number n).document = .number text ∧ text.toNumber? = some n := by
  obtain ⟨text, hread, hn⟩ := h
  exact ⟨text, by rw [document, hread], hn⟩

theorem insertMember_of_lt {found : List (String × Value)} {name : String}
    (h : ∀ m ∈ found, m.1 < name) (v : Value) :
    insertMember name v found = found ++ [(name, v)] := by
  induction found with
  | nil => rfl
  | cons m rest ih =>
    have hm : m.1 < name := h m List.mem_cons_self
    have hrest := ih fun m hr => h m (List.mem_cons_of_mem _ hr)
    rw [insertMember, if_neg hm.ne', if_neg hm.asymm, hrest]
    rfl

mutual

theorem ofDocument?_document : (v : Value) → v.Ordered → (∀ n ∈ v.numbers, n.ReadsBack) →
    (depth : Nat) →
    ofDocument? depth v.document = if v.nesting ≤ depth then some v else none
  | .null, _, _, _ => rfl
  | .bool b, _, _, _ => rfl
  | .number n, _, hv, depth => by
    obtain ⟨text, hd, hn⟩ := document_number (hv n (List.mem_singleton_self n))
    rw [hd, ofDocument?, hn]
    rfl
  | .string s, _, _, depth => by
    rw [document, ofDocument?, decodeText_piecesOf]
    rfl
  | .array items, ho, hv, depth => by
    cases depth with
    | zero => rfl
    | succ depth =>
      rw [document, ofDocument?, ofItems?_itemDocuments items ho hv depth, nesting]
      simp only [Nat.add_le_add_iff_right]
      split <;> rfl
  | .object members, ho, hv, depth => by
    cases depth with
    | zero => rfl
    | succ depth =>
      rw [document, ofDocument?,
        ofMembers?_memberDocuments members ho.1 ho.2 hv depth [] nofun, nesting]
      simp only [Nat.add_le_add_iff_right]
      split <;> rfl

theorem ofItems?_itemDocuments : (items : List Value) → ItemsOrdered items →
    (∀ n ∈ itemNumbers items, n.ReadsBack) → (depth : Nat) →
    ofItems? depth (itemDocuments items) =
      if itemNesting items ≤ depth then some items else none
  | [], _, _, _ => rfl
  | v :: rest, ho, hv, depth => by
    have hhead := ofDocument?_document v ho.1 (List.forall_mem_append.mp hv).1 depth
    have hrest := ofItems?_itemDocuments rest ho.2 (List.forall_mem_append.mp hv).2 depth
    rw [itemDocuments, ofItems?, hhead, hrest, itemNesting]
    by_cases h : v.nesting ≤ depth <;> by_cases hr : itemNesting rest ≤ depth <;> simp [h, hr]

theorem ofMembers?_memberDocuments : (members : List (String × Value)) →
    (members.map Prod.fst).Pairwise (· < ·) → MembersOrdered members →
    (∀ n ∈ memberNumbers members, n.ReadsBack) → (depth : Nat) →
    (found : List (String × Value)) → (∀ m ∈ found, ∀ name ∈ members.map Prod.fst, m.1 < name) →
    ofMembers? depth (memberDocuments members) found =
      if memberNesting members ≤ depth then some (found ++ members) else none
  | [], _, _, _, _, found, _ => by simp [memberDocuments, ofMembers?, memberNesting]
  | (name, v) :: rest, hsorted, ho, hv, depth, found, hfound => by
    rw [List.map_cons, List.pairwise_cons] at hsorted
    have hhead := ofDocument?_document v ho.1 (List.forall_mem_append.mp hv).1 depth
    have hinsert := insertMember_of_lt (fun m hm => hfound m hm name List.mem_cons_self) v
    have hrest := ofMembers?_memberDocuments rest hsorted.2 ho.2
      (List.forall_mem_append.mp hv).2 depth (found ++ [(name, v)]) (by
        intro m hm other ho
        rcases List.mem_append.mp hm with hm | hm
        · exact hfound m hm other (List.mem_cons_of_mem _ ho)
        · rw [List.mem_singleton.mp hm]
          exact hsorted.1 other ho)
    rw [memberDocuments, ofMembers?, decodeText_piecesOf, hhead, memberNesting]
    by_cases h : v.nesting ≤ depth
    · simp [h, hinsert, hrest]
    · simp [h]

end

-- ---------------------------------------------------------------------------
-- What is read is well formed
-- ---------------------------------------------------------------------------

theorem itemsOrdered_iff : {items : List Value} → (ItemsOrdered items ↔ ∀ v ∈ items, v.Ordered)
  | [] => by simp [ItemsOrdered]
  | v :: rest => by simp [ItemsOrdered, itemsOrdered_iff]

theorem membersOrdered_iff :
    {members : List (String × Value)} → (MembersOrdered members ↔ ∀ m ∈ members, m.2.Ordered)
  | [] => by simp [MembersOrdered]
  | (_, v) :: rest => by simp [MembersOrdered, membersOrdered_iff]

theorem mem_itemNumbers {n : Number} :
    {items : List Value} → (n ∈ itemNumbers items ↔ ∃ v ∈ items, n ∈ v.numbers)
  | [] => by simp [itemNumbers]
  | v :: rest => by simp [itemNumbers, mem_itemNumbers]

theorem mem_memberNumbers {n : Number} :
    {members : List (String × Value)} →
      (n ∈ memberNumbers members ↔ ∃ m ∈ members, n ∈ m.2.numbers)
  | [] => by simp [memberNumbers]
  | (_, v) :: rest => by simp [memberNumbers, mem_memberNumbers]

theorem wellFormed_array {items : List Value} (h : ∀ v ∈ items, v.WellFormed) :
    (array items).WellFormed := by
  refine ⟨itemsOrdered_iff.mpr fun v hv => (h v hv).ordered, fun n hn => ?_⟩
  obtain ⟨v, hv, hn⟩ := mem_itemNumbers.mp hn
  exact (h v hv).integers n hn

theorem wellFormed_object {members : List (String × Value)}
    (hs : (members.map Prod.fst).Pairwise (· < ·)) (h : ∀ m ∈ members, m.2.WellFormed) :
    (object members).WellFormed := by
  refine ⟨⟨hs, membersOrdered_iff.mpr fun m hm => (h m hm).ordered⟩, fun n hn => ?_⟩
  obtain ⟨m, hm, hn⟩ := mem_memberNumbers.mp hn
  exact (h m hm).integers n hn

theorem intFits_of_toNumber? {text : NumberText} {n : Int}
    (h : text.toNumber? = some (.int n)) : IntFits n := by
  unfold NumberText.toNumber? at h
  simp only at h
  split at h
  · simp [Option.map_eq_some_iff] at h
  · split at h
    · rename_i hu
      simp only [Option.some.injEq, Number.int.injEq, Bool.and_eq_true, decide_eq_true_eq] at h hu
      exact ⟨by omega, by omega⟩
    · split at h
      · rename_i hl
        simp only [Option.some.injEq, Number.int.injEq, Bool.and_eq_true, decide_eq_true_eq] at h hl
        exact ⟨by omega, by omega⟩
      · simp [Option.map_eq_some_iff] at h

theorem mem_insertMember {name : String} {v : Value} {m : String × Value} :
    {found : List (String × Value)} → m ∈ insertMember name v found → m = (name, v) ∨ m ∈ found
  | [], h => .inl (List.mem_singleton.mp h)
  | (n, w) :: rest, h => by
    unfold insertMember at h
    split at h
    · grind
    · split at h
      · grind
      · rcases List.mem_cons.mp h with rfl | h
        · exact .inr List.mem_cons_self
        · exact (mem_insertMember h).imp id (List.mem_cons_of_mem _)

theorem pairwise_insertMember {name : String} (v : Value) :
    {found : List (String × Value)} → (found.map Prod.fst).Pairwise (· < ·) →
      ((insertMember name v found).map Prod.fst).Pairwise (· < ·)
  | [], _ => List.pairwise_singleton _ _
  | (n, w) :: rest, h => by
    rw [List.map_cons, List.pairwise_cons] at h
    unfold insertMember
    split
    · rename_i he
      exact List.pairwise_cons.mpr ⟨he ▸ h.1, h.2⟩
    · rename_i hne
      split
      · rename_i hlt
        refine List.pairwise_cons.mpr ⟨fun other ho => ?_, List.pairwise_cons.mpr h⟩
        rcases List.mem_cons.mp ho with rfl | ho
        · exact hlt
        · exact hlt.trans (h.1 other ho)
      · rename_i hlt
        refine List.pairwise_cons.mpr ⟨fun other ho => ?_, pairwise_insertMember v h.2⟩
        obtain ⟨m, hm, rfl⟩ := List.mem_map.mp ho
        rcases mem_insertMember hm with rfl | hm
        · exact lt_of_le_of_ne (not_lt.mp hlt) (Ne.symm hne)
        · exact h.1 _ (List.mem_map_of_mem hm)

mutual

theorem wellFormed_ofDocument? : (d : Document) → (depth : Nat) → {v : Value} →
    ofDocument? depth d = some v → v.WellFormed
  | .null, _, _, h => by
    cases h
    exact wellFormed_of_plain trivial rfl
  | .bool b, _, _, h => by
    cases h
    exact wellFormed_of_plain trivial rfl
  | .number text, _, _, h => by
    obtain ⟨n, hn, rfl⟩ := Option.map_eq_some_iff.mp h
    refine ⟨trivial, fun i hi => intFits_of_toNumber? (hn.trans ?_)⟩
    rw [List.mem_singleton.mp hi]
  | .string s, _, _, h => by
    obtain ⟨text, -, rfl⟩ := Option.map_eq_some_iff.mp h
    exact wellFormed_of_plain trivial rfl
  | .array items, 0, _, h => by cases h
  | .array items, depth + 1, _, h => by
    obtain ⟨vs, hvs, rfl⟩ := Option.map_eq_some_iff.mp h
    exact wellFormed_array (wellFormed_ofItems? items depth hvs)
  | .object members, 0, _, h => by cases h
  | .object members, depth + 1, _, h => by
    obtain ⟨ms, hms, rfl⟩ := Option.map_eq_some_iff.mp h
    obtain ⟨hs, hw⟩ := wellFormed_ofMembers? members depth [] .nil nofun hms
    exact wellFormed_object hs hw

theorem wellFormed_ofItems? : (items : List Document) → (depth : Nat) → {vs : List Value} →
    ofItems? depth items = some vs → ∀ v ∈ vs, v.WellFormed
  | [], _, _, h => by
    cases h
    exact nofun
  | d :: rest, depth, _, h => by
    simp only [ofItems?, bind, Option.bind_eq_some_iff] at h
    obtain ⟨v, hv, vs, hvs, he⟩ := h
    cases he
    exact List.forall_mem_cons.mpr
      ⟨wellFormed_ofDocument? d depth hv, wellFormed_ofItems? rest depth hvs⟩

theorem wellFormed_ofMembers? : (members : List (List Piece × Document)) → (depth : Nat) →
    (found : List (String × Value)) → (found.map Prod.fst).Pairwise (· < ·) →
    (∀ m ∈ found, m.2.WellFormed) → {ms : List (String × Value)} →
    ofMembers? depth members found = some ms →
    (ms.map Prod.fst).Pairwise (· < ·) ∧ ∀ m ∈ ms, m.2.WellFormed
  | [], _, found, hs, hw, _, h => by
    cases h
    exact ⟨hs, hw⟩
  | (key, d) :: rest, depth, found, hs, hw, _, h => by
    simp only [ofMembers?, bind, Option.bind_eq_some_iff] at h
    obtain ⟨name, -, v, hv, h⟩ := h
    refine wellFormed_ofMembers? rest depth _ (pairwise_insertMember v hs) (fun m hm => ?_) h
    rcases mem_insertMember hm with rfl | hm
    · exact wellFormed_ofDocument? d depth hv
    · exact hw m hm

end

theorem wellFormed_read? {text : String} {v : Value} (h : read? text = some v) : v.WellFormed := by
  obtain ⟨d, -, hd⟩ := Option.bind_eq_some_iff.mp h
  exact wellFormed_ofDocument? d depthLimit hd

-- ---------------------------------------------------------------------------
-- How deep a value is that was read
-- ---------------------------------------------------------------------------

theorem memberNesting_insertMember (name : String) (v : Value) :
    (found : List (String × Value)) →
      memberNesting (insertMember name v found) ≤ max v.nesting (memberNesting found)
  | [] => le_refl _
  | (n, w) :: rest => by
    have ih := memberNesting_insertMember name v rest
    unfold insertMember
    split
    · simp only [memberNesting]
      omega
    · split
      · exact le_refl _
      · simp only [memberNesting]
        omega

mutual

theorem nesting_ofDocument? : (d : Document) → (depth : Nat) → {v : Value} →
    ofDocument? depth d = some v → v.nesting ≤ depth
  | .null, _, _, h => by
    cases h
    exact Nat.zero_le _
  | .bool b, _, _, h => by
    cases h
    exact Nat.zero_le _
  | .number text, _, _, h => by
    obtain ⟨n, -, rfl⟩ := Option.map_eq_some_iff.mp h
    exact Nat.zero_le _
  | .string s, _, _, h => by
    obtain ⟨text, -, rfl⟩ := Option.map_eq_some_iff.mp h
    exact Nat.zero_le _
  | .array items, 0, _, h => by cases h
  | .array items, depth + 1, _, h => by
    obtain ⟨vs, hvs, rfl⟩ := Option.map_eq_some_iff.mp h
    exact Nat.succ_le_succ (nesting_ofItems? items depth hvs)
  | .object members, 0, _, h => by cases h
  | .object members, depth + 1, _, h => by
    obtain ⟨ms, hms, rfl⟩ := Option.map_eq_some_iff.mp h
    exact Nat.succ_le_succ (nesting_ofMembers? members depth [] (Nat.zero_le _) hms)

theorem nesting_ofItems? : (items : List Document) → (depth : Nat) → {vs : List Value} →
    ofItems? depth items = some vs → itemNesting vs ≤ depth
  | [], _, _, h => by
    cases h
    exact Nat.zero_le _
  | d :: rest, depth, _, h => by
    simp only [ofItems?, bind, Option.bind_eq_some_iff] at h
    obtain ⟨v, hv, vs, hvs, he⟩ := h
    cases he
    exact max_le (nesting_ofDocument? d depth hv) (nesting_ofItems? rest depth hvs)

theorem nesting_ofMembers? : (members : List (List Piece × Document)) → (depth : Nat) →
    (found : List (String × Value)) → memberNesting found ≤ depth →
    {ms : List (String × Value)} → ofMembers? depth members found = some ms →
    memberNesting ms ≤ depth
  | [], _, found, hn, _, h => by
    cases h
    exact hn
  | (key, d) :: rest, depth, found, hn, _, h => by
    simp only [ofMembers?, bind, Option.bind_eq_some_iff] at h
    obtain ⟨name, -, v, hv, h⟩ := h
    refine nesting_ofMembers? rest depth _ ?_ h
    exact (memberNesting_insertMember name v found).trans
      (max_le (nesting_ofDocument? d depth hv) hn)

end

theorem nesting_read? {text : String} {v : Value} (h : read? text = some v) :
    v.nesting ≤ depthLimit := by
  obtain ⟨d, -, hd⟩ := Option.bind_eq_some_iff.mp h
  exact nesting_ofDocument? d depthLimit hd

end Value

end ChannelKeeper.Json
