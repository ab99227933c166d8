import ChannelKeeper.Json.Record
import ChannelKeeper.Proofs.Json.Value

/-!
# Written records

An object whose members are different fields of a record is that record, and each
field is read as the value that was written for it.
-/

namespace ChannelKeeper.Json

/-- A signed integer of 64 bits. -/
def IsInt64 (n : Int) : Prop := -9223372036854775808 ≤ n ∧ n ≤ 9223372036854775807

theorem IsInt64.fits {n : Int} (h : IsInt64 n) : Value.IntFits n := by
  unfold IsInt64 at h
  unfold Value.IntFits maxNegative maxUnsigned
  omega

theorem IsInt64.readsBack {n : Int} (h : IsInt64 n) : (Number.int n).ReadsBack :=
  readsBack_int h.fits.1 h.fits.2

namespace Record

theorem bind_of_eq {α β : Type} {x : Option α} {a : α} {f : α → Option β} (h : x = some a) :
    (x >>= f) = f a := by
  rw [h]
  rfl

def written (members : List (String × Value)) : Record :=
  ⟨false, members.map fun m => (m.1, m.2.document)⟩

theorem collect_memberDocuments {fields : List String} {members : List (String × Value)}
    (hf : ∀ m ∈ members, m.1 ∈ fields) (hn : (members.map Prod.fst).Nodup) :
    collect fields (memberDocuments members) = some (written members).found := by
  induction members with
  | nil => rfl
  | cons m rest ih =>
    obtain ⟨name, v⟩ := m
    rw [List.map_cons, List.nodup_cons] at hn
    have hrest := ih (fun m hm => hf m (List.mem_cons_of_mem _ hm)) hn.2
    have hfield : fields.contains name = true :=
      List.contains_iff_mem.mpr (hf (name, v) List.mem_cons_self)
    have hfirst : (written rest).found.any (·.1 == name) = false := by
      rw [List.any_eq_false]
      intro found hfound
      obtain ⟨m, hm, rfl⟩ := List.mem_map.mp hfound
      rw [beq_iff_eq]
      exact fun he => hn.1 (List.mem_map.mpr ⟨m, hm, he⟩)
    simp only [memberDocuments, collect, decodeText_piecesOf, hrest, bind, Option.bind_some,
      hfield, hfirst]
    rfl

def membersOf : Value → List (String × Value)
  | .object members => members
  | _ => []

/-- An object with the fields in their order. -/
theorem ofDocument?_fields {fields : List String} {members : List (String × Value)}
    (hf : members.map Prod.fst = fields) (hn : fields.Nodup) :
    ofDocument? fields (Value.object members).document = some (written members) := by
  have hmem : ∀ m ∈ members, m.1 ∈ fields := fun m hm => hf ▸ List.mem_map_of_mem hm
  rw [Value.document, ofDocument?, collect_memberDocuments hmem (hf ▸ hn)]
  rfl

variable {members : List (String × Value)} (hn : (members.map Prod.fst).Nodup)

include hn

theorem get?_written {i : Nat} {field : String} {v : Value} (hi : members[i]? = some (field, v)) :
    (written members).get? field = some v.document := by
  induction members generalizing i with
  | nil => cases hi
  | cons m rest ih =>
    rw [List.map_cons, List.nodup_cons] at hn
    cases i with
    | zero =>
      cases hi
      simp [get?, written]
    | succ i =>
      have hi : rest[i]? = some (field, v) := by simpa using hi
      have hne : m.1 ≠ field := by
        rintro rfl
        exact hn.1 (List.mem_map.mpr ⟨_, List.mem_of_getElem? hi, rfl⟩)
      rw [← ih hn.2 hi]
      simp [get?, written, hne]

theorem required_written {α : Type} {read : Document → Option α} (i : Nat) {field : String}
    {v : Value} (hi : members[i]? = some (field, v)) :
    (written members).required field read = read v.document := by
  rw [required, get?_written hn hi]
  rfl

theorem withDefault_written {α : Type} {read : Document → Option α} (i : Nat) {field : String}
    {v : Value} (hi : members[i]? = some (field, v)) (default : α) :
    (written members).withDefault field read default = read v.document := by
  rw [withDefault, get?_written hn hi]

end Record

-- ---------------------------------------------------------------------------
-- Written values
-- ---------------------------------------------------------------------------

namespace Document

theorem toText?_string (s : String) : (Value.string s).document.toText? = some s :=
  decodeText_piecesOf s

theorem toNumber?_number {n : Number} (h : n.ReadsBack) :
    (Value.number n).document.toNumber? = some n := by
  obtain ⟨text, hd, hn⟩ := Value.document_number h
  rw [hd]
  exact hn

theorem toInt?_int {n : Int} (h : IsInt64 n) : (Value.int n).document.toInt? = some n := by
  rw [toInt?, Value.int, toNumber?_number h.readsBack]
  exact if_pos h

theorem toNat?_nat {n : Nat} (h : n ≤ maxUnsigned) : (Value.nat n).document.toNat? = some n := by
  rw [toNat?, Value.nat, toNumber?_number (readsBack_int (by omega) (Int.ofNat_le.mpr h))]
  simp

theorem toFloat?_float {x : Binary64} (h : (Number.float x).ReadsBack) :
    (Value.float x).document.toFloat? = some x := by
  rw [toFloat?, Value.float, toNumber?_number h]

/-- An optional value is `null` only when it is absent, whatever it is written as. -/
theorem nullable_optional {α : Type} {write : α → Value} {read : Document → Option α}
    {o : Option α} (hread : ∀ a ∈ o, read (write a).document = some a)
    (hnull : read .null = none) :
    nullable read (Value.optional write o).document = some o := by
  cases o with
  | none => rfl
  | some a =>
    have ha : read (write a).document = some a := hread a rfl
    rw [Value.optional]
    cases hd : (write a).document with
    | null =>
      rw [hd, hnull] at ha
      cases ha
    | _ =>
      rw [hd] at ha
      rw [nullable, ha]
      · rfl
      · exact nofun

theorem nullable_text (o : Option String) :
    nullable toText? (Value.optional .string o).document = some o :=
  nullable_optional (fun s _ => toText?_string s) rfl

theorem nullable_int {o : Option Int} (h : ∀ n ∈ o, IsInt64 n) :
    nullable toInt? (Value.optional .int o).document = some o :=
  nullable_optional (fun n hn => toInt?_int (h n hn)) rfl

end Document

-- ---------------------------------------------------------------------------
-- Fields of each kind
-- ---------------------------------------------------------------------------

namespace Record

variable {members : List (String × Value)} (hn : (members.map Prod.fst).Nodup)

include hn

theorem int_written (i : Nat) {field : String} {n : Int}
    (hi : members[i]? = some (field, .int n)) (h : IsInt64 n) (default : Int) :
    (written members).withDefault field Document.toInt? default = some n := by
  rw [withDefault_written hn i hi, Document.toInt?_int h]

theorem text_written (i : Nat) {field s : String} (hi : members[i]? = some (field, .string s))
    (default : String) : (written members).withDefault field Document.toText? default = some s := by
  rw [withDefault_written hn i hi, Document.toText?_string]

theorem someInt_written (i : Nat) {field : String} {o : Option Int}
    (hi : members[i]? = some (field, .optional .int o)) (h : ∀ n ∈ o, IsInt64 n)
    (default : Option Int) :
    (written members).withDefault field (Document.nullable Document.toInt?) default = some o := by
  rw [withDefault_written hn i hi, Document.nullable_int h]

theorem someText_written (i : Nat) {field : String} {o : Option String}
    (hi : members[i]? = some (field, .optional .string o)) (default : Option String) :
    (written members).withDefault field (Document.nullable Document.toText?) default = some o := by
  rw [withDefault_written hn i hi, Document.nullable_text]

end Record

end ChannelKeeper.Json
