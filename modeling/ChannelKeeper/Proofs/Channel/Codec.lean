import ChannelKeeper.Channel.Codec
import ChannelKeeper.Proofs.Json.Record

/-!
# Written channels

A channel comes back from its document when the containers of its info do not
nest deeper than the reader allows, and is refused otherwise.
-/

namespace ChannelKeeper.Channel

open Json

/-- The integers of every channel, and those that a channel may lack. -/
def integers (c : Channel) : List Int :=
  [c.id, c.kind, c.status, c.createdTime, c.testTime, c.responseTime, c.balanceUpdatedTime,
    c.usedQuota]

def someIntegers (c : Channel) : List (Option Int) := [c.weight, c.priority, c.autoBan]

/-- Integers of 64 bits, and an info that a text can hold. -/
structure WellFormed (c : Channel) : Prop where
  integers : ∀ n ∈ c.integers, IsInt64 n
  someIntegers : ∀ o ∈ c.someIntegers, ∀ n ∈ o, IsInt64 n
  info : c.info.WellFormed

/-- The floats of a channel are read as themselves. -/
structure FloatsReadBack (c : Channel) : Prop where
  balance : (Number.float c.balance).ReadsBack
  info : ∀ x, .float x ∈ c.info.numbers → (Number.float x).ReadsBack

-- ---------------------------------------------------------------------------
-- Members
-- ---------------------------------------------------------------------------

def members (c : Channel) : List (String × Value) := Record.membersOf c.toJson

theorem names_members (c : Channel) : c.members.map Prod.fst = fields := rfl

theorem nodup_fields : fields.Nodup := by decide

theorem ofDocument?_toJson (c : Channel) :
    Record.ofDocument? fields c.toJson.document = some (Record.written c.members) :=
  Record.ofDocument?_fields c.names_members nodup_fields

theorem ofDocument?_document {c : Channel} (hw : c.WellFormed) (hf : c.FloatsReadBack)
    (depth : Nat) :
    ofDocument? depth c.toJson.document = if c.info.nesting ≤ depth then some c else none := by
  have hn : (c.members.map Prod.fst).Nodup := c.names_members ▸ nodup_fields
  have hint := hw.integers
  have hsome := hw.someIntegers
  simp only [integers, someIntegers, List.forall_mem_cons] at hint hsome
  obtain ⟨hid, hkind, hstatus, hcreated, htested, hresponse, hupdated, hquota, -⟩ := hint
  obtain ⟨hweight, hpriority, hban, -⟩ := hsome
  have hbalance : (Record.written c.members).withDefault "balance" Document.toFloat? .zero =
      some c.balance := by
    rw [Record.withDefault_written hn 13 rfl, Document.toFloat?_float hf.balance]
  have hinfo :
      (Record.written c.members).withDefault "channel_info" (Value.ofDocument? depth) .null =
        if c.info.nesting ≤ depth then some c.info else none := by
    rw [Record.withDefault_written hn 26 rfl,
      Value.ofDocument?_document c.info hw.info.ordered
        (Value.readsBack_of_fits hw.info.integers hf.info)]
  simp only [ofDocument?]
  -- One step for each field, in the order in which the reader takes them.
  refine (Record.bind_of_eq c.ofDocument?_toJson).trans ?_
  refine (Record.bind_of_eq (Record.int_written hn 0 rfl hid _)).trans ?_
  refine (Record.bind_of_eq (Record.int_written hn 1 rfl hkind _)).trans ?_
  refine (Record.bind_of_eq (Record.text_written hn 2 rfl _)).trans ?_
  refine (Record.bind_of_eq (Record.someText_written hn 3 rfl _)).trans ?_
  refine (Record.bind_of_eq (Record.someText_written hn 4 rfl _)).trans ?_
  refine (Record.bind_of_eq (Record.int_written hn 5 rfl hstatus _)).trans ?_
  refine (Record.bind_of_eq (Record.text_written hn 6 rfl _)).trans ?_
  refine (Record.bind_of_eq (Record.someInt_written hn 7 rfl hweight _)).trans ?_
  refine (Record.bind_of_eq (Record.int_written hn 8 rfl hcreated _)).trans ?_
  refine (Record.bind_of_eq (Record.int_written hn 9 rfl htested _)).trans ?_
  refine (Record.bind_of_eq (Record.int_written hn 10 rfl hresponse _)).trans ?_
  refine (Record.bind_of_eq (Record.someText_written hn 11 rfl _)).trans ?_
  refine (Record.bind_of_eq (Record.text_written hn 12 rfl _)).trans ?_
  refine (Record.bind_of_eq hbalance).trans ?_
  refine (Record.bind_of_eq (Record.int_written hn 14 rfl hupdated _)).trans ?_
  refine (Record.bind_of_eq (Record.text_written hn 15 rfl _)).trans ?_
  refine (Record.bind_of_eq (Record.text_written hn 16 rfl _)).trans ?_
  refine (Record.bind_of_eq (Record.int_written hn 17 rfl hquota _)).trans ?_
  refine (Record.bind_of_eq (Record.someText_written hn 18 rfl _)).trans ?_
  refine (Record.bind_of_eq (Record.someText_written hn 19 rfl _)).trans ?_
  refine (Record.bind_of_eq (Record.someInt_written hn 20 rfl hpriority _)).trans ?_
  refine (Record.bind_of_eq (Record.someInt_written hn 21 rfl hban _)).trans ?_
  refine (Record.bind_of_eq (Record.text_written hn 22 rfl _)).trans ?_
  refine (Record.bind_of_eq (Record.someText_written hn 23 rfl _)).trans ?_
  refine (Record.bind_of_eq (Record.someText_written hn 24 rfl _)).trans ?_
  refine (Record.bind_of_eq (Record.someText_written hn 25 rfl _)).trans ?_
  rw [hinfo]
  split <;> rfl

-- ---------------------------------------------------------------------------
-- Containers and numbers of the document
-- ---------------------------------------------------------------------------

theorem nesting_toJson (c : Channel) : c.toJson.nesting = c.info.nesting + 1 := by
  simp [toJson, Value.nesting, Value.memberNesting, Value.int, Value.float]

theorem readsBack_toJson {c : Channel} (hw : c.WellFormed) (hf : c.FloatsReadBack) :
    ∀ n ∈ c.toJson.numbers, n.ReadsBack := by
  have hint : ∀ n ∈ c.integers, (Number.int n).ReadsBack :=
    fun n hn => (hw.integers n hn).readsBack
  have hsome : ∀ o ∈ c.someIntegers, ∀ n ∈ o.toList.map Number.int, n.ReadsBack := by
    intro o ho n hn
    obtain ⟨i, hi, rfl⟩ := List.mem_map.mp hn
    exact (hw.someIntegers o ho i (Option.mem_toList.mp hi)).readsBack
  have hinfo : ∀ n ∈ c.info.numbers, n.ReadsBack :=
    Value.readsBack_of_fits hw.info.integers hf.info
  simp only [integers, someIntegers, List.forall_mem_cons] at hint hsome
  simp only [toJson, Value.numbers, memberNumbers, Value.numbers_text, Value.numbers_int, Value.int,
    Value.float, List.forall_mem_append, List.forall_mem_cons, List.not_mem_nil, false_implies,
    implies_true, true_and, and_true]
  obtain ⟨hid, hkind, hstatus, hcreated, htested, hresponse, hupdated, hquota, -⟩ := hint
  obtain ⟨hweight, hpriority, hban, -⟩ := hsome
  exact ⟨hid, hkind, hstatus, hweight, hcreated, htested, hresponse, hf.balance, hupdated, hquota,
    hpriority, hban, hinfo⟩

end ChannelKeeper.Channel
