import ChannelKeeper.Backup
import ChannelKeeper.Proofs.Channel.Codec

/-!
# The backup format

A rendered document is read as itself when fewer than 128 containers nest in it,
and is refused otherwise. That the floats read back is asked of the document, not
of all floats: the reader rounds more than once.
-/

namespace ChannelKeeper.Backup

open Json

/-- A count and channels as the program can hold them. -/
structure WellFormed (b : Backup) : Prop where
  total : b.total ≤ maxUnsigned
  channels : ∀ c ∈ b.channels, c.WellFormed

/-- Every float of the document is read as itself, and so is finite. -/
def FloatsReadBack (b : Backup) : Prop := ∀ c ∈ b.channels, c.FloatsReadBack

-- ---------------------------------------------------------------------------
-- Members
-- ---------------------------------------------------------------------------

def members (b : Backup) : List (String × Value) := Record.membersOf b.toJson

theorem names_members (b : Backup) : b.members.map Prod.fst = fields := rfl

theorem nodup_fields : fields.Nodup := by decide

theorem ofDocument?_toJson (b : Backup) :
    Record.ofDocument? fields b.toJson.document = some (Record.written b.members) :=
  Record.ofDocument?_fields b.names_members nodup_fields

-- ---------------------------------------------------------------------------
-- Containers and numbers of the document
-- ---------------------------------------------------------------------------

theorem itemNesting_channels_le {channels : List Channel} {depth : Nat} :
    Value.itemNesting (channels.map Channel.toJson) ≤ depth + 1 ↔
      ∀ c ∈ channels, c.info.nesting ≤ depth := by
  induction channels with
  | nil => simp [Value.itemNesting]
  | cons c rest ih =>
    simp only [List.map_cons, Value.itemNesting, Nat.max_le, ih, List.forall_mem_cons,
      Channel.nesting_toJson, Nat.add_le_add_iff_right]

theorem nesting_toJson_lt {b : Backup} {depth : Nat} :
    b.toJson.nesting < depth + 4 ↔ ∀ c ∈ b.channels, c.info.nesting ≤ depth := by
  rw [← itemNesting_channels_le]
  simp only [toJson, Value.nesting, Value.memberNesting, Value.nat, Nat.max_zero, Nat.zero_max]
  omega

theorem readsBack_toJson {b : Backup} (hw : b.WellFormed) (hf : b.FloatsReadBack) :
    ∀ n ∈ b.toJson.numbers, n.ReadsBack := by
  have htotal : (Number.int b.total).ReadsBack :=
    readsBack_int (by omega) (Int.ofNat_le.mpr hw.total)
  have hchannels : ∀ n ∈ itemNumbers (b.channels.map Channel.toJson), n.ReadsBack := by
    intro n hn
    obtain ⟨v, hv, hn⟩ := Value.mem_itemNumbers.mp hn
    obtain ⟨c, hc, rfl⟩ := List.mem_map.mp hv
    exact Channel.readsBack_toJson (hw.channels c hc) (hf c hc) n hn
  simp only [toJson, Value.numbers, memberNumbers, Value.nat, List.forall_mem_append,
    List.forall_mem_cons, List.not_mem_nil, false_implies, implies_true, true_and, and_true]
  exact ⟨htotal, hchannels⟩

-- ---------------------------------------------------------------------------
-- Reading
-- ---------------------------------------------------------------------------

theorem mapM_channels {channels : List Channel} (hw : ∀ c ∈ channels, c.WellFormed)
    (hf : ∀ c ∈ channels, c.FloatsReadBack) (depth : Nat) :
    (itemDocuments (channels.map Channel.toJson)).mapM (Channel.ofDocument? depth) =
      if ∀ c ∈ channels, c.info.nesting ≤ depth then some channels else none := by
  induction channels with
  | nil => rfl
  | cons c rest ih =>
    rw [List.forall_mem_cons] at hw hf
    have hhead := Channel.ofDocument?_document hw.1 hf.1 depth
    have hrest := ih hw.2 hf.2
    rw [List.map_cons, itemDocuments, List.mapM_cons, hhead, hrest]
    have hall : (∀ d ∈ c :: rest, d.info.nesting ≤ depth) ↔
        c.info.nesting ≤ depth ∧ ∀ d ∈ rest, d.info.nesting ≤ depth := List.forall_mem_cons
    by_cases hc : c.info.nesting ≤ depth
    · by_cases hr : ∀ d ∈ rest, d.info.nesting ≤ depth
      · rw [if_pos hc, if_pos hr, if_pos (hall.mpr ⟨hc, hr⟩)]
        rfl
      · rw [if_pos hc, if_neg hr, if_neg (hall.not.mpr fun h => hr h.2)]
        rfl
    · rw [if_neg hc, if_neg (hall.not.mpr fun h => hc h.1)]
      rfl

theorem ofDocument?_document {b : Backup} (hw : b.WellFormed) (hf : b.FloatsReadBack) :
    ofDocument? b.toJson.document =
      if ∀ c ∈ b.channels, c.info.nesting ≤ Value.depthLimit - 3 then some b else none := by
  have hn : (b.members.map Prod.fst).Nodup := b.names_members ▸ nodup_fields
  have hchannels : (Record.written b.members).withDefault "channels"
      (Document.toList? (Channel.ofDocument? (Value.depthLimit - 3))) [] =
        if ∀ c ∈ b.channels, c.info.nesting ≤ Value.depthLimit - 3 then some b.channels
        else none := by
    rw [Record.withDefault_written hn 4 rfl]
    exact mapM_channels hw.channels hf _
  simp only [ofDocument?, ofDocument?_toJson, Record.required_written hn 0 rfl,
    Record.required_written hn 1 rfl, Record.required_written hn 2 rfl,
    Record.required_written hn 3 rfl, Document.toText?_string, Document.toNat?_nat hw.total,
    bind, Option.bind_some, hchannels]
  split <;> rfl

theorem read?_render {b : Backup} (hw : b.WellFormed) (hf : b.FloatsReadBack) :
    read? b.render = if b.toJson.nesting < 128 then some b else none := by
  rw [read?, render, Document.read?_pretty (readsBack_toJson hw hf)]
  exact (ofDocument?_document hw hf).trans (if_congr nesting_toJson_lt.symm rfl rfl)

/-- A document comes back from its text as it was, and is written the same again. -/
theorem rendered_reads_back {b : Backup} (hw : b.WellFormed) (hf : b.FloatsReadBack)
    (hn : b.toJson.nesting < 128) :
    read? b.render = some b ∧ (read? b.render).map render = some b.render := by
  rw [read?_render hw hf, if_pos hn]
  exact ⟨rfl, rfl⟩

namespace Sample

/-- Escapes of each kind, letters beyond ASCII, all forms of numbers, empty containers. -/
def richInfo : Value :=
  .object [
    ("", .null),
    ("\"\\\n\x01", .array [.int (-9223372036854775808), .nat 18446744073709551615,
      .float (.ofDecimal true 25 (-1)), .float (.ofDecimal false 1 (-7)), .bool true]),
    ("é🔑", .object []),
    ("ü", .array [.array [], .string "\t\x7f"])]

def richChannel : Channel where
  id := -9223372036854775808
  key := "sk-\"1\"\nsk-\\2"
  weight := some 0
  balance := .ofDecimal false 125 (-1)
  tag := some ""
  info := richInfo

def plainChannel : Channel where
  id := 9223372036854775807
  organization := some "ключ"

def richBackup : Backup where
  exportTime := "2024-01-02 03:04:05"
  version := "1.0.0"
  total := 18446744073709551615
  source := "a\r\nb"
  channels := [richChannel, plainChannel]

theorem richInfo_wellFormed : richInfo.WellFormed := by
  refine ⟨?_, fun n hn => ?_⟩
  · simp only [richInfo, Value.Ordered, Value.MembersOrdered, Value.ItemsOrdered, Value.int,
      Value.nat, Value.float]
    decide
  · simp [richInfo, Value.numbers, memberNumbers, itemNumbers, Value.int, Value.nat,
      Value.float] at hn
    simp only [Value.IntFits, maxNegative, maxUnsigned]
    omega

theorem richChannel_wellFormed : richChannel.WellFormed := by
  refine ⟨?_, ?_, richInfo_wellFormed⟩
  · simp [Channel.integers, richChannel, IsInt64]
  · simp [Channel.someIntegers, richChannel, IsInt64]

theorem plainChannel_wellFormed : plainChannel.WellFormed := by
  refine ⟨?_, ?_, Value.wellFormed_of_plain trivial rfl⟩
  · simp [Channel.integers, plainChannel, IsInt64]
  · simp [Channel.someIntegers, plainChannel]

theorem richBackup_wellFormed : richBackup.WellFormed := by
  refine ⟨Nat.le_refl maxUnsigned, ?_⟩
  simp only [richBackup, List.forall_mem_cons]
  exact ⟨richChannel_wellFormed, plainChannel_wellFormed, List.forall_mem_nil _⟩

theorem richInfo_floatsReadBack (x : Binary64) (hx : .float x ∈ richInfo.numbers) :
    (Number.float x).ReadsBack := by
  simp [richInfo, Value.numbers, memberNumbers, itemNumbers, Value.int, Value.nat,
    Value.float] at hx
  rcases hx with rfl | rfl
  · decide +kernel
  · decide +kernel

theorem richBackup_floatsReadBack : richBackup.FloatsReadBack := by
  simp only [FloatsReadBack, richBackup, List.forall_mem_cons]
  refine ⟨⟨?_, richInfo_floatsReadBack⟩, ⟨?_, ?_⟩, List.forall_mem_nil _⟩
  · decide +kernel
  · decide +kernel
  · simp [plainChannel, Value.numbers]

theorem richBackup_nesting : richBackup.toJson.nesting < 128 := by
  refine nesting_toJson_lt.mpr ?_
  simp [richBackup, richChannel, plainChannel, richInfo, Value.nesting, Value.memberNesting,
    Value.itemNesting, Value.int, Value.nat, Value.float]

end Sample

theorem rendered_reads_back_sample :
    read? Sample.richBackup.render = some Sample.richBackup ∧
      (read? Sample.richBackup.render).map render = some Sample.richBackup.render :=
  rendered_reads_back Sample.richBackup_wellFormed Sample.richBackup_floatsReadBack
    Sample.richBackup_nesting

end ChannelKeeper.Backup
