import ChannelKeeper.Proofs.Batch.Errand

/-!
# Keys tried in turn

What the test of a channel asks for, and what it reports, whatever the answers are: they
may depend on all that was asked before, and repeated keys may be answered differently.
Nothing is said of the time that the answers take.
-/

namespace ChannelKeeper

open Batch (Errand)

variable {α : Type} {model : String} {baseUrl : Option String}

namespace Batch.Errand

/-- What an errand asked for, with the answers that it got, and its result. -/
inductive Goes : Errand α → List (ProbeCall × ProbeResult) → α → Prop
  | done (a : α) : Goes (done a) [] a
  | ask {next : ProbeResult → Errand α} {a : α} {asked : List (ProbeCall × ProbeResult)}
      (call : ProbeCall) (answer : ProbeResult) (h : Goes (next answer) asked a) :
      Goes (ask call next) ((call, answer) :: asked) a

theorem goes_result (probe : Prober) (e : Errand α) :
    e.Goes ((e.calls probe).map fun call => (call, probe call)) (e.result probe) := by
  induction e with
  | done a => exact .done a
  | ask call next ih => exact .ask call (probe call) (ih (probe call))

end Batch.Errand

/-- The first of the targets, in their order, up to one that works if there is one. -/
structure TriedInTurn (model : String) (baseUrl : Option String) (targets : List (String × Nat))
    (asked : List (ProbeCall × ProbeResult)) : Prop where
  calls : asked.map Prod.fst =
    (targets.take asked.length).map fun (key, _) => ⟨key, model, baseUrl⟩
  failed : ∀ x ∈ asked.dropLast, x.2.success = false
  ends : asked.length = targets.length ∨ ∃ x ∈ asked.getLast?, x.2.success = true

/-- The position of the last target that was tried, with its answer. -/
def lastTried? (targets : List (String × Nat)) (asked : List (ProbeCall × ProbeResult)) :
    Option (Nat × ProbeResult) :=
  ((targets.map Prod.snd).zip (asked.map Prod.snd)).getLast?

theorem lastTried?_cons (target : String × Nat) (targets : List (String × Nat))
    (x : ProbeCall × ProbeResult) (asked : List (ProbeCall × ProbeResult)) :
    lastTried? (target :: targets) (x :: asked) =
      some ((lastTried? targets asked).getD (target.2, x.2)) := by
  simp [lastTried?, List.getLast?_cons]

variable {targets : List (String × Nat)} {asked : List (ProbeCall × ProbeResult)}

namespace TriedInTurn

theorem nil : TriedInTurn model baseUrl [] [] := ⟨rfl, by simp, .inl rfl⟩

theorem success {answer : ProbeResult} (h : answer.success = true) (target : String × Nat)
    (rest : List (String × Nat)) :
    TriedInTurn model baseUrl (target :: rest) [(⟨target.1, model, baseUrl⟩, answer)] where
  calls := rfl
  failed := by simp
  ends := .inr ⟨_, rfl, h⟩

theorem failure {answer : ProbeResult} (h : answer.success = false) (target : String × Nat)
    (hrest : TriedInTurn model baseUrl targets asked) :
    TriedInTurn model baseUrl (target :: targets)
      ((⟨target.1, model, baseUrl⟩, answer) :: asked) where
  calls := by simp [hrest.calls]
  failed := by
    cases asked with
    | nil => simp
    | cons x rest => simpa [h] using hrest.failed
  ends := by
    rcases hrest.ends with hall | ⟨x, hx, hsuccess⟩
    · exact .inl (by simp [hall])
    · refine .inr ⟨x, ?_, hsuccess⟩
      simp [List.getLast?_cons, Option.mem_def.mp hx]

end TriedInTurn

/-- Whatever the answers are, an errand that tries targets in turn decides by the last one. -/
theorem Batch.Errand.Goes.tryInTurn {finish : Option (Nat × ProbeResult) → α} {a : α}
    {last : Option (Nat × ProbeResult)}
    (h : (Batch.Errand.tryInTurn model baseUrl finish last targets).Goes asked a) :
    TriedInTurn model baseUrl targets asked ∧ a = finish ((lastTried? targets asked).or last) := by
  induction targets generalizing last asked with
  | nil =>
    cases h
    exact ⟨.nil, rfl⟩
  | cons target rest ih =>
    rw [Batch.Errand.tryInTurn] at h
    cases h with
    | ask call answer hrest =>
      rw [lastTried?_cons]
      dsimp only at hrest
      cases hsuccess : answer.success with
      | true =>
        rw [if_pos hsuccess] at hrest
        cases hrest
        exact ⟨.success hsuccess target rest, by simp [lastTried?]⟩
      | false =>
        rw [if_neg (by simp [hsuccess])] at hrest
        obtain ⟨htried, rfl⟩ := ih hrest
        refine ⟨htried.failure hsuccess target, ?_⟩
        cases lastTried? rest _ <;> rfl

/-- The entries that do not open like a JSON document, with their places from one on. -/
def plainEntries (entries : List String) : List (String × Nat) :=
  (entries.zipIdx 1).filter fun entry =>
    entry.1.toList.head? ≠ some '[' ∧ entry.1.toList.head? ≠ some '\x7b'

/-- The test of a channel tried its plain entries in turn, at the channel's own base URL unless
this is blank, and reports the last of them, with its position among all entries if there are
several. -/
structure Channel.TestedInTurn (c : Channel) (model : String)
    (asked : List (ProbeCall × ProbeResult)) (r : ChannelTestResult) : Prop where
  tried : TriedInTurn model
    (c.baseUrl.filter fun url => url.toList.any fun char => !Text.isBlank char)
    (plainEntries c.keys) asked
  result : ∀ position answer, lastTried? (plainEntries c.keys) asked = some (position, answer) →
    r.result = answer
  none_tried : asked = [] → r.result = .failed .noKey
    (if c.keys = [] then "No API key found" else "No valid API key format found") 0
  keyIndex : r.keyIndex =
    if 1 < c.keys.length then (lastTried? (plainEntries c.keys) asked).map Prod.fst else none
  totalKeys : r.totalKeys = c.keys.length

theorem Channel.ownBaseUrl_eq (c : Channel) : c.ownBaseUrl =
    c.baseUrl.filter fun url => url.toList.any fun char => !Text.isBlank char := by
  rw [ownBaseUrl]
  congr 1
  funext url
  rw [Text.isBlankText, List.not_all_eq_any_not]

theorem Credential.isPlain_eq (entry : String) : isPlain entry =
    decide (entry.toList.head? ≠ some '[' ∧ entry.toList.head? ≠ some '\x7b') := by
  rw [isPlain, isStructured]
  split
  · simp [*]
  · simp [*]
  · rename_i hbracket hbrace
    cases hentry : entry.toList with
    | nil => rfl
    | cons first rest =>
      have hfirst : first ≠ '[' := fun h => hbracket rest (h ▸ hentry)
      have hfirst' : first ≠ '\x7b' := fun h => hbrace rest (h ▸ hentry)
      simp [hfirst, hfirst']

theorem Channel.targets_eq (c : Channel) : c.targets = plainEntries c.keys :=
  List.filter_congr fun entry _ => Credential.isPlain_eq entry.1

/-- A run of a channel's test, whoever answers, and the test with a fixed rule of answering. -/
theorem Channel.tested_in_turn (c : Channel) (model time : String) :
    (∀ asked r, (Errand.ofChannel c model time).Goes asked r → c.TestedInTurn model asked r) ∧
      ∀ probe : Prober, c.TestedInTurn model
        ((c.calls probe model).map fun call => (call, probe call)) (c.test probe model time) := by
  have hgoes : ∀ asked r, (Errand.ofChannel c model time).Goes asked r →
      c.TestedInTurn model asked r := by
    intro asked r h
    obtain ⟨htried, rfl⟩ := Errand.Goes.tryInTurn h
    rw [Option.or_none, c.targets_eq]
    rw [c.targets_eq, c.ownBaseUrl_eq] at htried
    refine ⟨htried, fun position answer hlast => ?_, ?_, rfl, rfl⟩
    · rw [hlast]
      rfl
    · rintro rfl
      simp [lastTried?, Channel.testResult, noKeyResult, List.isEmpty_iff]
  refine ⟨hgoes, fun probe => hgoes _ _ ?_⟩
  rw [← Errand.calls_ofChannel probe c model time, ← Errand.result_ofChannel]
  exact Errand.goes_result probe _

namespace Sample

def repeatedKey : Channel := { id := 3, key := "[x]\n a \n\na\nb", baseUrl := some "http://own" }

/-- The second answer is not the first. -/
def changedMind : List (ProbeCall × ProbeResult) :=
  [(⟨"a", "m", some "http://own"⟩, .failed .timeout "" 1),
    (⟨"a", "m", some "http://own"⟩, .valid 2)]

end Sample

theorem Channel.tested_in_turn_sample :
    ∃ r, (Errand.ofChannel Sample.repeatedKey "m" "now").Goes Sample.changedMind r ∧
      Sample.repeatedKey.TestedInTurn "m" Sample.changedMind r ∧ r.keyIndex = some 3 := by
  have hgoes : (Errand.ofChannel Sample.repeatedKey "m" "now").Goes Sample.changedMind
      (Sample.repeatedKey.testResult "m" "now" (some (3, .valid 2))) := by
    have htargets : Sample.repeatedKey.targets = [("a", 2), ("a", 3), ("b", 4)] := by
      decide +kernel
    have hurl : Sample.repeatedKey.ownBaseUrl = some "http://own" := by decide +kernel
    rw [Errand.ofChannel, htargets, hurl]
    exact .ask _ _ (.ask _ _ (.done _))
  exact ⟨_, hgoes, (Channel.tested_in_turn Sample.repeatedKey "m" "now").1 _ _ hgoes, by decide⟩

end ChannelKeeper
