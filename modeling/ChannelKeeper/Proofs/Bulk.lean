import ChannelKeeper.Proofs.Action
import ChannelKeeper.Workspace

/-!
# Loops over items

A bulk operation takes its items one after the other, makes some calls for each, and
counts how each of them ended. Its report is settled by these endings, and an item that
only meets calls that change nothing is as good as absent for all the others. Nothing is
said of calls that fail and change something.
-/

namespace ChannelKeeper

variable {σ α β ρ : Type}

/-- How an item of a bulk operation ended. -/
inductive Ending where
  | done
  /-- Nothing was to be done for it. -/
  | passed
  | failed (e : StoreError)

namespace Ending

def isDone : Ending → Bool
  | .done => true
  | .passed | .failed _ => false

def isPassed : Ending → Bool
  | .passed => true
  | .done | .failed _ => false

def error? : Ending → Option StoreError
  | .failed e => some e
  | .done | .passed => none

def isFailed (ending : Ending) : Bool := ending.error?.isSome

theorem one_of_three (ending : Ending) :
    (if ending.isDone then 1 else 0) + (if ending.isPassed then 1 else 0) +
      (if ending.isFailed then 1 else 0) = 1 := by
  cases ending <;> rfl

def ofCall : Except StoreError β × σ → Ending × σ
  | (.ok _, s) => (.done, s)
  | (.error e, s) => (.failed e, s)

end Ending

/-- What the report of a bulk operation says of the items. -/
structure Tally where
  /-- How many there are, if the report says so. -/
  total? : Option Nat := none
  done : Nat
  passed : Nat := 0
  failed : Nat
  errors : List String

namespace Tally

def empty (total? : Option Nat) : Tally := { total? := total?, done := 0, failed := 0, errors := [] }

def count (t : Tally) (line : StoreError → String) : Ending → Tally
  | .done => { t with done := t.done + 1 }
  | .passed => { t with passed := t.passed + 1 }
  | .failed e => { t with failed := t.failed + 1, errors := t.errors ++ [line e] }

def countAll (t : Tally) (line : α → StoreError → String) (taken : List (α × Ending)) : Tally :=
  taken.foldl (fun t x => t.count (line x.1) x.2) t

/-- Every item is counted once, at its ending, and every failed one has a line. -/
structure Accounts (t : Tally) (line : α → StoreError → String) (taken : List (α × Ending)) :
    Prop where
  total : ∀ n ∈ t.total?, n = taken.length
  sum : t.done + t.passed + t.failed = taken.length
  done : t.done = taken.countP (·.2.isDone)
  passed : t.passed = taken.countP (·.2.isPassed)
  failed : t.failed = taken.countP (·.2.isFailed)
  /-- The lines stand in the order of the items. -/
  errors : t.errors = taken.filterMap fun x => x.2.error?.map (line x.1)
  lines : t.errors.length = t.failed

theorem countAll_eq (t : Tally) (line : α → StoreError → String) (taken : List (α × Ending)) :
    t.countAll line taken =
      { total? := t.total?
        done := t.done + taken.countP (·.2.isDone)
        passed := t.passed + taken.countP (·.2.isPassed)
        failed := t.failed + taken.countP (·.2.isFailed)
        errors := t.errors ++ taken.filterMap fun x => x.2.error?.map (line x.1) } := by
  induction taken generalizing t with
  | nil => simp [countAll]
  | cons x rest ih =>
    obtain ⟨a, ending⟩ := x
    have hcons : t.countAll line ((a, ending) :: rest) = (t.count (line a) ending).countAll line rest :=
      rfl
    rw [hcons, ih]
    cases ending <;>
      simp [count, Ending.isDone, Ending.isPassed, Ending.isFailed, Ending.error?, Nat.add_assoc,
        Nat.add_comm 1]

theorem countP_endings (taken : List (α × Ending)) :
    taken.countP (·.2.isDone) + taken.countP (·.2.isPassed) + taken.countP (·.2.isFailed) =
      taken.length := by
  induction taken with
  | nil => rfl
  | cons x rest ih =>
    have hx := x.2.one_of_three
    simp only [List.countP_cons, List.length_cons]
    omega

theorem accounts_countAll {total? : Option Nat} (line : α → StoreError → String)
    {taken : List (α × Ending)} (htotal : ∀ n ∈ total?, n = taken.length) :
    ((empty total?).countAll line taken).Accounts line taken := by
  simp only [countAll_eq, empty, Nat.zero_add, List.nil_append]
  refine ⟨htotal, countP_endings taken, rfl, rfl, rfl, rfl, ?_⟩
  simp [List.length_filterMap_eq_countP, Ending.isFailed]

end Tally

/-- A loop whose steps never stop it. Every step takes one item and counts how it ended. -/
structure Loop (σ α ρ : Type) where
  step : ρ → α → Workspace.Task σ ρ
  /-- How an item ends, and the state afterwards. The report has no part in it. -/
  take : α → σ → Ending × σ
  tally : ρ → Tally
  line : α → StoreError → String
  perform_step : ∀ r a s, ∃ r', (step r a).perform s = (.ok r', (take a s).2) ∧
    tally r' = (tally r).count (line a) (take a s).1

namespace Loop

variable (l : Loop σ α ρ)

/-- The items with their endings, and the state after the last of them. -/
def run : List α → σ → List (α × Ending) × σ
  | [], s => ([], s)
  | a :: rest, s =>
    let after := run rest (l.take a s).2
    ((a, (l.take a s).1) :: after.1, after.2)

theorem perform_fold (r : ρ) (items : List α) (s : σ) :
    ∃ r', (Action.fold l.step r items).perform s = (.ok r', (l.run items s).2) ∧
      l.tally r' = (l.tally r).countAll l.line (l.run items s).1 := by
  induction items generalizing r s with
  | nil => exact ⟨r, rfl, rfl⟩
  | cons a rest ih =>
    obtain ⟨r₁, hstep, htally⟩ := l.perform_step r a s
    obtain ⟨r', hrest, hall⟩ := ih r₁ (l.take a s).2
    refine ⟨r', (Action.perform_fold_cons hstep).trans hrest, ?_⟩
    rw [hall, htally]
    rfl

theorem map_fst_run (items : List α) (s : σ) : (l.run items s).1.map Prod.fst = items := by
  induction items generalizing s with
  | nil => rfl
  | cons a rest ih => simp [run, ih]

theorem length_run (items : List α) (s : σ) : (l.run items s).1.length = items.length := by
  rw [← List.length_map Prod.fst, map_fst_run]

section

variable {l} {can : σ → Prop} {s : σ} (hkeep : ∀ a s, can s → can (l.take a s).2)
include hkeep

theorem forall_mem_run (P : α → Ending → Prop) (h : ∀ a s, can s → P a (l.take a s).1)
    (items : List α) (hs : can s) : ∀ x ∈ (l.run items s).1, P x.1 x.2 := by
  induction items generalizing s with
  | nil => exact List.forall_mem_nil _
  | cons a rest ih => exact List.forall_mem_cons.mpr ⟨h a s hs, ih (hkeep a s hs)⟩

/-- Without the items that change nothing, the others end as they do with them. -/
theorem run_filter {refused : α → Bool}
    (hrefused : ∀ a s, can s → refused a → (l.take a s).2 = s) (items : List α) (hs : can s) :
    l.run (items.filter fun a => !refused a) s =
      ((l.run items s).1.filter fun x => !refused x.1, (l.run items s).2) := by
  induction items generalizing s with
  | nil => rfl
  | cons a rest ih =>
    have hrest := ih (hkeep a s hs)
    cases ha : refused a with
    | true =>
      rw [hrefused a s hs ha] at hrest
      simp [ha, run, hrest, hrefused a s hs ha]
    | false => simp [ha, run, hrest]

end

/-- The operation reports on all items, each at its ending. The refused ones end as failed
unless they are spared, and they are as good as absent: without them the same state is
left, and the others end in the same way. -/
def FailsAlone (act : List α → Workspace.Task σ ρ) (refused : α → Bool) (spared : α → Ending → Prop)
    (items : List α) (s : σ) : Prop :=
  ∃ taken report others s',
    (act items).perform s = (.ok report, s') ∧
    (act (items.filter fun a => !refused a)).perform s = (.ok others, s') ∧
    taken.map Prod.fst = items ∧
    (l.tally report).Accounts l.line taken ∧
    (l.tally others).Accounts l.line (taken.filter fun x => !refused x.1) ∧
    ∀ x ∈ taken, refused x.1 → x.2.isFailed ∨ spared x.1 x.2

variable {l}

theorem failsAlone {can : σ → Prop} {act : List α → Workspace.Task σ ρ} {start : List α → ρ}
    {refused : α → Bool} {spared : α → Ending → Prop} {s s₁ : σ}
    (hact : ∀ items, (act items).perform s = (Action.fold l.step (start items) items).perform s₁)
    (hstart : ∀ items, ∃ total?, l.tally (start items) = .empty total? ∧
      ∀ n ∈ total?, n = items.length)
    (hs : can s₁) (hkeep : ∀ a s, can s → can (l.take a s).2)
    (hrefused : ∀ a s, can s → refused a → (l.take a s).2 = s ∧
      ((l.take a s).1.isFailed ∨ spared a (l.take a s).1)) (items : List α) :
    l.FailsAlone act refused spared items s := by
  have hreports (todo : List α) : ∃ report,
      (act todo).perform s = (.ok report, (l.run todo s₁).2) ∧
        (l.tally report).Accounts l.line (l.run todo s₁).1 := by
    obtain ⟨total?, hempty, htotal⟩ := hstart todo
    obtain ⟨report, hperform, htally⟩ := l.perform_fold (start todo) todo s₁
    refine ⟨report, (hact todo).trans hperform, ?_⟩
    rw [htally, hempty]
    exact Tally.accounts_countAll l.line fun n hn => (htotal n hn).trans (l.length_run todo s₁).symm
  have hends := forall_mem_run hkeep
    (fun a ending => refused a → ending.isFailed ∨ spared a ending)
    (fun a s hs ha => (hrefused a s hs ha).2) items hs
  have hfilter := run_filter hkeep (fun a s hs ha => (hrefused a s hs ha).1) items hs
  obtain ⟨report, hperform, haccounts⟩ := hreports items
  obtain ⟨others, hothers, hrest⟩ := hreports (items.filter fun a => !refused a)
  rw [hfilter] at hothers hrest
  exact ⟨_, report, others, _, hperform, hothers, l.map_fst_run items s₁, haccounts, hrest, hends⟩

end Loop

end ChannelKeeper
