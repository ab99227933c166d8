/-!
# Actions

An action changes a state and may fail. What it did before it failed stays done,
so a failure says nothing about the state unless the action says so itself.
-/

namespace ChannelKeeper

abbrev Action (σ ε α : Type) := ExceptT ε (StateM σ) α

namespace Action

variable {σ τ ε ε' α β : Type}

/-- The result and the state afterwards. -/
def perform (act : Action σ ε α) (s : σ) : Except ε α × σ := Id.run (StateT.run (ExceptT.run act) s)

def ofFunction (f : σ → Except ε α × σ) : Action σ ε α := ExceptT.mk fun s => pure (f s)

/-- A question to the state, which it leaves as it is. -/
def ask (f : σ → Except ε α) : Action σ ε α := ofFunction fun s => (f s, s)

/-- A change that happens only if it succeeds. -/
def change (f : σ → Except ε (α × σ)) : Action σ ε α :=
  ofFunction fun s =>
    match f s with
    | .ok (a, s') => (.ok a, s')
    | .error e => (.error e, s)

/-- An action that is only begun where the state allows it. -/
def guarded (check : σ → Except ε Unit) (act : Action σ ε α) : Action σ ε α := do
  ask check
  act

def attempt (act : Action σ ε α) : Action σ ε' (Except ε α) :=
  ofFunction fun s =>
    let (result, s') := act.perform s
    (.ok result, s')

def mapError (f : ε → ε') (act : Action σ ε α) : Action σ ε' α :=
  ofFunction fun s =>
    match act.perform s with
    | (.ok a, s') => (.ok a, s')
    | (.error e, s') => (.error (f e), s')

def onPart (get : τ → σ) (set : σ → τ → τ) (act : Action σ ε α) : Action τ ε α :=
  ofFunction fun t =>
    let (result, s) := act.perform (get t)
    (result, set s t)

/-- Takes the items one after the other and collects what comes of each. -/
def forEach (f : α → Action σ ε β) : List α → Action σ ε (List β)
  | [] => pure []
  | a :: rest => do
    let b ← f a
    let bs ← forEach f rest
    return b :: bs

/-- Takes the items one after the other with a value that each of them changes. -/
def fold (f : β → α → Action σ ε β) : β → List α → Action σ ε β
  | b, [] => pure b
  | b, a :: rest => do
    let b ← f b a
    fold f b rest

end Action

end ChannelKeeper
