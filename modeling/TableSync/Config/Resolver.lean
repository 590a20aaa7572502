import TableSync.Config.Catalog
import TableSync.Config.Reading

/-!
# The resolver

A resolver gives each property of a catalog its value: the raw value if the bag has the key, or
else what the property's rule infers, or else the default.  A value is worked out when it is first
asked for and kept from then on.  While a value is being worked out its key is active, and a rule
that comes back to an active key is a cycle.

Resolution is bounded by a depth.  `balanced_resolveWithin` says that the number of catalog keys
that are not yet active, plus one, is deep enough, so the resolver itself needs no bound, and that
the keys that were active before are active afterwards, no more and no fewer.
-/

namespace TableSync.Config

/-- What resolution leaves on record. -/
inductive Event
  /-- The rule of a key was started. -/
  | started (key : Text)
  /-- The rule of a key gave a value, or nothing. -/
  | inferred (key : Text) (value : Option Text)
  /-- The rule of a key failed. -/
  | failed (key : Text)
  /-- A key was asked for while it was active, along with the others of the chain. -/
  | cycled (key : Text) (chain : List Text)
deriving DecidableEq, Repr

/-- The values kept so far, newest first, the keys that are active, the outermost first, and the
events so far, oldest first. -/
structure Progress where
  settled : List (Text × Option Text) := []
  active : List Text := []
  trace : List Event := []
deriving DecidableEq, Repr

namespace Progress

/-- The value kept for a key. -/
def settled? (p : Progress) (key : Text) : Option (Option Text) :=
  p.settled.lookup key

def settle (p : Progress) (key : Text) (value : Option Text) : Progress :=
  { p with settled := (key, value) :: p.settled }

def enter (p : Progress) (key : Text) : Progress :=
  { p with active := p.active ++ [key] }

/-- Leave the key that became active last. -/
def leave (p : Progress) : Progress :=
  { p with active := p.active.dropLast }

def record (p : Progress) (event : Event) : Progress :=
  { p with trace := p.trace ++ [event] }

section Fields

variable (p : Progress) (key key' : Text) (value : Option Text) (event : Event)

@[simp] theorem settled?_settle :
    (p.settle key value).settled? key' = if key' = key then some value else p.settled? key' := by
  by_cases h : key' = key
  · simp [settle, settled?, h]
  · simp [settle, settled?, List.lookup_cons, h, beq_false_of_ne h]

theorem settled?_settle_eq_none_iff :
    (p.settle key value).settled? key' = none ↔ key' ≠ key ∧ p.settled? key' = none := by
  by_cases h : key' = key
  · simp [h]
  · simp [h]

@[simp] theorem settled?_enter : (p.enter key).settled? key' = p.settled? key' := rfl
@[simp] theorem settled?_leave : p.leave.settled? key' = p.settled? key' := rfl
@[simp] theorem settled?_record : (p.record event).settled? key' = p.settled? key' := rfl

@[simp] theorem active_settle : (p.settle key value).active = p.active := rfl
@[simp] theorem active_enter : (p.enter key).active = p.active ++ [key] := rfl
@[simp] theorem active_leave : p.leave.active = p.active.dropLast := rfl
@[simp] theorem active_record : (p.record event).active = p.active := rfl

@[simp] theorem trace_settle : (p.settle key value).trace = p.trace := rfl
@[simp] theorem trace_enter : (p.enter key).trace = p.trace := rfl
@[simp] theorem trace_leave : p.leave.trace = p.trace := rfl
@[simp] theorem trace_record : (p.record event).trace = p.trace ++ [event] := rfl

end Fields

end Progress

/-- A step of resolution: it gives a result or an error and leaves progress either way.  It gives
neither where the depth bound is reached. -/
abbrev Resolving := ExceptT ConfigError (StateT Progress Option)

def note (event : Event) : Resolving Unit :=
  modify (·.record event)

def tooDeep {α : Type} : Resolving α :=
  fun _ => none

/-- Run a step for a key and record how it ends. -/
def observed (key : Text) (step : Resolving (Option Text)) : Resolving (Option Text) := do
  note (.started key)
  let value ← tryCatch step fun error => do
    note (.failed key)
    throw error
  note (.inferred key value)
  return value

/-- Run a step while a key is active; however the step ends, the key is active no more. -/
def whileActive (key : Text) (step : Resolving (Option Text)) : Resolving (Option Text) := do
  modify (·.enter key)
  let value ← tryCatch step fun error => do
    modify Progress.leave
    throw error
  modify Progress.leave
  return value

/-- The value of a property that is not kept yet, given how other properties are resolved. -/
def compute (source : PropertyBag (Option Text)) (lookup : Text → Resolving (Option Text))
    (property : Property) : Resolving (Option Text) :=
  match source.get? property.key, property.infer? with
  | some value, _ => return value
  | none, none => return property.default?
  | none, some rule => do
      let value ← observed property.key (rule.eval source lookup)
      return value.or property.default?

/-- Resolve a key, down to a depth. -/
def resolveWithin (source : PropertyBag (Option Text)) (catalog : Catalog) :
    Nat → Text → Resolving (Option Text)
  | 0, _ => tooDeep
  | depth + 1, key =>
      match catalog.find? key with
      | none => throw (.unknownProperty key)
      | some property => do
          let p ← get
          match p.settled? key with
          | some value => return value
          | none =>
              if key ∈ p.active then do
                note (.cycled key p.active)
                throw (.cycle key p.active)
              else do
                let value ←
                  whileActive key (compute source (resolveWithin source catalog depth) property)
                modify (·.settle key value)
                return value

/-! ### Running a step -/

/-- What a step gives from some progress on. -/
def Resolving.from {α : Type} (step : Resolving α) (p : Progress) :
    Option (Except ConfigError α × Progress) :=
  step.run.run p

section Running

variable {α β : Type} (p : Progress)

@[simp] theorem from_get : Resolving.from get p = some (.ok p, p) := rfl

@[simp] theorem from_modify (f : Progress → Progress) :
    Resolving.from (modify f) p = some (.ok ⟨⟩, f p) := rfl

@[simp] theorem from_note (event : Event) :
    Resolving.from (note event) p = some (.ok ⟨⟩, p.record event) := rfl

theorem from_bind (step : Resolving α) (next : α → Resolving β) :
    Resolving.from (step >>= next) p =
      (Resolving.from step p).bind fun r => match r.1 with
        | .ok a => (next a).from r.2
        | .error e => some (.error e, r.2) := by
  show (step.run.run p).bind _ = _
  unfold Resolving.from
  congr 1
  funext r
  obtain ⟨outcome, p'⟩ := r
  cases outcome <;> rfl

theorem from_tryCatch (step : Resolving α) (fallback : ConfigError → Resolving α) :
    Resolving.from (tryCatch step fallback) p =
      (Resolving.from step p).bind fun r => match r.1 with
        | .ok a => some (.ok a, r.2)
        | .error e => (fallback e).from r.2 := by
  show (step.run.run p).bind _ = _
  unfold Resolving.from
  congr 1
  funext r
  obtain ⟨outcome, p'⟩ := r
  cases outcome <;> rfl

/-- How a sequence ends: as its second step does after the first gave a value, or as its first. -/
theorem ends_of_bind {p p' : Progress} {step : Resolving α} {next : α → Resolving β}
    {outcome : Except ConfigError β} (h : (step >>= next).from p = some (outcome, p')) :
    (∃ a q, step.from p = some (.ok a, q) ∧ (next a).from q = some (outcome, p')) ∨
      ∃ e, step.from p = some (.error e, p') ∧ outcome = .error e := by
  rw [from_bind, Option.bind_eq_some_iff] at h
  obtain ⟨⟨first, q⟩, hfirst, h⟩ := h
  cases first with
  | ok a => exact .inl ⟨a, q, hfirst, h⟩
  | error e =>
      cases h
      exact .inr ⟨e, hfirst, rfl⟩

/-- How a step ends that has a fallback. -/
theorem ends_of_tryCatch {p p' : Progress} {step : Resolving α}
    {fallback : ConfigError → Resolving α} {outcome : Except ConfigError α}
    (h : (tryCatch step fallback).from p = some (outcome, p')) :
    (∃ a, step.from p = some (.ok a, p') ∧ outcome = .ok a) ∨
      ∃ e q, step.from p = some (.error e, q) ∧ (fallback e).from q = some (outcome, p') := by
  rw [from_tryCatch, Option.bind_eq_some_iff] at h
  obtain ⟨⟨first, q⟩, hfirst, h⟩ := h
  cases first with
  | ok a =>
      cases h
      exact .inl ⟨a, hfirst, rfl⟩
  | error e => exact .inr ⟨e, q, hfirst, h⟩

/-- What a step leaves once its key is active no more. -/
theorem from_whileActive (key : Text) (step : Resolving (Option Text)) :
    Resolving.from (whileActive key step) p =
      (Resolving.from step (p.enter key)).map fun r => (r.1, r.2.leave) := by
  unfold whileActive
  simp only [from_bind, from_modify, Option.bind_some, from_tryCatch]
  cases step.from (p.enter key) with
  | none => rfl
  | some r =>
      obtain ⟨outcome, p'⟩ := r
      cases outcome <;> rfl

/-- What is on record once a step for a key is over. -/
theorem from_observed (key : Text) (step : Resolving (Option Text)) :
    Resolving.from (observed key step) p =
      (Resolving.from step (p.record (.started key))).map fun r => match r.1 with
        | .ok value => (.ok value, r.2.record (.inferred key value))
        | .error e => (.error e, r.2.record (.failed key)) := by
  unfold observed
  simp only [from_bind, from_note, Option.bind_some, from_tryCatch]
  cases step.from (p.record (.started key)) with
  | none => rfl
  | some r =>
      obtain ⟨outcome, p'⟩ := r
      cases outcome <;> rfl

end Running

/-! ### Resolving one key -/

section Resolving

variable {source : PropertyBag (Option Text)} {catalog : Catalog} {depth : Nat} {key : Text}
  {p p' : Progress} {property : Property}

theorem from_resolveWithin_of_unknown (hfind : catalog.find? key = none) :
    (resolveWithin source catalog (depth + 1) key).from p =
      some (.error (.unknownProperty key), p) := by
  simp only [resolveWithin, hfind]
  rfl

theorem from_resolveWithin_of_settled {value : Option Text}
    (hfind : catalog.find? key = some property) (hsettled : p.settled? key = some value) :
    (resolveWithin source catalog (depth + 1) key).from p = some (.ok value, p) := by
  simp only [resolveWithin, hfind, from_bind, from_get, Option.bind_some, hsettled]
  rfl

theorem from_resolveWithin_of_active (hfind : catalog.find? key = some property)
    (hsettled : p.settled? key = none) (hactive : key ∈ p.active) :
    (resolveWithin source catalog (depth + 1) key).from p =
      some (.error (.cycle key p.active), p.record (.cycled key p.active)) := by
  simp only [resolveWithin, hfind, from_bind, from_get, Option.bind_some, hsettled, hactive,
    if_true]
  rfl

/-- A key that is neither kept nor active is worked out while it is active. -/
theorem from_resolveWithin_of_idle (hfind : catalog.find? key = some property)
    (hsettled : p.settled? key = none) (hactive : key ∉ p.active) :
    (resolveWithin source catalog (depth + 1) key).from p =
      ((compute source (resolveWithin source catalog depth) property).from (p.enter key)).map
        fun r => match r.1 with
        | .ok value => (.ok value, r.2.leave.settle key value)
        | .error e => (.error e, r.2.leave) := by
  simp only [resolveWithin, hfind, from_bind, from_get, Option.bind_some, hsettled, hactive,
    if_false, from_whileActive]
  cases (compute source (resolveWithin source catalog depth) property).from (p.enter key) with
  | none => rfl
  | some r =>
      obtain ⟨outcome, q⟩ := r
      cases outcome <;> rfl

theorem from_resolveWithin_of_ok {value : Option Text}
    (hfind : catalog.find? key = some property) (hsettled : p.settled? key = none)
    (hactive : key ∉ p.active)
    (hrun : (compute source (resolveWithin source catalog depth) property).from (p.enter key) =
      some (.ok value, p')) :
    (resolveWithin source catalog (depth + 1) key).from p =
      some (.ok value, p'.leave.settle key value) := by
  rw [from_resolveWithin_of_idle hfind hsettled hactive, hrun]
  rfl

theorem from_resolveWithin_of_error {e : ConfigError}
    (hfind : catalog.find? key = some property) (hsettled : p.settled? key = none)
    (hactive : key ∉ p.active)
    (hrun : (compute source (resolveWithin source catalog depth) property).from (p.enter key) =
      some (.error e, p')) :
    (resolveWithin source catalog (depth + 1) key).from p = some (.error e, p'.leave) := by
  rw [from_resolveWithin_of_idle hfind hsettled hactive, hrun]
  rfl

end Resolving

/-! ### Depth -/

/-- A step that gives a result or an error wherever some keys are active, and leaves these keys
active. -/
def Balanced {α : Type} (active : List Text) (step : Resolving α) : Prop :=
  ∀ p, p.active = active → ∃ outcome p', step.from p = some (outcome, p') ∧ p'.active = active

section Depth

variable {α β : Type} {active : List Text}

theorem balanced_pure (a : α) : Balanced active (pure a) :=
  fun p hp => ⟨.ok a, p, rfl, hp⟩

theorem balanced_bind {step : Resolving α} {next : α → Resolving β}
    (hstep : Balanced active step) (hnext : ∀ a, Balanced active (next a)) :
    Balanced active (step >>= next) := by
  intro p hp
  obtain ⟨outcome, p', hrun, hp'⟩ := hstep p hp
  simp only [from_bind, hrun, Option.bind_some]
  cases outcome with
  | ok a => exact hnext a p' hp'
  | error e => exact ⟨.error e, p', rfl, hp'⟩

theorem balanced_tryCatch {step : Resolving α} {fallback : ConfigError → Resolving α}
    (hstep : Balanced active step) (hfallback : ∀ e, Balanced active (fallback e)) :
    Balanced active (tryCatch step fallback) := by
  intro p hp
  obtain ⟨outcome, p', hrun, hp'⟩ := hstep p hp
  simp only [from_tryCatch, hrun, Option.bind_some]
  cases outcome with
  | ok a => exact ⟨.ok a, p', rfl, hp'⟩
  | error e => exact hfallback e p' hp'

end Depth

theorem balanced_observed {active : List Text} {key : Text} {step : Resolving (Option Text)}
    (hstep : Balanced active step) : Balanced active (observed key step) := by
  intro p hp
  obtain ⟨outcome, p', hrun, hp'⟩ := hstep (p.record (.started key)) hp
  rw [from_observed, hrun]
  cases outcome with
  | ok value => exact ⟨.ok value, p'.record (.inferred key value), rfl, hp'⟩
  | error e => exact ⟨.error e, p'.record (.failed key), rfl, hp'⟩

theorem compositional_balanced (active : List Text) :
    Inference.Compositional fun α (step _ : Resolving α) => Balanced active step :=
  ⟨balanced_pure, balanced_bind, balanced_tryCatch⟩

theorem Inference.balanced_eval {active : List Text} {source : PropertyBag (Option Text)}
    {lookup : Text → Resolving (Option Text)} (hlookup : ∀ key, Balanced active (lookup key))
    (rule : Inference) : Balanced active (rule.eval source lookup) :=
  rule.eval_related (g := lookup) (compositional_balanced active) fun key _ => hlookup key

theorem balanced_compute {active : List Text} {source : PropertyBag (Option Text)}
    {lookup : Text → Resolving (Option Text)} (hlookup : ∀ key, Balanced active (lookup key))
    (property : Property) : Balanced active (compute source lookup property) := by
  unfold compute
  split
  · exact balanced_pure _
  · exact balanced_pure _
  · exact balanced_bind (balanced_observed (Inference.balanced_eval hlookup _)) fun _ =>
      balanced_pure _

/-- The catalog keys that are not active. -/
def idle (catalog : Catalog) (active : List Text) : List Text :=
  catalog.keys.filter (· ∉ active)

theorem length_idle_append_lt {catalog : Catalog} {active : List Text} {key : Text}
    (hkey : key ∈ catalog.keys) (hactive : key ∉ active) :
    (idle catalog (active ++ [key])).length < (idle catalog active).length := by
  unfold idle
  generalize catalog.keys = keys at hkey
  have hle (ks : List Text) : (ks.filter (· ∉ active ++ [key])).length ≤
      (ks.filter (· ∉ active)).length := by
    induction ks with
    | nil => simp
    | cons k ks ih =>
        by_cases h : k ∈ active
        · simpa [h] using ih
        · by_cases hk : k = key
          · simp only [List.filter_cons]
            simp [hk, hactive]
            simp at ih
            omega
          · simpa [h, hk] using ih
  induction keys with
  | nil => simp at hkey
  | cons k ks ih =>
      by_cases hk : k = key
      · subst hk
        have := hle ks
        simp only [List.filter_cons]
        simp [hactive]
        simp at this
        omega
      · have hks : key ∈ ks := by
          rcases List.mem_cons.mp hkey with h | h
          · exact absurd h.symm hk
          · exact h
        have := ih hks
        by_cases h : k ∈ active
        · simpa [h] using this
        · simpa [h, hk] using this

/-- Resolution never meets a depth bound above the number of keys that are not active. -/
theorem balanced_resolveWithin (source : PropertyBag (Option Text)) (catalog : Catalog)
    {depth : Nat} {active : List Text} (hdepth : (idle catalog active).length < depth)
    (key : Text) : Balanced active (resolveWithin source catalog depth key) := by
  induction depth generalizing active key with
  | zero => omega
  | succ depth ih =>
      intro p hp
      subst hp
      cases hfind : catalog.find? key with
      | none => exact ⟨_, p, from_resolveWithin_of_unknown hfind, rfl⟩
      | some property =>
          cases hsettled : p.settled? key with
          | some value => exact ⟨_, p, from_resolveWithin_of_settled hfind hsettled, rfl⟩
          | none =>
              by_cases hactive : key ∈ p.active
              · exact ⟨_, _, from_resolveWithin_of_active hfind hsettled hactive, rfl⟩
              · have hlt := length_idle_append_lt (Catalog.mem_keys_of_find? hfind) hactive
                have hcompute : Balanced (p.active ++ [key])
                    (compute source (resolveWithin source catalog depth) property) :=
                  balanced_compute (ih (by omega)) property
                obtain ⟨outcome, p', hrun, hp'⟩ := hcompute (p.enter key) rfl
                have hleave : p'.leave.active = p.active := by
                  simp [hp']
                cases outcome with
                | ok value =>
                    exact ⟨_, _, from_resolveWithin_of_ok hfind hsettled hactive hrun, hleave⟩
                | error e =>
                    exact ⟨_, _, from_resolveWithin_of_error hfind hsettled hactive hrun, hleave⟩

/-! ### Resolvers -/

/-- A bag, a catalog, and what has been resolved of it so far. -/
structure Resolver where
  source : PropertyBag (Option Text)
  catalog : Catalog
  progress : Progress := {}

/-- A computation that resolves properties; the resolver it leaves knows what was resolved even
where it fails. -/
abbrev Access := ExceptT ConfigError (StateM Resolver)

namespace Resolver

/-- A resolver that has resolved nothing yet. -/
def new (source : PropertyBag (Option Text)) (catalog : Catalog) : Resolver :=
  { source, catalog }

/-- One more than the number of keys is deep enough for every resolution. -/
theorem isSome_resolveWithin (r : Resolver) (key : Text) :
    ((resolveWithin r.source r.catalog (r.catalog.keys.length + 1) key).from
      r.progress).isSome := by
  obtain ⟨outcome, p', hrun, -⟩ := balanced_resolveWithin r.source r.catalog
    (Nat.lt_succ_of_le (List.length_filter_le _ _)) key r.progress rfl
  rw [hrun]
  rfl

def resolveFrom (r : Resolver) (key : Text) :
    Except ConfigError (Option Text) × Progress :=
  ((resolveWithin r.source r.catalog (r.catalog.keys.length + 1) key).from r.progress).get
    (r.isSome_resolveWithin key)

/-- The value of a property, or nothing if it is not set, inferred or defaulted. -/
def resolve (key : Text) : Access (Option Text) := do
  let r ← get
  let (outcome, progress) := r.resolveFrom key
  set { r with progress }
  MonadExcept.ofExcept outcome

/-- The value of every property, in catalog order. -/
def resolveAll : Access (List (Text × Option Text)) := do
  (← get).catalog.keys.mapM fun key => return (key, ← resolve key)

/-- The value of a property that must have a text other than the empty one. -/
def requiredText (key : Text) : Access Text :=
  read resolve textOf key

/-- The value of a property that must be true or false. -/
def flag (key : Text) : Access Bool :=
  read resolve flagOf key

def list (key : Text) : Access (List Text) :=
  read resolve itemsOf key

/-- How often the rule of a key has been started. -/
def starts (r : Resolver) (key : Text) : Nat :=
  r.progress.trace.count (.started key)

end Resolver

end TableSync.Config
