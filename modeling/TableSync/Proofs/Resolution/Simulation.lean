import TableSync.Config.Resolver

/-!
# Plain evaluation and resolution

Plain evaluation gives the value of a property without keeping values, without active keys and
without a record.  Resolution simulates it where it comes to the same outcome from any progress of
a kind, and leaves progress of that kind.  Besides, a value that it gives must not depend on the
keys that happen to be active, as long as these are none of the keys with a kept value: this is
what lets a value that was kept under some keys be given out under others.

The rules of this module follow the structure of inference rules.  A rule that catches a failure
has a value that hangs on the active keys, so it is only simulated where plain evaluation pays no
attention to them.
-/

namespace TableSync.Config

/-! ### Plain evaluation -/

namespace Inference

/-- Whether a rule never catches a failure. -/
def catchFree : Inference → Bool
  | const _ => true
  | raw _ => true
  | resolve _ => true
  | list _ => true
  | ifContains _ present absent => present.catchFree && absent.catchFree
  | ifTrue _ yes no => yes.catchFree && no.catchFree
  | byCount _ empty single several =>
      empty.catchFree && single.catchFree && several.catchFree
  | append first second => first.catchFree && second.catchFree
  | attempt _ _ => false

end Inference

/-- The value of a property by precedence: the raw value, even if it is nothing, or else the
inferred value, or else the default. -/
def Property.valueBy (property : Property) (source : PropertyBag (Option Text))
    (lookup : Text → Except ConfigError (Option Text)) : Except ConfigError (Option Text) :=
  match source.get? property.key, property.infer? with
  | some value, _ => .ok value
  | none, none => .ok property.default?
  | none, some rule => do
      let value ← rule.eval source lookup
      return value.or property.default?

/-! ### Simulation -/

/-- None of some keys has a kept value. -/
def Progress.Unsettled (p : Progress) (keys : List Text) : Prop :=
  ∀ key ∈ keys, p.settled? key = none

/-- What holds after a step from some progress: the outcome is the plain one for the active keys,
the progress left is of the same kind with the same keys active, no kept value is lost, and a value
is the plain one under all active keys that have no kept value. -/
structure Simulated {α : Type} (I : Progress → Prop) (plain : List Text → Except ConfigError α)
    (p : Progress) (outcome : Except ConfigError α) (p' : Progress) : Prop where
  plain_eq : plain p.active = outcome
  kind : I p'
  active_eq : p'.active = p.active
  kept : ∀ key, p'.settled? key = none → p.settled? key = none
  stable : ∀ a, outcome = .ok a → ∀ active, p'.Unsettled active → plain active = .ok a

/-- From progress of a kind, a step comes to the plain outcome for the active keys. -/
def Simulates {α : Type} (I : Progress → Prop) (step : Resolving α)
    (plain : List Text → Except ConfigError α) : Prop :=
  ∀ p, I p → ∃ outcome p', step.from p = some (outcome, p') ∧ Simulated I plain p outcome p'

/-- A kind of progress that the record of an inference leaves alone. -/
def Unrecorded (I : Progress → Prop) : Prop :=
  ∀ p event, (∀ key chain, event ≠ .cycled key chain) → I p → I (p.record event)

section Rules

variable {α β : Type} {I : Progress → Prop}

/-- A step that leaves all progress as it is. -/
theorem Simulated.unchanged {plain : List Text → Except ConfigError α} {p : Progress}
    {outcome : Except ConfigError α} (hp : I p) (hplain : plain p.active = outcome)
    (hstable : ∀ a, outcome = .ok a → ∀ active, p.Unsettled active → plain active = .ok a) :
    Simulated I plain p outcome p :=
  ⟨hplain, hp, rfl, fun _ h => h, hstable⟩

theorem simulates_pure (a : α) : Simulates I (pure a) fun _ => pure a :=
  fun p hp => ⟨.ok a, p, rfl, .unchanged hp rfl fun _ h _ _ => h⟩

theorem simulates_bind {step : Resolving α} {next : α → Resolving β}
    {plain : List Text → Except ConfigError α} {rest : List Text → α → Except ConfigError β}
    (hstep : Simulates I step plain)
    (hnext : ∀ a, Simulates I (next a) fun active => rest active a) :
    Simulates I (step >>= next) fun active => plain active >>= rest active := by
  intro p hp
  obtain ⟨outcome, p₁, hrun, h₁⟩ := hstep p hp
  have hplain := h₁.plain_eq
  simp only [from_bind, hrun, Option.bind_some]
  cases outcome with
  | error e =>
      refine ⟨.error e, p₁, rfl, ?_, h₁.kind, h₁.active_eq, h₁.kept, fun b hb => by cases hb⟩
      rw [hplain]
      rfl
  | ok a =>
      obtain ⟨outcome, p₂, hrun₂, h₂⟩ := hnext a p₁ h₁.kind
      refine ⟨outcome, p₂, hrun₂, ?_, h₂.kind, h₂.active_eq.trans h₁.active_eq,
        fun key h => h₁.kept key (h₂.kept key h), ?_⟩
      · rw [hplain, ← h₁.active_eq]
        exact h₂.plain_eq
      · intro b hb active hactive
        have hfirst : plain active = .ok a :=
          h₁.stable a rfl active fun key hkey => h₂.kept key (hactive key hkey)
        rw [hfirst]
        exact h₂.stable b hb active hactive

/-- A failure may be caught where the plain outcomes are the same for all active keys. -/
theorem simulates_tryCatch {step : Resolving α} {fallback : ConfigError → Resolving α}
    {plain : Except ConfigError α} {rest : ConfigError → Except ConfigError α}
    (hstep : Simulates I step fun _ => plain)
    (hfallback : ∀ e, Simulates I (fallback e) fun _ => rest e) :
    Simulates I (tryCatch step fallback) fun _ => tryCatch plain rest := by
  intro p hp
  obtain ⟨outcome, p₁, hrun, h₁⟩ := hstep p hp
  obtain rfl : plain = outcome := h₁.plain_eq
  simp only [from_tryCatch, hrun, Option.bind_some]
  cases plain with
  | ok a => exact ⟨.ok a, p₁, rfl, rfl, h₁.kind, h₁.active_eq, h₁.kept, fun _ h _ _ => h⟩
  | error e =>
      obtain ⟨outcome, p₂, hrun₂, h₂⟩ := hfallback e p₁ h₁.kind
      exact ⟨outcome, p₂, hrun₂, h₂.plain_eq, h₂.kind, h₂.active_eq.trans h₁.active_eq,
        fun key h => h₁.kept key (h₂.kept key h), h₂.stable⟩

theorem simulates_observed (hI : Unrecorded I) {key : Text} {step : Resolving (Option Text)}
    {plain : List Text → Except ConfigError (Option Text)} (hstep : Simulates I step plain) :
    Simulates I (observed key step) plain := by
  intro p hp
  obtain ⟨outcome, p', hrun, h⟩ := hstep (p.record (.started key)) (hI p _ (by simp) hp)
  rw [from_observed, hrun]
  cases outcome with
  | ok value =>
      exact ⟨.ok value, p'.record (.inferred key value), rfl, h.plain_eq,
        hI p' _ (by simp) h.kind, h.active_eq, h.kept, h.stable⟩
  | error e =>
      exact ⟨.error e, p'.record (.failed key), rfl, h.plain_eq,
        hI p' _ (by simp) h.kind, h.active_eq, h.kept, h.stable⟩

end Rules

/-! ### Rules of inference -/

section Lookup

variable {I : Progress → Prop} {source : PropertyBag (Option Text)}
  {lookup : Text → Resolving (Option Text)}
  {plain : List Text → Text → Except ConfigError (Option Text)}

/-- The evaluation of a rule simulates plain evaluation if its lookups do. -/
theorem Inference.simulates_eval (rule : Inference)
    (hlookup : ∀ key ∈ rule.references, Simulates I (lookup key) fun active => plain active key)
    (hcatch : rule.catchFree = true ∨ ∃ value, plain = fun _ => value) :
    Simulates I (rule.eval source lookup) fun active => rule.eval source (plain active) := by
  induction rule with
  | const value => exact simulates_pure _
  | raw key => exact simulates_pure _
  | resolve key => exact hlookup key (by simp [references])
  | list key =>
      exact simulates_bind (hlookup key (by simp [references])) fun _ => simulates_pure _
  | ifContains key present absent ihp iha =>
      simp only [references, List.mem_append, catchFree, Bool.and_eq_true] at hlookup hcatch
      unfold eval
      split
      · exact ihp (fun k hk => hlookup k (.inl hk)) (hcatch.imp_left And.left)
      · exact iha (fun k hk => hlookup k (.inr hk)) (hcatch.imp_left And.right)
  | ifTrue key yes no ihy ihn =>
      simp only [references, List.mem_append, catchFree, Bool.and_eq_true] at hlookup hcatch
      unfold eval
      split
      · exact ihy (fun k hk => hlookup k (.inl hk)) (hcatch.imp_left And.left)
      · exact ihn (fun k hk => hlookup k (.inr hk)) (hcatch.imp_left And.right)
  | byCount key empty single several ihe ihs ihm =>
      simp only [references, List.mem_cons, List.mem_append, catchFree, Bool.and_eq_true]
        at hlookup hcatch
      refine simulates_bind (hlookup key (.inl rfl)) fun value => ?_
      split
      · exact ihe (fun k hk => hlookup k (.inr (.inl (.inl hk))))
          (hcatch.imp_left fun h => h.1.1)
      · exact ihs (fun k hk => hlookup k (.inr (.inl (.inr hk))))
          (hcatch.imp_left fun h => h.1.2)
      · exact ihm (fun k hk => hlookup k (.inr (.inr hk))) (hcatch.imp_left And.right)
  | append first second ihf ihs =>
      simp only [references, List.mem_append, catchFree, Bool.and_eq_true] at hlookup hcatch
      refine simulates_bind (ihf (fun k hk => hlookup k (.inl hk)) (hcatch.imp_left And.left))
        fun a => ?_
      refine simulates_bind (ihs (fun k hk => hlookup k (.inr hk)) (hcatch.imp_left And.right))
        fun b => ?_
      exact simulates_pure _
  | attempt first fallback ihf ihb =>
      simp only [references, List.mem_append] at hlookup
      rcases hcatch with hcatch | ⟨value, rfl⟩
      · simp [catchFree] at hcatch
      · exact simulates_tryCatch (ihf (fun k hk => hlookup k (.inl hk)) (.inr ⟨value, rfl⟩))
          fun _ => ihb (fun k hk => hlookup k (.inr hk)) (.inr ⟨value, rfl⟩)

/-- The computation of a property simulates its value by precedence. -/
theorem simulates_compute (hI : Unrecorded I) (property : Property)
    (hlookup : ∀ rule ∈ property.infer?, ∀ key ∈ rule.references,
      Simulates I (lookup key) fun active => plain active key)
    (hcatch : (∀ rule ∈ property.infer?, rule.catchFree = true) ∨ ∃ value, plain = fun _ => value) :
    Simulates I (compute source lookup property)
      fun active => property.valueBy source (plain active) := by
  unfold compute Property.valueBy
  cases source.get? property.key with
  | some value => exact simulates_pure _
  | none =>
      cases hrule : property.infer? with
      | none => exact simulates_pure _
      | some rule =>
          have heval : Simulates I (rule.eval source lookup)
              fun active => rule.eval source (plain active) :=
            rule.simulates_eval (hlookup rule hrule) (hcatch.imp_left fun h => h rule hrule)
          exact simulates_bind (simulates_observed hI heval) fun _ => simulates_pure _

end Lookup

end TableSync.Config
