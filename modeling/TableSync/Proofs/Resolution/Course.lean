import TableSync.Proofs.Resolution.Requests

/-!
# The course of a resolution

A resolution goes one of seven ways, and only where a rule is evaluated does it ask for further
resolutions.  Which ones these are is found out by evaluating the rule once more with lookups that
take note of themselves, so what is said here about all resolutions that a session asks for, at
whatever depth, is about the evaluation that is run.
-/

namespace TableSync.Config

/-! ## The ways in which a resolution goes -/

section Computing

variable {source : PropertyBag (Option Text)} {catalog : Catalog} {depth : Nat} {key : Text}
  {lookup : Text → Resolving (Option Text)} {property : Property} (p : Progress)

theorem from_compute_of_raw {value : Option Text}
    (hsource : source.get? property.key = some value) :
    (compute source lookup property).from p = some (.ok value, p) := by
  unfold compute
  rw [hsource]
  rfl

theorem from_compute_of_default (hsource : source.get? property.key = none)
    (hinfer : property.infer? = none) :
    (compute source lookup property).from p = some (.ok property.default?, p) := by
  unfold compute
  rw [hsource, hinfer]
  rfl

theorem from_compute_of_rule {rule : Inference} (hsource : source.get? property.key = none)
    (hinfer : property.infer? = some rule) :
    (compute source lookup property).from p =
      ((rule.eval source lookup).from (p.record (.started property.key))).map fun r =>
        match r.1 with
        | .ok value =>
            (.ok (value.or property.default?), r.2.record (.inferred property.key value))
        | .error e => (.error e, r.2.record (.failed property.key)) := by
  unfold compute
  rw [hsource, hinfer]
  simp only [from_bind, from_observed]
  cases (rule.eval source lookup).from (p.record (.started property.key)) with
  | none => rfl
  | some r =>
      obtain ⟨outcome, q⟩ := r
      cases outcome <;> rfl

end Computing

section Ways

variable (source : PropertyBag (Option Text)) (catalog : Catalog) (depth : Nat) (key : Text)
  (p : Progress)

/-- How a key is resolved that is looked up from some progress: the outcome and the progress that
is left. -/
inductive Resolved : Except ConfigError (Option Text) → Progress → Prop
  | unknown (hfind : catalog.find? key = none) : Resolved (.error (.unknownProperty key)) p
  | kept {property : Property} {value : Option Text} (hfind : catalog.find? key = some property)
      (hsettled : p.settled? key = some value) : Resolved (.ok value) p
  | cycle {property : Property} (hfind : catalog.find? key = some property)
      (hsettled : p.settled? key = none) (hactive : key ∈ p.active) :
      Resolved (.error (.cycle key p.active)) (p.record (.cycled key p.active))
  | raw {property : Property} {value : Option Text} (hfind : catalog.find? key = some property)
      (hsettled : p.settled? key = none) (hactive : key ∉ p.active)
      (hsource : source.get? key = some value) : Resolved (.ok value) (p.settle key value)
  | default {property : Property} (hfind : catalog.find? key = some property)
      (hsettled : p.settled? key = none) (hactive : key ∉ p.active)
      (hsource : source.get? key = none) (hinfer : property.infer? = none) :
      Resolved (.ok property.default?) (p.settle key property.default?)
  | inferred {property : Property} {rule : Inference} {value : Option Text} {q : Progress}
      (hfind : catalog.find? key = some property) (hsettled : p.settled? key = none)
      (hactive : key ∉ p.active) (hsource : source.get? key = none)
      (hinfer : property.infer? = some rule)
      (heval : (rule.eval source (resolveWithin source catalog depth)).from
        ((p.enter key).record (.started key)) = some (.ok value, q)) :
      Resolved (.ok (value.or property.default?))
        ((q.record (.inferred key value)).leave.settle key (value.or property.default?))
  | failed {property : Property} {rule : Inference} {e : ConfigError} {q : Progress}
      (hfind : catalog.find? key = some property) (hsettled : p.settled? key = none)
      (hactive : key ∉ p.active) (hsource : source.get? key = none)
      (hinfer : property.infer? = some rule)
      (heval : (rule.eval source (resolveWithin source catalog depth)).from
        ((p.enter key).record (.started key)) = some (.error e, q)) :
      Resolved (.error e) ((q.record (.failed key)).leave)

variable {source catalog depth key p} {outcome : Except ConfigError (Option Text)}
  {p' : Progress}

theorem leave_enter : (p.enter key).leave = p := by
  simp [Progress.enter, Progress.leave]

theorem resolved_of_idle {property : Property} (hfind : catalog.find? key = some property)
    (hsettled : p.settled? key = none) (hactive : key ∉ p.active)
    (h : (resolveWithin source catalog (depth + 1) key).from p = some (outcome, p')) :
    Resolved source catalog depth key p outcome p' := by
  obtain ⟨-, rfl⟩ := Catalog.mem_of_find? hfind
  rw [from_resolveWithin_of_idle hfind hsettled hactive] at h
  cases hsource : source.get? property.key with
  | some value =>
      rw [from_compute_of_raw _ hsource, Option.map_some, leave_enter] at h
      cases h
      exact .raw hfind hsettled hactive hsource
  | none =>
      cases hinfer : property.infer? with
      | none =>
          rw [from_compute_of_default _ hsource hinfer, Option.map_some, leave_enter] at h
          cases h
          exact .default hfind hsettled hactive hsource hinfer
      | some rule =>
          rw [from_compute_of_rule _ hsource hinfer] at h
          cases heval : (rule.eval source (resolveWithin source catalog depth)).from
              ((p.enter property.key).record (.started property.key)) with
          | none =>
              rw [heval] at h
              cases h
          | some r =>
              obtain ⟨result, q⟩ := r
              rw [heval] at h
              cases result with
              | ok value =>
                  cases h
                  exact .inferred hfind hsettled hactive hsource hinfer heval
              | error e =>
                  cases h
                  exact .failed hfind hsettled hactive hsource hinfer heval

/-- Every resolution that ends goes one of these ways. -/
theorem resolved_of_from
    (h : (resolveWithin source catalog (depth + 1) key).from p = some (outcome, p')) :
    Resolved source catalog depth key p outcome p' := by
  cases hfind : catalog.find? key with
  | none =>
      rw [from_resolveWithin_of_unknown hfind] at h
      cases h
      exact .unknown hfind
  | some property =>
      cases hsettled : p.settled? key with
      | some value =>
          rw [from_resolveWithin_of_settled hfind hsettled] at h
          cases h
          exact .kept hfind hsettled
      | none =>
          by_cases hactive : key ∈ p.active
          · rw [from_resolveWithin_of_active hfind hsettled hactive] at h
            cases h
            exact .cycle hfind hsettled hactive
          · exact resolved_of_idle hfind hsettled hactive h

end Ways

/-! ## The lookups of a rule -/

/-- A step that lists the lookups that it makes, each with the progress that it is made from.  The
list is there even where the depth bound is reached. -/
abbrev Tracing := ExceptT ConfigError (OptionT (StateM (Progress × List (Text × Progress))))

/-- What a listing step gives, and the progress and the list that it leaves. -/
def Tracing.from {α : Type} (step : Tracing α) (state : Progress × List (Text × Progress)) :
    Option (Except ConfigError α) × Progress × List (Text × Progress) :=
  step.run.run.run state

/-- Look a key up and put the lookup on the list. -/
def tracing (lookup : Text → Resolving (Option Text)) (key : Text) : Tracing (Option Text) :=
  fun (p, made) =>
    match (lookup key).from p with
    | none => (none, p, made ++ [(key, p)])
    | some (outcome, p') => (some outcome, p', made ++ [(key, p)])

/-- The lookups that the evaluation of a rule makes from some progress on. -/
def Inference.lookups (source : PropertyBag (Option Text))
    (lookup : Text → Resolving (Option Text)) (rule : Inference) (p : Progress) :
    List (Text × Progress) :=
  (Tracing.from (rule.eval source (tracing lookup)) (p, [])).2.2

section Lookups

variable {α β : Type}

theorem tracing_bind (step : Tracing α) (next : α → Tracing β)
    (state : Progress × List (Text × Progress)) :
    Tracing.from (step >>= next) state = match Tracing.from step state with
      | (some (.ok a), state') => (next a).from state'
      | (some (.error e), state') => (some (.error e), state')
      | (none, state') => (none, state') := by
  unfold Tracing.from
  simp only [ExceptT.run_bind, OptionT.run_bind, Option.elimM, StateT.run_bind]
  rcases step.run.run.run state with ⟨_ | _ | _, state'⟩ <;> rfl

theorem tracing_tryCatch (step : Tracing α) (fallback : ConfigError → Tracing α)
    (state : Progress × List (Text × Progress)) :
    Tracing.from (tryCatch step fallback) state = match Tracing.from step state with
      | (some (.ok a), state') => (some (.ok a), state')
      | (some (.error e), state') => (fallback e).from state'
      | (none, state') => (none, state') := by
  show ExceptT.tryCatch step fallback state = _
  unfold Tracing.from ExceptT.run OptionT.run StateT.run
  simp only [ExceptT.tryCatch, ExceptT.mk, bind, OptionT.bind, OptionT.mk, StateT.bind]
  rcases step state with ⟨_ | _ | _, state'⟩ <;> rfl

/-- A step that ends is traced to its end, and what its lookups keep of the progress and the list is
kept. -/
def Traces {α : Type} (I : Progress → List (Text × Progress) → Prop) (traced : Tracing α)
    (step : Resolving α) : Prop :=
  ∀ p made outcome p', I p made → step.from p = some (outcome, p') →
    ∃ made', traced.from (p, made) = (some outcome, p', made') ∧ I p' made'

variable {I : Progress → List (Text × Progress) → Prop}

theorem compositional_traces :
    Inference.Compositional fun α (traced : Tracing α) (step : Resolving α) =>
      Traces I traced step := by
  refine ⟨?_, ?_, ?_⟩
  · intro α a p made outcome p' hI hrun
    cases hrun
    exact ⟨made, rfl, hI⟩
  · intro α β traced step next next' hstep hnext p made outcome p' hI hrun
    rcases ends_of_bind hrun with ⟨a, q, hfirst, hrest⟩ | ⟨e, hfirst, rfl⟩
    · obtain ⟨made', htraced, hI'⟩ := hstep p made (.ok a) q hI hfirst
      rw [tracing_bind, htraced]
      exact hnext a q made' outcome p' hI' hrest
    · obtain ⟨made', htraced, hI'⟩ := hstep p made (.error e) p' hI hfirst
      rw [tracing_bind, htraced]
      exact ⟨made', rfl, hI'⟩
  · intro α traced step fallback fallback' hstep hfallback p made outcome p' hI hrun
    rcases ends_of_tryCatch hrun with ⟨a, hfirst, rfl⟩ | ⟨e, q, hfirst, hrest⟩
    · obtain ⟨made', htraced, hI'⟩ := hstep p made (.ok a) p' hI hfirst
      rw [tracing_tryCatch, htraced]
      exact ⟨made', rfl, hI'⟩
    · obtain ⟨made', htraced, hI'⟩ := hstep p made (.error e) q hI hfirst
      rw [tracing_tryCatch, htraced]
      exact hfallback e q made' outcome p' hI' hrest

/-- What holds with no lookup made, and still holds with each further one, holds with all lookups
that a rule makes. -/
theorem Inference.keeps_lookups {source : PropertyBag (Option Text)}
    {lookup : Text → Resolving (Option Text)} {rule : Inference}
    (hlookup : ∀ key ∈ rule.references, ∀ p made outcome p', I p made →
      (lookup key).from p = some (outcome, p') → I p' (made ++ [(key, p)]))
    {p p' : Progress} {outcome : Except ConfigError (Option Text)} (hp : I p [])
    (hrun : (rule.eval source lookup).from p = some (outcome, p')) :
    I p' (rule.lookups source lookup p) := by
  have htraces : Traces I (rule.eval source (tracing lookup)) (rule.eval source lookup) := by
    refine rule.eval_related compositional_traces ?_
    intro key hkey q made result q' hI hresult
    refine ⟨made ++ [(key, q)], ?_, hlookup key hkey q made result q' hI hresult⟩
    show tracing lookup key (q, made) = _
    simp only [tracing, hresult]
  obtain ⟨made, htraced, hI⟩ := htraces p [] outcome p' hp hrun
  unfold lookups
  rw [htraced]
  exact hI

end Lookups

/-! ## All resolutions that take place -/

/-- A resolution that is asked for: a key, the progress it is asked from, and the depth that is
left for it. -/
structure Call where
  depth : Nat
  key : Text
  progress : Progress

section Calls

variable (source : PropertyBag (Option Text)) (catalog : Catalog)

/-- What a resolution gives, if it does not run out of depth. -/
def Call.run (call : Call) : Option (Except ConfigError (Option Text) × Progress) :=
  (resolveWithin source catalog call.depth call.key).from call.progress

/-- The rule that is evaluated where a key is looked up. -/
def ruleAt? (p : Progress) (key : Text) : Option Inference :=
  if p.settled? key = none ∧ key ∉ p.active ∧ source.get? key = none then
    (catalog.find? key).bind Property.infer?
  else none

/-- The resolutions that take place where a key is looked up, in the order in which they end: those
that its rule asks for, and its own. -/
def courseWithin : Nat → Text → Progress → List Call
  | 0, key, p => [⟨0, key, p⟩]
  | depth + 1, key, p =>
      let made := (ruleAt? source catalog p key).elim [] fun rule =>
        rule.lookups source (resolveWithin source catalog depth)
          ((p.enter key).record (.started key))
      (made.flatMap fun lookup => courseWithin depth lookup.1 lookup.2) ++ [⟨depth + 1, key, p⟩]

/-- The resolutions that take place when the caller of a resolver asks for a key. -/
def Resolver.courseFrom (r : Resolver) (key : Text) : List Call :=
  courseWithin r.source r.catalog (r.catalog.keys.length + 1) key r.progress

/-- The resolutions that take place when the caller asks for some keys one after the other. -/
def Resolver.course (r : Resolver) : List Text → List Call
  | [] => []
  | key :: keys => r.courseFrom key ++ ((Resolver.resolve key).run.run r).2.course keys

variable {source catalog} {p : Progress} {key : Text}

theorem ruleAt?_eq_some_iff {rule : Inference} :
    ruleAt? source catalog p key = some rule ↔
      p.settled? key = none ∧ key ∉ p.active ∧ source.get? key = none ∧
        ∃ property, catalog.find? key = some property ∧ property.infer? = some rule := by
  unfold ruleAt?
  split
  · rename_i h
    simp only [h, not_false_eq_true, true_and, Option.bind_eq_some_iff]
  · rename_i h
    simp only [reduceCtorEq, false_iff]
    rintro ⟨hsettled, hactive, hsource, -⟩
    exact h ⟨hsettled, hactive, hsource⟩

theorem courseWithin_of_rule {depth : Nat} {rule : Inference}
    (hrule : ruleAt? source catalog p key = some rule) :
    courseWithin source catalog (depth + 1) key p =
      ((rule.lookups source (resolveWithin source catalog depth)
        ((p.enter key).record (.started key))).flatMap fun lookup =>
          courseWithin source catalog depth lookup.1 lookup.2) ++ [⟨depth + 1, key, p⟩] := by
  rw [courseWithin, hrule]
  rfl

theorem courseWithin_of_no_rule {depth : Nat} (hrule : ruleAt? source catalog p key = none) :
    courseWithin source catalog (depth + 1) key p = [⟨depth + 1, key, p⟩] := by
  rw [courseWithin, hrule]
  rfl

/-- What is left of the progress that a rule leaves once its key is active no more. -/
def Progress.closed (q : Progress) (property : Property) :
    Except ConfigError (Option Text) → Progress
  | .ok value =>
      (q.record (.inferred property.key value)).leave.settle property.key
        (value.or property.default?)
  | .error _ => (q.record (.failed property.key)).leave

variable {depth : Nat} {outcome : Except ConfigError (Option Text)} {p' : Progress}

/-- Where the rule of a key is evaluated, its result decides how the resolution ends. -/
theorem closed_of_ruleAt {rule : Inference} (hrule : ruleAt? source catalog p key = some rule)
    (hrun : (resolveWithin source catalog (depth + 1) key).from p = some (outcome, p')) :
    ∃ property result q, catalog.find? key = some property ∧
      (rule.eval source (resolveWithin source catalog depth)).from
        ((p.enter key).record (.started key)) = some (result, q) ∧
      outcome = result.map (·.or property.default?) ∧ p' = q.closed property result := by
  obtain ⟨hidle, hinactive, hunset, property, hproperty, hruleof⟩ := ruleAt?_eq_some_iff.mp hrule
  obtain ⟨-, rfl⟩ := Catalog.mem_of_find? hproperty
  cases resolved_of_from hrun with
  | unknown hfind => simp [hfind] at hproperty
  | kept hfind hsettled => simp [hsettled] at hidle
  | cycle hfind hsettled hactive => exact absurd hactive hinactive
  | raw hfind hsettled hactive hsource => simp [hsource] at hunset
  | default hfind hsettled hactive hsource hinfer =>
      rw [hproperty] at hfind
      cases hfind
      simp [hinfer] at hruleof
  | inferred hfind hsettled hactive hsource hinfer heval =>
      rw [hproperty] at hfind
      cases hfind
      rw [hruleof] at hinfer
      cases hinfer
      exact ⟨property, _, _, hproperty, heval, rfl, rfl⟩
  | failed hfind hsettled hactive hsource hinfer heval =>
      rw [hproperty] at hfind
      cases hfind
      rw [hruleof] at hinfer
      cases hinfer
      exact ⟨property, _, _, hproperty, heval, rfl, rfl⟩

/-- Where no rule is evaluated, nothing goes on record but that a cycle was met. -/
theorem trace_of_no_rule (hrule : ruleAt? source catalog p key = none)
    (hrun : (resolveWithin source catalog (depth + 1) key).from p = some (outcome, p')) :
    ∃ events, p'.trace = p.trace ++ events ∧
      ∀ event ∈ events, ∃ k chain, event = .cycled k chain := by
  have hnone {property : Property} {rule : Inference}
      (hfind : catalog.find? key = some property) (hsettled : p.settled? key = none)
      (hactive : key ∉ p.active) (hsource : source.get? key = none)
      (hinfer : property.infer? = some rule) : ruleAt? source catalog p key = some rule :=
    ruleAt?_eq_some_iff.mpr ⟨hsettled, hactive, hsource, property, hfind, hinfer⟩
  cases resolved_of_from hrun with
  | unknown hfind => exact ⟨[], by simp⟩
  | kept hfind hsettled => exact ⟨[], by simp⟩
  | cycle hfind hsettled hactive => exact ⟨[.cycled key p.active], by simp⟩
  | raw hfind hsettled hactive hsource => exact ⟨[], by simp⟩
  | default hfind hsettled hactive hsource hinfer => exact ⟨[], by simp⟩
  | inferred hfind hsettled hactive hsource hinfer heval =>
      rw [hnone hfind hsettled hactive hsource hinfer] at hrule
      cases hrule
  | failed hfind hsettled hactive hsource hinfer heval =>
      rw [hnone hfind hsettled hactive hsource hinfer] at hrule
      cases hrule

end Calls

end TableSync.Config
