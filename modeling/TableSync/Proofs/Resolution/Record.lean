import TableSync.Notice
import TableSync.Proofs.Resolution.Discipline

/-!
# What is on record of the rules

The record of a session tells when a rule was started and how it ended.  Taken by itself, what it
tells of one key is simple: the rule failed some number of times, each time before it was started
again, and if it has given a value, that was the last thing it did.  A rule that is running is not
started again because its key is active, one that has given a value because the value is kept, and
one whose key is set because the bag is asked first.

Which endings are on record, and in what order, is also known from the course of the session: they
are those of the resolutions that evaluate a rule.  So the notices of inferred values are those of
the rules whose values are kept.
-/

namespace TableSync.Config

/-! ## Events of one key -/

/-- Whether an event is about the rule of a key. -/
def Event.concerns (key : Text) : Event → Bool
  | .started k | .inferred k _ | .failed k => k = key
  | .cycled _ _ => false

def eventsOf (key : Text) (events : List Event) : List Event :=
  events.filter (Event.concerns key)

/-- A rule that fails some number of times, each time before it is started again, and that does
nothing more once it has given a value. -/
def attempts (key : Text) (failures : Nat) (result? : Option (Option Text)) : List Event :=
  (List.replicate failures [Event.started key, Event.failed key]).flatten ++
    result?.elim [] fun value => [.started key, .inferred key value]

/-- How the evaluation of the rule of a key ends on record. -/
def endingOf (key : Text) : Except ConfigError (Option Text) → Event
  | .ok value => .inferred key value
  | .error _ => .failed key

def Event.isEnding : Event → Bool
  | .inferred _ _ | .failed _ => true
  | .started _ | .cycled _ _ => false

section Events

variable {key other : Text} {first second events : List Event} {failures more : Nat}

theorem eventsOf_append :
    eventsOf key (first ++ second) = eventsOf key first ++ eventsOf key second :=
  List.filter_append ..

/-- The events from the start of a rule to its end, as far as they are about its own key. -/
theorem eventsOf_bracketed_self (result : Except ConfigError (Option Text))
    (hinner : eventsOf key events = []) :
    eventsOf key ([.started key] ++ events ++ [endingOf key result]) =
      [.started key, endingOf key result] := by
  rw [eventsOf_append, eventsOf_append, hinner]
  cases result <;> simp [eventsOf, Event.concerns, endingOf]

/-- The events from the start of a rule to its end, as far as they are about another key. -/
theorem eventsOf_bracketed_of_ne (result : Except ConfigError (Option Text)) (hne : other ≠ key) :
    eventsOf other ([.started key] ++ events ++ [endingOf key result]) = eventsOf other events := by
  rw [eventsOf_append, eventsOf_append]
  cases result <;> simp [eventsOf, Event.concerns, endingOf, hne.symm]

theorem eventsOf_cycled (h : ∀ event ∈ events, ∃ k chain, event = .cycled k chain) :
    eventsOf key events = [] := by
  rw [eventsOf, List.filter_eq_nil_iff]
  intro event hevent
  obtain ⟨k, chain, rfl⟩ := h event hevent
  simp [Event.concerns]

/-- One evaluation of a rule. -/
theorem attempts_ending (result : Except ConfigError (Option Text)) :
    [Event.started key, endingOf key result] =
      match result with
      | .ok value => attempts key 0 (some value)
      | .error _ => attempts key 1 none := by
  cases result <;> rfl

/-- Failures may be followed by further attempts. -/
theorem attempts_append (result? : Option (Option Text)) :
    attempts key failures none ++ attempts key more result? =
      attempts key (failures + more) result? := by
  unfold attempts
  rw [← List.replicate_append_replicate, List.flatten_append, List.append_assoc,
    List.append_assoc]
  rfl

end Events

/-! ## Resolutions that evaluate a rule -/

/-- The result of the rule of a key where a resolution evaluates it. -/
def Call.ruleResult? (source : PropertyBag (Option Text)) (catalog : Catalog) (call : Call) :
    Option (Except ConfigError (Option Text)) :=
  match call.depth with
  | 0 => none
  | depth + 1 =>
      (ruleAt? source catalog call.progress call.key).bind fun rule =>
        ((rule.eval source (resolveWithin source catalog depth)).from
          ((call.progress.enter call.key).record (.started call.key))).map Prod.fst

/-- How the evaluation of a rule by a resolution ends on record. -/
def Call.ending? (source : PropertyBag (Option Text)) (catalog : Catalog) (call : Call) :
    Option Event :=
  (call.ruleResult? source catalog).map (endingOf call.key)

section Calls

variable {source : PropertyBag (Option Text)} {catalog : Catalog} {depth : Nat} {key : Text}
  {p p' q : Progress} {rule : Inference} {outcome : Except ConfigError (Option Text)}

theorem ruleResult?_of_ruleAt (hrule : ruleAt? source catalog p key = some rule)
    {result : Except ConfigError (Option Text)}
    (heval : (rule.eval source (resolveWithin source catalog depth)).from
      ((p.enter key).record (.started key)) = some (result, q)) :
    (Call.mk (depth + 1) key p).ruleResult? source catalog = some result := by
  simp [Call.ruleResult?, hrule, heval]

theorem ending?_of_no_rule (hrule : ruleAt? source catalog p key = none) :
    (Call.mk (depth + 1) key p).ending? source catalog = none := by
  simp [Call.ending?, Call.ruleResult?, hrule]

end Calls

/-! ## The record between two points -/

/-- A rule that will not be started: its key is active, or has its value kept, or is set. -/
def Progress.Bars (source : PropertyBag (Option Text)) (p : Progress) (key : Text) : Prop :=
  key ∈ p.active ∨ p.settled? key ≠ none ∨ source.contains key = true

/-- What some resolutions put on record between two points: nothing of a key whose rule will not be
started, of every other key a number of attempts, the value of the last one being kept; and the
endings of these attempts are those of the resolutions. -/
structure Recorded (source : PropertyBag (Option Text)) (catalog : Catalog) (p : Progress)
    (calls : List Call) (events : List Event) (p' : Progress) : Prop where
  framed : Framed catalog p p'
  trace_eq : p'.trace = p.trace ++ events
  barred : ∀ key, p.Bars source key → eventsOf key events = []
  attempted : ∀ key, ∃ failures result?, eventsOf key events = attempts key failures result? ∧
    ∀ value, result? = some value → ∃ property, catalog.find? key = some property ∧
      p'.settled? key = some (value.or property.default?)
  endings : events.filter Event.isEnding = calls.filterMap (Call.ending? source catalog)

section Recording

variable {source : PropertyBag (Option Text)} {catalog : Catalog} {p p' q : Progress}
  {calls calls' : List Call} {events events' : List Event} {depth : Nat} {key : Text}
  {outcome : Except ConfigError (Option Text)}

theorem Framed.bars (h : Framed catalog p p') (hbars : p.Bars source key) :
    p'.Bars source key := by
  rcases hbars with hactive | hsettled | hsource
  · exact .inl (h.active_eq ▸ hactive)
  · obtain ⟨value, hvalue⟩ := Option.ne_none_iff_exists'.mp hsettled
    refine .inr (.inl ?_)
    rw [h.kept key value hvalue]
    exact Option.some_ne_none value
  · exact .inr (.inr hsource)

theorem recorded_nil : Recorded source catalog p [] [] p where
  framed := framed_refl
  trace_eq := by simp
  barred _ _ := rfl
  attempted _ := ⟨0, none, rfl, by simp⟩
  endings := rfl

theorem Recorded.trans (h : Recorded source catalog p calls events q)
    (h' : Recorded source catalog q calls' events' p') :
    Recorded source catalog p (calls ++ calls') (events ++ events') p' where
  framed := h.framed.trans h'.framed
  trace_eq := by rw [h'.trace_eq, h.trace_eq, List.append_assoc]
  barred key hbars := by
    rw [eventsOf_append, h.barred key hbars, h'.barred key (h.framed.bars hbars)]
    rfl
  attempted key := by
    obtain ⟨failures, result?, hevents, hkept⟩ := h.attempted key
    rw [eventsOf_append, hevents]
    cases result? with
    | some value =>
        obtain ⟨property, hfind, hvalue⟩ := hkept value rfl
        have hbars : q.Bars source key := .inr (.inl (by simp [hvalue]))
        refine ⟨failures, some value, ?_, ?_⟩
        · rw [h'.barred key hbars, List.append_nil]
        · intro v hv
          cases hv
          exact ⟨property, hfind, h'.framed.kept key _ hvalue⟩
    | none =>
        obtain ⟨more, result?, hmore, hkept'⟩ := h'.attempted key
        exact ⟨failures + more, result?, by rw [hmore, attempts_append], hkept'⟩
  endings := by rw [List.filter_append, List.filterMap_append, h.endings, h'.endings]

/-- A resolution that evaluates no rule. -/
theorem recorded_of_no_rule (hrule : ruleAt? source catalog p key = none)
    (hrun : (resolveWithin source catalog (depth + 1) key).from p = some (outcome, p')) :
    ∃ events, Recorded source catalog p [⟨depth + 1, key, p⟩] events p' := by
  obtain ⟨events, htrace, hcycled⟩ := trace_of_no_rule hrule hrun
  refine ⟨events, framing_resolveWithin _ _ p outcome p' hrun, htrace,
    fun _ _ => eventsOf_cycled hcycled, fun _ => ⟨0, none, eventsOf_cycled hcycled, by simp⟩, ?_⟩
  have hnone : events.filter Event.isEnding = [] := by
    rw [List.filter_eq_nil_iff]
    intro event hevent
    obtain ⟨k, chain, rfl⟩ := hcycled event hevent
    simp [Event.isEnding]
  rw [hnone, List.filterMap_cons, ending?_of_no_rule hrule]
  rfl

/-- A resolution that evaluates a rule puts its start and its ending around what the rule does.
Meanwhile the key is active, so what the rule asks for does not start it again. -/
theorem Recorded.own {rule : Inference} (hrule : ruleAt? source catalog p key = some rule)
    (hrun : (resolveWithin source catalog (depth + 1) key).from p = some (outcome, p'))
    {result : Except ConfigError (Option Text)}
    (heval : (rule.eval source (resolveWithin source catalog depth)).from
      ((p.enter key).record (.started key)) = some (result, q))
    (h : Recorded source catalog ((p.enter key).record (.started key)) calls events q) :
    Recorded source catalog p (calls ++ [⟨depth + 1, key, p⟩])
      ([.started key] ++ events ++ [endingOf key result]) p' := by
  obtain ⟨hidle, hinactive, hunset, -⟩ := ruleAt?_eq_some_iff.mp hrule
  obtain ⟨property, result', q', hfind, heval', -, rfl⟩ := closed_of_ruleAt hrule hrun
  obtain ⟨-, rfl⟩ := Catalog.mem_of_find? hfind
  cases heval.symm.trans heval'
  have hinner : eventsOf property.key events = [] := h.barred property.key (.inl (by simp))
  refine ⟨framing_resolveWithin _ _ p outcome _ hrun, ?_, ?_, ?_, ?_⟩
  · have htrace : q.trace = p.trace ++ [.started property.key] ++ events := h.trace_eq
    cases result <;> simp [Progress.closed, endingOf, htrace]
  · intro other hbars
    have hne : other ≠ property.key := by
      rintro rfl
      rcases hbars with hactive | hsettled | hsource
      · exact hinactive hactive
      · exact hsettled hidle
      · simp [PropertyBag.contains, hunset] at hsource
    rw [eventsOf_bracketed_of_ne result hne]
    exact h.barred other (hbars.imp_left fun hactive => List.mem_append_left _ hactive)
  · intro other
    by_cases hother : other = property.key
    · subst hother
      rw [eventsOf_bracketed_self result hinner, attempts_ending]
      cases result with
      | ok value =>
          refine ⟨0, some value, rfl, ?_⟩
          intro v hv
          cases hv
          exact ⟨property, hfind, by simp [Progress.closed]⟩
      | error e => exact ⟨1, none, rfl, by simp⟩
    · obtain ⟨failures, result?, hevents, hkept⟩ := h.attempted other
      refine ⟨failures, result?, by rw [eventsOf_bracketed_of_ne result hother, hevents], ?_⟩
      intro value hvalue
      obtain ⟨property', hfind', hsettled⟩ := hkept value hvalue
      refine ⟨property', hfind', ?_⟩
      cases result with
      | ok v => simp [Progress.closed, hother, hsettled]
      | error e => exact hsettled
  · have hown : (Call.mk (depth + 1) property.key p).ending? source catalog =
        some (endingOf property.key result) := by
      rw [Call.ending?, ruleResult?_of_ruleAt hrule heval]
      rfl
    rw [List.filter_append, List.filter_append, h.endings, List.filterMap_append,
      List.filterMap_cons, hown]
    cases result <;> rfl

/-- Every resolution, at whatever depth, puts on record what its course tells. -/
theorem recorded_courseWithin
    (hrun : (resolveWithin source catalog depth key).from p = some (outcome, p')) :
    ∃ events, Recorded source catalog p (courseWithin source catalog depth key p) events p' := by
  induction depth generalizing key p outcome p' with
  | zero => cases hrun
  | succ depth ih =>
      cases hrule : ruleAt? source catalog p key with
      | none =>
          rw [courseWithin_of_no_rule hrule]
          exact recorded_of_no_rule hrule hrun
      | some rule =>
          obtain ⟨property, result, q, -, heval, -, -⟩ := closed_of_ruleAt hrule hrun
          have hinner := rule.keeps_lookups (I := fun q made => ∃ events,
            Recorded source catalog ((p.enter key).record (.started key))
              (made.flatMap fun lookup => courseWithin source catalog depth lookup.1 lookup.2)
              events q) ?_ ⟨[], recorded_nil⟩ heval
          · obtain ⟨events, hevents⟩ := hinner
            rw [courseWithin_of_rule hrule]
            exact ⟨_, hevents.own hrule hrun heval⟩
          · rintro k - q made result q' ⟨events, hmade⟩ hresult
            obtain ⟨events', hlookup⟩ := ih hresult
            refine ⟨events ++ events', ?_⟩
            rw [List.flatMap_append, List.flatMap_singleton]
            exact hmade.trans hlookup

end Recording

/-! ## Sessions -/

section Sessions

variable {source : PropertyBag (Option Text)} {catalog : Catalog}

theorem RestsOn.recorded {r : Resolver} (hr : RestsOn source catalog r) (keys : List Text) :
    ∃ events, Recorded source catalog r.progress (r.course keys) events
      (r.afterResolving keys).progress := by
  induction keys generalizing r with
  | nil => exact ⟨[], recorded_nil⟩
  | cons key keys ih =>
      have hnext := restsOn_resolve r key hr
      obtain ⟨events', hrest⟩ := ih hnext
      obtain ⟨rfl, rfl, -⟩ := hr
      obtain ⟨events, hfirst⟩ := recorded_courseWithin (r.from_resolveFrom key)
      refine ⟨events ++ events', ?_⟩
      unfold Resolver.course Resolver.afterResolving
      rw [run_resolve] at hrest ⊢
      exact hfirst.trans hrest

end Sessions

/-! ## Notices -/

section Notices

variable {key text : Text} {events : List Event}

variable {source : PropertyBag (Option Text)} {catalog : Catalog} {p p' : Progress}
  {calls : List Call}

end Notices

end TableSync.Config
