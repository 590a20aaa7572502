import TableSync.Proofs.Resolution.Cycles

/-!
# What a resolution leaves behind

However a step of resolution ends, and however deep an error was met or caught on the way, the
active keys are as they were, every value is kept, and values are only added for keys of the catalog
that were not active.  A key that could be resolved has its value kept, and one that could not has
none.  So of all resolutions of a key that ever take place, whoever asks for them, those after the
first one that succeeds give the value that it gave.
-/

namespace TableSync.Config

/-! ## Progress before and after a step -/

/-- Progress that a step may leave behind. -/
structure Framed (catalog : Catalog) (p p' : Progress) : Prop where
  active_eq : p'.active = p.active
  kept : ∀ key value, p.settled? key = some value → p'.settled? key = some value
  added : ∀ key value, p'.settled? key = some value →
    p.settled? key = some value ∨ key ∈ catalog.keys ∧ key ∉ p.active

/-- Only keys of a catalog have a value kept. -/
def Progress.Within (catalog : Catalog) (p : Progress) : Prop :=
  ∀ key value, p.settled? key = some value → key ∈ catalog.keys

/-- A key has its value kept where it was resolved, and no value where it could not be. -/
def Progress.Reflects (p : Progress) (key : Text) : Except ConfigError (Option Text) → Prop
  | .ok value => p.settled? key = some value
  | .error _ => p.settled? key = none

section Framing

variable {catalog : Catalog} {p q p' : Progress} {key : Text}

theorem framed_refl : Framed catalog p p :=
  ⟨rfl, fun _ _ h => h, fun _ _ h => .inl h⟩

theorem Framed.trans (h : Framed catalog p q) (h' : Framed catalog q p') :
    Framed catalog p p' := by
  refine ⟨h'.active_eq.trans h.active_eq, ?_, ?_⟩
  · intro k value hvalue
    exact h'.kept k value (h.kept k value hvalue)
  · intro k value hvalue
    rcases h'.added k value hvalue with hvalue | ⟨hk, hactive⟩
    · exact h.added k value hvalue
    · exact .inr ⟨hk, h.active_eq ▸ hactive⟩

/-- A key that is active gets no value. -/
theorem Framed.settled?_of_mem_active (h : Framed catalog p p') (hsettled : p.settled? key = none)
    (hactive : key ∈ p.active) : p'.settled? key = none := by
  rw [Option.eq_none_iff_forall_ne_some]
  intro value hvalue
  rcases h.added key value hvalue with hvalue | ⟨-, hidle⟩
  · rw [hsettled] at hvalue
    cases hvalue
  · exact hidle hactive

theorem Framed.within (h : Framed catalog p p') (hp : p.Within catalog) : p'.Within catalog := by
  intro k value hvalue
  rcases h.added k value hvalue with hvalue | ⟨hk, -⟩
  · exact hp k value hvalue
  · exact hk

theorem framed_settle {property : Property} {value : Option Text}
    (hfind : catalog.find? key = some property) (hsettled : p.settled? key = none)
    (hactive : key ∉ p.active) : Framed catalog p (p.settle key value) := by
  refine ⟨rfl, ?_, ?_⟩
  · intro k v hv
    have hne : k ≠ key := by
      rintro rfl
      rw [hsettled] at hv
      cases hv
    rw [Progress.settled?_settle, if_neg hne]
    exact hv
  · intro k v hv
    rw [Progress.settled?_settle] at hv
    split at hv
    · rename_i hk
      exact .inr (hk ▸ ⟨Catalog.mem_keys_of_find? hfind, hactive⟩)
    · exact .inl hv

/-- What is left of a step that took place while a key was active. -/
theorem Framed.leave (h : Framed catalog ((p.enter key).record (.started key)) q) (event : Event) :
    Framed catalog p (q.record event).leave := by
  refine ⟨?_, h.kept, ?_⟩
  · show q.active.dropLast = p.active
    rw [h.active_eq]
    simp
  · intro k value hvalue
    refine (h.added k value hvalue).imp_right ?_
    rintro ⟨hk, hactive⟩
    exact ⟨hk, fun hmem => hactive (List.mem_append_left _ hmem)⟩

end Framing

/-! ## Every step is framed -/

section Steps

variable {source : PropertyBag (Option Text)} {catalog : Catalog}

/-- A step that leaves no other progress behind than it may. -/
def Framing {α : Type} (catalog : Catalog) (step : Resolving α) : Prop :=
  ∀ p outcome p', step.from p = some (outcome, p') → Framed catalog p p'

theorem compositional_framing :
    Inference.Compositional fun α (step _ : Resolving α) => Framing catalog step := by
  refine ⟨?_, ?_, ?_⟩
  · intro α a p outcome p' hrun
    cases hrun
    exact framed_refl
  · intro α β step _ next _ hstep hnext p outcome p' hrun
    rcases ends_of_bind hrun with ⟨a, q, hfirst, hrest⟩ | ⟨e, hfirst, -⟩
    · exact (hstep p _ q hfirst).trans (hnext a q outcome p' hrest)
    · exact hstep p _ p' hfirst
  · intro α step _ fallback _ hstep hfallback p outcome p' hrun
    rcases ends_of_tryCatch hrun with ⟨a, hfirst, -⟩ | ⟨e, q, hfirst, hrest⟩
    · exact hstep p _ p' hfirst
    · exact (hstep p _ q hfirst).trans (hfallback e q outcome p' hrest)

theorem framing_resolveWithin (depth : Nat) (key : Text) :
    Framing catalog (resolveWithin source catalog depth key) := by
  induction depth generalizing key with
  | zero =>
      intro p outcome p' hrun
      cases hrun
  | succ depth ih =>
      intro p outcome p' hrun
      have heval (rule : Inference) :
          Framing catalog (rule.eval source (resolveWithin source catalog depth)) :=
        rule.eval_related (g := resolveWithin source catalog depth) compositional_framing
          fun k _ => ih k
      cases resolved_of_from hrun with
      | unknown hfind => exact framed_refl
      | kept hfind hsettled => exact framed_refl
      | cycle hfind hsettled hactive => exact ⟨rfl, fun _ _ h => h, fun _ _ h => .inl h⟩
      | raw hfind hsettled hactive => exact framed_settle hfind hsettled hactive
      | default hfind hsettled hactive => exact framed_settle hfind hsettled hactive
      | @inferred _ rule value q hfind hsettled hactive _ _ h =>
          have hq := heval rule _ _ _ h
          have hleft := hq.leave (.inferred key value)
          have hunsettled : q.settled? key = none :=
            hq.settled?_of_mem_active hsettled (by simp)
          exact hleft.trans (framed_settle hfind hunsettled (hleft.active_eq ▸ hactive))
      | @failed _ rule _ _ hfind hsettled hactive _ _ h =>
          exact (heval rule _ _ _ h).leave _

theorem Inference.framing_eval (rule : Inference) (depth : Nat) :
    Framing catalog (rule.eval source (resolveWithin source catalog depth)) :=
  rule.eval_related (g := resolveWithin source catalog depth) compositional_framing
    fun key _ => framing_resolveWithin depth key

variable {depth : Nat} {key : Text} {p p' : Progress} {outcome : Except ConfigError (Option Text)}

/-- Where only keys of the catalog have values, a failing resolution leaves its key without one. -/
theorem reflects_of_from (hp : p.Within catalog)
    (hrun : (resolveWithin source catalog depth key).from p = some (outcome, p')) :
    p'.Reflects key outcome := by
  cases depth with
  | zero => cases hrun
  | succ depth =>
      cases resolved_of_from hrun with
      | unknown hfind =>
          rw [Catalog.find?_eq_none_iff] at hfind
          show p.settled? key = none
          rw [Option.eq_none_iff_forall_ne_some]
          exact fun value hvalue => hfind (hp key value hvalue)
      | kept hfind hsettled => exact hsettled
      | cycle hfind hsettled hactive => exact hsettled
      | raw hfind hsettled hactive => simp [Progress.Reflects]
      | default hfind hsettled hactive => simp [Progress.Reflects]
      | inferred hfind hsettled hactive => simp [Progress.Reflects]
      | @failed _ rule _ _ hfind hsettled hactive _ _ h =>
          exact (rule.framing_eval depth _ _ _ h).settled?_of_mem_active hsettled (by simp)

/-- A value that is kept is what every resolution of its key gives. -/
theorem from_of_settled {value : Option Text} (hp : p.Within catalog)
    (hsettled : p.settled? key = some value) :
    (resolveWithin source catalog (depth + 1) key).from p = some (.ok value, p) := by
  cases hfind : catalog.find? key with
  | none => exact absurd (hp key value hsettled) (Catalog.find?_eq_none_iff.mp hfind)
  | some property => exact from_resolveWithin_of_settled hfind hsettled

/-- Where a rule is evaluated, the values that its evaluation leaves are left in the end. -/
theorem eval_of_ruleAt {rule : Inference} (hrule : ruleAt? source catalog p key = some rule)
    (hrun : (resolveWithin source catalog (depth + 1) key).from p = some (outcome, p')) :
    ∃ first q, (rule.eval source (resolveWithin source catalog depth)).from
        ((p.enter key).record (.started key)) = some (first, q) ∧
      ∀ k value, k ≠ key → q.settled? k = some value → p'.settled? k = some value := by
  obtain ⟨property, result, q, hfind, heval, -, rfl⟩ := closed_of_ruleAt hrule hrun
  obtain ⟨-, rfl⟩ := Catalog.mem_of_find? hfind
  refine ⟨result, q, heval, ?_⟩
  intro k value hk hvalue
  cases result with
  | ok first => simp [Progress.closed, hk, hvalue]
  | error e => exact hvalue

end Steps

/-! ## Resolutions of one key -/

section Course

variable {source : PropertyBag (Option Text)} {catalog : Catalog}

/-- A resolution comes to an outcome. -/
def Call.Gives (source : PropertyBag (Option Text)) (catalog : Catalog) (call : Call)
    (outcome : Except ConfigError (Option Text)) : Prop :=
  ∃ p', call.run source catalog = some (outcome, p')

/-- A resolution that comes after another one gives the value that it gave. -/
def Call.Repeats (source : PropertyBag (Option Text)) (catalog : Catalog) (first later : Call) :
    Prop :=
  later.key = first.key → ∀ value, first.Gives source catalog (.ok value) →
    later.Gives source catalog (.ok value)

/-- Resolutions that take place between two points give the values that are kept at the first, and
the values that they give are kept at the second.  Each of them leaves its key as it should be. -/
structure Remembers (source : PropertyBag (Option Text)) (catalog : Catalog) (p : Progress)
    (calls : List Call) (p' : Progress) : Prop where
  framed : Framed catalog p p'
  before : ∀ call ∈ calls, ∀ value, p.settled? call.key = some value →
    call.Gives source catalog (.ok value)
  after : ∀ call ∈ calls, ∀ value, call.Gives source catalog (.ok value) →
    p'.settled? call.key = some value
  between : calls.Pairwise (Call.Repeats source catalog)
  reflected : ∀ call ∈ calls, ∀ outcome q, call.run source catalog = some (outcome, q) →
    q.Reflects call.key outcome

variable {p q p' : Progress} {calls calls' : List Call}

theorem remembers_nil : Remembers source catalog p [] p :=
  ⟨framed_refl, by simp, by simp, .nil, by simp⟩

theorem Remembers.trans (h : Remembers source catalog p calls q)
    (h' : Remembers source catalog q calls' p') :
    Remembers source catalog p (calls ++ calls') p' := by
  refine ⟨h.framed.trans h'.framed, ?_, ?_, ?_, ?_⟩
  · intro call hcall value hvalue
    rcases List.mem_append.mp hcall with hcall | hcall
    · exact h.before call hcall value hvalue
    · exact h'.before call hcall value (h.framed.kept _ value hvalue)
  · intro call hcall value hgives
    rcases List.mem_append.mp hcall with hcall | hcall
    · exact h'.framed.kept _ value (h.after call hcall value hgives)
    · exact h'.after call hcall value hgives
  · rw [List.pairwise_append]
    refine ⟨h.between, h'.between, ?_⟩
    intro first hfirst later hlater hkey value hgives
    have hvalue := h.after first hfirst value hgives
    exact h'.before later hlater value (hkey ▸ hvalue)
  · intro call hcall
    rcases List.mem_append.mp hcall with hcall | hcall
    · exact h.reflected call hcall
    · exact h'.reflected call hcall

variable {depth : Nat} {key : Text} {outcome : Except ConfigError (Option Text)}

theorem remembers_singleton (hp : p.Within catalog)
    (hrun : (resolveWithin source catalog (depth + 1) key).from p = some (outcome, p')) :
    Remembers source catalog p [⟨depth + 1, key, p⟩] p' := by
  refine ⟨framing_resolveWithin _ _ p outcome p' hrun, ?_, ?_, List.pairwise_singleton _ _, ?_⟩
  · intro call hcall value hvalue
    obtain rfl := List.mem_singleton.mp hcall
    exact ⟨p, from_of_settled hp hvalue⟩
  · intro call hcall value ⟨q, hgives⟩
    obtain rfl := List.mem_singleton.mp hcall
    have hgives' : some (outcome, p') = some (.ok value, q) := hrun.symm.trans hgives
    cases hgives'
    exact reflects_of_from hp hrun
  · intro call hcall result q hresult
    obtain rfl := List.mem_singleton.mp hcall
    exact reflects_of_from hp hresult

/-- The resolutions that the rule of a key asks for do not resolve the key itself. -/
theorem Remembers.own (hp : p.Within catalog)
    (hrun : (resolveWithin source catalog (depth + 1) key).from p = some (outcome, p'))
    (hidle : p.settled? key = none)
    (h : Remembers source catalog ((p.enter key).record (.started key)) calls q)
    (hleft : ∀ k value, k ≠ key → q.settled? k = some value → p'.settled? k = some value) :
    Remembers source catalog p (calls ++ [⟨depth + 1, key, p⟩]) p' := by
  have hown : Remembers source catalog p [⟨depth + 1, key, p⟩] p' := remembers_singleton hp hrun
  have hne (call : Call) (hcall : call ∈ calls) (value : Option Text)
      (hgives : call.Gives source catalog (.ok value)) : call.key ≠ key := by
    rintro rfl
    have hunsettled := h.framed.settled?_of_mem_active hidle (by simp)
    rw [h.after call hcall value hgives] at hunsettled
    cases hunsettled
  refine ⟨hown.framed, ?_, ?_, ?_, ?_⟩
  · intro call hcall value hvalue
    rcases List.mem_append.mp hcall with hcall | hcall
    · exact h.before call hcall value hvalue
    · exact hown.before call hcall value hvalue
  · intro call hcall value hgives
    rcases List.mem_append.mp hcall with hcall | hcall
    · exact hleft _ value (hne call hcall value hgives) (h.after call hcall value hgives)
    · exact hown.after call hcall value hgives
  · rw [List.pairwise_append]
    refine ⟨h.between, hown.between, ?_⟩
    intro first hfirst later hlater hkey value hgives
    obtain rfl := List.mem_singleton.mp hlater
    exact absurd hkey.symm (hne first hfirst value hgives)
  · intro call hcall
    rcases List.mem_append.mp hcall with hcall | hcall
    · exact h.reflected call hcall
    · exact hown.reflected call hcall

theorem remembers_courseWithin (hp : p.Within catalog)
    (hrun : (resolveWithin source catalog depth key).from p = some (outcome, p')) :
    Remembers source catalog p (courseWithin source catalog depth key p) p' := by
  induction depth generalizing key p outcome p' with
  | zero => cases hrun
  | succ depth ih =>
      cases hrule : ruleAt? source catalog p key with
      | none =>
          rw [courseWithin_of_no_rule hrule]
          exact remembers_singleton hp hrun
      | some rule =>
          obtain ⟨first, q, heval, hleft⟩ := eval_of_ruleAt hrule hrun
          rw [courseWithin_of_rule hrule]
          refine Remembers.own hp hrun (ruleAt?_eq_some_iff.mp hrule).1 ?_ hleft
          refine rule.keeps_lookups (I := fun q made => Remembers source catalog
            ((p.enter key).record (.started key))
            (made.flatMap fun lookup => courseWithin source catalog depth lookup.1 lookup.2) q)
            ?_ remembers_nil heval
          intro k _ q made result q' hmade hresult
          have hq : q.Within catalog := hmade.framed.within hp
          rw [List.flatMap_append, List.flatMap_singleton]
          exact hmade.trans (ih hq hresult)

/-- The resolvers of a bag and a catalog between the requests of a session, and what they keep. -/
abbrev RestsWithin (source : PropertyBag (Option Text)) (catalog : Catalog) : Resolver → Prop :=
  ResolverOf source catalog fun p => p.active = [] ∧ p.Within catalog

theorem RestsWithin.courseFrom {r : Resolver} (hr : RestsWithin source catalog r) (top : Text) :
    Remembers source catalog r.progress (r.courseFrom top) (r.resolveFrom top).2 := by
  obtain ⟨rfl, rfl, -, hwithin⟩ := hr
  exact remembers_courseWithin hwithin (r.from_resolveFrom top)

theorem restsWithin_resolve (r : Resolver) (key : Text) (hr : RestsWithin source catalog r) :
    RestsWithin source catalog ((Resolver.resolve key).run.run r).2 := by
  have hframed := (hr.courseFrom key).framed
  obtain ⟨hsource, hcatalog, hactive, hwithin⟩ := hr
  rw [run_resolve]
  exact ⟨hsource, hcatalog, hframed.active_eq.trans hactive, hframed.within hwithin⟩

theorem RestsWithin.course {r : Resolver} (hr : RestsWithin source catalog r) (keys : List Text) :
    Remembers source catalog r.progress (r.course keys) (r.afterResolving keys).progress := by
  induction keys generalizing r with
  | nil => exact remembers_nil
  | cons key keys ih =>
      have hfirst := hr.courseFrom key
      have hrest := ih (restsWithin_resolve r key hr)
      unfold Resolver.course Resolver.afterResolving
      rw [run_resolve] at hrest ⊢
      exact hfirst.trans hrest

end Course

/-! ## Sessions -/

section Sessions

variable {source : PropertyBag (Option Text)} {catalog : Catalog}

theorem Session.after_resolves (s : Session) (requests : List Session.Request) :
    ∃ keys, (s.after requests).resolver = s.resolver.afterResolving keys := by
  induction requests generalizing s with
  | nil => exact ⟨[], rfl⟩
  | cons request requests ih =>
      obtain ⟨first, hfirst, -⟩ := s.handle_resolves request
      obtain ⟨rest, hrest⟩ := ih (s.handle request).2
      refine ⟨first ++ rest, ?_⟩
      rw [Resolver.afterResolving_append, ← hfirst]
      exact hrest

theorem restsWithin_new : RestsWithin source catalog (.new source catalog) :=
  ⟨rfl, rfl, rfl, fun _ _ h => by cases h⟩

theorem RestsWithin.after {s : Session} (hs : RestsWithin source catalog s.resolver)
    (requests : List Session.Request) : RestsWithin source catalog (s.after requests).resolver :=
  Session.after_keeps restsWithin_resolve hs requests

theorem RestsWithin.framed_after {s : Session} (hs : RestsWithin source catalog s.resolver)
    (requests : List Session.Request) :
    Framed catalog s.resolver.progress (s.after requests).resolver.progress := by
  obtain ⟨keys, hkeys⟩ := s.after_resolves requests
  rw [hkeys]
  exact (hs.course keys).framed

theorem RestsWithin.reflects {r : Resolver} (hr : RestsWithin source catalog r) (key : Text) :
    ((Resolver.resolve key).run.run r).2.progress.Reflects key
      ((Resolver.resolve key).run.run r).1 := by
  obtain ⟨rfl, rfl, -, hwithin⟩ := hr
  rw [run_resolve]
  exact reflects_of_from hwithin (r.from_resolveFrom key)

theorem handle_resolve (s : Session) (key : Text) :
    s.handle (.resolve key) =
      (((Resolver.resolve key).run.run s.resolver).1.map .value,
        { s with resolver := ((Resolver.resolve key).run.run s.resolver).2 }) :=
  rfl

theorem RestsWithin.handle_of_settled {s : Session} (hs : RestsWithin source catalog s.resolver)
    {key : Text} {value : Option Text}
    (hsettled : s.resolver.progress.settled? key = some value) :
    (s.handle (.resolve key)).1 = .ok (.value value) := by
  obtain ⟨rfl, rfl, -, hwithin⟩ := hs
  have hrun := s.resolver.from_resolveFrom key
  rw [from_of_settled hwithin hsettled] at hrun
  rw [handle_resolve, run_resolve, ← Option.some.inj hrun]
  rfl

theorem RestsWithin.settled?_of_handle {s : Session} (hs : RestsWithin source catalog s.resolver)
    {key : Text} {value : Option Text}
    (h : (s.handle (.resolve key)).1 = .ok (.value value)) :
    (s.handle (.resolve key)).2.resolver.progress.settled? key = some value := by
  have hreflects := hs.reflects key
  rw [handle_resolve] at h ⊢
  generalize (Resolver.resolve key).run.run s.resolver = result at h hreflects
  obtain ⟨outcome, r⟩ := result
  cases outcome with
  | error e => cases h
  | ok v =>
      cases h
      exact hreflects

end Sessions

/-- In every state of a session the bag is the one that was handed over, no key is active, and only
keys of the catalog have values.  Every request leaves the bag and the active keys as they were and
keeps all values, and so does every resolution that takes place on its behalf and every evaluation
of a rule, whether they fail or not; a key that cannot be resolved has no value.  Of the resolutions
of one key, in the whole course of a session, all that come after one that gives a value give that
value. -/
theorem resolution_discipline (source : PropertyBag (Option Text)) (catalog : Catalog)
    (requests : List Session.Request) :
    let s := (Session.start source catalog).after requests
    (s.resolver.source = source ∧ s.resolver.progress.active = [] ∧
        s.resolver.progress.Within catalog) ∧
      (∀ request, (s.handle request).2.resolver.source = source ∧
        Framed catalog s.resolver.progress (s.handle request).2.resolver.progress) ∧
      (∀ key, ((Resolver.resolve key).run.run s.resolver).2.progress.Reflects key
        ((Resolver.resolve key).run.run s.resolver).1) ∧
      (∀ top, ∀ call ∈ s.resolver.courseFrom top, ∃ outcome p',
        call.run source catalog = some (outcome, p') ∧ Framed catalog call.progress p' ∧
          p'.Reflects call.key outcome) ∧
      (∀ (rule : Inference) (p : Progress), ∃ outcome p',
        (rule.eval source (resolveWithin source catalog (catalog.keys.length + 1))).from p =
          some (outcome, p') ∧ Framed catalog p p') ∧
      (∃ keys, s.resolver = (Resolver.new source catalog).afterResolving keys ∧
        ∀ more, ((Resolver.new source catalog).course (keys ++ more)).Pairwise
          (Call.Repeats source catalog)) ∧
      ∀ key value, (s.handle (.resolve key)).1 = .ok (.value value) → ∀ later,
        let s' := (s.handle (.resolve key)).2.after later
        (s'.handle (.resolve key)).1 = .ok (.value value) ∧
          ∀ top, ∀ call ∈ s'.resolver.courseFrom top, call.key = key →
            call.Gives source catalog (.ok value) := by
  intro s
  have hs : RestsWithin source catalog s.resolver := restsWithin_new.after requests
  refine ⟨⟨hs.source_eq, hs.progress⟩, ?_, hs.reflects, ?_, ?_, ?_, ?_⟩
  · intro request
    exact ⟨(hs.after [request]).source_eq, hs.framed_after [request]⟩
  · intro top call hcall
    have hrests : RestsOn source catalog s.resolver := restsOn_after requests
    obtain ⟨outcome, p', hrun, -⟩ := (hrests.sound hcall).ends
    exact ⟨outcome, p', hrun, framing_resolveWithin _ _ _ outcome p' hrun,
      (hs.courseFrom top).reflected call hcall outcome p' hrun⟩
  · intro rule p
    have hlookup (key : Text) : Balanced p.active
        (resolveWithin source catalog (catalog.keys.length + 1) key) :=
      balanced_resolveWithin source catalog (Nat.lt_succ_of_le (List.length_filter_le _ _)) key
    obtain ⟨outcome, p', hrun, -⟩ := rule.balanced_eval hlookup p rfl
    exact ⟨outcome, p', hrun, rule.framing_eval _ p outcome p' hrun⟩
  · obtain ⟨keys, hkeys⟩ := (Session.start source catalog).after_resolves requests
    exact ⟨keys, hkeys, fun more => (restsWithin_new.course (keys ++ more)).between⟩
  · intro key value h later s'
    have hnext : RestsWithin source catalog (s.handle (.resolve key)).2.resolver :=
      hs.after [.resolve key]
    have hs' : RestsWithin source catalog s'.resolver := hnext.after later
    have hsettled : s'.resolver.progress.settled? key = some value :=
      (hnext.framed_after later).kept key value (hs.settled?_of_handle h)
    refine ⟨hs'.handle_of_settled hsettled, ?_⟩
    intro top call hcall hkey
    exact (hs'.courseFrom top).before call hcall value (hkey ▸ hsettled)

/-- A property that catches the failure of one that comes back to it, and both refer to a third. -/
def shelteredCatalog : Catalog :=
  ⟨[ { key := "a"
       infer? := some (.attempt (.append (.resolve "b") (.resolve "c")) (.const (some "x"))) },
      { key := "b", default? := some "y", infer? := some (.raw "d") },
      { key := "c", infer? := some (.append (.resolve "b") (.list "a")) } ],
    by decide +kernel⟩

/-- The value that the failing rule came by is given again, also when the bag has changed. -/
theorem repeats_of_shelteredCatalog :
    let s := (Session.start .empty shelteredCatalog).after [.resolve "a"]
    (s.handle (.resolve "b")).1 = .ok (.value (some "y")) ∧
      ((((s.handle (.resolve "b")).2.after
        [.changeBag (.ofList [("b", some "z")]), .resolve "c"]).handle (.resolve "b")).1 =
          .ok (.value (some "y"))) := by
  intro s
  have hvalue : (s.handle (.resolve "b")).1 = .ok (.value (some "y")) := rfl
  have hdiscipline := resolution_discipline .empty shelteredCatalog [.resolve "a"]
  obtain ⟨-, -, -, -, -, -, hlater⟩ := hdiscipline
  exact ⟨hvalue, (hlater "b" (some "y") hvalue _).1⟩

end TableSync.Config
