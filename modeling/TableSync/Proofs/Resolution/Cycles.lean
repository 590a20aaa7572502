import Mathlib.Data.List.Chain
import TableSync.Proofs.Resolution.Course

/-!
# Depth and cycles of resolution

While a key is looked up, the keys that are active form a trail: it starts with the key that the
caller asked for, repeats none, and the rule of each key refers to the next one, the last rule to
the key that is looked up.  So no more keys are ever active than there are in the catalog, and
where a key is found on its own trail, the trail closes a cycle of the catalog.
-/

namespace TableSync.Config

/-- The rule of a property refers to another key. -/
def Catalog.Refers (catalog : Catalog) (key other : Text) : Prop :=
  ∃ property rule, catalog.find? key = some property ∧ property.infer? = some rule ∧
    other ∈ rule.references

/-- A property that is not set in the bag and has a rule. -/
def Catalog.Infers (catalog : Catalog) (source : PropertyBag (Option Text)) (key : Text) : Prop :=
  source.get? key = none ∧ ∃ property rule, catalog.find? key = some property ∧
    property.infer? = some rule

/-- The active keys where a key is looked up on behalf of the one that the caller asked for. -/
structure Trail (source : PropertyBag (Option Text)) (catalog : Catalog) (top : Text)
    (active : List Text) (key : Text) : Prop where
  nodup : active.Nodup
  infers : ∀ k ∈ active, catalog.Infers source k
  linked : (active ++ [key]).IsChain catalog.Refers
  head : (active ++ [key]).head? = some top

section Trail

variable {source : PropertyBag (Option Text)} {catalog : Catalog} {top key other : Text}
  {active : List Text} {property : Property} {rule : Inference}

theorem trail_nil : Trail source catalog top [] top :=
  ⟨List.nodup_nil, by simp, List.isChain_singleton top, rfl⟩

/-- A rule looks up the keys that it refers to, its own key being the last on the trail. -/
theorem Trail.append (h : Trail source catalog top active key)
    (hfind : catalog.find? key = some property) (hsource : source.get? key = none)
    (hinfer : property.infer? = some rule) (hactive : key ∉ active)
    (hother : other ∈ rule.references) :
    Trail source catalog top (active ++ [key]) other := by
  refine ⟨?_, ?_, ?_, ?_⟩
  · rw [List.nodup_append]
    refine ⟨h.nodup, by simp, ?_⟩
    intro a ha b hb hab
    rw [List.mem_singleton] at hb
    exact hactive (hb ▸ hab ▸ ha)
  · intro k hk
    rcases List.mem_append.mp hk with hk | hk
    · exact h.infers k hk
    · rw [List.mem_singleton.mp hk]
      exact ⟨hsource, property, rule, hfind, hinfer⟩
  · rw [List.isChain_append]
    refine ⟨h.linked, List.isChain_singleton other, ?_⟩
    intro a ha b hb
    have hak : key = a := by simpa using ha
    have hbo : other = b := by simpa using hb
    exact hak ▸ hbo ▸ ⟨property, rule, hfind, hinfer, hother⟩
  · rw [List.head?_append, h.head]
    rfl

theorem Trail.subset (h : Trail source catalog top active key) : active ⊆ catalog.keys := by
  intro k hk
  obtain ⟨-, _, _, hfind, -⟩ := h.infers k hk
  exact Catalog.mem_keys_of_find? hfind

/-- No more keys are active than there are in the catalog. -/
theorem Trail.length_le (h : Trail source catalog top active key) :
    active.length ≤ catalog.keys.length :=
  h.nodup.length_le_of_subset h.subset

/-- There is room for one more as long as a key is not active. -/
theorem Trail.length_lt (h : Trail source catalog top active key) (hkey : key ∈ catalog.keys)
    (hactive : key ∉ active) : active.length < catalog.keys.length := by
  have hnodup : (key :: active).Nodup := List.nodup_cons.mpr ⟨hactive, h.nodup⟩
  have hsubset : key :: active ⊆ catalog.keys := List.cons_subset.mpr ⟨hkey, h.subset⟩
  exact hnodup.length_le_of_subset hsubset

/-- The chain of a cycle that is met on behalf of a key: it starts with that key, repeats no key,
and leads along the rules of properties that are not set back to one of its keys, which lies on a
cycle. -/
structure CycleChain (source : PropertyBag (Option Text)) (catalog : Catalog) (top key : Text)
    (chain : List Text) : Prop where
  nodup : chain.Nodup
  head : chain.head? = some top
  mem : key ∈ chain
  infers : ∀ k ∈ chain, catalog.Infers source k
  linked : (chain ++ [key]).IsChain catalog.Refers
  cycle : ∃ before after, chain = before ++ key :: after ∧
    (key :: after ++ [key]).IsChain catalog.Refers

theorem Trail.closes (h : Trail source catalog top active key) (hactive : key ∈ active) :
    CycleChain source catalog top key active := by
  obtain ⟨before, after, hsplit⟩ := List.append_of_mem hactive
  refine ⟨h.nodup, ?_, hactive, h.infers, h.linked, before, after, hsplit, ?_⟩
  · have hhead := h.head
    cases active with
    | nil => cases hactive
    | cons first rest => exact hhead
  · have hlinked := h.linked
    rw [hsplit, List.append_assoc] at hlinked
    exact hlinked.right_of_append

end Trail

/-! ## Every resolution of a session -/

section Depth

variable {source : PropertyBag (Option Text)} {catalog : Catalog}

/-- A resolution on a trail, with more depth left than there are keys to become active. -/
structure Call.Sound (source : PropertyBag (Option Text)) (catalog : Catalog) (top : Text)
    (call : Call) : Prop where
  trail : Trail source catalog top call.progress.active call.key
  depth : (idle catalog call.progress.active).length < call.depth

theorem Call.Sound.ends {top : Text} {call : Call} (h : call.Sound source catalog top) :
    ∃ outcome p', call.run source catalog = some (outcome, p') ∧
      p'.active = call.progress.active :=
  balanced_resolveWithin source catalog h.depth call.key call.progress rfl

/-- The lookups of the rule of a key go on from its trail. -/
theorem Call.Sound.lookups {top key : Text} {depth : Nat} {p : Progress} {rule : Inference}
    (h : Call.Sound source catalog top ⟨depth + 1, key, p⟩)
    (hrule : ruleAt? source catalog p key = some rule) :
    ∀ lookup ∈ rule.lookups source (resolveWithin source catalog depth)
        ((p.enter key).record (.started key)),
      Call.Sound source catalog top ⟨depth, lookup.1, lookup.2⟩ := by
  obtain ⟨-, hactive, hsource, property, hfind, hinfer⟩ := ruleAt?_eq_some_iff.mp hrule
  have htrail : Trail source catalog top p.active key := h.trail
  have hdepth : (idle catalog p.active).length < depth + 1 := h.depth
  have hless := length_idle_append_lt (Catalog.mem_keys_of_find? hfind) hactive
  have hdepth' : (idle catalog (p.active ++ [key])).length < depth := by omega
  have hbalanced (k : Text) :
      Balanced (p.active ++ [key]) (resolveWithin source catalog depth k) :=
    balanced_resolveWithin source catalog hdepth' k
  have heval : Balanced (p.active ++ [key])
      (rule.eval source (resolveWithin source catalog depth)) :=
    rule.balanced_eval hbalanced
  obtain ⟨outcome, q, hrun, -⟩ := heval ((p.enter key).record (.started key)) rfl
  have hsound := rule.keeps_lookups (I := fun q made => q.active = p.active ++ [key] ∧
    ∀ lookup ∈ made, Call.Sound source catalog top ⟨depth, lookup.1, lookup.2⟩) ?_
    ⟨rfl, by simp⟩ hrun
  · exact hsound.2
  · intro k hk q made result q' ⟨hq, hmade⟩ hresult
    obtain ⟨_, _, hends, hq'⟩ := hbalanced k q hq
    rw [hends] at hresult
    cases hresult
    refine ⟨hq', ?_⟩
    intro lookup hlookup
    rcases List.mem_append.mp hlookup with hlookup | hlookup
    · exact hmade lookup hlookup
    · rw [List.mem_singleton.mp hlookup]
      exact ⟨hq ▸ htrail.append hfind hsource hinfer hactive hk, hq ▸ hdepth'⟩

/-- All resolutions that take place on behalf of one on a trail are on trails themselves. -/
theorem Call.Sound.course {top key : Text} {depth : Nat} {p : Progress}
    (h : Call.Sound source catalog top ⟨depth, key, p⟩) :
    ∀ call ∈ courseWithin source catalog depth key p, call.Sound source catalog top := by
  induction depth generalizing key p with
  | zero => exact absurd h.depth (Nat.not_lt_zero _)
  | succ depth ih =>
      intro call hcall
      cases hrule : ruleAt? source catalog p key with
      | none =>
          rw [courseWithin_of_no_rule hrule] at hcall
          rw [List.mem_singleton.mp hcall]
          exact h
      | some rule =>
          rw [courseWithin_of_rule hrule, List.mem_append, List.mem_flatMap] at hcall
          rcases hcall with ⟨lookup, hlookup, hcall⟩ | hcall
          · exact ih (h.lookups hrule lookup hlookup) call hcall
          · rw [List.mem_singleton.mp hcall]
            exact h

/-- The resolvers of a bag and a catalog between the requests of a session. -/
abbrev RestsOn (source : PropertyBag (Option Text)) (catalog : Catalog) : Resolver → Prop :=
  ResolverOf source catalog fun p => p.active = []

theorem restsOn_resolve (r : Resolver) (key : Text) (hr : RestsOn source catalog r) :
    RestsOn source catalog ((Resolver.resolve key).run.run r).2 := by
  obtain ⟨outcome, p', hrun, hactive⟩ := balanced_resolveWithin r.source r.catalog
    (Nat.lt_succ_of_le (List.length_filter_le _ _)) key r.progress rfl
  rw [r.from_resolveFrom key] at hrun
  rw [run_resolve]
  refine ⟨hr.source_eq, hr.catalog_eq, ?_⟩
  show (r.resolveFrom key).2.active = []
  rw [Option.some.inj hrun, hactive]
  exact hr.progress

theorem restsOn_after (requests : List Session.Request) :
    RestsOn source catalog ((Session.start source catalog).after requests).resolver := by
  have hstart : RestsOn source catalog (Session.start source catalog).resolver :=
    ⟨rfl, rfl, rfl⟩
  exact Session.after_keeps restsOn_resolve hstart requests

/-- Whatever takes place between the requests of a session is on a trail from the key that the
caller asked for. -/
theorem RestsOn.sound {r : Resolver} (hr : RestsOn source catalog r) {top : Text} {call : Call}
    (hcall : call ∈ r.courseFrom top) : call.Sound source catalog top := by
  obtain ⟨rfl, rfl, hactive⟩ := hr
  refine Call.Sound.course ⟨?_, Nat.lt_succ_of_le (List.length_filter_le _ _)⟩ call hcall
  show Trail r.source r.catalog top r.progress.active top
  rw [hactive]
  exact trail_nil

/-! ### More depth -/

/-- A step that does the same as another one wherever some keys are active. -/
def Agree {α : Type} (active : List Text) (step other : Resolving α) : Prop :=
  Balanced active step ∧ ∀ p, p.active = active → step.from p = other.from p

theorem compositional_agree (active : List Text) :
    Inference.Compositional fun α (step other : Resolving α) => Agree active step other := by
  refine ⟨?_, ?_, ?_⟩
  · intro α a
    exact ⟨balanced_pure a, fun p _ => rfl⟩
  · intro α β step other next next' hstep hnext
    refine ⟨balanced_bind hstep.1 fun a => (hnext a).1, ?_⟩
    intro p hp
    obtain ⟨outcome, p', hrun, hp'⟩ := hstep.1 p hp
    rw [from_bind, from_bind, ← hstep.2 p hp, hrun]
    cases outcome with
    | ok a => exact (hnext a).2 p' hp'
    | error e => rfl
  · intro α step other fallback fallback' hstep hfallback
    refine ⟨balanced_tryCatch hstep.1 fun e => (hfallback e).1, ?_⟩
    intro p hp
    obtain ⟨outcome, p', hrun, hp'⟩ := hstep.1 p hp
    rw [from_tryCatch, from_tryCatch, ← hstep.2 p hp, hrun]
    cases outcome with
    | ok a => rfl
    | error e => exact (hfallback e).2 p' hp'

theorem compute_congr {active : List Text} {f g : Text → Resolving (Option Text)}
    (hlookup : ∀ key, Agree active (f key) (g key)) (property : Property) {p : Progress}
    (hp : p.active = active) : (compute source f property).from p =
      (compute source g property).from p := by
  cases hsource : source.get? property.key with
  | some value => rw [from_compute_of_raw p hsource, from_compute_of_raw p hsource]
  | none =>
      cases hinfer : property.infer? with
      | none =>
          rw [from_compute_of_default p hsource hinfer, from_compute_of_default p hsource hinfer]
      | some rule =>
          have heval : Agree active (rule.eval source f) (rule.eval source g) :=
            rule.eval_related (compositional_agree active) fun key _ => hlookup key
          have hsame := heval.2 (p.record (.started property.key)) hp
          rw [from_compute_of_rule p hsource hinfer, from_compute_of_rule p hsource hinfer, hsame]

/-- Depth beyond the number of keys that are not active makes no difference. -/
theorem agree_resolveWithin {depth depth' : Nat} {active : List Text}
    (hdepth : (idle catalog active).length < depth)
    (hdepth' : (idle catalog active).length < depth') (key : Text) :
    Agree active (resolveWithin source catalog depth key)
      (resolveWithin source catalog depth' key) := by
  induction depth generalizing depth' active key with
  | zero => omega
  | succ depth ih =>
      refine ⟨balanced_resolveWithin source catalog hdepth key, ?_⟩
      intro p hp
      subst hp
      obtain ⟨depth', rfl⟩ : ∃ d, depth' = d + 1 := ⟨depth' - 1, by omega⟩
      cases hfind : catalog.find? key with
      | none => rw [from_resolveWithin_of_unknown hfind, from_resolveWithin_of_unknown hfind]
      | some property =>
          cases hsettled : p.settled? key with
          | some value =>
              rw [from_resolveWithin_of_settled hfind hsettled,
                from_resolveWithin_of_settled hfind hsettled]
          | none =>
              by_cases hactive : key ∈ p.active
              · rw [from_resolveWithin_of_active hfind hsettled hactive,
                  from_resolveWithin_of_active hfind hsettled hactive]
              · have hless := length_idle_append_lt (Catalog.mem_keys_of_find? hfind) hactive
                have hlookup (k : Text) : Agree (p.active ++ [key])
                    (resolveWithin source catalog depth k)
                    (resolveWithin source catalog depth' k) := by
                  apply ih
                  · omega
                  · omega
                rw [from_resolveWithin_of_idle hfind hsettled hactive,
                  from_resolveWithin_of_idle hfind hsettled hactive,
                  compute_congr hlookup property rfl]

end Depth

/-! ## Cycle errors -/

section Errors

variable {source : PropertyBag (Option Text)} {catalog : Catalog}

/-- A step that leaves some keys active and fails with no other cycle than one that is met on
behalf of a key. -/
def MeetsCycles {α : Type} (source : PropertyBag (Option Text)) (catalog : Catalog) (top : Text)
    (active : List Text) (step : Resolving α) : Prop :=
  ∀ p, p.active = active → ∀ outcome p', step.from p = some (outcome, p') →
    p'.active = active ∧
      ∀ key chain, outcome = .error (.cycle key chain) → CycleChain source catalog top key chain

theorem compositional_meetsCycles (top : Text) (active : List Text) :
    Inference.Compositional fun α (step _ : Resolving α) =>
      MeetsCycles source catalog top active step := by
  refine ⟨?_, ?_, ?_⟩
  · intro α a p hp outcome p' hrun
    cases hrun
    exact ⟨hp, fun key chain h => by cases h⟩
  · intro α β step _ next _ hstep hnext p hp outcome p' hrun
    rcases ends_of_bind hrun with ⟨a, q, hfirst, hrest⟩ | ⟨e, hfirst, rfl⟩
    · exact hnext a q (hstep p hp _ q hfirst).1 outcome p' hrest
    · obtain ⟨hp', herror⟩ := hstep p hp _ p' hfirst
      exact ⟨hp', fun key chain h => herror key chain (by cases h; rfl)⟩
  · intro α step _ fallback _ hstep hfallback p hp outcome p' hrun
    rcases ends_of_tryCatch hrun with ⟨a, hfirst, rfl⟩ | ⟨e, q, hfirst, hrest⟩
    · exact ⟨(hstep p hp _ p' hfirst).1, fun key chain h => by cases h⟩
    · exact hfallback e q (hstep p hp _ q hfirst).1 outcome p' hrest

/-- A cycle is only ever reported for a key that is found on its own trail.  The keys that a rule
looks up are on the trail behind its own key. -/
theorem meetsCycles_resolveWithin {depth : Nat} {active : List Text} {top key : Text}
    (htrail : Trail source catalog top active key) :
    MeetsCycles source catalog top active (resolveWithin source catalog depth key) := by
  induction depth generalizing active key with
  | zero =>
      intro p _ outcome p' hrun
      cases hrun
  | succ depth ih =>
      intro p hp outcome p' hrun
      subst hp
      have heval {property : Property} {rule : Inference}
          (hfind : catalog.find? key = some property) (hactive : key ∉ p.active)
          (hsource : source.get? key = none) (hinfer : property.infer? = some rule) :
          MeetsCycles source catalog top (p.active ++ [key])
            (rule.eval source (resolveWithin source catalog depth)) := by
        apply rule.eval_related (g := resolveWithin source catalog depth)
          (compositional_meetsCycles top (p.active ++ [key]))
        intro other hother
        exact ih (htrail.append hfind hsource hinfer hactive hother)
      cases resolved_of_from hrun with
      | unknown hfind => exact ⟨rfl, fun k chain h => by cases h⟩
      | kept hfind hsettled => exact ⟨rfl, fun k chain h => by cases h⟩
      | cycle hfind hsettled hactive =>
          refine ⟨rfl, ?_⟩
          intro k chain h
          cases h
          exact htrail.closes hactive
      | raw hfind hsettled hactive hsource => exact ⟨rfl, fun k chain h => by cases h⟩
      | default hfind hsettled hactive hsource hinfer =>
          exact ⟨rfl, fun k chain h => by cases h⟩
      | inferred hfind hsettled hactive hsource hinfer h =>
          have hq := (heval hfind hactive hsource hinfer _ rfl _ _ h).1
          exact ⟨by simp [hq], fun k chain h => by cases h⟩
      | failed hfind hsettled hactive hsource hinfer h =>
          obtain ⟨hq, herror⟩ := heval hfind hactive hsource hinfer _ rfl _ _ h
          refine ⟨by simp [hq], ?_⟩
          intro k chain he
          cases he
          exact herror k chain rfl

theorem cycleChain_of_resolve {r : Resolver} (hr : RestsOn source catalog r) {top key : Text}
    {chain : List Text}
    (h : ((Resolver.resolve top).run.run r).1 = .error (.cycle key chain)) :
    CycleChain source catalog top key chain := by
  obtain ⟨rfl, rfl, hactive⟩ := hr
  rw [run_resolve] at h
  have hmeets := meetsCycles_resolveWithin trail_nil r.progress hactive _ _ (r.from_resolveFrom top)
  exact hmeets.2 key chain h

/-- A cycle that is met where a value is read is met where the value is resolved. -/
theorem resolve_eq_cycle_of_read {α : Type} {reading : Text → Option Text → Except ConfigError α}
    (hreading : Readable reading) {r : Resolver} {top key : Text} {chain : List Text}
    (h : ((read Resolver.resolve reading top).run.run r).1 = .error (.cycle key chain)) :
    ((Resolver.resolve top).run.run r).1 = .error (.cycle key chain) := by
  unfold read at h
  cases hrun : (Resolver.resolve top).run.run r with
  | mk outcome r' =>
      cases outcome with
      | error e =>
          rw [run_bind_error hrun] at h
          exact congrArg Except.error (Except.error.inj h)
      | ok value =>
          rw [run_bind_ok hrun, run_ofExcept] at h
          have hcycle := hreading top value _ h
          cases hcycle

theorem error_of_ask {α : Type} {s : Session} {access : Access α} {respond : α → Session.Response}
    {e : ConfigError} (h : (s.ask access respond).1 = .error e) :
    (access.run.run s.resolver).1 = .error e := by
  cases hrun : access.run.run s.resolver with
  | mk outcome r =>
      rw [Session.ask_eq hrun] at h
      exact map_eq_error_iff.mp h

/-- The requests that ask for one key. -/
def Session.Request.asksFor (top : Text) : List Session.Request :=
  [.resolve top, .list top, .flag top, .requiredText top]

theorem resolve_eq_cycle_of_asksFor {s : Session} {top key : Text} {chain : List Text}
    {request : Session.Request} (hrequest : request ∈ Session.Request.asksFor top)
    (h : (s.handle request).1 = .error (.cycle key chain)) :
    ((Resolver.resolve top).run.run s.resolver).1 = .error (.cycle key chain) := by
  simp only [Session.Request.asksFor, List.mem_cons, List.not_mem_nil, or_false] at hrequest
  rcases hrequest with rfl | rfl | rfl | rfl
  · exact error_of_ask h
  · exact resolve_eq_cycle_of_read readable_itemsOf (error_of_ask h)
  · exact resolve_eq_cycle_of_read readable_flagOf (error_of_ask h)
  · exact resolve_eq_cycle_of_read readable_textOf (error_of_ask h)

end Errors

/-- In every state of a session each resolution ends, those that rules ask for included, with no
key active twice and no more keys active than there are in the catalog; one more than their number
is depth enough, and more depth changes nothing.  A cycle error that answers a request for a key
carries a chain from that key along the rules to a cycle of the catalog, and so does one that
answers any other request. -/
theorem resolution_depth_and_cycles (source : PropertyBag (Option Text)) (catalog : Catalog)
    (requests : List Session.Request) :
    let s := (Session.start source catalog).after requests
    (∀ top, ∀ call ∈ s.resolver.courseFrom top,
      call.progress.active.Nodup ∧ call.progress.active ⊆ catalog.keys ∧
        call.progress.active.length ≤ catalog.keys.length ∧
        (call.key ∈ catalog.keys → call.key ∉ call.progress.active →
          call.progress.active.length < catalog.keys.length) ∧
        ∃ outcome p', call.run source catalog = some (outcome, p')) ∧
      (∀ key depth, catalog.keys.length < depth →
        (resolveWithin source catalog depth key).from s.resolver.progress =
          some (s.resolver.resolveFrom key)) ∧
      (∀ top, ∀ request ∈ Session.Request.asksFor top, ∀ key chain,
        (s.handle request).1 = .error (.cycle key chain) →
          CycleChain source catalog top key chain) ∧
      ∀ request key chain, (s.handle request).1 = .error (.cycle key chain) →
        ∃ top, CycleChain source catalog top key chain := by
  intro s
  have hs : RestsOn source catalog s.resolver := restsOn_after requests
  refine ⟨?_, ?_, ?_, ?_⟩
  · intro top call hcall
    have hsound := hs.sound hcall
    obtain ⟨outcome, p', hrun, -⟩ := hsound.ends
    exact ⟨hsound.trail.nodup, hsound.trail.subset, hsound.trail.length_le,
      hsound.trail.length_lt, outcome, p', hrun⟩
  · intro key depth hdepth
    have hidle : (idle catalog s.resolver.progress.active).length ≤ catalog.keys.length :=
      List.length_filter_le _ _
    have hagree : Agree s.resolver.progress.active (resolveWithin source catalog depth key)
        (resolveWithin source catalog (catalog.keys.length + 1) key) :=
      agree_resolveWithin (Nat.lt_of_le_of_lt hidle hdepth) (Nat.lt_succ_of_le hidle) key
    rw [hagree.2 s.resolver.progress rfl, ← s.resolver.from_resolveFrom key, hs.source_eq,
      hs.catalog_eq]
  · intro top request hrequest key chain h
    exact cycleChain_of_resolve hs (resolve_eq_cycle_of_asksFor hrequest h)
  · intro request key chain h
    obtain ⟨keys, -, hlast⟩ := s.handle_resolves request
    rcases hlast _ h with hreading | ⟨before, top, -, htop⟩
    · cases hreading
    · have hbefore := Resolver.afterResolving_keeps restsOn_resolve hs before
      exact ⟨top, cycleChain_of_resolve hbefore htop⟩

/-- A property that catches its own cycle and leads to another one. -/
def knottedCatalog : Catalog :=
  ⟨[ { key := "a"
       infer? := some (.append (.attempt (.resolve "a") (.const (some "x"))) (.resolve "b")) },
      { key := "b", infer? := some (.list "c") },
      { key := "c", default? := some "d", infer? := some (.resolve "b") } ],
    by decide +kernel⟩

/-- The chain starts with the key that was asked for, although the cycle does not. -/
theorem cycle_of_knottedCatalog :
    (((Session.start .empty knottedCatalog).after [.resolve "c"]).handle (.flag "a")).1 =
        .error (.cycle "b" ["a", "b", "c"]) ∧
      CycleChain .empty knottedCatalog "a" "b" ["a", "b", "c"] := by
  have hcycle : (((Session.start .empty knottedCatalog).after [.resolve "c"]).handle
      (.flag "a")).1 = .error (.cycle "b" ["a", "b", "c"]) := rfl
  have hasked : Session.Request.flag "a" ∈ Session.Request.asksFor "a" := by
    simp [Session.Request.asksFor]
  exact ⟨hcycle, (resolution_depth_and_cycles .empty knottedCatalog [.resolve "c"]).2.2.1 "a" _
    hasked "b" _ hcycle⟩

end TableSync.Config
