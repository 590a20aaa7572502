import TableSync.Proofs.Resolution.Requests

/-!
# Values by recursion on a rank

A catalog is ranked where the rules of each key refer to keys of lower rank only, as far as they
refer to keys of the catalog at all.  Then the value of a key is defined by plain recursion, and a
resolver in any state gives that value, whatever its rules catch.

Two facts carry the proof from one resolution to the next: every kept value is the value by
recursion, and every active key is of higher rank than the key that is resolved.  So resolution
never comes back to an active key, and nothing is ever recorded that a rule might have caught.
-/

namespace TableSync.Config

/-- A rank under which rules refer to keys of lower rank, or to keys outside the catalog. -/
def Catalog.RankedBy (catalog : Catalog) (rank : Text → Nat) : Prop :=
  ∀ property ∈ catalog.properties, ∀ rule ∈ property.infer?, ∀ key ∈ rule.references,
    key ∈ catalog.keys → rank key < rank property.key

instance (catalog : Catalog) (rank : Text → Nat) : Decidable (catalog.RankedBy rank) :=
  inferInstanceAs (Decidable (∀ property ∈ catalog.properties, ∀ rule ∈ property.infer?,
    ∀ key ∈ rule.references, key ∈ catalog.keys → rank key < rank property.key))

/-- The value of a key by recursion on its rank.  Only keys of lower rank are looked up; a rule of
a ranked catalog refers to no others but those outside the catalog. -/
def rankedValue (source : PropertyBag (Option Text)) (catalog : Catalog) (rank : Text → Nat)
    (key : Text) : Except ConfigError (Option Text) :=
  match catalog.find? key with
  | none => .error (.unknownProperty key)
  | some property =>
      property.valueBy source fun other =>
        if rank other < rank key then rankedValue source catalog rank other
        else .error (.unknownProperty other)
termination_by rank key

/-! ### The recursion -/

/-- The value of a rule hangs on the keys that it refers to and on no others. -/
theorem Inference.eval_congr {source : PropertyBag (Option Text)}
    {f g : Text → Except ConfigError (Option Text)} (rule : Inference)
    (hfg : ∀ key ∈ rule.references, f key = g key) : rule.eval source f = rule.eval source g := by
  have hR : Compositional fun α (x y : Except ConfigError α) => x = y := by
    refine ⟨fun a => rfl, ?_, ?_⟩
    · intro α β x y f g hxy hfg
      rw [hxy, funext hfg]
    · intro α x y f g hxy hfg
      rw [hxy, funext hfg]
  exact rule.eval_related hR hfg

theorem Property.valueBy_congr {property : Property} {source : PropertyBag (Option Text)}
    {f g : Text → Except ConfigError (Option Text)}
    (hfg : ∀ rule ∈ property.infer?, ∀ key ∈ rule.references, f key = g key) :
    property.valueBy source f = property.valueBy source g := by
  unfold valueBy
  cases source.get? property.key with
  | some value => rfl
  | none =>
      cases hrule : property.infer? with
      | none => rfl
      | some rule => simp only [rule.eval_congr (hfg rule hrule)]

section Ranked

variable {source : PropertyBag (Option Text)} {catalog : Catalog} {rank : Text → Nat}

theorem rankedValue_of_find?_eq_none {key : Text} (hfind : catalog.find? key = none) :
    rankedValue source catalog rank key = .error (.unknownProperty key) := by
  rw [rankedValue, hfind]

/-- The value of a key in the catalog is that of its property, given the values of all keys. -/
theorem rankedValue_of_find?_eq_some (hrank : catalog.RankedBy rank) {key : Text}
    {property : Property} (hfind : catalog.find? key = some property) :
    rankedValue source catalog rank key =
      property.valueBy source (rankedValue source catalog rank) := by
  obtain ⟨hmem, rfl⟩ := Catalog.mem_of_find? hfind
  rw [rankedValue, hfind]
  refine Property.valueBy_congr fun rule hrule other hother => ?_
  split
  · rfl
  · rename_i hlow
    have hout : other ∉ catalog.keys :=
      fun hin => hlow (hrank property hmem rule hrule other hother hin)
    exact (rankedValue_of_find?_eq_none (Catalog.find?_eq_none_iff.mpr hout)).symm

/-! ### Resolution -/

/-- Progress whose kept values are the values by recursion, with no cycle on record. -/
structure Agreeing (source : PropertyBag (Option Text)) (catalog : Catalog) (rank : Text → Nat)
    (active : List Text) (p : Progress) : Prop where
  active_eq : p.active = active
  settled : ∀ key value, p.settled? key = some value →
    rankedValue source catalog rank key = .ok value
  acyclic : ∀ key chain, .cycled key chain ∉ p.trace

variable {active : List Text} {p : Progress} {key : Text}

theorem unrecorded_agreeing : Unrecorded (Agreeing source catalog rank active) := by
  intro p event hevent hp
  refine ⟨hp.active_eq, hp.settled, fun key chain hmem => ?_⟩
  rcases List.mem_append.mp hmem with hmem | hmem
  · exact hp.acyclic key chain hmem
  · exact hevent key chain (List.mem_singleton.mp hmem).symm

theorem Agreeing.enter (hp : Agreeing source catalog rank active p) (key : Text) :
    Agreeing source catalog rank (active ++ [key]) (p.enter key) :=
  ⟨by simp [hp.active_eq], hp.settled, hp.acyclic⟩

theorem Agreeing.leave (hp : Agreeing source catalog rank (active ++ [key]) p) :
    Agreeing source catalog rank active p.leave :=
  ⟨by simp [hp.active_eq], hp.settled, hp.acyclic⟩

theorem Agreeing.settle {value : Option Text} (hp : Agreeing source catalog rank active p)
    (hvalue : rankedValue source catalog rank key = .ok value) :
    Agreeing source catalog rank active (p.settle key value) := by
  refine ⟨hp.active_eq, fun k v hk => ?_, hp.acyclic⟩
  rw [Progress.settled?_settle] at hk
  split at hk
  · rename_i hkey
    cases hk
    rw [hkey]
    exact hvalue
  · exact hp.settled k v hk

/-- Resolution under keys of higher rank comes to the value by recursion. -/
theorem simulates_rankedValue (hrank : catalog.RankedBy rank) {depth : Nat}
    (hdepth : (idle catalog active).length < depth)
    (hactive : ∀ k ∈ active, key ∈ catalog.keys → rank key < rank k) :
    Simulates (Agreeing source catalog rank active) (resolveWithin source catalog depth key)
      fun _ => rankedValue source catalog rank key := by
  induction depth generalizing active key with
  | zero => omega
  | succ depth ih =>
      intro p hp
      obtain rfl := hp.active_eq
      cases hfind : catalog.find? key with
      | none =>
          exact ⟨_, p, from_resolveWithin_of_unknown hfind,
            .unchanged hp (rankedValue_of_find?_eq_none hfind) fun a ha => by cases ha⟩
      | some property =>
          obtain ⟨hmem, hkey⟩ := Catalog.mem_of_find? hfind
          have hin := Catalog.mem_keys_of_find? hfind
          cases hsettled : p.settled? key with
          | some value =>
              have hvalue := hp.settled key value hsettled
              exact ⟨_, p, from_resolveWithin_of_settled hfind hsettled,
                .unchanged hp hvalue fun a ha _ _ => ha ▸ hvalue⟩
          | none =>
              have hfree : key ∉ p.active :=
                fun hmem => Nat.lt_irrefl _ (hactive key hmem hin)
              have hlt := length_idle_append_lt hin hfree
              have hcompute : Simulates (Agreeing source catalog rank (p.active ++ [key]))
                  (compute source (resolveWithin source catalog depth) property)
                  fun _ => property.valueBy source (rankedValue source catalog rank) := by
                refine simulates_compute unrecorded_agreeing property ?_ (.inr ⟨_, rfl⟩)
                intro rule hrule other hother
                refine ih (by omega) fun k hk hother' => ?_
                have hlow : rank other < rank key :=
                  hkey ▸ hrank property hmem rule hrule other hother hother'
                rcases List.mem_append.mp hk with hk | hk
                · exact Nat.lt_trans hlow (hactive k hk hin)
                · exact List.mem_singleton.mp hk ▸ hlow
              obtain ⟨outcome, p', hrun, h⟩ := hcompute (p.enter key) (hp.enter key)
              have hplain : rankedValue source catalog rank key = outcome :=
                (rankedValue_of_find?_eq_some hrank hfind).trans h.plain_eq
              cases outcome with
              | error e =>
                  exact ⟨_, _, from_resolveWithin_of_error hfind hsettled hfree hrun,
                    hplain, h.kind.leave, h.kind.leave.active_eq, h.kept, fun a ha => by cases ha⟩
              | ok value =>
                  have hkind := h.kind.leave.settle hplain
                  refine ⟨_, _, from_resolveWithin_of_ok hfind hsettled hfree hrun,
                    hplain, hkind, hkind.active_eq, fun k hk => ?_, fun a ha _ _ => ha ▸ hplain⟩
                  exact h.kept k ((Progress.settled?_settle_eq_none_iff _ _ _ _).mp hk).2

/-! ### Errors -/

/-- A rule fails with an error of one of the keys that it refers to. -/
theorem Inference.eval_error {E : ConfigError → Prop}
    {lookup : Text → Except ConfigError (Option Text)} (rule : Inference)
    (hlookup : ∀ key ∈ rule.references, ∀ e, lookup key = .error e → E e) :
    ∀ e, rule.eval source lookup = .error e → E e := by
  have hR : Compositional fun α (x _ : Except ConfigError α) => ∀ e, x = .error e → E e := by
    refine ⟨?_, ?_, ?_⟩
    · intro α a e he
      cases he
    · intro α β x y f g hx hf e he
      rcases error_of_bind he with h | ⟨a, -, h⟩
      · exact hx e h
      · exact hf a e h
    · intro α x y f g hx hf e he
      cases x with
      | ok a => cases he
      | error e' => exact hf e' e he
  exact rule.eval_related (g := lookup) hR hlookup

theorem Property.valueBy_error {E : ConfigError → Prop} {property : Property}
    {lookup : Text → Except ConfigError (Option Text)}
    (hlookup : ∀ key e, lookup key = .error e → E e) :
    ∀ e, property.valueBy source lookup = .error e → E e := by
  intro e he
  unfold valueBy at he
  split at he
  · cases he
  · cases he
  · rename_i rule _ _
    rcases error_of_bind he with h | ⟨value, -, h⟩
    · exact rule.eval_error (fun key _ => hlookup key) e h
    · cases h

/-- Recursion on a rank fails only for a key outside the catalog. -/
theorem rankedValue_error (key : Text) :
    ∀ e, rankedValue source catalog rank key = .error e → ∃ k, e = .unknownProperty k := by
  induction hn : rank key using Nat.strongRecOn generalizing key with
  | ind n ih =>
      have hlookup (other : Text) (e : ConfigError)
          (h : (if rank other < rank key then rankedValue source catalog rank other
            else .error (.unknownProperty other)) = .error e) : ∃ k, e = .unknownProperty k := by
        split at h
        · rename_i hlow
          exact ih (rank other) (hn ▸ hlow) other rfl e h
        · exact ⟨other, (Except.error.inj h).symm⟩
      intro e he
      rw [rankedValue] at he
      split at he
      · exact ⟨key, (Except.error.inj he).symm⟩
      · exact Property.valueBy_error hlookup e he

/-! ### Sessions -/

/-- The resolvers of a bag and a ranked catalog that a session can come to. -/
abbrev AgreesWith (source : PropertyBag (Option Text)) (catalog : Catalog) (rank : Text → Nat) :
    Resolver → Prop :=
  ResolverOf source catalog (Agreeing source catalog rank [])

theorem agreesWith_new : AgreesWith source catalog rank (.new source catalog) := by
  refine ⟨rfl, rfl, rfl, ?_, ?_⟩
  · intro key value hkey
    cases hkey
  · intro key chain hmem
    cases hmem

theorem answers_rankedValue (hrank : catalog.RankedBy rank) (key : Text) :
    Answers (AgreesWith source catalog rank) (Resolver.resolve key)
      (rankedValue source catalog rank key) := by
  refine answers_resolve (fun _ hp => hp.active_eq)
    (simulates_rankedValue hrank (Nat.lt_succ_of_le (List.length_filter_le _ _)) ?_)
  intro k hk
  cases hk

theorem agreesWith_after (hrank : catalog.RankedBy rank) (requests : List Session.Request) :
    AgreesWith source catalog rank ((Session.start source catalog).after requests).resolver :=
  Session.after_keeps (keeps_of_answers (answers_rankedValue hrank)) agreesWith_new requests

end Ranked

/-- In every state of a session over a ranked catalog, resolution gives the values by recursion,
which are the raw values, or else the inferred values, or else the defaults; lists are read from
these values, all keys together have these values or the first error among them in catalog order,
and no cycle is met, not even one that a rule would have caught. -/
theorem resolution_eq_rankedValue {source : PropertyBag (Option Text)} {catalog : Catalog}
    {rank : Text → Nat} (hrank : catalog.RankedBy rank) (requests : List Session.Request) :
    let value := rankedValue source catalog rank
    let s := (Session.start source catalog).after requests
    (∀ key, value key = match catalog.find? key with
      | none => .error (.unknownProperty key)
      | some property => property.valueBy source value) ∧
    (∀ key, (s.handle (.resolve key)).1 = (value key).map .value) ∧
    (∀ key, (s.handle (.list key)).1 = (value key).map fun v => .items (listItems v)) ∧
    (s.handle .resolveAll).1 =
      (catalog.keys.mapM fun key => do return (key, ← value key)).map .values ∧
    (∀ request key chain, (s.handle request).1 ≠ .error (.cycle key chain)) ∧
    ∀ key chain, .cycled key chain ∉ s.resolver.progress.trace := by
  intro value s
  have hs : AgreesWith source catalog rank s.resolver := agreesWith_after hrank requests
  have hvalue (key : Text) :
      Answers (AgreesWith source catalog rank) (Resolver.resolve key) (value key) :=
    answers_rankedValue hrank key
  refine ⟨fun key => ?_, fun key => ?_, fun key => ?_, ?_, fun request key chain herr => ?_,
    hs.progress.acyclic⟩
  · cases hfind : catalog.find? key with
    | none => exact rankedValue_of_find?_eq_none hfind
    | some property => exact rankedValue_of_find?_eq_some hrank hfind
  · exact Session.ask_of_answers (hvalue key) hs _
  · refine (Session.ask_of_answers (answers_read hvalue itemsOf key) hs _).trans ?_
    rw [read_itemsOf]
    show ((value key).map listItems).map _ = _
    cases value key <;> rfl
  · exact Session.ask_of_answers (answers_resolveAll hvalue fun _ hr => hr.catalog_eq) hs _
  · obtain ⟨keys, -, hlast⟩ := s.handle_resolves request
    rcases hlast _ herr with hreading | ⟨before, k, -, hk⟩
    · cases hreading
    · have hbefore := Resolver.afterResolving_keeps (keeps_of_answers hvalue) hs before
      obtain ⟨r, hrun, -⟩ := hvalue k _ hbefore
      rw [hrun] at hk
      obtain ⟨k', hk'⟩ := rankedValue_error k _ hk
      cases hk'

/-- A key that tries a key outside the catalog, above two others. -/
def tieredCatalog : Catalog :=
  ⟨[ { key := "top"
       infer? := some (.attempt (.append (.resolve "middle") (.resolve "outside"))
         (.list "middle")) },
      { key := "middle"
        default? := some "m"
        infer? := some (.ifContains "seed" (.resolve "base") (.raw "other")) },
      { key := "base", default? := some "p, q" } ],
    by decide +kernel⟩

def tieredRank (key : Text) : Nat :=
  if key = "top" then 2 else if key = "middle" then 1 else 0

/-- The failure of the key outside is caught, after and before other requests. -/
theorem resolution_tieredCatalog :
    tieredCatalog.RankedBy tieredRank ∧
      (((Session.start (.ofList [("seed", none)]) tieredCatalog).after
          [.requiredText "outside", .list "middle", .resolveAll, .changeBag .empty]).handle
        (.resolve "top")).1 = .ok (.value (some "p|q")) := by
  have hrank : tieredCatalog.RankedBy tieredRank := by decide +kernel
  exact ⟨hrank, ((resolution_eq_rankedValue hrank _).2.1 "top").trans
    (((resolution_eq_rankedValue hrank []).2.1 "top").symm.trans rfl)⟩

end TableSync.Config
