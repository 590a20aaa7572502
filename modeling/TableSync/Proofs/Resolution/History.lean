import TableSync.Proofs.Resolution.Requests

/-!
# Outcomes do not depend on what was asked before

In a catalog whose rules catch no failure, a key has one outcome in all states of a resolver,
however its rules refer to each other.  The outcome is that of working the key out afresh, which
follows the chain of active keys and nothing else.

What makes kept values harmless is that a key keeps its value only after every key behind it has
kept one.  So a kept value could be worked out again under any active keys, none of which has a
kept value, without ever coming back to one of them.
-/

namespace TableSync.Config

/-- A catalog with no rule that catches a failure. -/
def Catalog.CatchFree (catalog : Catalog) : Prop :=
  ∀ property ∈ catalog.properties, ∀ rule ∈ property.infer?, rule.catchFree = true

instance (catalog : Catalog) : Decidable catalog.CatchFree :=
  inferInstanceAs (Decidable (∀ property ∈ catalog.properties, ∀ rule ∈ property.infer?,
    rule.catchFree = true))

section Afresh

variable (source : PropertyBag (Option Text)) (catalog : Catalog)

/-- The outcome of working a key out afresh while some keys are active, the outermost first. -/
def afresh (active : List Text) (key : Text) : Except ConfigError (Option Text) :=
  match _hfind : catalog.find? key with
  | none => .error (.unknownProperty key)
  | some property =>
      if _hactive : key ∈ active then .error (.cycle key active)
      else property.valueBy source (afresh (active ++ [key]))
termination_by (idle catalog active).length
decreasing_by exact length_idle_append_lt (Catalog.mem_keys_of_find? _hfind) _hactive

variable {source catalog}

theorem afresh_of_find?_eq_none {key : Text} (hfind : catalog.find? key = none)
    (active : List Text) : afresh source catalog active key = .error (.unknownProperty key) := by
  rw [afresh]
  split
  · rfl
  · rename_i hsome
    rw [hfind] at hsome
    cases hsome

theorem afresh_of_mem {key : Text} {property : Property} {active : List Text}
    (hfind : catalog.find? key = some property) (hactive : key ∈ active) :
    afresh source catalog active key = .error (.cycle key active) := by
  rw [afresh]
  split
  · rename_i hnone
    rw [hfind] at hnone
    cases hnone
  · rw [dif_pos hactive]

theorem afresh_of_not_mem {key : Text} {property : Property} {active : List Text}
    (hfind : catalog.find? key = some property) (hactive : key ∉ active) :
    afresh source catalog active key =
      property.valueBy source (afresh source catalog (active ++ [key])) := by
  rw [afresh]
  split
  · rename_i hnone
    rw [hfind] at hnone
    cases hnone
  · rename_i hsome
    rw [hfind] at hsome
    cases hsome
    rw [dif_neg hactive]

end Afresh

/-- Progress whose kept values are what working the keys out afresh gives, whatever keys without a
kept value are active, while the active keys have no kept values themselves. -/
structure Faithful (source : PropertyBag (Option Text)) (catalog : Catalog) (active : List Text)
    (p : Progress) : Prop where
  active_eq : p.active = active
  unsettled : p.Unsettled active
  settled : ∀ key value, p.settled? key = some value →
    ∀ others, p.Unsettled others → afresh source catalog others key = .ok value

section Faithful

variable {source : PropertyBag (Option Text)} {catalog : Catalog} {active : List Text}
  {p : Progress} {key : Text}

theorem unrecorded_faithful : Unrecorded (Faithful source catalog active) :=
  fun _ _ _ hp => ⟨hp.active_eq, hp.unsettled, hp.settled⟩

theorem Faithful.record (hp : Faithful source catalog active p) (event : Event) :
    Faithful source catalog active (p.record event) :=
  ⟨hp.active_eq, hp.unsettled, hp.settled⟩

theorem Faithful.enter (hp : Faithful source catalog active p) (hkey : p.settled? key = none) :
    Faithful source catalog (active ++ [key]) (p.enter key) := by
  refine ⟨by simp [hp.active_eq], ?_, hp.settled⟩
  intro k hk
  rcases List.mem_append.mp hk with hk | hk
  · exact hp.unsettled k hk
  · rw [List.mem_singleton.mp hk]
    exact hkey

theorem Faithful.leave (hp : Faithful source catalog (active ++ [key]) p) :
    Faithful source catalog active p.leave := by
  refine ⟨by simp [hp.active_eq], ?_, hp.settled⟩
  intro k hk
  exact hp.unsettled k (List.mem_append_left _ hk)

/-- A value may be kept that working out afresh gives under all keys without a kept value. -/
theorem Faithful.settle {value : Option Text} (hp : Faithful source catalog active p)
    (hkey : key ∉ active)
    (hvalue : ∀ others, (p.settle key value).Unsettled others →
      afresh source catalog others key = .ok value) :
    Faithful source catalog active (p.settle key value) := by
  refine ⟨hp.active_eq, ?_, ?_⟩
  · intro k hk
    have hne : k ≠ key := fun h => hkey (h ▸ hk)
    simpa [hne] using hp.unsettled k hk
  · intro k v hk others hothers
    by_cases hk' : k = key
    · subst hk'
      have hv : value = v := by simpa using hk
      exact hv ▸ hvalue others hothers
    · have hkept : p.settled? k = some v := by simpa [hk'] using hk
      exact hp.settled k v hkept others fun o ho =>
        ((p.settled?_settle_eq_none_iff key o value).mp (hothers o ho)).2

end Faithful

/-- Resolution from faithful progress comes to what working out afresh gives. -/
theorem simulates_afresh {source : PropertyBag (Option Text)} {catalog : Catalog}
    (hcatch : catalog.CatchFree) {depth : Nat} {active : List Text}
    (hdepth : (idle catalog active).length < depth) (key : Text) :
    Simulates (Faithful source catalog active) (resolveWithin source catalog depth key)
      fun active => afresh source catalog active key := by
  induction depth generalizing active key with
  | zero => omega
  | succ depth ih =>
      intro p hp
      obtain rfl := hp.active_eq
      cases hfind : catalog.find? key with
      | none =>
          exact ⟨_, p, from_resolveWithin_of_unknown hfind,
            .unchanged hp (afresh_of_find?_eq_none hfind _) fun a ha => by cases ha⟩
      | some property =>
          cases hsettled : p.settled? key with
          | some value =>
              have hvalue := hp.settled key value hsettled
              refine ⟨_, p, from_resolveWithin_of_settled hfind hsettled,
                .unchanged hp (hvalue p.active hp.unsettled) fun a ha => ?_⟩
              exact Except.ok.inj ha ▸ hvalue
          | none =>
              by_cases hactive : key ∈ p.active
              · exact ⟨_, _, from_resolveWithin_of_active hfind hsettled hactive,
                  afresh_of_mem hfind hactive, hp.record _, rfl, fun _ h => h,
                  fun a ha => by cases ha⟩
              · have hlt := length_idle_append_lt (Catalog.mem_keys_of_find? hfind) hactive
                have hcompute : Simulates (Faithful source catalog (p.active ++ [key]))
                    (compute source (resolveWithin source catalog depth) property)
                    fun active => property.valueBy source (afresh source catalog active) :=
                  simulates_compute unrecorded_faithful property (fun _ _ k _ => ih (by omega) k)
                    (.inl (hcatch property (Catalog.mem_of_find? hfind).1))
                obtain ⟨outcome, p', hrun, h⟩ := hcompute (p.enter key) (hp.enter hsettled)
                have hplain : afresh source catalog p.active key = outcome :=
                  (afresh_of_not_mem hfind hactive).trans h.plain_eq
                cases outcome with
                | error e =>
                    exact ⟨_, _, from_resolveWithin_of_error hfind hsettled hactive hrun,
                      hplain, h.kind.leave, h.kind.leave.active_eq, h.kept, fun a ha => by cases ha⟩
                | ok value =>
                    have hvalue (others : List Text)
                        (hothers : (p'.leave.settle key value).Unsettled others) :
                        afresh source catalog others key = .ok value := by
                      have hothers' (k : Text) (hk : k ∈ others) :=
                        (Progress.settled?_settle_eq_none_iff _ _ _ _).mp (hothers k hk)
                      have hkey : key ∉ others := fun hmem => (hothers' key hmem).1 rfl
                      rw [afresh_of_not_mem hfind hkey]
                      refine h.stable value rfl _ fun k hk => ?_
                      rcases List.mem_append.mp hk with hk | hk
                      · exact (hothers' k hk).2
                      · exact h.kind.unsettled k (List.mem_append_right _ hk)
                    have hkind := h.kind.leave.settle hactive hvalue
                    refine ⟨_, _, from_resolveWithin_of_ok hfind hsettled hactive hrun,
                      hplain, hkind, hkind.active_eq, fun k hk => ?_, fun a ha => ?_⟩
                    · exact h.kept k ((Progress.settled?_settle_eq_none_iff _ _ _ _).mp hk).2
                    · exact Except.ok.inj ha ▸ hvalue

/-! ### Sessions -/

section Sessions

variable {source : PropertyBag (Option Text)} {catalog : Catalog}

/-- The resolvers of a bag and a catalog that a session can come to. -/
abbrev FaithfulTo (source : PropertyBag (Option Text)) (catalog : Catalog) : Resolver → Prop :=
  ResolverOf source catalog (Faithful source catalog [])

theorem faithfulTo_new : FaithfulTo source catalog (.new source catalog) := by
  refine ⟨rfl, rfl, rfl, ?_, ?_⟩
  · intro key hkey
    cases hkey
  · intro key value hkey
    cases hkey

theorem answers_afresh (hcatch : catalog.CatchFree) (key : Text) :
    Answers (FaithfulTo source catalog) (Resolver.resolve key) (afresh source catalog [] key) :=
  answers_resolve (fun _ hp => hp.active_eq)
    (simulates_afresh hcatch (Nat.lt_succ_of_le (List.length_filter_le _ _)) key)

theorem faithfulTo_after (hcatch : catalog.CatchFree) (requests : List Session.Request) :
    FaithfulTo source catalog ((Session.start source catalog).after requests).resolver :=
  Session.after_keeps (keeps_of_answers (answers_afresh hcatch)) faithfulTo_new requests

theorem handle_resolve_after (hcatch : catalog.CatchFree) (requests : List Session.Request)
    (key : Text) :
    (((Session.start source catalog).after requests).handle (.resolve key)).1 =
      (afresh source catalog [] key).map .value :=
  Session.ask_of_answers (answers_afresh hcatch key) (faithfulTo_after hcatch requests) _

end Sessions

theorem catchFree_syncCatalog : syncCatalog.CatchFree := by
  decide

theorem handle_settings_after (source : PropertyBag (Option Text))
    (requests : List Session.Request) :
    (((Session.start source syncCatalog).after requests).handle .settings).1 =
      (SyncConfig.read (afresh source syncCatalog [])).map .settings :=
  Session.ask_of_answers (answers_fromResolver (answers_afresh catchFree_syncCatalog))
    (faithfulTo_after catchFree_syncCatalog requests) _

/-- Whatever was asked of a resolver and whatever became of the bag that it was made from, a key
has the outcome that it has in a fresh resolver, in a catalog whose rules catch no failure.  So it
does not matter in which order keys are asked for, and the settings of a job are those of its
properties at any time. -/
theorem outcome_independent_of_requests (source : PropertyBag (Option Text))
    (requests : List Session.Request) :
    (∀ catalog : Catalog, catalog.CatchFree → ∀ key,
      (((Session.start source catalog).after requests).handle (.resolve key)).1 =
          ((Session.start source catalog).handle (.resolve key)).1 ∧
        ∀ others, (((Session.start source catalog).after requests).handle (.resolve key)).1 =
          (((Session.start source catalog).after others).handle (.resolve key)).1) ∧
      (((Session.start source syncCatalog).after requests).handle .settings).1 =
        (SyncConfig.fromProperties source).1.map .settings := by
  refine ⟨fun catalog hcatch key => ⟨?_, fun others => ?_⟩, ?_⟩
  · rw [handle_resolve_after hcatch]
    exact (handle_resolve_after hcatch [] key).symm
  · rw [handle_resolve_after hcatch, handle_resolve_after hcatch]
  · rw [handle_settings_after]
    exact (handle_settings_after source []).symm

/-- Two properties inferred from each other if a key is present, and two others. -/
def loopCatalog : Catalog :=
  ⟨[ { key := "a", infer? := some (.append (.const (some "x")) (.resolve "b")) },
      { key := "b", infer? := some (.ifContains "looped" (.resolve "a") (.const none)) },
      { key := "c", default? := some "p, q", infer? := some (.list "d") },
      { key := "d" } ],
    by decide +kernel⟩

/-- The loop is reported from the key that is asked for, although its other key failed before and
the bag has lost the key that closes the loop. -/
theorem outcome_after_requests_loopCatalog :
    loopCatalog.CatchFree ∧
      (((Session.start (.ofList [("looped", none)]) loopCatalog).after
          [.resolve "c", .resolve "b", .flag "c", .changeBag .empty, .resolveAll, .settings]).handle
        (.resolve "a")).1 = .error (.cycle "a" ["a", "b"]) :=
  ⟨by decide +kernel,
    ((outcome_independent_of_requests _ _).1 loopCatalog (by decide +kernel) "a").1.trans rfl⟩

end TableSync.Config
