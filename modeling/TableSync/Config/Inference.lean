import TableSync.Config.Error
import TableSync.Config.Text
import TableSync.PropertyBag

/-!
# Inference rules

A property that is not set may be inferred from others.  A rule is an expression over the raw
values of the bag and over resolved properties; its value is a text, or nothing where it infers
nothing.  Rules can only look: nothing they are made of changes the bag or a resolved value.  How
a property is resolved is left open, so one evaluation serves every way of doing it.
-/

namespace TableSync.Config

/-- An expression whose value is an inferred text or nothing. -/
inductive Inference
  /-- A fixed value. -/
  | const (value : Option Text)
  /-- The raw value of a key, if the bag has one. -/
  | raw (key : Text)
  /-- The resolved value of a property. -/
  | resolve (key : Text)
  /-- The items of a property read as a list, with bars between them. -/
  | list (key : Text)
  /-- One rule if the bag has a key, and another if not. -/
  | ifContains (key : Text) (present absent : Inference)
  /-- One rule if the raw value of a key spells true, and another if not. -/
  | ifTrue (key : Text) (yes no : Inference)
  /-- A rule for no item, for one item and for several items of a property read as a list. -/
  | byCount (key : Text) (empty single several : Inference)
  /-- Two texts joined; nothing if either rule infers nothing.  Both rules are evaluated. -/
  | append (first second : Inference)
  /-- A rule, or another one where the first fails. -/
  | attempt (first fallback : Inference)
deriving DecidableEq, Inhabited, Repr

namespace Inference

/-- Any number of texts joined, evaluated from left to right. -/
def concat (parts : List Inference) : Inference :=
  parts.foldr append (const (some []))

/-- The keys that a rule resolves, in the order in which they stand in it. -/
def references : Inference → List Text
  | const _ => []
  | raw _ => []
  | resolve key => [key]
  | list key => [key]
  | ifContains _ present absent => present.references ++ absent.references
  | ifTrue _ yes no => yes.references ++ no.references
  | byCount key empty single several =>
      key :: (empty.references ++ single.references ++ several.references)
  | append first second => first.references ++ second.references
  | attempt first fallback => first.references ++ fallback.references

/-- The value of a rule, given how properties are resolved. -/
def eval {m : Type → Type} [Monad m] [MonadExcept ConfigError m]
    (source : PropertyBag (Option Text)) (lookup : Text → m (Option Text)) :
    Inference → m (Option Text)
  | const value => return value
  | raw key => return (source.get? key).join
  | resolve key => lookup key
  | list key => do
      let value ← lookup key
      return some (Text.joined "|" (listItems value))
  | ifContains key present absent =>
      if source.contains key then present.eval source lookup else absent.eval source lookup
  | ifTrue key yes no =>
      if (source.get? key).join.map flagText = some "true" then yes.eval source lookup
      else no.eval source lookup
  | byCount key empty single several => do
      let value ← lookup key
      match listItems value with
      | [] => empty.eval source lookup
      | [_] => single.eval source lookup
      | _ => several.eval source lookup
  | append first second => do
      let a ← first.eval source lookup
      let b ← second.eval source lookup
      return a.bind fun s => b.map (s ++ ·)
  | attempt first fallback =>
      tryCatch (first.eval source lookup) fun _ => fallback.eval source lookup

/-! ### Two evaluations side by side -/

section Related

variable {m n : Type → Type} [Monad m] [MonadExcept ConfigError m] [Monad n]
  [MonadExcept ConfigError n]

/-- A relation between two kinds of computations that sequencing and catching hand on. -/
structure Compositional (R : ∀ α : Type, m α → n α → Prop) : Prop where
  ofPure : ∀ {α : Type} (a : α), R α (pure a) (pure a)
  ofBind : ∀ {α β : Type} {x : m α} {y : n α} {f : α → m β} {g : α → n β},
    R α x y → (∀ a, R β (f a) (g a)) → R β (x >>= f) (y >>= g)
  ofTryCatch : ∀ {α : Type} {x : m α} {y : n α} {f : ConfigError → m α} {g : ConfigError → n α},
    R α x y → (∀ e, R α (f e) (g e)) → R α (tryCatch x f) (tryCatch y g)

variable {R : ∀ α : Type, m α → n α → Prop} {source : PropertyBag (Option Text)}
  {f : Text → m (Option Text)} {g : Text → n (Option Text)}

/-- Related ways to resolve the keys that a rule refers to make for related evaluations of the
rule. -/
theorem eval_related (hR : Compositional R) (rule : Inference)
    (hlookup : ∀ key ∈ rule.references, R _ (f key) (g key)) :
    R _ (rule.eval source f) (rule.eval source g) := by
  induction rule with
  | const value => exact hR.ofPure value
  | raw key => exact hR.ofPure _
  | resolve key => exact hlookup key (by simp [references])
  | list key => exact hR.ofBind (hlookup key (by simp [references])) fun _ => hR.ofPure _
  | ifContains key present absent ihp iha =>
      simp only [references, List.mem_append] at hlookup
      unfold eval
      split
      · exact ihp fun k hk => hlookup k (.inl hk)
      · exact iha fun k hk => hlookup k (.inr hk)
  | ifTrue key yes no ihy ihn =>
      simp only [references, List.mem_append] at hlookup
      unfold eval
      split
      · exact ihy fun k hk => hlookup k (.inl hk)
      · exact ihn fun k hk => hlookup k (.inr hk)
  | byCount key empty single several ihe ihs ihm =>
      simp only [references, List.mem_cons, List.mem_append] at hlookup
      refine hR.ofBind (hlookup key (.inl rfl)) fun value => ?_
      split
      · exact ihe fun k hk => hlookup k (.inr (.inl (.inl hk)))
      · exact ihs fun k hk => hlookup k (.inr (.inl (.inr hk)))
      · exact ihm fun k hk => hlookup k (.inr (.inr hk))
  | append first second ihf ihs =>
      simp only [references, List.mem_append] at hlookup
      have hfirst := ihf fun k hk => hlookup k (.inl hk)
      have hsecond := ihs fun k hk => hlookup k (.inr hk)
      exact hR.ofBind hfirst fun _ => hR.ofBind hsecond fun _ => hR.ofPure _
  | attempt first fallback ihf ihb =>
      simp only [references, List.mem_append] at hlookup
      have hfirst := ihf fun k hk => hlookup k (.inl hk)
      have hfallback := ihb fun k hk => hlookup k (.inr hk)
      exact hR.ofTryCatch hfirst fun _ => hfallback

end Related

end Inference

end TableSync.Config
