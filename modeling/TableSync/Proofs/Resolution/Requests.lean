import TableSync.Config.Session
import TableSync.Proofs.Resolution.Simulation

/-!
# Requests come down to resolutions

Whatever is asked of a resolver, it resolves some keys one after the other and reads their values.
So a property of resolvers that no resolution destroys holds after every sequence of requests, and
an error is either that of the last resolution or that of a value that cannot be read.

Where resolving a key has one outcome in all resolvers with a property, so has everything that is
read from resolved keys, and the outcome is what reading gives from those outcomes alone.
-/

namespace TableSync.Config

/-- Whether an error is about reading a resolved value. -/
def ConfigError.isReading : ConfigError → Bool
  | missingText _ | missingFlag _ | invalidFlag _ _ => true
  | unknownProperty _ | cycle _ _ | unknownExtractor _ _ | malformedAssignment _ => false

namespace Resolver

theorem from_resolveFrom (r : Resolver) (key : Text) :
    (resolveWithin r.source r.catalog (r.catalog.keys.length + 1) key).from r.progress =
      some (r.resolveFrom key) :=
  (Option.some_get _).symm

/-- The resolver that is left when some keys have been resolved, whether they could be or not. -/
def afterResolving (r : Resolver) : List Text → Resolver
  | [] => r
  | key :: keys => afterResolving ((resolve key).run.run r).2 keys

theorem afterResolving_append (r : Resolver) (first second : List Text) :
    r.afterResolving (first ++ second) = (r.afterResolving first).afterResolving second := by
  induction first generalizing r with
  | nil => rfl
  | cons key keys ih => exact ih _

/-- What no resolution destroys is there after any number of them. -/
theorem afterResolving_keeps {I : Resolver → Prop}
    (hkeep : ∀ r key, I r → I ((resolve key).run.run r).2) {r : Resolver} (hr : I r)
    (keys : List Text) : I (r.afterResolving keys) := by
  induction keys generalizing r with
  | nil => exact hr
  | cons key keys ih => exact ih (hkeep r key hr)

end Resolver

section Running

variable {α β : Type}

theorem run_bind_ok {access : Access α} {next : α → Access β} {r r' : Resolver} {a : α}
    (h : access.run.run r = (.ok a, r')) :
    (access >>= next).run.run r = (next a).run.run r' := by
  show (access.run >>= ExceptT.bindCont next).run r = _
  rw [StateT.run_bind, h]
  rfl

theorem run_bind_error {access : Access α} {next : α → Access β} {r r' : Resolver}
    {e : ConfigError} (h : access.run.run r = (.error e, r')) :
    (access >>= next).run.run r = (.error e, r') := by
  show (access.run >>= ExceptT.bindCont next).run r = _
  rw [StateT.run_bind, h]
  rfl

@[simp] theorem run_ofExcept (outcome : Except ConfigError α) (r : Resolver) :
    (ofExcept outcome : Access α).run.run r = (outcome, r) := by
  cases outcome <;> rfl

@[simp] theorem run_get (r : Resolver) : (get : Access Resolver).run.run r = (.ok r, r) := rfl

theorem run_resolve (key : Text) (r : Resolver) :
    (Resolver.resolve key).run.run r =
      ((r.resolveFrom key).1, { r with progress := (r.resolveFrom key).2 }) := by
  unfold Resolver.resolve
  rw [run_bind_ok (run_get r)]
  exact run_ofExcept _ _

end Running

/-! ### The keys behind an access -/

/-- An access leaves what resolving some keys leaves, and fails as the last of these resolutions
does or because a value cannot be read. -/
structure ResolvesKeys {α : Type} (access : Access α) (r : Resolver) (keys : List Text) : Prop where
  left : (access.run.run r).2 = r.afterResolving keys
  error : ∀ e, (access.run.run r).1 = .error e → e.isReading = true ∨
    ∃ before key, keys = before ++ [key] ∧
      ((Resolver.resolve key).run.run (r.afterResolving before)).1 = .error e

/-- An access that only resolves keys and reads their values. -/
def Resolves {α : Type} (access : Access α) : Prop :=
  ∀ r, ∃ keys, ResolvesKeys access r keys

section Resolving

variable {α β : Type}

theorem resolves_pure (a : α) : Resolves (pure a) :=
  fun _ => ⟨[], rfl, by simp⟩

theorem resolves_get : Resolves get :=
  fun _ => ⟨[], rfl, by simp⟩

theorem resolves_resolve (key : Text) : Resolves (Resolver.resolve key) :=
  fun _ => ⟨[key], rfl, fun _ he => .inr ⟨[], key, rfl, he⟩⟩

theorem resolves_ofExcept {outcome : Except ConfigError α}
    (hreading : ∀ e, outcome = .error e → e.isReading = true) :
    Resolves (ofExcept outcome) := by
  intro r
  refine ⟨[], ?_, ?_⟩
  · rw [run_ofExcept]
    rfl
  · rw [run_ofExcept]
    exact fun e he => .inl (hreading e he)

theorem resolves_bind {access : Access α} {next : α → Access β} (haccess : Resolves access)
    (hnext : ∀ a, Resolves (next a)) : Resolves (access >>= next) := by
  intro r
  obtain ⟨keys, hleft, herror⟩ := haccess r
  cases hrun : access.run.run r with
  | mk outcome r' =>
      rw [hrun] at hleft herror
      cases outcome with
      | error e =>
          refine ⟨keys, ?_, ?_⟩
          · rw [run_bind_error hrun]
            exact hleft
          · rw [run_bind_error hrun]
            intro e' he'
            exact herror e' (congrArg Except.error (Except.error.inj he'))
      | ok a =>
          obtain ⟨keys', hleft', herror'⟩ := hnext a r'
          refine ⟨keys ++ keys', ?_, ?_⟩
          · rw [run_bind_ok hrun, Resolver.afterResolving_append, ← hleft]
            exact hleft'
          · rw [run_bind_ok hrun]
            intro e he
            refine (herror' e he).imp_right ?_
            rintro ⟨before, key, hkeys, hkey⟩
            refine ⟨keys ++ before, key, by simp [hkeys], ?_⟩
            rw [Resolver.afterResolving_append, ← hleft]
            exact hkey

theorem resolves_mapM {f : α → Access β} (hf : ∀ a, Resolves (f a)) (as : List α) :
    Resolves (as.mapM f) := by
  induction as with
  | nil =>
      rw [List.mapM_nil]
      exact resolves_pure _
  | cons a as ih =>
      rw [List.mapM_cons]
      exact resolves_bind (hf a) fun _ => resolves_bind ih fun _ => resolves_pure _

end Resolving

/-- A reading fails only for want of a value that can be read. -/
def Readable {α : Type} (reading : Text → Option Text → Except ConfigError α) : Prop :=
  ∀ key value e, reading key value = .error e → e.isReading = true

theorem readable_textOf : Readable textOf := by
  intro key value e he
  unfold textOf at he
  split at he
  · cases he
    rfl
  · cases he
    rfl
  · cases he

theorem readable_flagOf : Readable flagOf := by
  intro key value e he
  unfold flagOf at he
  split at he
  · cases he
    rfl
  · split at he
    · cases he
    · cases he
      rfl

theorem readable_itemsOf : Readable itemsOf := by
  intro key value e he
  cases he

theorem resolves_read {α : Type} {reading : Text → Option Text → Except ConfigError α}
    (hreading : Readable reading) (key : Text) : Resolves (read Resolver.resolve reading key) :=
  resolves_bind (resolves_resolve key) fun value => resolves_ofExcept (hreading key value)

theorem resolves_resolveAll : Resolves Resolver.resolveAll := by
  refine resolves_bind resolves_get fun r => resolves_mapM (fun key => ?_) _
  exact resolves_bind (resolves_resolve key) fun _ => resolves_pure _

theorem resolves_fromResolver : Resolves SyncConfig.fromResolver := by
  refine resolves_bind (resolves_read readable_flagOf _) fun _ => ?_
  refine resolves_bind (resolves_read readable_textOf _) fun _ => ?_
  refine resolves_bind (resolves_read readable_textOf _) fun _ => ?_
  refine resolves_bind (resolves_read readable_textOf _) fun _ => ?_
  refine resolves_bind (resolves_read readable_textOf _) fun _ => ?_
  refine resolves_bind (resolves_read readable_itemsOf _) fun _ => ?_
  refine resolves_bind (resolves_read readable_textOf _) fun _ => ?_
  refine resolves_bind (resolves_read readable_flagOf _) fun _ => ?_
  refine resolves_bind (resolves_read readable_flagOf _) fun _ => ?_
  exact resolves_pure _

/-! ### Outcomes -/

/-- From all resolvers with a property, an access comes to one outcome, and what it leaves has the
property again. -/
def Answers {α : Type} (I : Resolver → Prop) (access : Access α)
    (outcome : Except ConfigError α) : Prop :=
  ∀ r, I r → ∃ r', access.run.run r = (outcome, r') ∧ I r'

section Answering

variable {α β : Type} {I : Resolver → Prop}

theorem answers_pure (a : α) : Answers I (pure a) (pure a) :=
  fun r hr => ⟨r, rfl, hr⟩

theorem answers_ofExcept (outcome : Except ConfigError α) :
    Answers I (ofExcept outcome) (ofExcept outcome) := by
  intro r hr
  refine ⟨r, ?_, hr⟩
  rw [run_ofExcept]
  cases outcome <;> rfl

theorem answers_bind {access : Access α} {next : α → Access β} {outcome : Except ConfigError α}
    {rest : α → Except ConfigError β} (haccess : Answers I access outcome)
    (hnext : ∀ a, Answers I (next a) (rest a)) :
    Answers I (access >>= next) (outcome >>= rest) := by
  intro r hr
  obtain ⟨r', hrun, hr'⟩ := haccess r hr
  cases outcome with
  | error e => exact ⟨r', run_bind_error hrun, hr'⟩
  | ok a =>
      rw [run_bind_ok hrun]
      exact hnext a r' hr'

theorem answers_mapM {f : α → Access β} {g : α → Except ConfigError β}
    (hf : ∀ a, Answers I (f a) (g a)) (as : List α) : Answers I (as.mapM f) (as.mapM g) := by
  induction as with
  | nil =>
      rw [List.mapM_nil, List.mapM_nil]
      exact answers_pure _
  | cons a as ih =>
      rw [List.mapM_cons, List.mapM_cons]
      exact answers_bind (hf a) fun _ => answers_bind ih fun _ => answers_pure _

/-- A resolver of a bag and a catalog whose progress is of a kind. -/
structure ResolverOf (source : PropertyBag (Option Text)) (catalog : Catalog)
    (I : Progress → Prop) (r : Resolver) : Prop where
  source_eq : r.source = source
  catalog_eq : r.catalog = catalog
  progress : I r.progress

/-- Where resolution simulates a plain outcome, that is the outcome with no key active. -/
theorem answers_resolve {source : PropertyBag (Option Text)} {catalog : Catalog}
    {I : Progress → Prop} {key : Text} {plain : List Text → Except ConfigError (Option Text)}
    (hI : ∀ p, I p → p.active = [])
    (hsim : Simulates I (resolveWithin source catalog (catalog.keys.length + 1) key) plain) :
    Answers (ResolverOf source catalog I) (Resolver.resolve key) (plain []) := by
  rintro r ⟨rfl, rfl, hr⟩
  obtain ⟨outcome, p', hrun, h⟩ := hsim r.progress hr
  obtain rfl : plain [] = outcome := hI _ hr ▸ h.plain_eq
  have hfrom : r.resolveFrom key = (plain [], p') :=
    Option.some.inj ((Option.some_get _).trans hrun)
  refine ⟨{ r with progress := p' }, ?_, rfl, rfl, h.kind⟩
  rw [run_resolve, hfrom]

variable {value : Text → Except ConfigError (Option Text)}

theorem keeps_of_answers (hvalue : ∀ key, Answers I (Resolver.resolve key) (value key))
    (r : Resolver) (key : Text) (hr : I r) : I ((Resolver.resolve key).run.run r).2 := by
  obtain ⟨r', hrun, hr'⟩ := hvalue key r hr
  rw [hrun]
  exact hr'

theorem answers_read (hvalue : ∀ key, Answers I (Resolver.resolve key) (value key))
    (reading : Text → Option Text → Except ConfigError α) (key : Text) :
    Answers I (read Resolver.resolve reading key) (read value reading key) :=
  answers_bind (hvalue key) fun _ => answers_ofExcept _

theorem answers_resolveAll (hvalue : ∀ key, Answers I (Resolver.resolve key) (value key))
    {catalog : Catalog} (hcatalog : ∀ r, I r → r.catalog = catalog) :
    Answers I Resolver.resolveAll
      (catalog.keys.mapM fun key => do return (key, ← value key)) := by
  intro r hr
  unfold Resolver.resolveAll
  rw [run_bind_ok (run_get r), hcatalog r hr]
  have hkeys := answers_mapM (fun key => answers_bind (hvalue key) fun v =>
    answers_pure (key, v)) catalog.keys
  exact hkeys r hr

theorem answers_fromResolver (hvalue : ∀ key, Answers I (Resolver.resolve key) (value key)) :
    Answers I SyncConfig.fromResolver (SyncConfig.read value) := by
  refine answers_bind (answers_read hvalue _ _) fun _ => ?_
  refine answers_bind (answers_read hvalue _ _) fun _ => ?_
  refine answers_bind (answers_read hvalue _ _) fun _ => ?_
  refine answers_bind (answers_read hvalue _ _) fun _ => ?_
  refine answers_bind (answers_read hvalue _ _) fun _ => ?_
  refine answers_bind (answers_read hvalue _ _) fun _ => ?_
  refine answers_bind (answers_read hvalue _ _) fun _ => ?_
  refine answers_bind (answers_read hvalue _ _) fun _ => ?_
  refine answers_bind (answers_read hvalue _ _) fun _ => ?_
  exact answers_pure _

end Answering

/-! ### Sessions -/

namespace Session

/-- The outcome of a request that asks the resolver. -/
theorem ask_eq {α : Type} {s : Session} {access : Access α} {outcome : Except ConfigError α}
    {r : Resolver} (h : access.run.run s.resolver = (outcome, r)) (respond : α → Response) :
    s.ask access respond = (outcome.map respond, { s with resolver := r }) := by
  unfold ask
  rw [h]

theorem ask_resolves {α : Type} {access : Access α} (haccess : Resolves access) (s : Session)
    (respond : α → Response) : ∃ keys,
      (s.ask access respond).2.resolver = s.resolver.afterResolving keys ∧
      ∀ e, (s.ask access respond).1 = .error e → e.isReading = true ∨
        ∃ before key, keys = before ++ [key] ∧
          ((Resolver.resolve key).run.run (s.resolver.afterResolving before)).1 = .error e := by
  obtain ⟨keys, hleft, herror⟩ := haccess s.resolver
  cases hrun : access.run.run s.resolver with
  | mk outcome r =>
      rw [hrun] at hleft herror
      rw [ask_eq hrun respond]
      refine ⟨keys, hleft, fun e he => herror e ?_⟩
      cases outcome with
      | ok a => cases he
      | error e' =>
          cases he
          rfl

/-- Every request comes down to resolving some keys. -/
theorem handle_resolves (s : Session) (request : Request) : ∃ keys,
    (s.handle request).2.resolver = s.resolver.afterResolving keys ∧
    ∀ e, (s.handle request).1 = .error e → e.isReading = true ∨
      ∃ before key, keys = before ++ [key] ∧
        ((Resolver.resolve key).run.run (s.resolver.afterResolving before)).1 = .error e := by
  cases request with
  | resolve key => exact ask_resolves (resolves_resolve key) s _
  | list key => exact ask_resolves (resolves_read readable_itemsOf key) s _
  | flag key => exact ask_resolves (resolves_read readable_flagOf key) s _
  | requiredText key => exact ask_resolves (resolves_read readable_textOf key) s _
  | resolveAll => exact ask_resolves resolves_resolveAll s _
  | settings => exact ask_resolves resolves_fromResolver s _
  | contains key => exact ⟨[], rfl, fun e he => by cases he⟩
  | raw key => exact ⟨[], rfl, fun e he => by cases he⟩
  | rawProperties => exact ⟨[], rfl, fun e he => by cases he⟩
  | changeBag bag => exact ⟨[], rfl, fun e he => by cases he⟩

/-- What no resolution destroys is there after every sequence of requests. -/
theorem after_keeps {I : Resolver → Prop}
    (hkeep : ∀ r key, I r → I ((Resolver.resolve key).run.run r).2) {s : Session}
    (hs : I s.resolver) (requests : List Request) : I (s.after requests).resolver := by
  induction requests generalizing s with
  | nil => exact hs
  | cons request requests ih =>
      obtain ⟨keys, hleft, -⟩ := s.handle_resolves request
      refine ih ?_
      rw [hleft]
      exact Resolver.afterResolving_keeps hkeep hs keys

/-- The answer to a request whose access has one outcome. -/
theorem ask_of_answers {α : Type} {I : Resolver → Prop} {access : Access α}
    {outcome : Except ConfigError α} (h : Answers I access outcome) {s : Session}
    (hs : I s.resolver) (respond : α → Response) :
    (s.ask access respond).1 = outcome.map respond := by
  obtain ⟨r, hrun, -⟩ := h s.resolver hs
  rw [ask_eq hrun]

end Session

end TableSync.Config
