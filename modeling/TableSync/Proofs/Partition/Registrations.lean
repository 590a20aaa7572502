import TableSync.Config.Reading
import TableSync.Partition.Registry
import TableSync.Proofs.Occurrences
import TableSync.Proofs.PropertyBag

/-!
# What registrations leave

A registry is known from the registrations that made it, in their order.  A name is known to it if
some registration had it as its identifier or as its alias.  The last registration with an alias
decides which identifier the alias stands for, and the last one under an identifier decides on the
strategy, whatever alias leads there.  Every other name stands for itself.

The two bags of a registry are filled one registration at a time, each in its own way.  What links
them is that an alias always comes together with its identifier, so no alias ever leads nowhere.
-/

namespace TableSync.Partition

open TableSync.Config

/-- A strategy under an identifier, and under an alias unless that is empty. -/
structure Registration (α : Type := Strategy) where
  identifier : Text
  strategy : α
  aliasName : Text := []
deriving DecidableEq

def Registration.builtin {α : Type} (registered : Strategy → α) : List (Registration α) :=
  Strategy.all.map fun s => ⟨s.identifier, registered s, s.aliasName⟩

namespace Registry

variable {α : Type}

def after (r : Registry α) (call : Registration α) : Registry α :=
  r.register call.identifier call.strategy call.aliasName

/-- The registry that registrations leave, the first one made first. -/
def ofList (calls : List (Registration α)) : Registry α :=
  calls.foldl after {}

theorem foldl_after_ofList (calls more : List (Registration α)) :
    more.foldl after (ofList calls) = ofList (calls ++ more) :=
  List.foldl_append.symm

theorem ofList_concat (calls : List (Registration α)) (call : Registration α) :
    ofList (calls ++ [call]) = (ofList calls).after call :=
  (foldl_after_ofList calls [call]).symm

theorem aliases_after_of_nil {r : Registry α} {call : Registration α} (h : call.aliasName = []) :
    (r.after call).aliases = r.aliases :=
  if_pos h

theorem registerBuiltin_ofList (registered : Strategy → α) (calls : List (Registration α)) :
    (ofList calls).registerBuiltin registered =
      ofList (calls ++ Registration.builtin registered) := by
  rw [← foldl_after_ofList, Registration.builtin, List.foldl_map]
  rfl

theorem foldl_after_registerBuiltin (registered : Strategy → α)
    (calls more : List (Registration α)) :
    more.foldl after ((ofList calls).registerBuiltin registered) =
      ofList (calls ++ Registration.builtin registered ++ more) := by
  rw [registerBuiltin_ofList, foldl_after_ofList]

end Registry

/-- A name was registered, as an identifier or as an alias that is not empty. -/
def Registered {α : Type} (calls : List (Registration α)) (name : Text) : Prop :=
  ∃ call ∈ calls, call.identifier = name ∨ call.aliasName = name ∧ name ≠ []

/-- What a name stands for: the identifier of the last registration that has it as its alias, and
otherwise the name itself. -/
inductive StandsFor {α : Type} (calls : List (Registration α)) (name : Text) : Text → Prop
  | ofAlias {call : Registration α} (hname : name ≠ [])
      (hlast : IsLast (fun call => call.aliasName = name) calls call) :
      StandsFor calls name call.identifier
  | itself (hname : ∀ call ∈ calls, call.aliasName = name → name = []) :
      StandsFor calls name name

section Lookups

variable {α : Type} {r : Registry α} {calls : List (Registration α)} {name identifier : Text}
  {s : α}

/-! ## The two bags -/

/-- An identifier has the strategy of the last registration under it. -/
theorem get?_strategies_ofList :
    (Registry.ofList calls).strategies.get? identifier = some s ↔
      ∃ call, IsLast (fun call => call.identifier = identifier) calls call ∧
        call.strategy = s := by
  induction calls using List.reverseRecOn with
  | nil => simp [Registry.ofList, not_isLast_nil]
  | append_singleton calls call ih =>
      rw [Registry.ofList_concat, Registry.after, Registry.get?_strategies_register]
      simp only [isLast_concat_iff]
      by_cases hcall : identifier = call.identifier
      · subst hcall
        simp
      · rw [if_neg hcall, ih]
        simp [Ne.symm hcall]

/-- An alias has the identifier of the last registration with it.  The empty name is no alias. -/
theorem get?_aliases_ofList :
    (Registry.ofList calls).aliases.get? name = some identifier ↔
      name ≠ [] ∧ ∃ call, IsLast (fun call => call.aliasName = name) calls call ∧
        call.identifier = identifier := by
  induction calls using List.reverseRecOn with
  | nil => simp [Registry.ofList, not_isLast_nil]
  | append_singleton calls call ih =>
      rw [Registry.ofList_concat]
      simp only [isLast_concat_iff]
      by_cases hcall : name = call.aliasName
      · subst hcall
        by_cases hempty : call.aliasName = []
        · rw [Registry.aliases_after_of_nil hempty, ih]
          simp [hempty]
        · rw [Registry.after, Registry.get?_aliases_register _ _ hempty]
          simp [hempty]
      · rw [Registry.after, Registry.get?_aliases_register_of_ne _ _ hcall, ih]
        simp [Ne.symm hcall]

theorem exists_get?_strategies_ofList_iff :
    (∃ s, (Registry.ofList calls).strategies.get? identifier = some s) ↔
      ∃ call ∈ calls, call.identifier = identifier := by
  rw [← exists_isLast_iff]
  simp only [get?_strategies_ofList]
  constructor
  · rintro ⟨s, call, hlast, -⟩
    exact ⟨call, hlast⟩
  · rintro ⟨call, hlast⟩
    exact ⟨call.strategy, call, hlast, rfl⟩

theorem exists_get?_aliases_ofList_iff :
    (∃ identifier, (Registry.ofList calls).aliases.get? name = some identifier) ↔
      name ≠ [] ∧ ∃ call ∈ calls, call.aliasName = name := by
  rw [← exists_isLast_iff]
  simp only [get?_aliases_ofList]
  constructor
  · rintro ⟨identifier, hname, call, hlast, -⟩
    exact ⟨hname, call, hlast⟩
  · rintro ⟨hname, call, hlast⟩
    exact ⟨call.identifier, hname, call, hlast, rfl⟩

/-- No alias leads nowhere: its identifier was registered together with it. -/
theorem exists_get?_strategies_of_alias
    (h : (Registry.ofList calls).aliases.get? name = some identifier) :
    ∃ s, (Registry.ofList calls).strategies.get? identifier = some s := by
  obtain ⟨-, call, ⟨before, after, rfl, -⟩, hidentifier⟩ := get?_aliases_ofList.mp h
  exact exists_get?_strategies_ofList_iff.mpr ⟨call, by simp, hidentifier⟩

/-! ## What a name leads to -/

theorem standsFor_iff :
    StandsFor calls name identifier ↔
      ((Registry.ofList calls).aliases.get? name).getD name = identifier := by
  constructor
  · intro h
    cases h with
    | ofAlias hname hlast =>
        rw [get?_aliases_ofList.mpr ⟨hname, _, hlast, rfl⟩]
        rfl
    | itself hname =>
        have hnone : (Registry.ofList calls).aliases.get? name = none := by
          rw [← Option.not_isSome_iff_eq_none, Option.isSome_iff_exists,
            exists_get?_aliases_ofList_iff]
          rintro ⟨hne, call, hcall, halias⟩
          exact hne (hname call hcall halias)
        rw [hnone]
        rfl
  · rintro rfl
    cases halias : (Registry.ofList calls).aliases.get? name with
    | some identifier =>
        obtain ⟨hname, call, hlast, rfl⟩ := get?_aliases_ofList.mp halias
        exact .ofAlias hname hlast
    | none =>
        refine .itself fun call hcall hname => ?_
        by_contra hne
        obtain ⟨identifier, hsome⟩ := exists_get?_aliases_ofList_iff.mpr ⟨hne, call, hcall, hname⟩
        cases halias.symm.trans hsome

theorem canonical_eq_ok_iff :
    r.canonical name = .ok identifier ↔
      (r.aliases.get? name).getD name = identifier ∧
        ∃ s, r.strategies.get? identifier = some s := by
  unfold Registry.canonical Registry.find
  dsimp only
  split
  · rename_i s hs
    constructor
    · intro h
      obtain rfl := Except.ok.inj h
      exact ⟨rfl, s, hs⟩
    · rintro ⟨rfl, -⟩
      rfl
  · rename_i hnone
    constructor
    · intro h
      cases h
    · rintro ⟨rfl, s, hs⟩
      cases hnone.symm.trans hs

theorem strategy_eq_ok_iff :
    r.strategy name = .ok s ↔
      r.strategies.get? ((r.aliases.get? name).getD name) = some s := by
  unfold Registry.strategy Registry.find
  dsimp only
  split
  · rename_i hs
    rw [hs]
    simp [Except.map]
  · rename_i hnone
    rw [hnone]
    simp [Except.map]

theorem mem_names_iff :
    name ∈ r.names ↔
      (∃ identifier, r.aliases.get? name = some identifier) ∨
        ∃ s, r.strategies.get? name = some s := by
  unfold Registry.names sorted
  rw [List.mem_append, List.mem_mergeSort, List.mem_mergeSort, PropertyBag.mem_keys_iff,
    PropertyBag.mem_keys_iff]

theorem mem_names_ofList_iff : name ∈ (Registry.ofList calls).names ↔ Registered calls name := by
  rw [mem_names_iff, exists_get?_aliases_ofList_iff, exists_get?_strategies_ofList_iff]
  constructor
  · rintro (⟨hname, call, hcall, halias⟩ | ⟨call, hcall, hidentifier⟩)
    · exact ⟨call, hcall, .inr ⟨halias, hname⟩⟩
    · exact ⟨call, hcall, .inl hidentifier⟩
  · rintro ⟨call, hcall, hidentifier | ⟨halias, hname⟩⟩
    · exact .inr ⟨call, hcall, hidentifier⟩
    · exact .inl ⟨hname, call, hcall, halias⟩

/-- A registered name stands for an identifier with a strategy, and no other name does. -/
theorem exists_strategy_iff :
    (∃ s, (Registry.ofList calls).strategies.get?
      (((Registry.ofList calls).aliases.get? name).getD name) = some s) ↔
      Registered calls name := by
  rw [← mem_names_ofList_iff, mem_names_iff]
  cases halias : (Registry.ofList calls).aliases.get? name with
  | some identifier => simpa using exists_get?_strategies_of_alias halias
  | none => simp

theorem canonical_ofList_eq_ok_iff :
    (Registry.ofList calls).canonical name = .ok identifier ↔
      Registered calls name ∧ StandsFor calls name identifier := by
  rw [canonical_eq_ok_iff, standsFor_iff, ← exists_strategy_iff]
  constructor
  · rintro ⟨rfl, hstrategy⟩
    exact ⟨hstrategy, rfl⟩
  · rintro ⟨hstrategy, rfl⟩
    exact ⟨rfl, hstrategy⟩

theorem strategy_ofList_eq_ok_iff :
    (Registry.ofList calls).strategy name = .ok s ↔
      ∃ identifier, StandsFor calls name identifier ∧
        ∃ call, IsLast (fun call => call.identifier = identifier) calls call ∧
          call.strategy = s := by
  rw [strategy_eq_ok_iff, get?_strategies_ofList]
  simp only [standsFor_iff, exists_eq_left']

/-! ## Consequences -/

/-- To register an identifier again redirects every name that stands for it. -/
theorem strategy_after_of_canonical {call : Registration α}
    (h : r.canonical name = .ok call.identifier) :
    (r.after call).strategy name = .ok call.strategy := by
  obtain ⟨hidentifier, -⟩ := canonical_eq_ok_iff.mp h
  have hafter : ((r.after call).aliases.get? name).getD name = call.identifier := by
    by_cases hname : name = call.aliasName
    · by_cases hempty : call.aliasName = []
      · rw [Registry.aliases_after_of_nil hempty]
        exact hidentifier
      · rw [Registry.after, Registry.get?_aliases_register _ _ hempty, if_pos hname]
        rfl
    · rw [Registry.after, Registry.get?_aliases_register_of_ne _ _ hname]
      exact hidentifier
  rw [strategy_eq_ok_iff, hafter, Registry.after, Registry.get?_strategies_register, if_pos rfl]

/-- Where no alias is an identifier, a name and its identifier lead to the same. -/
theorem canonical_of_canonical
    (hfree : ∀ call ∈ calls, ∀ other ∈ calls, call.aliasName = other.identifier →
      call.aliasName = [])
    (h : (Registry.ofList calls).canonical name = .ok identifier) :
    (Registry.ofList calls).canonical identifier = .ok identifier ∧
      (Registry.ofList calls).strategy identifier = (Registry.ofList calls).strategy name := by
  obtain ⟨hname, s, hs⟩ := canonical_eq_ok_iff.mp h
  obtain ⟨other, hother, rfl⟩ := exists_get?_strategies_ofList_iff.mp ⟨s, hs⟩
  have hitself : StandsFor calls other.identifier other.identifier :=
    .itself fun call hcall halias => halias ▸ hfree call hcall other hother halias
  have hidentifier := standsFor_iff.mp hitself
  refine ⟨canonical_eq_ok_iff.mpr ⟨hidentifier, s, hs⟩, ?_⟩
  have hsame : (Registry.ofList calls).strategy other.identifier = .ok s :=
    strategy_eq_ok_iff.mpr (hidentifier.symm ▸ hs)
  rw [hsame]
  exact (strategy_eq_ok_iff.mpr (hname.symm ▸ hs)).symm

end Lookups

/-- A registry of the built-in strategies is one in which these were registered, be it before others
or after others.  Whatever was registered, a name is listed and can be looked up exactly if it was
registered as an identifier or as an alias.  It stands for the identifier of the last registration
that has it as its alias, and otherwise for itself, and it gives the strategy of the last
registration under that identifier.  So a further registration under the identifier redirects the
name, and no alias leads nowhere.  Where no alias is an identifier, a name and what it stands for
lead to the same. -/
theorem lookups_follow_registrations :
    (∀ calls, calls.foldl Registry.after Registry.builtin =
      Registry.ofList (Registration.builtin id ++ calls)) ∧
    (∀ (α : Type) (registered : Strategy → α) (calls more : List (Registration α)),
      more.foldl Registry.after ((Registry.ofList calls).registerBuiltin registered) =
        Registry.ofList (calls ++ Registration.builtin registered ++ more)) ∧
    ∀ (α : Type) (calls : List (Registration α)) (name : Text),
      (name ∈ (Registry.ofList calls).names ↔ Registered calls name) ∧
      ((∃ identifier, (Registry.ofList calls).canonical name = .ok identifier) ↔
        Registered calls name) ∧
      ((∃ s, (Registry.ofList calls).strategy name = .ok s) ↔ Registered calls name) ∧
      (∀ identifier, (Registry.ofList calls).canonical name = .ok identifier ↔
        Registered calls name ∧ StandsFor calls name identifier) ∧
      (∀ s, (Registry.ofList calls).strategy name = .ok s ↔
        ∃ identifier, StandsFor calls name identifier ∧
          ∃ call, IsLast (fun call => call.identifier = identifier) calls call ∧
            call.strategy = s) ∧
      (∀ call, (Registry.ofList calls).canonical name = .ok call.identifier →
        (Registry.ofList (calls ++ [call])).strategy name = .ok call.strategy) ∧
      (∀ identifier, (Registry.ofList calls).aliases.get? name = some identifier →
        ∃ s, (Registry.ofList calls).strategies.get? identifier = some s) ∧
      ((∀ call ∈ calls, ∀ other ∈ calls, call.aliasName = other.identifier →
          call.aliasName = []) →
        ∀ identifier, (Registry.ofList calls).canonical name = .ok identifier →
          (Registry.ofList calls).canonical identifier = .ok identifier ∧
            (Registry.ofList calls).strategy identifier =
              (Registry.ofList calls).strategy name) := by
  refine ⟨Registry.foldl_after_registerBuiltin id [],
    fun α => Registry.foldl_after_registerBuiltin, fun α calls name => ⟨mem_names_ofList_iff,
    ?_, ?_, fun identifier => canonical_ofList_eq_ok_iff, fun s => strategy_ofList_eq_ok_iff,
    fun call h => ?_, fun identifier => exists_get?_strategies_of_alias,
    fun hfree identifier => canonical_of_canonical hfree⟩⟩
  · simp only [canonical_ofList_eq_ok_iff, standsFor_iff]
    exact ⟨fun ⟨_, h, _⟩ => h, fun h => ⟨_, h, rfl⟩⟩
  · simp only [strategy_eq_ok_iff]
    exact exists_strategy_iff
  · rw [Registry.ofList_concat]
    exact strategy_after_of_canonical h

/-- Two registrations, to be followed by one that takes the identifier of the first. -/
def daysAndKeys : List (Registration Nat) :=
  [⟨"x.Days", 1, "days"⟩, ⟨"x.Keys", 2, "keys"⟩]

def otherDays : Registration Nat :=
  ⟨"x.Days", 3, "calendar"⟩

theorem lookups_of_redirected_days :
    (Registry.ofList daysAndKeys).canonical "days" = .ok otherDays.identifier ∧
      (Registry.ofList (daysAndKeys ++ [otherDays])).strategy "days" = .ok 3 ∧
      (Registry.ofList daysAndKeys).aliases.get? "days" = some "x.Days" ∧
      (∃ s, (Registry.ofList daysAndKeys).strategies.get? "x.Days" = some s) ∧
      (∀ call ∈ daysAndKeys ++ [otherDays], ∀ other ∈ daysAndKeys ++ [otherDays],
        call.aliasName = other.identifier → call.aliasName = []) ∧
      (Registry.ofList (daysAndKeys ++ [otherDays])).canonical "calendar" = .ok "x.Days" ∧
      (Registry.ofList (daysAndKeys ++ [otherDays])).canonical "x.Days" = .ok "x.Days" ∧
      (Registry.ofList (daysAndKeys ++ [otherDays])).strategy "x.Days" =
        (Registry.ofList (daysAndKeys ++ [otherDays])).strategy "calendar" := by
  have hdays : (Registry.ofList daysAndKeys).canonical "days" = .ok otherDays.identifier :=
    ok_of_toOption (by decide +kernel)
  have halias : (Registry.ofList daysAndKeys).aliases.get? "days" = some "x.Days" := by
    decide +kernel
  have hfree : ∀ call ∈ daysAndKeys ++ [otherDays], ∀ other ∈ daysAndKeys ++ [otherDays],
      call.aliasName = other.identifier → call.aliasName = [] := by decide +kernel
  have hcalendar : (Registry.ofList (daysAndKeys ++ [otherDays])).canonical "calendar" =
      .ok "x.Days" := ok_of_toOption (by decide +kernel)
  obtain ⟨-, -, -, -, -, hredirect, hleads, -⟩ :=
    lookups_follow_registrations.2.2 Nat daysAndKeys "days"
  obtain ⟨-, -, -, -, -, -, -, hsame⟩ :=
    lookups_follow_registrations.2.2 Nat (daysAndKeys ++ [otherDays]) "calendar"
  exact ⟨hdays, hredirect otherDays hdays, halias, hleads _ halias, hfree, hcalendar,
    hsame hfree _ hcalendar⟩

end TableSync.Partition
