import TableSync.Config.Error
import TableSync.Config.SyncConfig
import TableSync.Notice
import TableSync.Partition.Extractor
import TableSync.PropertyBag

/-!
# The registry of strategies

Strategies are registered under identifiers, and identifiers under aliases.  A name is an alias if
it is registered as one, and an identifier otherwise; the last registration counts.  What is
registered need not be one of the built-in strategies.  The extractor of a job is the built-in
strategy that is registered, with the settings that it takes from the configuration.
-/

namespace TableSync.Partition

open TableSync.Config

/-- Strategies by identifier and identifiers by alias. -/
structure Registry (α : Type := Strategy) where
  strategies : PropertyBag α := .empty
  aliases : PropertyBag Text := .empty
deriving DecidableEq, Repr

/-- Texts in order of their code points. -/
def sorted (names : List Text) : List Text :=
  names.mergeSort Text.atMost

namespace Registry

variable {α : Type}

/-- Register a strategy under an identifier, and under an alias unless that is empty. -/
def register (r : Registry α) (identifier : Text) (strategy : α) (aliasName : Text := []) :
    Registry α :=
  { strategies := r.strategies.insert identifier strategy
    aliases := if aliasName = [] then r.aliases else r.aliases.insert aliasName identifier }

/-- Register every built-in strategy, as what stands for it in a registry that may hold others. -/
def registerBuiltin (r : Registry α) (registered : Strategy → α) : Registry α :=
  Strategy.all.foldl (fun r s => r.register s.identifier (registered s) s.aliasName) r

/-- The registry of every built-in strategy, and of no other. -/
def builtin : Registry :=
  registerBuiltin {} id

/-- The known names: the aliases in order, then the identifiers in order. -/
def names (r : Registry α) : List Text :=
  sorted r.aliases.keys ++ sorted r.strategies.keys

/-- The identifier and the strategy that a name stands for. -/
def find (r : Registry α) (name : Text) : Except ConfigError (Text × α) :=
  let identifier := (r.aliases.get? name).getD name
  match r.strategies.get? identifier with
  | some strategy => .ok (identifier, strategy)
  | none => .error (.unknownExtractor name r.names)

/-- The identifier that a name stands for. -/
def canonical (r : Registry α) (name : Text) : Except ConfigError Text :=
  (r.find name).map Prod.fst

/-- The strategy that a name stands for. -/
def strategy (r : Registry α) (name : Text) : Except ConfigError α :=
  (r.find name).map Prod.snd

theorem get?_strategies_register (r : Registry α) (identifier aliasName name : Text) (s : α) :
    (r.register identifier s aliasName).strategies.get? name =
      if name = identifier then some s else r.strategies.get? name :=
  PropertyBag.get?_insert ..

theorem get?_aliases_register_of_ne (r : Registry α) {identifier aliasName name : Text} (s : α)
    (hne : name ≠ aliasName) :
    (r.register identifier s aliasName).aliases.get? name = r.aliases.get? name := by
  unfold register
  split
  · rfl
  · simp [hne]

theorem get?_aliases_register (r : Registry α) {identifier aliasName name : Text} (s : α)
    (hne : aliasName ≠ []) :
    (r.register identifier s aliasName).aliases.get? name =
      if name = aliasName then some identifier else r.aliases.get? name := by
  unfold register
  rw [if_neg hne]
  exact PropertyBag.get?_insert ..

theorem get?_builtin_aliasName (s : Strategy) :
    builtin.aliases.get? s.aliasName = some (s.identifier : Text) := by
  have hne (t : Strategy) : (t.aliasName : Text) ≠ [] := by
    intro h
    exact t.aliasName_ne_empty (Text.ofString_inj.mp (h.trans rfl))
  simp only [builtin, registerBuiltin, id, Strategy.all, List.foldl_cons, List.foldl_nil,
    get?_aliases_register _ _ (hne _), Text.ofString_inj, Strategy.aliasName_inj]
  cases s <;> rfl

theorem get?_builtin_identifier (s : Strategy) :
    builtin.aliases.get? s.identifier = none ∧ builtin.strategies.get? s.identifier = some s := by
  have hne (t : Strategy) : (s.identifier : Text) ≠ t.aliasName := by
    simpa using s.identifier_ne_aliasName t
  simp only [builtin, registerBuiltin, id, Strategy.all, List.foldl_cons, List.foldl_nil]
  constructor
  · simp only [get?_aliases_register_of_ne _ _ (hne _)]
    rfl
  · simp only [get?_strategies_register, Text.ofString_inj, Strategy.identifier_inj]
    cases s <;> rfl

theorem strategy_of_get? {r : Registry α} {name : Text} {s : α}
    (halias : r.aliases.get? name = none) (hstrategy : r.strategies.get? name = some s) :
    r.strategy name = .ok s := by
  unfold strategy find
  simp only [halias, Option.getD_none, hstrategy]
  rfl

/-- The identifier of a built-in strategy is no alias, and it stands for the strategy. -/
theorem strategy_builtin_identifier (s : Strategy) : builtin.strategy s.identifier = .ok s :=
  strategy_of_get? (get?_builtin_identifier s).1 (get?_builtin_identifier s).2

/-- The alias of a built-in strategy stands for it. -/
theorem strategy_builtin_aliasName (s : Strategy) : builtin.strategy s.aliasName = .ok s := by
  unfold strategy find
  simp only [get?_builtin_aliasName, Option.getD_some, (get?_builtin_identifier s).2]
  rfl

end Registry

/-- A strategy with the settings of a configuration. -/
def Extractor.configured (config : SyncConfig) : Strategy → Extractor
  | .nonPartitioned => .nonPartitioned
  | .slashEncodedDay => .slashEncodedDay
  | .hiveStyle => .hiveStyle config.decode
  | .multiPartKeys => .multiPartKeys config.partitionFields.length config.decode

/-- The extractor of a configuration, and the notice of its choice. -/
def Registry.create (r : Registry) (config : SyncConfig) :
    Except ConfigError (Extractor × Notice) :=
  (r.strategy config.extractorClass).map fun s =>
    (.configured config s, .selected s config.database config.table)

end TableSync.Partition
