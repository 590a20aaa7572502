import TableSync.Config.Error
import TableSync.Config.Text

/-!
# Reading a property

Where a property has to be a text, a truth value or a list, its value is read as one once it is
resolved, and a value that cannot be read that way is an error that names the property.
-/

namespace TableSync.Config

/-- A value that must be a text other than the empty one. -/
def textOf (key : Text) : Option Text → Except ConfigError Text
  | none => .error (.missingText key)
  | some [] => .error (.missingText key)
  | some value => .ok value

/-- A value that must be true or false. -/
def flagOf (key : Text) : Option Text → Except ConfigError Bool
  | none => .error (.missingFlag key)
  | some value =>
      match readFlag? value with
      | some b => .ok b
      | none => .error (.invalidFlag key value)

def itemsOf (_key : Text) (value : Option Text) : Except ConfigError (List Text) :=
  .ok (listItems value)

/-- Resolve a property and read its value. -/
def read {m : Type → Type} [Monad m] [MonadExcept ConfigError m] {α : Type}
    (resolve : Text → m (Option Text)) (reading : Text → Option Text → Except ConfigError α)
    (key : Text) : m α := do
  let value ← resolve key
  ofExcept (reading key value)

/-! ### Outcomes of one step after another -/

section Outcomes

variable {ε α β : Type} {outcome : Except ε α} {next : α → Except ε β}

theorem ok_of_bind {b : β} (h : outcome >>= next = .ok b) :
    ∃ a, outcome = .ok a ∧ next a = .ok b := by
  cases outcome with
  | ok a => exact ⟨a, rfl, h⟩
  | error e => cases h

theorem ok_of_toOption {a : α} (h : outcome.toOption = some a) : outcome = .ok a := by
  cases outcome with
  | ok b => exact congrArg Except.ok (Option.some.inj h)
  | error e => cases h

theorem map_eq_error_iff {f : α → β} {e : ε} : outcome.map f = .error e ↔ outcome = .error e := by
  cases outcome <;> simp [Except.map]

theorem error_of_bind {e : ε} (h : outcome >>= next = .error e) :
    outcome = .error e ∨ ∃ a, outcome = .ok a ∧ next a = .error e := by
  cases outcome with
  | ok a => exact .inr ⟨a, rfl, h⟩
  | error e' => exact .inl (congrArg Except.error (Except.error.inj h))

end Outcomes

section Outcome

variable (value : Text → Except ConfigError (Option Text)) (key : Text)

/-- Reading where each property has an outcome of its own. -/
theorem read_eq_bind {α : Type} (reading : Text → Option Text → Except ConfigError α) :
    read value reading key = value key >>= reading key := by
  unfold read
  refine congrArg (value key >>= ·) (funext fun v => ?_)
  cases reading key v <;> rfl

theorem read_itemsOf : read value itemsOf key = (value key).map listItems := by
  rw [read_eq_bind]
  cases value key <;> rfl

end Outcome

/-- A text that can be read is the value itself. -/
theorem textOf_eq_ok {key text : Text} {value : Option Text} (h : textOf key value = .ok text) :
    value = some text := by
  unfold textOf at h
  split at h
  · cases h
  · cases h
  · exact congrArg some (Except.ok.inj h)

end TableSync.Config
