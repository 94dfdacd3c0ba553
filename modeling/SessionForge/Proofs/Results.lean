/-
When a computation that may be refused comes to a value: each of its parts does. These are the
steps by which the readers are taken apart.
-/

namespace SessionForge

variable {ε ε' α β : Type}

theorem map_eq_ok_iff {result : Except ε α} {change : α → β} {value : β} :
    result.map change = .ok value ↔ ∃ part, result = .ok part ∧ change part = value := by
  cases result <;> simp [Except.map]

theorem mapError_ok (value : α) (change : ε → ε') :
    (Except.ok value).mapError change = .ok value :=
  rfl

theorem mapError_error (error : ε) (change : ε → ε') :
    (Except.error error : Except ε α).mapError change = .error (change error) :=
  rfl

theorem mapError_eq_ok_iff {result : Except ε α} {change : ε → ε'} {value : α} :
    result.mapError change = .ok value ↔ result = .ok value := by
  cases result <;> simp [mapError_ok, mapError_error]

theorem bind_eq_ok_iff {result : Except ε α} {next : α → Except ε β} {value : β} :
    (result >>= next) = .ok value ↔ ∃ part, result = .ok part ∧ next part = .ok value := by
  cases result <;> simp [bind, Except.bind]

theorem eq_ok_of_toOption {result : Except ε α} {value : α}
    (isSome : result.toOption = some value) : result = .ok value := by
  cases result with
  | ok part => exact congrArg Except.ok (Option.some.inj isSome)
  | error => cases isSome

end SessionForge
