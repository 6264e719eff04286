/-!
# Changed results

What is known of a result from what is known of it after its value, or its error, was
changed.
-/

namespace ColumnFilter.Except

variable {ε δ α β : Type}

@[simp] theorem mapError_ok (f : ε → δ) (value : α) :
    (Except.ok value : Except ε α).mapError f = .ok value := rfl

@[simp] theorem mapError_error (f : ε → δ) (error : ε) :
    (Except.error error : Except ε α).mapError f = .error (f error) := rfl

theorem eq_ok_of_mapError_eq_ok {result : Except ε α} {f : ε → δ} {value : α}
    (changed : result.mapError f = .ok value) : result = .ok value := by
  cases result with
  | error error => simp at changed
  | ok inner => simpa using changed

theorem exists_of_map_eq_ok {result : Except ε α} {f : α → β} {value : β}
    (mapped : result.map f = .ok value) : ∃ inner, result = .ok inner ∧ f inner = value := by
  cases result with
  | error error => simp [Except.map] at mapped
  | ok inner => exact ⟨inner, rfl, by simpa [Except.map] using mapped⟩

theorem eq_ok_of_toOption {result : Except ε α} {value : α}
    (known : result.toOption = some value) : result = .ok value := by
  cases result with
  | error error => simp [Except.toOption] at known
  | ok inner => exact congrArg Except.ok (Option.some.inj known)

theorem exists_of_any_toOption {result : Except ε α} {test : α → Bool}
    (passes : result.toOption.any test = true) :
    ∃ value, result = .ok value ∧ test value = true := by
  cases result with
  | error error => contradiction
  | ok value => exact ⟨value, rfl, passes⟩

end ColumnFilter.Except
