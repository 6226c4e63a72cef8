/-!
# Results that may be errors

A computation made of two steps ends well exactly when both of them do. These are the equations
through which proofs open such computations. A computation that only looks for faults, and gives
the same result whatever it has looked at, is `checked`: steps of this kind add up to one.
-/

namespace CloudSearch.Outcome

variable {ε α β : Type}

@[simp] theorem ok_bind (a : α) (f : α → Except ε β) : (Except.ok a >>= f) = f a := rfl

@[simp] theorem error_bind (e : ε) (f : α → Except ε β) : (Except.error e >>= f) = .error e := rfl

@[simp] theorem map_ok (f : α → β) (a : α) : (Except.ok a : Except ε α).map f = .ok (f a) := rfl

@[simp] theorem map_error (f : α → β) (e : ε) : (Except.error e).map f = .error e := rfl

@[simp] theorem pure_eq_ok (a : α) : (pure a : Except ε α) = .ok a := rfl

@[simp] theorem throw_eq_error (e : ε) : (throw e : Except ε α) = .error e := rfl

theorem bind_eq_ok_iff {x : Except ε α} {f : α → Except ε β} {b : β} :
    x >>= f = .ok b ↔ ∃ a, x = .ok a ∧ f a = .ok b := by
  cases x with
  | error e => simp
  | ok a => simp

theorem map_eq_ok_iff {x : Except ε α} {f : α → β} {b : β} :
    x.map f = .ok b ↔ ∃ a, x = .ok a ∧ f a = b := by
  cases x with
  | error e => simp
  | ok a => simp

theorem bind_eq_error_iff {x : Except ε α} {f : α → Except ε β} {e : ε} :
    x >>= f = .error e ↔ x = .error e ∨ ∃ a, x = .ok a ∧ f a = .error e := by
  cases x with
  | error e' => simp
  | ok a => simp

theorem map_eq_error_iff {x : Except ε α} {f : α → β} {e : ε} :
    x.map f = .error e ↔ x = .error e := by
  cases x with
  | error e' => simp
  | ok a => simp

theorem mapM_cons_eq_ok_iff {f : α → Except ε β} {a : α} {rest : List α} {bs : List β} :
    (a :: rest).mapM f = .ok bs ↔
      ∃ b bs', f a = .ok b ∧ rest.mapM f = .ok bs' ∧ b :: bs' = bs := by
  simp [bind_eq_ok_iff]

/-- What is there at most once gives at most one result. -/
theorem mapM_eq_ok_toList_iff {f : α → Except ε β} {as : List α} {b : Option β} :
    as.mapM f = .ok b.toList ↔
      (as = [] ∧ b = none) ∨ ∃ a c, as = [a] ∧ b = some c ∧ f a = .ok c := by
  cases as with
  | nil => cases b <;> simp
  | cons a rest =>
    cases rest with
    | nil => cases b <;> simp [bind_eq_ok_iff]
    | cons a' rest => cases b <;> simp [bind_eq_ok_iff]

@[simp] theorem mapError_ok {ε' : Type} (f : ε → ε') (a : α) :
    (Except.ok a : Except ε α).mapError f = .ok a := rfl

@[simp] theorem mapError_error {ε' : Type} (f : ε → ε') (e : ε) :
    (Except.error e : Except ε α).mapError f = .error (f e) := rfl

theorem mapError_eq_ok_iff {ε' : Type} {x : Except ε α} {f : ε → ε'} {a : α} :
    x.mapError f = .ok a ↔ x = .ok a := by
  cases x with
  | error e => simp
  | ok b => simp

/-- A computation ends well exactly when it ends with no error. -/
theorem exists_ok_iff {x : Except ε α} : (∃ a, x = .ok a) ↔ ∀ e, x ≠ .error e := by
  cases x with
  | error e => simp
  | ok a => simp

/-- The result, unless there are faults, of which the first one counts. -/
def checked (faults : List ε) (a : α) : Except ε α :=
  match faults with
  | [] => .ok a
  | e :: _ => .error e

@[simp] theorem checked_nil (a : α) : checked ([] : List ε) a = .ok a := rfl

@[simp] theorem checked_cons (e : ε) (es : List ε) (a : α) : checked (e :: es) a = .error e := rfl

/-- Two checks are one for the faults of both. -/
theorem checked_bind (es fs : List ε) (a : α) {f : α → Except ε β} {b : β}
    (h : f a = checked fs b) : (checked es a >>= f) = checked (es ++ fs) b := by
  cases es with
  | nil => exact h
  | cons e es => rfl

/-- A step that finds no faults leaves the check as it is. -/
theorem checked_bind_ok (es : List ε) (a : α) {f : α → Except ε β} {b : β} (h : f a = .ok b) :
    (checked es a >>= f) = checked es b := by
  rw [checked_bind es [] a h, List.append_nil]

theorem checked_eq_ok_iff {es : List ε} {a b : α} : checked es a = .ok b ↔ es = [] ∧ a = b := by
  cases es with
  | nil => simp
  | cons e es => simp

theorem checked_eq_error_iff {es : List ε} {a : α} {e : ε} :
    checked es a = .error e ↔ es.head? = some e := by
  cases es with
  | nil => simp
  | cons d es => simp

end CloudSearch.Outcome
