/-! # Results that may be errors

Equations for steps that follow one another, each of which may end the work with an error. A
pass over a list ends with the error of the first element that has one, and otherwise does its
work as if no element could fail.
-/

namespace TableQuery.Result

variable {ε α β : Type}

@[simp] theorem ok_bind (value : α) (next : α → Except ε β) :
    (Except.ok value >>= next) = next value := rfl

@[simp] theorem error_bind (error : ε) (next : α → Except ε β) :
    (Except.error error >>= next) = .error error := rfl

@[simp] theorem pure_eq_ok (value : α) : (pure value : Except ε α) = .ok value := rfl

theorem bind_eq_ok_iff {result : Except ε α} {next : α → Except ε β} {final : β} :
    (result >>= next) = .ok final ↔ ∃ value, result = .ok value ∧ next value = .ok final := by
  cases result <;> simp

theorem mapError_eq_ok_iff {ε' : Type} {f : ε → ε'} {result : Except ε α} {value : α} :
    result.mapError f = .ok value ↔ result = .ok value := by
  cases result with
  | error error => exact ⟨nofun, nofun⟩
  | ok other => exact ⟨fun h => congrArg _ (Except.ok.inj h), fun h => congrArg _ (Except.ok.inj h)⟩

theorem map_eq_ok_iff {f : α → β} {result : Except ε α} {final : β} :
    result.map f = .ok final ↔ ∃ value, result = .ok value ∧ f value = final := by
  cases result <;> simp [Except.map]

theorem map_eq_error_iff {f : α → β} {result : Except ε α} {error : ε} :
    result.map f = .error error ↔ result = .error error := by
  cases result <;> simp [Except.map]

def errorOr (error? : Option ε) (value : α) : Except ε α :=
  match error? with
  | some error => .error error
  | none => .ok value

@[simp] theorem errorOr_some (error : ε) (value : α) : errorOr (some error) value = .error error :=
  rfl

@[simp] theorem errorOr_none (value : α) : errorOr (none : Option ε) value = .ok value := rfl

theorem errorOr_eq_error_iff {error? : Option ε} {value : α} {error : ε} :
    errorOr error? value = .error error ↔ error? = some error := by
  cases error? with
  | none => simp
  | some other => simp

theorem errorOr_eq_ok_iff {error? : Option ε} {value other : α} :
    errorOr error? value = .ok other ↔ error? = none ∧ value = other := by
  cases error? with
  | none => simp
  | some error => simp

theorem mapM_eq_ok_iff {f : α → Except ε β} {xs : List α} {values : List β} :
    xs.mapM f = .ok values ↔ xs.map f = values.map .ok := by
  induction xs generalizing values with
  | nil => cases values <;> simp
  | cons x xs ih =>
      rw [List.mapM_cons, List.map_cons, bind_eq_ok_iff]
      cases values with
      | nil => simp [bind_eq_ok_iff]
      | cons value values =>
          rw [List.map_cons, List.cons.injEq, ← ih]
          simp [bind_eq_ok_iff]

theorem exists_mapM_eq_error {f : α → Except ε β} {x : α} {error : ε} (fails : f x = .error error)
    (before after : List α) :
    ∃ first, (before ++ x :: after).mapM f = .error first ∧
      ((∀ y ∈ before, ∃ value, f y = .ok value) → first = error) := by
  induction before with
  | nil => exact ⟨error, by rw [List.nil_append, List.mapM_cons, fails]; rfl, fun _ => rfl⟩
  | cons y before ih =>
      rw [List.cons_append, List.mapM_cons]
      cases here : f y with
      | error other =>
          refine ⟨other, rfl, fun fine => ?_⟩
          obtain ⟨value, read⟩ := fine y List.mem_cons_self
          rw [here] at read
          cases read
      | ok value =>
          obtain ⟨first, later, decided⟩ := ih
          refine ⟨first, by rw [ok_bind, later]; rfl, fun fine => decided fun z member => ?_⟩
          exact fine z (List.mem_cons_of_mem y member)

section Passes

variable {error? : α → Option ε}

theorem filterAuxM_errorOr (keep : α → Bool) (xs kept : List α) :
    List.filterAuxM (fun x => errorOr (error? x) (keep x)) xs kept =
      errorOr (xs.findSome? error?) ((xs.filter keep).reverse ++ kept) := by
  induction xs generalizing kept with
  | nil => rfl
  | cons x xs ih =>
      rw [List.filterAuxM, List.findSome?_cons, List.filter_cons]
      cases error? x with
      | some error => rfl
      | none =>
          rw [errorOr_none, ok_bind, ih]
          cases keep x with
          | false => rfl
          | true => simp

theorem filterM_errorOr (keep : α → Bool) (xs : List α) :
    (xs.filterM fun x => errorOr (error? x) (keep x)) =
      errorOr (xs.findSome? error?) (xs.filter keep) := by
  rw [List.filterM, filterAuxM_errorOr, List.append_nil]
  cases xs.findSome? error? with
  | some error => rfl
  | none => simp

theorem mapM_errorOr (f : α → β) (xs : List α) :
    (xs.mapM fun x => errorOr (error? x) (f x)) =
      errorOr (xs.findSome? error?) (xs.map f) := by
  induction xs with
  | nil => rfl
  | cons x xs ih =>
      rw [List.mapM_cons, ih, List.findSome?_cons]
      cases error? x with
      | some error => rfl
      | none => cases xs.findSome? error? <;> rfl

theorem foldlM_errorOr (f : β → α → β) (start : β) (xs : List α) :
    (xs.foldlM (fun total x => errorOr (error? x) (f total x)) start) =
      errorOr (xs.findSome? error?) (xs.foldl f start) := by
  induction xs generalizing start with
  | nil => rfl
  | cons x xs ih =>
      rw [List.foldlM_cons, List.findSome?_cons]
      cases error? x with
      | some error => rfl
      | none => exact ih (f start x)

end Passes

end TableQuery.Result
