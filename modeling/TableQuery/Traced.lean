import TableQuery.Event

/-! # Traced results

A traced result carries, beside a value or an error, the events reported on the way to it and
the names of the tables that were asked for. What came before an error stays.
-/

namespace TableQuery

structure Traced (ε α : Type) where
  events : List Event
  /-- The table names asked for, in order. -/
  lookups : List String
  result : Except ε α

namespace Traced

variable {ε ε' α β : Type}

/-- A result with nothing to report. -/
def ofExcept (result : Except ε α) : Traced ε α := ⟨[], [], result⟩

def pure (value : α) : Traced ε α := ofExcept (.ok value)

def fail (error : ε) : Traced ε α := ofExcept (.error error)

def emit (event : Event) : Traced ε Unit := ⟨[event], [], .ok ()⟩

/-- Reports events that are known all at once. -/
def emitAll (events : List Event) : Traced ε Unit := ⟨events, [], .ok ()⟩

/-- Records that a table was asked for. -/
def lookup (name : String) : Traced ε Unit := ⟨[], [name], .ok ()⟩

def bind (first : Traced ε α) (next : α → Traced ε β) : Traced ε β :=
  match first.result with
  | .error error => ⟨first.events, first.lookups, .error error⟩
  | .ok value =>
      let second := next value
      ⟨first.events ++ second.events, first.lookups ++ second.lookups, second.result⟩

instance : Monad (Traced ε) where
  pure := pure
  bind := bind

/-- The same report with the error put in other terms. -/
def mapError (f : ε → ε') (traced : Traced ε α) : Traced ε' α :=
  ⟨traced.events, traced.lookups, traced.result.mapError f⟩

@[simp] theorem pure_eq (value : α) : (Pure.pure value : Traced ε α) = ⟨[], [], .ok value⟩ := rfl

@[simp] theorem ok_bind (events : List Event) (lookups : List String) (value : α)
    (next : α → Traced ε β) :
    ((⟨events, lookups, .ok value⟩ : Traced ε α) >>= next) =
      ⟨events ++ (next value).events, lookups ++ (next value).lookups, (next value).result⟩ := rfl

@[simp] theorem error_bind (events : List Event) (lookups : List String) (error : ε)
    (next : α → Traced ε β) :
    ((⟨events, lookups, .error error⟩ : Traced ε α) >>= next) =
      ⟨events, lookups, .error error⟩ := rfl

instance : LawfulMonad (Traced ε) := LawfulMonad.mk' (Traced ε)
  (by
    rintro α ⟨events, lookups, _ | _⟩ <;> simp [Functor.map, bind, pure, ofExcept])
  (by intros; simp)
  (by
    rintro α β γ ⟨events, lookups, error | value⟩ f g
    · simp
    · simp only [ok_bind]
      cases h : (f value).result with
      | error error =>
          simp [Bind.bind, bind, h]
      | ok value =>
          simp [Bind.bind, bind, h])

end Traced

end TableQuery
