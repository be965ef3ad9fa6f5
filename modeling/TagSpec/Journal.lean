/-!
# Journals

Computations that may fail and that report events on the way. What was reported before a failure
stays reported. `result_bind` says that events never influence a result.
-/

namespace TagSpec

/-- How much an event matters, from the most to the least. -/
inductive Level where
  | error
  | warn
  | info
  | debug
  | trace
deriving DecidableEq, Repr

namespace Level

def all : List Level := [error, warn, info, debug, trace]

def word : Level → String
  | error => "error"
  | warn => "warn"
  | info => "info"
  | debug => "debug"
  | trace => "trace"

end Level

/-- The part of the program that reports. -/
inductive Topic where
  | command
  | package
  | tags
  | filter
  | generation
  | rendering
  | output
deriving DecidableEq, Repr

/-- A datum of an event. -/
inductive Datum where
  | text (s : String)
  | number (n : Nat)
deriving DecidableEq, Repr

/-- Something that happened. -/
structure Event where
  level : Level
  topic : Topic
  message : String
  data : List (String × Datum)
deriving DecidableEq, Repr

/-- A computation with the events that it reported and the result that it came to. -/
structure Journal (ε α : Type) where
  events : List Event
  result : Except ε α

/-- Failures of another type make no difference to what succeeds. -/
theorem mapError_eq_ok_iff {ε ε' α : Type} {f : ε → ε'} {r : Except ε α} {a : α} :
    r.mapError f = .ok a ↔ r = .ok a := by
  cases r with
  | ok b => exact ⟨fun h => congrArg _ (Except.ok.inj h), fun h => congrArg _ (Except.ok.inj h)⟩
  | error e => exact ⟨nofun, nofun⟩

theorem mapError_eq_error_iff {ε ε' α : Type} {f : ε → ε'} {r : Except ε α} {e' : ε'} :
    r.mapError f = .error e' ↔ ∃ e, r = .error e ∧ e' = f e := by
  cases r with
  | ok a => exact ⟨nofun, nofun⟩
  | error e =>
    constructor
    · intro h
      exact ⟨e, rfl, (Except.error.inj h).symm⟩
    · rintro ⟨_, hsame, rfl⟩
      cases hsame
      rfl

theorem map_eq_ok_iff {ε α β : Type} {f : α → β} {r : Except ε α} {b : β} :
    r.map f = .ok b ↔ ∃ a, r = .ok a ∧ b = f a := by
  cases r <;> simp [Except.map, eq_comm]

theorem map_eq_error_iff {ε α β : Type} {f : α → β} {r : Except ε α} {e : ε} :
    r.map f = .error e ↔ r = .error e := by
  cases r <;> simp [Except.map]

theorem bind_eq_ok_iff {ε α β : Type} {r : Except ε α} {f : α → Except ε β} {b : β} :
    r >>= f = .ok b ↔ ∃ a, r = .ok a ∧ f a = .ok b := by
  cases r <;> simp [bind, Except.bind]

/-- Two steps in a row fail where the one fails, or where it succeeds and the other fails. -/
theorem bind_eq_error_iff {ε α β : Type} {r : Except ε α} {f : α → Except ε β} {e : ε} :
    r >>= f = .error e ↔ r = .error e ∨ ∃ a, r = .ok a ∧ f a = .error e := by
  cases r <;> simp [bind, Except.bind]

theorem exists_eq_ok_of_isOk {ε α : Type} {r : Except ε α} (h : r.isOk = true) :
    ∃ a, r = .ok a := by
  cases r with
  | ok a => exact ⟨a, rfl⟩
  | error e => cases h

theorem eq_ok_of_toOption {ε α : Type} {r : Except ε α} {a : α} (h : r.toOption = some a) :
    r = .ok a := by
  cases r <;> simp_all [Except.toOption]

namespace Journal

variable {ε ε' α β : Type}

@[ext] theorem ext {a b : Journal ε α} (he : a.events = b.events) (hr : a.result = b.result) :
    a = b := by
  cases a
  cases b
  simp_all

protected def pure (a : α) : Journal ε α := ⟨[], .ok a⟩

/-- Goes on with the value of a computation, unless it failed. -/
protected def bind (x : Journal ε α) (f : α → Journal ε β) : Journal ε β :=
  match x.result with
  | .error e => ⟨x.events, .error e⟩
  | .ok a => ⟨x.events ++ (f a).events, (f a).result⟩

instance : Monad (Journal ε) where
  pure := Journal.pure
  bind := Journal.bind

def report (e : Event) : Journal ε Unit := ⟨[e], .ok ()⟩

/-- A computation that reports nothing. -/
def ofExcept (r : Except ε α) : Journal ε α := ⟨[], r⟩

def fail (e : ε) : Journal ε α := ⟨[], .error e⟩

/-- The same computation with failures of another type. -/
def mapError (f : ε → ε') (x : Journal ε α) : Journal ε' α := ⟨x.events, x.result.mapError f⟩

@[simp] theorem result_pure (a : α) : (pure a : Journal ε α).result = .ok a := rfl

@[simp] theorem result_bind (x : Journal ε α) (f : α → Journal ε β) :
    (x >>= f).result = x.result.bind fun a => (f a).result := by
  show (Journal.bind x f).result = _
  unfold Journal.bind
  cases x.result <;> simp [Except.bind]

/-- Two computations in a row succeed if the one and then the other does. -/
theorem result_bind_eq_ok_iff {x : Journal ε α} {f : α → Journal ε β} {b : β} :
    (x >>= f).result = .ok b ↔ ∃ a, x.result = .ok a ∧ (f a).result = .ok b := by
  rw [result_bind]
  cases x.result <;> simp [Except.bind]

/-- Two computations in a row fail where the one fails, or where it succeeds and the other fails. -/
theorem result_bind_eq_error_iff {x : Journal ε α} {f : α → Journal ε β} {e : ε} :
    (x >>= f).result = .error e ↔
      x.result = .error e ∨ ∃ a, x.result = .ok a ∧ (f a).result = .error e := by
  rw [result_bind]
  cases x.result <;> simp [Except.bind]

/-- What a computation reports stands in front of what is reported once it has succeeded. -/
theorem events_bind_of_ok {x : Journal ε α} {a : α} (h : x.result = .ok a) (f : α → Journal ε β) :
    (x >>= f).events = x.events ++ (f a).events := by
  show (Journal.bind x f).events = _
  unfold Journal.bind
  rw [h]

/-- Nothing is done behind a failure. -/
theorem bind_of_error {x : Journal ε α} {e : ε} (h : x.result = .error e) (f : α → Journal ε β) :
    x >>= f = ⟨x.events, .error e⟩ := by
  show Journal.bind x f = _
  unfold Journal.bind
  rw [h]

/-- What is reported behind a computation depends on its result only. -/
theorem exists_events_bind (r : Except ε α) (f : α → Journal ε β) :
    ∃ rest, ∀ x : Journal ε α, x.result = r → (x >>= f).events = x.events ++ rest := by
  cases r with
  | error e => exact ⟨[], fun x h => by rw [bind_of_error h, List.append_nil]⟩
  | ok a => exact ⟨(f a).events, fun x h => events_bind_of_ok h f⟩

@[simp] theorem result_report (e : Event) : (report e : Journal ε Unit).result = .ok () := rfl

@[simp] theorem result_ofExcept (r : Except ε α) : (ofExcept r).result = r := rfl

@[simp] theorem result_fail (e : ε) : (fail e : Journal ε α).result = .error e := rfl

@[simp] theorem result_mapError (f : ε → ε') (x : Journal ε α) :
    (x.mapError f).result = x.result.mapError f := rfl

end Journal

end TagSpec
