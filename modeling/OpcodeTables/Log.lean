import OpcodeTables.Fault

/-!
# Log

What is logged on the way, as a value.  A `Traced` computation carries the
events of its steps in order next to its result, so that a failure keeps what
was logged before it.
-/

namespace OpcodeTables

/-- How important an event is. -/
inductive Level where
  | trace
  | debug
  | info
  | warn
  | error
  deriving DecidableEq, Repr

namespace Level

/-- Name of a level. -/
def text : Level → String
  | .trace => "TRACE"
  | .debug => "DEBUG"
  | .info => "INFO"
  | .warn => "WARN"
  | .error => "ERROR"

/-- Importance, the least first. -/
def rank : Level → Nat
  | .trace => 0
  | .debug => 1
  | .info => 2
  | .warn => 3
  | .error => 4

end Level

/-- Something worth logging. -/
inductive Event where
  | blankRow (table : TableName) (row : Nat)
  | noRecords (table : TableName)
  | parsing (table : TableName) (location : Option Path)
  | generated (table : TableName) (records handlers depth : Nat)
  | delegates (table target : TableName)
  | followed (table target : TableName)
  | matched (table : TableName) (arms : Nat) (field : String)
  | noConfigFile
  | built (tables : Nat)
  | wrote (path : Path)
  deriving DecidableEq, Repr

namespace Event

/-- How important an event is. -/
def level : Event → Level
  | .blankRow .. | .followed .. | .matched .. => .trace
  | .generated .. | .delegates .. | .noConfigFile => .debug
  | .parsing .. | .built .. | .wrote .. => .info
  | .noRecords .. => .warn

/-- The event in words. -/
def message : Event → String
  | .blankRow table row => s!"{table.label}: skipping blank row {row}"
  | .noRecords table =>
      s!"table {table.label} has no records, every instruction will fail to decode"
  | .parsing _ (some location) => s!"Parsing {location.text}"
  | .parsing table none => s!"Parsing table {table.label}"
  | .generated table records handlers depth =>
      s!"{table.label}: {records} records, {handlers} handlers, depth {depth}"
  | .delegates table target => s!"{table.label} delegates to {target.label}"
  | .followed table target => s!"{table.label} -> {target.label}"
  | .matched table arms field => s!"{table.label}: {arms} arms on {field}"
  | .noConfigFile => "no config file, using defaults"
  | .built tables => s!"Built {tables} tables"
  | .wrote path => s!"Wrote {path.text}"

end Event

/-- A sequence of two results succeeds exactly where both do. -/
theorem bind_eq_ok {ε α β : Type} {first : Except ε α} {next : α → Except ε β} {value : β} :
    first >>= next = .ok value ↔ ∃ middle, first = .ok middle ∧ next middle = .ok value := by
  cases first <;> simp [bind, Except.bind]

/-- A sequence of two results fails where one of them does. -/
theorem bind_eq_error {ε α β : Type} {first : Except ε α} {next : α → Except ε β} {fault : ε} :
    first >>= next = .error fault ↔
      first = .error fault ∨ ∃ middle, first = .ok middle ∧ next middle = .error fault := by
  cases first <;> simp [bind, Except.bind]

/-- A computation that may fail, with what it logged either way. -/
structure Traced (ε α : Type) where
  log : List Event
  result : Except ε α

namespace Traced

/-- Succeeds and logs nothing. -/
def ok {ε α : Type} (value : α) : Traced ε α :=
  ⟨[], .ok value⟩

/-- Fails and logs nothing. -/
def fail {ε α : Type} (fault : ε) : Traced ε α :=
  ⟨[], .error fault⟩

/-- Logs one event. -/
def event {ε : Type} (event : Event) : Traced ε Unit :=
  ⟨[event], .ok ()⟩

/-- Logs events in order. -/
def events {ε : Type} (events : List Event) : Traced ε Unit :=
  ⟨events, .ok ()⟩

/-- A result that logs nothing. -/
def ofExcept {ε α : Type} (result : Except ε α) : Traced ε α :=
  ⟨[], result⟩

/-- Goes on with the value of a computation that succeeded. -/
def andThen {ε α β : Type} (first : Traced ε α) (next : α → Traced ε β) : Traced ε β :=
  match first.result with
  | .error fault => ⟨first.log, .error fault⟩
  | .ok value => ⟨first.log ++ (next value).log, (next value).result⟩

instance {ε : Type} : Monad (Traced ε) where
  pure := ok
  bind := andThen

/-- Changes the fault. -/
def mapFault {ε ε' α : Type} (change : ε → ε') (traced : Traced ε α) : Traced ε' α :=
  ⟨traced.log, traced.result.mapError change⟩

@[simp] theorem pure_def {ε α : Type} (value : α) :
    (pure value : Traced ε α) = ⟨[], .ok value⟩ := rfl

theorem bind_ok {ε α β : Type} {first : Traced ε α} {next : α → Traced ε β} {value : α}
    (success : first.result = .ok value) :
    first >>= next = ⟨first.log ++ (next value).log, (next value).result⟩ := by
  change andThen first next = _
  simp [andThen, success]

theorem bind_error {ε α β : Type} {first : Traced ε α} {next : α → Traced ε β} {fault : ε}
    (failure : first.result = .error fault) :
    first >>= next = ⟨first.log, .error fault⟩ := by
  change andThen first next = _
  simp [andThen, failure]

/-- What is logged does not bear on the result. -/
theorem result_bind {ε α β : Type} (first : Traced ε α) (next : α → Traced ε β) :
    (first >>= next).result = first.result >>= fun value => (next value).result := by
  cases found : first.result with
  | error fault => rw [bind_error found]; rfl
  | ok value => rw [bind_ok found]; rfl

/-- A sequence succeeds exactly where both of its parts do. -/
theorem result_bind_eq_ok {ε α β : Type} {first : Traced ε α} {next : α → Traced ε β}
    {value : β} :
    (first >>= next).result = .ok value ↔
      ∃ middle, first.result = .ok middle ∧ (next middle).result = .ok value := by
  rw [result_bind, bind_eq_ok]

/-- A sequence fails where one of its parts does. -/
theorem result_bind_eq_error {ε α β : Type} {first : Traced ε α} {next : α → Traced ε β}
    {fault : ε} :
    (first >>= next).result = .error fault ↔
      first.result = .error fault ∨
        ∃ middle, first.result = .ok middle ∧ (next middle).result = .error fault := by
  rw [result_bind, bind_eq_error]

end Traced

end OpcodeTables
