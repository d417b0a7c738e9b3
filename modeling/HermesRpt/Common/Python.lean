import Mathlib.Data.Rat.Defs
import Mathlib.Data.List.Basic

/-!
# HermesRpt.Common.Python

The parts of Python and its standard library the modelled code works with.

* `Uuid`, `DateTime`, `Date` : `uuid.UUID`, an aware `datetime` and a `date`. A driver returns an
  aware `datetime` for a timestamp column, so a `DateTime` has an offset from UTC.
* `reprStr`  : `repr` of a `str`, for the texts of errors.
* `PyError`  : a raised exception, as its class and its text.
* `Value`    : a scalar; `Option Value` is a scalar or `None`.
* `Stdlib`   : library functions that are too large to define here (Unicode case mapping, parsing
  and printing of numbers and timestamps, SHA-256, regular expressions given as data). Every
  result is about any such functions.
-/

namespace HermesRpt

/-- `uuid.UUID`, as its 128-bit integer. -/
abbrev Uuid := Nat

/-- The last `n` hexadecimal digits of `u`, lower case. -/
def hexDigits (u : Nat) : Nat → List Char
  | 0 => []
  | n + 1 => hexDigits (u / 16) n ++ [Nat.digitChar (u % 16)]

/-- `str(u)`: 8-4-4-4-12 hexadecimal digits. -/
def uuidStr (u : Uuid) : String :=
  let h := hexDigits u 32
  String.ofList ((h.take 8) ++ ['-'] ++ (h.drop 8).take 4 ++ ['-'] ++ (h.drop 12).take 4 ++ ['-'] ++
    (h.drop 16).take 4 ++ ['-'] ++ h.drop 20)

/-! ## Texts -/

/-- One character of `repr`, inside quotes `q`. -/
def reprChar (q c : Char) : List Char :=
  if c = q ∨ c = '\\' then ['\\', c]
  else if c = '\n' then ['\\', 'n']
  else if c = '\r' then ['\\', 'r']
  else if c = '\t' then ['\\', 't']
  else if c.toNat < 32 ∨ c.toNat = 127 then
    ['\\', 'x'] ++ hexDigits c.toNat 2
  else [c]

/-- `repr(s)`: single quotes, unless only a single quote occurs in `s`. -/
def reprStr (s : String) : String :=
  let cs := s.toList
  let q := if '\'' ∈ cs ∧ '"' ∉ cs then '"' else '\''
  String.ofList ([q] ++ cs.flatMap (reprChar q) ++ [q])

/-- `repr` of a list of strings. -/
def reprStrList (ss : List String) : String :=
  "[" ++ ", ".intercalate (ss.map reprStr) ++ "]"

/-! ## Time -/

def microsPerSecond : Int := 1000000
def microsPerDay : Int := 86400 * microsPerSecond

/-- An aware `datetime`: microseconds since 1970-01-01T00:00:00Z, and the microseconds its own
clock is ahead of UTC. Order and differences are those of the instants. -/
structure DateTime where
  micros : Int
  utcoffset : Int := 0
  deriving DecidableEq, Repr

namespace DateTime

instance : LT DateTime := ⟨fun a b => a.micros < b.micros⟩
instance : LE DateTime := ⟨fun a b => a.micros ≤ b.micros⟩
instance (a b : DateTime) : Decidable (a < b) := inferInstanceAs (Decidable (a.micros < b.micros))
instance (a b : DateTime) : Decidable (a ≤ b) := inferInstanceAs (Decidable (a.micros ≤ b.micros))

/-- `.replace(tzinfo=None)`: the time its own clock shows. -/
def wall (t : DateTime) : Int := t.micros + t.utcoffset

/-- `.hour` -/
def hour (t : DateTime) : Int := t.wall / (3600 * microsPerSecond) % 24

/-- The day its own calendar shows, counted from 1970-01-01. -/
def day (t : DateTime) : Int := t.wall / microsPerDay

/-- `.weekday()`: Monday is 0; 1970-01-01 was a Thursday. -/
def weekday (t : DateTime) : Int := (t.day + 3) % 7

/-- `t - timedelta(days=n)` -/
def minusDays (t : DateTime) (n : Int) : DateTime := { t with micros := t.micros - n * microsPerDay }

/-- `(t - u).total_seconds()` -/
def secondsSince (t u : DateTime) : ℚ := ((t.micros - u.micros : Int) : ℚ) / 1000000

/-- `(t - u).days` -/
def daysSince (t u : DateTime) : Int := (t.micros - u.micros) / microsPerDay

end DateTime

/-- A `date`: days since 1970-01-01. -/
structure Date where
  days : Int
  deriving DecidableEq, Repr

/-! ## Exceptions -/

/-- The exception classes the modelled code raises. -/
inductive ErrorClass where
  | TenantMismatchError
  | AuthorizationError
  | InvalidModelStageTransitionError
  | IncompatibleAdapterError
  | ArtifactIntegrityError
  | NoCheckpointArtifactError
  | CircuitOpenError
  | TimeoutExceededError
  | InvalidMappingStateTransitionError
  | MappingNotProductionReadyError
  | MappingValidationError
  | ExpressionTooDeepError
  | ExpressionEvaluationError
  | TargetMappingUnavailableError
  | TargetRowNotFoundError
  | TargetRecordNotFoundError
  | ColumnNotDirectlyMappedError
  | QueryCostExceededError
  | DisallowedObjectError
  | WriteStatementRejectedError
  | ConnectionDisabledError
  | ConnectionNotReadyError
  | SecretNotFoundError
  | UnknownDeriveFunctionError
  | UnknownLabelFunctionError
  | DatasetTenantMismatchError
  | NoProductionModelError
  | PredictionTaskNotConfiguredError
  | SharedPretrainingConsentError
  | IntegrityError
  | StaleDataError
  | MultipleResultsFound
  | DatabaseError
  | ValidationError
  | ValueError
  | KeyError
  | IndexError
  | TypeError
  | AttributeError
  | AssertionError
  | FileNotFoundError
  | IsADirectoryError
  | ZeroDivisionError
  deriving DecidableEq, Repr

/-- A raised exception: its class and `str(exc)`. -/
structure PyError where
  cls : ErrorClass
  message : String
  deriving DecidableEq, Repr

/-! ## Values -/

/-- A value of a column, of a document or of a feature, other than `None`. A float is the rational
number it stands for; a list or a dict is its `str()`. -/
inductive Value where
  | bool (b : Bool)
  | int (n : Int)
  | float (x : ℚ)
  | str (s : String)
  | datetime (t : DateTime)
  | date (d : Date)
  | json (text : String)
  deriving DecidableEq, Repr

/-! ## The rest of the standard library -/

/-- Library functions taken as given. -/
structure Stdlib where
  /-- `str(x)` of a float. -/
  floatStr : ℚ → String
  /-- `f"{x:.4f}"` -/
  fixed4 : ℚ → String
  /-- `str.upper` -/
  upper : String → String
  /-- `str.lower` -/
  lower : String → String
  /-- `str.strip` -/
  strip : String → String
  /-- `str(x)` of a datetime and of a date. -/
  datetimeStr : DateTime → String
  dateStr : Date → String
  /-- `datetime.fromisoformat`, a naive result read as UTC; `none` is a `ValueError`. -/
  fromisoformat : String → Option DateTime
  /-- `int(s)` and `float(s)` of a string; `none` is a `ValueError`. -/
  intOfStr : String → Option Int
  floatOfStr : String → Option ℚ
  /-- `math.sqrt` -/
  sqrt : ℚ → ℚ
  /-- A product of two floats, where the rounding matters. -/
  mulFloat : ℚ → ℚ → ℚ
  /-- The single-precision number an element of a tensor keeps. -/
  float32 : ℚ → ℚ
  /-- `hashlib.sha256(s.encode("utf-8")).hexdigest()` -/
  sha256 : String → String
  /-- The first eight bytes of the digest, big endian. -/
  sha256Prefix : String → Nat
  /-- The order in which a set of these strings is iterated. -/
  setOrder : List String → List String
  mem_setOrder : ∀ l s, s ∈ setOrder l ↔ s ∈ l

/-- `str(v)` -/
def Value.toStr (std : Stdlib) : Value → String
  | .bool b => if b then "True" else "False"
  | .int n => toString n
  | .float x => std.floatStr x
  | .str s => s
  | .datetime t => std.datetimeStr t
  | .date d => std.dateStr d
  | .json text => text

namespace Value

/-- The name of the type in error texts, of a list or a dict by its text. -/
def typeName : Value → String
  | bool _ => "bool"
  | int _ => "int"
  | float _ => "float"
  | str _ => "str"
  | datetime _ => "datetime.datetime"
  | date _ => "datetime.date"
  | json text => if text.startsWith "[" then "list" else "dict"

/-- The number a `bool`, an `int` or a `float` is. -/
def number? : Value → Option ℚ
  | bool b => some (if b then 1 else 0)
  | int n => some n
  | float x => some x
  | _ => none

/-- `v == w`: numbers by their value, and datetimes by their instant. -/
def pyEq (v w : Value) : Bool :=
  match v, w with
  | datetime t, datetime u => t.micros == u.micros
  | _, _ => match v.number?, w.number? with
    | some x, some y => x == y
    | none, none => v == w
    | _, _ => false

/-- `bool(v)` -/
def truth : Value → Bool
  | bool b => b
  | int n => n ≠ 0
  | float x => x ≠ 0
  | str s => s ≠ ""
  | json text => text ≠ "[]" ∧ text ≠ "\x7b\x7d"
  | _ => true

/-- `float(v)` -/
def toFloat (std : Stdlib) (v : Value) : Except PyError ℚ :=
  match v, v.number? with
  | _, some x => .ok x
  | str s, none => match std.floatOfStr s with
    | some x => .ok x
    | none => .error ⟨.ValueError, "could not convert string to float: " ++ reprStr s⟩
  | v, none => .error ⟨.TypeError,
      "float() argument must be a string or a real number, not '" ++ v.typeName ++ "'"⟩

/-- The part of `x` before the decimal point. -/
def truncate (x : ℚ) : Int := if x < 0 then -((-x).num / (-x).den) else x.num / x.den

/-- `int(v)` -/
def toInt (std : Stdlib) (v : Value) : Except PyError Int :=
  match v with
  | bool b => .ok (if b then 1 else 0)
  | int n => .ok n
  | float x => .ok (truncate x)
  | str s => match std.intOfStr s with
    | some n => .ok n
    | none => .error ⟨.ValueError, "invalid literal for int() with base 10: " ++ reprStr s⟩
  | v => .error ⟨.TypeError, "int() argument must be a string, a bytes-like object or a real number, " ++
      "not '" ++ v.typeName ++ "'"⟩

/-- `v` as a member of a set or a key; a list or a dict is not hashable. -/
def hashed (v : Value) : Except PyError Value :=
  match v with
  | json _ => .error ⟨.TypeError, "unhashable type: '" ++ v.typeName ++ "'"⟩
  | v => .ok v

end Value

/-- `datetime.fromisoformat(s)`, a naive result read as UTC. -/
def parseDatetime (std : Stdlib) (s : String) : Except PyError DateTime :=
  match std.fromisoformat s with
  | some t => .ok t
  | none => .error ⟨.ValueError, "Invalid isoformat string: " ++ reprStr s⟩

end HermesRpt
