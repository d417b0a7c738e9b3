import HermesRpt.Lib.Pattern
import Mathlib.Data.Rat.Defs

/-!
# HermesRpt.Common.Logging

The processor that redacts a log event before it is emitted. A value under a sensitive key is
replaced whole. Any other string has what looks like a credential or an e-mail address replaced,
and containers are redacted element by element.

* `sensitiveKeys`, `sensitiveValuePatterns` : the patterns of keys, and those of texts.
* `LogValue`        : the values of an event. The type of the keys and its `str` are parameters.
* `redactProcessor` : the processor on an event.
* `AgreeItems`      : two events that differ in values under sensitive keys only, at any depth.
-/

namespace HermesRpt

namespace Logging

open Patterns

/-! ## Characters -/

/-- The letter a character is read as with `re.IGNORECASE`, if it is read as one of `a`..`z`. -/
def ignoreCase (c : Char) : Char :=
  if c = '\u0130' ∨ c = '\u0131' then 'i'
  else if c = '\u017F' then 's'
  else if c = '\u212A' then 'k'
  else c.toLower

/-- `\s` -/
def isSpace (c : Char) : Bool :=
  let n := c.toNat
  (9 ≤ n && n ≤ 13) || (28 ≤ n && n ≤ 32) || n == 0x85 || n == 0xA0 || n == 0x1680 ||
    (0x2000 ≤ n && n ≤ 0x200A) || n == 0x2028 || n == 0x2029 || n == 0x202F || n == 0x205F ||
    n == 0x3000

def schemeChar (c : Char) : Bool := c.isAlphanum || c == '+' || c == '.' || c == '-'

def userChar (c : Char) : Bool := c != ':' && !isSpace c

def passwordChar (c : Char) : Bool := c != '@' && !isSpace c

def tokenChar (c : Char) : Bool :=
  (ignoreCase c).isAlphanum || c == '-' || c == '_' || c == '.'

def localChar (c : Char) : Bool :=
  c.isAlphanum || c == '.' || c == '_' || c == '%' || c == '+' || c == '-'

def domainChar (c : Char) : Bool := c.isAlphanum || c == '.' || c == '-'

/-- The character itself. -/
def lit (c : Char) : Item := .one (· == c)

/-- The letter in either case. -/
def letter (c : Char) : Item := .one (ignoreCase · == c)

/-! ## Patterns -/

def REDACTED : String := "***REDACTED***"

/-- The alternatives of `_SENSITIVE_KEYS`. Between two words of one there may be a `_` or a `-`. -/
def sensitiveKeys : List (List String) :=
  [["password"], ["secret"], ["token"], ["credential"], ["api", "key"], ["authorization"],
    ["access", "key"], ["connection", "string"], ["dsn"], ["private", "key"], ["email"],
    ["display", "name"], ["full", "name"], ["phone", "number"]]

def keyItems (words : List String) : List Item :=
  [Item.opt fun c => c == '_' || c == '-'].intercalate (words.map fun w => w.toList.map letter)

def isSensitiveKey (key : String) : Bool :=
  sensitiveKeys.any fun words => occurs (keyItems words) key.toList

/-- `scheme://user:pass@` -/
def credentialUrl : Pattern where
  first := Char.isAlpha
  items := [.many schemeChar, lit ':', lit '/', lit '/', .one userChar, .many userChar, lit ':',
    .one passwordChar, .many passwordChar, lit '@']

def bearerToken : Pattern where
  first := (ignoreCase · == 'b')
  items := [letter 'e', letter 'a', letter 'r', letter 'e', letter 'r', .one isSpace,
    .many isSpace, .one tokenChar, .many tokenChar]

def emailAddress : Pattern where
  first := localChar
  items := [.many localChar, lit '@', .one domainChar, .many domainChar, lit '.',
    .one Char.isAlpha, .one Char.isAlpha, .many Char.isAlpha]

/-- `password=` and what follows it. -/
def passwordKeyword : Pattern where
  first := (ignoreCase · == 'p')
  items := [letter 'a', letter 's', letter 's', letter 'w', letter 'o', letter 'r', letter 'd',
    lit '=', .one (!isSpace ·), .many (!isSpace ·)]

def sensitiveValuePatterns : List Pattern :=
  [credentialUrl, bearerToken, emailAddress, passwordKeyword]

/-! ## Redaction -/

/-- What stands for a match: the marker and a space. -/
def marker : List Char := REDACTED.toList ++ [' ']

def redactText (text : List Char) : List Char :=
  sensitiveValuePatterns.foldl (fun redacted pattern => pattern.sub marker redacted) text

/-- A value in an event. A dict keeps the order of its keys; an object of any other type is its
identity and its `repr`. -/
inductive LogValue (κ : Type) where
  | none
  | bool (b : Bool)
  | int (n : Int)
  | float (x : ℚ)
  | str (s : String)
  | dict (items : List (κ × LogValue κ))
  | list (items : List (LogValue κ))
  | tuple (items : List (LogValue κ))
  | object (id : Nat) (repr : String)

section

variable {κ : Type} (keyStr : κ → String)

mutual

/-- `_redact_value` -/
def redactValue : LogValue κ → LogValue κ
  | .str s => .str (String.ofList (redactText s.toList))
  | .dict items => .dict (redactItems items)
  | .list items => .list (redactAll items)
  | .tuple items => .tuple (redactAll items)
  | .none => .none
  | .bool b => .bool b
  | .int n => .int n
  | .float x => .float x
  | .object id repr =>
    if sensitiveValuePatterns.any fun pattern => occurs pattern.row repr.toList then .str REDACTED
    else .object id repr

def redactAll : List (LogValue κ) → List (LogValue κ)
  | [] => []
  | v :: vs => redactValue v :: redactAll vs

/-- The items of a dict, each by `_redact_processor_value`. -/
def redactItems : List (κ × LogValue κ) → List (κ × LogValue κ)
  | [] => []
  | (k, v) :: items =>
    (k, if isSensitiveKey (keyStr k) then .str REDACTED else redactValue v) :: redactItems items

end

def redactProcessorValue (key : κ) (value : LogValue κ) : LogValue κ :=
  if isSensitiveKey (keyStr key) then .str REDACTED else redactValue keyStr value

def redactProcessor (event : List (κ × LogValue κ)) : List (κ × LogValue κ) :=
  event.map fun (k, v) => (k, redactProcessorValue keyStr k v)

theorem redactAll_eq_map (vs : List (LogValue κ)) :
    redactAll keyStr vs = vs.map (redactValue keyStr) := by
  induction vs with
  | nil => simp [redactAll]
  | cons v vs ih => simp [redactAll, ih]

theorem redactItems_eq (items : List (κ × LogValue κ)) :
    redactItems keyStr items = redactProcessor keyStr items := by
  induction items with
  | nil => simp [redactItems, redactProcessor]
  | cons p items ih =>
    obtain ⟨k, v⟩ := p
    rw [redactItems, ih]
    simp [redactProcessor, redactProcessorValue]

/-! ## Values under sensitive keys -/

mutual

inductive AgreeOutside : LogValue κ → LogValue κ → Prop
  | same (v : LogValue κ) : AgreeOutside v v
  | dict {xs ys : List (κ × LogValue κ)} : AgreeItems xs ys → AgreeOutside (.dict xs) (.dict ys)
  | list {xs ys : List (LogValue κ)} : AgreeAll xs ys → AgreeOutside (.list xs) (.list ys)
  | tuple {xs ys : List (LogValue κ)} : AgreeAll xs ys → AgreeOutside (.tuple xs) (.tuple ys)

inductive AgreeAll : List (LogValue κ) → List (LogValue κ) → Prop
  | nil : AgreeAll [] []
  | cons {v w : LogValue κ} {vs ws : List (LogValue κ)} :
      AgreeOutside v w → AgreeAll vs ws → AgreeAll (v :: vs) (w :: ws)

/-- The same keys in the same order. The values agree, or stand under a sensitive key. -/
inductive AgreeItems : List (κ × LogValue κ) → List (κ × LogValue κ) → Prop
  | nil : AgreeItems [] []
  | hidden {k : κ} (v w : LogValue κ) {xs ys : List (κ × LogValue κ)} :
      isSensitiveKey (keyStr k) = true → AgreeItems xs ys → AgreeItems ((k, v) :: xs) ((k, w) :: ys)
  | shown {k : κ} {v w : LogValue κ} {xs ys : List (κ × LogValue κ)} :
      AgreeOutside v w → AgreeItems xs ys → AgreeItems ((k, v) :: xs) ((k, w) :: ys)

end

variable {keyStr}

mutual

theorem redactValue_agree {v w : LogValue κ} (h : AgreeOutside keyStr v w) :
    redactValue keyStr v = redactValue keyStr w := by
  cases h with
  | same => rfl
  | dict h => simp only [redactValue, redactItems_agree h]
  | list h => simp only [redactValue, redactAll_agree h]
  | tuple h => simp only [redactValue, redactAll_agree h]

theorem redactAll_agree {vs ws : List (LogValue κ)} (h : AgreeAll keyStr vs ws) :
    redactAll keyStr vs = redactAll keyStr ws := by
  cases h with
  | nil => rfl
  | cons h hs => simp only [redactAll, redactValue_agree h, redactAll_agree hs]

theorem redactItems_agree {xs ys : List (κ × LogValue κ)} (h : AgreeItems keyStr xs ys) :
    redactItems keyStr xs = redactItems keyStr ys := by
  cases h with
  | nil => rfl
  | hidden v w hk hs => simp only [redactItems, hk, redactItems_agree hs, if_true]
  | shown h hs => simp only [redactItems, redactValue_agree h, redactItems_agree hs]

end

/-- What stands under sensitive keys does not show in the redacted event. -/
theorem redactProcessor_agree {event event' : List (κ × LogValue κ)}
    (h : AgreeItems keyStr event event') :
    redactProcessor keyStr event = redactProcessor keyStr event' := by
  rw [← redactItems_eq, ← redactItems_eq]
  exact redactItems_agree h

end

namespace Sample

/-- A login with a password, and with an API key in a dict in a tuple in a list. -/
def login (password apiKey : LogValue String) : List (String × LogValue String) :=
  [("event", .str "login"),
    ("user", .dict [("name", .str "kim"), ("Password", password)]),
    ("hosts", .list [.tuple [.int 1, .dict [("api-key", apiKey), ("port", .int 5432)]]])]

theorem login_agree (p q k l : LogValue String) : AgreeItems id (login p k) (login q l) := by
  have hpassword : isSensitiveKey "Password" = true := by decide +kernel
  have hapi : isSensitiveKey "api-key" = true := by decide +kernel
  refine .shown (.same _) (.shown (.dict ?_) (.shown (.list ?_) .nil))
  · exact .shown (.same _) (.hidden p q hpassword .nil)
  · refine .cons (.tuple (.cons (.same _) (.cons (.dict ?_) .nil))) .nil
    exact .hidden k l hapi (.shown (.same (.int 5432)) .nil)

theorem login_redacted_alike :
    redactProcessor id (login (.str "hunter2") (.int 7)) =
      redactProcessor id (login .none (.list [.str "k1", .dict [("id", .int 2)]])) :=
  redactProcessor_agree (login_agree _ _ _ _)

end Sample

end Logging

end HermesRpt
