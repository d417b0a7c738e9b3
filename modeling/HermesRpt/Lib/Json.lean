import Mathlib.Data.List.Sort
import Mathlib.Data.String.Basic

/-!
# HermesRpt.Lib.Json

JSON values and their canonical text: object keys sorted, no blanks, everything outside printable
ASCII escaped.

A number is kept as the text it prints to, so a value does not depend on how numbers are printed.
-/

namespace Canonical

inductive Json where
  | null
  | bool (b : Bool)
  | num (text : String)
  | str (s : String)
  | arr (elems : List Json)
  | obj (members : List (String × Json))

/-- Four hexadecimal digits. -/
def hex4 (n : Nat) : List Char :=
  [Nat.digitChar (n / 4096 % 16), Nat.digitChar (n / 256 % 16), Nat.digitChar (n / 16 % 16),
    Nat.digitChar (n % 16)]

/-- One character inside quotes; beyond the basic plane it is a surrogate pair. -/
def escapeChar (c : Char) : List Char :=
  let n := c.toNat
  if c = '"' then ['\\', '"']
  else if c = '\\' then ['\\', '\\']
  else if c = '\n' then ['\\', 'n']
  else if c = '\r' then ['\\', 'r']
  else if c = '\t' then ['\\', 't']
  else if n = 12 then ['\\', 'f']
  else if n = 8 then ['\\', 'b']
  else if 32 ≤ n ∧ n ≤ 126 then [c]
  else if n < 65536 then '\\' :: 'u' :: hex4 n
  else '\\' :: 'u' :: hex4 (55296 + (n - 65536) / 1024) ++
    '\\' :: 'u' :: hex4 (56320 + (n - 65536) % 1024)

def quote (s : String) : String := String.ofList (['"'] ++ s.toList.flatMap escapeChar ++ ['"'])

mutual

def dumps : Json → String
  | .null => "null"
  | .bool b => if b then "true" else "false"
  | .num text => text
  | .str s => quote s
  | .arr elems => "[" ++ ",".intercalate (dumpsAll elems) ++ "]"
  | .obj members =>
    let sorted := (dumpsMembers members).insertionSort fun a b => a.1 ≤ b.1
    "\x7b" ++ ",".intercalate (sorted.map fun p => quote p.1 ++ ":" ++ p.2) ++ "\x7d"

def dumpsAll : List Json → List String
  | [] => []
  | j :: js => dumps j :: dumpsAll js

def dumpsMembers : List (String × Json) → List (String × String)
  | [] => []
  | (k, j) :: ms => (k, dumps j) :: dumpsMembers ms

end

/-- A list of strings. -/
def Json.strs (ss : List String) : Json := .arr (ss.map .str)

end Canonical
