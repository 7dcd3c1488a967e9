import FlagEnum.Domain
import FlagEnum.Json.Scan

/-!
# Reading domains

A domain in JSON is its keyword: as a text, or as the only key of an object
whose value is `null`. Other type names are not understood there.
-/

namespace FlagEnum.Domain

open Json

/-- Reads the keyword of a domain after its opening quote. -/
def readKeyword : Scanner Domain := fun input => do
  let (keyword, rest) ← quotedText input
  match ofKeyword? keyword with
  | some domain => return (domain, rest)
  | none => .error (Fault.expectedValue.before rest)

/-- Reads the value and the end of an object after its key. -/
def readNull (input : List Char) : Except Refusal (List Char) := do
  match dropSpace (← colon input) with
  | 'n' :: rest =>
    match dropSpace (← word ['u', 'l', 'l'] rest) with
    | '\x7d' :: rest => return rest
    | other => .error (Fault.expectedValue.shownBy other)
  | other => .error (Fault.expectedValue.shownBy other)

/-- Reads a whole document as a domain. -/
def read (input : List Char) : Except Refusal Domain :=
  match dropSpace input with
  | '\x22' :: rest => do
    let (domain, rest) ← readKeyword rest
    finish domain rest
  | '\x7b' :: rest =>
    match dropSpace rest with
    | '\x22' :: rest => do
      let (domain, rest) ← readKeyword rest
      finish domain (← readNull rest)
    | other => .error (Fault.keyNotText.shownBy other)
  | other => .error (Fault.expectedValue.shownBy other)

/-- The domain that a JSON text holds, if any. -/
def ofJson? (text : String) : Option Domain :=
  (read text.toList).toOption

end FlagEnum.Domain
