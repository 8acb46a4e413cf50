import ModuleInstaller.Types.InstallInfo
/-
**`strvals.ParseInto` (helm), the parser of `clientConfig` and `overrides` strings.**

The prepare phase parses each install's `key=value[,key=value]` strings into a flag map with
helm's `strvals.ParseInto`. The model covers comma-separated pairs, dotted keys as nested maps,
and the typing of a value by `typedVal` (`true`/`false`/`null` in any case, `0`, integers
without a leading zero in the range of `int64`, signed as `strconv.ParseInt` accepts them, else
a string). Escapes, `{a,b}` list values and
`[i]` indices are not modelled.
-/

namespace ModuleInstaller.Strvals

open Types

/-- The case folding `strings.EqualFold` applies to the words `typedVal` compares with: ASCII
letters, and the long s (U+017F), which folds to `s`. -/
def lower (text : String) : String :=
  text.map fun c => if c.toNat = 0x17F then 's' else c.toLower

/-- The value of a run of decimal digits read after `value`; `none` at any other character. -/
def digitsValue (value : Nat) : List Char → Option Nat
  | [] => some value
  | c :: rest => if c.isDigit then digitsValue (10 * value + (c.toNat - '0'.toNat)) rest else none

/-- `strconv.ParseInt(text, 10, 64)`: an optional `+` or `-`, then at least one decimal digit and
nothing else, with the value from `-2^63` up to `2^63 - 1`. -/
def parseInt64? (text : String) : Option Int :=
  let value? : Option Int :=
    match text.toList with
    | '+' :: c :: rest => (digitsValue 0 (c :: rest)).map Int.ofNat
    | '-' :: c :: rest => (digitsValue 0 (c :: rest)).map fun value => -(value : Int)
    | c :: rest => (digitsValue 0 (c :: rest)).map Int.ofNat
    | [] => none
  value?.filter fun value => -9223372036854775808 ≤ value ∧ value < 9223372036854775808

/-- `typedVal` with `st = false`: `true`, `false` and `null` in any case, `0`, and a text that is
not empty, does not start with `0` and parses as an `int64`; anything else stays a string. -/
def typedVal (text : String) : Value :=
  if lower text = "true" then .bool true
  else if lower text = "false" then .bool false
  else if lower text = "null" then .null
  else if text = "0" then .int 0
  else if text = "" ∨ text.front = '0' then .str text
  else match parseInt64? text with
    | some value => .int value
    | none => .str text

/-- The map of a nested key, created when missing or not a map. -/
def childFields (fields : Flags) (key : String) : Flags :=
  (((fields.find? (·.1 == key)).map (·.2)).bind Value.asMap?).getD []

/-- Set the value at a dotted key path, creating the maps on the way. -/
def setPath (fields : Flags) : List String → Value → Flags
  | [], _ => fields
  | [key], value => fields.filter (·.1 != key) ++ [(key, value)]
  | key :: rest, value =>
    fields.filter (·.1 != key) ++ [(key, .obj (setPath (childFields fields key) rest value))]

/-- One `key=value` item: the key up to the first `=`, the value after it. -/
def parseItem (fields : Flags) (item : String) : Except String Flags :=
  match item.splitOn "=" with
  | key :: first :: more => .ok (setPath fields (key.splitOn ".") (typedVal ("=".intercalate (first :: more))))
  | _ => .error ("key " ++ item.quote ++ " has no value")

/-- `strvals.ParseInto(text, map[string]interface{}{})`. -/
def parseInto (text : String) : Except String Flags :=
  if text = "" then .ok [] else (text.splitOn ",").foldlM parseItem []

end ModuleInstaller.Strvals
