/-
# JSON values

Values that handlers answer with or note down, and their compact text: no space between tokens,
the fields of an object in the order of their keys, and only quotes, backslashes and control
characters escaped.
-/
import Gatehouse.Text.Quoted

namespace Gatehouse

/-- A JSON value without fractions. -/
inductive Json
  | null
  | bool (b : Bool)
  | int (i : Int)
  | text (s : String)
  | list (items : List Json)
  | object (fields : List (String × Json))
deriving Inhabited

namespace Json

/-- One character inside a JSON string. -/
def escapeChar (c : Char) : String :=
  if c = '"' then "\\\""
  else if c = '\\' then "\\\\"
  else if c.toNat = 8 then "\\b"
  else if c = '\t' then "\\t"
  else if c = '\n' then "\\n"
  else if c.toNat = 12 then "\\f"
  else if c = '\r' then "\\r"
  else if c.toNat < 16 then "\\u000" ++ Text.hex c.toNat
  else if c.toNat < 32 then "\\u00" ++ Text.hex c.toNat
  else c.toString

def renderText (s : String) : String :=
  "\"" ++ String.join (s.toList.map escapeChar) ++ "\""

/-- Written fields in the order of their keys, code point by code point. -/
def sortFields (fields : List (String × String)) : List (String × String) :=
  fields.mergeSort fun a b => decide (a.1 ≤ b.1)

mutual

/-- The compact text of a value. -/
def render : Json → String
  | null => "null"
  | bool b => toString b
  | int i => toString i
  | text s => renderText s
  | list items => "[" ++ ",".intercalate (renderItems items) ++ "]"
  | object fields =>
    "\x7b" ++ ",".intercalate
      ((sortFields (renderFields fields)).map fun f => renderText f.1 ++ ":" ++ f.2) ++ "\x7d"

def renderItems : List Json → List String
  | [] => []
  | v :: vs => render v :: renderItems vs

/-- The fields of an object with their values written. -/
def renderFields : List (String × Json) → List (String × String)
  | [] => []
  | (k, v) :: fs => (k, render v) :: renderFields fs

end

end Json
end Gatehouse
