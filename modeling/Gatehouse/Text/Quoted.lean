/-
# Quoted text and diagnostic records

Diagnostic text puts a string between double quotes, so that any string can be read off one line:
quotes and backslashes get a backslash, five control characters have short names, and every
other character without a mark of its own is written by number.

A value with named parts is written as a record, `Name { part: value }`; two dots at the end say
that it has parts that are not shown.
-/
import Gatehouse.Text.Unmarked

namespace Gatehouse
namespace Text

/-! ## 1. Quoting -/

/-- The digits of `n` in base 16, letters in lower case. -/
def hex (n : Nat) : String := String.ofList (Nat.toDigits 16 n)

/-- One character inside quotes. -/
def quoteChar (c : Char) : String :=
  if c = '"' then "\\\""
  else if c = '\\' then "\\\\"
  else if c = '\n' then "\\n"
  else if c = '\r' then "\\r"
  else if c = '\t' then "\\t"
  else if c.toNat = 0 then "\\0"
  else if isUnmarked c then "\\u\x7b" ++ hex c.toNat ++ "\x7d"
  else c.toString

def quote (s : String) : String := "\"" ++ String.join (s.toList.map quoteChar) ++ "\""

/-! ## 2. Records -/

/-- The written parts of a record, in order. -/
abbrev Parts := List (String × String)

/-- The parts between the braces of a record. -/
def commaParts (parts : Parts) : String :=
  ", ".intercalate (parts.map fun p => p.1 ++ ": " ++ p.2)

/-- A record that shows all of its parts. -/
def record (name : String) (parts : Parts) : String :=
  name ++ " \x7b " ++ commaParts parts ++ " \x7d"

/-- A record that hides some of its parts. -/
def openRecord (name : String) (parts : Parts) : String :=
  name ++ " \x7b " ++ commaParts parts ++ ", .. \x7d"

def option (show? : Option String) : String :=
  match show? with
  | none => "None"
  | some text => "Some(" ++ text ++ ")"

end Text
end Gatehouse
