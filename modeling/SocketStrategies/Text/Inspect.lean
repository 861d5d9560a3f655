import SocketStrategies.Bytes
import SocketStrategies.Text.Unprintable

/-!
# Inspection texts

One-line descriptions of values for logs. Text stands in quotes with its unprintable characters
escaped, a record shows its name and fields, a list stands in square brackets, a table in braces.
-/

namespace SocketStrategies.Inspect

/-- The lower-case hexadecimal digits of a number, without leading zeros. -/
def hex (n : Nat) : String := String.ofList (Nat.toDigits 16 n)

/-- A character inside quotes; `quote` is the quotation mark in use, which is escaped. -/
def quotedChar (quote : Char) (c : Char) : String :=
  if c == '\n' then "\\n"
  else if c == '\r' then "\\r"
  else if c == '\t' then "\\t"
  else if c == '\x00' then "\\0"
  else if c == '\\' || c == quote then String.ofList ['\\', c]
  else if Text.isUnprintable c then "\\u\x7b" ++ hex c.toNat ++ "\x7d"
  else c.toString

/-- A text in double quotes. -/
def text (s : String) : String := "\"" ++ String.join (s.toList.map (quotedChar '"')) ++ "\""

def char (c : Char) : String := "'" ++ quotedChar '\'' c ++ "'"

/-- A byte inside quotes: printable ASCII as it is, the rest escaped. -/
def quotedByte (b : UInt8) : String :=
  if b == 10 then "\\n"
  else if b == 13 then "\\r"
  else if b == 9 then "\\t"
  else if b == 0 then "\\0"
  else if b == 92 then "\\\\"
  else if b == 34 then "\\\""
  else if 32 ≤ b && b < 127 then (Char.ofNat b.toNat).toString
  else if b < 16 then "\\x0" ++ hex b.toNat
  else "\\x" ++ hex b.toNat

/-- A byte string in double quotes. -/
def bytes (b : Bytes) : String := "b\"" ++ String.join (b.map quotedByte) ++ "\""

def list (items : List String) : String := "[" ++ String.intercalate ", " items ++ "]"

/-- A table of shown keys and values. -/
def table (rows : List (String × String)) : String :=
  "\x7b" ++ String.intercalate ", " (rows.map fun r => r.1 ++ ": " ++ r.2) ++ "\x7d"

/-- A value that may be missing. -/
def optional : Option String → String
  | none => "None"
  | some shown => "Some(" ++ shown ++ ")"

/-- A record with its fields, which has at least one. -/
def record (name : String) (fields : List (String × String)) : String :=
  name ++ " \x7b " ++ String.intercalate ", " (fields.map fun f => f.1 ++ ": " ++ f.2) ++ " \x7d"

def bool (b : Bool) : String := if b then "true" else "false"

/-- A time span given in milliseconds: seconds from one second on, with the fraction as far as
needed. -/
def milliseconds (ms : Nat) : String :=
  if ms == 0 then "0ns"
  else if ms < 1000 then toString ms ++ "ms"
  else
    let fraction := (Nat.toDigits 10 (1000 + ms % 1000)).drop 1
    let kept := (fraction.reverse.dropWhile (· == '0')).reverse
    toString (ms / 1000) ++ (if kept.isEmpty then "" else "." ++ String.ofList kept) ++ "s"

end SocketStrategies.Inspect
