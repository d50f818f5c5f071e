import BatchTree.Text.Printable

/-!
# Literals

How a value is written inside a message: texts and characters are quoted and
escaped, lists stand in brackets, and an optional value says whether it is there.
-/

namespace BatchTree.Text

/-- Hexadecimal digits, lower case, without leading zeros. -/
def hexadecimal (value : Nat) : List Char :=
  Nat.toDigits 16 value

/-- The escape of a character inside a literal that is delimited by `quote`, or
the character itself where none is due. -/
def escape (quote char : Char) : List Char :=
  if char = quote then ['\\', quote]
  else if char = '\\' then ['\\', '\\']
  else if char = '\n' then ['\\', 'n']
  else if char = '\r' then ['\\', 'r']
  else if char = '\t' then ['\\', 't']
  else if char = '\x00' then ['\\', '0']
  else if isPrintable char then [char]
  else '\\' :: 'u' :: '\x7b' :: hexadecimal char.toNat ++ ['\x7d']

/-- A text in double quotes. -/
def quoted (text : String) : String :=
  String.ofList ('"' :: text.toList.flatMap (escape '"') ++ ['"'])

/-- A character in single quotes. -/
def quotedChar (char : Char) : String :=
  String.ofList ('\'' :: escape '\'' char ++ ['\''])

/-- Items in brackets. -/
def bracketed (items : List String) : String :=
  "[" ++ ", ".intercalate items ++ "]"

/-- Two items in parentheses. -/
def paired (left right : String) : String :=
  "(" ++ left ++ ", " ++ right ++ ")"

/-- A value that may be missing. -/
def optional : Option String → String
  | some item => "Some(" ++ item ++ ")"
  | none => "None"

/-- A record with its named fields, in order. -/
def record (name : String) (fields : List (String × String)) : String :=
  let entries := fields.map fun field => field.1 ++ ": " ++ field.2
  name ++ " \x7b " ++ ", ".intercalate entries ++ " \x7d"

end BatchTree.Text
