import BatchTree.Config.Settings

/-!
# Configuration documents

This is the outer layer of the configuration: one reader of documents among others, so that the
library can be run on files.  It covers the documents that settings are written in, and no theorem
depends on it; what is said of configurations holds for every reader (`Config.usable_of_ofText`).

A document is a sequence of lines, each of which is blank, a comment, or one
setting: a key, an equals sign, and an integer or a text.  Keys may be quoted.
Integers are decimal, or hexadecimal, octal or binary behind a marker, and fit in
64 bits with their sign.  Texts are quoted in one of four ways: between single or
double quotes, on one line or, with the quotes tripled, on several; escapes are
read between double quotes only.

Nothing else that a general document of this format may contain, such as tables
and lists, can hold a setting, so all of it is malformed.
-/

namespace BatchTree.Config

namespace Document

/-- A reader takes a value off the front of the characters. -/
abbrev Reader (α : Type) := List Char → Option (α × List Char)

/-- Line ends become line feeds.  A carriage return has no other place in a
document, and of the control characters only the tab has any. -/
def normalize : List Char → Option (List Char)
  | [] => some []
  | '\r' :: '\n' :: rest => (normalize rest).map ('\n' :: ·)
  | char :: rest =>
      if char = '\n' ∨ char = '\t' ∨ (0x20 ≤ char.toNat ∧ char.toNat ≠ 0x7f) then
        (normalize rest).map (char :: ·)
      else
        none

def isBlank (char : Char) : Bool :=
  char == ' ' || char == '\t'

def skipBlanks (chars : List Char) : List Char :=
  chars.dropWhile isBlank

/-! ## Texts -/

/-- The value of a digit in a base of at most sixteen. -/
def digitValue? (base : Nat) (digit : Char) : Option Nat :=
  let value :=
    if digit.isDigit then some (digit.toNat - '0'.toNat)
    else if 'a' ≤ digit ∧ digit ≤ 'f' then some (digit.toNat - 'a'.toNat + 10)
    else if 'A' ≤ digit ∧ digit ≤ 'F' then some (digit.toNat - 'A'.toNat + 10)
    else none
  value.filter (· < base)

/-- The value of a list of hexadecimal digits. -/
def hexadecimal? (digits : List Char) : Option Nat :=
  digits.foldlM (fun value digit => (digitValue? 16 digit).map (16 * value + ·)) 0

/-- The character with a given number, if there is one. -/
def scalar? (digits : List Char) : Option Char :=
  match hexadecimal? digits with
  | none => none
  | some value => if value.isValidChar then some (Char.ofNat value) else none

/-- The character that a letter stands for behind a backslash. -/
def escaped? : Char → Option Char
  | 'b' => some '\x08'
  | 't' => some '\t'
  | 'n' => some '\n'
  | 'f' => some '\x0c'
  | 'r' => some '\r'
  | '"' => some '"'
  | '\\' => some '\\'
  | _ => none

/-- Put a character in front of a text that was read. -/
def push (char : Char) (read : Option (List Char × List Char)) : Option (List Char × List Char) :=
  read.map fun found => (char :: found.1, found.2)

/-- Put a character that may have failed to be read in front of a text. -/
def push? (char : Option Char) (read : Option (List Char × List Char)) :
    Option (List Char × List Char) :=
  match char with
  | some char => push char read
  | none => none

/-- A text on one line, up to its closing double quote. -/
def readBasic : Reader (List Char)
  | [] => none
  | '"' :: rest => some ([], rest)
  | '\n' :: _ => none
  | '\\' :: 'u' :: a :: b :: c :: d :: rest => push? (scalar? [a, b, c, d]) (readBasic rest)
  | '\\' :: 'U' :: a :: b :: c :: d :: e :: f :: g :: h :: rest =>
      push? (scalar? [a, b, c, d, e, f, g, h]) (readBasic rest)
  | '\\' :: char :: rest => push? (escaped? char) (readBasic rest)
  | ['\\'] => none
  | char :: rest => push char (readBasic rest)

/-- A text on one line without escapes, up to its closing single quote. -/
def readLiteral : Reader (List Char)
  | [] => none
  | '\'' :: rest => some ([], rest)
  | '\n' :: _ => none
  | char :: rest => push char (readLiteral rest)

/-- Where a reader stands after a backslash that may end its line. -/
inductive Fold where
  | none
  /-- Before the end of the line. -/
  | pending
  /-- Behind it, where blanks and further line ends are left out. -/
  | open
  deriving DecidableEq

/-- A text on several lines, up to its closing double quotes.  Up to two quotes
before those belong to the text.  A backslash at the end of a line joins the line
with what follows. -/
def readFolded (fold : Fold) : Reader (List Char)
  | [] => none
  | char :: rest =>
      if fold = .pending then
        if isBlank char then readFolded .pending rest
        else if char = '\n' then readFolded .open rest
        else none
      else if fold = .open ∧ (isBlank char ∨ char = '\n') then
        readFolded .open rest
      else if char = '"' then
        match rest with
        | '"' :: '"' :: '"' :: '"' :: after => some (['"', '"'], after)
        | '"' :: '"' :: '"' :: after => some (['"'], after)
        | '"' :: '"' :: after => some ([], after)
        | _ => push '"' (readFolded .none rest)
      else if char = '\\' then
        match rest with
        | 'u' :: a :: b :: c :: d :: after =>
            push? (scalar? [a, b, c, d]) (readFolded .none after)
        | 'U' :: a :: b :: c :: d :: e :: f :: g :: h :: after =>
            push? (scalar? [a, b, c, d, e, f, g, h]) (readFolded .none after)
        | [] => none
        | next :: after =>
            if isBlank next then readFolded .pending after
            else if next = '\n' then readFolded .open after
            else push? (escaped? next) (readFolded .none after)
      else
        push char (readFolded .none rest)

/-- A text on several lines without escapes, up to its closing single quotes. -/
def readVerbatim : Reader (List Char)
  | [] => none
  | '\'' :: '\'' :: '\'' :: '\'' :: '\'' :: rest => some (['\'', '\''], rest)
  | '\'' :: '\'' :: '\'' :: '\'' :: rest => some (['\''], rest)
  | '\'' :: '\'' :: '\'' :: rest => some ([], rest)
  | char :: rest => push char (readVerbatim rest)

/-- A line end right behind the opening quotes is not part of the text. -/
def dropLineEnd : List Char → List Char
  | '\n' :: rest => rest
  | chars => chars

/-! ## Integers -/

/-- Digits of a base, of which neighbours may be parted by one underscore. -/
def readDigits? (base : Nat) (value : Nat) : List Char → Option Nat
  | [] => some value
  | '_' :: digit :: rest =>
      match digitValue? base digit with
      | some found => readDigits? base (base * value + found) rest
      | none => none
  | digit :: rest =>
      match digitValue? base digit with
      | some found => readDigits? base (base * value + found) rest
      | none => none

/-- A number without sign in a base; it starts with a digit. -/
def readNatural? (base : Nat) : List Char → Option Nat
  | [] => none
  | '_' :: _ => none
  | digits => readDigits? base 0 digits

/-- A decimal number without sign and without a superfluous zero in front. -/
def readDecimal? : List Char → Option Nat
  | ['0'] => some 0
  | '0' :: _ => none
  | digits => readNatural? 10 digits

/-- An integer with an optional sign, or one behind the marker of its base. -/
def readInteger? : List Char → Option Int
  | '+' :: digits => (readDecimal? digits).map Int.ofNat
  | '-' :: digits => (readDecimal? digits).map fun value => -Int.ofNat value
  | '0' :: 'x' :: digits => (readNatural? 16 digits).map Int.ofNat
  | '0' :: 'o' :: digits => (readNatural? 8 digits).map Int.ofNat
  | '0' :: 'b' :: digits => (readNatural? 2 digits).map Int.ofNat
  | digits => (readDecimal? digits).map Int.ofNat

/-- Does an integer fit in 64 bits with its sign? -/
def fits (value : Int) : Bool :=
  -9223372036854775808 ≤ value && value ≤ 9223372036854775807

/-- Characters that numbers and unquoted keys are written with, all of them ASCII. -/
def isWordChar (char : Char) : Bool :=
  char.isAlphanum || char == '_' || char == '-' || char == '+'

/-! ## Entries -/

def readText (reader : Reader (List Char)) (chars : List Char) : Option (Setting × List Char) :=
  (reader chars).map fun found => (.text (String.ofList found.1), found.2)

def readSetting : Reader Setting
  | '"' :: '"' :: '"' :: rest => readText (readFolded .none) (dropLineEnd rest)
  | '"' :: rest => readText readBasic rest
  | '\'' :: '\'' :: '\'' :: rest => readText readVerbatim (dropLineEnd rest)
  | '\'' :: rest => readText readLiteral rest
  | chars =>
      match readInteger? (chars.takeWhile isWordChar) with
      | some value => if fits value then some (.integer value, chars.dropWhile isWordChar) else none
      | none => none

/-- A key, quoted or not. -/
def readKey : Reader String
  | '"' :: rest => (readBasic rest).map fun found => (String.ofList found.1, found.2)
  | '\'' :: rest => (readLiteral rest).map fun found => (String.ofList found.1, found.2)
  | chars =>
      let key := chars.takeWhile fun char => isWordChar char && char != '+'
      if key = [] then none else some (String.ofList key, chars.drop key.length)

/-- What may stand between a setting and the end of its line: blanks and a
comment.  Yields the following lines. -/
def endLine (chars : List Char) : Option (List Char) :=
  match skipBlanks chars with
  | [] => some []
  | '\n' :: rest => some rest
  | '#' :: rest => some (dropLineEnd (rest.dropWhile (· != '\n')))
  | _ => none

/-- A key with its setting, and the lines after it. -/
def readEntry (chars : List Char) : Option ((String × Setting) × List Char) :=
  match readKey chars with
  | none => none
  | some (key, afterKey) =>
      match skipBlanks afterKey with
      | '=' :: rest =>
          match readSetting (skipBlanks rest) with
          | none => none
          | some (setting, afterSetting) =>
              (endLine afterSetting).map fun lines => ((key, setting), lines)
      | _ => none

/-- The entries of at most `lineCount` lines. -/
def readLines : (lineCount : Nat) → List Char → Option (List (String × Setting))
  | 0, _ => none
  | lineCount + 1, chars =>
      match skipBlanks chars with
      | [] => some []
      | start =>
          match endLine start with
          | some lines => readLines lineCount lines
          | none =>
              match readEntry start with
              | none => none
              | some (entry, lines) => (readLines lineCount lines).map (entry :: ·)

/-- The entries of a document.  A byte order mark in front is left out.  A line
takes at least one character, save the last, so there are enough lines. -/
def readEntries (text : String) : Option (List (String × Setting)) :=
  match normalize text.toList with
  | none => none
  | some ('\ufeff' :: chars) => readLines (chars.length + 1) chars
  | some chars => readLines (chars.length + 1) chars

end Document

/-- Read and validate a document. -/
def ofDocument : String → Except Fault Config :=
  ofText Document.readEntries

/-- Read and validate the bytes of a file, if there is one. -/
def ofFile? : Option ByteArray → Except Fault Config :=
  ofContents? Document.readEntries

end BatchTree.Config
