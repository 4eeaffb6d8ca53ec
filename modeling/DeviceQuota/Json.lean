import DeviceQuota.Text.Digits

/-!
# Reports as JSON

Reports are written as JSON, either on one line or with one field a line. Fields keep their order;
text stands as it is, but for quotes, backslashes and control characters.

* **`Json`** — values;
* **`Json.compact`** — a value on one line;
* **`Json.pretty`** — a value with one item a line, each level indented by two spaces.
-/

namespace DeviceQuota

/-- A JSON value whose numbers are whole. -/
inductive Json where
  | null
  | bool (b : Bool)
  | number (n : Int)
  | text (s : String)
  | array (items : List Json)
  | object (fields : List (String × Json))

namespace Json

/-- A natural number. -/
def nat (n : Nat) : Json := number n

/-- A value, or null. -/
def ofOption {α : Type} (f : α → Json) : Option α → Json
  | some a => f a
  | none => null

/-- A character of a text as it is written. -/
def escape (c : Char) : List Char :=
  if c = '"' then ['\\', '"']
  else if c = '\\' then ['\\', '\\']
  else if c.toNat = 0x08 then ['\\', 'b']
  else if c.toNat = 0x0c then ['\\', 'f']
  else if c = '\n' then ['\\', 'n']
  else if c = '\r' then ['\\', 'r']
  else if c = '\t' then ['\\', 't']
  else if c.toNat < 0x10 then ['\\', 'u', '0', '0', '0'] ++ Text.hex c.toNat
  else if c.toNat < 0x20 then ['\\', 'u', '0', '0'] ++ Text.hex c.toNat
  else [c]

/-- A text between double quotes. -/
def quote (s : String) : String := String.ofList ('"' :: s.toList.flatMap escape ++ ['"'])

/-- A value without items. -/
def leaf : Json → String
  | null => "null"
  | bool true => "true"
  | bool false => "false"
  | number n => toString n
  | text s => quote s
  | array _ => "[]"
  | object _ => "\x7b\x7d"

mutual

/-- The pieces of a value on one line. -/
def compactPieces : Json → List String
  | array (item :: items) => "[" :: (compactPieces item ++ compactItems items ++ ["]"])
  | object ((name, value) :: fields) =>
    "\x7b" :: quote name :: ":" :: (compactPieces value ++ compactFields fields ++ ["\x7d"])
  | value => [leaf value]

/-- The pieces of further items, each behind a comma. -/
def compactItems : List Json → List String
  | [] => []
  | item :: items => "," :: (compactPieces item ++ compactItems items)

/-- The pieces of further fields, each behind a comma. -/
def compactFields : List (String × Json) → List String
  | [] => []
  | (name, value) :: fields =>
    "," :: quote name :: ":" :: (compactPieces value ++ compactFields fields)

end

/-- A value on one line. -/
def compact (value : Json) : String := String.join (compactPieces value)

/-- The beginning of a line at a level. -/
def newline (level : Nat) : String := "\n" ++ String.ofList (List.replicate (2 * level) ' ')

mutual

/-- The pieces of a value at a level, with one item a line. -/
def prettyPieces (level : Nat) : Json → List String
  | array (item :: items) =>
    "[" :: newline (level + 1) :: (prettyPieces (level + 1) item ++
      prettyItems (level + 1) items ++ [newline level, "]"])
  | object ((name, value) :: fields) =>
    "\x7b" :: newline (level + 1) :: quote name :: ": " :: (prettyPieces (level + 1) value ++
      prettyFields (level + 1) fields ++ [newline level, "\x7d"])
  | value => [leaf value]

/-- The pieces of further items, each behind a comma and on a line of its own. -/
def prettyItems (level : Nat) : List Json → List String
  | [] => []
  | item :: items => "," :: newline level :: (prettyPieces level item ++ prettyItems level items)

/-- The pieces of further fields, each behind a comma and on a line of its own. -/
def prettyFields (level : Nat) : List (String × Json) → List String
  | [] => []
  | (name, value) :: fields =>
    "," :: newline level :: quote name :: ": " :: (prettyPieces level value ++
      prettyFields level fields)

end

/-- A value with one item a line. -/
def pretty (value : Json) : String := String.join (prettyPieces 0 value)

end Json

end DeviceQuota
