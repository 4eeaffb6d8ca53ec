/-!
# Lines of a text

A line ends with a line feed, which may have a carriage return in front of it. What stands behind
the last line feed is a line too, unless it is empty.

* **`lines`** — the lines of a text without their ends;
* **`linesFrom`** — the same behind the beginning of a line.
-/

namespace DeviceQuota.Text

/-- A line, written backwards, without the carriage return at its end. -/
def dropReturn : List Char → List Char
  | '\r' :: cs => cs
  | cs => cs

/-- The lines of `cs`, where the first has begun with `begun`, written backwards. -/
def linesFrom (begun : List Char) : List Char → List (List Char)
  | [] => if begun.isEmpty then [] else [begun.reverse]
  | c :: cs =>
    if c = '\n' then (dropReturn begun).reverse :: linesFrom [] cs else linesFrom (c :: begun) cs

/-- The lines of a text. -/
def lines (s : String) : List String := (linesFrom [] s.toList).map String.ofList

end DeviceQuota.Text
