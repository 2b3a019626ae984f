/-!
# Records as Text

The values a program prints about itself are records: a name and named
fields, whose values are records again or plain texts. A record is written in
one of two ways, on one line with its fields behind each other, or one field
a line, each level indented by four more blanks and every field followed by a
comma.

## Main definitions

* `Record`: A plain text, or a named record of fields.
* `Record.inline`: The form on one line.
* `Record.indented`: The form with one field a line.
-/

namespace ReadNotify

/-- What is printed of a value. -/
inductive Record where
  | atom (text : String)
  | fields (name : String) (entries : List (String × Record))

namespace Record

/-- A number as a record. -/
def number (n : Nat) : Record := atom (toString n)

/-- A truth value as a record. -/
def flag (b : Bool) : Record := atom (if b then "true" else "false")

mutual

/-- The form on one line. -/
def inline : Record → String
  | atom text => text
  | fields name entries => name ++ " \x7b " ++ inlineEntries entries ++ " \x7d"

/-- The fields behind each other, a comma between two. -/
def inlineEntries : List (String × Record) → String
  | [] => ""
  | [(key, value)] => key ++ ": " ++ value.inline
  | (key, value) :: rest => key ++ ": " ++ value.inline ++ ", " ++ inlineEntries rest

end

/-- The blanks in front of a line at some level. -/
def margin (level : Nat) : String :=
  String.ofList (List.replicate (4 * level) ' ')

mutual

/-- The form with one field a line, for a record that starts at some level. -/
def indentedAt (level : Nat) : Record → String
  | atom text => text
  | fields name entries =>
      name ++ " \x7b\n" ++ indentedEntries level entries ++ margin level ++ "\x7d"

/-- The lines of the fields, one level further in. -/
def indentedEntries (level : Nat) : List (String × Record) → String
  | [] => ""
  | (key, value) :: rest =>
      margin (level + 1) ++ key ++ ": " ++ value.indentedAt (level + 1) ++ ",\n" ++
        indentedEntries level rest

end

/-- The form with one field a line. -/
def indented (r : Record) : String := r.indentedAt 0

end Record

end ReadNotify
