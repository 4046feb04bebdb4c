/-! Descriptions of records: a name and the fields between braces. -/
namespace ServicePublisher.Text

def shownField (field : String × String) : String := field.1 ++ ": " ++ field.2

/-- A record all of whose fields are shown; there is at least one. -/
def shownRecord (name : String) (fields : List (String × String)) : String :=
  name ++ " \x7b " ++ ", ".intercalate (fields.map shownField) ++ " \x7d"

/-- A record that has more fields than are shown. -/
def shownPart (name : String) (fields : List (String × String)) : String :=
  name ++ " \x7b " ++ ", ".intercalate (fields.map shownField) ++ ", .. \x7d"

def shownBool (b : Bool) : String := if b then "true" else "false"

end ServicePublisher.Text
