/-!
The written form of a record: its name, and its fields in braces.
-/

namespace GaloisCounter.Text

def field (name value : String) : String := name ++ ": " ++ value

def record (name : String) (fields : List (String × String)) : String :=
  name ++ " \x7b " ++ ", ".intercalate (fields.map fun (label, value) => field label value) ++ " \x7d"

def redacted : String := "\"[REDACTED]\""

end GaloisCounter.Text
