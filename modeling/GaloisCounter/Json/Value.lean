import GaloisCounter.Json.Numeral

/-!
JSON values, as far as a text spells them.

A text may be malformed anywhere inside a value. The value then holds what stands before that place,
so that a reader can report the first fault of either kind, in the order of the text.
-/

namespace GaloisCounter.Json

/-- What a string spells. There is no content if escapes spell half of a surrogate pair. -/
abbrev Content := Option String

inductive Value
  | null
  | boolean (value : Bool)
  | numeral (numeral : Numeral)
  | string (content : Content)
  /-- The items that are there, and whether the closing bracket follows. -/
  | array (items : List Value) (closed : Bool)
  | object (members : List (Content × Value)) (closed : Bool)
  /-- No value, or one that is broken off. -/
  | malformed

namespace Value

mutual
/-- The text of the value follows the grammar to its end. Numbers may be too large, and strings
may be without content. -/
def wellFormed : Value → Bool
  | array items closed => closed && allWellFormed items
  | object members closed => closed && membersWellFormed members
  | malformed => false
  | _ => true

def allWellFormed : List Value → Bool
  | [] => true
  | item :: rest => item.wellFormed && allWellFormed rest

def membersWellFormed : List (Content × Value) → Bool
  | [] => true
  | (_, value) :: rest => value.wellFormed && membersWellFormed rest
end

end Value

structure Document where
  value : Value
  complete : Bool

end GaloisCounter.Json
