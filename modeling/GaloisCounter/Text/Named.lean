/-!
Finite types whose values are written by name.
-/

namespace GaloisCounter.Text

class Named (Choice : Type) where
  choices : List Choice
  name : Choice → String

namespace Named

def names (Choice : Type) [Named Choice] : List String := (choices : List Choice).map name

def ofName? [Named Choice] (text : String) : Option Choice :=
  choices.find? fun choice => name choice == text

end Named

end GaloisCounter.Text
