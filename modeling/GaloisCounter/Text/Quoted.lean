import GaloisCounter.Text.Hidden

/-!
Text in quotes, with everything escaped that could not be read in it.
-/

namespace GaloisCounter.Text

def isHidden (char : Char) : Bool :=
  let point := char.toNat
  if point < 0x7F then
    point < 0x20
  else
    match Hidden.tables.find? fun (last, _) => point ≤ last with
    | none => true
    | some (_, ranges) => ranges.any fun (first, last) => first ≤ point ∧ point ≤ last

def escape (char : Char) : List Char :=
  match char with
  | '"' => ['\\', '"']
  | '\\' => ['\\', '\\']
  | '\n' => ['\\', 'n']
  | '\r' => ['\\', 'r']
  | '\t' => ['\\', 't']
  | '\x00' => ['\\', '0']
  | _ =>
      if isHidden char then
        ['\\', 'u', '\x7b'] ++ Nat.toDigits 16 char.toNat ++ ['\x7d']
      else
        [char]

def quoted (text : String) : String :=
  String.ofList ('"' :: text.toList.flatMap escape ++ ['"'])

example : (escape 'e', escape '\x01', escape '"') =
    (['e'], ['\\', 'u', '\x7b', '1', '\x7d'], ['\\', '"']) := by decide

/-- A mark that extends the character before it is hidden, a letter that does so is not. -/
example : (isHidden '\u0301', isHidden '\uff9e') = (true, false) := by decide +kernel

end GaloisCounter.Text
