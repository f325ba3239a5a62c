import RealmPlan.Text.Numeral
import RealmPlan.Text.Unprintable

namespace RealmPlan.Text

-- A quoted text is for the eye of an operator: it shows every character that has a glyph and spells
-- the others, so two texts that look alike stay apart.
def spell (c : Char) : List Char :=
  match c with
  | '"' => ['\\', '"']
  | '\\' => ['\\', '\\']
  | '\n' => ['\\', 'n']
  | '\r' => ['\\', 'r']
  | '\t' => ['\\', 't']
  | '\x00' => ['\\', '0']
  | c => if isUnprintable c then ['\\', 'u', '\x7b'] ++ hexDigits c.toNat ++ ['\x7d'] else [c]

def quote (s : String) : String :=
  "\"" ++ String.ofList (s.toList.flatMap spell) ++ "\""

end RealmPlan.Text
