import RealmPlan.Text.Blank
import RealmPlan.Text.Category
import RealmPlan.Text.Kin
import RealmPlan.Text.Numeral

namespace RealmPlan.Log

-- Which character may stand at a place.
inductive Letter where
  | run (first last : Char)
  | digit
  | blank
  | word
  | category (category : Text.Category)
  | among (letters : List Letter)
  | except (letter : Letter)
  | both (first second : Letter)
  -- A letter in another case does as well; of a narrow one, only if it is plain ASCII.
  | inAnyCase (narrow : Bool) (letter : Letter)
deriving Inhabited

namespace Letter

def exactly (c : Char) : Letter := .run c c

def any : Letter := .except (.among [])

-- The digits, blanks and words of plain ASCII.
def narrowDigit : Letter := .run '0' '9'

def narrowBlank : Letter := .among [.run '\t' '\r', .exactly ' ']

def narrowWord : Letter := .among [.run 'a' 'z', .run 'A' 'Z', .run '0' '9', .exactly '_']

-- A character and what it is in the other case.
def cases (narrow : Bool) (c : Char) : List Char :=
  if narrow then [c, c.toLower, c.toUpper] else c :: Text.kin c

mutual
def holds (c : Char) : Letter → Bool
  | run first last => first ≤ c && c ≤ last
  | digit => Text.isDecimal c
  | blank => Text.isBlank c
  | word => Text.isWordCharacter c
  | category kind => Text.Category.of c == kind
  | among letters => anyHolds c letters
  | except letter => !holds c letter
  | both first second => holds c first && holds c second
  | inAnyCase narrow letter => (cases narrow c).any fun c => holds c letter

def anyHolds (c : Char) : List Letter → Bool
  | [] => false
  | letter :: rest => holds c letter || anyHolds c rest
end

end Letter

-- What has to be true between two characters. Where lines return, a carriage return ends one too,
-- but the two signs of one line break are not parted.
inductive Between where
  | start
  | finish
  | lineStart (returns : Bool)
  | lineFinish (returns : Bool)
  | wordEdge
  | noWordEdge
  | wordStart
  | wordFinish
deriving Inhabited

namespace Between

def inWord (c : Option Char) : Bool := c.any Letter.narrowWord.holds

def holds (before after : Option Char) : Between → Bool
  | start => before.isNone
  | finish => after.isNone
  | lineStart false => before.all (· == '\n')
  | lineStart true => before.all fun c => c == '\n' || (c == '\r' && after != some '\n')
  | lineFinish false => after.all (· == '\n')
  | lineFinish true => after.all fun c => c == '\r' || (c == '\n' && before != some '\r')
  | wordEdge => inWord before != inWord after
  | noWordEdge => inWord before == inWord after
  | wordStart => !inWord before && inWord after
  | wordFinish => inWord before && !inWord after

end Between

-- What a text has to look like. Of two ways to match, the one written first is tried first, and a
-- repetition tries more rounds first unless it is reluctant.
inductive Pattern where
  | empty
  | one (letter : Letter)
  | between (condition : Between)
  | both (first second : Pattern)
  | either (first second : Pattern)
  | many (reluctant : Bool) (body : Pattern)
deriving Inhabited

namespace Pattern

-- What repeating has come to: the places where a round began, and those where the last one may have
-- ended, the least preferred first. A place is visited once, since a second visit would find nothing
-- that is not preferred already.
structure Rounds where
  begun : List Nat := []
  ends : List Nat := []

def Rounds.finish (rounds : Rounds) (place : Nat) : Rounds :=
  if place ∈ rounds.ends then rounds else { rounds with ends := place :: rounds.ends }

-- A round that takes nothing is the last one.
def repeatFrom (step : Nat → List Nat) (reluctant : Bool) : Nat → Rounds → Nat → Rounds
  | 0, rounds, place => rounds.finish place
  | fuel + 1, rounds, place =>
    if place ∈ rounds.begun then rounds
    else
      let begun := { rounds with begun := place :: rounds.begun }
      let begun := if reluctant then begun.finish place else begun
      let rounds := (step place).foldl (fun rounds next =>
        if next = place then rounds.finish place else repeatFrom step reluctant fuel rounds next) begun
      rounds.finish place

-- The places where a match may end that begins at one of some places, the preferred ones first.
def ends (text : Array Char) : Pattern → List Nat → List Nat
  | empty, places => places
  | one wanted, places =>
    (places.filter fun place => (text[place]?).any fun c => wanted.holds c).map (· + 1)
  | between condition, places => places.filter fun place =>
      condition.holds (if place = 0 then none else text[place - 1]?) text[place]?
  | both first second, places => ends text second (ends text first places)
  | either first second, places =>
    (places.flatMap fun place => ends text first [place] ++ ends text second [place]).eraseDups
  | many reluctant body, places =>
    (places.foldl (repeatFrom (fun place => ends text body [place]) reluctant (text.size + 1)) {}).ends.reverse

-- The preferred match is the whole text; a shorter one does not count, even if a longer one exists.
def fits (pattern : Pattern) (s : String) : Bool :=
  let text := s.toList.toArray
  (pattern.ends text [0]).head? == some text.size

def maybe (reluctant : Bool) (body : Pattern) : Pattern :=
  if reluctant then .either .empty body else .either body .empty

def atLeastOne (reluctant : Bool) (body : Pattern) : Pattern := .both body (.many reluctant body)

end Pattern
end RealmPlan.Log
