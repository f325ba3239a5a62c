namespace RealmPlan.Yaml

-- How a scalar is written. Only a plain one can be more than a text, unless its tag says so.
inductive Style where
  | plain
  | quoted
  | literal
  | folded
deriving DecidableEq, Inhabited

-- The bytes of a tag; they need not be a text.
abbrev Tag := List UInt8

def Tag.ofText (s : String) : Tag := s.toUTF8.toList

-- Indentation is made visible: a collection that stands in lines has a start and an end like one
-- that stands in brackets.
inductive Token where
  | version (major minor : Nat)
  -- A handle, and what it stands for at the start of a tag.
  | tagHandle (handle : String) (start : Tag)
  | documentStart
  | documentEnd
  | blockSequence
  | blockMapping
  | blockEnd
  | flowSequence
  | flowSequenceEnd
  | flowMapping
  | flowMappingEnd
  | blockEntry
  | flowEntry
  | key
  | value
  | reference (name : String)
  | anchor (name : String)
  -- The handle is empty where the tag is written out.
  | tag (handle : String) (rest : Tag)
  | scalar (text : String) (style : Style)
deriving DecidableEq, Inhabited

end RealmPlan.Yaml
