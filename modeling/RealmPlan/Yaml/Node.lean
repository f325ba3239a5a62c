import RealmPlan.Yaml.Token.Lexer

namespace RealmPlan.Yaml

-- A part of a document. An alias stays what it is: the place of an anchor.
inductive Node where
  | scalar (text : String) (style : Style) (tag : Option Tag)
  | sequence (tag : Option Tag) (items : List Node)
  | mapping (tag : Option Tag) (entries : List (Node × Node))
  | reference (place : Nat)
deriving Inhabited

-- A document with what its anchors stand for, the newest first. It has no root where the text holds
-- nothing at all.
structure Tree where
  root : Option Node
  anchors : List (Nat × Node)

namespace Node

mutual
-- A scalar or an alias is one event of a document; a collection has a start and an end.
def events : Node → Nat
  | scalar .. => 1
  | sequence _ items => 2 + itemEvents items
  | mapping _ entries => 2 + entryEvents entries
  | reference _ => 1

def itemEvents : List Node → Nat
  | [] => 0
  | item :: rest => events item + itemEvents rest

def entryEvents : List (Node × Node) → Nat
  | [] => 0
  | (key, value) :: rest => events key + events value + entryEvents rest
end

-- What is read while a tree is built: the tokens that are left, the places of the names that were
-- given to anchors, and what the handles of tags stand for.
structure Reader where
  tokens : List Token
  names : List (String × Nat) := []
  anchors : List (Nat × Node) := []
  handles : List (String × Tag) := [("!", Tag.ofText "!"), ("!!", Tag.ofText "tag:yaml.org,2002:")]

abbrev Building (α : Type) := StateT Reader (Except Fault) α

def peek? : Building (Option Token) := return (← get).tokens.head?

def skip : Building Unit := modify fun reader => { reader with tokens := reader.tokens.tail }

-- Nothing where a scalar could stand.
def nothing : Node := .scalar "" .plain none

-- An anchor's place is the count of names so far. A name that is given again gets a new place, which
-- the next new name will share; of the anchors at one place the last one stays.
def openAnchor (name : String) : Building Nat := do
  let reader ← get
  let place := reader.names.length
  let names := (name, place) :: reader.names.filter (·.1 != name)
  set { reader with names, anchors := (place, nothing) :: reader.anchors }
  return reader.anchors.length

def closeAnchor (opened : Nat) (node : Node) : Building Unit :=
  modify fun reader =>
    let fromFront := reader.anchors.length - 1 - opened
    { reader with anchors := reader.anchors.modify fromFront fun (place, _) => (place, node) }

def resolve (name : String) : Building Node := do
  match (← get).names.lookup name with
  | some place => return .reference place
  | none => throw (.unknownAnchor name)

def tag? : Building (Option Tag) := do
  match ← peek? with
  | some (.tag handle rest) =>
    skip
    if handle.isEmpty then return some rest
    match (← get).handles.lookup handle with
    | some start => return some (start ++ rest)
    | none => throw .badTag
  | _ => return none

def anchor? : Building (Option String) := do
  match ← peek? with
  | some (.anchor name) => skip; return some name
  | _ => return none

-- An anchor and a tag, in either order.
def properties : Building (Option String × Option Tag) := do
  match ← tag? with
  | some tag => return (← anchor?, some tag)
  | none =>
    let anchor ← anchor?
    return (anchor, ← tag?)

mutual
-- The node whose token comes next. A sequence in lines may stand as deep as the key that holds it;
-- it then has no start and no end of its own.
def node (inBlock unindented : Bool) : Nat → Building Node
  | 0 => throw .unexpectedEnd
  | fuel + 1 => do
    if let some (.reference name) ← peek? then
      skip
      return ← resolve name
    let (anchor, tag) ← properties
    match anchor with
    | none => content inBlock unindented tag.isSome tag fuel
    | some name =>
      let opened ← openAnchor name
      let node ← content inBlock unindented true tag fuel
      closeAnchor opened node
      return node

def content (inBlock unindented mayBeNothing : Bool) (tag : Option Tag) : Nat → Building Node
  | 0 => throw .unexpectedEnd
  | fuel + 1 => do
    match ← peek?, inBlock, unindented with
    | some .blockEntry, _, true => return .sequence tag (← unindentedItems fuel)
    | some (.scalar text style), _, _ => skip; return .scalar text style tag
    | some .flowSequence, _, _ => skip; return .sequence tag (← flowItems true fuel)
    | some .flowMapping, _, _ => skip; return .mapping tag (← flowEntries true fuel)
    | some .blockSequence, true, _ => skip; return .sequence tag (← blockItems fuel)
    | some .blockMapping, true, _ => skip; return .mapping tag (← blockEntries fuel)
    | _, _, _ => if mayBeNothing then return .scalar "" .plain tag else throw .unexpectedToken

-- A node, unless one of the tokens that may follow it comes next.
def nodeUnless (ends : List Token) (inBlock unindented : Bool) : Nat → Building Node
  | 0 => throw .unexpectedEnd
  | fuel + 1 => do
    if (← peek?).any (· ∈ ends) then return nothing
    node inBlock unindented fuel

def blockItems : Nat → Building (List Node)
  | 0 => throw .unexpectedEnd
  | fuel + 1 => do
    match ← peek? with
    | some .blockEntry =>
      skip
      let item ← nodeUnless [.blockEntry, .blockEnd] true false fuel
      return item :: (← blockItems fuel)
    | some .blockEnd => skip; return []
    | _ => throw .unexpectedToken

def unindentedItems : Nat → Building (List Node)
  | 0 => throw .unexpectedEnd
  | fuel + 1 => do
    match ← peek? with
    | some .blockEntry =>
      skip
      let item ← nodeUnless [.blockEntry, .key, .value, .blockEnd] true false fuel
      return item :: (← unindentedItems fuel)
    | _ => return []

-- The value behind a key, if a colon is there.
def valueUnless (ends : List Token) (inBlock : Bool) : Nat → Building Node
  | 0 => throw .unexpectedEnd
  | fuel + 1 => do
    match ← peek? with
    | some .value => skip; nodeUnless ends inBlock inBlock fuel
    | _ => return nothing

def blockEntries : Nat → Building (List (Node × Node))
  | 0 => throw .unexpectedEnd
  | fuel + 1 => do
    match ← peek? with
    | some .key =>
      skip
      let key ← nodeUnless [.key, .value, .blockEnd] true true fuel
      let value ← valueUnless [.key, .value, .blockEnd] true fuel
      return (key, value) :: (← blockEntries fuel)
    | some .blockEnd => skip; return []
    | _ => throw .unexpectedToken

-- A comma stands between two items; one more may stand behind the last.
def flowItems (first : Bool) : Nat → Building (List Node)
  | 0 => throw .unexpectedEnd
  | fuel + 1 => do
    match ← peek?, first with
    | some .flowSequenceEnd, _ => skip; return []
    | some .flowEntry, false => skip; flowItem fuel
    | _, true => flowItem fuel
    | _, false => throw .unexpectedToken

-- A key in a sequence is a mapping of its own. Where the key is nothing, the token that shows it
-- is passed over.
def flowItem : Nat → Building (List Node)
  | 0 => throw .unexpectedEnd
  | fuel + 1 => do
    match ← peek? with
    | some .flowSequenceEnd => skip; return []
    | some .key =>
      skip
      let key ←
        if (← peek?).any (· ∈ [.value, .flowEntry, .flowSequenceEnd]) then do
          skip
          pure nothing
        else node false false fuel
      let value ← valueUnless [.flowEntry, .flowSequenceEnd] false fuel
      return .mapping none [(key, value)] :: (← flowItems false fuel)
    | _ =>
      let item ← node false false fuel
      return item :: (← flowItems false fuel)

def flowEntries (first : Bool) : Nat → Building (List (Node × Node))
  | 0 => throw .unexpectedEnd
  | fuel + 1 => do
    match ← peek?, first with
    | some .flowMappingEnd, _ => skip; return []
    | some .flowEntry, false => skip; flowPair fuel
    | _, true => flowPair fuel
    | _, false => throw .unexpectedToken

def flowPair : Nat → Building (List (Node × Node))
  | 0 => throw .unexpectedEnd
  | fuel + 1 => do
    match ← peek? with
    | some .flowMappingEnd => skip; return []
    | some .key =>
      skip
      let key ← nodeUnless [.value, .flowEntry, .flowMappingEnd] false false fuel
      let value ← valueUnless [.flowEntry, .flowMappingEnd] false fuel
      return (key, value) :: (← flowEntries false fuel)
    | _ =>
      let key ← node false false fuel
      return (key, nothing) :: (← flowEntries false fuel)
end

-- A document may say which version it follows and which handles its tags have, each once.
def directives (versioned : Bool) : Nat → Building Bool
  | 0 => throw .unexpectedEnd
  | fuel + 1 => do
    match ← peek? with
    | some (.version major minor) =>
      if versioned || major != 1 || !(minor == 1 || minor == 2) then throw .badDirective
      skip
      directives true fuel
    | some (.tagHandle handle start) =>
      skip
      modify fun reader => { reader with handles := (handle, start) :: reader.handles }
      let _ ← directives versioned fuel
      return true
    | _ => return versioned

def distinctHandles (tokens : List Token) : Bool :=
  let handles := tokens.filterMap fun token => match token with
    | .tagHandle handle _ => some handle
    | _ => none
  handles.eraseDups.length == handles.length

-- Document ends may follow a document, another document may not.
def onlyEnds (tokens : List Token) : Building Unit :=
  if tokens.all (· == .documentEnd) then return () else throw .severalDocuments

def document (fuel : Nat) : Building (Option Node) := do
  if (← get).tokens.isEmpty then return none
  if !distinctHandles (← get).tokens then throw .badDirective
  let directed ← directives false fuel
  let root ← match ← peek? with
    | some .documentStart =>
      skip
      match ← peek? with
      | none | some .documentStart | some .documentEnd => pure nothing
      | some (.version ..) | some (.tagHandle ..) => pure nothing
      | _ => node true false fuel
    | _ => if directed then throw .unexpectedToken else node true false fuel
  onlyEnds (← get).tokens
  return some root

end Node

-- Every call takes a token or ends; only a few stand between two tokens.
def Tree.parse (s : String) : Scanning Tree := do
  let tokens ← Token.ofText s
  let (root, reader) ← (Node.document (8 * tokens.length + 8)).run { tokens }
  return { root, anchors := reader.anchors }

def Tree.events (tree : Tree) : Nat := (tree.root.map Node.events).getD 1

end RealmPlan.Yaml
