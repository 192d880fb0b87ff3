import CommonExpr.Document.Token

/-! Nodes of documents: scalars, sequences and mappings. A node may be named by an
anchor and be repeated under an alias. -/

namespace CommonExpr.Document

/-- How the value of a scalar is found: by its form, as text, or by its tag. -/
inductive Reading where
  | byForm
  | asText
  | tagged (tag : Tag)
deriving DecidableEq

inductive Node where
  | scalar (reading : Reading) (text : String)
  | sequence (tag : Option Tag) (items : List Node)
  | mapping (tag : Option Tag) (entries : List (Node × Node))

instance : Inhabited Node := ⟨.scalar .byForm ""⟩

namespace Node

/-- What stands where a node is left out. -/
def empty : Node := .scalar .byForm ""

/-- Anchors that were set; those of collections that are still open have no node. -/
abbrev Anchors := List (String × Option Node)

abbrev Reader := StateT Anchors Scan

def peek : Reader Token := liftM Scanner.peek

def take : Reader Token := liftM Scanner.take

def fail (problem : Problem) : Reader α := throw problem

/-- The anchor and the tag in front of a node, in either order. -/
def properties : Reader (Option String × Option Tag) := do
  match ← peek with
  | .anchor name =>
    let _ ← take
    match ← peek with
    | .tag tag => do
      let _ ← take
      return (some name, some tag)
    | _ => return (some name, none)
  | .tag tag =>
    let _ ← take
    match ← peek with
    | .anchor name => do
      let _ ← take
      return (some name, some tag)
    | _ => return (none, some tag)
  | _ => return (none, none)

/-- An anchor may be set only once. -/
def openAnchor : Option String → Reader Unit
  | none => return ()
  | some name => do
    if ((← get).lookup name).isSome then fail .reference
    modify ((name, none) :: ·)

def closeAnchor (anchor : Option String) (node : Node) : Reader Node := do
  if let some name := anchor then modify ((name, some node) :: ·)
  return node

def resolveAlias (name : String) : Reader Node := do
  match (← get).lookup name with
  | some (some node) => return node
  | some none => fail .content
  | none => fail .reference

/-- An unspecific tag leaves a collection what it is. -/
def collectionTag : Option Tag → Option Tag
  | some .unspecific => none
  | tag => tag

def scalarReading (plain : Bool) : Option Tag → Reading
  | none => if plain then .byForm else .asText
  | some .unspecific => .byForm
  | some tag => .tagged tag

mutual

/-- Reads a node. Blocks are read only where the node is in a block itself, and a
sequence that is not indented only as a value of a mapping. -/
def read (inBlock unindented : Bool) : Nat → Reader Node
  | 0 => fail .arrangement
  | fuel + 1 => do
    if let .alias name ← peek then
      let _ ← take
      return ← resolveAlias name
    let (anchor, tag) ← properties
    if tag = some .undefinedHandle then fail .arrangement
    match ← peek, inBlock, unindented with
    | .entry, _, true =>
      openAnchor anchor
      closeAnchor anchor (.sequence (collectionTag tag) (← unindentedItems fuel))
    | .scalar plain text, _, _ =>
      let _ ← take
      openAnchor anchor
      closeAnchor anchor (.scalar (scalarReading plain tag) text)
    | .sequenceStart, _, _ =>
      openAnchor anchor
      let _ ← take
      closeAnchor anchor (.sequence (collectionTag tag) (← flowItems true fuel))
    | .mappingStart, _, _ =>
      openAnchor anchor
      let _ ← take
      closeAnchor anchor (.mapping (collectionTag tag) (← flowEntries true fuel))
    | .blockSequenceStart, true, _ =>
      openAnchor anchor
      let _ ← take
      closeAnchor anchor (.sequence (collectionTag tag) (← blockItems fuel))
    | .blockMappingStart, true, _ =>
      openAnchor anchor
      let _ ← take
      closeAnchor anchor (.mapping (collectionTag tag) (← blockEntries fuel))
    | _, _, _ =>
      if anchor.isNone && tag.isNone then fail .arrangement
      openAnchor anchor
      closeAnchor anchor (.scalar (scalarReading true tag) "")

/-- A node that is left out if one of the given tokens comes. -/
def readUnless (ending : Token → Bool) (inBlock unindented : Bool) : Nat → Reader Node
  | 0 => fail .arrangement
  | fuel + 1 => do
    if ending (← peek) then return empty else read inBlock unindented fuel

def blockItems : Nat → Reader (List Node)
  | 0 => fail .arrangement
  | fuel + 1 => do
    match ← take with
    | .entry =>
      let item ← readUnless (· ∈ [.entry, .blockEnd]) true false fuel
      return item :: (← blockItems fuel)
    | .blockEnd => return []
    | _ => fail .arrangement

def unindentedItems : Nat → Reader (List Node)
  | 0 => fail .arrangement
  | fuel + 1 => do
    match ← peek with
    | .entry =>
      let _ ← take
      let item ← readUnless (· ∈ [.entry, .key, .value, .blockEnd]) true false fuel
      return item :: (← unindentedItems fuel)
    | _ => return []

/-- A key without a value has an empty one. -/
def blockEntries : Nat → Reader (List (Node × Node))
  | 0 => fail .arrangement
  | fuel + 1 => do
    match ← take with
    | .key =>
      let key ← readUnless (· ∈ [.key, .value, .blockEnd]) true true fuel
      let value ← readValue (· ∈ [.key, .value, .blockEnd]) true fuel
      return (key, value) :: (← blockEntries fuel)
    | .blockEnd => return []
    | _ => fail .arrangement

def readValue (ending : Token → Bool) (inBlock : Bool) : Nat → Reader Node
  | 0 => fail .arrangement
  | fuel + 1 => do
    match ← peek with
    | .value =>
      let _ ← take
      readUnless ending inBlock inBlock fuel
    | _ => return empty

/-- A key in a sequence makes a mapping of one entry. -/
def flowItems (first : Bool) : Nat → Reader (List Node)
  | 0 => fail .arrangement
  | fuel + 1 => do
    if (← peek) = .sequenceEnd then
      let _ ← take
      return []
    if !first then
      if (← take) ≠ .separator then fail .arrangement
    match ← peek with
    | .key =>
      let _ ← take
      let key ← readUnless (· ∈ [.value, .separator, .sequenceEnd]) false false fuel
      let value ← readValue (· ∈ [.separator, .sequenceEnd]) false fuel
      return .mapping none [(key, value)] :: (← flowItems false fuel)
    | .sequenceEnd =>
      let _ ← take
      return []
    | _ =>
      let item ← read false false fuel
      return item :: (← flowItems false fuel)

/-- A node that is not marked as a key has an empty value. -/
def flowEntries (first : Bool) : Nat → Reader (List (Node × Node))
  | 0 => fail .arrangement
  | fuel + 1 => do
    if (← peek) = .mappingEnd then
      let _ ← take
      return []
    if !first then
      if (← take) ≠ .separator then fail .arrangement
    match ← peek with
    | .key =>
      let _ ← take
      let key ← readUnless (· ∈ [.value, .separator, .mappingEnd]) false false fuel
      let value ← readValue (· ∈ [.separator, .mappingEnd]) false fuel
      return (key, value) :: (← flowEntries false fuel)
    | .mappingEnd =>
      let _ ← take
      return []
    | _ =>
      let key ← read false false fuel
      return (key, empty) :: (← flowEntries false fuel)

end

/-- Passes over tokens of one kind. -/
def skipTokens (token : Token) : Nat → Reader Unit
  | 0 => return ()
  | fuel + 1 => do
    if (← peek) = token then
      let _ ← take
      skipTokens token fuel

/-- Directives and the mark that starts a document. -/
def documentStart (fuel : Nat) : Reader Unit := do
  skipTokens .directive fuel
  if (← take) ≠ .documentStart then fail .arrangement

/-- The only document of a text, or nothing if there is none. -/
def readDocument (fuel : Nat) : Reader (Option Node) := do
  let root ← match ← peek with
    | .streamEnd => return none
    | .directive | .documentStart =>
      documentStart fuel
      readUnless (· ∈ [.directive, .documentStart, .documentEnd, .streamEnd]) true false fuel
    | _ => read true false fuel
  skipTokens .documentEnd fuel
  if (← peek) = .streamEnd then return some root
  documentStart fuel
  fail .reference

def ofText? (text : String) : Except Problem (Option Node) :=
  if text.toList.all isAllowed then
    let fuel := 4 * text.length + 16
    (((readDocument fuel).run []).run (Scanner.ofText text)).map (·.1.1)
  else .error .character

end Node
end CommonExpr.Document
