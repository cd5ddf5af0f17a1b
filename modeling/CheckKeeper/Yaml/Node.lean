import CheckKeeper.Yaml.Scalar
import CheckKeeper.Yaml.Token

namespace CheckKeeper.Yaml

/-! Values from YAML text.

The tokens of a text make a tree of nodes, which keep the places where they began.
A node then gives a value.  Of pairs with one key the last value counts, at the
place of the first.
-/

inductive Node where
  | scalar (plain : Bool) (content : List Char) (mark : Mark)
  | list (items : List Node) (mark : Mark)
  | record (fields : List (Node × Node)) (mark : Mark)
  | tagged (tag : String) (content : Node) (mark : Mark)

instance : Inhabited Node := ⟨.scalar true [] .start⟩

namespace Node

def mark : Node → Mark
  | .scalar _ _ mark => mark
  | .list _ mark => mark
  | .record _ mark => mark
  | .tagged _ _ mark => mark

def empty (mark : Mark) : Node :=
  .scalar true [] mark

end Node

/-- The tokens that are left, and the nodes that have names. -/
structure Reading where
  tokens : List Token
  named : List (String × Node)

abbrev Parse (α : Type) : Type :=
  StateT Reading (Except Fault) α

namespace Parse

/-- The next token; a fault among the tokens comes up when it is next. -/
def peek : Parse Token := fun reading =>
  match reading.tokens with
  | [] => .ok (⟨.streamEnd, .start⟩, reading)
  | ⟨.broken fault, _⟩ :: _ => .error fault
  | token :: _ => .ok (token, reading)

def skip : Parse Unit :=
  modify fun reading => { reading with tokens := reading.tokens.tail }

def fail {α : Type} (fault : Fault) : Parse α := fun _ => .error fault

def next (p : Lexeme → Bool) : Parse Bool := do
  return p (← peek).lexeme

/-- Passes over the next token if it satisfies `p`, and answers whether it did. -/
def take (p : Lexeme → Bool) : Parse Bool := do
  if ← next p then
    skip
    return true
  else return false

def setName (name : Option String) (node : Node) : Parse Node := do
  match name with
  | some name => modify fun reading => { reading with named := (name, node) :: reading.named }
  | none => pure ()
  return node

end Parse

namespace Lexeme

def isItem : Lexeme → Bool
  | .item => true
  | _ => false

def isKey : Lexeme → Bool
  | .key => true
  | _ => false

def isValue : Lexeme → Bool
  | .value => true
  | _ => false

def isComma : Lexeme → Bool
  | .comma => true
  | _ => false

def isBlockEnd : Lexeme → Bool
  | .blockEnd => true
  | _ => false

def isListClose : Lexeme → Bool
  | .listClose => true
  | _ => false

def isRecordClose : Lexeme → Bool
  | .recordClose => true
  | _ => false

def isStreamEnd : Lexeme → Bool
  | .streamEnd => true
  | _ => false

def isDocumentStart : Lexeme → Bool
  | .documentStart => true
  | _ => false

def isDocumentEnd : Lexeme → Bool
  | .documentEnd => true
  | _ => false

def isDirective : Lexeme → Bool
  | .directive => true
  | _ => false

end Lexeme

open Parse
open Lexeme (isItem isKey isValue isComma isBlockEnd isListClose isRecordClose isStreamEnd
  isDocumentStart isDocumentEnd isDirective)

def properties : Nat → Option String → Option String → Parse (Option String × Option String)
  | 0, name, tag => return (name, tag)
  | count + 1, name, tag => do
      match (← peek).lexeme with
      | .anchor given => do
          skip
          properties count (some given) tag
      | .tag given => do
          skip
          properties count name (some given)
      | _ => return (name, tag)

def namedNode (name : String) (mark : Mark) : Parse Node := do
  match (← get).named.lookup name with
  | some node => return node
  | none =>
      fail (.single .document ("found undefined alias " ++ Text.quotedText name) mark)

def withTag (tag : Option String) (mark : Mark) (node : Node) : Node :=
  match tag with
  | some tag => .tagged tag node mark
  | none => node

mutual

/-- A node; only where `block` holds it may be a block, and only where `bare` holds
a list of items without a block of its own. -/
def readNode : Nat → Bool → Bool → Parse Node
  | 0, _, _ => return default
  | fuel + 1, block, bare => do
      let start := (← peek).mark
      let (name, tag) ← properties 2 none none
      let token ← peek
      let finish := fun (node : Node) => setName name (withTag tag start node)
      match token.lexeme with
      | .alias name => do
          skip
          namedNode name token.mark
      | .scalar plain content => do
          skip
          finish (.scalar plain content start)
      | .listOpen => do
          skip
          finish (.list (← readListItems fuel token.mark true) start)
      | .recordOpen => do
          skip
          finish (.record (← readPairs fuel token.mark true) start)
      | lexeme =>
          if bare && lexeme.isItem then
            finish (.list (← readBareItems fuel) start)
          else
            match block, lexeme with
            | true, .sequenceStart => do
                skip
                finish (.list (← readItems fuel token.mark) start)
            | true, .mappingStart => do
                skip
                finish (.record (← readFields fuel token.mark) start)
            | _, _ =>
                if name.isSome || tag.isSome then finish (.empty start)
                else
                  fail (.within .shape
                    (if block then "while parsing a block node" else "while parsing a flow node")
                    start ("expected the node content, but found " ++ lexeme.label) token.mark)

def readItems : Nat → Mark → Parse (List Node)
  | 0, _ => return []
  | fuel + 1, start => do
      if ← take isItem then
        let here := (← peek).mark
        let first ←
          if ← next fun l => l.isItem || l.isBlockEnd then pure (.empty here)
          else readNode fuel true false
        return first :: (← readItems fuel start)
      else if ← take isBlockEnd then return []
      else
        let token ← peek
        fail (.within .shape "while parsing a block collection" start
          ("expected <block end>, but found " ++ token.lexeme.label) token.mark)

/-- Items that stand in the column of the key that they belong to. -/
def readBareItems : Nat → Parse (List Node)
  | 0 => return []
  | fuel + 1 => do
      if ← take isItem then
        let here := (← peek).mark
        let first ←
          if ← next fun l => l.isItem || l.isKey || l.isValue || l.isBlockEnd then
            pure (.empty here)
          else readNode fuel true false
        return first :: (← readBareItems fuel)
      else return []

def readFields : Nat → Mark → Parse (List (Node × Node))
  | 0, _ => return []
  | fuel + 1, start => do
      if ← take isBlockEnd then return []
      else
        let token ← peek
        if token.lexeme.isKey || token.lexeme.isValue then
          let key ← if ← take isKey then readBlockPart fuel else pure (.empty token.mark)
          let value ← if ← take isValue then readBlockPart fuel else pure (.empty (← peek).mark)
          return (key, value) :: (← readFields fuel start)
        else
          fail (.within .shape "while parsing a block mapping" start
            ("expected <block end>, but found " ++ token.lexeme.label) token.mark)

def readBlockPart : Nat → Parse Node
  | 0 => return default
  | fuel + 1 => do
      if ← next fun l => l.isKey || l.isValue || l.isBlockEnd then
        return .empty (← peek).mark
      else readNode fuel true true

/-- The items between brackets, up to the closing one. -/
def readListItems : Nat → Mark → Bool → Parse (List Node)
  | 0, _, _ => return []
  | fuel + 1, start, first => do
      if ← take isListClose then return []
      else
        if !first && !(← take isComma) then
          let token ← peek
          fail (.within .shape "while parsing a flow sequence" start
            ("expected ',' or ']', but got " ++ token.lexeme.label) token.mark)
        else if ← take isListClose then return []
        else
          let here := (← peek).mark
          let item ←
            if ← take isKey then
              let pair ← readPair fuel fun l => l.isComma || l.isListClose
              pure (.record [pair] here)
            else readNode fuel false false
          return item :: (← readListItems fuel start false)

/-- A pair in brackets behind the token of its key. -/
def readPair : Nat → (Lexeme → Bool) → Parse (Node × Node)
  | 0, _ => return default
  | fuel + 1, ends => do
      let key ←
        if ← next fun l => l.isValue || ends l then pure (.empty (← peek).mark)
        else readNode fuel false false
      if ← take isValue then
        let value ←
          if ← next ends then pure (.empty (← peek).mark) else readNode fuel false false
        return (key, value)
      else return (key, .empty (← peek).mark)

/-- The pairs between braces, up to the closing one. -/
def readPairs : Nat → Mark → Bool → Parse (List (Node × Node))
  | 0, _, _ => return []
  | fuel + 1, start, first => do
      if ← take isRecordClose then return []
      else
        if !first && !(← take isComma) then
          let token ← peek
          fail (.within .shape "while parsing a flow mapping" start
            ("expected ',' or '\x7d', but got " ++ token.lexeme.label) token.mark)
        else if ← take isRecordClose then return []
        else
          let pair ←
            if ← take isKey then readPair fuel fun l => l.isComma || l.isRecordClose
            else
              let key ← readNode fuel false false
              pure (key, .empty (← peek).mark)
          return pair :: (← readPairs fuel start false)

end

def skipAll (p : Lexeme → Bool) : Nat → Parse Unit
  | 0 => return ()
  | count + 1 => do
      if ← take p then skipAll p count else return ()

def expectDocumentStart : Parse Unit := do
  let token ← peek
  if !(← take isDocumentStart) then
    fail (.single .shape
      ("expected '<document start>', but found " ++ token.lexeme.label) token.mark)

def readDocument (fuel : Nat) : Parse (Option Node) := do
  if ← next isStreamEnd then return none
  else
    let marked ← next fun l => l.isDirective || l.isDocumentStart
    if marked then
      skipAll isDirective fuel
      expectDocumentStart
    let here := (← peek).mark
    let root ←
      if ← next fun l =>
          marked && (l.isDirective || l.isDocumentStart || l.isDocumentEnd || l.isStreamEnd) then
        pure (.empty here)
      else readNode fuel true false
    skipAll isDocumentEnd fuel
    if ← next isStreamEnd then return some root
    else
      skipAll isDirective fuel
      let mark := (← peek).mark
      expectDocumentStart
      fail (.within .document "expected a single document in the stream" here
        "but found another document" mark)

/-- Sets a field: in its place if there is one of an equal name, and else at the end. -/
def setField (fields : List (Value × Value)) (name value : Value) : List (Value × Value) :=
  if fields.any fun field => field.1.same name then
    fields.map fun field => if field.1.same name then (field.1, value) else field
  else fields ++ [(name, value)]

/-- The value of a scalar with a tag; only texts can be asked for. -/
def taggedValue (source : Source) (tag : String) (node : Node) (mark : Mark) :
    Except Failure Value :=
  match node with
  | .scalar _ content _ =>
      if tag = "!" || tag = "!!str" then .ok (.text (String.ofList content)) else refuse
  | _ => refuse
where
  refuse : Except Failure Value :=
    let full := if tag.startsWith "!!" then "tag:yaml.org,2002:" ++ (tag.drop 2).toString else tag
    .error (.yaml (.single .meaning
      ("could not determine a constructor for the tag " ++ Text.quotedText full) mark) source)

mutual

def Node.toValue (source : Source) : Node → Except Failure Value
  | .scalar true content _ => plainValue content
  | .scalar false content _ => .ok (.text (String.ofList content))
  | .list items _ => (itemValues source items).map Value.list
  | .record fields mark => (fieldValues source mark [] fields).map Value.record
  | .tagged tag content mark => taggedValue source tag content mark

def itemValues (source : Source) : List Node → Except Failure (List Value)
  | [] => .ok []
  | item :: rest => do
      let first ← item.toValue source
      return first :: (← itemValues source rest)

def fieldValues (source : Source) (start : Mark) (found : List (Value × Value)) :
    List (Node × Node) → Except Failure (List (Value × Value))
  | [] => .ok found
  | (key, content) :: rest => do
      let name ← key.toValue source
      if name.unhashable?.isSome then
        .error (.yaml (.within .meaning "while constructing a mapping" start
          "found unhashable key" key.mark) source)
      else
        let value ← content.toValue source
        fieldValues source start (setField found name value) rest

end

/-- A number that no character has is no fault of YAML. -/
def Fault.toFailure (fault : Fault) (source : Source) : Failure :=
  match fault.kind with
  | .beyondCharacters => .rule .beyondCharacters
  | .beyondMeasure => .overflow .machineInteger
  | _ => .yaml fault source

/-- Reads the one document of a text; an empty text means nothing. -/
def read (source : Source) (text : List Char) : Except Failure Value := do
  let all := tokens text
  match (readDocument (2 * all.length + 4)).run ⟨all, []⟩ with
  | .error fault => .error (fault.toFailure source)
  | .ok (none, _) => .ok .null
  | .ok (some node, _) => node.toValue source

end CheckKeeper.Yaml
