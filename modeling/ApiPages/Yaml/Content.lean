import ApiPages.Yaml.Token

namespace ApiPages.Yaml

inductive Content where
  -- A plain scalar is not quoted; what it means hangs on how it looks.
  | scalar (tag : Option String) (plain : Bool) (text : String)
  | list (tag : Option String) (items : List Content)
  | mapping (tag : Option String) (members : List (Content × Content))

namespace Content

instance : Inhabited Content := ⟨.scalar none true ""⟩

def empty : Content := .scalar none true ""

structure Reading where
  tokens : List Token
  -- Anchors with their content, which is missing as long as it is read.
  anchors : List (String × Option Content) := []
  handles : List (String × String) := []

abbrev Read := StateT Reading Option

def standardHandles : List (String × String) := [("!", "!"), ("!!", "tag:yaml.org,2002:")]

def peek : Read (Option Token) := return (← get).tokens.head?

def drop : Read Unit := modify fun s => { s with tokens := s.tokens.drop 1 }

-- Pass a token if it stands here.
def accept (token : Token) : Read Bool := do
  if (← peek) = some token then
    drop
    return true
  return false

def expect (token : Token) : Read Unit := do
  if !(← accept token) then failure

-- Whether one of some tokens stands here.
def isAt (tokens : List Token) : Read Bool := return (← peek).any tokens.contains

def anchor? : Read (Option String) := do
  match ← peek with
  | some (.anchor name) =>
    drop
    if (← get).anchors.any (·.1 = name) then failure
    modify fun s => { s with anchors := (name, none) :: s.anchors }
    return some name
  | _ => return none

def tag? : Read (Option String) := do
  match ← peek with
  | some (.tag handle name) =>
    drop
    match handle with
    | none => return some name
    | some handle =>
      match (← get).handles.lookup handle with
      | some meaning => return some (meaning ++ name)
      | none => failure
  | _ => return none

mutual

-- A node. `block` allows block collections, `bare` a list that is not indented further.
def readNode : Nat → (block bare : Bool) → Read Content
  | 0, _, _ => failure
  | fuel + 1, block, bare => do
    match ← peek with
    | some (.alias name) =>
      drop
      match (← get).anchors.lookup name with
      | some (some content) => return content
      | _ => failure
    | _ =>
      let anchor ← anchor?
      let tag ← tag?
      let anchor ← match anchor with
        | some name => pure (some name)
        | none => anchor?
      let given := anchor.isSome || tag.isSome
      -- The tag "!" says nothing about a collection and makes any scalar plain.
      let weak := tag = some "!"
      let named := if weak then none else tag
      let content ←
        if bare && (← isAt [.item]) then
          pure (Content.list named (← readBareItems fuel))
        else match ← peek with
          | some (.scalar text plain) =>
            drop
            pure (.scalar named ((plain && tag.isNone) || weak) text)
          | some .flowListStart =>
            drop
            pure (.list named (← readFlowItems fuel true))
          | some .flowMappingStart =>
            drop
            pure (.mapping named (← readFlowMembers fuel true))
          | some .blockList =>
            if !block then failure
            drop
            pure (.list named (← readItems fuel))
          | some .blockMapping =>
            if !block then failure
            drop
            pure (.mapping named (← readMembers fuel))
          | _ => if given then pure (.scalar named named.isNone "") else failure
      match anchor with
      | some name => modify fun s => { s with anchors := (name, some content) :: s.anchors }
      | none => pure ()
      return content

def readItems : Nat → Read (List Content)
  | 0 => failure
  | fuel + 1 => do
    if ← accept .item then
      let item ← if ← isAt [.item, .blockEnd] then pure empty else readNode fuel true false
      return item :: (← readItems fuel)
    expect .blockEnd
    return []

def readBareItems : Nat → Read (List Content)
  | 0 => failure
  | fuel + 1 => do
    if ← accept .item then
      let item ← if ← isAt [.item, .key, .value, .blockEnd] then pure empty
        else readNode fuel true false
      return item :: (← readBareItems fuel)
    return []

def readMembers : Nat → Read (List (Content × Content))
  | 0 => failure
  | fuel + 1 => do
    if ← accept .key then
      let key ← if ← isAt [.key, .value, .blockEnd] then pure empty else readNode fuel true true
      let value ←
        if ← accept .value then
          if ← isAt [.key, .value, .blockEnd] then pure empty else readNode fuel true true
        else pure empty
      return (key, value) :: (← readMembers fuel)
    expect .blockEnd
    return []

-- A key and its value inside of a flow collection that ends with a token.
def readFlowMember (ending : Token) : Nat → Read (Content × Content)
  | 0 => failure
  | fuel + 1 => do
    let key ← if ← isAt [.value, .comma, ending] then pure empty else readNode fuel false false
    let value ←
      if ← accept .value then
        if ← isAt [.comma, ending] then pure empty else readNode fuel false false
      else pure empty
    return (key, value)

def readFlowItems : Nat → (first : Bool) → Read (List Content)
  | 0, _ => failure
  | fuel + 1, first => do
    if ← accept .flowListEnd then return []
    if !first then expect .comma
    if ← accept .key then
      let member ← readFlowMember .flowListEnd fuel
      return .mapping none [member] :: (← readFlowItems fuel false)
    if ← accept .flowListEnd then return []
    let item ← readNode fuel false false
    return item :: (← readFlowItems fuel false)

def readFlowMembers : Nat → (first : Bool) → Read (List (Content × Content))
  | 0, _ => failure
  | fuel + 1, first => do
    if ← accept .flowMappingEnd then return []
    if !first then expect .comma
    if ← accept .key then
      let member ← readFlowMember .flowMappingEnd fuel
      return member :: (← readFlowMembers fuel false)
    if ← accept .flowMappingEnd then return []
    let key ← readNode fuel false false
    return (key, empty) :: (← readFlowMembers fuel false)

end

-- The directives in front of a document.
def readDirectives : Nat → Bool → Read Unit
  | 0, _ => failure
  | fuel + 1, versioned => do
    match ← peek with
    | some (.version major) =>
      if versioned || major ≠ 1 then failure
      drop
      readDirectives fuel true
    | some (.handle name meaning) =>
      if (← get).handles.any (·.1 = name) then failure
      drop
      modify fun s => { s with handles := (name, meaning) :: s.handles }
      readDirectives fuel versioned
    | some .otherDirective =>
      drop
      readDirectives fuel versioned
    | _ => return

def isDirective : Token → Bool
  | .version _ | .handle _ _ | .otherDirective => true
  | _ => false

def dropEnds : Nat → Read Unit
  | 0 => return
  | fuel + 1 => do if ← accept .documentEnd then dropEnds fuel

-- The content of the only document, or nothing when there is none.
def readDocument : Read (Option Content) := do
  let fuel := 2 * (← get).tokens.length + 2
  let first ← peek
  let content ← match first with
    | none => pure none
    | some token =>
      if token = .documentStart || isDirective token then do
        readDirectives fuel false
        -- A handle given here counts before the standard one.
        modify fun s => { s with handles := s.handles ++ standardHandles }
        expect .documentStart
        let next ← peek
        if next.all fun token => isDirective token || token = .documentStart || token = .documentEnd then
          pure (some empty)
        else some <$> readNode fuel true false
      else do
        modify fun s => { s with handles := standardHandles }
        some <$> readNode fuel true false
  dropEnds fuel
  if (← peek).isSome then failure
  return content

end Content

-- What a text holds: its document, if there is one. A text that breaks a rule is refused.
def content? (text : List Char) : Option (Option Content) := do
  let tokens ← tokens? text
  (Content.readDocument.run { tokens }).map (·.1)

end ApiPages.Yaml
