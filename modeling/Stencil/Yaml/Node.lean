import Stencil.Yaml.Token

set_option autoImplicit false
set_option relaxedAutoImplicit false

/-!
The nodes of a YAML document. An empty place in a collection is a plain text without characters.
-/

namespace Stencil.Yaml

/-- A node. A reference to a node that encloses it is cut off. -/
inductive Node
  | scalar (tag? : Option String) (isPlain : Bool) (text : String)
  | sequence (items : List Node)
  | mapping (entries : List (Node × Node))
  | cut
deriving Inhabited

def Node.empty : Node := .scalar none true ""

namespace Node

/-- What reading goes on with: the tokens that follow, the nodes that have names, and the families of tags. -/
structure Reading where
  tokens : List Token
  anchors : List (String × Node)
  handles : List (String × String)

abbrev Reader := StateT Reading Option

def fail {α : Type} : Reader α := fun _ => none

def peek : Reader (Option Token) := do pure (← get).tokens.head?

def advance : Reader Unit := modify fun r => { r with tokens := r.tokens.drop 1 }

def expect (t : Token) : Reader Unit := do
  if (← peek) = some t then advance else fail

/-- A tag with its family in place of the handle. -/
def resolveTag (handle suffix : String) : Reader String := do
  if handle.isEmpty then pure suffix
  else
    match (← get).handles.lookup handle with
    | some pre => pure (pre ++ suffix)
    | none => fail

/-- The name and the tag in front of a node, in either order. -/
def properties : Reader (Option String × Option String) := do
  let anchor : Reader (Option String) := do
    match ← peek with
    | some (.anchor n) => advance; pure (some n)
    | _ => pure none
  let tag : Reader (Option String) := do
    match ← peek with
    | some (.tag h s) => advance; some <$> resolveTag h s
    | _ => pure none
  let a ← anchor
  let t ← tag
  let a' ← if a.isNone then anchor else pure none
  pure (a.or a', t)

def register (anchor : Option String) (n : Node) : Reader Unit :=
  match anchor with
  | none => pure ()
  | some a => modify fun r => { r with anchors := (a, n) :: r.anchors }

def sees (ts : List Token) : Reader Bool := do
  match ← peek with
  | some t => pure (ts.contains t)
  | none => pure true

mutual

/-- A node. In a block it may be a block collection, and in a mapping a sequence may stand at the column of its
key. -/
def node (inBlock besideKey : Bool) : Nat → Reader Node
  | 0 => fail
  | n + 1 => do
    match ← peek with
    | some (.alias name) =>
      advance
      match (← get).anchors.lookup name with
      | some x => pure x
      | none => fail
    | _ => do
      let (anchor, tag) ← properties
      register anchor .cut
      let x ← match ← peek with
        | some (.scalar s isPlain) => do advance; pure (.scalar tag isPlain s)
        | some .flowSequence => do advance; .sequence <$> flowItems n true
        | some .flowMapping => do advance; .mapping <$> flowEntries n true
        | some .blockSequence =>
          if inBlock then do advance; .sequence <$> blockItems n else fail
        | some .blockMapping =>
          if inBlock then do advance; .mapping <$> blockEntries n else fail
        | some .blockEntry =>
          if besideKey then .sequence <$> besideItems n
          else if anchor.isSome || tag.isSome then pure (.scalar tag true "")
          else fail
        | _ => if anchor.isSome || tag.isSome then pure (.scalar tag true "") else fail
      register anchor x
      pure x

/-- A node, or an empty place in front of certain tokens. -/
def nodeOrEmpty (inBlock besideKey : Bool) (stops : List Token) : Nat → Reader Node
  | 0 => fail
  | n + 1 => do
    if ← sees stops then pure .empty else node inBlock besideKey n

def blockItems : Nat → Reader (List Node)
  | 0 => fail
  | n + 1 => do
    match ← peek with
    | some .blockEntry => do
      advance
      let x ← nodeOrEmpty true false [.blockEntry, .blockEnd] n
      let xs ← blockItems n
      pure (x :: xs)
    | some .blockEnd => do advance; pure []
    | _ => fail

/-- The items of a sequence at the column of its key. -/
def besideItems : Nat → Reader (List Node)
  | 0 => fail
  | n + 1 => do
    match ← peek with
    | some .blockEntry => do
      advance
      let x ← nodeOrEmpty true false [.blockEntry, .key, .value, .blockEnd] n
      let xs ← besideItems n
      pure (x :: xs)
    | _ => pure []

def blockEntries : Nat → Reader (List (Node × Node))
  | 0 => fail
  | n + 1 => do
    match ← peek with
    | some .key => do
      advance
      let k ← nodeOrEmpty true true [.key, .value, .blockEnd] n
      let v ← match ← peek with
        | some .value => do
          advance
          nodeOrEmpty true true [.key, .value, .blockEnd] n
        | _ => pure .empty
      let r ← blockEntries n
      pure ((k, v) :: r)
    | some .blockEnd => do advance; pure []
    | _ => fail

/-- The value behind a key in a flow, or an empty place. -/
def flowValue (stops : List Token) : Nat → Reader Node
  | 0 => fail
  | n + 1 => do
    match ← peek with
    | some .value => do
      advance
      nodeOrEmpty false false stops n
    | _ => pure .empty

/-- The items of a flow sequence. A pair among them is a mapping of its own. -/
def flowItems : Nat → Bool → Reader (List Node)
  | 0, _ => fail
  | n + 1, isFirst => do
    if (← peek) = some .flowSequenceEnd then advance; pure []
    else
      if !isFirst then expect .flowEntry
      match ← peek with
      | some .key => do
        advance
        let k ← nodeOrEmpty false false [.value, .flowEntry, .flowSequenceEnd] n
        let v ← flowValue [.flowEntry, .flowSequenceEnd] n
        let r ← flowItems n false
        pure (.mapping [(k, v)] :: r)
      | some .flowSequenceEnd => do advance; pure []
      | _ => do
        let x ← node false false n
        let r ← flowItems n false
        pure (x :: r)

def flowEntries : Nat → Bool → Reader (List (Node × Node))
  | 0, _ => fail
  | n + 1, isFirst => do
    if (← peek) = some .flowMappingEnd then advance; pure []
    else
      if !isFirst then expect .flowEntry
      match ← peek with
      | some .key => do
        advance
        let k ← nodeOrEmpty false false [.value, .flowEntry, .flowMappingEnd] n
        let v ← flowValue [.flowEntry, .flowMappingEnd] n
        let r ← flowEntries n false
        pure ((k, v) :: r)
      | some .flowMappingEnd => do advance; pure []
      | _ => do
        let k ← node false false n
        let r ← flowEntries n false
        pure ((k, .empty) :: r)

end

def usualHandles : List (String × String) := [("!", "!"), ("!!", "tag:yaml.org,2002:")]

/-- The directives in front of a document: at most one version, which must be known, and different handles. -/
def directives : Bool → List (String × String) → List Token → Option (List (String × String) × List Token)
  | seen, handles, .version major minor :: r =>
    if seen || major ≠ 1 || minor ≠ 1 && minor ≠ 2 then none else directives true handles r
  | seen, handles, .handle name pre :: r =>
    if (handles.lookup name).isSome then none else directives seen ((name, pre) :: handles) r
  | _, handles, ts => some (handles ++ usualHandles, ts)

/-- The content of a document, and the tokens behind it. -/
def content (handles : List (String × String)) (ts : List Token) : Option (Node × List Token) :=
  match ts with
  | [] | .version _ _ :: _ | .handle _ _ :: _ | .documentStart :: _ | .documentEnd :: _ => some (.empty, ts)
  | ts => ((node true false (4 * ts.length + 4)).run ⟨ts, [], handles⟩).map fun m => (m.1, m.2.tokens)

/-- The documents in tokens. Only the first may begin without a mark. -/
def documents : Nat → Bool → List Token → Option (List Node)
  | 0, _, _ => none
  | n + 1, isFirst, ts =>
    let ts := if isFirst then ts else ts.dropWhile (· == .documentEnd)
    match ts with
    | [] => some []
    | ts => do
      let implicit := isFirst && match ts with
        | .version _ _ :: _ | .handle _ _ :: _ | .documentStart :: _ => false
        | _ => true
      let (handles, rest) ←
        if implicit then some (usualHandles, ts)
        else do
          let (handles, rest) ← directives false [] ts
          match rest with
          | .documentStart :: rest => some (handles, rest)
          | _ => none
      let (x, rest) ← content handles rest
      let rest := if rest.head? = some .documentEnd then rest.drop 1 else rest
      let others ← documents n false rest
      some (x :: others)

def ofStream? (s : List Char) : Option (List Node) :=
  (Token.ofStream? s).bind fun ts => documents (ts.length + 2) true ts

/-- The only document of a stream, which is empty when there is none. -/
def ofDocument? (s : List Char) : Option Node :=
  match ofStream? s with
  | some [] => some .empty
  | some [x] => some x
  | _ => none

def isNullText (s : String) : Bool := s == "null" || s == "Null" || s == "NULL" || s == "~"

def nullTag : String := "tag:yaml.org,2002:null"

/-- A node stands for the absence of a value; a text that claims to do so and does not is refused. -/
def isAbsent? : Node → Option Bool
  | .scalar tag isPlain s =>
    if !isPlain then some false
    else
      match tag with
      | some t =>
        if t == nullTag then (if isNullText s then some true else none) else some false
      | none => some (s.isEmpty || isNullText s)
  | _ => some false

def text? : Node → Option String
  | .scalar _ _ s => some s
  | _ => none

/-- The text of a node, or none when the node stands for the absence of a value. -/
def optionalText? (x : Node) : Option (Option String) := do
  if ← isAbsent? x then some none else x.text?.map some

def items? : Node → Option (List Node)
  | .sequence xs => some xs
  | .scalar _ true "" => some []
  | _ => none

/-- The entries of a node under names. An empty place has none. -/
def fields? (x : Node) : Option (List (String × Node)) :=
  let entries : Option (List (Node × Node)) := match x with
    | .mapping es => some es
    | .scalar _ true "" => some []
    | _ => none
  entries.bind fun es => es.mapM fun e => e.1.text?.map (·, e.2)

/-- The entry with a name, of which there must not be two. -/
def field? (name : String) (fields : List (String × Node)) : Option (Option Node) :=
  match fields.filter (·.1 == name) with
  | [] => some none
  | [e] => some (some e.2)
  | _ => none

end Node

end Stencil.Yaml
