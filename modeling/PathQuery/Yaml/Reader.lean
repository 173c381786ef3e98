import PathQuery.Yaml.Lexer
import PathQuery.Yaml.Scalar
/-!
Reading YAML text. A text holds any number of documents; all of them have to be well formed.
-/
namespace PathQuery.Yaml

inductive TagMeaning where
  | core (kind : String)
  | other

/-- What is left to read of a document, the meaning of its tag handles, and the anchors seen in it,
each with its value once the node is complete. -/
structure Reading where
  tokens : List Token
  handle : Option (String × String)
  anchors : Array (String × Option Yaml)

namespace Reading

def drop (r : Reading) : Reading := { r with tokens := r.tokens.tail }

def tagMeaning (r : Reading) (handle suffix : String) : Lexing TagMeaning :=
  let coreAddress := "tag:yaml.org,2002:"
  let meaning (address : String) : TagMeaning :=
    if address = coreAddress then .core suffix else .other
  match r.handle.filter (·.1 = handle) with
  | some (_, address) => .ok (meaning address)
  | none =>
    if handle = "!!" then .ok (.core suffix)
    else if Lexer.isNamedHandle handle.toList then .error .unknownHandle
    else .ok (meaning handle)

def valueOfAlias (r : Reading) (name : String) : Lexing Yaml :=
  match r.anchors.toList.reverse.find? (·.1 = name) with
  | none => .error .unknownAlias
  | some (_, value) => .ok (value.getD .unresolved)

def startAnchor (r : Reading) (name : String) : Option Nat × Reading :=
  (some r.anchors.size, { r with anchors := r.anchors.push (name, none) })

def finishAnchor (r : Reading) (place : Option Nat) (value : Yaml) : Reading :=
  match place with
  | none => r
  | some place =>
    { r with anchors := r.anchors.modify place fun a => (a.1, some value) }

def properties (r : Reading) : Lexing (Option Nat × Option TagMeaning × Reading) := do
  match r.tokens with
  | .anchor name :: .tag handle suffix :: rest =>
    let (place, r) := { r with tokens := rest }.startAnchor name
    let tag ← r.tagMeaning handle suffix
    .ok (place, some tag, r)
  | .anchor name :: rest =>
    let (place, r) := { r with tokens := rest }.startAnchor name
    .ok (place, none, r)
  | .tag handle suffix :: .anchor name :: rest =>
    let tag ← r.tagMeaning handle suffix
    let (place, r) := { r with tokens := rest }.startAnchor name
    .ok (place, some tag, r)
  | .tag handle suffix :: rest =>
    let tag ← r.tagMeaning handle suffix
    .ok (none, some tag, { r with tokens := rest })
  | _ => .ok (none, none, r)

end Reading

def scalarValue (plain : Bool) (text : String) : Option TagMeaning → Yaml
  | none => if plain then ofPlain text else .string text
  | some (.core kind) => if plain then ofTagged kind text else .string text
  | some .other => .string text

/-- Pairs up the nodes of a mapping. A key without a value of its own is passed over. -/
def pairUp : List Yaml → List (Yaml × Yaml)
  | [] => []
  | .unresolved :: rest => pairUp rest
  | [_] => []
  | key :: value :: rest => (key, value) :: pairUp rest

def distinctKeys : List (Yaml × Yaml) → Bool
  | [] => true
  | (key, _) :: rest => rest.all (fun e => !same key e.1) && distinctKeys rest

def mappingOf (nodes : List Yaml) : Lexing Yaml :=
  let entries := pairUp nodes.reverse
  if distinctKeys entries then .ok (.mapping entries) else .error .duplicateKey

def Token.endsBlockValue : Token → Bool
  | .key | .value | .blockEnd => true
  | _ => false

namespace Reading

def emptyNode (place : Option Nat) (tag : Option TagMeaning) (r : Reading) :
    Lexing (Yaml × Reading) :=
  if place.isNone && tag.isNone then .error .unexpectedToken
  else .ok (scalarValue true "" tag, r)

mutual

/-- A node. Blocks may start in it only where `block` says so, and a block sequence that is not
indented only where `indentless` does. -/
def node : Nat → (block indentless : Bool) → Reading → Lexing (Yaml × Reading)
  | 0, _, _, _ => .error .unexpectedToken
  | n + 1, block, indentless, r => do
    match r.tokens with
    | .aliasOf name :: _ => .ok (← r.valueOfAlias name, r.drop)
    | _ =>
      let (place, tag, r) ← r.properties
      let (value, r) ← match r.tokens with
        | .scalar plain text :: _ => .ok (scalarValue plain text tag, r.drop)
        | .flowSequenceStart :: _ => flowSequence n true [] r.drop
        | .flowMappingStart :: _ => flowMapping n true [] r.drop
        | .blockEntry :: _ =>
          if indentless then indentlessSequence n [] r else emptyNode place tag r
        | .blockSequenceStart :: _ =>
          if block then blockSequence n [] r.drop else emptyNode place tag r
        | .blockMappingStart :: _ =>
          if block then blockMapping n [] r.drop else emptyNode place tag r
        | _ => emptyNode place tag r
      .ok (value, r.finishAnchor place value)

def blockSequence : Nat → List Yaml → Reading → Lexing (Yaml × Reading)
  | 0, _, _ => .error .unexpectedToken
  | n + 1, acc, r =>
    match r.tokens with
    | .blockEnd :: _ => .ok (.sequence acc.reverse, r.drop)
    | .blockEntry :: .blockEntry :: _ => blockSequence n (.null :: acc) r.drop
    | .blockEntry :: .blockEnd :: _ => blockSequence n (.null :: acc) r.drop
    | .blockEntry :: _ => do
      let (item, r) ← node n true false r.drop
      blockSequence n (item :: acc) r
    | _ => .error .unexpectedToken

def indentlessSequence : Nat → List Yaml → Reading → Lexing (Yaml × Reading)
  | 0, _, _ => .error .unexpectedToken
  | n + 1, acc, r =>
    match r.tokens with
    | .blockEntry :: next :: _ =>
      if next = .blockEntry ∨ next.endsBlockValue then indentlessSequence n (.null :: acc) r.drop
      else do
        let (item, r) ← node n true false r.drop
        indentlessSequence n (item :: acc) r
    | .blockEntry :: [] => .error .unexpectedToken
    | _ => .ok (.sequence acc.reverse, r)

def blockMapping : Nat → List Yaml → Reading → Lexing (Yaml × Reading)
  | 0, _, _ => .error .unexpectedToken
  | n + 1, acc, r =>
    match r.tokens with
    | .blockEnd :: _ => do .ok (← mappingOf acc, r.drop)
    | .key :: _ => do
      let (key, r) ← blockPart n r.drop
      blockValue n (key :: acc) r
    | .value :: _ => blockValue n (.null :: acc) r
    | _ => .error .unexpectedToken

def blockValue : Nat → List Yaml → Reading → Lexing (Yaml × Reading)
  | 0, _, _ => .error .unexpectedToken
  | n + 1, acc, r =>
    match r.tokens with
    | .value :: _ => do
      let (value, r) ← blockPart n r.drop
      blockMapping n (value :: acc) r
    | _ => blockMapping n (.null :: acc) r

def blockPart : Nat → Reading → Lexing (Yaml × Reading)
  | 0, _ => .error .unexpectedToken
  | n + 1, r =>
    match r.tokens with
    | [] => .error .unexpectedToken
    | next :: _ => if next.endsBlockValue then .ok (.null, r) else node n true true r

def flowSequence : Nat → Bool → List Yaml → Reading → Lexing (Yaml × Reading)
  | 0, _, _, _ => .error .unexpectedToken
  | n + 1, first, acc, r =>
    match r.tokens with
    | .flowSequenceEnd :: _ => .ok (.sequence acc.reverse, r.drop)
    | next :: _ =>
      if !first ∧ next ≠ .flowEntry then .error .unexpectedToken
      else
        let r := if first then r else r.drop
        match r.tokens with
        | .flowSequenceEnd :: _ => .ok (.sequence acc.reverse, r.drop)
        | .key :: _ => do
          let (item, r) ← flowPair n r.drop
          flowSequence n false (item :: acc) r
        | _ => do
          let (item, r) ← node n false false r
          flowSequence n false (item :: acc) r
    | [] => .error .unexpectedToken

/-- A mapping of one entry that stands in a flow sequence behind a question mark. Where the key is
left out, so is its colon. -/
def flowPair : Nat → Reading → Lexing (Yaml × Reading)
  | 0, _ => .error .unexpectedToken
  | n + 1, r => do
    let (key, r) ← match r.tokens with
      | .value :: _ => .ok (Yaml.null, r.drop)
      | .flowEntry :: _ => .ok (Yaml.null, r.drop)
      | .flowSequenceEnd :: _ => .ok (Yaml.null, r.drop)
      | _ => node n false false r
    let (value, r) ← match r.tokens with
      | .value :: .flowEntry :: _ => .ok (Yaml.null, r.drop)
      | .value :: .flowSequenceEnd :: _ => .ok (Yaml.null, r.drop)
      | .value :: _ => node n false false r.drop
      | _ => .ok (Yaml.null, r)
    .ok (← mappingOf [value, key], r)

def flowMapping : Nat → Bool → List Yaml → Reading → Lexing (Yaml × Reading)
  | 0, _, _, _ => .error .unexpectedToken
  | n + 1, first, acc, r =>
    match r.tokens with
    | .flowMappingEnd :: _ => do .ok (← mappingOf acc, r.drop)
    | next :: _ =>
      if !first ∧ next ≠ .flowEntry then .error .unexpectedToken
      else
        let r := if first then r else r.drop
        match r.tokens with
        | .flowMappingEnd :: _ => do .ok (← mappingOf acc, r.drop)
        | .value :: _ => flowValue n (.null :: acc) r
        | .key :: .value :: _ => flowValue n (.null :: acc) r.drop
        | .key :: .flowEntry :: _ => flowValue n (.null :: acc) r.drop
        | .key :: .flowMappingEnd :: _ => flowValue n (.null :: acc) r.drop
        | .key :: _ => do
          let (key, r) ← node n false false r.drop
          flowValue n (key :: acc) r
        | _ => do
          let (key, r) ← node n false false r
          flowMapping n false (.null :: key :: acc) r
    | [] => .error .unexpectedToken

def flowValue : Nat → List Yaml → Reading → Lexing (Yaml × Reading)
  | 0, _, _ => .error .unexpectedToken
  | n + 1, acc, r =>
    match r.tokens with
    | .value :: .flowEntry :: _ => flowMapping n false (.null :: acc) r.drop
    | .value :: .flowMappingEnd :: _ => flowMapping n false (.null :: acc) r.drop
    | .value :: _ => do
      let (value, r) ← node n false false r.drop
      flowMapping n false (value :: acc) r
    | _ => flowMapping n false (.null :: acc) r

end

end Reading

def Token.isDirective : Token → Bool
  | .versionDirective | .tagDirective _ _ => true
  | _ => false

def Token.endsDocument (t : Token) : Bool :=
  t.isDirective || t = .documentStart || t = .documentEnd

/-- The directives before a document. Only the last of them counts, and the version may be given
once. -/
def directives (version : Bool) (handle : Option (String × String)) :
    List Token → Lexing (Option (String × String) × List Token)
  | .versionDirective :: rest =>
    if version then .error .directive else directives true none rest
  | .tagDirective name address :: rest => directives version (some (name, address)) rest
  | rest => .ok (handle, rest)

def documents : Nat → Bool → List Token → Lexing (List Yaml)
  | 0, _, _ => .error .unexpectedToken
  | n + 1, bare, tokens => do
    match tokens.dropWhile (· = .documentEnd) with
    | [] => .ok []
    | first :: rest =>
      let bareHere := bare && !first.isDirective && first ≠ .documentStart
      let (handle, content) ←
        if bareHere then .ok (none, first :: rest)
        else
          match ← directives false none (first :: rest) with
          | (handle, .documentStart :: content) => .ok (handle, content)
          | _ => .error .unexpectedToken
      let absent := !bareHere && (content.head?.map Token.endsDocument).getD true
      let (value, rest) ←
        if absent then .ok (Yaml.null, content)
        else do
          let (value, r) ← Reading.node (4 * content.length + 4) true false ⟨content, handle, #[]⟩
          .ok (value, r.tokens)
      match rest with
      | .documentEnd :: rest => .ok (value :: (← documents n true rest))
      | next :: rest =>
        if next.isDirective then .error .directive
        else .ok (value :: (← documents n false (next :: rest)))
      | [] => .ok [value]

def read (text : String) : Lexing (Option Yaml) := do
  let ts ← tokens text
  let values ← documents (ts.length + 1) true ts
  .ok values.head?

end PathQuery.Yaml
