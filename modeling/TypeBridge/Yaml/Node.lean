import TypeBridge.Yaml.Token

/-!
The tree of a document. An alias stands for a node that an anchor names earlier in the text, which may be
one around the alias.
-/
namespace TypeBridge.Yaml

open TypeBridge.Text

inductive Node where
  | scalar (text : String) (style : Style) (tag : Option String)
  | list (items : List Node)
  | map (entries : List (Node × Node))
  | anchored (number : Nat) (node : Node)
  | alias (number : Nat)

namespace Node

/-- What is left out. -/
def empty : Node := .scalar "" .plain none

mutual

/-- The last node with a number, in the order in which nodes begin. -/
def numbered? (number : Nat) : Node → Option Node
  | .scalar .. => none
  | .list items => numberedInItems? number items
  | .map entries => numberedInEntries? number entries
  | .anchored own node => (node.numbered? number).or (if own = number then some node else none)
  | .alias _ => none

def numberedInItems? (number : Nat) : List Node → Option Node
  | [] => none
  | item :: items => (numberedInItems? number items).or (item.numbered? number)

def numberedInEntries? (number : Nat) : List (Node × Node) → Option Node
  | [] => none
  | (key, value) :: entries =>
    (numberedInEntries? number entries).or ((value.numbered? number).or (key.numbered? number))

end

/-- What a node of the document `root` is, without an anchor and not through an alias. -/
def target (root : Node) : Node → Node
  | .anchored _ node => node
  | .alias number => (root.numbered? number).getD empty
  | node => node

/-- The meanings of handles; the first one counts. -/
abbrev Handles := List (List Char × List UInt8)

def standardHandles : Handles :=
  [(['!'], asciiOctets ['!']), (['!', '!'], asciiOctets "tag:yaml.org,2002:".toList)]

/-- The text of a tag. One mark alone is no tag. -/
def tagText? (handles : Handles) (tag : Tag) : Option (Option String) := do
  let meaning ← if tag.handle.isEmpty then some [] else handles.lookup tag.handle
  let octets := meaning ++ tag.suffix
  return if octets = asciiOctets ['!'] then none else some (octetText octets)

/-- The tokens that are left, and the numbers of the anchors so far by their names. -/
structure Remainder where
  tokens : List Token
  names : List (List Char × Nat)

namespace Remainder

def rest (remainder : Remainder) : Remainder := { remainder with tokens := remainder.tokens.drop 1 }

def starts (remainder : Remainder) (tokens : List Token) : Bool :=
  remainder.tokens.head?.any tokens.contains

/-- An anchor gets the count of the names so far as its number, also when one of them is its own. -/
def readAnchor (remainder : Remainder) : Option Nat × Remainder :=
  match remainder.tokens with
  | .anchor name :: tokens =>
    let number := remainder.names.length
    (some number, ⟨tokens, (name, number) :: remainder.names.filter (·.1 != name)⟩)
  | _ => (none, remainder)

def readTag (remainder : Remainder) : Option Tag × Remainder :=
  match remainder.tokens with
  | .tag tag :: _ => (some tag, remainder.rest)
  | _ => (none, remainder)

/-- An anchor and a tag in either order, each of which may be missing. -/
def readProperties (remainder : Remainder) : Option Nat × Option Tag × Remainder :=
  let (tag, afterTag) := remainder.readTag
  let (anchor, afterAnchor) := afterTag.readAnchor
  if tag.isSome then (anchor, tag, afterAnchor)
  else
    let (tag, last) := afterAnchor.readTag
    (anchor, tag, last)

end Remainder

mutual

/-- A node with its properties. `block` allows blocks and `flush` a list whose entries stand in the column
of the map around it. -/
def read? (handles : Handles) (block flush : Bool) : Nat → Remainder → Option (Node × Remainder)
  | 0, _ => none
  | fuel + 1, remainder =>
    match remainder.tokens with
    | .alias name :: _ => do
      return (.alias (← remainder.names.lookup name), remainder.rest)
    | _ => do
      let (anchor, tag, content) := remainder.readProperties
      let text := (← tag.mapM (tagText? handles)).join
      let bare := anchor.isNone && tag.isNone
      let (node, last) ← readContent? handles block flush text bare fuel content
      return (match anchor with
        | some number => .anchored number node
        | none => node, last)

/-- A node from after its properties; a node that has some may be left out. -/
def readContent? (handles : Handles) (block flush : Bool) (tag : Option String) (bare : Bool) :
    Nat → Remainder → Option (Node × Remainder)
  | 0, _ => none
  | fuel + 1, remainder =>
    match remainder.tokens with
    | .scalar text style :: _ => some (.scalar (String.ofList text) style tag, remainder.rest)
    | .openList :: _ => do
      let (items, last) ← readFlowItems? handles true fuel remainder.rest
      return (.list items, last)
    | .openMap :: _ => do
      let (entries, last) ← readFlowEntries? handles true fuel remainder.rest
      return (.map entries, last)
    | _ =>
      if flush && remainder.starts [.entry] then do
        let (items, last) ← readItems? handles true fuel remainder
        return (.list items, last)
      else if block && remainder.starts [.blockList] then do
        let (items, last) ← readItems? handles false fuel remainder.rest
        return (.list items, last)
      else if block && remainder.starts [.blockMap] then do
        let (entries, last) ← readEntries? handles fuel remainder.rest
        return (.map entries, last)
      else if bare then none
      else some (.scalar "" .plain tag, remainder)

def readUnless? (handles : Handles) (block flush : Bool) (ends : List Token) :
    Nat → Remainder → Option (Node × Remainder)
  | 0, _ => none
  | fuel + 1, remainder =>
    if remainder.starts ends then some (empty, remainder)
    else read? handles block flush fuel remainder

/-- The value of a key, which may be left out together with its colon. -/
def readValue? (handles : Handles) (block : Bool) (ends : List Token) :
    Nat → Remainder → Option (Node × Remainder)
  | 0, _ => none
  | fuel + 1, remainder =>
    if remainder.starts [.value] then readUnless? handles block block ends fuel remainder.rest
    else some (empty, remainder)

/-- The items of a block. Those of a flush list end where anything else follows. -/
def readItems? (handles : Handles) (flush : Bool) : Nat → Remainder → Option (List Node × Remainder)
  | 0, _ => none
  | fuel + 1, remainder =>
    if remainder.starts [.entry] then do
      let ends := if flush then [.entry, .key, .value, .blockEnd] else [.entry, .blockEnd]
      let (item, next) ← readUnless? handles true false ends fuel remainder.rest
      let (items, last) ← readItems? handles flush fuel next
      return (item :: items, last)
    else if flush then some ([], remainder)
    else if remainder.starts [.blockEnd] then some ([], remainder.rest)
    else none

def readEntries? (handles : Handles) : Nat → Remainder → Option (List (Node × Node) × Remainder)
  | 0, _ => none
  | fuel + 1, remainder =>
    if remainder.starts [.key] then do
      let ends := [.key, .value, .blockEnd]
      let (key, afterKey) ← readUnless? handles true true ends fuel remainder.rest
      let (value, next) ← readValue? handles true ends fuel afterKey
      let (entries, last) ← readEntries? handles fuel next
      return ((key, value) :: entries, last)
    else if remainder.starts [.blockEnd] then some ([], remainder.rest)
    else none

/-- The items between brackets. A key makes an item a map of one entry; where the key is left out, the token
after its mark is passed over. -/
def readFlowItems? (handles : Handles) (first : Bool) : Nat → Remainder → Option (List Node × Remainder)
  | 0, _ => none
  | fuel + 1, remainder =>
    if remainder.starts [.closeList] then some ([], remainder.rest)
    else if !first && !remainder.starts [.comma] then none
    else
      let remainder := if first then remainder else remainder.rest
      if remainder.starts [.closeList] then some ([], remainder.rest)
      else do
        let (item, next) ←
          if remainder.starts [.key] then do
            let marked := remainder.rest
            let (key, afterKey) ←
              if marked.starts [.value, .comma, .closeList] then some (empty, marked.rest)
              else read? handles false false fuel marked
            let (value, next) ← readValue? handles false [.comma, .closeList] fuel afterKey
            some (.map [(key, value)], next)
          else read? handles false false fuel remainder
        let (items, last) ← readFlowItems? handles false fuel next
        return (item :: items, last)

/-- The entries between braces; without a key mark there is no value. -/
def readFlowEntries? (handles : Handles) (first : Bool) :
    Nat → Remainder → Option (List (Node × Node) × Remainder)
  | 0, _ => none
  | fuel + 1, remainder =>
    if remainder.starts [.closeMap] then some ([], remainder.rest)
    else if !first && !remainder.starts [.comma] then none
    else
      let remainder := if first then remainder else remainder.rest
      if remainder.starts [.closeMap] then some ([], remainder.rest)
      else do
        let (entry, next) ←
          if remainder.starts [.key] then do
            let ends := [.value, .comma, .closeMap]
            let (key, afterKey) ← readUnless? handles false false ends fuel remainder.rest
            let (value, next) ← readValue? handles false [.comma, .closeMap] fuel afterKey
            some ((key, value), next)
          else do
            let (key, next) ← read? handles false false fuel remainder
            some ((key, empty), next)
        let (entries, last) ← readFlowEntries? handles false fuel next
        return (entry :: entries, last)

end

/-- The handles that directives declare, and the standard ones. A version is given once at most and a handle
is declared once at most. -/
def handles? (directives : List Directive) : Option Handles := do
  let versions := directives.filterMap Directive.version?
  guard (versions.length ≤ 1 && versions.all [(1, 1), (1, 2)].contains)
  let declared := directives.filterMap Directive.handle?
  guard (declared.map (·.1)).Nodup
  return declared ++ standardHandles

/-- The node of a single document. Directives have to be followed by a mark of its start. -/
def ofTokens? (tokens : List Token) : Option Node := do
  let directives := tokens.takeWhile (·.directive?.isSome)
  let handles ← handles? (directives.filterMap Token.directive?)
  let start : Remainder := ⟨tokens.drop directives.length, []⟩
  let marked := start.starts [.documentStart]
  guard (marked || directives.isEmpty)
  let content := if marked then start.rest else start
  let vacant := content.tokens.head?.all fun token =>
    token.directive?.isSome || [.documentStart, .documentEnd].contains token
  let (node, last) ←
    if marked && vacant then some (empty, content)
    else read? handles true false (4 * tokens.length + 4) content
  guard (last.tokens.all (· == .documentEnd))
  return node

def ofText? (text : List Char) : Option Node := do
  ofTokens? (← scanTokens? text)

end Node

end TypeBridge.Yaml
