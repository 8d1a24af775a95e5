/-
  The tree of a YAML document.

  A node is a scalar, a sequence, a mapping or an alias; the pairs of a mapping stay in order and may
  repeat a key.  An alias stands for the node at a numbered place, which may be a node around it.  Anchors
  put nodes at places: each takes the place that has as its number how many names are known by then.  So
  an anchor with a name of its own opens a new place; one that repeats a name leaves the old node behind
  and shares its place with the next new name.  What stands at a place is the node that took it last.

  A text holds at most one document here (`Document.ofText?`); a text without any is told apart from one
  whose document is empty.
-/
import CallMedia.Yaml.Token

namespace CallMedia.Yaml

/-- A node of a document. -/
inductive Node where
  | scalar (style : Style) (tag : Option String) (text : String)
  | sequence (items : List Node)
  | mapping (pairs : List (Node × Node))
  | alias (place : Nat)
deriving Repr, Inhabited

/-- A document: its outermost node, and the nodes at the places that aliases mean. -/
structure Document where
  root : Node
  anchored : List (Nat × Node) := []
deriving Repr, Inhabited

/-- The node that a node of the document stands for. -/
def Document.resolve? (d : Document) : Node → Option Node
  | .alias place => d.anchored.lookup place
  | n => some n

namespace Node

/-- The node that stands where nothing is written. -/
def blank : Node := .scalar .plain none ""

/-- What is known while a document is read. -/
structure Scope where
  /-- What each handle for tags stands for. -/
  handles : List (String × String) := [("!", "!"), ("!!", "tag:yaml.org,2002:")]
  /-- The names of anchors, each with the place it means now. -/
  names : List (String × Nat) := []
  /-- The nodes at the places, the latest first; none while the node is being read. -/
  places : List (Nat × Option Node) := []

/-- A node, the tokens behind it and what is known then. -/
abbrev Read (α : Type) := Option (α × List Token × Scope)

/-- The full name of a tag; its handle must be known. -/
def Scope.tagName? (s : Scope) (handle suffix : String) : Option String :=
  if handle = "" then some suffix else (s.handles.lookup handle).map (· ++ suffix)

/-- The marks before a node: an anchor and a tag, each at most once, in either order. -/
def readMarks (s : Scope) : List Token → Option (Option String × Option String × List Token)
  | .anchor a :: .tag h t :: rest => (s.tagName? h t).map (fun n => (some a, some n, rest))
  | .tag h t :: .anchor a :: rest => (s.tagName? h t).map (fun n => (some a, some n, rest))
  | .anchor a :: rest => some (some a, none, rest)
  | .tag h t :: rest => (s.tagName? h t).map (fun n => (none, some n, rest))
  | ts => some (none, none, ts)

/-- A node with an anchor begins: it takes a place. -/
def Scope.begin (s : Scope) (anchor : Option String) : Option Nat × Scope :=
  match anchor with
  | none => (none, s)
  | some name =>
    let place := s.names.length
    (some place,
      { s with
        names := (name, place) :: s.names.filter (fun e => e.1 ≠ name)
        places := (place, none) :: s.places })

/-- The node at a place is read, unless a node inside it has taken the place. -/
def Scope.finish (s : Scope) (place : Option Nat) (n : Node) : Scope :=
  match place with
  | none => s
  | some p =>
    match s.places.lookup p with
    | some none => { s with places := (p, some n) :: s.places }
    | _ => s

/-- The document with the given outermost node, once all is read. -/
def Scope.document (s : Scope) (root : Node) : Document :=
  { root, anchored := s.places.filterMap fun (p, n) => n.map (fun n => (p, n)) }

/-- The next token does not start a node there: one of the given ones, or the end. -/
def isAny (ts : List Token) (ends : List Token) : Bool :=
  match ts with
  | [] => true
  | t :: _ => ends.contains t

/-! ## Nodes

The functions below call each other on ever later tokens; `fuel` bounds the depth of the calls. -/

mutual

/-- A node.  `block` allows blocks, `bare` a sequence that is not indented deeper than its key. -/
def readNode (fuel : Nat) (block bare : Bool) (s : Scope) (ts : List Token) : Read Node :=
  match fuel with
  | 0 => none
  | fuel + 1 =>
    match ts with
    | .alias name :: rest =>
      (s.names.lookup name).map (fun place => (.alias place, rest, s))
    | _ =>
      match readMarks s ts with
      | none => none
      | some (anchor, tag, ts) =>
        let (place, s) := s.begin anchor
        let close : Read Node → Read Node :=
          Option.map (fun (n, rest, s) => (n, rest, s.finish place n))
        -- an anchor or a tag may stand before nothing
        let empty : Read Node :=
          if anchor.isSome || tag.isSome then close (some (.scalar .plain tag "", ts, s)) else none
        match ts with
        | .scalar style text :: rest => close (some (.scalar style tag text, rest, s))
        | .flowSequence :: rest => close (wrapItems (readFlowItems fuel true s rest))
        | .flowMapping :: rest => close (wrapPairs (readFlowPairs fuel true s rest))
        | .blockSequence :: rest =>
          if block then close (wrapItems (readBlockItems fuel s rest))
          else empty
        | .blockMapping :: rest =>
          if block then close (wrapPairs (readBlockPairs fuel s rest))
          else empty
        | .blockEntry :: _ =>
          if bare then close (wrapItems (readBareItems fuel s ts)) else empty
        | _ => empty

/-- Items as a sequence. -/
def wrapItems (r : Read (List Node)) : Read Node := r.map (fun (items, rest) => (.sequence items, rest))

/-- Pairs as a mapping. -/
def wrapPairs (r : Read (List (Node × Node))) : Read Node :=
  r.map (fun (pairs, rest) => (.mapping pairs, rest))

/-- The items of a block sequence. -/
def readBlockItems (fuel : Nat) (s : Scope) (ts : List Token) : Read (List Node) :=
  match fuel with
  | 0 => none
  | fuel + 1 =>
    match ts with
    | .blockEntry :: rest =>
      let item : Read Node :=
        if isAny rest [.blockEntry, .blockEnd] then some (blank, rest, s)
        else readNode fuel true false s rest
      match item with
      | none => none
      | some (n, rest, s) => (readBlockItems fuel s rest).map (fun (ns, r) => (n :: ns, r))
    | .blockEnd :: rest => some ([], rest, s)
    | _ => none

/-- The items of a sequence that is not indented deeper than its key. -/
def readBareItems (fuel : Nat) (s : Scope) (ts : List Token) : Read (List Node) :=
  match fuel with
  | 0 => none
  | fuel + 1 =>
    match ts with
    | .blockEntry :: rest =>
      let item : Read Node :=
        if isAny rest [.blockEntry, .key, .value, .blockEnd] then some (blank, rest, s)
        else readNode fuel true false s rest
      match item with
      | none => none
      | some (n, rest, s) => (readBareItems fuel s rest).map (fun (ns, r) => (n :: ns, r))
    | _ => some ([], ts, s)

/-- The pairs of a block mapping. -/
def readBlockPairs (fuel : Nat) (s : Scope) (ts : List Token) : Read (List (Node × Node)) :=
  match fuel with
  | 0 => none
  | fuel + 1 =>
    let ends : List Token := [.key, .value, .blockEnd]
    let key : Read Node :=
      match ts with
      | .key :: rest =>
        if isAny rest ends then some (blank, rest, s) else readNode fuel true true s rest
      | _ => none
    match key, ts with
    | some (k, rest, s), _ =>
      let value : Read Node :=
        match rest with
        | .value :: rest =>
          if isAny rest ends then some (blank, rest, s) else readNode fuel true true s rest
        | _ => some (blank, rest, s)
      match value with
      | none => none
      | some (v, rest, s) => (readBlockPairs fuel s rest).map (fun (ps, r) => ((k, v) :: ps, r))
    | none, .blockEnd :: rest => some ([], rest, s)
    | none, _ => none

/-- The items of a flow sequence; a pair among them is a mapping of its own.  Where the mark of a key is
    followed by no key, the token behind it is passed over. -/
def readFlowItems (fuel : Nat) (first : Bool) (s : Scope) (ts : List Token) : Read (List Node) :=
  match fuel with
  | 0 => none
  | fuel + 1 =>
    match ts with
    | .flowSequenceEnd :: rest => some ([], rest, s)
    | _ =>
      let ts? : Option (List Token) :=
        if first then some ts else match ts with
          | .flowEntry :: rest => some rest
          | _ => none
      match ts? with
      | none => none
      | some (.flowSequenceEnd :: rest) => some ([], rest, s)
      | some ts =>
        let item : Read Node :=
          match ts with
          | .key :: rest =>
            let ends : List Token := [.flowEntry, .flowSequenceEnd]
            let pair : Read (Node × Node) :=
              if isAny rest (.value :: ends) then (readFlowValue fuel ends s rest.tail).map
                (fun (v, r) => ((blank, v), r))
              else readFlowPair fuel ends s rest
            pair.map (fun (p, r) => (.mapping [p], r))
          | _ => readNode fuel false false s ts
        match item with
        | none => none
        | some (n, rest, s) =>
          (readFlowItems fuel false s rest).map (fun (ns, r) => (n :: ns, r))

/-- A pair in a flow collection, behind the mark of its key. -/
def readFlowPair (fuel : Nat) (ends : List Token) (s : Scope) (ts : List Token) :
    Read (Node × Node) :=
  match fuel with
  | 0 => none
  | fuel + 1 =>
    let key : Read Node :=
      if isAny ts (.value :: ends) then some (blank, ts, s) else readNode fuel false false s ts
    match key with
    | none => none
    | some (k, rest, s) => (readFlowValue fuel ends s rest).map (fun (v, r) => ((k, v), r))

/-- The value of a pair in a flow collection, blank if none is written. -/
def readFlowValue (fuel : Nat) (ends : List Token) (s : Scope) (ts : List Token) : Read Node :=
  match fuel with
  | 0 => none
  | fuel + 1 =>
    match ts with
    | .value :: rest =>
      if isAny rest ends then some (blank, rest, s) else readNode fuel false false s rest
    | _ => some (blank, ts, s)

/-- The pairs of a flow mapping. -/
def readFlowPairs (fuel : Nat) (first : Bool) (s : Scope) (ts : List Token) :
    Read (List (Node × Node)) :=
  match fuel with
  | 0 => none
  | fuel + 1 =>
    match ts with
    | .flowMappingEnd :: rest => some ([], rest, s)
    | _ =>
      let ts? : Option (List Token) :=
        if first then some ts else match ts with
          | .flowEntry :: rest => some rest
          | _ => none
      match ts? with
      | none => none
      | some (.flowMappingEnd :: rest) => some ([], rest, s)
      | some ts =>
        let pair : Read (Node × Node) :=
          match ts with
          | .key :: rest => readFlowPair fuel [.flowEntry, .flowMappingEnd] s rest
          | _ => (readNode fuel false false s ts).map (fun (k, r) => ((k, blank), r))
        match pair with
        | none => none
        | some (p, rest, s) =>
          (readFlowPairs fuel false s rest).map (fun (ps, r) => (p :: ps, r))

end

/-! ## Documents -/

/-- The directives before a document.  A version may be given once, and only one of those known; each
    handle may be given once. -/
def readDirectives (version : Bool) (given : List (String × String)) :
    List Token → Option (Bool × List (String × String) × List Token)
  | .version major minor :: rest =>
    if version || major ≠ 1 || (minor ≠ 1 && minor ≠ 2) then none
    else readDirectives true given rest
  | .tagHandle handle meaning :: rest =>
    if (given.lookup handle).isSome then none
    else readDirectives version ((handle, meaning) :: given) rest
  | ts => some (version, given, ts)

/-- The tokens that end a document. -/
def endsDocument : Token → Bool
  | .version .. | .tagHandle .. | .documentStart | .documentEnd | .finish => true
  | _ => false

/-- The content of a document, and the tokens behind it. -/
def readContent (s : Scope) (ts : List Token) : Read Node :=
  if ts.head?.all endsDocument then some (blank, ts, s)
  else readNode (4 * ts.length + 4) true false s ts

end Node

/-- The only document in a text: the inner option is empty if there is none at all.  What is no YAML,
    or holds a second document, gives nothing. -/
def Document.ofText? (text : String) : Option (Option Document) := do
  let ts ← Token.ofText? text
  match ts with
  | [.finish] => some none
  | _ =>
    let (version, given, rest) ← Node.readDirectives false [] ts
    let s : Node.Scope := {}
    let s := { s with handles := given ++ s.handles }
    let (n, rest, s) ← match rest with
      | .documentStart :: rest => Node.readContent s rest
      | _ =>
        if version || !given.isEmpty then none
        else Node.readNode (4 * rest.length + 4) true false s rest
    match rest.dropWhile (fun t => t = .documentEnd) with
    | [.finish] => some (some (s.document n))
    | _ => none

end CallMedia.Yaml
