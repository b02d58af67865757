import PatternServer.Data.Toml.Scalar

/-!
# Configuration files

The statements of a configuration file and the table that they build. Which tables may still be
opened or extended is kept as marks on the paths of keys: a path is `frozen` when a list or a table
was written out behind it, and `declared` when a header has named it or a dotted key has gone
through it in an earlier section.
-/

namespace PatternServer.Data.Toml

set_option autoImplicit false

abbrev KeyPath := List String

abbrev Fields := List (String × Value)

inductive Mark where
  | frozen
  | declared
deriving Repr, DecidableEq, Inhabited

/-- A mark on a path; a deep one holds for everything behind the path too. -/
structure MarkedPath where
  path : KeyPath
  mark : Mark
  deep : Bool
deriving Repr, DecidableEq, Inhabited

/-- Whether a path bears a mark, of its own or from a shorter path. -/
def isMarked (marks : List MarkedPath) (path : KeyPath) (mark : Mark) : Bool :=
  marks.any fun m =>
    m.mark == mark && !m.path.isEmpty &&
      (m.path == path || (m.deep && m.path.isPrefixOf path))

/-- Changes the table behind a path, which is made if nothing is there. Behind a list of tables lies
its last one, unless `throughLists` is off. -/
def modifyAt (throughLists : Bool) (f : Fields → Option Fields) : KeyPath → Fields → Option Fields
  | [], fields => f fields
  | k :: path, fields =>
    match Value.lookup k fields with
    | none => (modifyAt throughLists f path []).map fun t => Value.insert k (.table t) fields
    | some (.table t) =>
      (modifyAt throughLists f path t).map fun t => Value.insert k (.table t) fields
    | some (.list items) =>
      match throughLists, items.getLast? with
      | true, some (.table t) =>
        (modifyAt throughLists f path t).map fun t =>
          Value.insert k (.list (items.dropLast ++ [.table t])) fields
      | _, _ => none
    | some _ => none

def addField? (key : String) (value : Value) (fields : Fields) : Option Fields :=
  match Value.lookup key fields with
  | none => some (Value.insert key value fields)
  | some _ => none

/-- Adds an empty table to the list under a key, which is made if nothing is there. -/
def appendTable? (key : String) (fields : Fields) : Option Fields :=
  match Value.lookup key fields with
  | none => some (Value.insert key (.list [.table []]) fields)
  | some (.list items) => some (Value.insert key (.list (items ++ [.table []])) fields)
  | some _ => none

def isBareKeyChar (c : Char) : Bool :=
  c.isAlphanum || c == '-' || c == '_'

def readKeyPart (s : List Char) : Attempt (String × List Char) :=
  match s with
  | [] => .error .malformed
  | c :: rest =>
    let text (r : Attempt (List Char × List Char)) : Attempt (String × List Char) :=
      r.map fun r => (String.ofList r.1, r.2)
    if isBareKeyChar c then
      .ok (String.ofList (s.takeWhile isBareKeyChar), s.dropWhile isBareKeyChar)
    else if c = '\'' then text (readLiteral "'" isIllegal rest)
    else if c = '"' then text (readBasicLine rest)
    else .error .malformed

/-- A key of one part or of several divided by points, and the space behind it. -/
def readKey : (fuel : Nat) → List Char → Attempt (KeyPath × List Char)
  | 0, _ => .error .malformed
  | fuel + 1, s => do
    let part ← readKeyPart s
    match skipSpace part.2 with
    | '.' :: rest => do
      let more ← readKey fuel (skipSpace rest)
      return (part.1 :: more.1, more.2)
    | rest => return ([part.1], rest)

/-- Space, line ends and comments inside a list. -/
def skipFiller : (fuel : Nat) → List Char → Attempt (List Char)
  | 0, s => .ok s
  | fuel + 1, s => do
    let rest ← skipComment (s.dropWhile isSpaceOrNewline)
    if rest.length = s.length then return s else skipFiller fuel rest

/-- The parts of an entry before its value: its key, and the text from the value on. -/
def readKeyAndEquals (s : List Char) : Attempt (KeyPath × List Char) := do
  let key ← readKey (s.length + 1) s
  match key.2 with
  | '=' :: rest => return (key.1, skipSpace rest)
  | _ => .error .malformed

/-- The room that a list takes up. -/
def listRoom : Nat := 2

/-- The room that a table on one line takes up. -/
def tableRoom : Nat := 3

/-- The room that is left inside something that takes up `size`. -/
def takeRoom (size room : Nat) : Attempt Nat :=
  if room < size then .error .tooDeep else .ok (room - size)

mutual

/-- Any value. Every call uses up fuel, of which twice the length of the text is always enough, and
every list and table takes up some of the room that is left for what stands inside it. -/
def readValue : (fuel room : Nat) → List Char → Attempt (Value × List Char)
  | 0, _, _ => .error .malformed
  | fuel + 1, room, s =>
    match s with
    | '[' :: rest => do
      let room ← takeRoom listRoom room
      let rest ← skipFiller rest.length rest
      match rest with
      | ']' :: rest => return (.list [], rest)
      | _ =>
        let items ← readItems fuel room rest
        return (.list items.1, items.2)
    | '\x7b' :: rest => do
      let room ← takeRoom tableRoom room
      match skipSpace rest with
      | '\x7d' :: rest => return (.table [], rest)
      | rest =>
        let entries ← readEntries fuel room [] [] rest
        return (.table entries.1, entries.2)
    | _ => readScalar s

/-- The items of a list, of which there is at least one, up to its closing bracket. -/
def readItems : (fuel room : Nat) → List Char → Attempt ((List Value) × List Char)
  | 0, _, _ => .error .malformed
  | fuel + 1, room, s => do
    let item ← readValue fuel room s
    let rest ← skipFiller item.2.length item.2
    match rest with
    | ']' :: rest => return ([item.1], rest)
    | ',' :: rest =>
      let rest ← skipFiller rest.length rest
      match rest with
      | ']' :: rest => return ([item.1], rest)
      | _ =>
        let more ← readItems fuel room rest
        return (item.1 :: more.1, more.2)
    | _ => .error .malformed

/-- The entries of a table on one line, up to its closing brace, after those already read. -/
def readEntries :
    (fuel room : Nat) → List MarkedPath → Fields → List Char → Attempt (Fields × List Char)
  | 0, _, _, _, _ => .error .malformed
  | fuel + 1, room, marks, fields, s => do
    let key ← readKeyAndEquals s
    let value ← readValue fuel room key.2
    if isMarked marks key.1 .frozen then throw .malformed
    match modifyAt false (addField? (key.1.getLastD "") value.1) key.1.dropLast fields with
    | none => throw .malformed
    | some fields =>
      match skipSpace value.2 with
      | '\x7d' :: rest => return (fields, rest)
      | ',' :: rest =>
        let marks :=
          match value.1 with
          | .table _ | .list _ => ⟨key.1, .frozen, true⟩ :: marks
          | _ => marks
        readEntries fuel room marks fields (skipSpace rest)
      | _ => .error .malformed

end

/-- What has been read of a file: its table, the marks, those that the next header puts into force,
and the path of the header that holds. -/
structure Progress where
  fields : Fields
  marks : List MarkedPath
  pending : List MarkedPath
  header : KeyPath
deriving Inhabited

def Progress.start : Progress := ⟨[], [], [], []⟩

/-- The marks that came up in a section hold from the next header on. -/
def Progress.endSection (p : Progress) : Progress :=
  { p with marks := p.pending ++ p.marks, pending := [] }

/-- The paths that a dotted key goes through, from the shortest on. -/
def passedPaths (header : KeyPath) (key : KeyPath) : List KeyPath :=
  ((List.range key.length).drop 1).map fun n => header ++ key.take n

def Progress.assign (p : Progress) (key : KeyPath) (value : Value) : Option Progress :=
  let passed := passedPaths p.header key
  let parent := p.header ++ key.dropLast
  if passed.any fun path => isMarked p.marks path .declared then none
  else if isMarked p.marks parent .frozen then none
  else
    (modifyAt true (addField? (key.getLastD "") value) parent p.fields).map fun fields =>
      let marks :=
        match value with
        | .table _ | .list _ => ⟨p.header ++ key, .frozen, true⟩ :: p.marks
        | _ => p.marks
      { p with
        fields, marks
        pending := (passed.map fun path => ⟨path, .declared, false⟩) ++ p.pending }

def Progress.openTable (p : Progress) (key : KeyPath) : Option Progress :=
  if isMarked p.marks key .declared || isMarked p.marks key .frozen then none
  else
    (modifyAt true some key p.fields).map fun fields =>
      { p with fields, marks := ⟨key, .declared, false⟩ :: p.marks, header := key }

/-- A header that adds a table to a list. Behind it all marks are gone but its own. -/
def Progress.appendTable (p : Progress) (key : KeyPath) : Option Progress :=
  if isMarked p.marks key .frozen then none
  else
    let kept := p.marks.filter fun m => !key.isPrefixOf m.path
    (modifyAt true (appendTable? (key.getLastD "")) key.dropLast p.fields).map fun fields =>
      { p with fields, marks := ⟨key, .declared, false⟩ :: kept, header := key }

def isKeyStart (c : Char) : Bool :=
  isBareKeyChar c || c == '"' || c == '\''

def required {α : Type} (o : Option α) : Attempt α :=
  match o with
  | some a => .ok a
  | none => .error .malformed

def closeHeader (closing : String) (s : List Char) : Attempt (List Char) :=
  if begins closing s then .ok (s.drop closing.length) else .error .malformed

/-- One statement, of which `s` holds at least one character: what has been read with it, and the
text behind it. A value has `room` for what stands inside each other. -/
def readStatement (room : Nat) (p : Progress) (s : List Char) : Attempt (Progress × List Char) :=
  match s with
  | '[' :: '[' :: rest => do
    let key ← readKey (rest.length + 1) (skipSpace rest)
    let p ← required (p.endSection.appendTable key.1)
    return (p, skipSpace (← closeHeader "]]" key.2))
  | '[' :: rest => do
    let key ← readKey (rest.length + 1) (skipSpace rest)
    let p ← required (p.endSection.openTable key.1)
    return (p, skipSpace (← closeHeader "]" key.2))
  | '#' :: _ => .ok (p, s)
  | c :: _ =>
    if isKeyStart c then do
      let key ← readKeyAndEquals s
      let value ← readValue (2 * key.2.length + 2) room key.2
      let p ← required (p.assign key.1 value.1)
      return (p, skipSpace value.2)
    else .error .malformed
  | [] => .ok (p, [])

/-- All statements. Every line uses up fuel. -/
def readStatements (room : Nat) : (fuel : Nat) → Progress → List Char → Attempt Fields
  | 0, p, _ => .ok p.fields
  | fuel + 1, p, s =>
    match skipSpace s with
    | [] => .ok p.fields
    | '\n' :: rest => readStatements room fuel p rest
    | s => do
      let next ← readStatement room p s
      match ← skipComment next.2 with
      | [] => return next.1.fields
      | '\n' :: rest => readStatements room fuel next.1 rest
      | _ => .error .malformed

def read (s : List Char) (room : Nat := usualRoom) : Attempt Fields :=
  readStatements room (s.length + 1) Progress.start s

end PatternServer.Data.Toml
