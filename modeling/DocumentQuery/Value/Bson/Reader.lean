import DocumentQuery.Value.Bson.Raw
import DocumentQuery.Value.Bson.Tag

/-!
# Reading BSON

* `Bson.readValue?`   : a value, if its lengths are exact and its texts are UTF-8;
* `Bson.readElements` : the elements of a document up to one that is broken;
* `Bson.decode?`      : the document at the front of some bytes. What follows it is ignored.

Damage within a document stays within it, because the document's length says where it ends. The
keys of an array are not kept.
-/

namespace DocumentQuery.Bson

/-- The first `count` bytes, and what follows them. -/
def take? (count : Nat) (s : Bytes) : Option (Bytes × Bytes) :=
  if count ≤ s.length then some (s.take count, s.drop count) else none

/-- An unsigned number of `count` bytes. -/
def number? (count : Nat) (s : Bytes) : Option (Nat × Bytes) :=
  (take? count s).map fun (bytes, rest) => (ofLittleEndian bytes, rest)

/-- A length of at least `least`, which is a signed number. -/
def length? (least : Nat) (s : Bytes) : Option (Nat × Bytes) :=
  (number? 4 s).filter fun (n, _) => least ≤ n && Number.Range.int32.holds n

/-- A text up to a zero byte. -/
def key? (s : Bytes) : Option (String × Bytes) :=
  let bytes := s.takeWhile (· ≠ 0)
  match s.drop bytes.length with
  | [] => none
  | _ :: rest => (Text.ofBytes? bytes).map fun key => (key, rest)

/-- The bytes before the zero byte at the end. -/
def unterminated? (bytes : Bytes) : Option Bytes :=
  if bytes.getLast? = some 0 then some bytes.dropLast else none

/-- A text with its length. -/
def text? (s : Bytes) : Option (String × Bytes) := do
  let (n, s) ← length? 1 s
  let (bytes, rest) ← take? n s
  let text ← Text.ofBytes? (← unterminated? bytes)
  some (text, rest)

/-- The bytes of a document without its length. They end in a zero byte. -/
def frame? (s : Bytes) : Option (Bytes × Bytes) := do
  let (n, s) ← length? 5 s
  let (bytes, rest) ← take? (n - 4) s
  if bytes.getLast? = some 0 then some (bytes, rest) else none

def objectId? (s : Bytes) : Option (ObjectId × Bytes) := do
  let (bytes, rest) ← take? 12 s
  some (← ObjectId.ofBytes? bytes, rest)

def binary? (s : Bytes) : Option (Value × Bytes) := do
  let (n, s) ← length? 0 s
  match s with
  | [] => none
  | subtype :: s =>
    let (bytes, rest) ← take? n s
    if subtype = lengthPrefixed then do
      let (inner, bytes) ← number? 4 bytes
      if inner = bytes.length then some (.binary subtype bytes, rest) else none
    else some (.binary subtype bytes, rest)

/-- A value that takes no bytes, or a fixed count of them, or texts; nothing for other tags. -/
def readLeaf? (tag : UInt8) (s : Bytes) : Option (Value × Bytes) :=
  if tag = Tag.double then
    (number? 8 s).map fun (n, s) => (.double ⟨UInt64.ofNat n⟩, s)
  else if tag = Tag.string then (text? s).map fun (text, s) => (.string text, s)
  else if tag = Tag.binary then binary? s
  else if tag = Tag.undefined then some (.undefined, s)
  else if tag = Tag.objectId then (objectId? s).map fun (id, s) => (.objectId id, s)
  else if tag = Tag.bool then
    match s with
    | 0 :: rest => some (.bool false, rest)
    | 1 :: rest => some (.bool true, rest)
    | _ => none
  else if tag = Tag.date then
    (number? 8 s).map fun (n, s) => (.date (UInt64.ofNat n).toInt64, s)
  else if tag = Tag.null then some (.null, s)
  else if tag = Tag.regex then do
    let (pattern, s) ← key? s
    let (options, s) ← key? s
    some (.regex pattern (Value.sortOptions options), s)
  else if tag = Tag.dbPointer then do
    let (collection, s) ← text? s
    let (id, s) ← objectId? s
    some (.dbPointer collection id, s)
  else if tag = Tag.code then (text? s).map fun (source, s) => (.code source, s)
  else if tag = Tag.symbol then (text? s).map fun (name, s) => (.symbol name, s)
  else if tag = Tag.int32 then
    (number? 4 s).map fun (n, s) => (.int32 (UInt32.ofNat n).toInt32, s)
  else if tag = Tag.timestamp then do
    let (increment, s) ← number? 4 s
    let (time, s) ← number? 4 s
    some (.timestamp (UInt32.ofNat time) (UInt32.ofNat increment), s)
  else if tag = Tag.int64 then
    (number? 8 s).map fun (n, s) => (.int64 (UInt64.ofNat n).toInt64, s)
  else if tag = Tag.decimal128 then
    (number? 16 s).map fun (n, s) => (.decimal128 ⟨BitVec.ofNat 128 n⟩, s)
  else if tag = Tag.minKey then some (.minKey, s)
  else if tag = Tag.maxKey then some (.maxKey, s)
  else none

/-- A value with a given tag. `elements` reads the elements of a document within it. -/
def readValue? (elements : Bytes → List (String × Raw)) (tag : UInt8) (s : Bytes) :
    Option (Raw × Bytes) :=
  if tag = Tag.document then
    (frame? s).map fun (body, rest) => (.document (elements body), rest)
  else if tag = Tag.array then
    (frame? s).map fun (body, rest) => (.array ((elements body).map Prod.snd), rest)
  else if tag = Tag.codeWithScope then do
    let (n, s) ← length? 14 s
    let (bytes, rest) ← take? (n - 4) s
    let (source, bytes) ← text? bytes
    let (body, bytes) ← frame? bytes
    if bytes.isEmpty then some (.codeWithScope source (elements body), rest) else none
  else (readLeaf? tag s).map fun (value, rest) => (.leaf value, rest)

/-- An element: a tag, a key and a value. -/
def readElement? (elements : Bytes → List (String × Raw)) :
    Bytes → Option ((String × Raw) × Bytes)
  | [] => none
  | tag :: s => do
    let (key, s) ← key? s
    let (value, s) ← readValue? elements tag s
    some ((key, value), s)

/-- The elements before the last byte, which is zero. Each takes a step, and at least two bytes; so
steps as many as the bytes are enough. An element that cannot be read has no key. -/
def readElements : Nat → Bytes → List (String × Raw)
  | 0, _ => [("", .broken)]
  | fuel + 1, s =>
    if s = [0] then []
    else
      match readElement? (readElements fuel) s with
      | some (element, rest) => element :: readElements fuel rest
      | none => [("", .broken)]

/-- The document at the front of some bytes. -/
def decode? (bytes : Bytes) : Option Raw :=
  (frame? bytes).map fun (body, _) => .document (readElements body.length body)

end DocumentQuery.Bson
