import SystemLoops.Text.Basic

namespace SystemLoops.Format

/-- A CBOR item. The entries of a map stand in the order in which they are written. -/
inductive Cbor where
  | null
  | uint (n : UInt64)
  | text (t : Text)
  | array (items : List Cbor)
  | map (entries : List (Text × Cbor))
deriving Repr, Inhabited

namespace Cbor

/-- The last `count` bytes of a number, the most significant first. -/
def bigEndian (count n : Nat) : Text :=
  match count with
  | 0 => []
  | k + 1 => UInt8.ofNat (n / Nat.pow 256 k) :: bigEndian k n

/-- The head of an item: its major type and a number, in as few bytes as possible. -/
def head (major : UInt8) (n : Nat) : Text :=
  let lead := major <<< 5
  if n < 24 then [lead ||| UInt8.ofNat n]
  else if n < Nat.pow 2 8 then (lead ||| 24) :: bigEndian 1 n
  else if n < Nat.pow 2 16 then (lead ||| 25) :: bigEndian 2 n
  else if n < Nat.pow 2 32 then (lead ||| 26) :: bigEndian 4 n
  else (lead ||| 27) :: bigEndian 8 n

def encodeText (t : Text) : Text :=
  head 3 t.length ++ t

mutual

/-- The bytes of an item. -/
def encode : Cbor → Text
  | .null => [0xF6]
  | .uint n => head 0 n.toNat
  | .text t => encodeText t
  | .array items => head 4 items.length ++ encodeItems items
  | .map entries => head 5 entries.length ++ encodeEntries entries

/-- The bytes of several items, one after the other. -/
def encodeItems : List Cbor → Text
  | [] => []
  | item :: rest => item.encode ++ encodeItems rest

def encodeEntries : List (Text × Cbor) → Text
  | [] => []
  | (key, value) :: rest => encodeText key ++ value.encode ++ encodeEntries rest

end

/-- A list of texts, or null when there is none. -/
def ofTexts? : Option (List Text) → Cbor
  | none => .null
  | some ts => .array (ts.map .text)

end Cbor

end SystemLoops.Format
