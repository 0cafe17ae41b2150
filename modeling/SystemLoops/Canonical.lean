import SystemLoops.Analysis
import SystemLoops.Format.Blake2b
import SystemLoops.Format.Cbor

/-!
The canonical form of an analysed method and its digest. Positions and findings take no part, so moving
a method within its file does not change its digest. Only nodes that are still there count.
-/

namespace SystemLoops.Analysis

open Format

/-- The version of the canonical form; it changes with the encoding, so that digests of different
encodings never meet by accident. -/
def canonicalVersion : UInt64 := 1

def record (entries : List (String × Cbor)) : Cbor :=
  .map (entries.map fun (name, v) => (Text.ofString name, v))

def ofKey (k : Key) : Cbor :=
  record [("id", .uint k.id), ("depth", .uint k.depth)]

def ofSegment : Segment → Cbor
  | .text source => record [("Hole", .null), ("Text", .text source)]
  | .hole key => record [("Hole", ofKey key), ("Text", .text [])]

def ofTemplate (t : Template) : Cbor :=
  .array (t.map ofSegment)

def ofParam (p : Param) : Cbor :=
  record [("name", .text p.name), ("type", .text p.type)]

def ofParams : Option (List Param) → Cbor
  | none => .null
  | some ps => .array (ps.map ofParam)

def canonicalNode (n : Node) : Cbor :=
  record
    [("ID", .uint n.key.id), ("Body", ofTemplate n.body), ("Depth", .uint n.key.depth),
     ("Params", ofParams n.params), ("Signature", .text n.signature),
     ("Exclusions", Cbor.ofTexts? n.exclusions)]

/-- A list, or null when it is empty. -/
def nullIfEmpty (items : List Cbor) : Cbor :=
  if items.isEmpty then .null else .array items

def canonical (a : Analysis) : Cbor :=
  record
    [("Nodes", nullIfEmpty (a.nodes.map canonicalNode)),
     ("System", .text a.system),
     ("Imports", nullIfEmpty (a.imports.map fun i => .text i.render)),
     ("Package", .text a.package),
     ("Version", .uint canonicalVersion),
     ("Preamble", ofTemplate a.preamble),
     ("Receiver", .text a.receiver),
     ("StorageTypes", Cbor.ofTexts? a.storageTypes),
     ("SignatureNames", Cbor.ofTexts? a.signatureNames)]

def canonicalBytes (a : Analysis) : Text :=
  a.canonical.encode

/-- The digest of the canonical form, in hexadecimal. -/
def digest (a : Analysis) : Text :=
  Text.hex (Blake2b.digest a.canonicalBytes)

end SystemLoops.Analysis
