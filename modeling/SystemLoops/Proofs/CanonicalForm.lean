import SystemLoops.Dump
import SystemLoops.Proofs.Quotation

/-!
The canonical form of a method is told from every other one by its bytes. A head gives the kind of an
item and its number, so the end of every item is known from its bytes, and a sequence of items can be
cut in one way only. Main statement: two methods have the same canonical bytes exactly when they agree
on everything but positions and findings, and a dump determines the canonical forms of its methods.
-/

namespace SystemLoops.Format.Cbor

/-! ### Heads -/

/-- The first byte of a head holds the kind in its upper three bits. -/
theorem lead_toNat {major : UInt8} {info : Nat} (kind : major.toNat < 8) (small : info < 32) :
    ((major <<< 5) ||| UInt8.ofNat info).toNat = major.toNat * 32 + info := by
  have bits : ∀ a < 8, ∀ k < 32,
      ((UInt8.ofNat a <<< 5) ||| UInt8.ofNat k).toNat = a * 32 + k := by decide
  have value := bits major.toNat kind info small
  rwa [UInt8.ofNat_toNat] at value

theorem length_bigEndian (count n : Nat) : (bigEndian count n).length = count := by
  induction count with
  | zero => rfl
  | succ k ih => rw [bigEndian, List.length_cons, ih]

theorem bigEndian_inj {count n m : Nat} (same : bigEndian count n = bigEndian count m) :
    n % 256 ^ count = m % 256 ^ count := by
  induction count with
  | zero => rw [Nat.pow_zero, Nat.mod_one, Nat.mod_one]
  | succ k ih =>
    obtain ⟨first, others⟩ := List.cons.inj same
    have digit : n / 256 ^ k % 256 = m / 256 ^ k % 256 := by
      simpa using congrArg UInt8.toNat first
    rw [Nat.pow_succ, Nat.mod_mul, Nat.mod_mul, ih others, digit]

/-- The bytes of a number that follow the first byte of a head. -/
def following (info : Nat) : Nat :=
  if info < 24 then 0 else 2 ^ (info - 24)

/-- A head is its first byte and the number, unless the number is small enough for the first byte. -/
theorem head_eq (major : UInt8) {n : Nat} (fits : n < 2 ^ 64) :
    ∃ info < 32, head major n =
        ((major <<< 5) ||| UInt8.ofNat info) :: bigEndian (following info) n ∧
      (info < 24 → n = info) ∧ (24 ≤ info → n < 256 ^ following info) := by
  unfold head
  simp only
  split
  · rename_i tiny
    refine ⟨n, by omega, ?_, fun _ => rfl, fun large => by omega⟩
    rw [following, if_pos tiny]
    rfl
  · split
    · rename_i small
      exact ⟨24, by decide, rfl, fun tiny => absurd tiny (by decide), fun _ => small⟩
    · split
      · rename_i small
        exact ⟨25, by decide, rfl, fun tiny => absurd tiny (by decide), fun _ => small⟩
      · split
        · rename_i small
          exact ⟨26, by decide, rfl, fun tiny => absurd tiny (by decide), fun _ => small⟩
        · exact ⟨27, by decide, rfl, fun tiny => absurd tiny (by decide), fun _ => fits⟩

/-- A head tells the kind and the number, and where it ends. -/
theorem head_append_inj {a b : UInt8} {n m : Nat} {r s : Text} (left : a.toNat < 8)
    (right : b.toNat < 8) (fitsLeft : n < 2 ^ 64) (fitsRight : m < 2 ^ 64)
    (same : head a n ++ r = head b m ++ s) : a = b ∧ n = m ∧ r = s := by
  obtain ⟨info, small, headLeft, tiny, large⟩ := head_eq a fitsLeft
  obtain ⟨info', small', headRight, tiny', large'⟩ := head_eq b fitsRight
  rw [headLeft, headRight] at same
  obtain ⟨first, others⟩ := List.cons.inj same
  have lead := congrArg UInt8.toNat first
  rw [lead_toNat left small, lead_toNat right small'] at lead
  have kinds : a.toNat = b.toNat := by omega
  obtain rfl : info = info' := by omega
  have lengths : (bigEndian (following info) n).length = (bigEndian (following info) m).length := by
    rw [length_bigEndian, length_bigEndian]
  obtain ⟨numbers, rest⟩ := List.append_inj others lengths
  refine ⟨UInt8.toNat_inj.mp kinds, ?_, rest⟩
  by_cases inFirst : info < 24
  · rw [tiny inFirst, tiny' inFirst]
  · have value := bigEndian_inj numbers
    rwa [Nat.mod_eq_of_lt (large (by omega)), Nat.mod_eq_of_lt (large' (by omega))] at value

/-! ### Items -/

/-- The kind that the head of an item gives. -/
def kind : Cbor → UInt8
  | .null => 7
  | .uint _ => 0
  | .text _ => 3
  | .array _ => 4
  | .map _ => 5

/-- The number that the head of an item gives: a value or a length. -/
def number : Cbor → Nat
  | .null => 22
  | .uint n => n.toNat
  | .text t => t.length
  | .array items => items.length
  | .map entries => entries.length

/-- What follows the head of an item. -/
def content : Cbor → Text
  | .null => []
  | .uint _ => []
  | .text t => t
  | .array items => encodeItems items
  | .map entries => encodeEntries entries

variable {x y : Cbor} {r s : Text}

theorem encode_eq (x : Cbor) : x.encode = head x.kind x.number ++ x.content := by
  cases x with
  | null => decide
  | uint n => rw [encode, kind, number, content, List.append_nil]
  | text t => rw [encode, kind, number, content, encodeText]
  | array items => rw [encode, kind, number, content]
  | map entries => rw [encode, kind, number, content]

theorem kind_lt (x : Cbor) : x.kind.toNat < 8 := by
  cases x <;> simp [kind]

theorem head_length_pos (major : UInt8) (n : Nat) : 0 < (head major n).length := by
  unfold head
  simp only
  split
  · exact Nat.one_pos
  · split
    · exact Nat.succ_pos _
    · split
      · exact Nat.succ_pos _
      · split <;> exact Nat.succ_pos _

theorem length_le_items (items : List Cbor) : items.length ≤ (encodeItems items).length := by
  induction items with
  | nil => exact Nat.zero_le _
  | cons item rest ih =>
    have first := head_length_pos item.kind item.number
    rw [encodeItems, encode_eq]
    simp only [List.length_cons, List.length_append]
    omega

theorem length_le_entries (entries : List (Text × Cbor)) :
    entries.length ≤ (encodeEntries entries).length := by
  induction entries with
  | nil => exact Nat.zero_le _
  | cons entry rest ih =>
    have first := head_length_pos 3 entry.1.length
    rw [encodeEntries, encodeText]
    simp only [List.length_cons, List.length_append]
    omega

/-- The length of an item is no greater than that of its bytes. -/
theorem number_lt (short : x.encode.length < 2 ^ 64) : x.number < 2 ^ 64 := by
  rw [encode_eq, List.length_append] at short
  cases x with
  | null => decide
  | uint n => exact n.toNat_lt
  | text t =>
    rw [content] at short
    rw [number]
    omega
  | array items =>
    have bound := length_le_items items
    rw [content] at short
    rw [number]
    omega
  | map entries =>
    have bound := length_le_entries entries
    rw [content] at short
    rw [number]
    omega

theorem encode_split (shortLeft : x.encode.length < 2 ^ 64) (shortRight : y.encode.length < 2 ^ 64)
    (same : x.encode ++ r = y.encode ++ s) :
    x.kind = y.kind ∧ x.number = y.number ∧ x.content ++ r = y.content ++ s := by
  rw [encode_eq x, encode_eq y, List.append_assoc, List.append_assoc] at same
  exact head_append_inj (kind_lt x) (kind_lt y) (number_lt shortLeft) (number_lt shortRight) same

theorem encodeText_append_inj {t u : Text} (shortLeft : (encodeText t).length < 2 ^ 64)
    (shortRight : (encodeText u).length < 2 ^ 64) (same : encodeText t ++ r = encodeText u ++ s) :
    t = u ∧ r = s := by
  have left : (text t).encode = encodeText t := by rw [encode]
  have right : (text u).encode = encodeText u := by rw [encode]
  rw [← left] at shortLeft same
  rw [← right] at shortRight same
  obtain ⟨-, lengths, rest⟩ := encode_split shortLeft shortRight same
  exact List.append_inj rest lengths

mutual

/-- An item is told from every other one by its bytes, and so is its end. -/
theorem encode_append_inj (x y : Cbor) {r s : Text} (shortLeft : x.encode.length < 2 ^ 64)
    (shortRight : y.encode.length < 2 ^ 64) (same : x.encode ++ r = y.encode ++ s) :
    x = y ∧ r = s := by
  obtain ⟨kinds, numbers, rest⟩ := encode_split shortLeft shortRight same
  rw [encode_eq, List.length_append] at shortLeft shortRight
  cases y with
  | null =>
    cases x with
    | null => exact ⟨rfl, rest⟩
    | _ => exact absurd kinds (by simp [kind])
  | uint n =>
    cases x with
    | uint m => exact ⟨congrArg uint (UInt64.toNat_inj.mp numbers), rest⟩
    | _ => exact absurd kinds (by simp [kind])
  | text t =>
    cases x with
    | text u =>
      obtain ⟨texts, behind⟩ := List.append_inj rest numbers
      exact ⟨congrArg text texts, behind⟩
    | _ => exact absurd kinds (by simp [kind])
  | array others =>
    cases x with
    | array items =>
      obtain ⟨contents, behind⟩ := encodeItems_append_inj items others numbers
        (Nat.lt_of_le_of_lt (Nat.le_add_left _ _) shortLeft)
        (Nat.lt_of_le_of_lt (Nat.le_add_left _ _) shortRight) rest
      exact ⟨congrArg array contents, behind⟩
    | _ => exact absurd kinds (by simp [kind])
  | map others =>
    cases x with
    | map entries =>
      obtain ⟨contents, behind⟩ := encodeEntries_append_inj entries others numbers
        (Nat.lt_of_le_of_lt (Nat.le_add_left _ _) shortLeft)
        (Nat.lt_of_le_of_lt (Nat.le_add_left _ _) shortRight) rest
      exact ⟨congrArg map contents, behind⟩
    | _ => exact absurd kinds (by simp [kind])

theorem encodeItems_append_inj (xs ys : List Cbor) {r s : Text} (lengths : xs.length = ys.length)
    (shortLeft : (encodeItems xs).length < 2 ^ 64) (shortRight : (encodeItems ys).length < 2 ^ 64)
    (same : encodeItems xs ++ r = encodeItems ys ++ s) : xs = ys ∧ r = s := by
  cases xs with
  | nil =>
    obtain rfl := List.length_eq_zero_iff.mp lengths.symm
    exact ⟨rfl, same⟩
  | cons x xs =>
    cases ys with
    | nil => cases lengths
    | cons y ys =>
      rw [encodeItems, List.length_append] at shortLeft shortRight
      rw [encodeItems, encodeItems, List.append_assoc, List.append_assoc] at same
      obtain ⟨rfl, others⟩ := encode_append_inj x y (by omega) (by omega) same
      obtain ⟨rfl, behind⟩ := encodeItems_append_inj xs ys (Nat.succ.inj lengths) (by omega)
        (by omega) others
      exact ⟨rfl, behind⟩

theorem encodeEntries_append_inj (xs ys : List (Text × Cbor)) {r s : Text}
    (lengths : xs.length = ys.length) (shortLeft : (encodeEntries xs).length < 2 ^ 64)
    (shortRight : (encodeEntries ys).length < 2 ^ 64)
    (same : encodeEntries xs ++ r = encodeEntries ys ++ s) : xs = ys ∧ r = s := by
  cases xs with
  | nil =>
    obtain rfl := List.length_eq_zero_iff.mp lengths.symm
    exact ⟨rfl, same⟩
  | cons x xs =>
    cases ys with
    | nil => cases lengths
    | cons y ys =>
      obtain ⟨key, value⟩ := x
      obtain ⟨key', value'⟩ := y
      rw [encodeEntries, List.length_append, List.length_append] at shortLeft shortRight
      simp only [encodeEntries, List.append_assoc] at same
      obtain ⟨rfl, values⟩ := encodeText_append_inj (by omega) (by omega) same
      obtain ⟨rfl, others⟩ := encode_append_inj value value' (by omega) (by omega) values
      obtain ⟨rfl, behind⟩ := encodeEntries_append_inj xs ys (Nat.succ.inj lengths) (by omega)
        (by omega) others
      exact ⟨rfl, behind⟩

end

end SystemLoops.Format.Cbor

namespace SystemLoops

/-- A node without the position it was found at. -/
def Node.content (n : Node) : Node :=
  { n with position := {} }

namespace Analysis

open Format

/-- Two methods agree on everything but positions and findings; of their nodes, those that are still
there count, in the order of registration. -/
structure SameContent (a b : Analysis) : Prop where
  system : a.system = b.system
  package : a.package = b.package
  receiver : a.receiver = b.receiver
  imports : a.imports = b.imports
  preamble : a.preamble = b.preamble
  storageTypes : a.storageTypes = b.storageTypes
  signatureNames : a.signatureNames = b.signatureNames
  nodes : a.nodes.map Node.content = b.nodes.map Node.content

/-! ### Parts of the canonical form -/

theorem ofKey_inj {k l : Key} (same : ofKey k = ofKey l) : k = l := by
  obtain ⟨depth, id⟩ := k
  obtain ⟨depth', id'⟩ := l
  simpa [ofKey, record, and_comm] using same

theorem ofSegment_inj {s t : Segment} (same : ofSegment s = ofSegment t) : s = t := by
  cases s with
  | text source =>
    cases t with
    | text other => simpa [ofSegment, record] using same
    | hole key => simp [ofSegment, ofKey, record] at same
  | hole key =>
    cases t with
    | text other => simp [ofSegment, ofKey, record] at same
    | hole other =>
      have keys : ofKey key = ofKey other := by simpa [ofSegment, record] using same
      rw [ofKey_inj keys]

theorem ofTemplate_inj {s t : Template} (same : ofTemplate s = ofTemplate t) : s = t :=
  (List.map_inj_right fun _ _ => ofSegment_inj).mp (Cbor.array.inj same)

theorem ofParam_inj {p q : Param} (same : ofParam p = ofParam q) : p = q := by
  obtain ⟨type, name⟩ := p
  obtain ⟨type', name'⟩ := q
  simpa [ofParam, record, and_comm] using same

theorem ofParams_inj {ps qs : Option (List Param)} (same : ofParams ps = ofParams qs) : ps = qs := by
  cases ps <;> cases qs
  · rfl
  · cases same
  · cases same
  · exact congrArg some ((List.map_inj_right fun _ _ => ofParam_inj).mp (Cbor.array.inj same))

theorem ofTexts_inj {ts us : Option (List Text)} (same : Cbor.ofTexts? ts = Cbor.ofTexts? us) :
    ts = us := by
  cases ts <;> cases us
  · rfl
  · cases same
  · cases same
  · exact congrArg some ((List.map_inj_right fun _ _ => Cbor.text.inj).mp (Cbor.array.inj same))

theorem nullIfEmpty_inj {xs ys : List Cbor} (same : nullIfEmpty xs = nullIfEmpty ys) : xs = ys := by
  cases xs <;> cases ys
  · rfl
  · cases same
  · cases same
  · exact Cbor.array.inj same

theorem canonicalNode_inj {n m : Node} (same : canonicalNode n = canonicalNode m) :
    n.content = m.content := by
  obtain ⟨⟨depth, id⟩, params, exclusions, body, signature, position⟩ := n
  obtain ⟨⟨depth', id'⟩, params', exclusions', body', signature', position'⟩ := m
  simp only [canonicalNode, record, List.map_cons, List.map_nil, Cbor.map.injEq, List.cons.injEq,
    Prod.mk.injEq, true_and, and_true, Cbor.uint.injEq, Cbor.text.injEq] at same
  obtain ⟨rfl, bodies, rfl, lists, rfl, texts⟩ := same
  rw [Node.content, Node.content, ofTemplate_inj bodies, ofParams_inj lists, ofTexts_inj texts]

theorem canonicalNode_content (n : Node) : canonicalNode n.content = canonicalNode n := rfl

theorem canonicalNodes_inj {ns ms : List Node}
    (same : ns.map canonicalNode = ms.map canonicalNode) :
    ns.map Node.content = ms.map Node.content := by
  induction ns generalizing ms with
  | nil =>
    obtain rfl := List.map_eq_nil_iff.mp same.symm
    rfl
  | cons n ns ih =>
    cases ms with
    | nil => cases same
    | cons m ms =>
      obtain ⟨first, others⟩ := List.cons.inj same
      rw [List.map_cons, List.map_cons, canonicalNode_inj first, ih others]

/-- The canonical form is that of the content. -/
theorem canonical_eq_iff {a b : Analysis} : a.canonical = b.canonical ↔ a.SameContent b := by
  constructor
  · intro same
    simp only [canonical, record, List.map_cons, List.map_nil, Cbor.map.injEq, List.cons.injEq,
      Prod.mk.injEq, true_and, and_true, Cbor.text.injEq] at same
    obtain ⟨nodes, system, imports, package, preamble, receiver, storage, signatures⟩ := same
    exact
      { system, package, receiver
        imports := (List.map_inj_right fun _ _ alike => Import.render_inj (Cbor.text.inj alike)).mp
          (nullIfEmpty_inj imports)
        preamble := ofTemplate_inj preamble
        storageTypes := ofTexts_inj storage
        signatureNames := ofTexts_inj signatures
        nodes := canonicalNodes_inj (nullIfEmpty_inj nodes) }
  · intro same
    have nodes : a.nodes.map canonicalNode = b.nodes.map canonicalNode := by
      simpa [Function.comp_def, canonicalNode_content] using congrArg (List.map canonicalNode) same.nodes
    rw [canonical, canonical, nodes, same.system, same.imports, same.package, same.preamble,
      same.receiver, same.storageTypes, same.signatureNames]

/-! ### Dumps -/

theorem canonicalBytes_append_inj {a b : Analysis} {r s : Text}
    (shortLeft : a.canonicalBytes.length < 2 ^ 64) (shortRight : b.canonicalBytes.length < 2 ^ 64)
    (same : a.canonicalBytes ++ r = b.canonicalBytes ++ s) : a.canonical = b.canonical ∧ r = s :=
  Cbor.encode_append_inj _ _ shortLeft shortRight same

theorem canonicalBytes_ne_nil (a : Analysis) : a.canonicalBytes ≠ [] := by
  have first := Cbor.head_length_pos a.canonical.kind a.canonical.number
  rw [canonicalBytes, Cbor.encode_eq]
  intro empty
  rw [(List.append_eq_nil_iff.mp empty).1] at first
  cases first

theorem flatMap_canonicalBytes_inj {xs ys : List Analysis}
    (short : ∀ a ∈ xs ++ ys, a.canonicalBytes.length < 2 ^ 64)
    (same : xs.flatMap canonicalBytes = ys.flatMap canonicalBytes) :
    xs.map canonical = ys.map canonical := by
  induction xs generalizing ys with
  | nil =>
    cases ys with
    | nil => rfl
    | cons b ys => exact absurd (List.append_eq_nil_iff.mp same.symm).1 (canonicalBytes_ne_nil b)
  | cons a xs ih =>
    cases ys with
    | nil => exact absurd (List.append_eq_nil_iff.mp same).1 (canonicalBytes_ne_nil a)
    | cons b ys =>
      rw [List.flatMap_cons, List.flatMap_cons] at same
      obtain ⟨first, others⟩ := canonicalBytes_append_inj (short a (by simp)) (short b (by simp)) same
      rw [List.map_cons, List.map_cons, first, ih (fun c member => short c ?_) others]
      rcases List.mem_append.mp member with left | right
      · simp [left]
      · simp [right]

/-- The bytes of the canonical form determine everything about a method but positions and findings, and
the bytes of a dump determine the canonical forms of its methods. A head has eight bytes for a length,
so the bytes must be fewer than that can tell, as all bytes in memory are. -/
theorem canonicalBytes_determine :
    (∀ a b : Analysis, a.canonicalBytes.length < 2 ^ 64 →
      (a.canonicalBytes = b.canonicalBytes ↔ a.SameContent b)) ∧
    ∀ xs ys : List Analysis, (∀ a ∈ xs ++ ys, a.canonicalBytes.length < 2 ^ 64) →
      (dump xs .cbor = dump ys .cbor ↔ xs.map canonical = ys.map canonical) := by
  refine ⟨fun a b short => ?_, fun xs ys short => ?_⟩
  · rw [← canonical_eq_iff]
    constructor
    · intro same
      have ends : a.canonicalBytes ++ [] = b.canonicalBytes ++ [] := by rw [same]
      exact (canonicalBytes_append_inj short (same ▸ short) ends).1
    · exact congrArg Cbor.encode
  · constructor
    · exact flatMap_canonicalBytes_inj short
    · intro same
      have bytes (zs : List Analysis) : dump zs .cbor = (zs.map canonical).flatMap Cbor.encode := by
        rw [dump, List.flatMap_map]
        rfl
      rw [bytes, bytes, same]

/-- A method with one loop at a line, with the components that the loop leaves out. -/
def loopAt (line : Int) (exclusions : Option (List Text)) : Analysis :=
  let node : Node :=
    { key := ⟨0, 0⟩, params := some [⟨"Pos", "p"⟩], exclusions, body := [.text "use(p)"]
      signature := "query_Pos", position := { line } }
  { system := "Motion", imports := [⟨"m", "math"⟩, ⟨[], "fmt"⟩], position := { line }
    preamble := [.text "x := 1", .hole ⟨0, 0⟩], storageTypes := some ["Pos"]
    signatureNames := some ["query_Pos"], arena := some { slots := [node], order := [node.key] } }

/-- Another line makes no difference, but leaving out nothing is told from a list of nothing, and the
order of two methods in a dump is told as well. -/
theorem canonicalBytes_determine_loop :
    (loopAt 1 none).canonicalBytes = (loopAt 7 none).canonicalBytes ∧
      (loopAt 1 none).canonicalBytes ≠ (loopAt 1 (some [])).canonicalBytes ∧
      dump [loopAt 1 none, loopAt 1 (some [])] .cbor ≠
        dump [loopAt 1 (some []), loopAt 1 none] .cbor := by
  have short : (loopAt 1 none).canonicalBytes.length < 2 ^ 64 := by decide +kernel
  have short' : (loopAt 1 (some [])).canonicalBytes.length < 2 ^ 64 := by decide +kernel
  have differ : ¬ (loopAt 1 none).SameContent (loopAt 1 (some [])) := by
    intro same
    have nodes := same.nodes
    revert nodes
    decide +kernel
  have apart := mt (canonicalBytes_determine.1 _ _ short).mp differ
  refine ⟨(canonicalBytes_determine.1 _ _ short).mpr ?_, apart, fun same => ?_⟩
  · exact ⟨rfl, rfl, rfl, rfl, rfl, rfl, rfl, by decide +kernel⟩
  · have every : ∀ a ∈ [loopAt 1 none, loopAt 1 (some [])] ++ [loopAt 1 (some []), loopAt 1 none],
        a.canonicalBytes.length < 2 ^ 64 := by
      refine List.forall_mem_append.mpr ⟨?_, ?_⟩
      · exact List.forall_mem_cons.mpr ⟨short, List.forall_mem_singleton.mpr short'⟩
      · exact List.forall_mem_cons.mpr ⟨short', List.forall_mem_singleton.mpr short⟩
    have forms := (canonicalBytes_determine.2 _ _ every).mp same
    exact differ (canonical_eq_iff.mp (List.cons.inj forms).1)

end Analysis

end SystemLoops
