import TraceProcessor.Db.RowMap

namespace TraceProcessor

inductive FilterOp where
  | eq | ne | lt | le | gt | ge | isNull | isNotNull
deriving DecidableEq, Repr

inductive OverlayOp where
  | isNull | isNotNull | other
deriving DecidableEq, Repr

/-- Modelled from the spec: `overlays::FilterOpToOverlayOp` is not under src/; §3 keeps only the
null-handling distinction. -/
def filterOpToOverlayOp : FilterOp → OverlayOp
  | .isNull => .isNull
  | .isNotNull => .isNotNull
  | _ => .other

inductive SqlValueType where
  | null | long | double | string
deriving DecidableEq, Repr

inductive SqlValue where
  | null
  | long (v : Int)
  | double (v : Float)
  | string (s : String)
deriving Repr

def SqlValue.type : SqlValue → SqlValueType
  | .null => .null
  | .long _ => .long
  | .double _ => .double
  | .string _ => .string

structure Constraint where
  colIdx : Nat
  op : FilterOp
  value : SqlValue
deriving Repr

structure Range where
  start : Nat
  stop : Nat
deriving DecidableEq, Repr

def Range.contains (r : Range) (i : Nat) : Bool := r.start ≤ i && i < r.stop

structure Storage where
  linearSearch : FilterOp → SqlValue → Range → BitVector
  indexSearch : FilterOp → SqlValue → List Nat → BitVector

structure StorageOverlay where
  mapToStorageRange : Range → Range
  mapToTableBitVector : BitVector → OverlayOp → Option BitVector
  isStorageLookupRequired : OverlayOp → List Nat → BitVector
  mapToStorageIndexVector : List Nat → List Nat
  indexSearch : OverlayOp → List Nat → BitVector

structure SimpleColumn where
  overlays : List StorageOverlay
  storage : Storage

structure OverlayMap where
  toInner : Nat → Option Nat
  verdict : OverlayOp → Nat → Bool

/-- Modelled from the spec: the §3/§4.6 overlay contract, all five operations agreeing with one
partial map from the `outer` indices to the `inner` ones. -/
structure StorageOverlay.Lawful (ov : StorageOverlay) (m : OverlayMap) (outer inner : Nat) : Prop where
  toInner_lt : ∀ {i j}, i < outer → m.toInner i = some j → j < inner
  mapToStorageRange : ∀ {r : Range} {i j}, r.contains i → i < outer → m.toInner i = some j →
    (ov.mapToStorageRange r).contains j
  mapToStorageIndexVector : ∀ {l : List Nat}, (∀ i ∈ l, i < outer ∧ (m.toInner i).isSome) →
    ov.mapToStorageIndexVector l = l.filterMap m.toInner
  isStorageLookupRequired : ∀ op {l : List Nat}, (∀ i ∈ l, i < outer) →
    ov.isStorageLookupRequired op l = ⟨l.map fun i => (m.toInner i).isSome⟩
  indexSearch : ∀ op {l : List Nat}, (∀ i ∈ l, i < outer ∧ m.toInner i = none) →
    ov.indexSearch op l = ⟨l.map (m.verdict op)⟩
  mapToTableBitVector : ∀ op {bv : BitVector}, bv.size = inner →
    ov.mapToTableBitVector bv op =
      some (BitVector.ofFn outer fun i => (m.toInner i).elim (m.verdict op i) (bv.bits.getD · false))

/-- Modelled from the spec: the §3 storage contract. -/
structure Storage.Lawful (st : Storage) (size : Nat) (sat : FilterOp → SqlValue → Nat → Bool) : Prop where
  linearSearch : ∀ op v r, st.linearSearch op v r = BitVector.ofFn size fun j => r.contains j && sat op v j
  indexSearch : ∀ op v {l : List Nat}, (∀ j ∈ l, j < size) → st.indexSearch op v l = ⟨l.map (sat op v)⟩

inductive StackLawful (st : Storage) (sat : FilterOp → SqlValue → Nat → Bool) :
    Nat → List StorageOverlay → List OverlayMap → Prop
  | storage {n : Nat} : st.Lawful n sat → StackLawful st sat n [] []
  | overlay {n n' : Nat} {ov : StorageOverlay} {m : OverlayMap} {ovs ms} :
      ov.Lawful m n n' → StackLawful st sat n' ovs ms → StackLawful st sat n (ov :: ovs) (m :: ms)

theorem StackLawful.length_eq {st : Storage} {sat : FilterOp → SqlValue → Nat → Bool} {n : Nat}
    {ovs : List StorageOverlay} {ms : List OverlayMap} (hs : StackLawful st sat n ovs ms) :
    ovs.length = ms.length := by
  induction hs with
  | storage => rfl
  | overlay _ _ ih => simp [ih]

section Semantics

variable (sat : FilterOp → SqlValue → Nat → Bool) (c : Constraint)

def rowSatAt : List OverlayMap → Nat → Bool
  | [], j => sat c.op c.value j
  | m :: ms, i => (m.toInner i).elim (m.verdict (filterOpToOverlayOp c.op) i) (rowSatAt ms)

def reach : List OverlayMap → Nat → Option Nat
  | [], i => some i
  | m :: ms, i => (m.toInner i).bind (reach ms)

theorem reach_append (pre ms : List OverlayMap) (i : Nat) :
    reach (pre ++ ms) i = (reach pre i).bind (reach ms) := by
  induction pre generalizing i with
  | nil => rfl
  | cons m pre ih => cases h : m.toInner i <;> simp [reach, h, ih]

theorem rowSatAt_append {pre : List OverlayMap} {i j : Nat} (ms : List OverlayMap)
    (h : reach pre i = some j) : rowSatAt sat c (pre ++ ms) i = rowSatAt sat c ms j := by
  induction pre generalizing i with
  | nil => cases h; rfl
  | cons m pre ih => cases hm : m.toInner i <;> simp_all [reach, rowSatAt]

end Semantics

end TraceProcessor
