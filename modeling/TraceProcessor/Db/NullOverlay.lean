import TraceProcessor.Db.Overlay

namespace TraceProcessor

/-- Modelled from the spec: `overlays::NullOverlay` is not under src/; it wraps a storage of the
non-null rows and translates table rows through the null mask `nonNull` (§3, §4.6, S3, S4). -/
structure NullOverlay where
  nonNull : BitVector
deriving DecidableEq, Repr

namespace NullOverlay

def isNonNull (o : NullOverlay) (i : Nat) : Bool := o.nonNull.bits.getD i false

def rank (o : NullOverlay) (i : Nat) : Nat := (o.nonNull.bits.take i).count true

def toStorageOverlay (o : NullOverlay) : StorageOverlay where
  mapToStorageRange r := ⟨o.rank r.start, o.rank r.stop⟩
  mapToTableBitVector bv op :=
    if bv.size = o.nonNull.countSetBits then
      some (BitVector.ofFn o.nonNull.size fun i =>
        if o.isNonNull i then bv.bits.getD (o.rank i) false else decide (op = .isNull))
    else none
  isStorageLookupRequired _ l := ⟨l.map o.isNonNull⟩
  mapToStorageIndexVector l := l.map o.rank
  indexSearch op l := ⟨l.map fun _ => decide (op = .isNull)⟩

def overlayMap (o : NullOverlay) : OverlayMap where
  toInner i := if o.isNonNull i then some (o.rank i) else none
  verdict op _ := decide (op = .isNull)

theorem rank_succ (o : NullOverlay) (i : Nat) :
    o.rank (i + 1) = o.rank i + if o.isNonNull i then 1 else 0 := by
  simp only [rank, isNonNull, List.take_succ, List.count_append, List.getD_eq_getElem?_getD]
  cases o.nonNull.bits[i]? with
  | none => rfl
  | some b => cases b <;> rfl

theorem rank_mono (o : NullOverlay) {i j : Nat} (h : i ≤ j) : o.rank i ≤ o.rank j :=
  (List.take_sublist_take_left _ h).count_le true

theorem rank_le_countSetBits (o : NullOverlay) (i : Nat) : o.rank i ≤ o.nonNull.countSetBits :=
  (List.take_sublist _ _).count_le true

theorem rank_lt_of_isNonNull (o : NullOverlay) {i j : Nat} (h : o.isNonNull i) (hij : i < j) :
    o.rank i < o.rank j := by
  have := o.rank_mono hij
  rw [rank_succ, if_pos h] at this
  omega

theorem lawful (o : NullOverlay) :
    o.toStorageOverlay.Lawful o.overlayMap o.nonNull.size o.nonNull.countSetBits where
  toInner_lt {i j} _ h := by
    simp only [overlayMap, Option.ite_none_right_eq_some, Option.some.injEq] at h
    obtain ⟨hi, rfl⟩ := h
    have := o.rank_le_countSetBits (i + 1)
    rw [rank_succ, if_pos hi] at this
    omega
  mapToStorageRange {r i j} hr _ h := by
    simp only [overlayMap, Option.ite_none_right_eq_some, Option.some.injEq] at h
    obtain ⟨hi, rfl⟩ := h
    simp only [Range.contains, Bool.and_eq_true, decide_eq_true_eq] at hr ⊢
    exact ⟨o.rank_mono hr.1, o.rank_lt_of_isNonNull hi hr.2⟩
  mapToStorageIndexVector {l} hl := by
    simp only [toStorageOverlay, overlayMap]
    induction l with
    | nil => rfl
    | cons i l ih =>
      have hi : o.isNonNull i := by simpa [overlayMap] using (hl i (List.mem_cons_self _ _)).2
      simp [hi, ih fun j hj => hl j (List.mem_cons_of_mem _ hj)]
  isStorageLookupRequired _ {l} _ := by
    simp only [toStorageOverlay, overlayMap, BitVector.mk.injEq]
    exact List.map_congr_left fun i _ => by cases o.isNonNull i <;> rfl
  indexSearch _ _ _ := rfl
  mapToTableBitVector _ _ hsize := by
    simp only [toStorageOverlay, overlayMap, hsize, if_true, Option.some.injEq]
    congr 1
    funext i
    cases o.isNonNull i <;> rfl

end NullOverlay

def opMatches (op : FilterOp) (lt eq gt : Bool) : Bool :=
  match op with
  | .eq => eq
  | .ne => !eq
  | .lt => lt
  | .le => lt || eq
  | .gt => gt
  | .ge => gt || eq
  | .isNull => false
  | .isNotNull => true

/-- Modelled from the spec: the §3 ops on a numeric element, a double comparing as IEEE doubles do
(every order test false on a NaN). -/
def numericMatches (op : FilterOp) (value x : SqlValue) : Bool :=
  match x, value with
  | .long x, .long v => opMatches op (decide (x < v)) (decide (x = v)) (decide (v < x))
  | .double x, .double v => opMatches op (decide (x < v)) (x == v) (decide (v < x))
  | _, _ => opMatches op false false false

/-- Modelled from the spec: `storage::NumericStorage` is not under src/; a typed vector of `size`
elements whose two searches test each element against the constraint (§3, §4.6). -/
structure NumericStorage where
  data : List SqlValue
  size : Nat
deriving Repr

namespace NumericStorage

def elementMatches (s : NumericStorage) (op : FilterOp) (value : SqlValue) (j : Nat) : Bool :=
  numericMatches op value (s.data.getD j .null)

def toStorage (s : NumericStorage) : Storage where
  linearSearch op v r := BitVector.ofFn s.size fun j => r.contains j && s.elementMatches op v j
  indexSearch op v l := ⟨l.map (s.elementMatches op v)⟩

theorem lawful (s : NumericStorage) : s.toStorage.Lawful s.size s.elementMatches :=
  ⟨fun _ _ _ => rfl, fun _ _ _ _ => rfl⟩

end NumericStorage

def scenarioOverlay : NullOverlay := ⟨⟨[true, false, true, false]⟩⟩

def scenarioStorage : NumericStorage := ⟨[.long 7, .long 9], 2⟩

theorem scenario_stackLawful :
    StackLawful scenarioStorage.toStorage scenarioStorage.elementMatches 4
      [scenarioOverlay.toStorageOverlay] [scenarioOverlay.overlayMap] :=
  .overlay scenarioOverlay.lawful (.storage scenarioStorage.lawful)

end TraceProcessor
