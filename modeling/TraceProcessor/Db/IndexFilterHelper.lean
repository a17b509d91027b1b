import TraceProcessor.Db.BitVector

namespace TraceProcessor

structure IndexFilterHelper where
  current : List Nat
  global : List Nat
deriving DecidableEq, Repr

namespace IndexFilterHelper

def ofIndices (indices : List Nat) : IndexFilterHelper := ⟨indices, indices⟩

def pushBack (h : IndexFilterHelper) (curAndGlobalIdx : Nat × Nat) : IndexFilterHelper :=
  ⟨h.current ++ [curAndGlobalIdx.1], h.global ++ [curAndGlobalIdx.2]⟩

def pairAt (h : IndexFilterHelper) (idx : Nat) : Option (Nat × Nat) := do
  let cur ← h.current[idx]?
  let glob ← h.global[idx]?
  pure (cur, glob)

def partitionLoop (indices : IndexFilterHelper) :
    List (Nat × Bool) → IndexFilterHelper → IndexFilterHelper →
      Option (IndexFilterHelper × IndexFilterHelper)
  | [], setPartition, nonSetPartition => some (setPartition, nonSetPartition)
  | (idx, isSet) :: it, setPartition, nonSetPartition => do
    let p ← indices.pairAt idx
    if isSet then partitionLoop indices it (setPartition.pushBack p) nonSetPartition
    else partitionLoop indices it setPartition (nonSetPartition.pushBack p)

def partition (indices : IndexFilterHelper) (bv : BitVector) :
    Option (IndexFilterHelper × IndexFilterHelper) :=
  if bv.countSetBits = 0 then some (⟨[], []⟩, indices)
  else partitionLoop indices bv.iterateAllBits ⟨[], []⟩ ⟨[], []⟩

/-- `std::remove_if` with the predicate `!filter_nulls.IsSet(i++)` followed by `erase`. -/
def removeUnset (filterNulls : BitVector) : Nat → List Nat → Option (List Nat)
  | _, [] => some []
  | i, x :: xs => do
    let b ← filterNulls.isSet i
    let rest ← removeUnset filterNulls (i + 1) xs
    pure (if b then x :: rest else rest)

def keepAtSet (h : IndexFilterHelper) (filterNulls : BitVector) : Option (IndexFilterHelper × Nat) :=
  if filterNulls.size = h.current.length ∨ filterNulls.countSetBits = 0 then do
    let countRemoved := h.current.length - filterNulls.countSetBits
    let current ← removeUnset filterNulls 0 h.current
    let global ← removeUnset filterNulls 0 h.global
    pure (⟨current, global⟩, countRemoved)
  else none

def pairs (h : IndexFilterHelper) : List (Nat × Nat) := h.current.zip h.global

@[simp] theorem pairs_mk (current global : List Nat) :
    (⟨current, global⟩ : IndexFilterHelper).pairs = current.zip global := rfl

def ofPairs (ps : List (Nat × Nat)) : IndexFilterHelper := ⟨ps.map Prod.fst, ps.map Prod.snd⟩

@[simp] theorem ofPairs_current (ps : List (Nat × Nat)) : (ofPairs ps).current = ps.map Prod.fst := rfl

@[simp] theorem ofPairs_global (ps : List (Nat × Nat)) : (ofPairs ps).global = ps.map Prod.snd := rfl

@[simp] theorem pairs_ofPairs (ps : List (Nat × Nat)) : (ofPairs ps).pairs = ps := by
  simpa [pairs, List.unzip_eq_map] using List.zip_unzip ps

theorem ofPairs_pairs {h : IndexFilterHelper} (hlen : h.current.length = h.global.length) :
    ofPairs h.pairs = h := by
  simp [ofPairs, pairs, List.map_fst_zip _ _ hlen.le, List.map_snd_zip _ _ hlen.ge]

def keep (h : IndexFilterHelper) (b : Bool) (bv : BitVector) : IndexFilterHelper :=
  ⟨keepWhere b h.current bv.bits, keepWhere b h.global bv.bits⟩

@[simp] theorem keep_current (h : IndexFilterHelper) (b : Bool) (bv : BitVector) :
    (h.keep b bv).current = keepWhere b h.current bv.bits := rfl

@[simp] theorem keep_global (h : IndexFilterHelper) (b : Bool) (bv : BitVector) :
    (h.keep b bv).global = keepWhere b h.global bv.bits := rfl

theorem pairs_keep (h : IndexFilterHelper) (b : Bool) (bv : BitVector) :
    (h.keep b bv).pairs = keepWhere b h.pairs bv.bits := by
  simp [pairs, keepWhere_zip]

theorem removeUnset_eq (bv : BitVector) {i : Nat} {xs : List Nat} (h : i + xs.length ≤ bv.size) :
    removeUnset bv i xs = some (keepWhere true xs (bv.bits.drop i)) := by
  induction xs generalizing i with
  | nil => rfl
  | cons x xs ih =>
    simp only [BitVector.size, List.length_cons] at h ih
    have hi : i < bv.bits.length := by omega
    rw [List.drop_eq_getElem_cons hi]
    simp only [removeUnset, BitVector.isSet, List.getElem?_eq_getElem hi, Option.bind_eq_bind,
      Option.some_bind, @ih (i + 1) (by omega)]
    cases bv.bits[i] <;> simp

theorem removeUnset_eq_none (bv : BitVector) {i : Nat} {xs : List Nat} (hi : i ≤ bv.size)
    (h : bv.size < i + xs.length) : removeUnset bv i xs = none := by
  induction xs generalizing i with
  | nil => simp at h; omega
  | cons x xs ih =>
    simp only [BitVector.size, List.length_cons] at h ih hi
    by_cases hlt : i < bv.bits.length
    · simp only [removeUnset, BitVector.isSet, List.getElem?_eq_getElem hlt, Option.bind_eq_bind,
        Option.some_bind, @ih (i + 1) (by omega) (by omega), Option.none_bind]
    · simp [removeUnset, BitVector.isSet, List.getElem?_eq_none (Nat.le_of_not_lt hlt)]

theorem keepAtSet_eq (h : IndexFilterHelper) (bv : BitVector) (hlen : h.current.length = h.global.length)
    (hbv : bv.size = h.current.length) :
    h.keepAtSet bv = some (h.keep true bv, h.current.length - bv.countSetBits) := by
  simp [keepAtSet, hbv, @removeUnset_eq bv 0 h.current (by omega),
    @removeUnset_eq bv 0 h.global (by omega), keep]

theorem keepAtSet_reads_past_end (h : IndexFilterHelper) (bv : BitVector) (hclear : bv.countSetBits = 0)
    (hshort : bv.size < h.current.length) : h.keepAtSet bv = none := by
  simp [keepAtSet, hclear, removeUnset_eq_none bv (Nat.zero_le _) (by simpa using hshort)]

theorem keepAtSet_reads_past_empty_vector :
    (⟨[]⟩ : BitVector).countSetBits = 0 ∧ (⟨[]⟩ : BitVector).size < [0].length ∧
      keepAtSet ⟨[0], [0]⟩ ⟨[]⟩ = none :=
  ⟨rfl, by decide, keepAtSet_reads_past_end ⟨[0], [0]⟩ ⟨[]⟩ rfl (by decide)⟩

theorem partitionLoop_eq (h : IndexFilterHelper) (hlen : h.current.length = h.global.length) :
    ∀ (bits : List Bool) (k : Nat) (s n : IndexFilterHelper), k + bits.length ≤ h.current.length →
      partitionLoop h (bits.enumFrom k) s n =
        some (⟨s.current ++ keepWhere true (h.current.drop k) bits,
            s.global ++ keepWhere true (h.global.drop k) bits⟩,
          ⟨n.current ++ keepWhere false (h.current.drop k) bits,
            n.global ++ keepWhere false (h.global.drop k) bits⟩)
  | [], _, _, _, _ => by simp [partitionLoop]
  | b :: bits, k, s, n, hk => by
    simp only [List.length_cons] at hk
    have hc : k < h.current.length := by omega
    have hg : k < h.global.length := by omega
    rw [List.drop_eq_getElem_cons hc, List.drop_eq_getElem_cons hg]
    simp only [List.enumFrom_cons, partitionLoop, pairAt, List.getElem?_eq_getElem hc,
      List.getElem?_eq_getElem hg, Option.bind_eq_bind, Option.some_bind]
    cases b <;> simp only [partitionLoop_eq h hlen bits (k + 1) _ _ (by omega), pushBack, keepWhere_cons,
      Option.pure_def, Option.some_bind, Bool.false_eq_true, Bool.true_eq_false, ↓reduceIte, List.append_assoc,
      List.singleton_append]

theorem partition_spec (h : IndexFilterHelper) (bv : BitVector) (hlen : h.current.length = h.global.length)
    (hbv : bv.size = h.current.length) :
    partitionLoop h bv.iterateAllBits ⟨[], []⟩ ⟨[], []⟩ = some (h.keep true bv, h.keep false bv) ∧
    partition h bv = some (h.keep true bv, h.keep false bv) ∧
    (∀ b, (h.keep b bv).current.length = (h.keep b bv).global.length ∧
      (h.keep b bv).pairs = keepWhere b h.pairs bv.bits) ∧
    ((h.keep true bv).pairs ++ (h.keep false bv).pairs).Perm h.pairs := by
  simp only [BitVector.size] at hbv
  have hloop : partitionLoop h bv.iterateAllBits ⟨[], []⟩ ⟨[], []⟩ = some (h.keep true bv, h.keep false bv) := by
    simpa [BitVector.iterateAllBits, List.enum, keep] using
      partitionLoop_eq h hlen bv.bits 0 ⟨[], []⟩ ⟨[], []⟩ (by omega)
  refine ⟨hloop, ?_, fun b => ⟨?_, pairs_keep h b bv⟩, ?_⟩
  · unfold partition
    split
    · next hz =>
      have hc := keepWhere_of_count_true_eq_zero h.current bv.bits hz (by omega)
      have hg := keepWhere_of_count_true_eq_zero h.global bv.bits hz (by omega)
      simp [keep, hc, hg]
    · exact hloop
  · simp [length_keepWhere _ _ _ hbv.symm, length_keepWhere _ _ _ (hlen.symm.trans hbv.symm)]
  · rw [pairs_keep, pairs_keep]
    exact keepWhere_perm _ _ (by simp [pairs, List.length_zip]; omega)

theorem partition_spec_on_three_pairs :
    (⟨[5, 6, 7], [0, 1, 2]⟩ : IndexFilterHelper).current.length =
        (⟨[5, 6, 7], [0, 1, 2]⟩ : IndexFilterHelper).global.length ∧
    (⟨[true, false, true]⟩ : BitVector).size = (⟨[5, 6, 7], [0, 1, 2]⟩ : IndexFilterHelper).current.length ∧
    partitionLoop ⟨[5, 6, 7], [0, 1, 2]⟩ (⟨[true, false, true]⟩ : BitVector).iterateAllBits ⟨[], []⟩ ⟨[], []⟩ =
        some ((⟨[5, 6, 7], [0, 1, 2]⟩ : IndexFilterHelper).keep true ⟨[true, false, true]⟩,
          (⟨[5, 6, 7], [0, 1, 2]⟩ : IndexFilterHelper).keep false ⟨[true, false, true]⟩) ∧
    partition ⟨[5, 6, 7], [0, 1, 2]⟩ ⟨[true, false, true]⟩ =
        some ((⟨[5, 6, 7], [0, 1, 2]⟩ : IndexFilterHelper).keep true ⟨[true, false, true]⟩,
          (⟨[5, 6, 7], [0, 1, 2]⟩ : IndexFilterHelper).keep false ⟨[true, false, true]⟩) ∧
    (∀ b, ((⟨[5, 6, 7], [0, 1, 2]⟩ : IndexFilterHelper).keep b ⟨[true, false, true]⟩).current.length =
        ((⟨[5, 6, 7], [0, 1, 2]⟩ : IndexFilterHelper).keep b ⟨[true, false, true]⟩).global.length ∧
      ((⟨[5, 6, 7], [0, 1, 2]⟩ : IndexFilterHelper).keep b ⟨[true, false, true]⟩).pairs =
        keepWhere b (⟨[5, 6, 7], [0, 1, 2]⟩ : IndexFilterHelper).pairs [true, false, true]) ∧
    (((⟨[5, 6, 7], [0, 1, 2]⟩ : IndexFilterHelper).keep true ⟨[true, false, true]⟩).pairs ++
      ((⟨[5, 6, 7], [0, 1, 2]⟩ : IndexFilterHelper).keep false ⟨[true, false, true]⟩).pairs).Perm
        (⟨[5, 6, 7], [0, 1, 2]⟩ : IndexFilterHelper).pairs :=
  ⟨rfl, rfl, partition_spec ⟨[5, 6, 7], [0, 1, 2]⟩ ⟨[true, false, true]⟩ rfl rfl⟩

theorem keepAtSet_ofPairs (ps : List (Nat × Nat)) (q : Nat → Bool) :
    (ofPairs ps).keepAtSet ⟨(ps.map Prod.fst).map q⟩ =
      some (ofPairs (ps.filter fun p => q p.1), (ps.filter fun p => !q p.1).length) := by
  rw [keepAtSet_eq _ _ (by simp) (by simp [BitVector.size])]
  simp only [keep, ofPairs_current, ofPairs_global, keepWhere_map, BitVector.countSetBits,
    List.map_map, List.length_map, keepWhere_map_self, length_sub_count_true_map]
  simp [ofPairs, Function.comp_def]

theorem partition_ofPairs (ps : List (Nat × Nat)) (q : Nat → Bool) :
    (ofPairs ps).partition ⟨(ps.map Prod.fst).map q⟩ =
      some (ofPairs (ps.filter fun p => q p.1), ofPairs (ps.filter fun p => !q p.1)) := by
  rw [(partition_spec _ _ (by simp) (by simp [BitVector.size])).2.1]
  simp [keep, keepWhere_map, keepWhere_map_self, ofPairs, Function.comp_def]

end IndexFilterHelper

end TraceProcessor
