import TraceProcessor.Db.BitVector

namespace TraceProcessor

/-- Modelled from the spec: `RowMap` (§3, §4.4) is not under src/; its three representations are
kept, `IterateRows` lists its rows in order and `Intersect` keeps the rows of the first map that
the second one holds. -/
inductive RowMap where
  | range (start stop : Nat)
  | bitVector (bv : BitVector)
  | indexVector (indices : List Nat)
deriving DecidableEq, Repr

namespace RowMap

def iterateRows : RowMap → List Nat
  | range a b => List.range' a (b - a)
  | bitVector bv => bv.iterateSetBits
  | indexVector l => l

def size (rm : RowMap) : Nat := rm.iterateRows.length

def empty (rm : RowMap) : Bool := rm.size == 0

def get (rm : RowMap) (i : Nat) : Option Nat := rm.iterateRows[i]?

def intersect (rm other : RowMap) : RowMap :=
  indexVector (rm.iterateRows.filter (· ∈ other.iterateRows))

/-- Modelled from the spec: the §3 row map invariant, rows ascending and below the row count. -/
def Valid (n : Nat) (rm : RowMap) : Prop :=
  rm.iterateRows.Sorted (· < ·) ∧ ∀ r ∈ rm.iterateRows, r < n

instance (n : Nat) (rm : RowMap) : Decidable (rm.Valid n) := inferInstanceAs (Decidable (_ ∧ _))

@[simp] theorem iterateRows_indexVector (l : List Nat) : (indexVector l).iterateRows = l := rfl

@[simp] theorem iterateRows_bitVector (bv : BitVector) : (bitVector bv).iterateRows = bv.iterateSetBits := rfl

@[simp] theorem iterateRows_intersect (rm other : RowMap) :
    (rm.intersect other).iterateRows = rm.iterateRows.filter (· ∈ other.iterateRows) := rfl

theorem valid_range (n : Nat) : (range 0 n).Valid n := by
  refine ⟨List.pairwise_lt_range' 0 n, fun r hr => ?_⟩
  simp only [iterateRows, List.mem_range'_1] at hr
  omega

theorem Valid.filter {n : Nat} {rm : RowMap} (h : rm.Valid n) (p : Nat → Bool) :
    (indexVector (rm.iterateRows.filter p)).Valid n :=
  ⟨h.1.filter p, fun r hr => h.2 r (List.mem_of_mem_filter hr)⟩

theorem Valid.of_iterateRows {n : Nat} {rm rm' : RowMap} {p : Nat → Bool} (h : rm.Valid n)
    (he : rm'.iterateRows = rm.iterateRows.filter p) : rm'.Valid n := by
  have := h.filter p
  rwa [Valid, iterateRows_indexVector, ← he] at this

theorem Valid.first_le_last {n : Nat} {rm : RowMap} (h : rm.Valid n) {r a b : Nat}
    (hr : r ∈ rm.iterateRows) (ha : rm.get 0 = some a) (hb : rm.get (rm.size - 1) = some b) :
    a ≤ r ∧ r ≤ b := by
  obtain ⟨k, hk, rfl⟩ := List.mem_iff_getElem.mp hr
  have hle := h.1.imp (fun {x y} (hxy : x < y) => Nat.le_of_lt hxy)
  simp only [get, size, List.getElem?_eq_getElem (by omega : 0 < rm.iterateRows.length),
    List.getElem?_eq_getElem (by omega : rm.iterateRows.length - 1 < rm.iterateRows.length),
    Option.some.injEq] at ha hb
  subst ha hb
  exact ⟨@List.Sorted.rel_get_of_le _ _ _ _ hle ⟨0, by omega⟩ ⟨k, hk⟩ (Nat.zero_le _),
    @List.Sorted.rel_get_of_le _ _ _ _ hle ⟨k, hk⟩ ⟨_, by omega⟩ (Nat.le_sub_one_of_lt hk)⟩

end RowMap

end TraceProcessor
