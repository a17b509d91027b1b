import Mathlib.Data.List.Sort

namespace TraceProcessor

/-- Modelled from the spec: `BitVector` (§3, §4.5) is not under src/; a bit vector is its list
of bits, `size` its length, and `IsSet` past the end is a read of an absent bit. -/
structure BitVector where
  bits : List Bool
deriving DecidableEq, Repr

namespace BitVector

def size (bv : BitVector) : Nat := bv.bits.length

def countSetBits (bv : BitVector) : Nat := bv.bits.count true

def isSet (bv : BitVector) (i : Nat) : Option Bool := bv.bits[i]?

def iterateAllBits (bv : BitVector) : List (Nat × Bool) := bv.bits.enum

def setBitsFrom : Nat → List Bool → List Nat
  | _, [] => []
  | i, b :: bs => if b then i :: setBitsFrom (i + 1) bs else setBitsFrom (i + 1) bs

def iterateSetBits (bv : BitVector) : List Nat := setBitsFrom 0 bv.bits

def ofFn (n : Nat) (f : Nat → Bool) : BitVector := ⟨(List.range n).map f⟩

@[simp] theorem size_ofFn (n : Nat) (f : Nat → Bool) : (ofFn n f).size = n := by
  simp [ofFn, size]

theorem getElem?_ofFn {n i : Nat} (f : Nat → Bool) (h : i < n) : (ofFn n f).bits[i]? = some (f i) := by
  simp [ofFn, List.getElem?_range h]

theorem lt_of_mem_setBitsFrom {i j : Nat} {bs : List Bool} (h : j ∈ setBitsFrom i bs) :
    i ≤ j ∧ j < i + bs.length := by
  induction bs generalizing i with
  | nil => simp [setBitsFrom] at h
  | cons b bs ih =>
    simp only [setBitsFrom] at h
    split at h
    · rcases List.mem_cons.mp h with rfl | h
      · simp
      · have := ih h; simp only [List.length_cons]; omega
    · have := ih h; simp only [List.length_cons]; omega

theorem mem_setBitsFrom {i j : Nat} {bs : List Bool} :
    j ∈ setBitsFrom i bs ↔ i ≤ j ∧ bs[j - i]? = some true := by
  induction bs generalizing i with
  | nil => simp [setBitsFrom]
  | cons b bs ih =>
    rcases Nat.lt_or_ge j (i + 1) with hj | hj
    · have hn : j ∉ setBitsFrom (i + 1) bs := fun h => by have := lt_of_mem_setBitsFrom h; omega
      by_cases hij : i = j
      · subst hij; cases b <;> simp [setBitsFrom, hn]
      · have : ¬ i ≤ j := by omega
        cases b <;> simp [setBitsFrom, hn, hij, Ne.symm hij, this]
    · have hsub : j - i = (j - (i + 1)) + 1 := by omega
      have hne : j ≠ i := by omega
      cases b <;> simp [setBitsFrom, ih, hsub, hne, hj, show i ≤ j by omega]

theorem mem_iterateSetBits {bv : BitVector} {j : Nat} : j ∈ bv.iterateSetBits ↔ bv.bits[j]? = some true := by
  simp [iterateSetBits, mem_setBitsFrom]

end BitVector

variable {α β : Type}

def keepWhere (b : Bool) : List α → List Bool → List α
  | x :: xs, c :: cs => if c = b then x :: keepWhere b xs cs else keepWhere b xs cs
  | _, _ => []

@[simp] theorem keepWhere_nil_left (b : Bool) (cs : List Bool) : keepWhere b ([] : List α) cs = [] := by
  cases cs <;> rfl

@[simp] theorem keepWhere_nil_right (b : Bool) (xs : List α) : keepWhere b xs [] = [] := by
  cases xs <;> rfl

@[simp] theorem keepWhere_cons (b c : Bool) (x : α) (xs : List α) (cs : List Bool) :
    keepWhere b (x :: xs) (c :: cs) = if c = b then x :: keepWhere b xs cs else keepWhere b xs cs := rfl

theorem keepWhere_map (b : Bool) (f : α → β) (xs : List α) (cs : List Bool) :
    keepWhere b (xs.map f) cs = (keepWhere b xs cs).map f := by
  induction xs generalizing cs with
  | nil => simp
  | cons x xs ih => cases cs <;> simp [ih, apply_ite]

theorem keepWhere_zip (b : Bool) (xs : List α) (ys : List β) (cs : List Bool) :
    keepWhere b (xs.zip ys) cs = (keepWhere b xs cs).zip (keepWhere b ys cs) := by
  induction xs generalizing ys cs with
  | nil => simp
  | cons x xs ih =>
    cases ys with
    | nil => simp
    | cons y ys =>
      cases cs with
      | nil => simp
      | cons c cs => by_cases hc : c = b <;> simp [hc, ih]

theorem keepWhere_perm (xs : List α) (cs : List Bool) (h : xs.length ≤ cs.length) :
    (keepWhere true xs cs ++ keepWhere false xs cs).Perm xs := by
  induction xs generalizing cs with
  | nil => simp
  | cons x xs ih =>
    cases cs with
    | nil => simp at h
    | cons c cs =>
      have hp := ih cs (by simpa using h)
      cases c
      · simpa using List.perm_middle.trans (hp.cons x)
      · simpa using hp

theorem length_keepWhere (b : Bool) (xs : List α) (cs : List Bool) (h : xs.length = cs.length) :
    (keepWhere b xs cs).length = cs.count b := by
  induction xs generalizing cs with
  | nil => cases cs <;> simp_all
  | cons x xs ih =>
    cases cs with
    | nil => simp at h
    | cons c cs =>
      have := ih cs (by simpa using h)
      by_cases hc : c = b <;> simp [hc, this, List.count_cons, beq_iff_eq]

theorem keepWhere_map_self (b : Bool) (p : α → Bool) (xs : List α) :
    keepWhere b xs (xs.map p) = xs.filter (fun x => p x = b) := by
  induction xs with
  | nil => simp
  | cons x xs ih => by_cases hx : p x = b <;> simp [hx, ih, List.filter_cons]

theorem count_true_map (f : α → Bool) (l : List α) : (l.map f).count true = (l.filter f).length := by
  rw [List.count_eq_countP, List.countP_map, List.countP_eq_length_filter]
  simp [Function.comp_def]

theorem length_sub_count_true_map (f : α → Bool) (l : List α) :
    l.length - (l.map f).count true = (l.filter fun x => !f x).length := by
  rw [count_true_map, List.length_eq_countP_add_countP f, List.countP_eq_length_filter,
    List.countP_eq_length_filter]
  simp

theorem keepWhere_of_count_true_eq_zero (xs : List α) (cs : List Bool) (h : cs.count true = 0)
    (hl : xs.length ≤ cs.length) : keepWhere true xs cs = [] ∧ keepWhere false xs cs = xs := by
  induction xs generalizing cs with
  | nil => simp
  | cons x xs ih =>
    cases cs with
    | nil => simp at hl
    | cons c cs =>
      cases c
      · simpa using ih cs (by simpa using h) (by simpa using hl)
      · simp at h

end TraceProcessor
