import TraceProcessor.Db.IndexFilterHelper
import TraceProcessor.Db.NullOverlay

namespace TraceProcessor

structure IndexedState where
  toFilter : IndexFilterHelper
  valid : List Nat
  countRemoved : Nat

def indexedOverlayStep (op : OverlayOp) (s : IndexedState) (overlay : StorageOverlay) :
    Option IndexedState :=
  let partition := overlay.isStorageLookupRequired op s.toFilter.current
  if partition.countSetBits = partition.size then
    some { s with toFilter := { s.toFilter with
      current := overlay.mapToStorageIndexVector s.toFilter.current } }
  else do
    let (storageLookup, noStorageLookup) ← s.toFilter.partition partition
    let validBv := overlay.indexSearch op noStorageLookup.current
    let (noStorageLookup, removed) ← noStorageLookup.keepAtSet validBv
    pure ⟨{ storageLookup with current := overlay.mapToStorageIndexVector storageLookup.current },
      s.valid ++ noStorageLookup.global, s.countRemoved + removed⟩

def indexedStorageStep (c : Constraint) (storage : Storage) (s : IndexedState) : Option IndexedState := do
  let matchedInStorage := storage.indexSearch c.op c.value s.toFilter.current
  let (toFilter, removed) ← s.toFilter.keepAtSet matchedInStorage
  pure ⟨toFilter, s.valid ++ toFilter.global, s.countRemoved + removed⟩

def indexedInit (rm : RowMap) : IndexedState := ⟨.ofIndices rm.iterateRows, [], 0⟩

def indexedRun (c : Constraint) (col : SimpleColumn) (rm : RowMap) : Option IndexedState := do
  let s ← col.overlays.foldlM (indexedOverlayStep (filterOpToOverlayOp c.op)) (indexedInit rm)
  indexedStorageStep c col.storage s

def indexedColumnFilter (c : Constraint) (col : SimpleColumn) (rm : RowMap) : Option RowMap := do
  let s ← indexedRun c col rm
  if rm.size = s.valid.length + s.countRemoved then
    pure (.indexVector (s.valid.insertionSort (· ≤ ·)))
  else none

open IndexFilterHelper

theorem filterMap_zip_of_isSome (f : Nat → Option Nat) :
    ∀ ps : List (Nat × Nat), (∀ p ∈ ps, (f p.1).isSome) →
      ((ps.map Prod.fst).filterMap f).zip (ps.map Prod.snd) = ps.filterMap (fun p => (f p.1).map (·, p.2)) ∧
      ((ps.map Prod.fst).filterMap f).length = ps.length
  | [], _ => by simp
  | p :: ps, h => by
    obtain ⟨j, hj⟩ := Option.isSome_iff_exists.mp (h p (List.mem_cons_self _ _))
    have ih := filterMap_zip_of_isSome f ps fun q hq => h q (List.mem_cons_of_mem _ hq)
    constructor
    · rw [List.map_cons, List.map_cons, List.filterMap_cons_some hj, List.zip_cons_cons, ih.1]
      simp [hj]
    · rw [List.map_cons, List.filterMap_cons_some hj, List.length_cons, List.length_cons, ih.2]

section Steps

variable {ov : StorageOverlay} {m : OverlayMap} {n n' : Nat} (op : OverlayOp)

theorem indexedOverlayStep_eq (hov : ov.Lawful m n n') (ps : List (Nat × Nat)) (valid : List Nat)
    (count : Nat) (hb : ∀ p ∈ ps, p.1 < n) :
    indexedOverlayStep op ⟨ofPairs ps, valid, count⟩ ov =
      some ⟨⟨((ps.filter fun p => (m.toInner p.1).isSome).map Prod.fst).filterMap m.toInner,
          (ps.filter fun p => (m.toInner p.1).isSome).map Prod.snd⟩,
        valid ++ ((ps.filter fun p => !(m.toInner p.1).isSome).filter fun p => m.verdict op p.1).map Prod.snd,
        count + ((ps.filter fun p => !(m.toInner p.1).isSome).filter fun p => !m.verdict op p.1).length⟩ := by
  have hlook : ov.isStorageLookupRequired op (ps.map Prod.fst) =
      ⟨(ps.map Prod.fst).map fun i => (m.toInner i).isSome⟩ :=
    hov.isStorageLookupRequired op (by simpa using hb)
  have hmap : ∀ qs : List (Nat × Nat), (∀ p ∈ qs, p ∈ ps ∧ (m.toInner p.1).isSome) →
      ov.mapToStorageIndexVector (qs.map Prod.fst) = (qs.map Prod.fst).filterMap m.toInner :=
    fun qs hqs => hov.mapToStorageIndexVector (by
      simpa using fun a b hab => ⟨hb _ (hqs _ hab).1, (hqs _ hab).2⟩)
  unfold indexedOverlayStep
  simp only [ofPairs_current, hlook]
  split
  · next hall =>
    simp only [BitVector.countSetBits, BitVector.size] at hall
    have hsome : ∀ p ∈ ps, (m.toInner p.1).isSome := fun p hp =>
      (List.count_eq_length.mp hall _ (List.mem_map_of_mem _ (List.mem_map_of_mem _ hp))).symm
    have hT : (ps.filter fun p => (m.toInner p.1).isSome) = ps := List.filter_eq_self.mpr hsome
    have hF : (ps.filter fun p => !(m.toInner p.1).isSome) = [] :=
      List.filter_eq_nil_iff.mpr fun p hp => by simp [hsome p hp]
    rw [hT, hF, hmap ps fun p hp => ⟨hp, hsome p hp⟩]
    simp
  · rw [partition_ofPairs]
    simp only [Option.bind_eq_bind, Option.some_bind, ofPairs_current]
    rw [hov.indexSearch op (by
      simpa using fun a b hab hnone => ⟨hb _ hab, by simpa using hnone⟩), keepAtSet_ofPairs]
    simp only [Option.some_bind, ofPairs_current, ofPairs_global]
    rw [hmap _ fun p hp => List.mem_filter.mp hp]
    rfl

theorem indexedStorageStep_eq {st : Storage} {sat : FilterOp → SqlValue → Nat → Bool} {n : Nat}
    (hst : st.Lawful n sat) (c : Constraint) (ps : List (Nat × Nat)) (valid : List Nat) (count : Nat)
    (hb : ∀ p ∈ ps, p.1 < n) :
    indexedStorageStep c st ⟨ofPairs ps, valid, count⟩ =
      some ⟨ofPairs (ps.filter fun p => sat c.op c.value p.1),
        valid ++ (ps.filter fun p => sat c.op c.value p.1).map Prod.snd,
        count + (ps.filter fun p => !sat c.op c.value p.1).length⟩ := by
  simp only [indexedStorageStep, ofPairs_current]
  rw [hst.indexSearch c.op c.value (by simpa using hb), keepAtSet_ofPairs]
  rfl

end Steps

theorem perm_regroup {G V Rm T K D R : List Nat} (h : (G ++ V ++ Rm).Perm R) (hG : (T ++ K ++ D).Perm G) :
    (T ++ (V ++ K) ++ (Rm ++ D)).Perm R := by
  rw [List.perm_iff_count] at h hG ⊢
  intro a
  have h1 := h a
  have h2 := hG a
  simp only [List.count_append] at h1 h2 ⊢
  omega

theorem filter_perm_three {α : Type} (p q : α → Bool) (ps : List α) :
    (ps.filter p ++ (ps.filter fun x => !p x).filter q ++
      (ps.filter fun x => !p x).filter fun x => !q x).Perm ps := by
  rw [List.append_assoc]
  exact ((List.filter_append_perm q _).append_left _).trans (List.filter_append_perm p ps)

section Invariant

variable (sat : FilterOp → SqlValue → Nat → Bool) (c : Constraint) (R : List Nat)

structure IndexedInv (pre rest : List OverlayMap) (s : IndexedState) : Prop where
  length_eq : s.toFilter.current.length = s.toFilter.global.length
  current_reach : ∀ p ∈ s.toFilter.pairs, reach pre p.2 = some p.1
  accounted : ∃ removed : List Nat, removed.length = s.countRemoved ∧
    (s.toFilter.global ++ s.valid ++ removed).Perm R ∧ ∀ g ∈ removed, rowSatAt sat c (pre ++ rest) g = false
  valid_sat : ∀ g ∈ s.valid, rowSatAt sat c (pre ++ rest) g = true

variable {sat c R}

theorem IndexedInv.eq_ofPairs {pre rest : List OverlayMap} {s : IndexedState}
    (hinv : IndexedInv sat c R pre rest s) : s = ⟨ofPairs s.toFilter.pairs, s.valid, s.countRemoved⟩ := by
  rw [ofPairs_pairs hinv.length_eq]

theorem indexedInv_step {ov : StorageOverlay} {m : OverlayMap} {n n' : Nat} (hov : ov.Lawful m n n')
    {pre rest : List OverlayMap} {s : IndexedState} (hinv : IndexedInv sat c R pre (m :: rest) s)
    (hb : ∀ x ∈ s.toFilter.current, x < n) :
    ∃ s', indexedOverlayStep (filterOpToOverlayOp c.op) s ov = some s' ∧
      IndexedInv sat c R (pre ++ [m]) rest s' ∧ ∀ x ∈ s'.toFilter.current, x < n' := by
  obtain ⟨removed, hlen, hperm, hrem⟩ := hinv.accounted
  have hbp : ∀ p ∈ s.toFilter.pairs, p.1 < n := fun p hp => hb _ (List.of_mem_zip hp).1
  have hdecided : ∀ p ∈ s.toFilter.pairs.filter (fun p => !(m.toInner p.1).isSome),
      rowSatAt sat c (pre ++ [m] ++ rest) p.2 = m.verdict (filterOpToOverlayOp c.op) p.1 := fun p hp => by
    obtain ⟨hp, hn⟩ := List.mem_filter.mp hp
    rw [List.append_assoc, List.singleton_append, rowSatAt_append sat c _ (hinv.current_reach p hp)]
    simp [rowSatAt, Option.not_isSome_iff_eq_none.mp (by simpa using hn)]
  rw [hinv.eq_ofPairs, indexedOverlayStep_eq _ hov _ _ _ hbp]
  have hT : ∀ p ∈ s.toFilter.pairs.filter (fun p => (m.toInner p.1).isSome), (m.toInner p.1).isSome :=
    fun p hp => (List.mem_filter.mp hp).2
  obtain ⟨hzip, hlen'⟩ := filterMap_zip_of_isSome m.toInner _ hT
  refine ⟨_, rfl, ⟨by simp [hlen'], ?_, ?_, ?_⟩, ?_⟩
  · intro p hp
    simp only [pairs_mk, hzip, List.mem_filterMap, Option.map_eq_some'] at hp
    obtain ⟨q, hq, j, hj, rfl⟩ := hp
    simp [reach_append, hinv.current_reach q (List.mem_filter.mp hq).1, reach, hj]
  · refine ⟨removed ++ ((s.toFilter.pairs.filter fun p => !(m.toInner p.1).isSome).filter
      fun p => !m.verdict (filterOpToOverlayOp c.op) p.1).map Prod.snd, by simp [hlen], ?_, ?_⟩
    · refine perm_regroup hperm ?_
      simpa [IndexFilterHelper.pairs, List.map_snd_zip _ _ hinv.length_eq.ge] using
        (filter_perm_three (fun p => (m.toInner p.1).isSome) (fun p => m.verdict (filterOpToOverlayOp c.op) p.1)
          s.toFilter.pairs).map Prod.snd
    · intro g hg
      rcases List.mem_append.mp hg with hg | hg
      · simpa [List.append_assoc] using hrem g hg
      · obtain ⟨p, hp, rfl⟩ := List.mem_map.mp hg
        obtain ⟨hp, hv⟩ := List.mem_filter.mp hp
        rw [hdecided p hp]
        simpa using hv
  · intro g hg
    rcases List.mem_append.mp hg with hg | hg
    · simpa [List.append_assoc] using hinv.valid_sat g hg
    · obtain ⟨p, hp, rfl⟩ := List.mem_map.mp hg
      obtain ⟨hp, hv⟩ := List.mem_filter.mp hp
      rw [hdecided p hp, hv]
  · intro x hx
    obtain ⟨a, ha, hax⟩ := List.mem_filterMap.mp hx
    obtain ⟨p, hp, rfl⟩ := List.mem_map.mp ha
    exact hov.toInner_lt (hbp p (List.mem_filter.mp hp).1) hax

theorem indexedInv_take {st : Storage} {n : Nat} {ovs : List StorageOverlay} {ms : List OverlayMap}
    (hs : StackLawful st sat n ovs ms) :
    ∀ {pre : List OverlayMap} {s : IndexedState}, IndexedInv sat c R pre ms s →
      (∀ x ∈ s.toFilter.current, x < n) → ∀ k ≤ ovs.length,
        ∃ s', (ovs.take k).foldlM (indexedOverlayStep (filterOpToOverlayOp c.op)) s = some s' ∧
          IndexedInv sat c R (pre ++ ms.take k) (ms.drop k) s' ∧
          ∃ n', StackLawful st sat n' (ovs.drop k) (ms.drop k) ∧ ∀ x ∈ s'.toFilter.current, x < n' := by
  induction hs with
  | @storage n hst =>
    intro pre s hinv hb k hk
    obtain rfl : k = 0 := by simpa using hk
    exact ⟨s, rfl, by simpa using hinv, n, .storage hst, hb⟩
  | overlay hov hs' ih =>
    intro pre s hinv hb k hk
    cases k with
    | zero => exact ⟨s, rfl, by simpa using hinv, _, .overlay hov hs', hb⟩
    | succ k =>
      obtain ⟨s1, hs1, hinv1, hb1⟩ := indexedInv_step hov hinv hb
      obtain ⟨s', hs', hinv', rest⟩ := ih hinv1 hb1 k (by simpa using hk)
      exact ⟨s', by simp [hs1, hs'], by simpa using hinv', rest⟩

theorem perm_filter_of_split {V D R : List Nat} {p : Nat → Bool} (h : (V ++ D).Perm R)
    (hV : ∀ x ∈ V, p x = true) (hD : ∀ x ∈ D, p x = false) : V.Perm (R.filter p) := by
  have hV' : V.filter p = V := List.filter_eq_self.mpr hV
  have hD' : D.filter p = [] := List.filter_eq_nil_iff.mpr fun x hx => by simp [hD x hx]
  simpa [List.filter_append, hV', hD'] using h.filter p

theorem indexedInv_storage {st : Storage} {n : Nat} (hst : st.Lawful n sat) {pre : List OverlayMap}
    {s : IndexedState} (hinv : IndexedInv sat c R pre [] s) (hb : ∀ x ∈ s.toFilter.current, x < n) :
    ∃ s', indexedStorageStep c st s = some s' ∧ R.length = s'.valid.length + s'.countRemoved ∧
      s'.valid.Perm (R.filter (rowSatAt sat c pre)) := by
  obtain ⟨removed, hlen, hperm, hrem⟩ := hinv.accounted
  have hbp : ∀ p ∈ s.toFilter.pairs, p.1 < n := fun p hp => hb _ (List.of_mem_zip hp).1
  have hsat : ∀ p ∈ s.toFilter.pairs, rowSatAt sat c pre p.2 = sat c.op c.value p.1 := fun p hp => by
    simpa [rowSatAt] using rowSatAt_append sat c [] (hinv.current_reach p hp)
  rw [hinv.eq_ofPairs, indexedStorageStep_eq hst c _ _ _ hbp]
  have hsplit := @perm_regroup _ _ _ [] _ _ _ hperm (by
    simpa [IndexFilterHelper.pairs, List.map_snd_zip _ _ hinv.length_eq.ge] using
      (List.filter_append_perm (fun p => sat c.op c.value p.1) s.toFilter.pairs).map Prod.snd)
  rw [List.nil_append] at hsplit
  refine ⟨_, rfl, by simpa [hlen, Nat.add_assoc] using hsplit.length_eq.symm, perm_filter_of_split hsplit ?_ ?_⟩
  · intro g hg
    rcases List.mem_append.mp hg with hg | hg
    · simpa using hinv.valid_sat g hg
    · obtain ⟨p, hp, rfl⟩ := List.mem_map.mp hg
      exact (hsat p (List.mem_filter.mp hp).1).trans (List.mem_filter.mp hp).2
  · intro g hg
    rcases List.mem_append.mp hg with hg | hg
    · simpa using hrem g hg
    · obtain ⟨p, hp, rfl⟩ := List.mem_map.mp hg
      simpa [hsat p (List.mem_filter.mp hp).1] using (List.mem_filter.mp hp).2

end Invariant

theorem fst_eq_snd_of_mem_zip_self {l : List Nat} {p : Nat × Nat} (h : p ∈ l.zip l) : p.1 = p.2 := by
  induction l with
  | nil => simp at h
  | cons a l ih =>
    rcases List.mem_cons.mp h with rfl | h
    · rfl
    · exact ih h

section Column

variable {st : Storage} {sat : FilterOp → SqlValue → Nat → Bool} (c : Constraint)

theorem indexedInv_init (ms : List OverlayMap) (rm : RowMap) :
    IndexedInv sat c rm.iterateRows [] ms (indexedInit rm) where
  length_eq := rfl
  current_reach p hp := by simp [reach, fst_eq_snd_of_mem_zip_self hp]
  accounted := ⟨[], rfl, by simp [indexedInit, IndexFilterHelper.ofIndices], by simp⟩
  valid_sat g hg := by simp [indexedInit] at hg

theorem indexedRun_spec {n : Nat} {ovs : List StorageOverlay} {ms : List OverlayMap}
    (hs : StackLawful st sat n ovs ms) {rm : RowMap} (hrm : rm.Valid n) :
    ∃ s, indexedRun c ⟨ovs, st⟩ rm = some s ∧ rm.size = s.valid.length + s.countRemoved ∧
      s.valid.insertionSort (· ≤ ·) = rm.iterateRows.filter (rowSatAt sat c ms) := by
  obtain ⟨s1, hs1, hinv, n', hs', hb⟩ :=
    indexedInv_take hs (indexedInv_init c ms rm) hrm.2 ovs.length le_rfl
  have hlen := hs.length_eq
  rw [List.drop_length, List.drop_eq_nil_of_le hlen.ge] at hs'
  rw [List.take_length] at hs1
  rw [List.take_of_length_le hlen.ge, List.drop_eq_nil_of_le hlen.ge, List.nil_append] at hinv
  cases hs' with
  | storage hst =>
    obtain ⟨s, hs, hlen, hperm⟩ := indexedInv_storage hst hinv hb
    exact ⟨s, by simp [indexedRun, hs1, hs], hlen,
      List.eq_of_perm_of_sorted ((List.perm_insertionSort _ _).trans hperm) (List.sorted_insertionSort _ _)
        ((hrm.1.filter _).imp Nat.le_of_lt)⟩

theorem indexedColumnFilter_spec {n : Nat} {ovs : List StorageOverlay} {ms : List OverlayMap}
    (hs : StackLawful st sat n ovs ms) {rm : RowMap} (hrm : rm.Valid n) :
    indexedColumnFilter c ⟨ovs, st⟩ rm = some (.indexVector (rm.iterateRows.filter (rowSatAt sat c ms))) := by
  obtain ⟨s, hs, hlen, hsorted⟩ := indexedRun_spec c hs hrm
  simp [indexedColumnFilter, hs, hlen, hsorted]

theorem indexedColumnFilter_invariant {n : Nat} {ovs : List StorageOverlay} {ms : List OverlayMap}
    (hs : StackLawful st sat n ovs ms) {rm : RowMap} (hrm : rm.Valid n) :
    (∀ k ≤ ovs.length, ∃ s,
      (ovs.take k).foldlM (indexedOverlayStep (filterOpToOverlayOp c.op)) (indexedInit rm) = some s ∧
        IndexedInv sat c rm.iterateRows (ms.take k) (ms.drop k) s) ∧
    ∃ s, indexedRun c ⟨ovs, st⟩ rm = some s ∧ rm.size = s.valid.length + s.countRemoved ∧
      s.valid.insertionSort (· ≤ ·) = rm.iterateRows.filter (rowSatAt sat c ms) ∧
      (s.valid.insertionSort (· ≤ ·)).Sorted (· < ·) ∧
      indexedColumnFilter c ⟨ovs, st⟩ rm = some (.indexVector (s.valid.insertionSort (· ≤ ·))) ∧
      (RowMap.indexVector (s.valid.insertionSort (· ≤ ·))).Valid n := by
  refine ⟨fun k hk => ?_, ?_⟩
  · obtain ⟨s, hs1, hinv, -⟩ := indexedInv_take hs (indexedInv_init c ms rm) hrm.2 k hk
    exact ⟨s, hs1, by simpa using hinv⟩
  · obtain ⟨s, h, hlen, hsorted⟩ := indexedRun_spec c hs hrm
    have hvalid := hrm.filter (rowSatAt sat c ms)
    rw [← hsorted] at hvalid
    exact ⟨s, h, hlen, hsorted, hvalid.1, by simp [indexedColumnFilter, h, hlen], hvalid⟩

theorem indexedColumnFilter_invariant_on_null_column :
    StackLawful scenarioStorage.toStorage scenarioStorage.elementMatches 4
      [scenarioOverlay.toStorageOverlay] [scenarioOverlay.overlayMap] ∧ (RowMap.range 0 4).Valid 4 ∧
    (∀ k ≤ 1, ∃ s, ([scenarioOverlay.toStorageOverlay].take k).foldlM (indexedOverlayStep .other)
        (indexedInit (.range 0 4)) = some s ∧
      IndexedInv scenarioStorage.elementMatches ⟨0, .eq, .long 9⟩ [0, 1, 2, 3]
        ([scenarioOverlay.overlayMap].take k) ([scenarioOverlay.overlayMap].drop k) s) ∧
    ∃ s, indexedRun ⟨0, .eq, .long 9⟩ ⟨[scenarioOverlay.toStorageOverlay], scenarioStorage.toStorage⟩
        (.range 0 4) = some s ∧ 4 = s.valid.length + s.countRemoved ∧
      s.valid.insertionSort (· ≤ ·) =
        [0, 1, 2, 3].filter (rowSatAt scenarioStorage.elementMatches ⟨0, .eq, .long 9⟩ [scenarioOverlay.overlayMap]) ∧
      (s.valid.insertionSort (· ≤ ·)).Sorted (· < ·) ∧
      indexedColumnFilter ⟨0, .eq, .long 9⟩ ⟨[scenarioOverlay.toStorageOverlay], scenarioStorage.toStorage⟩
        (.range 0 4) = some (.indexVector (s.valid.insertionSort (· ≤ ·))) ∧
      (RowMap.indexVector (s.valid.insertionSort (· ≤ ·))).Valid 4 :=
  ⟨scenario_stackLawful, RowMap.valid_range 4,
    indexedColumnFilter_invariant ⟨0, .eq, .long 9⟩ scenario_stackLawful (RowMap.valid_range 4)⟩

end Column

end TraceProcessor
