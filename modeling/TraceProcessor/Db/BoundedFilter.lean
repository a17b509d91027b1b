import TraceProcessor.Db.Overlay
import Mathlib.Data.List.FinRange

namespace TraceProcessor

/-- `QueryExecutor::BoundedColumnFilter`. -/
def boundedColumnFilter (c : Constraint) (col : SimpleColumn) (rm : RowMap) : Option RowMap := do
  let first ← rm.get 0
  let last ← rm.get (rm.size - 1)
  let tableRange : Range := col.overlays.foldl (fun r overlay => overlay.mapToStorageRange r) ⟨first, last + 1⟩
  let filteredStorage := col.storage.linearSearch c.op c.value tableRange
  let filteredStorage ← (List.finRange col.overlays.length).foldlM
    (fun bv i => (col.overlays.get i.rev).mapToTableBitVector bv (filterOpToOverlayOp c.op))
    filteredStorage
  pure (.bitVector filteredStorage)

theorem foldlM_finRange_rev {α β : Type} (l : List α) (f : β → α → Option β) (b : β) :
    (List.finRange l.length).foldlM (fun acc i => f acc (l.get i.rev)) b = l.foldrM (fun a acc => f acc a) b := by
  have hmap : (List.finRange l.length).map (fun i => l.get i.rev) = l.reverse :=
    List.ext_get (by simp) fun k h1 h2 => by
      simp only [List.get_eq_getElem, List.getElem_map, List.getElem_reverse, List.getElem_finRange,
        Fin.val_rev, Fin.coe_cast]
      congr 1
      omega
  rw [← List.foldlM_map, hmap, List.foldlM_reverse]

section Bounded

variable {st : Storage} {sat : FilterOp → SqlValue → Nat → Bool} (c : Constraint)

theorem bounded_lift_spec {n : Nat} {ovs : List StorageOverlay} {ms : List OverlayMap}
    (hs : StackLawful st sat n ovs ms) (r : Range) :
    ∃ bv, ovs.foldrM (fun ov bv => ov.mapToTableBitVector bv (filterOpToOverlayOp c.op))
        (st.linearSearch c.op c.value (ovs.foldl (fun r ov => ov.mapToStorageRange r) r)) = some bv ∧
      bv.size = n ∧ ∀ i < n, r.contains i → bv.bits[i]? = some (rowSatAt sat c ms i) := by
  induction hs generalizing r with
  | storage hst =>
    refine ⟨_, rfl, by simp [hst.linearSearch], fun i hi hr => ?_⟩
    simp [hst.linearSearch, BitVector.getElem?_ofFn _ hi, hr, rowSatAt]
  | @overlay n n' ov m ovs ms hov _ ih =>
    obtain ⟨bv, hbv, hsize, hbits⟩ := ih (ov.mapToStorageRange r)
    refine ⟨_, by rw [List.foldrM_cons, List.foldl_cons, hbv, Option.bind_eq_bind, Option.some_bind,
      hov.mapToTableBitVector _ hsize], BitVector.size_ofFn _ _, fun i hi hr => ?_⟩
    rw [BitVector.getElem?_ofFn _ hi]
    cases hm : m.toInner i with
    | none => simp [rowSatAt, hm]
    | some j =>
      have hj := hbits j (hov.toInner_lt hi hm) (hov.mapToStorageRange hr hi hm)
      simp [rowSatAt, hm, List.getD_eq_getElem?_getD, hj]

theorem boundedColumnFilter_eq {col : SimpleColumn} {rm : RowMap} {first last : Nat}
    (hfirst : rm.get 0 = some first) (hlast : rm.get (rm.size - 1) = some last) :
    boundedColumnFilter c col rm = (col.overlays.foldrM
      (fun (ov : StorageOverlay) bv => ov.mapToTableBitVector bv (filterOpToOverlayOp c.op))
      (col.storage.linearSearch c.op c.value
        (col.overlays.foldl (fun r ov => ov.mapToStorageRange r) ⟨first, last + 1⟩))).map .bitVector := by
  simp only [boundedColumnFilter, hfirst, hlast, Option.bind_eq_bind, Option.some_bind]
  rw [foldlM_finRange_rev col.overlays (fun acc ov => ov.mapToTableBitVector acc (filterOpToOverlayOp c.op))]
  exact Option.map_eq_bind.symm

theorem boundedColumnFilter_spec {n : Nat} {ovs : List StorageOverlay} {ms : List OverlayMap}
    (hs : StackLawful st sat n ovs ms) {rm : RowMap} (hrm : rm.Valid n) (hne : rm.iterateRows ≠ []) :
    ∃ bv, boundedColumnFilter c ⟨ovs, st⟩ rm = some (.bitVector bv) ∧
      (rm.intersect (.bitVector bv)).iterateRows = rm.iterateRows.filter (rowSatAt sat c ms) := by
  have hlen : 0 < rm.iterateRows.length := List.length_pos.mpr hne
  obtain ⟨first, hfirst⟩ : ∃ a, rm.get 0 = some a := ⟨_, List.getElem?_eq_getElem hlen⟩
  obtain ⟨last, hlast⟩ : ∃ b, rm.get (rm.size - 1) = some b :=
    ⟨_, List.getElem?_eq_getElem (by simp only [RowMap.size]; omega)⟩
  obtain ⟨bv, hbv, -, hbits⟩ := bounded_lift_spec c hs ⟨first, last + 1⟩
  refine ⟨bv, by rw [boundedColumnFilter_eq c hfirst hlast, hbv]; rfl, ?_⟩
  simp only [RowMap.iterateRows_intersect, RowMap.iterateRows_bitVector]
  refine List.filter_congr fun r hr => ?_
  obtain ⟨h1, h2⟩ := hrm.first_le_last hr hfirst hlast
  have hr' := hbits r (hrm.2 r hr) (by simp [Range.contains]; omega)
  simp [BitVector.mem_iterateSetBits, hr']

end Bounded

end TraceProcessor
