import TraceProcessor.Db.BoundedFilter
import TraceProcessor.Db.IndexedFilter

namespace TraceProcessor

/-- `QueryExecutor::FilterColumn`. For sizes and ranges below `2^32` the double comparison
`size / range_size < 0.5` is exact, so it is written over `Nat`. -/
def filterColumn (c : Constraint) (col : SimpleColumn) (rm : RowMap) : Option RowMap :=
  if rm.empty then some rm
  else do
    let rmFirst ← rm.get 0
    let rmLast ← rm.get (rm.size - 1)
    let rangeSize := rmLast - rmFirst
    if rm.size < 1024 ∧ 2 * rm.size < rangeSize then indexedColumnFilter c col rm
    else do
      let bounded ← boundedColumnFilter c col rm
      pure (rm.intersect bounded)

section Executor

variable {st : Storage} {sat : FilterOp → SqlValue → Nat → Bool} (c : Constraint)

theorem filterColumn_eq_filter {n : Nat} {ovs : List StorageOverlay} {ms : List OverlayMap}
    (hs : StackLawful st sat n ovs ms) {rm : RowMap} (hrm : rm.Valid n) :
    ∃ rm', filterColumn c ⟨ovs, st⟩ rm = some rm' ∧
      rm'.iterateRows = rm.iterateRows.filter (rowSatAt sat c ms) := by
  unfold filterColumn
  split
  · next hempty =>
    have : rm.iterateRows = [] := by simpa [RowMap.empty, RowMap.size] using hempty
    exact ⟨rm, rfl, by simp [this]⟩
  · next hne =>
    have hne : rm.iterateRows ≠ [] := by simpa [RowMap.empty, RowMap.size] using hne
    have hlen : 0 < rm.iterateRows.length := List.length_pos.mpr hne
    obtain ⟨first, hfirst⟩ : ∃ a, rm.get 0 = some a := ⟨_, List.getElem?_eq_getElem hlen⟩
    obtain ⟨last, hlast⟩ : ∃ b, rm.get (rm.size - 1) = some b :=
      ⟨_, List.getElem?_eq_getElem (by simp only [RowMap.size]; omega)⟩
    simp only [hfirst, hlast, Option.bind_eq_bind, Option.some_bind]
    split
    · exact ⟨_, indexedColumnFilter_spec c hs hrm, rfl⟩
    · obtain ⟨bv, hb, hrows⟩ := boundedColumnFilter_spec c hs hrm hne
      exact ⟨_, by simp [hb], hrows⟩

theorem filterColumn_eq_filter_on_null_column :
    StackLawful scenarioStorage.toStorage scenarioStorage.elementMatches 4
      [scenarioOverlay.toStorageOverlay] [scenarioOverlay.overlayMap] ∧ (RowMap.range 0 4).Valid 4 ∧
    ∃ rm', filterColumn ⟨0, .isNull, .null⟩ ⟨[scenarioOverlay.toStorageOverlay], scenarioStorage.toStorage⟩
        (.range 0 4) = some rm' ∧
      rm'.iterateRows = [0, 1, 2, 3].filter
        (rowSatAt scenarioStorage.elementMatches ⟨0, .isNull, .null⟩ [scenarioOverlay.overlayMap]) :=
  ⟨scenario_stackLawful, RowMap.valid_range 4,
    filterColumn_eq_filter ⟨0, .isNull, .null⟩ scenario_stackLawful (RowMap.valid_range 4)⟩

example : (filterColumn ⟨0, .isNull, .null⟩ ⟨[scenarioOverlay.toStorageOverlay], scenarioStorage.toStorage⟩
    (.range 0 4)).map RowMap.iterateRows = some [1, 3] := by decide

example : (filterColumn ⟨0, .eq, .long 9⟩ ⟨[scenarioOverlay.toStorageOverlay], scenarioStorage.toStorage⟩
    (.range 0 4)).map RowMap.iterateRows = some [2] := by decide

theorem bounded_inter_eq_indexed {n : Nat} {ovs : List StorageOverlay} {ms : List OverlayMap}
    (hs : StackLawful st sat n ovs ms) {rm : RowMap} (hrm : rm.Valid n) (hne : rm.iterateRows ≠ []) :
    ∃ b i, boundedColumnFilter c ⟨ovs, st⟩ rm = some b ∧ indexedColumnFilter c ⟨ovs, st⟩ rm = some i ∧
      (rm.intersect b).iterateRows = i.iterateRows := by
  obtain ⟨bv, hb, hrows⟩ := boundedColumnFilter_spec c hs hrm hne
  exact ⟨_, _, hb, indexedColumnFilter_spec c hs hrm, hrows⟩

theorem bounded_inter_eq_indexed_on_null_column :
    StackLawful scenarioStorage.toStorage scenarioStorage.elementMatches 4
      [scenarioOverlay.toStorageOverlay] [scenarioOverlay.overlayMap] ∧ (RowMap.range 0 4).Valid 4 ∧
    (RowMap.range 0 4).iterateRows ≠ [] ∧
    ∃ b i, boundedColumnFilter ⟨0, .eq, .long 9⟩ ⟨[scenarioOverlay.toStorageOverlay], scenarioStorage.toStorage⟩
        (.range 0 4) = some b ∧
      indexedColumnFilter ⟨0, .eq, .long 9⟩ ⟨[scenarioOverlay.toStorageOverlay], scenarioStorage.toStorage⟩
        (.range 0 4) = some i ∧
      ((RowMap.range 0 4).intersect b).iterateRows = i.iterateRows :=
  ⟨scenario_stackLawful, RowMap.valid_range 4, by decide,
    bounded_inter_eq_indexed ⟨0, .eq, .long 9⟩ scenario_stackLawful (RowMap.valid_range 4) (by decide)⟩

end Executor

end TraceProcessor
