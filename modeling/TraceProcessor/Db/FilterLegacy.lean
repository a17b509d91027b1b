import TraceProcessor.Db.QueryExecutor

namespace TraceProcessor

inductive ColumnType where
  | int32 | uint32 | int64 | double | string | id | dummy
deriving DecidableEq, Repr

def ColumnType.toSqlValueType : ColumnType → SqlValueType
  | .int32 | .uint32 | .int64 | .id => .long
  | .double => .double
  | .string => .string
  | .dummy => .null

/-- Modelled from the spec: `Column` and its `storage_base()` are not under src/ (§4.7, §6); the
fields `FilterLegacy` reads. `storage_base()` has a slot per row and holds the values of the
non-null rows of a nullable column, of every row of any other column. -/
structure Column where
  colType : ColumnType
  isSorted : Bool
  isDense : Bool
  isNullable : Bool
  storageData : List SqlValue
  storageSize : Nat
  storageBv : BitVector
  rowMapSize : Nat
  nullable_layout : isNullable = true → storageBv.size = storageSize ∧ storageData.length = storageBv.countSetBits
  dense_layout : isNullable = false → storageData.length = storageSize

/-- Modelled from the spec: `Table` is not under src/; every column's row map spans its rows. -/
structure Table where
  columns : List Column
  rowCount : Nat
  rowMapSize_eq : ∀ col ∈ columns, col.rowMapSize = rowCount

def Column.type (col : Column) : SqlValueType := col.colType.toSqlValueType

/-- The columns loop of `QueryExecutor::FilterLegacy`, for one column. -/
def buildStorage (col : Column) : Option Storage × Option StorageOverlay :=
  let invalidColType := col.colType = .string ∨ col.colType = .dummy ∨ col.colType = .id
  if invalidColType ∨ col.isSorted ∨ col.isDense then (none, none)
  else (some (NumericStorage.toStorage ⟨col.storageData, col.storageSize⟩),
    if col.isNullable then some (NullOverlay.toStorageOverlay ⟨col.storageBv⟩) else none)

def buildStorages (columns : List Column) : List (Option Storage) × List (Option StorageOverlay) :=
  columns.foldl (fun acc col => (acc.1 ++ [(buildStorage col).1], acc.2 ++ [(buildStorage col).2])) ([], [])

section Legacy

variable (filterInto : Column → FilterOp → SqlValue → RowMap → RowMap)

/-- The constraints loop of `QueryExecutor::FilterLegacy`, for one constraint. -/
def filterLegacyStep (table : Table) (storages : List (Option Storage))
    (nullOverlays : List (Option StorageOverlay)) (rm : RowMap) (c : Constraint) : Option RowMap := do
  let col ← table.columns[c.colIdx]?
  let storage ← storages[c.colIdx]?
  let mismatchedColType := col.type ≠ c.value.type
  let hasSelector := storage.isNone ∨ col.rowMapSize ≠ col.storageSize
  match storage with
  | some s =>
    if mismatchedColType ∨ hasSelector then pure (filterInto col c.op c.value rm)
    else do
      let nullOverlay ← nullOverlays[c.colIdx]?
      filterColumn c ⟨nullOverlay.toList, s⟩ rm
  | none => pure (filterInto col c.op c.value rm)

/-- `QueryExecutor::FilterLegacy`, with `Column::FilterInto` as `filterInto`. -/
def filterLegacy (table : Table) (cVec : List Constraint) : Option RowMap :=
  let (storages, nullOverlays) := buildStorages table.columns
  cVec.foldlM (filterLegacyStep filterInto table storages nullOverlays) (.range 0 table.rowCount)

end Legacy

theorem buildStorages_eq (columns : List Column) :
    buildStorages columns = (columns.map fun col => (buildStorage col).1, columns.map fun col => (buildStorage col).2) := by
  suffices ∀ acc : List (Option Storage) × List (Option StorageOverlay),
      columns.foldl (fun acc col => (acc.1 ++ [(buildStorage col).1], acc.2 ++ [(buildStorage col).2])) acc =
        (acc.1 ++ columns.map fun col => (buildStorage col).1, acc.2 ++ columns.map fun col => (buildStorage col).2) by
    simpa using this ([], [])
  induction columns with
  | nil => simp
  | cons col columns ih => intro acc; simp [ih]

/-- Modelled from the spec: the constraints §4.7 sends to the legacy filter, for a string, dummy
or id column, a sorted or dense column, a mismatched value type or a row-map selector. -/
def legacyRouted (col : Column) (c : Constraint) : Bool :=
  col.colType = .string || col.colType = .dummy || col.colType = .id || col.isSorted || col.isDense ||
    col.type ≠ c.value.type || col.rowMapSize ≠ col.storageSize

def Column.overlayMaps (col : Column) : List OverlayMap :=
  if col.isNullable then [NullOverlay.overlayMap ⟨col.storageBv⟩] else []

def constraintSet (legacySet : Column → FilterOp → SqlValue → Nat → Bool) (table : Table) (c : Constraint)
    (r : Nat) : Bool :=
  match table.columns[c.colIdx]? with
  | some col =>
    if legacyRouted col c then legacySet col c.op c.value r
    else rowSatAt (NumericStorage.elementMatches ⟨col.storageData, col.storageSize⟩) c col.overlayMaps r
  | none => false

theorem buildStorage_of_eligible {col : Column}
    (h : ¬ (col.colType = .string ∨ col.colType = .dummy ∨ col.colType = .id ∨ col.isSorted ∨ col.isDense)) :
    buildStorage col = (some (NumericStorage.toStorage ⟨col.storageData, col.storageSize⟩),
      if col.isNullable then some (NullOverlay.toStorageOverlay ⟨col.storageBv⟩) else none) := by
  simp only [buildStorage, or_assoc]
  rw [if_neg h]

theorem buildStorage_of_ineligible {col : Column}
    (h : col.colType = .string ∨ col.colType = .dummy ∨ col.colType = .id ∨ col.isSorted ∨ col.isDense) :
    buildStorage col = (none, none) := by
  simp only [buildStorage, or_assoc]
  rw [if_pos h]

theorem legacyRouted_eq_false {col : Column} {c : Constraint} :
    legacyRouted col c = false ↔
      ¬ (col.colType = .string ∨ col.colType = .dummy ∨ col.colType = .id ∨ col.isSorted ∨ col.isDense) ∧
        col.type = c.value.type ∧ col.rowMapSize = col.storageSize := by
  simp [legacyRouted, and_assoc]

theorem column_stackLawful (col : Column)
    (hfit : col.isNullable = true → col.storageBv.countSetBits = col.storageSize) :
    StackLawful (NumericStorage.toStorage ⟨col.storageData, col.storageSize⟩)
      (NumericStorage.elementMatches ⟨col.storageData, col.storageSize⟩) col.storageSize
      (if col.isNullable then some (NullOverlay.toStorageOverlay ⟨col.storageBv⟩) else none).toList
      col.overlayMaps := by
  cases hn : col.isNullable
  · simpa [Column.overlayMaps, hn] using StackLawful.storage (NumericStorage.lawful ⟨col.storageData, col.storageSize⟩)
  · have hst : (NumericStorage.toStorage ⟨col.storageData, col.storageSize⟩).Lawful col.storageBv.countSetBits
        (NumericStorage.elementMatches ⟨col.storageData, col.storageSize⟩) := by
      rw [hfit hn]; exact NumericStorage.lawful _
    simpa [Column.overlayMaps, hn, (col.nullable_layout hn).1] using
      StackLawful.overlay (NullOverlay.lawful ⟨col.storageBv⟩) (StackLawful.storage hst)

theorem filterColumn_range (c : Constraint) (col : SimpleColumn) {n : Nat} (hn : 0 < n) :
    filterColumn c col (.range 0 n) = (boundedColumnFilter c col (.range 0 n)).map (RowMap.range 0 n).intersect := by
  have hrows : (RowMap.range 0 n).iterateRows = List.range' 0 n := by simp [RowMap.iterateRows]
  have hsize : (RowMap.range 0 n).size = n := by simp [RowMap.size, hrows]
  have hget : ∀ i < n, (RowMap.range 0 n).get i = some i := fun i hi => by
    simp [RowMap.get, hrows, List.getElem?_range', hi]
  simp only [filterColumn, RowMap.empty, hsize, hget 0 hn, hget (n - 1) (by omega), Option.bind_eq_bind,
    Option.some_bind]
  rw [if_neg (by simp; omega), if_neg (by omega)]
  cases boundedColumnFilter c col (.range 0 n) <;> rfl

theorem boundedColumnFilter_of_size_ne (c : Constraint) (o : NullOverlay) (s : NumericStorage) {rm : RowMap}
    {first last : Nat} (hfirst : rm.get 0 = some first) (hlast : rm.get (rm.size - 1) = some last)
    (hsize : s.size ≠ o.nonNull.countSetBits) :
    boundedColumnFilter c ⟨[o.toStorageOverlay], s.toStorage⟩ rm = none := by
  rw [boundedColumnFilter_eq c hfirst hlast]
  simp [NullOverlay.toStorageOverlay, NumericStorage.toStorage, BitVector.size_ofFn, hsize]

section Legacy

variable {filterInto : Column → FilterOp → SqlValue → RowMap → RowMap}
  {legacySet : Column → FilterOp → SqlValue → Nat → Bool}

theorem filterLegacyStep_spec
    (hF : ∀ col op v rm, (filterInto col op v rm).iterateRows = rm.iterateRows.filter (legacySet col op v))
    (table : Table) {c : Constraint} (hidx : c.colIdx < table.columns.length)
    (hfit : ∀ col ∈ table.columns[c.colIdx]?, legacyRouted col c = false → col.isNullable = true →
      col.storageBv.countSetBits = col.storageSize)
    {rm : RowMap} (hrm : rm.Valid table.rowCount) :
    ∃ rm', filterLegacyStep filterInto table (buildStorages table.columns).1 (buildStorages table.columns).2 rm c =
      some rm' ∧ rm'.iterateRows = rm.iterateRows.filter (constraintSet legacySet table c) := by
  have hcol : table.columns[c.colIdx]? = some table.columns[c.colIdx] := List.getElem?_eq_getElem hidx
  have hrows := table.rowMapSize_eq _ (List.getElem_mem hidx)
  have hfit := hfit _ hcol
  generalize table.columns[c.colIdx] = col at hcol hrows hfit
  have hset : constraintSet legacySet table c = fun r => if legacyRouted col c then legacySet col c.op c.value r
      else rowSatAt (NumericStorage.elementMatches ⟨col.storageData, col.storageSize⟩) c col.overlayMaps r :=
    funext fun r => by simp [constraintSet, hcol]
  rw [hset]
  simp only [filterLegacyStep, buildStorages_eq, List.getElem?_map, hcol, Option.bind_eq_bind,
    Option.some_bind, Option.map_some']
  by_cases he : col.colType = .string ∨ col.colType = .dummy ∨ col.colType = .id ∨ col.isSorted ∨ col.isDense
  · have hroute : legacyRouted col c = true := by
      by_contra h
      exact (legacyRouted_eq_false.mp (by simpa using h)).1 he
    simp [buildStorage_of_ineligible he, hF, hroute]
  · have hb := buildStorage_of_eligible he
    by_cases hr : col.type ≠ c.value.type ∨ col.rowMapSize ≠ col.storageSize
    · have hroute : legacyRouted col c = true := by
        by_contra h
        obtain ⟨-, h1, h2⟩ := legacyRouted_eq_false.mp (by simpa using h)
        exact hr.elim (· h1) (· h2)
      simp [hb, hr, hF, hroute]
    · push_neg at hr
      have hroute : legacyRouted col c = false := legacyRouted_eq_false.mpr ⟨he, hr⟩
      obtain ⟨rm', h, hrows'⟩ := filterColumn_eq_filter c (column_stackLawful col (hfit hroute))
        (by rwa [← hr.2, hrows] : rm.Valid col.storageSize)
      refine ⟨rm', ?_, by simp [hroute, hrows']⟩
      simpa [hb, hr] using h

theorem filterLegacy_fold
    (hF : ∀ col op v rm, (filterInto col op v rm).iterateRows = rm.iterateRows.filter (legacySet col op v))
    (table : Table) :
    ∀ (cs : List Constraint) {rm : RowMap}, (∀ c ∈ cs, c.colIdx < table.columns.length) →
      (∀ c ∈ cs, ∀ col ∈ table.columns[c.colIdx]?, legacyRouted col c = false → col.isNullable = true →
        col.storageBv.countSetBits = col.storageSize) →
      rm.Valid table.rowCount →
      ∃ rm', cs.foldlM (filterLegacyStep filterInto table (buildStorages table.columns).1
          (buildStorages table.columns).2) rm = some rm' ∧
        rm'.iterateRows = rm.iterateRows.filter fun r => cs.all fun c => constraintSet legacySet table c r
  | [], rm, _, _, _ => ⟨rm, rfl, by simp⟩
  | c :: cs, rm, hidx, hfit, hrm => by
    obtain ⟨rm1, h1, hrows1⟩ := filterLegacyStep_spec hF table (hidx c (List.mem_cons_self _ _))
      (hfit c (List.mem_cons_self _ _)) hrm
    obtain ⟨rm', h', hrows'⟩ := filterLegacy_fold hF table cs
      (fun c hc => hidx c (List.mem_cons_of_mem _ hc)) (fun c hc => hfit c (List.mem_cons_of_mem _ hc))
      (hrm.of_iterateRows hrows1)
    refine ⟨rm', by simp [h1, h'], ?_⟩
    rw [hrows', hrows1, List.filter_filter]
    simp [List.all_cons, Bool.and_comm]

theorem filterLegacy_eq_filter
    (hF : ∀ col op v rm, (filterInto col op v rm).iterateRows = rm.iterateRows.filter (legacySet col op v))
    (table : Table) (cs : List Constraint) (hidx : ∀ c ∈ cs, c.colIdx < table.columns.length)
    (hfit : ∀ c ∈ cs, ∀ col ∈ table.columns[c.colIdx]?, legacyRouted col c = false → col.isNullable = true →
      col.storageBv.countSetBits = col.storageSize) :
    (∃ rm, filterLegacy filterInto table cs = some rm ∧
      rm.iterateRows = (List.range table.rowCount).filter fun r => cs.all fun c => constraintSet legacySet table c r) ∧
    ∀ cs', cs'.Perm cs →
      (filterLegacy filterInto table cs').map RowMap.iterateRows = (filterLegacy filterInto table cs).map RowMap.iterateRows := by
  have key : ∀ cs : List Constraint, (∀ c ∈ cs, c.colIdx < table.columns.length) →
      (∀ c ∈ cs, ∀ col ∈ table.columns[c.colIdx]?, legacyRouted col c = false → col.isNullable = true →
        col.storageBv.countSetBits = col.storageSize) →
      ∃ rm, filterLegacy filterInto table cs = some rm ∧
        rm.iterateRows = (List.range table.rowCount).filter fun r => cs.all fun c => constraintSet legacySet table c r :=
    fun cs hidx hfit => by
      simpa [filterLegacy, RowMap.iterateRows, ← List.range_eq_range'] using
        filterLegacy_fold hF table cs hidx hfit (RowMap.valid_range table.rowCount)
  refine ⟨key cs hidx hfit, fun cs' hperm => ?_⟩
  obtain ⟨rm, h, hrows⟩ := key cs hidx hfit
  obtain ⟨rm', h', hrows'⟩ := key cs' (fun c hc => hidx c (hperm.subset hc)) fun c hc => hfit c (hperm.subset hc)
  simp only [h, h', Option.map_some', hrows, hrows']
  congr 1
  exact List.filter_congr fun r _ => by simp only [List.all_eq, hperm.mem_iff]

theorem filterLegacy_nullable_column_fails (table : Table) (c : Constraint) (cs : List Constraint) (col : Column)
    (hcol : table.columns[c.colIdx]? = some col) (hpipe : legacyRouted col c = false)
    (hnullable : col.isNullable = true) (hnull : col.storageBv.countSetBits < table.rowCount) :
    filterLegacy filterInto table (c :: cs) = none := by
  obtain ⟨he, htype, hsel⟩ := legacyRouted_eq_false.mp hpipe
  have hrows := table.rowMapSize_eq col (List.getElem?_mem hcol)
  have hn : 0 < table.rowCount := by omega
  have hfirst : (RowMap.range 0 table.rowCount).get 0 = some 0 := by
    simp [RowMap.get, RowMap.iterateRows, List.getElem?_range', hn]
  have hlast : (RowMap.range 0 table.rowCount).get ((RowMap.range 0 table.rowCount).size - 1) =
      some (table.rowCount - 1) := by
    simp [RowMap.get, RowMap.size, RowMap.iterateRows, List.getElem?_range', show table.rowCount - 1 < table.rowCount by omega]
  simp only [filterLegacy, buildStorages_eq, List.foldlM_cons, filterLegacyStep, hcol, List.getElem?_map,
    buildStorage_of_eligible he, hnullable, if_true, Option.bind_eq_bind, Option.some_bind, Option.map_some']
  rw [if_neg (by simp [htype, hsel]), Option.toList_some, filterColumn_range c _ hn,
    boundedColumnFilter_of_size_ne c _ _ hfirst hlast (by simp; omega)]
  rfl

end Legacy

def scenarioColumn : Column where
  colType := .int64
  isSorted := false
  isDense := false
  isNullable := true
  storageData := [.long 7, .long 9]
  storageSize := 4
  storageBv := ⟨[true, false, true, false]⟩
  rowMapSize := 4
  nullable_layout _ := ⟨rfl, rfl⟩
  dense_layout h := by cases h

def scenarioTable : Table := ⟨[scenarioColumn], 4, by simp [scenarioColumn]⟩

def filterIntoAll (_ : Column) (_ : FilterOp) (_ : SqlValue) (rm : RowMap) : RowMap := rm

theorem filterLegacy_nullable_column_fails_on_scenario_table :
    scenarioTable.columns[0]? = some scenarioColumn ∧ legacyRouted scenarioColumn ⟨0, .eq, .long 9⟩ = false ∧
      scenarioColumn.isNullable = true ∧ scenarioColumn.storageBv.countSetBits < scenarioTable.rowCount ∧
      filterLegacy filterIntoAll scenarioTable [⟨0, .eq, .long 9⟩] = none :=
  ⟨rfl, by decide, rfl, by decide,
    filterLegacy_nullable_column_fails scenarioTable ⟨0, .eq, .long 9⟩ [] scenarioColumn rfl (by decide) rfl
      (by decide)⟩

def countsColumn : Column where
  colType := .int64
  isSorted := false
  isDense := false
  isNullable := false
  storageData := [.long 3, .long 1, .long 4, .long 1]
  storageSize := 4
  storageBv := ⟨[]⟩
  rowMapSize := 4
  nullable_layout h := by cases h
  dense_layout _ := rfl

def namesColumn : Column where
  colType := .string
  isSorted := false
  isDense := false
  isNullable := true
  storageData := [.string "a", .string "b"]
  storageSize := 4
  storageBv := ⟨[true, false, false, true]⟩
  rowMapSize := 4
  nullable_layout _ := ⟨rfl, rfl⟩
  dense_layout h := by cases h

def fullColumn : Column where
  colType := .int64
  isSorted := false
  isDense := false
  isNullable := true
  storageData := [.long 5, .long 6, .long 7, .long 8]
  storageSize := 4
  storageBv := ⟨[true, true, true, true]⟩
  rowMapSize := 4
  nullable_layout _ := ⟨rfl, rfl⟩
  dense_layout h := by cases h

def lawTable : Table :=
  ⟨[countsColumn, namesColumn, scenarioColumn, fullColumn], 4, by simp [countsColumn, namesColumn, scenarioColumn, fullColumn]⟩

theorem filterLegacy_eq_filter_on_law_table :
    (∀ col op v rm, (filterIntoAll col op v rm).iterateRows = rm.iterateRows.filter fun _ => true) ∧
    (∀ c ∈ [⟨0, .ne, .long 4⟩, ⟨1, .isNull, .null⟩, ⟨2, .isNull, .null⟩, ⟨3, .gt, .long 5⟩], Constraint.colIdx c < lawTable.columns.length) ∧
    (∀ c ∈ [⟨0, .ne, .long 4⟩, ⟨1, .isNull, .null⟩, ⟨2, .isNull, .null⟩, ⟨3, .gt, .long 5⟩],
      ∀ col ∈ lawTable.columns[Constraint.colIdx c]?, legacyRouted col c = false → col.isNullable = true →
        col.storageBv.countSetBits = col.storageSize) ∧
    ((∃ rm, filterLegacy filterIntoAll lawTable [⟨0, .ne, .long 4⟩, ⟨1, .isNull, .null⟩, ⟨2, .isNull, .null⟩, ⟨3, .gt, .long 5⟩] = some rm ∧
      rm.iterateRows = (List.range lawTable.rowCount).filter fun r =>
        [⟨0, .ne, .long 4⟩, ⟨1, .isNull, .null⟩, ⟨2, .isNull, .null⟩, ⟨3, .gt, .long 5⟩].all fun c =>
          constraintSet (fun _ _ _ _ => true) lawTable c r) ∧
    ∀ cs', cs'.Perm [⟨0, .ne, .long 4⟩, ⟨1, .isNull, .null⟩, ⟨2, .isNull, .null⟩, ⟨3, .gt, .long 5⟩] →
      (filterLegacy filterIntoAll lawTable cs').map RowMap.iterateRows =
        (filterLegacy filterIntoAll lawTable [⟨0, .ne, .long 4⟩, ⟨1, .isNull, .null⟩, ⟨2, .isNull, .null⟩, ⟨3, .gt, .long 5⟩]).map
          RowMap.iterateRows) :=
  have hF : ∀ col op v rm, (filterIntoAll col op v rm).iterateRows = rm.iterateRows.filter fun _ => true :=
    fun _ _ _ _ => (List.filter_true _).symm
  have hidx : ∀ c ∈ [(⟨0, .ne, .long 4⟩ : Constraint), ⟨1, .isNull, .null⟩, ⟨2, .isNull, .null⟩, ⟨3, .gt, .long 5⟩],
      c.colIdx < lawTable.columns.length := by decide
  have hfit : ∀ c ∈ [(⟨0, .ne, .long 4⟩ : Constraint), ⟨1, .isNull, .null⟩, ⟨2, .isNull, .null⟩, ⟨3, .gt, .long 5⟩],
      ∀ col ∈ lawTable.columns[c.colIdx]?, legacyRouted col c = false → col.isNullable = true →
        col.storageBv.countSetBits = col.storageSize := by decide
  ⟨hF, hidx, hfit, @filterLegacy_eq_filter filterIntoAll (fun _ _ _ _ => true) hF lawTable _ hidx hfit⟩

example : (filterLegacy filterIntoAll lawTable [⟨0, .ne, .long 4⟩, ⟨3, .gt, .long 5⟩]).map RowMap.iterateRows =
    some [1, 3] := by
  decide

end TraceProcessor
