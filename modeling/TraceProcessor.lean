import TraceProcessor.Db.BitVector
import TraceProcessor.Db.RowMap
import TraceProcessor.Db.Overlay
import TraceProcessor.Db.NullOverlay
import TraceProcessor.Db.IndexFilterHelper
import TraceProcessor.Db.BoundedFilter
import TraceProcessor.Db.IndexedFilter
import TraceProcessor.Db.QueryExecutor
import TraceProcessor.Db.FilterLegacy
import TraceProcessor.Systrace.StdString
import TraceProcessor.Systrace.Parse
import TraceProcessor.Systrace.Event
import TraceProcessor.Systrace.EventLine
