import TraceProcessor.Systrace.StdString
import TraceProcessor.Systrace.Parse

namespace TraceProcessor.Systrace

/-- The `base::` and `ftrace_utils` functions `ParseSingleSystraceEvent` calls, none of them under
src/, each given the `std::string` the code holds; `StringSplitter` and `TaskState` are passed its
`c_str()`. `StringToUInt32` is `strtoul` on `c_str()` with the C string consumed, so it accepts a
string only when the text before the first NUL holds digits, blanks and a sign. -/
structure BaseLib where
  stringToUInt32 : List Char → Option UInt32
  stringToInt32 : List Char → Option Int
  stringToDouble : List Char → Option Float
  stringSplitter : List Char → Char → List (List Char)
  taskState : List Char → Int
  stringToUInt32_chars : ∀ {s v}, stringToUInt32 s = some v →
    ∀ c ∈ cStr s, c.isDigit = true ∨ isspace c = true ∨ c = '+' ∨ c = '-'

inductive Status where
  | ok
  | error (message : List Char)
deriving DecidableEq, Repr

inductive Effect where
  | getOrCreateThread (pid : UInt32)
  | updateThread (pid tgid : UInt32)
  | pushSchedSwitch (cpu : UInt32) (ts : Int) (prevPid : UInt32) (prevComm : List Char)
      (prevPrio prevState : Int) (nextPid : UInt32) (nextComm : List Char) (nextPrio : Int)
  | parsePrintEvent (ts : Int) (pid : UInt32) (args : List Char)
  | updateThreadName (pid : UInt32) (name : List Char)
  | pushInstant (ts : Int) (name : List Char) (pid : UInt32)
  | pushCounter (ts : Int) (value : Float) (name : List Char) (cpu : UInt32)
deriving Repr

/-- `args.emplace`, systrace_trace_parser.cc:188. -/
def argsEmplace (args : List (List Char × List Char)) (key value : List Char) : List (List Char × List Char) :=
  if (args.lookup key).isSome then args else args ++ [(key, value)]

/-- `args[key]`. -/
def argsGet (args : List (List Char × List Char)) (key : List Char) : List Char := (args.lookup key).getD []

/-- The args loop, systrace_trace_parser.cc:177-189. -/
def parseArgs (lib : BaseLib) (argsStr : List Char) : List (List Char × List Char) :=
  (lib.stringSplitter argsStr ' ').foldl (fun args token =>
    let kv := (lib.stringSplitter token '=').foldl
      (fun kv inner => if kv.1.isEmpty then (inner, kv.2) else (kv.1, inner)) ([], [])
    argsEmplace args kv.1 kv.2) []

/-- `static_cast<int64_t>(seconds * 1e9)`, systrace_trace_parser.cc:170. -/
def toNanoseconds (seconds : Float) : Int :=
  let ns := seconds * 1e9
  if ns < 0 then -((-ns).toUInt64.toNat : Int) else ns.toUInt64.toNat

/-- The dispatch on `fn`, systrace_trace_parser.cc:190-237. -/
def dispatchEvent (lib : BaseLib) (cpu : UInt32) (ts : Int) (pid : UInt32) (fn argsStr : List Char)
    (args : List (List Char × List Char)) : Option (List Effect × Status) :=
  if fn = "sched_switch".toList then
    let prevState := lib.taskState (argsGet args "prev_state".toList)
    match lib.stringToUInt32 (argsGet args "prev_pid".toList), lib.stringToInt32 (argsGet args "prev_prio".toList),
      lib.stringToUInt32 (argsGet args "next_pid".toList), lib.stringToInt32 (argsGet args "next_prio".toList) with
    | some prevPid, some prevPrio, some nextPid, some nextPrio =>
      some ([.pushSchedSwitch cpu ts prevPid (argsGet args "prev_comm".toList) prevPrio prevState nextPid
        (argsGet args "next_comm".toList) nextPrio], .ok)
    | _, _, _, _ => some ([], .error "Could not parse sched_switch".toList)
  else if fn = "tracing_mark_write".toList ∨ fn = "0".toList ∨ fn = "print".toList then
    some ([.parsePrintEvent ts pid (cStr argsStr)], .ok)
  else if fn = "sched_wakeup".toList then
    match lib.stringToUInt32 (argsGet args "pid".toList) with
    | none => some ([], .error "Could not convert wakee_pid".toList)
    | some wakeePid =>
      some ([.updateThreadName wakeePid (argsGet args "comm".toList),
        .pushInstant ts "sched_wakeup".toList wakeePid], .ok)
  else if fn = "cpu_idle".toList then
    let eventCpu := lib.stringToUInt32 (argsGet args "cpu_id".toList)
    let newState := lib.stringToDouble (argsGet args "state".toList)
    if eventCpu.isNone then some ([], .error "Could not convert event cpu".toList)
    else if eventCpu.isNone then some ([], .error "Could not convert state".toList)
    else do
      let value ← newState
      let eventCpu ← eventCpu
      pure ([.pushCounter ts value "cpuidle".toList eventCpu], .ok)
  else some ([], .ok)

def decimalValue (s : List Char) : Nat := s.foldl (fun n c => 10 * n + (c.toNat - '0'.toNat)) 0

def decimalLib : BaseLib where
  stringToUInt32 s := if cStr s ≠ [] ∧ (cStr s).all Char.isDigit then some (UInt32.ofNat (decimalValue (cStr s)))
    else none
  stringToInt32 s := if cStr s ≠ [] ∧ (cStr s).all Char.isDigit then some (decimalValue (cStr s)) else none
  stringToDouble _ := none
  stringSplitter s d := (s.splitOn d).filter (· ≠ [])
  taskState _ := 0
  stringToUInt32_chars := by
    intro s v h c hc
    dsimp only at h
    split at h
    · exact .inl (List.all_eq_true.mp (by simp_all) c hc)
    · cases h

def wordStateArgs : List (List Char × List Char) := parseArgs decimalLib "state=deep cpu_id=0".toList

theorem dispatchEvent_cpu_idle_state (lib : BaseLib) (cpu : UInt32) (ts : Int) (pid : UInt32)
    (fn argsStr : List Char) (args : List (List Char × List Char)) :
    (∀ effects, dispatchEvent lib cpu ts pid fn argsStr args ≠ some (effects, .error "Could not convert state".toList)) ∧
      ((lib.stringToUInt32 (argsGet args "cpu_id".toList)).isSome →
        lib.stringToDouble (argsGet args "state".toList) = none →
        dispatchEvent lib cpu ts pid "cpu_idle".toList argsStr args = none) := by
  refine ⟨fun effects => ?_, fun hcpu hstate => ?_⟩
  · unfold dispatchEvent
    split_ifs
    · split <;> simp
    · simp
    · split <;> simp
    · cases lib.stringToDouble (argsGet args "state".toList) <;>
        cases lib.stringToUInt32 (argsGet args "cpu_id".toList) <;> simp
    · simp
  · obtain ⟨c, hc⟩ := Option.isSome_iff_exists.mp hcpu
    simp_all [dispatchEvent]

theorem dispatchEvent_cpu_idle_state_on_word_state :
    (decimalLib.stringToUInt32 (argsGet wordStateArgs "cpu_id".toList)).isSome ∧
      decimalLib.stringToDouble (argsGet wordStateArgs "state".toList) = none ∧
      dispatchEvent decimalLib 0 0 0 "cpu_idle".toList [] wordStateArgs = none :=
  ⟨by decide, rfl, (dispatchEvent_cpu_idle_state decimalLib 0 0 0 [] [] wordStateArgs).2 (by decide) rfl⟩

/-- `ParseSingleSystraceEvent` from the cpu field on, systrace_trace_parser.cc:155-239. -/
def parseEventTail (lib : BaseLib) (buffer : List Char) (pid : UInt32) (cpuIdx : Nat) :
    Option (List Effect × Status) := do
  let cpuEnd := find buffer ']' (addSz cpuIdx 1)
  let cpuStr ← substrTrim buffer (addSz cpuIdx 1) cpuEnd
  match lib.stringToUInt32 cpuStr with
  | none => some ([], .error ("Could not convert cpu ".toList ++ cpuStr))
  | some cpu =>
    let tsIdx := find buffer ' ' (addSz cpuEnd 2)
    let tsEnd := find buffer ':' (addSz tsIdx 1)
    let tsStr ← substrTrim buffer (addSz tsIdx 1) tsEnd
    match lib.stringToDouble tsStr with
    | none => some ([], .error "Could not convert ts".toList)
    | some seconds =>
      let fnIdx := find buffer ':' (addSz tsEnd 2)
      let fn ← substrTrim buffer (addSz tsEnd 2) fnIdx
      let argsStr ← substrTrim buffer (addSz fnIdx 2) buffer.length
      dispatchEvent lib cpu (toNanoseconds seconds) pid fn argsStr (parseArgs lib argsStr)

/-- The `if (has_tgid)` block, systrace_trace_parser.cc:146-153. -/
def updateTgid (lib : BaseLib) (buffer : List Char) (pid : UInt32) (tgidIdx : Nat) : Option (List Effect) := do
  let tgidStr ← substrTrim buffer (addSz tgidIdx 1) (find buffer ')' (addSz tgidIdx 1))
  pure ((lib.stringToUInt32 tgidStr).elim [] fun tgid => [.updateThread pid tgid])

/-- `SystraceTraceParser::ParseSingleSystraceEvent`, systrace_trace_parser.cc:111-240. -/
def parseSingleSystraceEvent (lib : BaseLib) (buffer : List Char) : Option (List Effect × Status) :=
  let taskIdx := (findTask buffer).1 + (findTask buffer).2
  let tgidIdx := find buffer '(' (addSz taskIdx 1)
  let cpuIdx := find buffer '[' (addSz taskIdx 1)
  let hasTgid := tgidIdx != npos && decide (tgidIdx < cpuIdx)
  if cpuIdx = npos then some ([], .error ("Could not find [ in ".toList ++ buffer))
  else do
    let pidStr ← substrTrim buffer (addSz taskIdx 1) (if hasTgid then cpuIdx else tgidIdx)
    match lib.stringToUInt32 pidStr with
    | none => some ([], .error ("Could not convert pid ".toList ++ pidStr))
    | some pid =>
      let tgidEffects ← if hasTgid then updateTgid lib buffer pid tgidIdx else some []
      let (effects, status) ← parseEventTail lib buffer pid cpuIdx
      pure (.getOrCreateThread pid :: tgidEffects ++ effects, status)

/-- systrace_trace_parser.cc:114. -/
def cpuIdleLine : List Char := "<idle>-0     (-----) [000] d..1 16500.715638: cpu_idle: state=0 cpu_id=0".toList

theorem BaseLib.stringToUInt32_of_bracket (lib : BaseLib) {s : List Char} (h : '(' ∈ s ∨ '[' ∈ s)
    (hnul : '\x00' ∉ s) : lib.stringToUInt32 s = none := by
  cases hv : lib.stringToUInt32 s with
  | none => rfl
  | some v =>
    rcases h with h | h <;> rcases lib.stringToUInt32_chars hv _ (cStr_of_not_mem hnul ▸ h) with h | h | h | h <;>
      simp_all [isspace]

theorem pidStr_has_bracket {buffer : List Char} {pos : Nat} (hsize : buffer.length < npos)
    (hcpu : find buffer '[' pos ≠ npos) :
    ∃ t, substrTrim buffer pos
        (if (find buffer '(' pos != npos && decide (find buffer '(' pos < find buffer '[' pos)) = true
          then find buffer '[' pos else find buffer '(' pos) = some t ∧ ('(' ∈ t ∨ '[' ∈ t) := by
  obtain ⟨hc1, hc2, hc3⟩ := find_spec hcpu
  split
  case isTrue h =>
    simp only [Bool.and_eq_true, bne_iff_ne, ne_eq, decide_eq_true_eq] at h
    obtain ⟨ht1, ht2, ht3⟩ := find_spec h.1
    obtain ⟨t, ht, hm⟩ := mem_substrTrim ht1 ht2 (by rw [subSz_of_le hc1 (by omega)]; omega) ht3 (by decide)
    exact ⟨t, ht, .inl hm⟩
  case isFalse h =>
    have hlt : find buffer '[' pos - pos < subSz (find buffer '(' pos) pos := by
      by_cases hn : find buffer '(' pos = npos
      · rw [hn, subSz_of_le (by omega) le_rfl]; omega
      · obtain ⟨ht1, ht2, ht3⟩ := find_spec hn
        have hne : find buffer '(' pos ≠ find buffer '[' pos := fun e => by rw [e, hc3] at ht3; simp at ht3
        simp only [Bool.and_eq_true, bne_iff_ne, ne_eq, decide_eq_true_eq, not_and, not_lt] at h
        rw [subSz_of_le ht1 (by omega)]
        have := h hn
        omega
    obtain ⟨t, ht, hm⟩ := mem_substrTrim hc1 hc2 hlt hc3 (by decide)
    exact ⟨t, ht, .inr hm⟩

theorem parseSingleSystraceEvent_rejects (lib : BaseLib) (buffer : List Char) (hsize : buffer.length < npos)
    (hnul : '\x00' ∉ buffer) :
    parseSingleSystraceEvent lib buffer = some ([], .error ("Could not find [ in ".toList ++ buffer)) ∨
      ∃ pidStr, ('(' ∈ pidStr ∨ '[' ∈ pidStr) ∧
        parseSingleSystraceEvent lib buffer = some ([], .error ("Could not convert pid ".toList ++ pidStr)) := by
  dsimp only [parseSingleSystraceEvent]
  split
  case isTrue => exact .inl rfl
  case isFalse hcpu =>
    obtain ⟨t, ht, hbr⟩ := pidStr_has_bracket hsize hcpu
    exact .inr ⟨t, hbr, by
      rw [ht, Option.bind_eq_bind, Option.some_bind,
        lib.stringToUInt32_of_bracket hbr fun h => hnul (substrTrim_subset ht h)]⟩

theorem parseSingleSystraceEvent_rejects_cpu_idle_line :
    cpuIdleLine.length < npos ∧ '\x00' ∉ cpuIdleLine ∧
      (parseSingleSystraceEvent decimalLib cpuIdleLine =
          some ([], .error ("Could not find [ in ".toList ++ cpuIdleLine)) ∨
        ∃ pidStr, ('(' ∈ pidStr ∨ '[' ∈ pidStr) ∧
          parseSingleSystraceEvent decimalLib cpuIdleLine =
            some ([], .error ("Could not convert pid ".toList ++ pidStr))) :=
  ⟨by decide, by decide, parseSingleSystraceEvent_rejects decimalLib cpuIdleLine (by decide) (by decide)⟩

example : parseSingleSystraceEvent decimalLib cpuIdleLine =
    some ([], .error "Could not convert pid 0     (-----)".toList) := by rfl

theorem parseSingleSystraceEvent_no_effects (lib : BaseLib) {buffer : List Char} (hsize : buffer.length < npos)
    (hnul : '\x00' ∉ buffer) : ∃ message, parseSingleSystraceEvent lib buffer = some ([], .error message) := by
  dsimp only [parseSingleSystraceEvent]
  split
  case isTrue => exact ⟨_, rfl⟩
  case isFalse hcpu =>
    obtain ⟨t, ht, hbr⟩ := pidStr_has_bracket hsize hcpu
    exact ⟨"Could not convert pid ".toList ++ t, by
      rw [ht, Option.bind_eq_bind, Option.some_bind,
        lib.stringToUInt32_of_bracket hbr fun h => hnul (substrTrim_subset ht h)]⟩

/-- The `ParseSingleSystraceEvent` calls of `SystraceTraceParser::Parse`, systrace_trace_parser.cc:96. -/
def parseSystraceEvents (lib : BaseLib) : List (List Char) → Option (List Effect)
  | [] => some []
  | l :: ls => do
    let (effects, _) ← parseSingleSystraceEvent lib l
    let rest ← parseSystraceEvents lib ls
    pure (effects ++ rest)

theorem parse_records_no_event (lib : BaseLib) (s : List Char) (hs : s.length < npos) (hnul : '\x00' ∉ s)
    (p : SystraceTraceParser) (lines : List (List Char)) (h : parse .fresh s = some (p, lines)) :
    parseSystraceEvents lib lines = some [] := by
  have hlines : ∀ l ∈ lines, l.length < npos ∧ '\x00' ∉ l := fun l hl =>
    have hi := infix_of_mem_systraceLines (parse_fresh_lines h ▸ hl)
    ⟨lt_of_le_of_lt hi.length_le hs, fun h0 => hnul (hi.subset h0)⟩
  clear h
  induction lines with
  | nil => rfl
  | cons l ls ih =>
    obtain ⟨hl, hl0⟩ := hlines l (List.mem_cons_self _ _)
    obtain ⟨m, hm⟩ := parseSingleSystraceEvent_no_effects lib hl hl0
    simp [parseSystraceEvents, hm, ih fun l hl => hlines l (List.mem_cons_of_mem _ hl)]

theorem parse_records_no_event_on_short_trace :
    "t-1 [0] . 1: x:\n".toList.length < npos ∧ '\x00' ∉ "t-1 [0] . 1: x:\n".toList ∧
      parse .fresh "t-1 [0] . 1: x:\n".toList = some (⟨.systrace, []⟩, ["t-1 [0] . 1: x:".toList]) ∧
      parseSystraceEvents decimalLib ["t-1 [0] . 1: x:".toList] = some [] :=
  ⟨by decide, by decide, by decide,
    parse_records_no_event decimalLib "t-1 [0] . 1: x:\n".toList (by decide) (by decide) ⟨.systrace, []⟩ _
      (by decide)⟩

example : ((parseSingleSystraceEvent decimalLib "a-1\x00 [0] d..1 1: x: y".toList).map fun r => r.1.length) =
    some 1 := by decide

end TraceProcessor.Systrace
