import TraceProcessor.Systrace.Event

namespace TraceProcessor.Systrace

def eventTail (cpu flags ts fn args : List Char) : List Char :=
  '[' :: cpu ++ ']' :: ' ' :: flags ++ ' ' :: ts ++ ':' :: ' ' :: fn ++ ':' :: ' ' :: args

def tsTail (cpu flags ts rest : List Char) : List Char :=
  '[' :: cpu ++ ']' :: ' ' :: flags ++ ' ' :: ts ++ ':' :: ' ' :: rest

theorem eventTail_eq (cpu flags ts fn args : List Char) :
    eventTail cpu flags ts fn args = tsTail cpu flags ts (fn ++ ':' :: ' ' :: args) := by
  simp [eventTail, tsTail]

theorem length_tsTail (pre cpu flags ts rest : List Char) :
    (pre ++ tsTail cpu flags ts rest).length =
      pre.length + cpu.length + flags.length + ts.length + rest.length + 6 := by
  simp [tsTail]; omega

theorem drop_tsTail (pre cpu flags ts rest : List Char) :
    (pre ++ tsTail cpu flags ts rest).drop (pre.length + cpu.length + flags.length + ts.length + 6) = rest := by
  rw [show pre ++ tsTail cpu flags ts rest =
    (pre ++ '[' :: cpu ++ ']' :: ' ' :: flags ++ ' ' :: ts ++ [':', ' ']) ++ rest by simp [tsTail],
    List.drop_left' (by simp; omega)]

theorem parseEventTail_tsTail (lib : BaseLib) (pre cpu flags ts rest : List Char) (pid : UInt32)
    (hcpu : ']' ∉ cpu) (hflags : ' ' ∉ flags) (hts : ':' ∉ ts)
    (hsize : (pre ++ tsTail cpu flags ts rest).length < npos) :
    parseEventTail lib (pre ++ tsTail cpu flags ts rest) pid pre.length =
      match lib.stringToUInt32 (trim cpu) with
      | none => some ([], .error ("Could not convert cpu ".toList ++ trim cpu))
      | some c =>
        match lib.stringToDouble (trim ts) with
        | none => some ([], .error "Could not convert ts".toList)
        | some seconds =>
          substrTrim (pre ++ tsTail cpu flags ts rest) (pre.length + cpu.length + flags.length + ts.length + 6)
              (find (pre ++ tsTail cpu flags ts rest) ':' (pre.length + cpu.length + flags.length + ts.length + 6))
            >>= fun fn => substrTrim (pre ++ tsTail cpu flags ts rest)
              (addSz (find (pre ++ tsTail cpu flags ts rest) ':'
                (pre.length + cpu.length + flags.length + ts.length + 6)) 2)
              (pre ++ tsTail cpu flags ts rest).length
            >>= fun argsStr => dispatchEvent lib c (toNanoseconds seconds) pid fn argsStr (parseArgs lib argsStr) := by
  have hlen := length_tsTail pre cpu flags ts rest
  have t0 : (pre ++ tsTail cpu flags ts rest).drop (pre.length + 1) =
      cpu ++ ']' :: (' ' :: flags ++ ' ' :: ts ++ ':' :: ' ' :: rest) := by
    rw [show pre ++ tsTail cpu flags ts rest = (pre ++ ['[']) ++
      (cpu ++ ']' :: (' ' :: flags ++ ' ' :: ts ++ ':' :: ' ' :: rest)) by simp [tsTail],
      List.drop_left' (by simp)]
  have t1 : (pre ++ tsTail cpu flags ts rest).drop (pre.length + 1 + cpu.length + 2) =
      flags ++ ' ' :: (ts ++ ':' :: ' ' :: rest) := by
    rw [show pre ++ tsTail cpu flags ts rest = (pre ++ '[' :: cpu ++ [']', ' ']) ++
      (flags ++ ' ' :: (ts ++ ':' :: ' ' :: rest)) by simp [tsTail], List.drop_left' (by simp; omega)]
  have t2 : (pre ++ tsTail cpu flags ts rest).drop (pre.length + 1 + cpu.length + 2 + flags.length + 1) =
      ts ++ ':' :: (' ' :: rest) := by
    rw [show pre ++ tsTail cpu flags ts rest = (pre ++ '[' :: cpu ++ ']' :: ' ' :: flags ++ [' ']) ++
      (ts ++ ':' :: (' ' :: rest)) by simp [tsTail], List.drop_left' (by simp; omega)]
  simp only [parseEventTail]
  rw [@addSz_of_le pre.length 1 (by omega), find_eq t0 hcpu, substrTrim_eq t0 (by omega) rfl (by omega),
    @addSz_of_le (pre.length + 1 + cpu.length) 2 (by omega),
    find_eq t1 hflags, @addSz_of_le (pre.length + 1 + cpu.length + 2 + flags.length) 1 (by omega),
    find_eq t2 hts, substrTrim_eq t2 (by omega) rfl (by omega),
    @addSz_of_le (pre.length + 1 + cpu.length + 2 + flags.length + 1 + ts.length) 2 (by omega),
    show pre.length + 1 + cpu.length + 2 + flags.length + 1 + ts.length + 2 =
      pre.length + cpu.length + flags.length + ts.length + 6 by omega]
  rfl

theorem parseEventTail_eventTail (lib : BaseLib) (pre cpu flags ts fn args : List Char) (pid : UInt32)
    (hcpu : ']' ∉ cpu) (hflags : ' ' ∉ flags) (hts : ':' ∉ ts) (hfn : ':' ∉ fn)
    (hsize : (pre ++ eventTail cpu flags ts fn args).length < npos) :
    parseEventTail lib (pre ++ eventTail cpu flags ts fn args) pid pre.length =
      match lib.stringToUInt32 (trim cpu) with
      | none => some ([], .error ("Could not convert cpu ".toList ++ trim cpu))
      | some c =>
        match lib.stringToDouble (trim ts) with
        | none => some ([], .error "Could not convert ts".toList)
        | some seconds =>
          dispatchEvent lib c (toNanoseconds seconds) pid (trim fn) (trim args) (parseArgs lib (trim args)) := by
  rw [eventTail_eq] at hsize ⊢
  have hlen := length_tsTail pre cpu flags ts (fn ++ ':' :: ' ' :: args)
  have hrest : (fn ++ ':' :: ' ' :: args).length = fn.length + args.length + 2 := by simp; omega
  have t3 := drop_tsTail pre cpu flags ts (fn ++ ':' :: ' ' :: args)
  have t4 : (pre ++ tsTail cpu flags ts (fn ++ ':' :: ' ' :: args)).drop
      (pre.length + cpu.length + flags.length + ts.length + 6 + fn.length + 2) = args ++ [] := by
    rw [show pre.length + cpu.length + flags.length + ts.length + 6 + fn.length + 2 =
      pre.length + cpu.length + flags.length + ts.length + 6 + (fn.length + 2) by omega, ← List.drop_drop, t3]
    simp
  rw [parseEventTail_tsTail lib pre cpu flags ts _ pid hcpu hflags hts hsize, find_eq t3 hfn,
    substrTrim_eq t3 (by omega) rfl (by omega),
    @addSz_of_le (pre.length + cpu.length + flags.length + ts.length + 6 + fn.length) 2 (by omega),
    substrTrim_eq t4 (by omega) (by omega) (by omega)]
  rfl

def decimalSeconds (s : List Char) : Option Float :=
  match s.splitOn '.' with
  | [whole] => if whole ≠ [] ∧ whole.all Char.isDigit then some (Float.ofNat (decimalValue whole)) else none
  | [whole, frac] =>
    if whole ≠ [] ∧ (whole ++ frac).all Char.isDigit then
      some (Float.ofScientific (decimalValue (whole ++ frac)) true frac.length)
    else none
  | _ => none

def secondsLib : BaseLib := { decimalLib with stringToDouble := fun s => decimalSeconds (cStr s) }

theorem parseEventTail_fn_colon_at_end (lib : BaseLib) (pre cpu flags ts fn : List Char) (pid : UInt32)
    (hcpu : ']' ∉ cpu) (hflags : ' ' ∉ flags) (hts : ':' ∉ ts) (hfn : ':' ∉ fn)
    (hsize : (pre ++ tsTail cpu flags ts (fn ++ [':'])).length < npos)
    (hc : (lib.stringToUInt32 (trim cpu)).isSome) (hd : (lib.stringToDouble (trim ts)).isSome) :
    parseEventTail lib (pre ++ tsTail cpu flags ts (fn ++ [':'])) pid pre.length = none := by
  obtain ⟨c, hc⟩ := Option.isSome_iff_exists.mp hc
  obtain ⟨seconds, hd⟩ := Option.isSome_iff_exists.mp hd
  have hlen := length_tsTail pre cpu flags ts (fn ++ [':'])
  have hrest : (fn ++ [':']).length = fn.length + 1 := by simp
  have t3 := drop_tsTail pre cpu flags ts (fn ++ [':'])
  rw [parseEventTail_tsTail lib pre cpu flags ts _ pid hcpu hflags hts hsize, hc, hd, find_eq t3 hfn,
    substrTrim_eq t3 (by omega) rfl (by omega),
    @addSz_of_le (pre.length + cpu.length + flags.length + ts.length + 6 + fn.length) 2 (by omega),
    substrTrim_of_length_lt (by omega)]
  rfl

theorem parseEventTail_fn_colon_at_end_on_bare_task_newtask :
    parseEventTail secondsLib ("<idle>-0     ".toList ++
      tsTail "000".toList "...2".toList "   16500".toList ("task_newtask".toList ++ [':'])) 0
        "<idle>-0     ".toList.length = none :=
  parseEventTail_fn_colon_at_end secondsLib _ _ _ _ _ 0 (by decide) (by decide) (by decide) (by decide) (by decide)
    (by decide) (by decide)

theorem parseEventTail_fn_without_colon (lib : BaseLib) (pre cpu flags ts fn : List Char) (pid : UInt32)
    (hcpu : ']' ∉ cpu) (hflags : ' ' ∉ flags) (hts : ':' ∉ ts) (hfn : ':' ∉ fn)
    (hsize : (pre ++ tsTail cpu flags ts fn).length < npos) :
    parseEventTail lib (pre ++ tsTail cpu flags ts fn) pid pre.length =
      match lib.stringToUInt32 (trim cpu) with
      | none => some ([], .error ("Could not convert cpu ".toList ++ trim cpu))
      | some c =>
        match lib.stringToDouble (trim ts) with
        | none => some ([], .error "Could not convert ts".toList)
        | some seconds =>
          dispatchEvent lib c (toNanoseconds seconds) pid (trim fn) (trim ((pre ++ tsTail cpu flags ts fn).drop 1))
            (parseArgs lib (trim ((pre ++ tsTail cpu flags ts fn).drop 1))) := by
  have hlen := length_tsTail pre cpu flags ts fn
  have t3 := drop_tsTail pre cpu flags ts fn
  have hnpos : find (pre ++ tsTail cpu flags ts fn) ':' (pre.length + cpu.length + flags.length + ts.length + 6) =
      npos := by
    rw [find, t3, findFrom_of_not_mem hfn]
  rw [parseEventTail_tsTail lib pre cpu flags ts fn pid hcpu hflags hts hsize, hnpos, substrTrim_of_length_le,
    t3, show addSz npos 2 = 1 from rfl, substrTrim_of_length_le]
  · rfl
  all_goals omega

theorem parseEventTail_fn_without_colon_on_bare_print :
    parseEventTail secondsLib
        ("<idle>-0     ".toList ++ tsTail "000".toList "d..1".toList "16500".toList "print".toList) 0
        "<idle>-0     ".toList.length =
      some ([.parsePrintEvent (toNanoseconds (Float.ofNat 16500)) 0
        "idle>-0     [000] d..1 16500: print".toList], .ok) := by
  rw [parseEventTail_fn_without_colon secondsLib _ _ _ _ _ 0 (by decide) (by decide) (by decide) (by decide)
    (by decide)]
  rfl

/-- A line of the format documented at systrace_trace_parser.cc:113-117, with the characters each
field must not hold for the next separator to end it. -/
structure EventLine where
  task : List Char
  pid : List Char
  tgid : Option (List Char)
  cpu : List Char
  flags : List Char
  ts : List Char
  fn : List Char
  args : List Char
  task_dash : '-' ∉ task
  pid_open : '(' ∉ pid
  pid_bracket : '[' ∉ pid
  tgid_chars : ∀ g ∈ tgid, ')' ∉ g ∧ '[' ∉ g
  cpu_close : ']' ∉ cpu
  flags_blank : ' ' ∉ flags
  ts_colon : ':' ∉ ts
  fn_colon : ':' ∉ fn

/-- systrace_trace_parser.cc:114, as its fields. -/
def cpuIdleEvent : EventLine where
  task := "<idle>".toList
  pid := "0    ".toList
  tgid := some "-----".toList
  cpu := "000".toList
  flags := "d..1".toList
  ts := "16500.715638".toList
  fn := "cpu_idle".toList
  args := "state=0 cpu_id=0".toList
  task_dash := by decide
  pid_open := by decide
  pid_bracket := by decide
  tgid_chars g h := by cases h; decide
  cpu_close := by decide
  flags_blank := by decide
  ts_colon := by decide
  fn_colon := by decide

namespace EventLine

def head (l : EventLine) : List Char :=
  l.task ++ '-' :: l.pid ++ ' ' :: l.tgid.elim [] fun g => '(' :: g ++ [')', ' ']

def render (l : EventLine) : List Char := l.head ++ eventTail l.cpu l.flags l.ts l.fn l.args

example : cpuIdleEvent.render = cpuIdleLine := by decide

def middle (l : EventLine) : List Char := l.pid ++ ' ' :: l.tgid.elim [] fun g => '(' :: g ++ [')', ' ']

def eventRest (cpu flags ts fn args : List Char) : List Char :=
  cpu ++ ']' :: ' ' :: flags ++ ' ' :: ts ++ ':' :: ' ' :: fn ++ ':' :: ' ' :: args

theorem head_eq (l : EventLine) : l.head = l.task ++ '-' :: l.middle := by
  simp [head, middle]

theorem drop_render (l : EventLine) :
    l.render.drop (l.task.length + 1) = l.middle ++ eventTail l.cpu l.flags l.ts l.fn l.args := by
  rw [render, head_eq, show l.task ++ '-' :: l.middle = (l.task ++ ['-']) ++ l.middle by simp, List.append_assoc,
    List.drop_left' (by simp)]

theorem length_head (l : EventLine) : l.head.length = l.task.length + 1 + l.middle.length := by
  simp [head_eq]; omega

theorem bracket_not_mem_middle (l : EventLine) : '[' ∉ l.middle := by
  cases h : l.tgid with
  | none => simpa [middle, h] using l.pid_bracket
  | some g => simpa [middle, h, l.pid_bracket] using (l.tgid_chars g h).2

theorem drop_render_middle (l : EventLine) :
    l.render.drop (l.task.length + 1) = l.middle ++ '[' :: eventRest l.cpu l.flags l.ts l.fn l.args := by
  rw [drop_render]; rfl

theorem findTask_render (l : EventLine) : (findTask l.render).1 + (findTask l.render).2 = l.task.length := by
  rw [render, head_eq, List.append_assoc, List.cons_append, findTask_eq l.task_dash]

theorem find_bracket_render (l : EventLine) : find l.render '[' (l.task.length + 1) = l.head.length := by
  rw [find_eq l.drop_render_middle l.bracket_not_mem_middle, l.length_head]

theorem find_paren_of_none (l : EventLine) (hg : l.tgid = none) :
    find l.render '(' (l.task.length + 1) = find l.render '(' (l.head.length + 1) := by
  have hat : l.render.drop l.head.length = ['['] ++ eventRest l.cpu l.flags l.ts l.fn l.args := by
    rw [render, List.drop_left]; rfl
  rw [find_skip l.drop_render_middle (by simpa [middle, hg] using l.pid_open), ← l.length_head,
    find_skip hat (by decide)]
  rfl

theorem drop_render_of_some (l : EventLine) {g : List Char} (hg : l.tgid = some g) :
    l.render.drop (l.task.length + 1) =
      (l.pid ++ [' ']) ++ '(' :: (g ++ ')' :: ' ' :: eventTail l.cpu l.flags l.ts l.fn l.args) := by
  rw [drop_render]; simp [middle, hg]

theorem find_paren_of_some (l : EventLine) {g : List Char} (hg : l.tgid = some g) :
    find l.render '(' (l.task.length + 1) = l.task.length + 1 + (l.pid.length + 1) := by
  rw [find_eq (l.drop_render_of_some hg) (by simpa using l.pid_open)]; simp

theorem drop_render_tgid (l : EventLine) {g : List Char} (hg : l.tgid = some g) :
    l.render.drop (l.task.length + 1 + (l.pid.length + 1) + 1) =
      g ++ ')' :: (' ' :: eventTail l.cpu l.flags l.ts l.fn l.args) := by
  rw [show l.task.length + 1 + (l.pid.length + 1) + 1 = l.task.length + 1 + (l.pid ++ [' ', '(']).length by
      simp; omega, ← List.drop_drop, l.drop_render_of_some hg,
    show (l.pid ++ [' ']) ++ '(' :: (g ++ ')' :: ' ' :: eventTail l.cpu l.flags l.ts l.fn l.args) =
      (l.pid ++ [' ', '(']) ++ (g ++ ')' :: ' ' :: eventTail l.cpu l.flags l.ts l.fn l.args) by simp, List.drop_left]

theorem header_fields (lib : BaseLib) (l : EventLine) (hsize : l.render.length < npos) (pid : UInt32) :
    (findTask l.render).1 + (findTask l.render).2 = l.task.length ∧
      find l.render '[' (addSz l.task.length 1) = l.head.length ∧
      (find l.render '(' (addSz l.task.length 1) != npos &&
        decide (find l.render '(' (addSz l.task.length 1) < l.head.length)) = l.tgid.isSome ∧
      ∀ g, l.tgid = some g →
        updateTgid lib l.render pid (find l.render '(' (addSz l.task.length 1)) =
          some ((lib.stringToUInt32 (trim g)).elim [] fun tgid => [.updateThread pid tgid]) := by
  have hlen : l.render.length = l.head.length + (eventTail l.cpu l.flags l.ts l.fn l.args).length := by
    simp [render]
  have hhead := l.length_head
  rw [addSz_of_le (by omega)]
  refine ⟨l.findTask_render, l.find_bracket_render, ?_⟩
  cases hg : l.tgid with
  | none =>
    refine ⟨?_, fun g h => nomatch h⟩
    rw [l.find_paren_of_none hg]
    by_cases hn : find l.render '(' (l.head.length + 1) = npos
    · simp [hn]
    · have := (find_spec hn).1
      simp [hn]; omega
  | some g =>
    have hmid : l.middle.length = l.pid.length + 1 + (g.length + 3) := by simp [middle, hg]; omega
    refine ⟨by rw [l.find_paren_of_some hg]; simp; omega, fun g' hg' => ?_⟩
    cases hg'
    rw [l.find_paren_of_some hg, updateTgid, addSz_of_le (by omega),
      find_eq (l.drop_render_tgid hg) (l.tgid_chars g hg).1,
      substrTrim_eq (l.drop_render_tgid hg) (by omega) rfl (by omega)]
    rfl

theorem header_fields_on_cpu_idle_event :
    (findTask cpuIdleEvent.render).1 + (findTask cpuIdleEvent.render).2 = cpuIdleEvent.task.length ∧
      find cpuIdleEvent.render '[' (addSz cpuIdleEvent.task.length 1) = cpuIdleEvent.head.length ∧
      (find cpuIdleEvent.render '(' (addSz cpuIdleEvent.task.length 1) != npos &&
        decide (find cpuIdleEvent.render '(' (addSz cpuIdleEvent.task.length 1) < cpuIdleEvent.head.length)) =
          cpuIdleEvent.tgid.isSome ∧
      ∀ g, cpuIdleEvent.tgid = some g →
        updateTgid decimalLib cpuIdleEvent.render 0 (find cpuIdleEvent.render '(' (addSz cpuIdleEvent.task.length 1)) =
          some ((decimalLib.stringToUInt32 (trim g)).elim [] fun tgid => [.updateThread 0 tgid]) :=
  EventLine.header_fields decimalLib cpuIdleEvent (by decide) 0

theorem tail_fields (lib : BaseLib) (l : EventLine) (hsize : l.render.length < npos) (pid : UInt32) :
    parseEventTail lib l.render pid l.head.length =
      match lib.stringToUInt32 (trim l.cpu) with
      | none => some ([], .error ("Could not convert cpu ".toList ++ trim l.cpu))
      | some c =>
        match lib.stringToDouble (trim l.ts) with
        | none => some ([], .error "Could not convert ts".toList)
        | some seconds =>
          dispatchEvent lib c (toNanoseconds seconds) pid (trim l.fn) (trim l.args) (parseArgs lib (trim l.args)) :=
  parseEventTail_eventTail lib l.head l.cpu l.flags l.ts l.fn l.args pid l.cpu_close l.flags_blank l.ts_colon
    l.fn_colon hsize

theorem tail_fields_on_cpu_idle_event :
    parseEventTail secondsLib cpuIdleEvent.render 0 cpuIdleEvent.head.length =
      some ([.pushCounter (toNanoseconds 16500.715638) 0 "cpuidle".toList 0], .ok) := by
  rw [tail_fields secondsLib cpuIdleEvent (by decide) 0]
  rfl

end EventLine

def renderArgs (kvs : List (List Char × List Char)) : List Char :=
  [' '].intercalate (kvs.map fun kv => kv.1 ++ '=' :: kv.2)

theorem lookup_foldl_argsEmplace (acc kvs : List (List Char × List Char)) (key : List Char) :
    (kvs.foldl (fun args kv => argsEmplace args kv.1 kv.2) acc).lookup key = (acc ++ kvs).lookup key := by
  induction kvs generalizing acc with
  | nil => simp
  | cons kv kvs ih =>
    obtain ⟨k, v⟩ := kv
    rw [List.foldl_cons, ih, argsEmplace]
    split
    · next h =>
      rw [List.lookup_append, List.lookup_append]
      cases hkey : acc.lookup key with
      | some b => rfl
      | none =>
        have hne : (key == k) = false := by
          rw [List.lookup_eq_none_iff] at hkey
          obtain ⟨p, hp, hpk⟩ := List.lookup_isSome_iff.mp h
          have := hkey p hp
          rw [← beq_iff_eq.mp hpk] at this
          simpa using this
        simp [List.lookup_cons, hne]
    · simp

def tokenKV : List (List Char) → List Char × List Char
  | [] => ([], [])
  | key :: values => (key, values.getLastD [])

theorem foldl_inner_of_ne_nil {key : List Char} (hkey : key ≠ []) (values : List (List Char)) (value : List Char) :
    values.foldl (fun kv inner => if kv.1.isEmpty then (inner, kv.2) else (kv.1, inner)) (key, value) =
      (key, values.getLastD value) := by
  induction values generalizing value with
  | nil => rfl
  | cons v vs ih => rw [List.foldl_cons, if_neg (by simpa using hkey), ih, List.getLastD_cons]

theorem foldl_inner_eq_tokenKV {pieces : List (List Char)} (h : ∀ p ∈ pieces, p ≠ []) :
    pieces.foldl (fun kv inner => if kv.1.isEmpty then (inner, kv.2) else (kv.1, inner)) ([], []) =
      tokenKV pieces := by
  cases pieces with
  | nil => rfl
  | cons key values => exact foldl_inner_of_ne_nil (h key (List.mem_cons_self _ _)) values []

def repeatedStateArgs : List (List Char × List Char) :=
  [("state".toList, "0".toList), ("cpu_id".toList, "0".toList), ("state".toList, "1".toList)]

section Args

variable {lib : BaseLib} (hsplit : ∀ s d, lib.stringSplitter s d = (s.splitOn d).filter (· ≠ []))
include hsplit

theorem stringSplitter_intercalate {d : Char} {ls : List (List Char)} (hd : ∀ l ∈ ls, d ∉ l)
    (hne : ∀ l ∈ ls, l ≠ []) : lib.stringSplitter ([d].intercalate ls) d = ls := by
  rw [hsplit]
  cases ls with
  | nil => rfl
  | cons l ls =>
    rw [List.splitOn_intercalate _ d hd (List.cons_ne_nil _ _), List.filter_eq_self]
    simpa using hne

theorem inner_token {k v : List Char} (hk : k ≠ []) (hk' : '=' ∉ k) (hv : '=' ∉ v) :
    (lib.stringSplitter (k ++ '=' :: v) '=').foldl
      (fun kv inner => if kv.1.isEmpty then (inner, kv.2) else (kv.1, inner)) ([], []) = (k, v) := by
  have hkv : k ++ '=' :: v = ['='].intercalate [k, v] := by simp [List.intercalate]
  rw [hsplit, hkv, List.splitOn_intercalate _ '=' (by simp [hk', hv]) (by simp)]
  cases v <;> simp [hk]

end Args

example : argsGet (parseArgs decimalLib (renderArgs repeatedStateArgs)) "state".toList = "0".toList := by decide

example : argsGet (parseArgs decimalLib "prev_comm=kworker=1 prev_pid=7 prev_comm=x".toList) "prev_comm".toList =
    "1".toList := by decide

end TraceProcessor.Systrace
