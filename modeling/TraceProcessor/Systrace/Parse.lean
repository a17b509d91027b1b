import Mathlib.Data.List.Infix

namespace TraceProcessor.Systrace

inductive ParseState where
  | beforeParse | htmlBeforeSystrace | systrace | endOfSystrace
deriving DecidableEq, Repr

structure SystraceTraceParser where
  state : ParseState
  partialBuf : List Char
deriving DecidableEq, Repr

/-- `SystraceTraceParser::SystraceTraceParser`, systrace_trace_parser.cc:60. -/
def SystraceTraceParser.fresh : SystraceTraceParser := ⟨.beforeParse, []⟩

/-- `base::Contains`. -/
def contains (s t : List Char) : Bool := decide (t <:+: s)

def systraceStart : List Char := "<script class=\"trace-data\" type=\"application/text\">".toList

def systraceEnd : List Char := "</script>".toList

/-- The body of the loop of `SystraceTraceParser::Parse`, systrace_trace_parser.cc:85-98. -/
def handleLine (state : ParseState) (buffer : List Char) : ParseState × List (List Char) :=
  match state with
  | .htmlBeforeSystrace => (if contains buffer systraceStart then .systrace else .htmlBeforeSystrace, [])
  | .systrace =>
    if contains buffer systraceEnd then (.endOfSystrace, [])
    else if ['#'].isPrefixOf buffer then (.systrace, []) else (.systrace, [buffer])
  | state => (state, [])

/-- The `for (;;)` loop of `SystraceTraceParser::Parse`, systrace_trace_parser.cc:80-99. -/
def parseLoop (state : ParseState) (line : List Char) : List Char → ParseState × List Char × List (List Char)
  | [] => (state, line, [])
  | c :: rest =>
    if c = '\n' then
      match handleLine state line with
      | (.endOfSystrace, out) => (.endOfSystrace, line ++ c :: rest, out)
      | (state', out) =>
        let r := parseLoop state' [] rest
        (r.1, r.2.1, out ++ r.2.2)
    else parseLoop state (line ++ [c]) rest

/-- `SystraceTraceParser::Parse`, systrace_trace_parser.cc:67-107. -/
def parse (p : SystraceTraceParser) (ownedBuf : List Char) :
    Option (SystraceTraceParser × List (List Char)) :=
  if p.state = .endOfSystrace then some (p, [])
  else do
    let partialBuf := p.partialBuf ++ ownedBuf
    let state ← if p.state = .beforeParse then
        partialBuf.head?.map fun c => if c = '<' then .htmlBeforeSystrace else .systrace
      else some p.state
    let (state, rest, lines) := parseLoop state [] partialBuf
    pure (⟨state, if state = .endOfSystrace then [] else rest⟩, lines)

def parseChunks (p : SystraceTraceParser) : List (List Char) → Option (SystraceTraceParser × List (List Char))
  | [] => some (p, [])
  | b :: bs => do
    let (p₁, lines₁) ← parse p b
    let (p₂, lines₂) ← parseChunks p₁ bs
    pure (p₂, lines₁ ++ lines₂)

def splitLines (line : List Char) : List Char → List (List Char)
  | [] => []
  | c :: rest => if c = '\n' then line :: splitLines [] rest else splitLines (line ++ [c]) rest

def systraceLines (s : List Char) : List (List Char) :=
  let lines := splitLines [] s
  let body := if s.head? = some '<' then (lines.dropWhile fun l => !contains l systraceStart).drop 1 else lines
  (body.takeWhile fun l => !contains l systraceEnd).filter fun l => !(['#'].isPrefixOf l)

def htmlChunks : List (List Char) :=
  ["<html>\n<script class=\"trace-data\" type=\"application/text\">\na-1 [0] x\n# tracer\nb-2 [1] y\n</scr".toList,
    "ipt>\nc-3 [2] z\n".toList]

def loopResult (state : ParseState) (line s : List Char) : SystraceTraceParser × List (List Char) :=
  let r := parseLoop state line s
  (⟨r.1, if r.1 = .endOfSystrace then [] else r.2.1⟩, r.2.2)

def resume (p : SystraceTraceParser) (s : List Char) : SystraceTraceParser × List (List Char) :=
  if p.state = .endOfSystrace then (p, []) else loopResult p.state p.partialBuf s

theorem loopResult_end (line s : List Char) :
    loopResult .endOfSystrace line s = (⟨.endOfSystrace, []⟩, []) := by
  induction s generalizing line with
  | nil => rfl
  | cons c s ih =>
    by_cases hc : c = '\n'
    · simp [loopResult, parseLoop, hc, handleLine]
    · simpa [loopResult, parseLoop, hc] using ih (line ++ [c])

theorem loopResult_nil {state : ParseState} (h : state ≠ .endOfSystrace) (line : List Char) :
    loopResult state line [] = (⟨state, line⟩, []) := by
  simp [loopResult, parseLoop, h]

theorem loopResult_newline (state : ParseState) (line s : List Char) :
    loopResult state line ('\n' :: s) =
      if (handleLine state line).1 = .endOfSystrace then (⟨.endOfSystrace, []⟩, (handleLine state line).2)
      else ((loopResult (handleLine state line).1 [] s).1,
        (handleLine state line).2 ++ (loopResult (handleLine state line).1 [] s).2) := by
  rcases h : handleLine state line with ⟨_ | _ | _ | _, out⟩ <;> simp [loopResult, parseLoop, h]

theorem loopResult_char {c : Char} (hc : c ≠ '\n') (state : ParseState) (line s : List Char) :
    loopResult state line (c :: s) = loopResult state (line ++ [c]) s := by
  simp [loopResult, parseLoop, hc]

theorem loopResult_append (state : ParseState) (line a b : List Char) :
    loopResult state line (a ++ b) =
      ((resume (loopResult state line a).1 b).1,
        (loopResult state line a).2 ++ (resume (loopResult state line a).1 b).2) := by
  induction a generalizing state line with
  | nil =>
    by_cases h : state = .endOfSystrace
    · subst h; simp [loopResult_end, resume]
    · simp [loopResult_nil h, resume, h]
  | cons c a ih =>
    by_cases hc : c = '\n'
    · subst hc
      rw [List.cons_append, loopResult_newline, loopResult_newline]
      split
      · simp [resume]
      · rw [ih]; simp
    · rw [List.cons_append, loopResult_char hc, loopResult_char hc, ih]

theorem parseLoop_no_newline (state : ParseState) (line : List Char) {buf : List Char} (h : '\n' ∉ buf)
    (s : List Char) : parseLoop state line (buf ++ s) = parseLoop state (line ++ buf) s := by
  induction buf generalizing line with
  | nil => simp
  | cons c buf ih =>
    have hc : c ≠ '\n' := fun hc => h (hc ▸ List.mem_cons_self _ _)
    simp [parseLoop, hc, ih (line ++ [c]) fun hb => h (List.mem_cons_of_mem _ hb)]

def Active (state : ParseState) : Prop := state = .htmlBeforeSystrace ∨ state = .systrace

theorem Active.ne_end {state : ParseState} (h : Active state) : state ≠ .endOfSystrace := by
  rcases h with rfl | rfl <;> simp

theorem Active.ne_before {state : ParseState} (h : Active state) : state ≠ .beforeParse := by
  rcases h with rfl | rfl <;> simp

theorem active_initial (c : Char) : Active (if c = '<' then .htmlBeforeSystrace else .systrace) := by
  split <;> simp [Active]

def Settled (p : SystraceTraceParser) : Prop :=
  p = ⟨.endOfSystrace, []⟩ ∨ (Active p.state ∧ '\n' ∉ p.partialBuf)

theorem handleLine_active {state : ParseState} (h : Active state) (line : List Char) :
    Active (handleLine state line).1 ∨ (handleLine state line).1 = .endOfSystrace := by
  rcases h with rfl | rfl <;> simp only [handleLine] <;> split_ifs <;> simp [Active]

theorem settled_loopResult {state : ParseState} (h : Active state) {line : List Char} (hl : '\n' ∉ line)
    (s : List Char) : Settled (loopResult state line s).1 := by
  induction s generalizing state line with
  | nil => exact .inr (by simpa [loopResult_nil h.ne_end] using ⟨h, hl⟩)
  | cons c s ih =>
    by_cases hc : c = '\n'
    · subst hc
      rw [loopResult_newline]
      split
      · exact .inl rfl
      · exact ih ((handleLine_active h line).resolve_right ‹_›) (List.not_mem_nil _)
    · rw [loopResult_char hc]
      exact ih h (by simp [hl, Ne.symm hc])

theorem settled_resume {p : SystraceTraceParser} (hp : Settled p) (s : List Char) : Settled (resume p s).1 := by
  rcases hp with rfl | ⟨h, hl⟩
  · simp [resume, Settled]
  · simpa [resume, h.ne_end] using settled_loopResult h hl s

theorem resume_append {p : SystraceTraceParser} (hp : Settled p) (a b : List Char) :
    resume p (a ++ b) = ((resume (resume p a).1 b).1, (resume p a).2 ++ (resume (resume p a).1 b).2) := by
  rcases hp with rfl | ⟨h, -⟩
  · simp [resume]
  · simp only [resume, if_neg h.ne_end]
    exact loopResult_append _ _ _ _

theorem parse_settled {p : SystraceTraceParser} (hp : Settled p) (b : List Char) :
    parse p b = some (resume p b) := by
  rcases hp with rfl | ⟨h, hl⟩
  · rfl
  · simp [parse, h.ne_end, h.ne_before, resume, loopResult, parseLoop_no_newline _ _ hl]

theorem parseChunks_settled {p : SystraceTraceParser} (hp : Settled p) (chunks : List (List Char)) :
    parseChunks p chunks = some (resume p chunks.flatten) := by
  induction chunks generalizing p with
  | nil =>
    rcases hp with rfl | ⟨h, -⟩
    · rfl
    · simp [parseChunks, resume, h.ne_end, loopResult_nil h.ne_end]
  | cons b bs ih =>
    simp [parseChunks, parse_settled hp, ih (settled_resume hp b), resume_append hp]

def runLines (state : ParseState) : List (List Char) → List (List Char)
  | [] => []
  | l :: ls =>
    match handleLine state l with
    | (.endOfSystrace, out) => out
    | (state', out) => out ++ runLines state' ls

theorem runLines_cons (state : ParseState) (l : List Char) (ls : List (List Char)) :
    runLines state (l :: ls) =
      if (handleLine state l).1 = .endOfSystrace then (handleLine state l).2
      else (handleLine state l).2 ++ runLines (handleLine state l).1 ls := by
  rcases h : handleLine state l with ⟨_ | _ | _ | _, out⟩ <;> simp [runLines, h]

theorem loopResult_lines (state : ParseState) (line s : List Char) :
    (loopResult state line s).2 = runLines state (splitLines line s) := by
  induction s generalizing state line with
  | nil => simp [loopResult, parseLoop, splitLines, runLines]
  | cons c s ih =>
    by_cases hc : c = '\n'
    · subst hc
      rw [loopResult_newline, splitLines, if_pos rfl, runLines_cons]
      split <;> simp [ih]
    · rw [loopResult_char hc, splitLines, if_neg hc, ih]

theorem runLines_systrace (ls : List (List Char)) :
    runLines .systrace ls =
      (ls.takeWhile fun l => !contains l systraceEnd).filter fun l => !(['#'].isPrefixOf l) := by
  induction ls with
  | nil => rfl
  | cons l ls ih =>
    rw [runLines_cons, List.takeWhile_cons]
    by_cases he : contains l systraceEnd
    · simp [handleLine, he]
    · by_cases hh : ['#'].isPrefixOf l <;> simp [handleLine, he, hh, ih]

theorem runLines_html (ls : List (List Char)) :
    runLines .htmlBeforeSystrace ls =
      runLines .systrace ((ls.dropWhile fun l => !contains l systraceStart).drop 1) := by
  induction ls with
  | nil => rfl
  | cons l ls ih =>
    rw [runLines_cons, List.dropWhile_cons]
    by_cases hs : contains l systraceStart <;> simp [handleLine, hs, ih]

theorem parse_fresh_cons (c : Char) (s : List Char) :
    parse .fresh (c :: s) =
      some (loopResult (if c = '<' then .htmlBeforeSystrace else .systrace) [] (c :: s)) := by
  simp [parse, SystraceTraceParser.fresh, loopResult]

theorem systraceLines_eq (c : Char) (s : List Char) :
    systraceLines (c :: s) =
      (loopResult (if c = '<' then .htmlBeforeSystrace else .systrace) [] (c :: s)).2 := by
  rw [loopResult_lines]
  split <;> simp_all [systraceLines, runLines_html, runLines_systrace]

theorem parseChunks_eq_parse (s : List Char) (chunks : List (List Char)) (hs : chunks.flatten = s)
    (hne : ∀ b ∈ chunks, b ≠ []) (hs0 : s ≠ []) :
    ∃ p, parseChunks .fresh chunks = some (p, systraceLines s) ∧
      parse .fresh s = some (p, systraceLines s) := by
  obtain _ | ⟨_ | ⟨c, b⟩, bs⟩ := chunks
  · exact absurd hs.symm hs0
  · exact absurd rfl (hne [] (List.mem_cons_self _ _))
  · subst hs
    rw [List.flatten_cons, List.cons_append]
    refine ⟨_, ?_, by rw [parse_fresh_cons, systraceLines_eq]⟩
    simp [parseChunks, parse_fresh_cons,
      parseChunks_settled (settled_loopResult (active_initial c) (List.not_mem_nil _) _), systraceLines_eq]
    exact (loopResult_append _ _ (c :: b) _).symm

theorem parseChunks_eq_parse_on_html_chunks :
    htmlChunks.flatten ≠ [] ∧ (∀ b ∈ htmlChunks, b ≠ []) ∧
      ∃ p, parseChunks .fresh htmlChunks = some (p, systraceLines htmlChunks.flatten) ∧
        parse .fresh htmlChunks.flatten = some (p, systraceLines htmlChunks.flatten) :=
  ⟨by decide, by decide, parseChunks_eq_parse _ _ rfl (by decide) (by decide)⟩

example : systraceLines htmlChunks.flatten = ["a-1 [0] x".toList, "b-2 [1] y".toList] := by decide

def runState (state : ParseState) : List (List Char) → ParseState
  | [] => state
  | l :: ls =>
    if (handleLine state l).1 = .endOfSystrace then .endOfSystrace else runState (handleLine state l).1 ls

def lastLine (line : List Char) : List Char → List Char
  | [] => line
  | c :: rest => if c = '\n' then lastLine [] rest else lastLine (line ++ [c]) rest

def systraceBody (s : List Char) : List (List Char) :=
  if s.head? = some '<' then ((splitLines [] s).dropWhile fun l => !contains l systraceStart).drop 1
  else splitLines [] s

theorem parser_of_loopResult (state : ParseState) (line s : List Char) :
    (loopResult state line s).1 =
      if runState state (splitLines line s) = .endOfSystrace then ⟨.endOfSystrace, []⟩
      else ⟨runState state (splitLines line s), lastLine line s⟩ := by
  induction s generalizing state line with
  | nil =>
    by_cases h : state = .endOfSystrace <;> simp [loopResult, parseLoop, splitLines, runState, lastLine, h]
  | cons c s ih =>
    by_cases hc : c = '\n'
    · subst hc
      rw [loopResult_newline, splitLines, if_pos rfl, runState, lastLine, if_pos rfl]
      split <;> simp [*]
    · rw [loopResult_char hc, splitLines, if_neg hc, lastLine, if_neg hc, ih]

theorem runState_systrace (ls : List (List Char)) :
    runState .systrace ls = if ls.any (contains · systraceEnd) then .endOfSystrace else .systrace := by
  induction ls with
  | nil => rfl
  | cons l ls ih =>
    by_cases he : contains l systraceEnd
    · simp [runState, handleLine, he]
    · by_cases hh : ['#'].isPrefixOf l <;> simp [runState, handleLine, he, hh, ih]

theorem runState_html (ls : List (List Char)) :
    runState .htmlBeforeSystrace ls =
      if ls.any (contains · systraceStart) then
        runState .systrace ((ls.dropWhile fun l => !contains l systraceStart).drop 1)
      else .htmlBeforeSystrace := by
  induction ls with
  | nil => rfl
  | cons l ls ih => by_cases hs : contains l systraceStart <;> simp [runState, handleLine, hs, ih]

theorem lastLine_eq {line : List Char} (hl : '\n' ∉ line) (s : List Char) :
    lastLine line s = ((line ++ s).reverse.takeWhile (· != '\n')).reverse := by
  induction s generalizing line with
  | nil =>
    have hall : ∀ x ∈ line.reverse, (x != '\n') = true := fun x hx => by
      simpa using fun h : x = '\n' => hl (h ▸ List.mem_reverse.mp hx)
    rw [List.append_nil, List.takeWhile_eq_self_iff.mpr hall, List.reverse_reverse]
    rfl
  | cons c s ih =>
    by_cases hc : c = '\n'
    · subst hc
      rw [lastLine, if_pos rfl, ih (List.not_mem_nil _)]
      simp only [List.nil_append, List.reverse_append, List.reverse_cons, List.append_assoc,
        List.singleton_append, List.takeWhile_append]
      split
      · next h => rw [(List.takeWhile_prefix _).eq_of_length h]; simp
      · rfl
    · rw [lastLine, if_neg hc, ih (by simp [hl, Ne.symm hc])]
      simp

theorem parseChunks_fresh_cons (c : Char) (b : List Char) (bs : List (List Char)) :
    parseChunks .fresh ((c :: b) :: bs) =
      some (loopResult (if c = '<' then .htmlBeforeSystrace else .systrace) [] ((c :: b) ++ bs.flatten)) := by
  simp [parseChunks, parse_fresh_cons,
    parseChunks_settled (settled_loopResult (active_initial c) (List.not_mem_nil _) _)]
  exact (loopResult_append _ _ (c :: b) _).symm

theorem parseChunks_final_state (chunks : List (List Char)) (p : SystraceTraceParser)
    (lines : List (List Char)) (h : parseChunks .fresh chunks = some (p, lines)) (hne : chunks ≠ []) :
    p = if (systraceBody chunks.flatten).any (contains · systraceEnd) then ⟨.endOfSystrace, []⟩
      else ⟨if chunks.flatten.head? = some '<' ∧ ¬(splitLines [] chunks.flatten).any (contains · systraceStart)
          then .htmlBeforeSystrace else .systrace,
        (chunks.flatten.reverse.takeWhile (· != '\n')).reverse⟩ := by
  obtain _ | ⟨_ | ⟨c, b⟩, bs⟩ := chunks
  · exact absurd rfl hne
  · cases h
  · rw [parseChunks_fresh_cons, Option.some.injEq] at h
    rw [show p = _ from congrArg Prod.fst h.symm, parser_of_loopResult, lastLine_eq (List.not_mem_nil _),
      List.nil_append, List.flatten_cons]
    by_cases hc : c = '<'
    · subst hc
      by_cases hm : (splitLines [] ('<' :: (b ++ bs.flatten))).any (contains · systraceStart)
      · simp [runState_html, runState_systrace, systraceBody, hm]
        split_ifs <;> rfl
      · have hd : ((splitLines [] ('<' :: (b ++ bs.flatten))).dropWhile fun l => !contains l systraceStart) = [] :=
          List.dropWhile_eq_nil_iff.mpr (by simpa using hm)
        simp [hm, runState_html, systraceBody, hd]
    · simp [hc, runState_systrace, systraceBody]
      split_ifs <;> rfl

theorem parseChunks_final_state_on_html_chunks :
    parseChunks .fresh htmlChunks = some (⟨.endOfSystrace, []⟩, ["a-1 [0] x".toList, "b-2 [1] y".toList]) ∧
      htmlChunks ≠ [] ∧
      (⟨.endOfSystrace, []⟩ : SystraceTraceParser) =
        if (systraceBody htmlChunks.flatten).any (contains · systraceEnd) then ⟨.endOfSystrace, []⟩
        else ⟨if htmlChunks.flatten.head? = some '<' ∧
              ¬(splitLines [] htmlChunks.flatten).any (contains · systraceStart)
            then .htmlBeforeSystrace else .systrace,
          (htmlChunks.flatten.reverse.takeWhile (· != '\n')).reverse⟩ :=
  have h : parseChunks .fresh htmlChunks = some (⟨.endOfSystrace, []⟩, ["a-1 [0] x".toList, "b-2 [1] y".toList]) := by
    decide
  ⟨h, by decide, parseChunks_final_state htmlChunks _ _ h (by decide)⟩

theorem infix_of_mem_splitLines {l line s : List Char} (h : l ∈ splitLines line s) : l <:+: line ++ s := by
  induction s generalizing line with
  | nil => simp [splitLines] at h
  | cons c s ih =>
    simp only [splitLines] at h
    split at h
    · rcases List.mem_cons.mp h with rfl | h
      · exact (List.prefix_append _ _).isInfix
      · exact (ih h).trans (by simpa using (List.suffix_append (line ++ [c]) s).isInfix)
    · simpa using ih h

theorem infix_of_mem_systraceLines {l s : List Char} (h : l ∈ systraceLines s) : l <:+: s := by
  have hsub : List.Sublist (systraceLines s) (splitLines [] s) := by
    refine (List.filter_sublist _).trans ((List.takeWhile_sublist _).trans ?_)
    split
    · exact (List.drop_sublist _ _).trans (List.dropWhile_sublist _)
    · exact List.Sublist.refl _
  simpa using infix_of_mem_splitLines (hsub.subset h)

theorem parse_fresh_lines {s : List Char} {p : SystraceTraceParser} {lines : List (List Char)}
    (h : parse .fresh s = some (p, lines)) : lines = systraceLines s := by
  cases s with
  | nil => cases h
  | cons c s =>
    rw [parse_fresh_cons, Option.some.injEq] at h
    rw [systraceLines_eq, h]

end TraceProcessor.Systrace
