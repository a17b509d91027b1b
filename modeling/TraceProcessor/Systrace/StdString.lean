import Mathlib.Data.List.Basic

namespace TraceProcessor.Systrace

/-- `std::string::npos`, the largest `size_t`. -/
def npos : Nat := 18446744073709551615

/-- `size_t` addition and subtraction, modulo `npos + 1`. -/
def addSz (a b : Nat) : Nat := (a + b) % (npos + 1)

def subSz (a b : Nat) : Nat := (a + (npos + 1) - b) % (npos + 1)

/-- `std::isspace` in the C locale. -/
def isspace (c : Char) : Bool :=
  c == ' ' || c == '\t' || c == '\n' || c == '\x0b' || c == '\x0c' || c == '\r'

def findFrom (c : Char) : Nat → List Char → Nat
  | _, [] => npos
  | i, x :: xs => if x = c then i else findFrom c (i + 1) xs

/-- `std::string::find(c, pos)`: the first index from `pos` on that holds `c`, or `npos`. -/
def find (s : List Char) (c : Char) (pos : Nat) : Nat := findFrom c pos (s.drop pos)

/-- `std::string::substr(pos, count)`, `none` where it throws `std::out_of_range`. -/
def substr (s : List Char) (pos count : Nat) : Option (List Char) :=
  if pos ≤ s.length then some ((s.drop pos).take count) else none

def trim (s : List Char) : List Char := ((s.dropWhile isspace).reverse.dropWhile isspace).reverse

/-- `SubstrTrim`, systrace_trace_parser.cc:37-46. -/
def substrTrim (input : List Char) (start stop : Nat) : Option (List Char) :=
  (substr input start (subSz stop start)).map trim

/-- What a reader of `s.c_str()` sees: the text up to its first NUL. -/
def cStr (s : List Char) : List Char := s.takeWhile (· ≠ '\x00')

/-- `FindTask`, systrace_trace_parser.cc:48-57. -/
def findTask (line : List Char) : Nat × Nat :=
  let start := (line.takeWhile isspace).length
  (start, ((line.drop start).takeWhile (· != '-')).length)

theorem subSz_of_le {a b : Nat} (hb : b ≤ a) (ha : a ≤ npos) : subSz a b = a - b := by
  unfold subSz
  rw [show a + (npos + 1) - b = a - b + (npos + 1) by omega, Nat.add_mod_right, Nat.mod_eq_of_lt (by omega)]

theorem addSz_of_le {a b : Nat} (h : a + b ≤ npos) : addSz a b = a + b := Nat.mod_eq_of_lt (by omega)

theorem findFrom_append {c : Char} {xs : List Char} (h : c ∉ xs) (i : Nat) (ys : List Char) :
    findFrom c i (xs ++ c :: ys) = i + xs.length := by
  induction xs generalizing i with
  | nil => simp [findFrom]
  | cons x xs ih =>
    have hx : x ≠ c := fun e => h (e ▸ List.mem_cons_self _ _)
    rw [List.cons_append, findFrom, if_neg hx, ih (fun hm => h (List.mem_cons_of_mem _ hm))]
    simp only [List.length_cons]
    omega

theorem find_eq {s field post : List Char} {c : Char} {pos : Nat} (hs : s.drop pos = field ++ c :: post)
    (h : c ∉ field) : find s c pos = pos + field.length := by
  rw [find, hs, findFrom_append h]

theorem drop_after {s field post : List Char} {pos : Nat} (hs : s.drop pos = field ++ post) :
    s.drop (pos + field.length) = post := by
  rw [← List.drop_drop, hs, List.drop_left]

theorem findFrom_skip {c : Char} {xs : List Char} (h : c ∉ xs) (i : Nat) (ys : List Char) :
    findFrom c i (xs ++ ys) = findFrom c (i + xs.length) ys := by
  induction xs generalizing i with
  | nil => rfl
  | cons x xs ih =>
    have hx : x ≠ c := fun e => h (e ▸ List.mem_cons_self _ _)
    rw [List.cons_append, findFrom, if_neg hx, ih (fun hm => h (List.mem_cons_of_mem _ hm))]
    simp only [List.length_cons, Nat.add_assoc, Nat.add_comm 1]

theorem find_skip {s field post : List Char} {c : Char} {pos : Nat} (hs : s.drop pos = field ++ post)
    (h : c ∉ field) : find s c pos = find s c (pos + field.length) := by
  rw [find, find, hs, findFrom_skip h, drop_after hs]

theorem substrTrim_eq {s field post : List Char} {pos stop : Nat} (hs : s.drop pos = field ++ post)
    (hpos : pos ≤ s.length) (hstop : stop = pos + field.length) (hb : stop ≤ npos) :
    substrTrim s pos stop = some (trim field) := by
  rw [substrTrim, substr, if_pos hpos, subSz_of_le (by omega) hb, hs, hstop, Nat.add_sub_cancel_left,
    List.take_left]
  rfl

theorem substrTrim_of_length_lt {s : List Char} {pos : Nat} (h : s.length < pos) (stop : Nat) :
    substrTrim s pos stop = none := by
  simp [substrTrim, substr, Nat.not_le.mpr h]

theorem substrTrim_of_length_le {s : List Char} {pos stop : Nat} (hpos : pos ≤ s.length)
    (hstop : s.length ≤ stop) (hb : stop ≤ npos) : substrTrim s pos stop = some (trim (s.drop pos)) := by
  rw [substrTrim, substr, if_pos hpos, subSz_of_le (by omega) hb, List.take_of_length_le (by simp; omega)]
  rfl

theorem findFrom_of_not_mem {c : Char} {xs : List Char} (h : c ∉ xs) (i : Nat) : findFrom c i xs = npos := by
  induction xs generalizing i with
  | nil => rfl
  | cons x xs ih =>
    have hx : x ≠ c := fun e => h (e ▸ List.mem_cons_self _ _)
    rw [findFrom, if_neg hx, ih fun hm => h (List.mem_cons_of_mem _ hm)]

theorem cStr_of_not_mem {s : List Char} (h : '\x00' ∉ s) : cStr s = s :=
  List.takeWhile_eq_self_iff.mpr fun c hc => by simpa using fun e : c = '\x00' => h (e ▸ hc)

theorem trim_subset (s : List Char) : trim s ⊆ s := fun _ hc =>
  List.dropWhile_subset _ (List.mem_reverse.mp (List.dropWhile_subset _ (List.mem_reverse.mp hc)))

theorem substrTrim_subset {s t : List Char} {start stop : Nat} (h : substrTrim s start stop = some t) : t ⊆ s := by
  simp only [substrTrim, substr] at h
  split at h <;> cases h
  exact List.Subset.trans (trim_subset _) (List.Subset.trans (List.take_subset _ _) (List.drop_subset _ _))

theorem findFrom_spec {c : Char} {i k : Nat} {xs : List Char} (h : findFrom c i xs = k) (hk : k ≠ npos) :
    i ≤ k ∧ k < i + xs.length ∧ xs[k - i]? = some c := by
  induction xs generalizing i with
  | nil => exact absurd h.symm hk
  | cons x xs ih =>
    simp only [findFrom] at h
    split at h
    · subst h; simp_all
    · obtain ⟨h1, h2, h3⟩ := ih h
      refine ⟨by omega, by simp; omega, ?_⟩
      rwa [show k - i = k - (i + 1) + 1 by omega, List.getElem?_cons_succ]

theorem find_spec {s : List Char} {c : Char} {pos : Nat} (h : find s c pos ≠ npos) :
    pos ≤ find s c pos ∧ find s c pos < s.length ∧ s[find s c pos]? = some c := by
  obtain ⟨h1, h2, h3⟩ := findFrom_spec (rfl : find s c pos = _) h
  simp only [List.length_drop, List.getElem?_drop] at h2 h3
  refine ⟨h1, by omega, ?_⟩
  rwa [Nat.add_sub_cancel' h1] at h3

theorem mem_dropWhile_of_not {p : Char → Bool} {c : Char} {l : List Char} (h : c ∈ l) (hc : p c = false) :
    c ∈ l.dropWhile p := by
  induction l with
  | nil => exact h
  | cons x xs ih =>
    by_cases hx : p x
    · rw [List.dropWhile_cons_of_pos hx]
      exact ih ((List.mem_cons.mp h).resolve_left fun e => by simp_all)
    · rwa [List.dropWhile_cons_of_neg hx]

theorem mem_trim {c : Char} {s : List Char} (h : c ∈ s) (hc : isspace c = false) : c ∈ trim s :=
  List.mem_reverse.mpr (mem_dropWhile_of_not (List.mem_reverse.mpr (mem_dropWhile_of_not h hc)) hc)

theorem mem_substrTrim {s : List Char} {start stop k : Nat} {c : Char} (hk : start ≤ k) (hs : k < s.length)
    (hcount : k - start < subSz stop start) (hc : s[k]? = some c) (hsp : isspace c = false) :
    ∃ t, substrTrim s start stop = some t ∧ c ∈ t := by
  refine ⟨trim ((s.drop start).take (subSz stop start)),
    by simp [substrTrim, substr, show start ≤ s.length by omega], mem_trim ?_ hsp⟩
  have : ((s.drop start).take (subSz stop start))[k - start]? = some c := by
    rwa [List.getElem?_take_of_lt hcount, List.getElem?_drop, Nat.add_sub_cancel' hk]
  exact List.getElem?_mem this

theorem findTask_eq {task : List Char} (h : '-' ∉ task) (rest : List Char) :
    (findTask (task ++ '-' :: rest)).1 + (findTask (task ++ '-' :: rest)).2 = task.length := by
  have hk : ((task ++ '-' :: rest).takeWhile isspace).length ≤ task.length := by
    rw [List.takeWhile_append]
    split
    · simp [isspace]
    · exact (List.takeWhile_prefix _).length_le
  have hall : ∀ c ∈ task.drop ((task ++ '-' :: rest).takeWhile isspace).length, (c != '-') = true :=
    fun c hc => by simpa using fun e : c = '-' => h (e ▸ List.mem_of_mem_drop hc)
  simp only [findTask, List.drop_append_of_le_length hk, List.takeWhile_append_of_pos hall, List.length_append,
    List.length_drop]
  simp
  omega

end TraceProcessor.Systrace
