import Sqlite3pp.Statement

/-!
Reading a result through a `selecter`: the engine's cursor over the result's rows, `exec()` (virtual,
so that a call through a `statement&` reaches `selecter::exec`), `next()` and `get_row()`; and the
`query_iterator` range of the earlier versions of the file.
-/

namespace Sqlite3pp

variable {α : Type}

def rowsOutcome (rs : List α) (pos : Nat) : StepOutcome :=
  if pos % (rs.length + 1) < rs.length then ⟨sqliteRow, []⟩ else ⟨sqliteDone, []⟩

def currentRow (rs : List α) (pos : Nat) : Option α :=
  match pos % (rs.length + 1) with
  | 0 => none
  | k + 1 => rs[k]?

inductive StmtClass where
  | statement
  | selecter
  | inserter
  deriving DecidableEq, Repr

namespace Stmt

def execVirtual (cls : StmtClass) (s : Stmt) (o : StepOutcome) : Stmt × OptError :=
  match cls with
  | .selecter => s.selecterExec
  | .statement | .inserter => s.exec o

def nexts (rs : List α) : Nat → Stmt → List (Bool × Option α)
  | 0, _ => []
  | k + 1, s =>
    let (s, b) := s.next (rowsOutcome rs s.pos)
    (b, if b then currentRow rs s.pos else none) :: nexts rs k s

variable {rs : List α} {s : Stmt}

theorem nexts_succ (k : Nat) (s : Stmt) :
    nexts rs (k + 1) s =
      ((s.next (rowsOutcome rs s.pos)).2,
        if (s.next (rowsOutcome rs s.pos)).2 then currentRow rs (s.next (rowsOutcome rs s.pos)).1.pos
        else none) :: nexts rs k (s.next (rowsOutcome rs s.pos)).1 := rfl

theorem rowsOutcome_of_lt {p : Nat} (hp : p < rs.length) : rowsOutcome rs p = ⟨sqliteRow, []⟩ := by
  simp [rowsOutcome, Nat.mod_eq_of_lt (Nat.lt_succ_of_lt hp), hp]

theorem rowsOutcome_length : rowsOutcome rs rs.length = ⟨sqliteDone, []⟩ := by
  simp [rowsOutcome, Nat.mod_eq_of_lt (Nat.lt_succ_self _)]

theorem currentRow_succ {p : Nat} (hp : p < rs.length) : currentRow rs (p + 1) = rs[p]? := by
  simp [currentRow, Nat.mod_eq_of_lt (Nat.succ_lt_succ hp)]

theorem next_of_lt (hp : s.prepared = true) (hpos : s.pos < rs.length) :
    (s.next (rowsOutcome rs s.pos)).2 = true ∧ (s.next (rowsOutcome rs s.pos)).1.prepared = true ∧
      (s.next (rowsOutcome rs s.pos)).1.pos = s.pos + 1 := by
  simp [rowsOutcome_of_lt hpos, next, step, sqlite3Step, stepFailed, hp, sqliteRow, sqliteDone]

theorem next_of_eq (hp : s.prepared = true) (hpos : s.pos = rs.length) :
    (s.next (rowsOutcome rs s.pos)).2 = false := by
  simp [hpos, rowsOutcome_length, next, step, sqlite3Step, stepFailed, hp]

theorem nexts_from (k : Nat) (s : Stmt) (hp : s.prepared = true) (hk : s.pos + k = rs.length) :
    nexts rs (k + 1) s = (rs.drop s.pos).map (fun r => (true, some r)) ++ [(false, none)] := by
  induction k generalizing s with
  | zero =>
    rw [nexts_succ, next_of_eq hp hk]
    simp [nexts, ← hk]
  | succ k ih =>
    have hlt : s.pos < rs.length := by omega
    obtain ⟨hb, hp', hpos'⟩ := next_of_lt hp hlt
    rw [nexts_succ, hb, if_pos rfl, ih _ hp' (by omega), hpos', currentRow_succ hlt,
      List.drop_eq_getElem_cons hlt, List.getElem?_eq_getElem hlt]
    rfl

end Stmt

/--
After `exec()` succeeds on a `selecter`, called directly or through a `statement&`, whatever the
statement's history: the next `n + 1` calls of `next()` return `true` `n` times, `get_row()` after
each reads the result's rows in order, and the last call returns `false`.
-/
theorem selecter_iteration (rs : List α) (s : Stmt) (o : StepOutcome)
    (h : (s.execVirtual .selecter o).2 = none) :
    Stmt.nexts rs (rs.length + 1) (s.execVirtual .selecter o).1 =
      rs.map (fun r => (true, some r)) ++ [(false, none)] := by
  cases hp : s.prepared
  . simp [Stmt.execVirtual, Stmt.selecterExec, hp] at h
  . have hrun : Stmt.nexts rs (rs.length + 1) { s with pos := 0, err := none } = _ :=
      Stmt.nexts_from rs.length _ hp (Nat.zero_add _)
    simpa [Stmt.execVirtual, Stmt.selecterExec, Stmt.reset, Stmt.sqlite3Reset, hp] using hrun

/-- A `selecter` left after two of its rows is run again through `exec()` and read to the end. -/
theorem selecter_iteration_run :
    (Stmt.execVirtual .selecter ⟨true, 2, none, [0, 1], 0⟩ ⟨sqliteDone, []⟩).2 = none ∧
      Stmt.nexts [7, 8, 9] 4 (Stmt.execVirtual .selecter ⟨true, 2, none, [0, 1], 0⟩ ⟨sqliteDone, []⟩).1 =
        [(true, some 7), (true, some 8), (true, some 9), (false, none)] :=
  ⟨rfl, selecter_iteration [7, 8, 9] _ _ rfl⟩

def cursorAt (rs : List α) (pos : Nat) : Bool × Option α :=
  if pos % (rs.length + 1) < rs.length then (true, rs[pos % (rs.length + 1)]?) else (false, none)

theorem succ_mod_of_lt {p n : Nat} (h : p % (n + 1) < n) : (p + 1) % (n + 1) = p % (n + 1) + 1 := by
  rw [Nat.add_mod, Nat.mod_eq_of_lt (show 1 < n + 1 by omega), Nat.mod_eq_of_lt (by omega)]

theorem succ_mod_of_eq {p n : Nat} (h : p % (n + 1) = n) : (p + 1) % (n + 1) = 0 := by
  rw [Nat.add_mod, h]
  rcases n with _ | n
  . simp
  . rw [Nat.mod_eq_of_lt (show 1 < n + 2 by omega), Nat.mod_self]

namespace Stmt

variable {rs : List α} {s : Stmt}

theorem next_cursorAt (hp : s.prepared = true) :
    (s.next (rowsOutcome rs s.pos)).1.prepared = true ∧
      (s.next (rowsOutcome rs s.pos)).1.pos = s.pos + 1 ∧
      ((s.next (rowsOutcome rs s.pos)).2,
        if (s.next (rowsOutcome rs s.pos)).2 then currentRow rs (s.next (rowsOutcome rs s.pos)).1.pos
        else none) = cursorAt rs s.pos := by
  by_cases h : s.pos % (rs.length + 1) < rs.length
  . simp [rowsOutcome, cursorAt, h, next, step, sqlite3Step, stepFailed, hp, sqliteRow, sqliteDone, currentRow,
      succ_mod_of_lt h]
  . simp [rowsOutcome, cursorAt, h, next, step, sqlite3Step, stepFailed, hp]

end Stmt

/--
Every run of `next()` calls, each followed by `get_row()` when it returned `true`, from any state of
a statement whose result is `rs`: on a prepared statement the `i`-th call answers as the cursor at
`pos + i`, so the rows come in order, one `false` follows them, and the automatic reset starts the
rows again; on a statement with no `stmt_` every call returns `false`.
-/
theorem nexts_eq_cursor (rs : List α) (k : Nat) (s : Stmt) :
    Stmt.nexts rs k s =
      if s.prepared then (List.range k).map fun i => cursorAt rs (s.pos + i)
      else List.replicate k (false, none) := by
  induction k generalizing s with
  | zero => split <;> rfl
  | succ k ih =>
    rw [Stmt.nexts_succ]
    cases hp : s.prepared
    . have hn : s.next (rowsOutcome rs s.pos) = (s, false) := by
        simp [Stmt.next, Stmt.step, Stmt.sqlite3Step, stepFailed, hp, sqliteMisuse, sqliteDone, sqliteRow]
      simp [hn, ih, hp, List.replicate_succ]
    . obtain ⟨hp', hpos, hobs⟩ := @Stmt.next_cursorAt α rs s hp
      rw [hobs, ih, hp', if_pos rfl, if_pos rfl, hpos, List.range_succ_eq_map, List.map_cons,
        List.map_map]
      simp only [Nat.add_zero, Function.comp_def, Nat.add_succ, Nat.succ_add]

structure QueryIterator where
  isDone : Bool
  rc : OptError
  deriving DecidableEq, Repr

namespace QueryIterator

def inc (it : QueryIterator) (s : Stmt) (o : StepOutcome) : Stmt × QueryIterator :=
  match s.step o with
  | (s, .ok b) => (s, { it with isDone := b })
  | (s, .error e) => (s, { isDone := true, rc := some e })

def begin (s : Stmt) (o : StepOutcome) : Stmt × QueryIterator := inc ⟨true, none⟩ s o

def iterEnd : QueryIterator := ⟨true, none⟩

def ne (a b : QueryIterator) : Bool := a.isDone != b.isDone

def rangeFor (rs : List α) : Nat → Stmt → QueryIterator → Option (List (Option α))
  | 0, _, _ => none
  | fuel + 1, s, it =>
    if it.ne iterEnd then
      let (s', it') := it.inc s (rowsOutcome rs s.pos)
      (rangeFor rs fuel s' it').map (fun rows => currentRow rs s.pos :: rows)
    else some []

def iterate (rs : List α) (fuel : Nat) (s : Stmt) : Option (List (Option α)) :=
  let (s, it) := begin s (rowsOutcome rs s.pos)
  rangeFor rs fuel s it

variable {rs : List α} {s : Stmt} {it : QueryIterator}

theorem rangeFor_of_isDone (fuel : Nat) (h : it.isDone = true) :
    rangeFor rs (fuel + 1) s it = some [] := by
  simp [rangeFor, ne, iterEnd, h]

theorem inc_nil (it : QueryIterator) (hp : s.prepared = true) :
    (it.inc s (rowsOutcome ([] : List α) s.pos)).2.isDone = false ∧
      (it.inc s (rowsOutcome ([] : List α) s.pos)).1.prepared = true := by
  simp [inc, rowsOutcome, Stmt.step, Stmt.sqlite3Step, stepFailed, hp]

theorem rangeFor_nil (fuel : Nat) (s : Stmt) (it : QueryIterator) (hp : s.prepared = true)
    (hd : it.isDone = false) : rangeFor ([] : List α) fuel s it = none := by
  induction fuel generalizing s it with
  | zero => rfl
  | succ fuel ih =>
    obtain ⟨hd', hp'⟩ := inc_nil (α := α) it hp
    simp [rangeFor, ne, iterEnd, hd, ih _ _ hp' hd']

end QueryIterator

/--
The range over a `query_iterator`, started on a prepared statement at the start of its result,
runs no iteration when the result has rows, and never ends when it has none.
-/
theorem queryIterator_range_broken (s : Stmt) :
    (∀ (r : α) (rs : List α) (fuel : Nat),
      QueryIterator.iterate (r :: rs) (fuel + 1) { s with prepared := true, pos := 0 } = some []) ∧
    ∀ fuel, QueryIterator.iterate ([] : List α) fuel { s with prepared := true, pos := 0 } = none := by
  refine ⟨fun r rs fuel => ?_, fun fuel => ?_⟩
  . apply QueryIterator.rangeFor_of_isDone
    simp [QueryIterator.begin, QueryIterator.inc, rowsOutcome, Stmt.step, Stmt.sqlite3Step, stepFailed, sqliteRow,
      sqliteDone]
  . have h := QueryIterator.inc_nil (α := α) (s := { s with prepared := true, pos := 0 }) ⟨true, none⟩ rfl
    exact QueryIterator.rangeFor_nil fuel _ _ h.2 h.1

/--
The `query_iterator` range on any statement whose result is `rs`, given room for two tests of its
condition: with no `stmt_` the first step fails and the body never runs; on a prepared statement it
never ends when `rs` is empty, and otherwise the body runs once, reading no row, when the statement
stood at `SQLITE_DONE`, and not at all when it stood before a row. No run of it reads a row.
-/
theorem iterate_eq (rs : List α) (s : Stmt) (fuel : Nat) :
    QueryIterator.iterate rs (fuel + 2) s =
      if s.prepared then
        if rs.isEmpty then none
        else if s.pos % (rs.length + 1) = rs.length then some [none] else some []
      else some [] := by
  cases hp : s.prepared
  . apply QueryIterator.rangeFor_of_isDone
    simp [QueryIterator.begin, QueryIterator.inc, Stmt.step, Stmt.sqlite3Step, stepFailed, hp, sqliteMisuse,
      sqliteDone, sqliteRow]
  . by_cases hrs : rs = []
    . subst hrs
      have h := QueryIterator.inc_nil (α := α) (s := s) ⟨true, none⟩ hp
      exact QueryIterator.rangeFor_nil _ _ _ h.2 h.1
    . have hlen : 0 < rs.length := List.length_pos.2 hrs
      by_cases hd : s.pos % (rs.length + 1) = rs.length
      . simp [QueryIterator.iterate, QueryIterator.begin, QueryIterator.inc, QueryIterator.rangeFor,
          QueryIterator.ne, QueryIterator.iterEnd, rowsOutcome, currentRow, Stmt.step, Stmt.sqlite3Step, stepFailed,
          hp, hd, hrs, succ_mod_of_eq hd, hlen, sqliteDone, sqliteRow]
      . have hlt : s.pos % (rs.length + 1) < rs.length := by
          have := Nat.mod_lt s.pos (show 0 < rs.length + 1 by omega); omega
        simp [QueryIterator.iterate, QueryIterator.begin, QueryIterator.inc, QueryIterator.rangeFor,
          QueryIterator.ne, QueryIterator.iterEnd, rowsOutcome, Stmt.step, Stmt.sqlite3Step, stepFailed, hp, hd,
          hrs, hlt, sqliteDone, sqliteRow]

end Sqlite3pp
