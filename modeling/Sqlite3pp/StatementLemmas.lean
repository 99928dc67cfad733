import Sqlite3pp.Statement

/-!
How `exec` and `insert` depend on the statement's history: `exec` runs the statement once from its
beginning only while no failed step is pending, and `insert` reports the connection's last insert
rowid whenever it is positive.
-/

namespace Sqlite3pp

namespace Stmt

variable {s : Stmt} {o : StepOutcome}

/-- With no failed step pending, `exec` steps exactly once, from the beginning. -/
theorem exec_of_clean (hp : s.prepared = true) (he : s.err = none) :
    (s.exec o).1.steps = s.steps ++ [0] ∧
      ((s.exec o).2 = none ↔ o.rc = sqliteDone ∨ o.rc = sqliteRow ∨ o.rc = sqliteOk) := by
  simp only [exec, reset, sqlite3Reset, hp, he, Bool.not_true, if_false, Option.getD_none,
    sqliteCall_ok, sqlite3Step, stepFailed, Bool.false_eq_true]
  refine ⟨trivial, ?_⟩
  split_ifs with h <;> simp [h]

theorem exec_of_failed (hp : s.prepared = true) (he : s.err = some e) (hok : e ≠ sqliteOk) :
    s.exec o = ({ s with pos := 0, err := none }, some ⟨e⟩) ∧
      s.selecterExec = ({ s with pos := 0, err := none }, some ⟨e⟩) := by
  simp [exec, selecterExec, reset, sqlite3Reset, hp, he, sqliteCall, hok]

end Stmt

/--
A statement whose `exec` met `SQLITE_BUSY`: the retry returns the stale `SQLITE_BUSY` without
stepping, and `selecter::exec` reports it too after rewinding.
-/
theorem exec_after_busy :
    ∃ s₁ : Stmt, Stmt.exec ⟨true, 0, none, [], 0⟩ ⟨sqliteBusy, []⟩ = (s₁, some ⟨sqliteBusy⟩) ∧
      Stmt.exec s₁ ⟨sqliteDone, []⟩ = ({ s₁ with pos := 0, err := none }, some ⟨sqliteBusy⟩) ∧
      s₁.steps = [0] ∧ Stmt.selecterExec s₁ = ({ s₁ with pos := 0, err := none }, some ⟨sqliteBusy⟩) :=
  ⟨_, rfl, by decide, rfl, by decide⟩

namespace Stmt

theorem insert_snd (s : Stmt) (o : StepOutcome) :
    (s.insert o).2 =
      if s.prepared then
        if o.rc = sqliteDone ∨ o.rc = sqliteRow then
          if 0 < o.inserted.getLast?.getD s.lastRowid then .ok (o.inserted.getLast?.getD s.lastRowid)
          else .error ⟨sqliteMisuse⟩
        else .error ⟨o.rc⟩
      else .error ⟨sqliteMisuse⟩ := by
  cases hp : s.prepared
  . simp [insert, step, sqlite3Step, hp, sqliteMisuse, sqliteDone, sqliteRow]
  by_cases hs : o.rc = sqliteDone ∨ o.rc = sqliteRow
  . rcases hs with hs | hs <;>
      simp [insert, step, sqlite3Step, stepFailed, hp, hs, lastInsertRowid, sqliteDone, sqliteRow] <;>
      split_ifs <;> rfl
  . simp only [not_or] at hs
    simp [insert, step, sqlite3Step, hp, hs]

/--
`insert()` returns `Ok r` exactly when the statement is prepared, its step succeeded and the
connection's last insert rowid afterwards is `r` with `r > 0`; otherwise it returns the step's
error (`SQLITE_MISUSE` when no statement is prepared), or `SQLITE_MISUSE` when the step succeeded
but the last insert rowid is not positive.
-/
theorem insert_spec (s : Stmt) (o : StepOutcome) (r : Int) (e : Error) :
    ((s.insert o).2 = .ok r ↔ s.prepared ∧ (o.rc = sqliteDone ∨ o.rc = sqliteRow) ∧
      o.inserted.getLast?.getD s.lastRowid = r ∧ 0 < r) ∧
    ((s.insert o).2 = .error e ↔
      s.prepared = false ∧ e = ⟨sqliteMisuse⟩ ∨
      s.prepared ∧ ¬(o.rc = sqliteDone ∨ o.rc = sqliteRow) ∧ e = ⟨o.rc⟩ ∨
      s.prepared ∧ (o.rc = sqliteDone ∨ o.rc = sqliteRow) ∧
        o.inserted.getLast?.getD s.lastRowid ≤ 0 ∧ e = ⟨sqliteMisuse⟩) := by
  rw [insert_snd]
  split_ifs with hp hs hr <;> simp only [Except.ok.injEq, Except.error.injEq, reduceCtorEq, false_iff]
  . refine ⟨⟨fun h => ⟨hp, hs, h, h ▸ hr⟩, fun h => h.2.2.1⟩, ?_⟩
    rintro (⟨h, -⟩ | ⟨-, h, -⟩ | ⟨-, -, h, -⟩)
    . simp [hp] at h
    . exact h hs
    . omega
  . refine ⟨fun h => hr (h.2.2.1 ▸ h.2.2.2), fun h => .inr (.inr ⟨hp, hs, by omega, h.symm⟩), ?_⟩
    rintro (⟨h, -⟩ | ⟨-, h, -⟩ | ⟨-, -, -, rfl⟩)
    . simp [hp] at h
    . exact absurd hs h
    . rfl
  . refine ⟨fun h => hs h.2.1, fun h => .inr (.inl ⟨hp, hs, h.symm⟩), ?_⟩
    rintro (⟨h, -⟩ | ⟨-, -, rfl⟩ | ⟨-, h, -⟩)
    . simp [hp] at h
    . rfl
    . exact absurd h hs
  . refine ⟨fun h => hp h.1, fun h => .inl ⟨by simpa using hp, h.symm⟩, ?_⟩
    rintro (⟨-, rfl⟩ | ⟨h, -⟩ | ⟨h, -⟩)
    . rfl
    . exact absurd h hp
    . exact absurd h hp

end Stmt

/--
A row inserted with rowid `0` is reported as `SQLITE_MISUSE`, and an insert that inserts nothing
(`INSERT OR IGNORE`) returns the connection's earlier rowid.
-/
theorem insert_misreports :
    (Stmt.insert ⟨true, 0, none, [], 7⟩ ⟨sqliteDone, [0]⟩).2 = .error ⟨sqliteMisuse⟩ ∧
      (Stmt.insert ⟨true, 0, none, [], 7⟩ ⟨sqliteDone, []⟩).2 = .ok 7 :=
  ⟨rfl, rfl⟩

end Sqlite3pp
