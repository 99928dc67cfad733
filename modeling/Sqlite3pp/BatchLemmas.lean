import Sqlite3pp.Batch

/-!
What every `execute_next()` does to the engine, and runs of `batch` on a small engine whose statements end at `;`: a script with a segment that
compiles to no statement, and a script whose caller overwrites its buffer after `prepare(s, copy)`.
-/

namespace Sqlite3pp

namespace Batch

variable {σ S : Type} (E : Engine σ S)

theorem executeNext_engine (m : Mem) (e : σ) (b : Batch) :
    (executeNext E m e b).1 =
      if (b.state.ltrim m).isEmpty then e
      else
        let (e, out) := E.prepare e m (b.state.ltrim m).ptr (b.state.ltrim m).nByte
        (E.finish (if out.rc = sqliteOk then (E.stepStmt e out.stmt).1 else e) out.stmt).1 := by
  unfold executeNext
  dsimp only
  split_ifs <;> simp only [sqliteCall, *, if_true, if_false]
  split <;> simp_all

theorem prepare_nocopy_owns {m m' : Mem} {b b' : Batch} {stmt : StringView} {addr : Nat}
    (hs : stmt.size ≠ 0) (hp : b.prepare m stmt .nocopy addr = (m', b')) :
    b'.data = some addr ∧ b'.orig = ⟨addr, stmt.size⟩ ∧ b'.state = b'.orig ∧
      ∀ q cs, q + cs.length ≤ addr ∨ addr + stmt.size ≤ q → b'.orig.text (write m' q cs) = stmt.text m := by
  have hc : (!stmt.isEmpty && CopySemantic.nocopy.toUInt8 != 0) = true := by
    simp [StringView.isEmpty, hs, CopySemantic.toUInt8]
  simp only [prepare, hc, if_true, Prod.mk.injEq] at hp
  obtain ⟨rfl, rfl⟩ := hp
  refine ⟨rfl, rfl, rfl, fun q cs hd => ?_⟩
  have hself := read_write_self m addr (stmt.text m)
  simp only [StringView.text, length_read] at hself ⊢
  rw [read_write_of_disjoint _ _ _ (by omega), hself]

end Batch

def scriptMem (s : List Char) : Mem := fun a => s.getD a '\x00'

-- A statement ends at `;`, a segment of whitespace compiles to no statement, every step and
-- finalize succeeds, and the state lists the statements stepped.
def semicolonEngine : Engine (List (List Char)) (List Char) where
  prepare log m p n :=
    let t := read m p n.toNat
    let seg := t.takeWhile (· != ';')
    (log, ⟨sqliteOk, if seg.all isSpace then none else some seg,
      some (p + min t.length (seg.length + 1))⟩)
  step log s := (log ++ [s], sqliteDone)
  reset log _ := (log, sqliteOk)
  finalize log _ := (log, sqliteOk)

/--
`SELECT 1;;`: after running `SELECT 1`, `execute_next` prepares `;`, which compiles to no statement,
steps the null statement and fails with `SQLITE_MISUSE`; `execute_all` reports it.
-/
theorem executeAll_empty_segment :
    Batch.executeAll semicolonEngine
        (Batch.mkPrepared (scriptMem "SELECT 1;;".toList) ⟨0, 10⟩ .nocopy 100).1 4 []
        (Batch.mkPrepared (scriptMem "SELECT 1;;".toList) ⟨0, 10⟩ .nocopy 100).2 =
      some (["SELECT 1".toList], ⟨some 100, ⟨109, 1⟩, ⟨100, 10⟩⟩, some ⟨sqliteMisuse⟩) := by
  decide

/--
`prepare(s, copy)` keeps a view of the caller's buffer and `prepare(s, nocopy)` makes the copy; once
the caller writes `y;` over its `x;`, `execute_all` runs `y`.
-/
theorem prepare_copy_borrows :
    (Batch.mkPrepared (scriptMem "x;".toList) ⟨0, 2⟩ .copy 100).2 = ⟨none, ⟨0, 2⟩, ⟨0, 2⟩⟩ ∧
      (Batch.mkPrepared (scriptMem "x;".toList) ⟨0, 2⟩ .nocopy 100).2 =
        ⟨some 100, ⟨100, 2⟩, ⟨100, 2⟩⟩ ∧
      (Batch.executeAll semicolonEngine (write (scriptMem "x;".toList) 0 "y;".toList) 4 []
          (Batch.mkPrepared (scriptMem "x;".toList) ⟨0, 2⟩ .copy 100).2).map
        (fun r => (r.1, r.2.2)) = some ([['y']], none) := by
  decide

end Sqlite3pp
