import Sqlite3pp.Basic

/-!
The `transaction` guard: `BEGIN` in the constructor, `commit()`, `rollback()`, and the destructor
that commits or rolls back, against a connection whose transaction state follows the engine.
-/

namespace Sqlite3pp

inductive TxStmt where
  | begin (immediate : Bool)
  | commit
  | rollback
  deriving DecidableEq, Repr

def TxStmt.isEnd : TxStmt → Bool
  | .begin _ => false
  | _ => true

-- The engine's reply to a statement: its result code, and for a `COMMIT` that fails with a code
-- other than `SQLITE_BUSY`, whether the transaction is still active (`SQLITE_IOERR`, `SQLITE_FULL`
-- and `SQLITE_NOMEM` may roll it back).
structure Reply where
  rc : Int
  keep : Bool
  deriving DecidableEq, Repr

-- `BEGIN` inside a transaction and `COMMIT` or `ROLLBACK` outside one fail with `SQLITE_ERROR`; a
-- `COMMIT` that fails with `SQLITE_BUSY` leaves the transaction active; `ROLLBACK` of an active
-- transaction succeeds.
def TxStmt.respond (active : Bool) (r : Reply) : TxStmt → Int × Bool
  | .begin _ => if active then (sqliteError, true) else if r.rc = sqliteOk then (sqliteOk, true) else (r.rc, false)
  | .commit =>
    if !active then (sqliteError, false) else if r.rc = sqliteOk then (sqliteOk, false)
    else (r.rc, r.rc = sqliteBusy || r.keep)
  | .rollback => if !active then (sqliteError, false) else (sqliteOk, false)

structure Conn where
  active : Bool
  log : List (TxStmt × Int)
  deriving DecidableEq, Repr

namespace Conn

def execute (c : Conn) (s : TxStmt) (r : Reply) : Conn × OptError :=
  let (rc, active) := s.respond c.active r
  (⟨active, c.log ++ [(s, rc)]⟩, sqliteCall rc)

def begin (c : Conn) (immediate : Bool) (r : Reply) : Conn × OptError := c.execute (.begin immediate) r

def commit (c : Conn) (r : Reply) : Conn × OptError := c.execute .commit r

def rollback (c : Conn) (r : Reply) : Conn × OptError := c.execute .rollback r

end Conn

structure Transaction where
  db : Bool
  fcommit : Bool
  deriving DecidableEq, Repr

namespace Transaction

def mkBegin (c : Conn) (fcommit immediate : Bool) (r : Reply) : Conn × Transaction :=
  let (c, e) := c.begin immediate r
  (c, ⟨e.isNone, fcommit⟩)

-- `commit()` and `rollback()`: without `db_` the call is refused with `SQLITE_MISUSE`; otherwise
-- `db_` is cleared before the statement is sent, whatever its result.
def release (send : Conn → Reply → Conn × OptError) (c : Conn) (g : Transaction) (r : Reply) :
    Conn × Transaction × OptError :=
  if !g.db then (c, g, some ⟨sqliteMisuse⟩)
  else
    let (c, e) := send c r
    (c, { g with db := false }, e)

def commit := release Conn.commit
def rollback := release Conn.rollback

def destroy (c : Conn) (g : Transaction) (r : Reply) : Conn :=
  if !g.db then c else (if g.fcommit then c.commit r else c.rollback r).1

inductive Call where
  | commit (r : Reply)
  | rollback (r : Reply)
  deriving DecidableEq, Repr

def Call.apply (c : Conn) (g : Transaction) : Call → Conn × Transaction × OptError
  | .commit r => g.commit c r
  | .rollback r => g.rollback c r

def Call.stmt : Call → TxStmt
  | .commit _ => .commit
  | .rollback _ => .rollback

def Call.reply : Call → Reply
  | .commit r | .rollback r => r

def run (c : Conn) (g : Transaction) : List Call → Conn × Transaction × List OptError
  | [] => (c, g, [])
  | k :: ks =>
    let (c, g, e) := k.apply c g
    let (c, g, es) := run c g ks
    (c, g, e :: es)

theorem run_released (c : Conn) (g : Transaction) (hg : g.db = false) (ks : List Call) :
    run c g ks = (c, g, ks.map fun _ => some ⟨sqliteMisuse⟩) := by
  induction ks with
  | nil => rfl
  | cons k ks ih => cases k <;> simp [run, Call.apply, commit, rollback, release, hg, ih]

theorem run_cons_held (c : Conn) (g : Transaction) (hg : g.db = true) (k : Call) (ks : List Call) :
    run c g (k :: ks) =
      match k with
      | .commit r => ((c.commit r).1, { g with db := false },
          (c.commit r).2 :: ks.map fun _ => some ⟨sqliteMisuse⟩)
      | .rollback r => ((c.rollback r).1, { g with db := false },
          (c.rollback r).2 :: ks.map fun _ => some ⟨sqliteMisuse⟩) := by
  cases k <;> simp [run, Call.apply, commit, rollback, release, hg, run_released]

end Transaction

def lifetime (c : Conn) (fcommit immediate : Bool) (beginRc : Int) (calls : List Transaction.Call)
    (dtor : Reply) : Conn × List OptError :=
  let (c, g) := Transaction.mkBegin c fcommit immediate ⟨beginRc, false⟩
  let (c, g, es) := Transaction.run c g calls
  (Transaction.destroy c g dtor, es)

/-- A guard whose `commit()` meets `SQLITE_BUSY` leaves the transaction it began active. -/
theorem lifetime_commit_busy :
    lifetime ⟨false, []⟩ false false sqliteOk [.commit ⟨sqliteBusy, false⟩] ⟨sqliteOk, false⟩ =
      (⟨true, [(.begin false, sqliteOk), (.commit, sqliteBusy)]⟩, [some ⟨sqliteBusy⟩]) := by
  decide

theorem lifetime_of_begin (c : Conn) (hc : c.active = false) (fcommit immediate : Bool)
    (calls : List Transaction.Call) (dtor : Reply) :
    lifetime c fcommit immediate sqliteOk calls dtor =
      (((⟨true, c.log ++ [(.begin immediate, sqliteOk)]⟩ : Conn).execute
          ((calls.head?.map Transaction.Call.stmt).getD (if fcommit then .commit else .rollback))
          ((calls.head?.map Transaction.Call.reply).getD dtor)).1,
        (calls.take 1).map (fun _ => ((⟨true, c.log ++ [(.begin immediate, sqliteOk)]⟩ : Conn).execute
          ((calls.head?.map Transaction.Call.stmt).getD (if fcommit then .commit else .rollback))
          ((calls.head?.map Transaction.Call.reply).getD dtor)).2) ++
          (calls.drop 1).map fun _ => some ⟨sqliteMisuse⟩) := by
  have hb : Transaction.mkBegin c fcommit immediate ⟨sqliteOk, false⟩ =
      (⟨true, c.log ++ [(.begin immediate, sqliteOk)]⟩, ⟨true, fcommit⟩) := by
    simp [Transaction.mkBegin, Conn.begin, Conn.execute, TxStmt.respond, hc]
  cases calls with
  | nil => cases fcommit <;> simp [lifetime, hb, Transaction.run, Transaction.destroy, Conn.commit, Conn.rollback]
  | cons k ks =>
    cases k <;> simp [lifetime, hb, Transaction.run_cons_held, Transaction.destroy, Conn.commit,
      Conn.rollback, Transaction.Call.stmt, Transaction.Call.reply]

theorem end_spec (c : Conn) (hc : c.active = true) (s : TxStmt) (hs : s.isEnd) (r : Reply) :
    ∃ re, (c.execute s r).1.log = c.log ++ [(s, re)] ∧
      ((c.execute s r).1.active → s = .commit ∧ re ≠ sqliteOk) ∧
      (s = .commit ∧ re = sqliteBusy → (c.execute s r).1.active) ∧ (c.execute s r).2 = sqliteCall re := by
  cases s with
  | begin => simp [TxStmt.isEnd] at hs
  | commit =>
    by_cases hrc : r.rc = sqliteOk
    . exact ⟨sqliteOk, by simp [Conn.execute, TxStmt.respond, hc, hrc, sqliteOk, sqliteBusy]⟩
    . exact ⟨r.rc, by simp [Conn.execute, TxStmt.respond, hc, hrc]; exact .inl⟩
  | rollback => exact ⟨sqliteOk, by simp [Conn.execute, TxStmt.respond, hc, sqliteOk]⟩

/--
Over every life of a guard and every engine reply: it sends an end statement only after its `BEGIN`
succeeded, and at most one (exactly one when `BEGIN` succeeded); the first `commit()` or
`rollback()` returns that statement's result and every later one `SQLITE_MISUSE` (all of them when
`BEGIN` failed); and after destruction the transaction it began is still active only if that end
statement was a `COMMIT` that failed, and is when that `COMMIT` failed with `SQLITE_BUSY`.
-/
theorem lifetime_spec (c : Conn) (fcommit immediate : Bool) (beginRc : Int)
    (calls : List Transaction.Call) (dtor : Reply) :
    (∃ rb, rb ≠ sqliteOk ∧ lifetime c fcommit immediate beginRc calls dtor =
      (⟨c.active, c.log ++ [(.begin immediate, rb)]⟩, calls.map fun _ => some ⟨sqliteMisuse⟩)) ∨
    (∃ s re, s.isEnd ∧
      (lifetime c fcommit immediate beginRc calls dtor).1.log =
        c.log ++ [(.begin immediate, sqliteOk), (s, re)] ∧
      ((lifetime c fcommit immediate beginRc calls dtor).1.active → s = .commit ∧ re ≠ sqliteOk) ∧
      (s = .commit ∧ re = sqliteBusy → (lifetime c fcommit immediate beginRc calls dtor).1.active) ∧
      (lifetime c fcommit immediate beginRc calls dtor).2 =
        (calls.take 1).map (fun _ => sqliteCall re) ++ (calls.drop 1).map fun _ => some ⟨sqliteMisuse⟩) := by
  by_cases hact : c.active = true
  . refine .inl ⟨sqliteError, by decide, ?_⟩
    simp [lifetime, Transaction.mkBegin, Conn.begin, Conn.execute, TxStmt.respond, hact, sqliteCall,
      sqliteError, sqliteOk, Transaction.run_released, Transaction.destroy]
  by_cases hrc : beginRc = sqliteOk
  . subst hrc
    rw [lifetime_of_begin c (by simpa using hact)]
    have hs : ((calls.head?.map Transaction.Call.stmt).getD (if fcommit then .commit else .rollback)).isEnd := by
      cases calls with
      | nil => cases fcommit <;> rfl
      | cons k _ => cases k <;> rfl
    obtain ⟨re, hlog, ha, hbusy, he⟩ :=
      end_spec ⟨true, c.log ++ [(.begin immediate, sqliteOk)]⟩ rfl _ hs ((calls.head?.map Transaction.Call.reply).getD dtor)
    exact .inr ⟨_, re, hs, by simpa using hlog, ha, hbusy, by rw [he]⟩
  . refine .inl ⟨beginRc, hrc, ?_⟩
    simp [lifetime, Transaction.mkBegin, Conn.begin, Conn.execute, TxStmt.respond, hact, hrc, sqliteCall,
      Transaction.run_released, Transaction.destroy]

end Sqlite3pp
