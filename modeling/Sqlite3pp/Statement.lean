import Sqlite3pp.Basic

/-!
Executing a prepared statement: `statement::reset`, `step` and `exec`, `selecter::exec` and
`next`, and `inserter::insert`, against an engine whose `sqlite3_reset` reports the error of the
statement's most recent failed step.
-/

namespace Sqlite3pp

structure StepOutcome where
  rc : Int
  inserted : List Int
  deriving DecidableEq, Repr

structure Stmt where
  prepared : Bool
  pos : Nat
  err : Option Int
  steps : List Nat
  lastRowid : Int
  deriving DecidableEq, Repr

def stepFailed (rc : Int) : Bool := !(rc = sqliteRow || rc = sqliteDone)

namespace Stmt

-- `sqlite3_reset` rewinds and reports the error of the most recent failed step.
def sqlite3Reset (s : Stmt) : Stmt × Int :=
  if !s.prepared then (s, sqliteOk)
  else ({ s with pos := 0, err := none }, s.err.getD sqliteOk)

-- `sqlite3_step`: a null statement is refused with `SQLITE_MISUSE`. A step that fails with
-- `SQLITE_BUSY` stays where it was, so the next step retries it; any other failure halts the
-- statement, and the next step starts it again from the beginning.
def sqlite3Step (s : Stmt) (o : StepOutcome) : Stmt × Int :=
  if !s.prepared then (s, sqliteMisuse)
  else
    ({ s with pos := if !stepFailed o.rc then s.pos + 1 else if o.rc = sqliteBusy then s.pos else 0,
              err := if stepFailed o.rc then some o.rc else none,
              steps := s.steps ++ [s.pos], lastRowid := o.inserted.getLast?.getD s.lastRowid },
      o.rc)

def reset (s : Stmt) : Stmt × OptError :=
  let (s, r) := s.sqlite3Reset
  (s, sqliteCall r)

def step (s : Stmt) (o : StepOutcome) : Stmt × Except Error Bool :=
  let (s, r) := s.sqlite3Step o
  (s, if r = sqliteDone then .ok false else if r = sqliteRow then .ok true else .error ⟨r⟩)

def exec (s : Stmt) (o : StepOutcome) : Stmt × OptError :=
  if !s.prepared then (s, some ⟨sqliteMisuse⟩)
  else
    match s.reset with
    | (s, some e) => (s, some e)
    | (s, none) =>
      let (s, r) := s.sqlite3Step o
      (s, if r = sqliteDone ∨ r = sqliteRow ∨ r = sqliteOk then none else some ⟨r⟩)

def selecterExec (s : Stmt) : Stmt × OptError :=
  if !s.prepared then (s, some ⟨sqliteMisuse⟩) else s.reset

def next (s : Stmt) (o : StepOutcome) : Stmt × Bool :=
  match s.step o with
  | (s, .ok b) => (s, b)
  | (s, .error _) => (s, false)

def lastInsertRowid (s : Stmt) : Option Int :=
  if s.lastRowid > 0 then some s.lastRowid else none

def insert (s : Stmt) (o : StepOutcome) : Stmt × Except Error Int :=
  match s.step o with
  | (s, .error e) => (s, .error e)
  | (s, .ok _) =>
    match s.lastInsertRowid with
    | some id => (s, .ok id)
    | none => (s, .error ⟨sqliteMisuse⟩)

end Stmt

end Sqlite3pp
