import Sqlite3pp.Basic

/-!
The `database` object over the engine's table of connections: the three constructors, `connect`,
`disconnect`, the move constructor and move assignment, the destructor and the
`set_*_handler` family, for every result `sqlite3_open_v2` and `sqlite3_close` can return.
-/

namespace Sqlite3pp

inductive Ptr where
  | null
  | conn (h : Nat)
  -- `db_` never written: the named constructors leave it uninitialised.
  | indeterminate
  deriving DecidableEq, Repr

inductive Fault where
  | indeterminateRead
  | noObject
  deriving DecidableEq, Repr

def Ptr.read : Ptr → Except Fault (Option Nat)
  | .null => .ok none
  | .conn h => .ok (some h)
  | .indeterminate => .error .indeterminateRead

inductive ConnState where
  | unused
  | opened
  | failed
  | closed
  deriving DecidableEq, Repr

def ConnState.isOpen : ConnState → Bool
  | .opened | .failed => true
  | _ => false

inductive Hook where
  | busy | commit | rollback | update | authorize
  deriving DecidableEq, Repr

inductive OpenResult where
  | ok
  | failed (rc : Int) (h : rc ≠ sqliteOk)
  | noMem
  deriving DecidableEq, Repr

structure Connections where
  conns : Nat → ConnState
  hooks : Nat → Hook → Option Nat
  next : Nat

namespace Connections

def init : Connections := ⟨fun _ => .unused, fun _ _ => none, 0⟩

def openV2 (e : Connections) : OpenResult → Connections × Ptr × Int
  | .ok =>
    ({ e with conns := Function.update e.conns e.next .opened, next := e.next + 1 },
      .conn e.next, sqliteOk)
  | .failed rc _ =>
    ({ e with conns := Function.update e.conns e.next .failed, next := e.next + 1 },
      .conn e.next, rc)
  | .noMem => (e, .null, sqliteNomem)

-- Any code but `SQLITE_OK` (such as `SQLITE_BUSY` while statements are live) leaves it open.
def close (e : Connections) (h : Nat) (rc : Int) : Connections :=
  if rc = sqliteOk then
    { e with conns := Function.update e.conns h .closed,
             hooks := Function.update e.hooks h fun _ => none }
  else e

def setHook (e : Connections) (p : Option Nat) (k : Hook) (ctx : Option Nat) : Connections :=
  match p with
  | none => e
  | some h => { e with hooks := Function.update e.hooks h (Function.update (e.hooks h) k ctx) }

end Connections

structure Database where
  db : Ptr
  handler : Hook → Bool

namespace Database

def noHandlers : Hook → Bool := fun _ => false

def mkDefault : Database := ⟨.null, noHandlers⟩

def disconnect (e : Connections) (d : Database) (closeRc : Int) :
    Except Fault (Connections × Database × OptError) := do
  match ← d.db.read with
  | none => pure (e, d, none)
  | some h =>
    let r := sqliteCall closeRc
    pure (e.close h closeRc, if r.isNone then { d with db := .null } else d, r)

def connect (e : Connections) (d : Database) (closeRc : Int) (res : OpenResult) :
    Except Fault (Connections × Database × OptError) := do
  let (e, d, _) ← d.disconnect e closeRc
  let (e, p, rc) := e.openV2 res
  pure (e, { d with db := p }, sqliteCall rc)

def mkNamed (e : Connections) (closeRc : Int) (res : OpenResult) : Except Fault (Connections × Database) := do
  let (e, d, _) ← connect e ⟨.indeterminate, noHandlers⟩ closeRc res
  pure (e, d)

def setHandler (k : Hook) (e : Connections) (self : Nat) (d : Database) (h : Bool) :
    Except Fault (Connections × Database) := do
  let d := { d with handler := Function.update d.handler k h }
  let p ← d.db.read
  pure (e.setHook p k (if h then some self else none), d)

def busyTimeoutArg (ms : Int) : Int := castInt ms

def setBusyTimeout (sqlite3BusyTimeout : Int → Int) (ms : Int) : OptError :=
  sqliteCall (sqlite3BusyTimeout (busyTimeoutArg ms))

def setBusyHandler := setHandler .busy
def setCommitHandler := setHandler .commit
def setRollbackHandler := setHandler .rollback
def setUpdateHandler := setHandler .update
def setAuthorizeHandler := setHandler .authorize

end Database

structure World where
  engine : Connections
  objs : Nat → Option Database

inductive Op where
  | mkDefault (a : Nat)
  | mkNamed (a : Nat) (closeRc : Int) (res : OpenResult)
  | mkMove (a src : Nat)
  | moveAssign (a src : Nat)
  | connect (a : Nat) (closeRc : Int) (res : OpenResult)
  | disconnect (a : Nat) (closeRc : Int)
  | setHandler (a : Nat) (k : Hook) (h : Bool)
  | destroy (a : Nat) (closeRc : Int)

namespace World

def init : World := ⟨Connections.init, fun _ => none⟩

def get (w : World) (a : Nat) : Except Fault Database :=
  match w.objs a with
  | some d => .ok d
  | none => .error .noObject

def vacant (w : World) (a : Nat) : Except Fault Unit :=
  match w.objs a with
  | some _ => .error .noObject
  | none => .ok ()

def set (w : World) (a : Nat) (d : Database) : World :=
  { w with objs := Function.update w.objs a (some d) }

def erase (w : World) (a : Nat) : World :=
  { w with objs := Function.update w.objs a none }

def moveAssign (w : World) (a src : Nat) : Except Fault World := do
  let d ← w.get a
  let s ← w.get src
  if a = src then
    pure (w.set a { d with db := .null })
  else
    pure ((w.set a { db := s.db, handler := s.handler }).set src ⟨.null, Database.noHandlers⟩)

def step (w : World) : Op → Except Fault World
  | .mkDefault a => do
    w.vacant a
    pure (w.set a Database.mkDefault)
  | .mkNamed a closeRc res => do
    w.vacant a
    let (e, d) ← Database.mkNamed w.engine closeRc res
    pure ({ w with engine := e }.set a d)
  | .mkMove a src => do
    w.vacant a
    let s ← w.get src
    pure ((w.set src ⟨.null, Database.noHandlers⟩).set a s)
  | .moveAssign a src => w.moveAssign a src
  | .connect a closeRc res => do
    let d ← w.get a
    let (e, d, _) ← d.connect w.engine closeRc res
    pure ({ w with engine := e }.set a d)
  | .disconnect a closeRc => do
    let d ← w.get a
    let (e, d, _) ← d.disconnect w.engine closeRc
    pure ({ w with engine := e }.set a d)
  | .setHandler a k h => do
    let d ← w.get a
    let (e, d) ← Database.setHandler k w.engine a d h
    pure ({ w with engine := e }.set a d)
  | .destroy a closeRc => do
    let d ← w.get a
    let (e, _, _) ← d.disconnect w.engine closeRc
    pure ({ w with engine := e }.erase a)

def run (w : World) : List Op → Except Fault World
  | [] => .ok w
  | op :: ops => w.step op >>= (·.run ops)

end World

inductive Reachable : World → Prop where
  | init : Reachable World.init
  | step {w w' : World} (op : Op) : Reachable w → w.step op = .ok w' → Reachable w'

end Sqlite3pp
