import Sqlite3pp.Basic

/-!
The lifetime of statement handles: the `statement` constructors (with and without SQL, the one with
SQL throwing when `prepare` fails), `prepare`, `finish`, the destructor, and every other method
that hands `stmt_` to the engine, with the engine's record of each call it receives.
-/

namespace Sqlite3pp

namespace Handles

inductive HandleState where
  | unused
  | live
  | finalized
  deriving DecidableEq, Repr

inductive Call where
  | prepare (h : Nat)
  | use (h : Nat)
  | finalize (h : Nat)
  deriving DecidableEq, Repr

def Call.handle : Call → Nat
  | .prepare h | .use h | .finalize h => h

inductive PrepResult where
  | error (rc : Int) (h : rc ≠ sqliteOk)
  | empty
  | compiled
  deriving DecidableEq, Repr

structure Engine where
  handles : Nat → HandleState
  next : Nat
  log : List Call

namespace Engine

def init : Engine := ⟨fun _ => .unused, 0, []⟩

def prepareV2 (e : Engine) : PrepResult → Engine × Option Nat × Int
  | .error rc _ => (e, none, rc)
  | .empty => (e, none, sqliteOk)
  | .compiled =>
    (⟨Function.update e.handles e.next .live, e.next + 1, .prepare e.next :: e.log⟩,
      some e.next, sqliteOk)

def call (e : Engine) : Option Nat → Engine
  | none => e
  | some h => { e with log := .use h :: e.log }

-- The handle is destroyed whatever code `sqlite3_finalize` returns.
def finalize (e : Engine) (h : Nat) : Engine :=
  { e with handles := Function.update e.handles h .finalized, log := .finalize h :: e.log }

end Engine

def finish (e : Engine) (p : Option Nat) (finRc : Int) : Engine × Option Nat × OptError :=
  match p with
  | none => (e, none, none)
  | some h => ((e.call (some h)).finalize h, none, sqliteCall finRc)

def prepare (e : Engine) (p : Option Nat) (finRc : Int) (r : PrepResult) :
    Engine × Option Nat × OptError :=
  match finish e p finRc with
  | (e, p, some err) => (e, p, some err)
  | (e, _, none) =>
    let (e, p, rc) := e.prepareV2 r
    (e, p, sqliteCall rc)

structure World where
  eng : Engine
  objs : Nat → Option (Option Nat)

inductive Op where
  | mk (a : Nat)
  | mkSql (a : Nat) (r : PrepResult)
  | prepare (a : Nat) (finRc : Int) (r : PrepResult)
  | use (a : Nat)
  | finish (a : Nat) (finRc : Int)
  | destroy (a : Nat) (finRc : Int)

namespace World

def init : World := ⟨Engine.init, fun _ => none⟩

def set (w : World) (a : Nat) (p : Option Nat) : World :=
  { w with objs := Function.update w.objs a (some p) }

def erase (w : World) (a : Nat) : World :=
  { w with objs := Function.update w.objs a none }

-- A step on an address with no live object (or a construction on one that has one) is not a step.
def step (w : World) : Op → Option World
  | .mk a => if (w.objs a).isSome then none else some (w.set a none)
  | .mkSql a r =>
    if (w.objs a).isSome then none
    else
      match prepare w.eng none sqliteOk r with
      | (e, p, none) => some ({ w with eng := e }.set a p)
      | (e, _, some _) => some { w with eng := e }
  | .prepare a finRc r => do
    let p ← w.objs a
    let (e, p, _) := prepare w.eng p finRc r
    pure ({ w with eng := e }.set a p)
  | .use a => do
    let p ← w.objs a
    pure ({ w with eng := w.eng.call p })
  | .finish a finRc => do
    let p ← w.objs a
    let (e, p, _) := finish w.eng p finRc
    pure ({ w with eng := e }.set a p)
  | .destroy a finRc => do
    let p ← w.objs a
    let (e, _, _) := finish w.eng p finRc
    pure ({ w with eng := e }.erase a)

def run (w : World) : List Op → Option World
  | [] => some w
  | op :: ops => (w.step op).bind (·.run ops)

end World

inductive Reachable : World → Prop where
  | init : Reachable World.init
  | step {w w' : World} (op : Op) : Reachable w → w.step op = some w' → Reachable w'

def executeNextOps (a : Nat) (r : PrepResult) (stepOk : Bool) (finRc destroyRc : Int) : List Op :=
  [.mk a, .prepare a sqliteOk r] ++
    (match r with
     | .error _ _ => []
     | _ => .use a :: if stepOk then [.finish a finRc] else []) ++
    [.destroy a destroyRc]

end Handles

end Sqlite3pp
