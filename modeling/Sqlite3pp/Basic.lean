import Mathlib.Algebra.Group.Int
import Mathlib.Algebra.Group.Nat.Basic
import Mathlib.Logic.Function.Basic

/-!
The result codes of the engine that the wrapper inspects, the wrapper's `Error` and `OptError`,
the conversion `sqlite_call` between them, and the narrowing `static_cast<int>` that the wrapper
applies to lengths, timeouts and column values on their way to and from the engine.
-/

namespace Sqlite3pp

def sqliteOk : Int := 0
def sqliteError : Int := 1
def sqliteBusy : Int := 5
def sqliteNomem : Int := 7
def sqliteTooBig : Int := 18
def sqliteMisuse : Int := 21
def sqliteRow : Int := 100
def sqliteDone : Int := 101

structure Error where
  code : Int
  deriving DecidableEq, Repr

abbrev OptError := Option Error

def sqliteCall (r : Int) : OptError :=
  if r = sqliteOk then none else some ⟨r⟩

@[simp] theorem sqliteCall_eq_none {r : Int} : sqliteCall r = none ↔ r = sqliteOk := by
  unfold sqliteCall; split <;> simp_all

@[simp] theorem sqliteCall_eq_some {r : Int} {e : Error} :
    sqliteCall r = some e ↔ r ≠ sqliteOk ∧ e = ⟨r⟩ := by
  unfold sqliteCall; split <;> simp_all [eq_comm]

@[simp] theorem sqliteCall_ok : sqliteCall sqliteOk = none := rfl

theorem bind_eq_ok {ε α β : Type} {x : Except ε α} {f : α → Except ε β} {b : β} :
    x >>= f = .ok b ↔ ∃ a, x = .ok a ∧ f a = .ok b := by
  cases x <;> simp [bind, Except.bind]

-- `static_cast<int>` of a wider integer: its value modulo `2^32`, in the `int` range.
def castInt (n : Int) : Int := n.bmod (2 ^ 32)

end Sqlite3pp
