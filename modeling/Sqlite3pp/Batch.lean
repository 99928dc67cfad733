import Sqlite3pp.StringView

/-!
`batch`: a script held as a `bmcl::StringView` (owned or borrowed), and `execute_next` /
`execute_all`, which prepare, step and finish one statement at a time through a temporary
`statement`, against an engine given by its functions.
-/

namespace Sqlite3pp

structure PrepOut (S : Type) where
  rc : Int
  stmt : Option S
  tail : Option Nat

structure Engine (σ S : Type) where
  prepare : σ → Mem → (zSql : Nat) → (nByte : Int) → σ × PrepOut S
  step : σ → S → σ × Int
  reset : σ → S → σ × Int
  finalize : σ → S → σ × Int

namespace Engine

variable {σ S : Type} (E : Engine σ S)

def stepStmt (e : σ) : Option S → σ × Int
  | none => (e, sqliteMisuse)
  | some s => E.step e s

def finish (e : σ) : Option S → σ × OptError
  | none => (e, none)
  | some s => let (e, _) := E.reset e s; let (e, rc) := E.finalize e s; (e, sqliteCall rc)

end Engine

structure Batch where
  data : Option Nat
  state : StringView
  orig : StringView
  deriving DecidableEq, Repr

namespace Batch

variable {σ S : Type} (E : Engine σ S)

def init : Batch := ⟨none, .null, .null⟩

-- The copy into `data_` is made when `fcopy` converts to `true`, that is for `nocopy`.
def prepare (m : Mem) (b : Batch) (stmt : StringView) (fcopy : CopySemantic) (addr : Nat) :
    Mem × Batch :=
  if !stmt.isEmpty && fcopy.toUInt8 != 0 then
    let orig : StringView := ⟨addr, stmt.size⟩
    (write m addr (stmt.text m), { b with data := some addr, orig, state := orig })
  else (m, { b with orig := stmt, state := stmt })

def mkPrepared (m : Mem) (stmt : StringView) (fcopy : CopySemantic) (addr : Nat) : Mem × Batch :=
  init.prepare m stmt fcopy addr

def reset (b : Batch) : Batch := { b with state := b.orig }

-- Every return leaves through the temporary's destructor, which finishes a statement still set.
def executeNext (m : Mem) (e : σ) (b : Batch) : σ × Batch × Except Error Bool :=
  let st := b.state.ltrim m
  let b := { b with state := st }
  if st.isEmpty then (e, b, .ok false)
  else
    let (e, out) := E.prepare e m st.ptr st.nByte
    let view := StringView.ofRange (out.tail.getD 0) st.end
    match sqliteCall out.rc with
    | some err => ((E.finish e out.stmt).1, b, .error err)
    | none =>
      let (e, r) := E.stepStmt e out.stmt
      if r ≠ sqliteDone ∧ r ≠ sqliteRow then ((E.finish e out.stmt).1, b, .error ⟨r⟩)
      else
        match E.finish e out.stmt with
        | (e, some err) => (e, b, .error err)
        | (e, none) => (e, { b with state := view }, .ok !view.isEmpty)

def executeAll (m : Mem) : Nat → σ → Batch → Option (σ × Batch × OptError)
  | 0, _, _ => none
  | fuel + 1, e, b =>
    match executeNext E m e b with
    | (e, b, .error err) => some (e, b, some err)
    | (e, b, .ok true) => executeAll m fuel e b
    | (e, b, .ok false) => some (e, b, none)

end Batch

end Sqlite3pp
