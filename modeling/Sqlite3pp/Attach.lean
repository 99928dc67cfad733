import Sqlite3pp.Basic
import Mathlib.Data.List.Basic

/-!
`database::attach` and `database::detach`: the text `sqlite3_vmprintf` builds from the formats
`ATTACH '%q' AS '%q'` and `DETACH '%q'`, how the engine reads the literals back, and what the
wrapper returns.
-/

namespace Sqlite3pp

def cStr (s : List Char) : List Char := s.takeWhile (· != '\x00')

def quote : List Char → List Char
  | [] => []
  | c :: cs => if c = '\'' then '\'' :: '\'' :: quote cs else c :: quote cs

def argText : Option (List Char) → List Char
  | none => "(NULL)".toList
  | some s => cStr s

def printfQ (a : Option (List Char)) : List Char := quote (argText a)

def vmprintf : List Char → List (Option (List Char)) → List Char
  | '%' :: 'q' :: fmt, a :: args => printfQ a ++ vmprintf fmt args
  | c :: fmt, args => c :: vmprintf fmt args
  | [], _ => []

def lexLiteral : List Char → Option (List Char × List Char)
  | [] => none
  | '\'' :: '\'' :: rest => (lexLiteral rest).map fun (v, r) => ('\'' :: v, r)
  | '\'' :: rest => some ([], rest)
  | c :: rest => (lexLiteral rest).map fun (v, r) => (c :: v, r)

def parseAttach (t : List Char) : Option (List Char × List Char) := do
  let t ← t.dropPrefix? "ATTACH '".toList
  let (file, t) ← lexLiteral t
  let t ← t.dropPrefix? " AS '".toList
  let (schema, t) ← lexLiteral t
  if t.isEmpty then some (file, schema) else none

def parseDetach (t : List Char) : Option (List Char) := do
  let t ← t.dropPrefix? "DETACH '".toList
  let (schema, t) ← lexLiteral t
  if t.isEmpty then some schema else none

abbrev ExecFn := List Char → Int

def execute (exec : ExecFn) (sql : Option (List Char)) : OptError :=
  sqliteCall (match sql with | none => sqliteOk | some t => exec t)

def executef (exec : ExecFn) (mem : Bool) (fmt : List Char) (args : List (Option (List Char))) :
    OptError :=
  execute exec (if mem then some (vmprintf fmt args) else none)

def attach (exec : ExecFn) (mem : Bool) (db name : Option (List Char)) : OptError :=
  executef exec mem "ATTACH '%q' AS '%q'".toList [db, name]

def strArg (s : List Char) : Option (List Char) := if s.isEmpty then none else some s

def attachStr (exec : ExecFn) (mem : Bool) (db name : List Char) : OptError :=
  attach exec mem (strArg db) (strArg name)

def detach (exec : ExecFn) (mem : Bool) (name : Option (List Char)) : OptError :=
  executef exec mem "DETACH '%q'".toList [name]

def detachStr (exec : ExecFn) (mem : Bool) (name : List Char) : OptError :=
  detach exec mem (strArg name)

theorem lexLiteral_quote (s rest : List Char) (hr : rest.head? ≠ some '\'') :
    lexLiteral (quote s ++ '\'' :: rest) = some (s, rest) := by
  induction s with
  | nil =>
    cases rest with
    | nil => rfl
    | cons c r =>
      simp only [List.head?_cons, ne_eq, Option.some.injEq] at hr
      simp [quote, lexLiteral, hr]
  | cons c s ih =>
    by_cases hc : c = '\''
    . subst hc; simp [quote, lexLiteral, ih]
    . simp [quote, hc, lexLiteral, ih]

theorem vmprintf_attach (p q : Option (List Char)) :
    vmprintf "ATTACH '%q' AS '%q'".toList [p, q] =
      "ATTACH '".toList ++ (quote (argText p) ++ '\'' :: (" AS '".toList ++ (quote (argText q) ++ ['\'']))) := by
  simp [vmprintf, printfQ]

theorem vmprintf_detach (q : Option (List Char)) :
    vmprintf "DETACH '%q'".toList [q] = "DETACH '".toList ++ (quote (argText q) ++ ['\'']) := by
  simp [vmprintf, printfQ]

theorem attach_parses (p q : Option (List Char)) :
    ∃ t, parseAttach t = some (argText p, argText q) ∧ ∀ exec, attach exec true p q = sqliteCall (exec t) := by
  refine ⟨vmprintf "ATTACH '%q' AS '%q'".toList [p, q], ?_, fun _ => rfl⟩
  rw [vmprintf_attach]
  simp only [parseAttach, List.dropPrefix?_append_of_beq _ (beq_self_eq_true _), Option.bind_eq_bind,
    Option.some_bind]
  rw [lexLiteral_quote]
  . simp only [Option.some_bind, List.dropPrefix?_append_of_beq _ (beq_self_eq_true _)]
    rw [lexLiteral_quote] <;> simp
  . simp

theorem detach_parses (q : Option (List Char)) :
    ∃ t, parseDetach t = some (argText q) ∧ ∀ exec, detach exec true q = sqliteCall (exec t) := by
  refine ⟨vmprintf "DETACH '%q'".toList [q], ?_, fun _ => rfl⟩
  rw [vmprintf_detach]
  simp only [parseDetach, List.dropPrefix?_append_of_beq _ (beq_self_eq_true _), Option.bind_eq_bind,
    Option.some_bind]
  rw [lexLiteral_quote] <;> simp

/--
With the text formatted, `attach` and `detach` (both overloads) hand the engine exactly one
statement whose literals read back as the text of each argument, and return the engine's verdict on
it. An empty `std::string` is passed as a null pointer, whose text is `(NULL)`.
-/
theorem attach_detach_spec (p q : Option (List Char)) (db name : List Char) :
    (∃ t, parseAttach t = some (argText p, argText q) ∧
      ∀ exec, attach exec true p q = sqliteCall (exec t)) ∧
    (∃ t, parseAttach t = some (argText (strArg db), argText (strArg name)) ∧
      ∀ exec, attachStr exec true db name = sqliteCall (exec t)) ∧
    (∃ t, parseDetach t = some (argText q) ∧ ∀ exec, detach exec true q = sqliteCall (exec t)) ∧
    (∃ t, parseDetach t = some (argText (strArg name)) ∧
      ∀ exec, detachStr exec true name = sqliteCall (exec t)) :=
  ⟨attach_parses p q, attach_parses _ _, detach_parses q, detach_parses _⟩

theorem attach_detach_of_alloc_failure (exec : ExecFn) (p q : Option (List Char)) :
    attach exec false p q = none ∧ detach exec false q = none :=
  ⟨rfl, rfl⟩

theorem vmprintf_of_not_mem (fmt : List Char) (args : List (Option (List Char))) (h : '%' ∉ fmt) :
    vmprintf fmt args = fmt := by
  induction fmt with
  | nil => rfl
  | cons c fmt ih =>
    have hc : c ≠ '%' := fun hc => h (hc ▸ List.mem_cons_self _ _)
    have hrec : vmprintf (c :: fmt) args = c :: vmprintf fmt args := by
      rw [vmprintf.eq_def]
      split <;> simp_all
    rw [hrec, ih fun hm => h (List.mem_cons_of_mem _ hm)]

def synchronousPragma : Nat → Option (List Char)
  | 0 => some "PRAGMA synchronous = OFF".toList
  | 1 => some "PRAGMA synchronous = NORMAL".toList
  | 2 => some "PRAGMA synchronous = FULL".toList
  | 3 => some "PRAGMA synchronous = EXTRA".toList
  | _ => none

def synchronousMode (exec : ExecFn) (mem : Bool) (value : UInt8) : OptError :=
  match synchronousPragma value.toNat with
  | some fmt => executef exec mem fmt []
  | none => some ⟨sqliteError⟩

theorem synchronousMode_spec (exec : ExecFn) (mem : Bool) (value : UInt8) :
    synchronousMode exec mem value =
      match synchronousPragma value.toNat with
      | some t => if mem then sqliteCall (exec t) else none
      | none => some ⟨sqliteError⟩ := by
  unfold synchronousMode
  rcases hp : synchronousPragma value.toNat with _ | t
  . rfl
  . have ht : '%' ∉ t := by
      unfold synchronousPragma at hp
      split at hp <;> cases hp <;> decide
    cases mem <;> simp [executef, execute, vmprintf_of_not_mem t [] ht]

/-- An empty `std::string` file name attaches the file `(NULL)`. -/
theorem attachStr_empty :
    parseAttach "ATTACH '(NULL)' AS 'x'".toList = some ("(NULL)".toList, ['x']) ∧
      ∀ exec, attachStr exec true [] ['x'] = sqliteCall (exec "ATTACH '(NULL)' AS 'x'".toList) :=
  ⟨by decide, fun _ => rfl⟩

end Sqlite3pp
