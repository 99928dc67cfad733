import Sqlite3pp.Basic
import Mathlib.Data.List.Basic
import Mathlib.Data.Nat.Find

/-!
Reading a result column by name: `selecter::column_index`, the linear search over the names the
engine reports for the result's columns, and the `row` accessors that take a name (`get<T>`,
`type`, `bytes`, `is_null`), which read the column at the index the search returns.
-/

namespace Sqlite3pp

inductive DataType where
  | integer
  | float
  | text
  | blob
  | null
  deriving DecidableEq, Repr

def columnInt (v : Int) : Int := castInt v

def getInt (v : Int) : Int := columnInt v

def getInt64 (v : Int) : Int := v

def columnIndex (cols : List (List Char)) (name : List Char) : Option Nat :=
  go cols.length 0
where
  go : Nat → Nat → Option Nat
    | 0, _ => none
    | n + 1, i => if name = cols.getD i [] then some i else go n (i + 1)

def byName {β : Type} (cols : List (List Char)) (name : List Char) (dflt : β) (f : Nat → β) : β :=
  match columnIndex cols name with
  | none => dflt
  | some i => f i

def getByName {α : Type} (cols : List (List Char)) (get : Nat → α) (zero : α) (name : List Char) : α :=
  byName cols name zero get

def typeByName (cols : List (List Char)) (type : Nat → DataType) (name : List Char) : DataType :=
  byName cols name .null type

def bytesByName (cols : List (List Char)) (bytes : Nat → Nat) (name : List Char) : Nat :=
  byName cols name 0 bytes

def isNullAt (type : Nat → DataType) (idx : Nat) : Bool := type idx == .null

def isNullByName (cols : List (List Char)) (type : Nat → DataType) (name : List Char) : Bool :=
  typeByName cols type name == .null

namespace columnIndex

variable {cols : List (List Char)} {name : List Char}

theorem go_eq_some (n i : Nat) (hn : i + n = cols.length) (j : Nat) :
    go cols name n i = some j ↔
      i ≤ j ∧ cols[j]? = some name ∧ ∀ k, i ≤ k → k < j → cols[k]? ≠ some name := by
  induction n generalizing i with
  | zero =>
    simp only [go, reduceCtorEq, false_iff, not_and]
    intro hij hj
    have := (List.getElem?_eq_some_iff.1 hj).1
    omega
  | succ n ih =>
    have hi : i < cols.length := by omega
    have hget : cols[i]? = some (cols.getD i []) := by simp [hi]
    simp only [go]
    split_ifs with hm
    . simp only [Option.some.injEq]
      constructor
      . rintro rfl
        exact ⟨le_rfl, hm ▸ hget, fun k hik hki => absurd hki (by omega)⟩
      . rintro ⟨hij, hj, hk⟩
        by_contra hne
        exact hk i le_rfl (by omega) (hm ▸ hget)
    . rw [ih (i + 1) (by omega)]
      constructor
      . rintro ⟨hij, hj, hk⟩
        refine ⟨by omega, hj, fun k hik hkj => ?_⟩
        rcases Nat.eq_or_lt_of_le hik with rfl | hik
        . rw [hget]; exact fun e => hm (Option.some.inj e).symm
        . exact hk k hik hkj
      . rintro ⟨hij, hj, hk⟩
        have hne : i ≠ j := by rintro rfl; exact hm (Option.some.inj (hget.symm.trans hj)).symm
        exact ⟨by omega, hj, fun k hik hkj => hk k (by omega) hkj⟩

end columnIndex

/--
`column_index(name)` returns `i` exactly when `i` is the least index whose column is named
`name`, and nothing exactly when no column has that name; every accessor that takes a name reads
the column at that least index.
-/
theorem columnIndex_spec (cols : List (List Char)) (name : List Char) :
    (∀ i, columnIndex cols name = some i ↔ cols[i]? = some name ∧ ∀ j < i, cols[j]? ≠ some name) ∧
    (columnIndex cols name = none ↔ name ∉ cols) ∧
    ∀ i, cols[i]? = some name → (∀ j < i, cols[j]? ≠ some name) →
      (∀ {α : Type} (get : Nat → α) (zero : α), getByName cols get zero name = get i) ∧
      (∀ type, typeByName cols type name = type i) ∧
      (∀ bytes, bytesByName cols bytes name = bytes i) ∧
      (∀ type, isNullByName cols type name = isNullAt type i) := by
  have hsome : ∀ i, columnIndex cols name = some i ↔
      cols[i]? = some name ∧ ∀ j < i, cols[j]? ≠ some name := fun i => by
    simp [columnIndex, columnIndex.go_eq_some _ 0 (Nat.zero_add _)]
  refine ⟨hsome, ?_, fun i hi hmin => ?_⟩
  . constructor
    . intro hn hmem
      have hex : ∃ i, cols[i]? = some name := List.mem_iff_getElem?.1 hmem
      have := (hsome (Nat.find hex)).2 ⟨Nat.find_spec hex, fun j hj => Nat.find_min hex hj⟩
      rw [hn] at this
      cases this
    . intro hn
      cases h : columnIndex cols name with
      | none => rfl
      | some i => exact absurd (List.mem_iff_getElem?.2 ⟨i, ((hsome i).1 h).1⟩) hn
  . have h := (hsome i).2 ⟨hi, hmin⟩
    refine ⟨fun get zero => ?_, fun type => ?_, fun bytes => ?_, fun type => ?_⟩ <;>
      simp [getByName, typeByName, bytesByName, isNullByName, isNullAt, byName, h]

example : columnIndex [['i', 'd'], ['i', 'd']] ['i', 'd'] = some 0 := by decide

structure Getstream where
  idx : BitVec 32
  deriving DecidableEq, Repr

def getter (idx : BitVec 32) : Getstream := ⟨idx⟩

namespace Getstream

variable {α : Type}

def shift (g : Getstream) (get : BitVec 32 → α) : Getstream × α := (⟨g.idx + 1⟩, get g.idx)

def shiftAll (g : Getstream) : List (BitVec 32 → α) → Getstream × List α
  | [] => (g, [])
  | get :: gets =>
    let (g, v) := g.shift get
    let (g, vs) := g.shiftAll gets
    (g, v :: vs)

end Getstream

def getAll {α : Type} (gets : List (BitVec 32 → α)) (idxs : List (BitVec 32)) : List α :=
  List.zipWith (fun get i => get i) gets idxs

/--
Reading `n` values through `getter(idx) >> v₁ >> ... >> vₙ` gives what `get_all` gives at the
indices `idx, idx + 1, ..., idx + n - 1` (as `uint`, so wrapping at `2^32`), and leaves the stream
at `idx + n`.
-/
theorem getter_shiftAll {α : Type} (idx : BitVec 32) (gets : List (BitVec 32 → α)) :
    (getter idx).shiftAll gets =
      (getter (idx + BitVec.ofNat 32 gets.length),
        getAll gets ((List.range gets.length).map fun i => idx + BitVec.ofNat 32 i)) := by
  induction gets generalizing idx with
  | nil => simp [Getstream.shiftAll, getAll, getter]
  | cons get gets ih =>
    have hidx : ∀ i, idx + 1 + BitVec.ofNat 32 i = idx + BitVec.ofNat 32 (i + 1) := fun i => by
      bv_omega
    have hzero : idx + BitVec.ofNat 32 0 = idx := by bv_omega
    simp only [Getstream.shiftAll, Getstream.shift, getter] at ih ⊢
    rw [ih, List.length_cons, List.range_succ_eq_map]
    simp only [getAll, getter, List.map_cons, List.map_map, List.zipWith_cons_cons, Function.comp_def,
      hidx, hzero, Nat.succ_eq_add_one]

end Sqlite3pp
