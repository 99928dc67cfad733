import Sqlite3pp.Basic

/-!
Memory as the character at each address, `bmcl::StringView` over it, and `copy_semantic`.
-/

namespace Sqlite3pp

abbrev Mem := Nat → Char

def read (m : Mem) (p : Nat) : Nat → List Char
  | 0 => []
  | n + 1 => m p :: read m (p + 1) n

def write (m : Mem) (p : Nat) : List Char → Mem
  | [] => m
  | c :: cs => write (Function.update m p c) (p + 1) cs

@[simp] theorem length_read (m : Mem) (p n : Nat) : (read m p n).length = n := by
  induction n generalizing p <;> simp [read, *]

theorem write_apply_of_not_mem (m : Mem) (p : Nat) (cs : List Char) {q : Nat}
    (hq : q < p ∨ p + cs.length ≤ q) : write m p cs q = m q := by
  induction cs generalizing m p with
  | nil => rfl
  | cons c cs ih =>
    simp only [List.length_cons] at hq
    rw [write, ih _ _ (by omega), Function.update_noteq (by omega)]

theorem read_write_of_disjoint (m : Mem) (p : Nat) (cs : List Char) {q n : Nat}
    (hd : q + n ≤ p ∨ p + cs.length ≤ q) : read (write m p cs) q n = read m q n := by
  induction n generalizing q with
  | zero => rfl
  | succ n ih => rw [read, read, write_apply_of_not_mem _ _ _ (by omega), ih (by omega)]

theorem read_write_self (m : Mem) (p : Nat) (cs : List Char) : read (write m p cs) p cs.length = cs := by
  induction cs generalizing m p with
  | nil => rfl
  | cons c cs ih =>
    rw [List.length_cons, read, write, ih, write_apply_of_not_mem _ _ _ (by omega), Function.update_same]

def isSpace (c : Char) : Bool :=
  c = ' ' || c = '\t' || c = '\n' || c = '\x0b' || c = '\x0c' || c = '\r'

structure StringView where
  ptr : Nat
  size : Nat
  deriving DecidableEq, Repr

namespace StringView

def null : StringView := ⟨0, 0⟩

def isEmpty (v : StringView) : Bool := v.size == 0

def «end» (v : StringView) : Nat := v.ptr + v.size

def ofRange (b e : Nat) : StringView := ⟨b, (e + 2 ^ 64 - b) % 2 ^ 64⟩

theorem ofRange_size_le {b e : Nat} (h : b ≤ e) : (ofRange b e).size ≤ e - b := by
  rw [ofRange, show e + 2 ^ 64 - b = e - b + 2 ^ 64 by omega, Nat.add_mod_right]
  exact Nat.mod_le _ _

theorem ofRange_of_le {b e : Nat} (h : b ≤ e) (hs : e - b < 2 ^ 64) : ofRange b e = ⟨b, e - b⟩ := by
  rw [ofRange, show e + 2 ^ 64 - b = e - b + 2 ^ 64 by omega, Nat.add_mod_right, Nat.mod_eq_of_lt hs]

def text (m : Mem) (v : StringView) : List Char := read m v.ptr v.size

def ltrimAux (m : Mem) (p : Nat) : Nat → StringView
  | 0 => ⟨p, 0⟩
  | n + 1 => if isSpace (m p) then ltrimAux m (p + 1) n else ⟨p, n + 1⟩

def ltrim (m : Mem) (v : StringView) : StringView := ltrimAux m v.ptr v.size

theorem ltrimAux_spec (m : Mem) (p n : Nat) :
    p ≤ (ltrimAux m p n).ptr ∧ (ltrimAux m p n).ptr + (ltrimAux m p n).size = p + n ∧
      ((ltrimAux m p n).size ≠ 0 → isSpace (m (ltrimAux m p n).ptr) = false) := by
  induction n generalizing p with
  | zero => simp [ltrimAux]
  | succ n ih =>
    rw [ltrimAux]
    split_ifs with h
    . obtain ⟨h₁, h₂, h₃⟩ := ih (p + 1)
      exact ⟨by omega, by omega, h₃⟩
    . simpa using h

theorem ltrimAux_of_not_isSpace (m : Mem) (p n : Nat) (h : n = 0 ∨ isSpace (m p) = false) :
    ltrimAux m p n = ⟨p, n⟩ := by
  cases n with
  | zero => rfl
  | succ n => simp [ltrimAux, h.resolve_left (Nat.succ_ne_zero n)]

theorem ltrim_ltrim (m : Mem) (v : StringView) : (v.ltrim m).ltrim m = v.ltrim m := by
  have h := (ltrimAux_spec m v.ptr v.size).2.2
  exact ltrimAux_of_not_isSpace m _ _ (by by_cases hs : (v.ltrim m).size = 0 <;> simp_all [ltrim])

def nByte (v : StringView) : Int := castInt v.size

end StringView

inductive CopySemantic where
  | copy
  | nocopy
  deriving DecidableEq, Repr

def CopySemantic.toUInt8 : CopySemantic → UInt8
  | .copy => 0
  | .nocopy => 1

end Sqlite3pp
