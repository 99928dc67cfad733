import Sqlite3pp.Basic
import Mathlib.Data.List.Nodup
import Mathlib.Logic.Equiv.Basic

/-!
`sql_str`, the owner of the text `statement::sql()` takes from `sqlite3_expanded_sql`: it can be
moved but not copied, and its destructor hands its pointer, when not null, to `sqlite3_free`. The
engine's heap of those blocks, and every run of `sql()`, moves and destructions of the objects.
-/

namespace Sqlite3pp

namespace SqlStr

inductive Block where
  | unused
  | live
  | freed
  deriving DecidableEq, Repr

structure Heap where
  blocks : Nat → Block
  next : Nat
  frees : List Nat

namespace Heap

def init : Heap := ⟨fun _ => .unused, 0, []⟩

def expandedSql (h : Heap) (ok : Bool) : Heap × Option Nat :=
  if ok then (⟨Function.update h.blocks h.next .live, h.next + 1, h.frees⟩, some h.next) else (h, none)

def free (h : Heap) (q : Nat) : Heap :=
  { h with blocks := Function.update h.blocks q .freed, frees := q :: h.frees }

end Heap

structure World where
  heap : Heap
  objs : Nat → Option (Option Nat)

inductive Op where
  | sql (a : Nat) (ok : Bool)
  | move (a src : Nat)
  | destroy (a : Nat)

namespace World

def init : World := ⟨Heap.init, fun _ => none⟩

def step (w : World) : Op → Option World
  | .sql a ok =>
    if (w.objs a).isSome then none
    else
      let (h, p) := w.heap.expandedSql ok
      some ⟨h, Function.update w.objs a (some p)⟩
  | .move a src =>
    if (w.objs a).isSome then none
    else (w.objs src).map fun p =>
      { w with objs := Function.update (Function.update w.objs src (some none)) a (some p) }
  | .destroy a =>
    (w.objs a).map fun p =>
      let h := match p with
        | some q => w.heap.free q
        | none => w.heap
      ⟨h, Function.update w.objs a none⟩

def run (w : World) : List Op → Option World
  | [] => some w
  | op :: ops => (w.step op).bind (·.run ops)

end World

inductive Reachable : World → Prop where
  | init : Reachable World.init
  | step {w w' : World} (op : Op) : Reachable w → w.step op = some w' → Reachable w'

theorem run_reachable {w w' : World} {ops : List Op} (hw : Reachable w) (hr : w.run ops = some w') :
    Reachable w' := by
  induction ops generalizing w with
  | nil => cases hr; exact hw
  | cons op ops ih =>
    obtain ⟨w₁, h₁, h₂⟩ := Option.bind_eq_some.1 hr
    exact ih (hw.step op h₁) h₂

structure Sound (w : World) : Prop where
  held_live : ∀ a q, w.objs a = some (some q) → w.heap.blocks q = .live
  unique : ∀ a b q, w.objs a = some (some q) → w.objs b = some (some q) → a = b
  live_held : ∀ q, w.heap.blocks q = .live → ∃ a, w.objs a = some (some q)
  fresh : ∀ q, w.heap.next ≤ q → w.heap.blocks q = .unused
  allocated : ∀ q, q < w.heap.next → w.heap.blocks q ≠ .unused
  freed_iff : ∀ q, w.heap.blocks q = .freed ↔ q ∈ w.heap.frees
  nodup : w.heap.frees.Nodup

namespace Sound

variable {w : World} {a src : Nat}

theorem init : Sound World.init :=
  ⟨by simp [World.init], by simp [World.init], by simp [World.init, Heap.init],
    fun _ _ => rfl, fun _ h => absurd h (Nat.not_lt_zero _), by simp [World.init, Heap.init],
    List.nodup_nil⟩

def NoBlock (v : Option (Option Nat)) : Prop := ∀ q, v ≠ some (some q)

theorem held_of_update {o : Nat → Option (Option Nat)} {v : Option (Option Nat)} {b q : Nat}
    (hv : NoBlock v) (hb : Function.update o a v b = some (some q)) : b ≠ a ∧ o b = some (some q) := by
  by_cases hba : b = a
  . subst hba; exact absurd (by simpa using hb) (hv q)
  . exact ⟨hba, by simpa [Function.update_noteq hba] using hb⟩

theorem update_noBlock (hw : Sound w) (ha : NoBlock (w.objs a)) {v : Option (Option Nat)}
    (hv : NoBlock v) : Sound { w with objs := Function.update w.objs a v } := by
  refine ⟨fun b q hb => hw.held_live b q (held_of_update hv hb).2,
    fun b c q hb hc => hw.unique b c q (held_of_update hv hb).2 (held_of_update hv hc).2,
    fun q hq => ?_, hw.fresh, hw.allocated, hw.freed_iff, hw.nodup⟩
  obtain ⟨b, hb⟩ := hw.live_held q hq
  exact ⟨b, (Function.update_noteq (by rintro rfl; exact ha q hb) _ _).trans hb⟩

theorem comp_perm (hw : Sound w) (e : Equiv.Perm Nat) : Sound { w with objs := w.objs ∘ e } :=
  ⟨fun _ q hb => hw.held_live _ q hb, fun _ _ q hb hc => e.injective (hw.unique _ _ q hb hc),
    fun q hq => let ⟨b, hb⟩ := hw.live_held q hq; ⟨e.symm b, by simpa using hb⟩,
    hw.fresh, hw.allocated, hw.freed_iff, hw.nodup⟩

theorem sql_fresh (hw : Sound w) (ha : w.objs a = none) :
    Sound ⟨⟨Function.update w.heap.blocks w.heap.next .live, w.heap.next + 1, w.heap.frees⟩,
      Function.update w.objs a (some (some w.heap.next))⟩ := by
  have hu := hw.fresh w.heap.next le_rfl
  have hat : ∀ {q}, Function.update w.objs a (some (some w.heap.next)) a = some (some q) →
      q = w.heap.next := fun h => by simpa using h.symm
  have hold : ∀ {b q}, b ≠ a → Function.update w.objs a (some (some w.heap.next)) b = some (some q) →
      w.objs b = some (some q) ∧ q ≠ w.heap.next := fun hba hb => by
    rw [Function.update_noteq hba] at hb
    exact ⟨hb, by rintro rfl; simp [hw.held_live _ _ hb] at hu⟩
  refine ⟨fun b q hb => ?_, fun b c q hb hc => ?_, fun q hq => ?_, fun q hq => ?_, fun q hq => ?_,
    fun q => ?_, hw.nodup⟩
  . by_cases hba : b = a
    . subst hba
      rw [hat hb]
      exact Function.update_same _ _ _
    . exact (Function.update_noteq (hold hba hb).2 _ _).trans (hw.held_live b q (hold hba hb).1)
  . by_cases hba : b = a <;> by_cases hca : c = a
    . exact hba.trans hca.symm
    . subst hba; exact absurd (hat hb) (hold hca hc).2
    . subst hca; exact absurd (hat hc) (hold hba hb).2
    . exact hw.unique b c q (hold hba hb).1 (hold hca hc).1
  . by_cases hq' : q = w.heap.next
    . subst hq'; exact ⟨a, Function.update_same _ _ _⟩
    . obtain ⟨b, hb⟩ := hw.live_held q ((Function.update_noteq hq' _ _).symm.trans hq)
      have hba : b ≠ a := by rintro rfl; simp [ha] at hb
      exact ⟨b, (Function.update_noteq hba _ _).trans hb⟩
  . dsimp only at hq ⊢
    exact (Function.update_noteq (by omega) _ _).trans (hw.fresh q (by omega))
  . dsimp only at hq ⊢
    by_cases hq' : q = w.heap.next
    . subst hq'; simp
    . exact (Function.update_noteq hq' _ _).trans_ne (hw.allocated q (by omega))
  . dsimp only
    by_cases hq' : q = w.heap.next
    . subst hq'
      simp only [Function.update_same, reduceCtorEq, false_iff]
      exact fun hm => by simp [(hw.freed_iff _).2 hm] at hu
    . rw [Function.update_noteq hq']
      exact hw.freed_iff q

theorem sql (hw : Sound w) (ha : w.objs a = none) (ok : Bool) :
    Sound ⟨(w.heap.expandedSql ok).1, Function.update w.objs a (some (w.heap.expandedSql ok).2)⟩ := by
  cases ok
  . exact hw.update_noBlock (by simp [NoBlock, ha]) (by simp [NoBlock, Heap.expandedSql])
  . exact hw.sql_fresh ha

theorem update_update_eq_swap (o : Nat → Option (Option Nat)) (has : a ≠ src) :
    Function.update (Function.update o src (some none)) a (o src) =
      Function.update (o ∘ Equiv.swap a src) src (some none) := by
  funext b
  by_cases hbs : b = src
  . subst hbs; simp [Function.update_noteq has.symm]
  . by_cases hba : b = a
    . subst hba; simp [Function.update_noteq hbs]
    . simp [Function.update_noteq hba, Function.update_noteq hbs, Equiv.swap_apply_of_ne_of_ne hba hbs]

theorem move (hw : Sound w) (ha : w.objs a = none) (hs : w.objs src = some p) :
    Sound { w with objs := Function.update (Function.update w.objs src (some none)) a (some p) } := by
  have has : a ≠ src := by rintro rfl; simp [ha] at hs
  rw [← hs, update_update_eq_swap _ has]
  exact (hw.comp_perm (Equiv.swap a src)).update_noBlock (by simp [NoBlock, ha]) (by simp [NoBlock])

theorem destroy_free (hw : Sound w) (ha : w.objs a = some (some q)) :
    Sound ⟨w.heap.free q, Function.update w.objs a none⟩ := by
  have hlive := hw.held_live a q ha
  have hq : q < w.heap.next := Nat.lt_of_not_le fun h => by simp [hw.fresh q h] at hlive
  have hold : ∀ {b r}, Function.update w.objs a none b = some (some r) →
      w.objs b = some (some r) ∧ r ≠ q := fun hb =>
    have h := held_of_update (by simp [NoBlock]) hb
    ⟨h.2, by rintro rfl; exact h.1 (hw.unique _ _ _ h.2 ha)⟩
  refine ⟨fun b r hb => ?_, fun b c r hb hc => hw.unique b c r (hold hb).1 (hold hc).1,
    fun r hr => ?_, fun r hr => ?_, fun r hr => ?_, fun r => ?_, ?_⟩
  . exact (Function.update_noteq (hold hb).2 _ _).trans (hw.held_live b r (hold hb).1)
  . have hrq : r ≠ q := by rintro rfl; simp [Heap.free] at hr
    obtain ⟨b, hb⟩ := hw.live_held r ((Function.update_noteq hrq _ _).symm.trans hr)
    have hba : b ≠ a := by rintro rfl; exact hrq (by simpa [ha] using hb.symm)
    exact ⟨b, (Function.update_noteq hba _ _).trans hb⟩
  . dsimp only [Heap.free] at hr ⊢
    exact (Function.update_noteq (by omega) _ _).trans (hw.fresh r hr)
  . dsimp only [Heap.free] at hr ⊢
    by_cases hrq : r = q
    . subst hrq; simp
    . exact (Function.update_noteq hrq _ _).trans_ne (hw.allocated r hr)
  . dsimp only [Heap.free]
    by_cases hrq : r = q
    . subst hrq; simp
    . rw [Function.update_noteq hrq, List.mem_cons, hw.freed_iff r]
      simp [hrq]
  . exact List.nodup_cons.2 ⟨fun hm => by simp [(hw.freed_iff q).2 hm] at hlive, hw.nodup⟩

theorem step (hw : Sound w) (hs : w.step op = some w') : Sound w' := by
  cases op with
  | sql a ok =>
    simp only [World.step] at hs
    split_ifs at hs with ha
    cases hs
    exact hw.sql (Option.not_isSome_iff_eq_none.1 ha) ok
  | move a src =>
    simp only [World.step] at hs
    split_ifs at hs with ha
    obtain ⟨p, hp, rfl⟩ := Option.map_eq_some'.1 hs
    exact hw.move (Option.not_isSome_iff_eq_none.1 ha) hp
  | destroy a =>
    obtain ⟨p, hp, rfl⟩ := Option.map_eq_some'.1 hs
    cases p with
    | none => exact hw.update_noBlock (by simp [NoBlock, hp]) (by simp [NoBlock])
    | some q => exact hw.destroy_free hp

end Sound

theorem Reachable.sound {w : World} (h : Reachable w) : Sound w := by
  induction h with
  | init => exact Sound.init
  | step op _ hs ih => exact ih.step hs

namespace Sound

variable {w : World}

theorem lt_next_of_ne_unused (hw : Sound w) {q : Nat} (hq : w.heap.blocks q ≠ .unused) :
    q < w.heap.next :=
  Nat.lt_of_not_le fun h => hq (hw.fresh q h)

theorem live_of_lt_of_not_mem (hw : Sound w) {q : Nat} (hq : q < w.heap.next)
    (hf : q ∉ w.heap.frees) : w.heap.blocks q = .live := by
  have hu := hw.allocated q hq
  have hfr : w.heap.blocks q ≠ .freed := fun h => hf ((hw.freed_iff q).1 h)
  cases hb : w.heap.blocks q <;> simp_all

end Sound

/--
After any run of `sql()`, moves and destructions of `sql_str` objects: `sqlite3_free` never receives
one pointer twice, nor one `sqlite3_expanded_sql` did not return; no object holds a pointer already
freed; and every block returned and not yet freed is held by exactly one object, so it is freed once
that object is destroyed.
-/
theorem sqlStr_safe {ops : List Op} {w : World} (hr : World.init.run ops = some w) :
    w.heap.frees.Nodup ∧ (∀ q ∈ w.heap.frees, q < w.heap.next) ∧
      (∀ a q, w.objs a = some (some q) → q < w.heap.next ∧ q ∉ w.heap.frees) ∧
      ∀ q < w.heap.next, q ∉ w.heap.frees → ∃! a, w.objs a = some (some q) := by
  have hw := (run_reachable Reachable.init hr).sound
  refine ⟨hw.nodup, fun q hq => hw.lt_next_of_ne_unused ?_, fun a q ha => ?_, fun q hq hf => ?_⟩
  . simp [(hw.freed_iff q).2 hq]
  . have hl := hw.held_live a q ha
    exact ⟨hw.lt_next_of_ne_unused (by simp [hl]), fun hm => by simp [(hw.freed_iff q).2 hm] at hl⟩
  . obtain ⟨a, ha⟩ := hw.live_held q (hw.live_of_lt_of_not_mem hq hf)
    exact ⟨a, ha, fun b hb => hw.unique b a q hb ha⟩

theorem sqlStr_safe_run :
    let ops := [Op.sql 0 true, .move 1 0, .sql 2 false, .sql 3 true, .destroy 0, .destroy 1]
    let w := (World.init.run ops).getD World.init
    World.init.run ops = some w ∧ w.heap.frees.Nodup ∧ (∀ q ∈ w.heap.frees, q < w.heap.next) ∧
      (∀ a q, w.objs a = some (some q) → q < w.heap.next ∧ q ∉ w.heap.frees) ∧
      ∀ q < w.heap.next, q ∉ w.heap.frees → ∃! a, w.objs a = some (some q) :=
  have hr : World.init.run [Op.sql 0 true, .move 1 0, .sql 2 false, .sql 3 true, .destroy 0, .destroy 1] =
      some ((World.init.run [Op.sql 0 true, .move 1 0, .sql 2 false, .sql 3 true, .destroy 0,
        .destroy 1]).getD World.init) := rfl
  ⟨hr, sqlStr_safe hr⟩

end SqlStr

end Sqlite3pp
