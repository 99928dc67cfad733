import Sqlite3pp.Batch

/-!
`statement::prepare(stmt, &left)`: `finish()` the current statement, then `sqlite3_prepare_v2`, and
set `*left` to the rest of `stmt` from the tail pointer the engine wrote (`nullptr` when it wrote
none) to `stmt.end()`.
-/

namespace Sqlite3pp

def StringView.IsSuffixOf (w v : StringView) : Prop := v.ptr ≤ w.ptr ∧ w.end = v.end

instance (w v : StringView) : Decidable (w.IsSuffixOf v) := by
  unfold StringView.IsSuffixOf; infer_instance

theorem StringView.IsSuffixOf.trans {u v w : StringView} (h₁ : u.IsSuffixOf v) (h₂ : v.IsSuffixOf w) :
    u.IsSuffixOf w :=
  ⟨Nat.le_trans h₂.1 h₁.1, h₁.2.trans h₂.2⟩

theorem StringView.IsSuffixOf.size_le {v w : StringView} (h : v.IsSuffixOf w) : v.size ≤ w.size := by
  obtain ⟨h₁, h₂⟩ := h
  simp only [StringView.end] at h₂
  omega

theorem StringView.ltrim_isSuffixOf (m : Mem) (v : StringView) : (v.ltrim m).IsSuffixOf v :=
  ⟨(StringView.ltrimAux_spec m v.ptr v.size).1, (StringView.ltrimAux_spec m v.ptr v.size).2.1⟩

theorem StringView.ofRange_isSuffixOf_iff {v : StringView} (b : Nat) (hv : v.size < 2 ^ 64) :
    (StringView.ofRange b v.end).IsSuffixOf v ↔ v.ptr ≤ b ∧ b ≤ v.end := by
  simp only [StringView.IsSuffixOf, StringView.end]
  constructor
  . rintro ⟨hb, he⟩
    simp only [StringView.ofRange] at hb he
    omega
  . rintro ⟨hb, he⟩
    rw [StringView.ofRange_of_le he (by omega)]
    exact ⟨hb, by simp only; omega⟩

namespace Engine

variable {σ S : Type} (E : Engine σ S)

def prepareLeft (m : Mem) (e : σ) (cur : Option S) (stmt : StringView) :
    σ × Option S × StringView × OptError :=
  match E.finish e cur with
  | (e, some err) => (e, none, stmt, some err)
  | (e, none) =>
    let (e, out) := E.prepare e m stmt.ptr stmt.nByte
    (e, out.stmt, StringView.ofRange (out.tail.getD 0) stmt.end, sqliteCall out.rc)

/--
`*left` is all of `stmt` when `finish()` fails; otherwise it runs from the tail the engine wrote,
or from `nullptr` when it wrote none, to `stmt.end()`, and so is a suffix of `stmt` exactly when
that pointer lies inside `stmt`.
-/
theorem prepareLeft_isSuffixOf (m : Mem) (e : σ) (cur : Option S) (stmt : StringView)
    (hs : stmt.size < 2 ^ 64) :
    ((E.finish e cur).2.isSome → (E.prepareLeft m e cur stmt).2.2.1 = stmt) ∧
    ((E.finish e cur).2 = none →
      ((E.prepareLeft m e cur stmt).2.2.1.IsSuffixOf stmt ↔
        stmt.ptr ≤ ((E.prepare (E.finish e cur).1 m stmt.ptr stmt.nByte).2.tail.getD 0) ∧
          ((E.prepare (E.finish e cur).1 m stmt.ptr stmt.nByte).2.tail.getD 0) ≤ stmt.end)) := by
  rcases hf : E.finish e cur with ⟨e', _ | err⟩
  . exact ⟨by simp, fun _ => by simpa [prepareLeft, hf] using StringView.ofRange_isSuffixOf_iff _ hs⟩
  . exact ⟨fun _ => by simp [prepareLeft, hf], by simp⟩

end Engine

def closedEngine : Engine Unit Unit where
  prepare e _ _ _ := (e, ⟨sqliteMisuse, none, none⟩)
  step e _ := (e, sqliteMisuse)
  reset e _ := (e, sqliteOk)
  finalize e _ := (e, sqliteOk)

/--
On a closed connection `statement::prepare(stmt, &left)` fails with `SQLITE_MISUSE` and sets
`*left` to `bmcl::StringView(nullptr, stmt.end())`, which starts outside `stmt`.
-/
theorem prepare_left_outside (m : Mem) (cur : Option Unit) (p n : Nat) :
    (closedEngine.prepareLeft m () cur ⟨p + 1, n⟩).2.2 =
        (StringView.ofRange 0 (p + 1 + n), some ⟨sqliteMisuse⟩) ∧
      ¬ (closedEngine.prepareLeft m () cur ⟨p + 1, n⟩).2.2.1.IsSuffixOf ⟨p + 1, n⟩ := by
  have h : (closedEngine.prepareLeft m () cur ⟨p + 1, n⟩).2.2 =
      (StringView.ofRange 0 (p + 1 + n), some ⟨sqliteMisuse⟩) := by
    cases cur <;> rfl
  refine ⟨h, ?_⟩
  rw [h]
  simp [StringView.IsSuffixOf, StringView.ofRange]

end Sqlite3pp
