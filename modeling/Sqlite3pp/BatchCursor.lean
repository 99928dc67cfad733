import Sqlite3pp.BatchLemmas
import Sqlite3pp.PrepareTail

/-!
The cursor `state()` of a `batch` over every run of its operations: `prepare` makes `orig_` the text
it was given (a view of it, or the owned copy that reads the same), `state()` stays a suffix of
`orig_`, a successful `execute_next()` moves it past exactly the statement the engine compiled, a
failing one leaves it at the start of the failing statement, and `execute_all()` returns after at
most `|state()| + 1` calls of `execute_next()`; for every engine whose `sqlite3_prepare_v2` consumes
the text of each statement it compiles and whose `sqlite3_finalize` succeeds after a step did.
-/

namespace Sqlite3pp

namespace Engine

variable {σ S : Type} (E : Engine σ S)

-- Only a prepare that compiles a statement has to move past text: the tail of a prepare that
-- compiles nothing is never used, since the step of the null statement fails.
def PrepareConsumes : Prop :=
  ∀ e m (v : StringView), v.size ≠ 0 → isSpace (m v.ptr) = false →
    (E.prepare e m v.ptr v.nByte).2.rc = sqliteOk → (E.prepare e m v.ptr v.nByte).2.stmt.isSome →
      ∃ t, (E.prepare e m v.ptr v.nByte).2.tail = some t ∧ v.ptr < t ∧ t ≤ v.end

def FinalizeAfterStep : Prop :=
  ∀ e s, ((E.step e s).2 = sqliteDone ∨ (E.step e s).2 = sqliteRow) →
    (E.finalize (E.reset (E.step e s).1 s).1 s).2 = sqliteOk

theorem stepStmt_isSome {e : σ} {s : Option S}
    (h : (E.stepStmt e s).2 = sqliteDone ∨ (E.stepStmt e s).2 = sqliteRow) : s.isSome := by
  cases s with
  | none => simp [stepStmt, sqliteMisuse, sqliteDone, sqliteRow] at h
  | some _ => rfl

theorem finish_of_step (hfin : E.FinalizeAfterStep) {e : σ} {s : Option S}
    (h : (E.stepStmt e s).2 = sqliteDone ∨ (E.stepStmt e s).2 = sqliteRow) :
    (E.finish (E.stepStmt e s).1 s).2 = none := by
  cases s with
  | none => simp [stepStmt, sqliteMisuse, sqliteDone, sqliteRow] at h
  | some s => simpa [finish, stepStmt] using hfin e s h

end Engine

namespace Batch

variable {σ S : Type} (E : Engine σ S)

theorem executeNext_spec (m : Mem) (e : σ) (b : Batch) :
    (executeNext E m e b).2.1 = { b with state := (executeNext E m e b).2.1.state } ∧
    (∀ err, (executeNext E m e b).2.2 = .error err →
      (executeNext E m e b).2.1.state = b.state.ltrim m ∧ (b.state.ltrim m).isEmpty = false ∧
      ((E.prepare e m (b.state.ltrim m).ptr (b.state.ltrim m).nByte).2.rc ≠ sqliteOk ∧
          err = ⟨(E.prepare e m (b.state.ltrim m).ptr (b.state.ltrim m).nByte).2.rc⟩ ∨
        (E.prepare e m (b.state.ltrim m).ptr (b.state.ltrim m).nByte).2.rc = sqliteOk ∧
          let p := E.prepare e m (b.state.ltrim m).ptr (b.state.ltrim m).nByte
          ((E.stepStmt p.1 p.2.stmt).2 ≠ sqliteDone ∧ (E.stepStmt p.1 p.2.stmt).2 ≠ sqliteRow ∧
              err = ⟨(E.stepStmt p.1 p.2.stmt).2⟩ ∨
            ((E.stepStmt p.1 p.2.stmt).2 = sqliteDone ∨ (E.stepStmt p.1 p.2.stmt).2 = sqliteRow) ∧
              (E.finish (E.stepStmt p.1 p.2.stmt).1 p.2.stmt).2 = some err))) ∧
    (∀ x, (executeNext E m e b).2.2 = .ok x →
      (b.state.ltrim m).isEmpty = true ∧ (executeNext E m e b).2.1.state = b.state.ltrim m ∧ x = false ∨
      (b.state.ltrim m).isEmpty = false ∧
        let p := E.prepare e m (b.state.ltrim m).ptr (b.state.ltrim m).nByte
        p.2.rc = sqliteOk ∧
        ((E.stepStmt p.1 p.2.stmt).2 = sqliteDone ∨ (E.stepStmt p.1 p.2.stmt).2 = sqliteRow) ∧
        (executeNext E m e b).2.1.state = StringView.ofRange (p.2.tail.getD 0) (b.state.ltrim m).end ∧
        x = !(StringView.ofRange (p.2.tail.getD 0) (b.state.ltrim m).end).isEmpty) := by
  cases he : (b.state.ltrim m).isEmpty
  . rcases hp : E.prepare e m (b.state.ltrim m).ptr (b.state.ltrim m).nByte with ⟨e₁, out⟩
    rcases hs : E.stepStmt e₁ out.stmt with ⟨e₂, r⟩
    rcases hf : E.finish e₂ out.stmt with ⟨e₃, f⟩
    rw [executeNext, hp]
    simp only [he, Bool.false_eq_true, if_false, hs, hf]
    by_cases hrc : out.rc = sqliteOk
    . by_cases hr : r ≠ sqliteDone ∧ r ≠ sqliteRow
      . simp [sqliteCall, hrc, hr]
      . have hr' : r = sqliteDone ∨ r = sqliteRow := by omega
        cases f <;> simp [sqliteCall, hrc, hr, hr']
    . simp [sqliteCall, hrc]
  . simp [executeNext, he]

theorem executeNext_ltrim (m : Mem) (e : σ) (b : Batch) :
    executeNext E m e { b with state := b.state.ltrim m } = executeNext E m e b := by
  simp only [executeNext, StringView.ltrim_ltrim]

theorem prepare_tail (hprep : E.PrepareConsumes) {m : Mem} {e : σ} {b : Batch}
    (hne : (b.state.ltrim m).isEmpty = false)
    (hrc : (E.prepare e m (b.state.ltrim m).ptr (b.state.ltrim m).nByte).2.rc = sqliteOk)
    (hstep : let p := E.prepare e m (b.state.ltrim m).ptr (b.state.ltrim m).nByte
      (E.stepStmt p.1 p.2.stmt).2 = sqliteDone ∨ (E.stepStmt p.1 p.2.stmt).2 = sqliteRow) :
    ∃ t, (E.prepare e m (b.state.ltrim m).ptr (b.state.ltrim m).nByte).2.tail = some t ∧
      (b.state.ltrim m).ptr < t ∧ t ≤ (b.state.ltrim m).end := by
  have hsize : (b.state.ltrim m).size ≠ 0 := by simpa [StringView.isEmpty] using hne
  exact hprep e m _ hsize ((StringView.ltrimAux_spec m _ _).2.2 hsize) hrc (E.stepStmt_isSome hstep)

theorem executeNext_size_lt (hprep : E.PrepareConsumes) {m : Mem} {e : σ} {b : Batch}
    (h : (executeNext E m e b).2.2 = .ok true) :
    (executeNext E m e b).2.1.state.size < b.state.size := by
  rcases (executeNext_spec E m e b).2.2 true h with ⟨-, -, hx⟩ | ⟨hne, hrc, hstep, hst, -⟩
  . cases hx
  . obtain ⟨t, ht, hlt, hle⟩ := prepare_tail E hprep hne hrc hstep
    have hsuf := (StringView.ltrim_isSuffixOf m b.state).size_le
    have hsize := StringView.ofRange_size_le hle
    rw [hst, ht, Option.getD_some]
    simp only [StringView.end] at hsize hle ⊢
    omega

theorem executeAll_isSome (hprep : E.PrepareConsumes) (m : Mem) :
    ∀ (fuel : Nat) (e : σ) (b : Batch), b.state.size < fuel → (executeAll E m fuel e b).isSome
  | 0, _, _, h => absurd h (Nat.not_lt_zero _)
  | fuel + 1, e, b, h => by
    rw [executeAll]
    rcases hn : executeNext E m e b with ⟨e', b', err | _ | _⟩
    . rfl
    . rfl
    . have hlt := executeNext_size_lt E hprep (m := m) (e := e) (b := b) (by rw [hn])
      simp only [hn] at hlt
      exact executeAll_isSome hprep m fuel e' b' (by omega)

structure Cursor (v : StringView) (b : Batch) : Prop where
  suffix : b.state.IsSuffixOf b.orig
  size_lt : b.orig.size < 2 ^ 64
  origin : b.orig = v ∨ b.data = some b.orig.ptr ∧ b.orig.size = v.size

theorem executeNext_cursor (hprep : E.PrepareConsumes) {v : StringView} {b : Batch} (hb : Cursor v b)
    (m : Mem) (e : σ) : Cursor v (executeNext E m e b).2.1 := by
  obtain ⟨hframe, herr, hok⟩ := executeNext_spec E m e b
  have htrim := (StringView.ltrim_isSuffixOf m b.state).trans hb.suffix
  rw [hframe]
  refine ⟨?_, hb.size_lt, hb.origin⟩
  rcases hr : (executeNext E m e b).2.2 with err | x
  . exact (herr err hr).1 ▸ htrim
  . rcases hok x hr with ⟨-, hst, -⟩ | ⟨hne, hrc, hstep, hst, -⟩
    . exact hst ▸ htrim
    . obtain ⟨t, ht, hlt, hle⟩ := prepare_tail E hprep hne hrc hstep
      have hsize : (b.state.ltrim m).size < 2 ^ 64 := by
        have := htrim.size_le; have := hb.size_lt; omega
      rw [hst, ht, Option.getD_some]
      exact ((StringView.ofRange_isSuffixOf_iff t hsize).2 ⟨Nat.le_of_lt hlt, hle⟩).trans htrim

theorem executeAll_cursor (hprep : E.PrepareConsumes) (m : Mem) (v : StringView) :
    ∀ (fuel : Nat) (e : σ) (b : Batch) (r : σ × Batch × OptError),
      executeAll E m fuel e b = some r → Cursor v b → Cursor v r.2.1
  | 0, _, _, _, h, _ => by cases h
  | fuel + 1, e, b, r, h, hb => by
    rw [executeAll] at h
    have hb' := executeNext_cursor E hprep hb m e
    rcases hn : executeNext E m e b with ⟨e', b', err | _ | _⟩ <;> rw [hn] at h hb'
    . cases h; exact hb'
    . cases h; exact hb'
    . exact executeAll_cursor hprep m v fuel e' b' r h hb'

theorem prepare_spec (m : Mem) (b : Batch) (stmt : StringView) (fcopy : CopySemantic) (addr : Nat) :
    (b.prepare m stmt fcopy addr).2.state = (b.prepare m stmt fcopy addr).2.orig ∧
      ((b.prepare m stmt fcopy addr).2.orig = stmt ∨
        (b.prepare m stmt fcopy addr).2.data = some (b.prepare m stmt fcopy addr).2.orig.ptr ∧
          (b.prepare m stmt fcopy addr).2.orig.size = stmt.size) ∧
      (b.prepare m stmt fcopy addr).2.orig.text (b.prepare m stmt fcopy addr).1 = stmt.text m := by
  unfold prepare
  split_ifs
  . refine ⟨rfl, .inr ⟨rfl, rfl⟩, ?_⟩
    simpa only [StringView.text, length_read] using read_write_self m addr (stmt.text m)
  . exact ⟨rfl, .inl rfl, rfl⟩

inductive Reach : StringView → Batch → Prop
  | init : Reach .null init
  | prepare {v : StringView} {b : Batch} (m : Mem) (stmt : StringView) (fcopy : CopySemantic)
      (addr : Nat) : stmt.size < 2 ^ 64 → Reach v b → Reach stmt (b.prepare m stmt fcopy addr).2
  | reset {v : StringView} {b : Batch} : Reach v b → Reach v b.reset
  | executeNext {v : StringView} {b : Batch} (m : Mem) (e : σ) :
      Reach v b → Reach v (executeNext E m e b).2.1
  | executeAll {v : StringView} {b : Batch} (m : Mem) (e : σ) (fuel : Nat) {r : σ × Batch × OptError} :
      executeAll E m fuel e b = some r → Reach v b → Reach v r.2.1

theorem Reach.cursor (hprep : E.PrepareConsumes) {v : StringView} {b : Batch} (h : Reach E v b) :
    Cursor v b := by
  induction h with
  | init => exact ⟨⟨le_rfl, rfl⟩, by decide, .inl rfl⟩
  | @prepare _ b m stmt fcopy addr hs _ _ =>
    obtain ⟨hst, horig, -⟩ := prepare_spec m b stmt fcopy addr
    exact ⟨hst ▸ ⟨le_rfl, rfl⟩, by rcases horig with h | ⟨-, h⟩ <;> rw [h] <;> exact hs, horig⟩
  | reset _ ih => exact ⟨⟨le_rfl, rfl⟩, ih.size_lt, ih.origin⟩
  | executeNext m e _ ih => exact executeNext_cursor E hprep ih m e
  | executeAll m e fuel hr _ ih => exact executeAll_cursor E hprep m _ fuel e _ _ hr ih

/--
On every engine, when `execute_all()` returns, `state()` is empty exactly when it returned `None`.
After an error, `state()` is exactly the text the failing `execute_next()` worked on: that call, run
on the batch with `state()` as its cursor, returns the same error, so `state()` starts with the
statement whose prepare, step or finalize failed, has no leading whitespace, and is what the next
`execute_next()` prepares again. `orig_` and the owned copy are untouched.
-/
theorem executeAll_state {m : Mem} {fuel : Nat} {e : σ} {b : Batch} {r : σ × Batch × OptError}
    (h : executeAll E m fuel e b = some r) :
    r.2.1.data = b.data ∧ r.2.1.orig = b.orig ∧ (r.2.2 = none ↔ r.2.1.state.size = 0) ∧
      (r.2.2 ≠ none → r.2.1.state.ltrim m = r.2.1.state) ∧
      ∀ err, r.2.2 = some err →
        ∃ e₀, executeNext E m e₀ { b with state := r.2.1.state } = (r.1, r.2.1, .error err) := by
  induction fuel generalizing e b with
  | zero => cases h
  | succ fuel ih =>
    rw [executeAll] at h
    obtain ⟨hframe, herr, hok⟩ := executeNext_spec E m e b
    rcases hn : executeNext E m e b with ⟨e', b', err | _ | _⟩ <;>
      simp only [hn] at h hframe herr hok
    . cases h
      obtain ⟨hst, hne, -⟩ := herr err rfl
      have hb' : b' = { b with state := b.state.ltrim m } := by rw [hframe, hst]
      subst hb'
      refine ⟨rfl, rfl, ?_, fun _ => StringView.ltrim_ltrim m _, fun _ h => ⟨e, ?_⟩⟩
      . simpa [StringView.isEmpty] using hne
      . cases h
        exact (executeNext_ltrim E m e b).trans hn
    . cases h
      rw [hframe]
      refine ⟨rfl, rfl, ?_, fun h => absurd rfl h, fun _ h => by cases h⟩
      rcases hok false rfl with ⟨he, hst, -⟩ | ⟨-, -, -, hst, hx⟩
      . simpa [hst, StringView.isEmpty] using he
      . simpa [hst, StringView.isEmpty] using hx
    . obtain ⟨h₁, h₂, h₃, h₄, h₅⟩ := ih h
      rw [hframe] at h₁ h₂ h₅
      exact ⟨h₁, h₂, h₃, h₄, h₅⟩

end Batch

/-- The script `SELECT 1;;` on the engine whose statements end at `;`: the empty second segment fails. -/
theorem executeAll_state_run :
    let m := scriptMem "SELECT 1;;".toList
    let b : Batch := ⟨none, ⟨0, 10⟩, ⟨0, 10⟩⟩
    let r : List (List Char) × Batch × OptError :=
      (["SELECT 1".toList], ⟨none, ⟨9, 1⟩, ⟨0, 10⟩⟩, some ⟨sqliteMisuse⟩)
    Batch.executeAll semicolonEngine m 4 [] b = some r ∧
      r.2.1.data = b.data ∧ r.2.1.orig = b.orig ∧ (r.2.2 = none ↔ r.2.1.state.size = 0) ∧
      (r.2.2 ≠ none → r.2.1.state.ltrim m = r.2.1.state) ∧
      ∀ err, r.2.2 = some err → ∃ e₀,
        Batch.executeNext semicolonEngine m e₀ { b with state := r.2.1.state } = (r.1, r.2.1, .error err) :=
  have hrun : Batch.executeAll semicolonEngine (scriptMem "SELECT 1;;".toList) 4 []
      ⟨none, ⟨0, 10⟩, ⟨0, 10⟩⟩ = some (["SELECT 1".toList], ⟨none, ⟨9, 1⟩, ⟨0, 10⟩⟩, some ⟨sqliteMisuse⟩) := by
    decide
  ⟨hrun, Batch.executeAll_state semicolonEngine hrun⟩

/--
For every engine whose `sqlite3_prepare_v2` consumes the text of each statement it compiles and whose
`sqlite3_finalize` succeeds after a successful step: `prepare` points `state()` at `orig_`, whose text
is then the text it was given, read before the call; in every reachable batch `state()` is a suffix of
`orig_`, which is the view the last `prepare` was given or the owned copy of it; a successful
`execute_next()` either found only whitespace left, or compiled one statement, stepped it, and moved
`state()` to the tail the engine returned for it; a failing `execute_next()` leaves `state()` at the
trimmed rest, which a retry prepares again, and failed at the prepare or at the step of that
statement; and `execute_all()` returns after at most `|state()| + 1` calls of `execute_next()`.
-/
theorem batch_cursor {σ S : Type} (E : Engine σ S) (hprep : E.PrepareConsumes)
    (hfin : E.FinalizeAfterStep) :
    (∀ m (b : Batch) stmt fcopy addr,
      (b.prepare m stmt fcopy addr).2.state = (b.prepare m stmt fcopy addr).2.orig ∧
      (b.prepare m stmt fcopy addr).2.orig.text (b.prepare m stmt fcopy addr).1 = stmt.text m) ∧
    (∀ v b, Batch.Reach E v b → b.state.IsSuffixOf b.orig ∧
      (b.orig = v ∨ b.data = some b.orig.ptr ∧ b.orig.size = v.size)) ∧
    (∀ v b m e x, Batch.Reach E v b → (Batch.executeNext E m e b).2.2 = .ok x →
      let st := b.state.ltrim m
      let p := E.prepare e m st.ptr st.nByte
      st.isEmpty = true ∧ (Batch.executeNext E m e b).2.1.state = st ∧ x = false ∨
      ∃ s t, p.2.stmt = some s ∧ ((E.step p.1 s).2 = sqliteDone ∨ (E.step p.1 s).2 = sqliteRow) ∧
        p.2.tail = some t ∧ st.ptr < t ∧
        (Batch.executeNext E m e b).2.1.state = ⟨t, st.end - t⟩ ∧ x = decide (t < st.end)) ∧
    (∀ b m e err, (Batch.executeNext E m e b).2.2 = .error err →
      let st := b.state.ltrim m
      let p := E.prepare e m st.ptr st.nByte
      (Batch.executeNext E m e b).2.1.state = st ∧ (Batch.executeNext E m e b).2.1.state.ltrim m = st ∧
      (p.2.rc ≠ sqliteOk ∧ err = ⟨p.2.rc⟩ ∨
        p.2.rc = sqliteOk ∧ (E.stepStmt p.1 p.2.stmt).2 ≠ sqliteDone ∧
          (E.stepStmt p.1 p.2.stmt).2 ≠ sqliteRow ∧ err = ⟨(E.stepStmt p.1 p.2.stmt).2⟩)) ∧
    (∀ m e b, (Batch.executeAll E m (b.state.size + 1) e b).isSome) := by
  refine ⟨fun m b stmt fcopy addr => (Batch.prepare_spec m b stmt fcopy addr).imp_right And.right,
    fun v b hb => ⟨(hb.cursor E hprep).suffix, (hb.cursor E hprep).origin⟩, fun v b m e x hb h => ?_,
    fun b m e err h => ?_, fun m e b => Batch.executeAll_isSome E hprep m _ e b (Nat.lt_succ_self _)⟩
  . rcases (Batch.executeNext_spec E m e b).2.2 x h with hempty | ⟨hne, hrc, hstep, hst, hx⟩
    . exact .inl hempty
    . obtain ⟨t, ht, hlt, hle⟩ := Batch.prepare_tail E hprep hne hrc hstep
      obtain ⟨s, hs⟩ := Option.isSome_iff_exists.1 (E.stepStmt_isSome hstep)
      have hcur := hb.cursor E hprep
      have hsize := ((StringView.ltrim_isSuffixOf m b.state).trans hcur.suffix).size_le
      have horig := hcur.size_lt
      simp only [StringView.end] at hle
      have hview : StringView.ofRange t (b.state.ltrim m).end = ⟨t, (b.state.ltrim m).end - t⟩ :=
        StringView.ofRange_of_le hle (by simp only [StringView.end]; omega)
      rw [ht, Option.getD_some, hview] at hst hx
      refine .inr ⟨s, t, hs, by simpa [hs, Engine.stepStmt] using hstep, ht, hlt, hst, ?_⟩
      simp only [StringView.isEmpty, StringView.end] at hx ⊢
      cases x <;> simp at hx ⊢ <;> omega
  . obtain ⟨hst, -, hcause⟩ := (Batch.executeNext_spec E m e b).2.1 err h
    refine ⟨hst, hst ▸ StringView.ltrim_ltrim m b.state, ?_⟩
    rcases hcause with hp | ⟨hrc, hs | ⟨hok, hf⟩⟩
    . exact .inl hp
    . exact .inr ⟨hrc, hs⟩
    . rw [E.finish_of_step hfin hok] at hf
      cases hf

def charEngine : Engine Unit Unit where
  prepare e _ p _ := (e, ⟨sqliteOk, some (), some (p + 1)⟩)
  step e _ := (e, sqliteDone)
  reset e _ := (e, sqliteOk)
  finalize e _ := (e, sqliteOk)

/-- The one-character engine meets both conditions, so its every `execute_all()` returns in time. -/
theorem batch_cursor_charEngine :
    charEngine.PrepareConsumes ∧ charEngine.FinalizeAfterStep ∧
      ∀ m e b, (Batch.executeAll charEngine m (b.state.size + 1) e b).isSome := by
  have hprep : charEngine.PrepareConsumes := fun _ _ v hv _ _ _ =>
    ⟨v.ptr + 1, rfl, Nat.lt_succ_self _, by simp only [StringView.end]; omega⟩
  have hfin : charEngine.FinalizeAfterStep := fun _ _ _ => rfl
  exact ⟨hprep, hfin, (batch_cursor charEngine hprep hfin).2.2.2.2⟩

end Sqlite3pp
