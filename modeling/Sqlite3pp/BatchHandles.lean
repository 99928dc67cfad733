import Sqlite3pp.BatchLemmas
import Sqlite3pp.HandlesLemmas

/-!
`batch::execute_next` run on the statement handles of `Handles`: the engine calls it makes are
exactly those of the temporary `statement stmt(db_)` it builds at a free address, prepared, stepped
and finished on each return path. So the handle law over every run of statement objects covers
the temporaries of every batch.
-/

namespace Sqlite3pp

namespace Handles

-- What `sqlite3_prepare_v2`, `sqlite3_step` and `sqlite3_finalize` answer may depend on everything
-- the engine has received so far: `prep` also says where the prepare leaves the tail.
def batchEngine (prep : Engine → Mem → Nat → Int → PrepResult × Option Nat)
    (stepRc finRc : Engine → Nat → Int) : Sqlite3pp.Engine Engine Nat where
  prepare e m zSql nByte :=
    let (e', p, rc) := e.prepareV2 (prep e m zSql nByte).1
    (e', ⟨rc, p, (prep e m zSql nByte).2⟩)
  step e h := (e.call (some h), stepRc e h)
  reset e h := (e.call (some h), sqliteOk)
  finalize e h := (e.finalize h, finRc e h)

-- The temporary's handle, if the prepare compiles one, is `e.next`; the step and the finalize meet
-- the engine as the calls before them left it.
def executeNextCalls (prep : Engine → Mem → Nat → Int → PrepResult × Option Nat)
    (stepRc finRc : Engine → Nat → Int) (m : Mem) (e : Engine) (b : Batch) (a : Nat)
    (destroyRc : Int) : List Op :=
  let st := b.state.ltrim m
  if st.isEmpty then []
  else
    let r := (prep e m st.ptr st.nByte).1
    let e₁ := (e.prepareV2 r).1
    let rc := stepRc e₁ e.next
    executeNextOps a r (rc == sqliteDone || rc == sqliteRow)
      (finRc ((e₁.call (some e.next)).call (some e.next)) e.next) destroyRc

variable {w : World} {a : Nat}

theorem run_executeNextCalls (prep : Engine → Mem → Nat → Int → PrepResult × Option Nat)
    (stepRc finRc : Engine → Nat → Int) (destroyRc : Int) (m : Mem) (b : Batch) (ha : w.objs a = none) :
    w.run (executeNextCalls prep stepRc finRc m w.eng b a destroyRc) =
      some { w with eng := (Batch.executeNext (batchEngine prep stepRc finRc) m w.eng b).1 } := by
  rw [Batch.executeNext_engine]
  unfold executeNextCalls
  dsimp only
  by_cases hst : (b.state.ltrim m).isEmpty
  . simp only [hst, if_true]
    rfl
  . rw [if_neg hst, if_neg hst]
    have hobjs : Function.update w.objs a none = w.objs := by rw [← ha, Function.update_eq_self]
    rcases hp : prep w.eng m (b.state.ltrim m).ptr (b.state.ltrim m).nByte with ⟨r, tail⟩
    cases r <;> simp [executeNextOps, World.run, World.step, World.set, World.erase, ha, hp,
      batchEngine, Handles.prepare, finish, Engine.prepareV2, Engine.call, Sqlite3pp.Engine.stepStmt,
      Sqlite3pp.Engine.finish, Function.update_idem, hobjs, sqliteCall] <;>
    split_ifs <;> simp [World.run, World.step, World.set, World.erase, finish, Engine.call, Engine.finalize,
      Function.update_idem, hobjs]

theorem Reachable.executeNext (hw : Reachable w) (ha : w.objs a = none)
    (prep : Engine → Mem → Nat → Int → PrepResult × Option Nat) (stepRc finRc : Engine → Nat → Int)
    (m : Mem) (b : Batch) :
    Reachable { w with eng := (Batch.executeNext (batchEngine prep stepRc finRc) m w.eng b).1 } :=
  run_reachable hw (run_executeNextCalls prep stepRc finRc sqliteOk m b ha)

theorem Reachable.executeAll {prep : Engine → Mem → Nat → Int → PrepResult × Option Nat}
    {stepRc finRc : Engine → Nat → Int} {m : Mem} {fuel : Nat} {b b' : Batch} {e' : Engine}
    {r : OptError} (hw : Reachable w) (ha : w.objs a = none)
    (hr : Batch.executeAll (batchEngine prep stepRc finRc) m fuel w.eng b = some (e', b', r)) :
    Reachable { w with eng := e' } := by
  induction fuel generalizing w b with
  | zero => cases hr
  | succ fuel ih =>
    have hw₁ := hw.executeNext ha prep stepRc finRc m b
    simp only [Batch.executeAll] at hr
    split at hr <;> rename_i heq <;> simp only [heq] at hw₁
    . cases hr; exact hw₁
    . exact (ih hw₁ ha hr :)
    . cases hr; exact hw₁

/--
`execute_all()` leaks no statement handle: from a reachable world with `a` free, whatever the
engine answers at each call, so also on runs that mix successful and failing statements, every
handle its temporaries prepared is finalized when it returns, the handles the live objects hold
are still live, and no handle has been finalized twice.
-/
theorem executeAll_no_leak {prep : Engine → Mem → Nat → Int → PrepResult × Option Nat}
    {stepRc finRc : Engine → Nat → Int} {m : Mem} {fuel : Nat} {b b' : Batch} {e' : Engine}
    {r : OptError} (hw : Reachable w) (ha : w.objs a = none)
    (hr : Batch.executeAll (batchEngine prep stepRc finRc) m fuel w.eng b = some (e', b', r)) :
    (∀ h, w.eng.next ≤ h → e'.handles h ≠ .live) ∧
      (∀ c h, w.objs c = some (some h) → e'.handles h = .live) ∧
      ∀ h, e'.log.count (.finalize h) ≤ 1 := by
  have hs := hw.sound
  have hs' := (hw.executeAll ha hr).sound
  refine ⟨fun h hh hl => ?_, fun c h hc => hs'.owned_live c h hc, fun h => ?_⟩
  . obtain ⟨c, hc⟩ := hs'.live_owned h hl
    have hlive := hs.owned_live c h hc
    simp [hs.fresh h hh] at hlive
  . rw [hs'.count_finalize]
    split_ifs <;> omega

/--
The script `xx` on statement handles, each character one statement, where the first step succeeds
and the second meets `SQLITE_BUSY`: `execute_all()` fails, and both handles are finalized.
-/
theorem executeAll_no_leak_run :
    ∃ e' b', Batch.executeAll (batchEngine (fun _ _ p _ => (.compiled, some (p + 1)))
        (fun _ h => if h = 0 then sqliteDone else sqliteBusy) fun _ _ => sqliteOk) (fun _ => 'x') 3
        World.init.eng ⟨none, ⟨0, 2⟩, ⟨0, 2⟩⟩ = some (e', b', some ⟨sqliteBusy⟩) ∧
      (∀ h, World.init.eng.next ≤ h → e'.handles h ≠ .live) ∧
      (∀ c h, World.init.objs c = some (some h) → e'.handles h = .live) ∧
      ∀ h, e'.log.count (.finalize h) ≤ 1 :=
  ⟨_, _, rfl, @executeAll_no_leak World.init 0 (fun _ _ p _ => (.compiled, some (p + 1)))
    (fun _ h => if h = 0 then sqliteDone else sqliteBusy) (fun _ _ => sqliteOk) (fun _ => 'x') 3
    ⟨none, ⟨0, 2⟩, ⟨0, 2⟩⟩ _ _ _ Reachable.init rfl rfl⟩

end Handles

end Sqlite3pp

