import Sqlite3pp.DatabaseLemmas

/-!
The callbacks the `set_*_handler` family registers with the engine. Every callback's context should
be the matching handler field of the live object that holds its connection. Every run with no move
and no refused `sqlite3_close` keeps this; a move breaks it, since neither the move constructor
nor move assignment registers the callbacks again.
-/

namespace Sqlite3pp

def HooksSound (w : World) : Prop :=
  ∀ h k a, w.engine.hooks h k = some a →
    ∃ d, w.objs a = some d ∧ d.db = .conn h ∧ d.handler k = true

theorem Ptr.read_eq_some {p : Ptr} {h : Nat} : p.read = .ok (some h) ↔ p = .conn h := by
  cases p <;> simp [Ptr.read]

namespace Connections

variable {e : Connections} {h c : Nat} {k k' : Hook} {rc : Int}

@[simp] theorem openV2_hooks (res : OpenResult) : (e.openV2 res).1.hooks = e.hooks := by
  cases res <;> rfl

theorem close_hooks : (e.close h rc).hooks c k = if rc = sqliteOk ∧ c = h then none else e.hooks c k := by
  unfold close; split_ifs <;> simp_all [Function.update_apply]

theorem setHook_hooks (p : Option Nat) (ctx : Option Nat) :
    (e.setHook p k ctx).hooks c k' = if p = some c ∧ k' = k then ctx else e.hooks c k' := by
  cases p with
  | none => simp [setHook]
  | some h => by_cases hc : c = h <;> by_cases hk : k' = k <;> simp [setHook, Function.update_apply, hc, hk, eq_comm]

end Connections

def Op.keepsHooks : Op → Bool
  | .mkMove .. | .moveAssign .. => false
  | .mkNamed _ rc _ | .connect _ rc _ | .disconnect _ rc | .destroy _ rc => rc = sqliteOk
  | .mkDefault _ | .setHandler .. => true

namespace HooksSound

variable {w w' : World} {e : Connections} {a h : Nat} {k : Hook} {d d' : Database} {r : OptError}
  {op : Op}

theorem init : HooksSound World.init := fun _ _ _ hk => by simp [World.init, Connections.init] at hk

theorem conn_of_hook (hh : HooksSound w) (ha : w.objs a = some d) (hk : w.engine.hooks h k = some a) :
    d.db = .conn h := by
  obtain ⟨d', hd', hc, -⟩ := hh h k a hk
  rw [ha, Option.some.injEq] at hd'
  exact hd' ▸ hc

theorem frame (hh : HooksSound w)
    (hk : ∀ h k b, w'.engine.hooks h k = some b → w.engine.hooks h k = some b ∧ b ≠ a)
    (ho : ∀ b, b ≠ a → w'.objs b = w.objs b) : HooksSound w' := fun h k b hb => by
  obtain ⟨hb', hba⟩ := hk h k b hb
  rw [ho b hba]
  exact hh h k b hb'

theorem disconnect_hooks (hh : HooksSound w) (ha : w.objs a = some d)
    (hd : d.disconnect w.engine sqliteOk = .ok (e, d', r)) :
    ∀ h k b, e.hooks h k = some b → w.engine.hooks h k = some b ∧ b ≠ a := by
  intro h k b hb
  rcases hdb : d.db with _ | c | _
  . rw [Database.disconnect_of_null hdb] at hd
    cases hd
    exact ⟨hb, by rintro rfl; simp [hh.conn_of_hook ha hb] at hdb⟩
  . rw [Database.disconnect_of_conn hdb] at hd
    cases hd
    rw [Connections.close_hooks] at hb
    split_ifs at hb with hc
    refine ⟨hb, ?_⟩
    rintro rfl
    rw [hh.conn_of_hook ha hb, Ptr.conn.injEq] at hdb
    exact hc ⟨rfl, hdb⟩
  . simp [Database.disconnect, hdb, Ptr.read, bind, Except.bind] at hd

theorem setHandler (hh : HooksSound w) (ha : w.objs a = some d) (f : Bool)
    (hd : Database.setHandler k w.engine a d f = .ok (e, d')) : HooksSound ({ w with engine := e }.set a d') := by
  obtain ⟨p, hp, ⟨⟩⟩ := bind_eq_ok.1 hd
  replace hp : d.db.read = .ok p := hp
  intro c k' b hb
  simp only [World.set_engine, Connections.setHook_hooks] at hb
  by_cases hc : p = some c ∧ k' = k
  . obtain ⟨rfl, rfl⟩ := hc
    obtain ⟨rfl, rfl⟩ : f = true ∧ a = b := by cases f <;> simp_all
    exact ⟨_, World.set_objs.trans (if_pos rfl), Ptr.read_eq_some.1 hp, by simp⟩
  . rw [if_neg hc] at hb
    obtain ⟨db, hb', hdb, hk⟩ := hh c k' b hb
    by_cases hba : b = a
    . subst hba
      obtain rfl : db = d := Option.some.inj (hb'.symm.trans ha)
      have hpc : p = some c := by simpa [hdb, Ptr.read] using hp.symm
      have hk' : k' ≠ k := fun e => hc ⟨hpc, e⟩
      exact ⟨_, World.set_objs.trans (if_pos rfl), hdb, by simp [Function.update_noteq hk', hk]⟩
    . exact ⟨db, by simp [World.set_objs, hba, hb'], hdb, hk⟩

theorem step (hh : HooksSound w) (hk : op.keepsHooks) (hs : w.step op = .ok w') : HooksSound w' := by
  cases op with
  | mkDefault a =>
    obtain ⟨⟨⟩, hv, ⟨⟩⟩ := bind_eq_ok.1 hs
    refine hh.frame (a := a) (fun h k b hb => ⟨hb, fun hba => ?_⟩) fun b hb => by simp [World.set_objs, hb]
    obtain ⟨d, hd, -⟩ := hh h k b hb
    rw [hba, World.vacant_eq_ok.1 hv] at hd
    cases hd
  | mkNamed a closeRc res =>
    obtain ⟨-, -, h⟩ := bind_eq_ok.1 hs
    simp [Database.mkNamed_eq, bind, Except.bind] at h
  | mkMove | moveAssign => simp [Op.keepsHooks] at hk
  | connect a closeRc res =>
    obtain rfl : closeRc = sqliteOk := by simpa [Op.keepsHooks] using hk
    obtain ⟨d, hd, h⟩ := bind_eq_ok.1 hs
    obtain ⟨⟨e, d', r⟩, h₁, ⟨⟩⟩ := bind_eq_ok.1 h
    obtain ⟨⟨e₁, d₁, r₁⟩, h₂, ⟨⟩⟩ := bind_eq_ok.1 h₁
    have hk₁ := hh.disconnect_hooks (World.get_eq_ok.1 hd) h₂
    cases res <;> exact hh.frame (a := a) hk₁ fun b hb => by simp [World.set_objs, hb]
  | disconnect a closeRc =>
    obtain rfl : closeRc = sqliteOk := by simpa [Op.keepsHooks] using hk
    obtain ⟨d, hd, h⟩ := bind_eq_ok.1 hs
    obtain ⟨⟨e, d', r⟩, h₁, ⟨⟩⟩ := bind_eq_ok.1 h
    exact hh.frame (a := a) (hh.disconnect_hooks (World.get_eq_ok.1 hd) h₁)
      fun b hb => by simp [World.set_objs, hb]
  | setHandler a k f =>
    obtain ⟨d, hd, h⟩ := bind_eq_ok.1 hs
    obtain ⟨⟨e, d'⟩, h₁, ⟨⟩⟩ := bind_eq_ok.1 h
    exact hh.setHandler (World.get_eq_ok.1 hd) f h₁
  | destroy a closeRc =>
    obtain rfl : closeRc = sqliteOk := by simpa [Op.keepsHooks] using hk
    obtain ⟨d, hd, h⟩ := bind_eq_ok.1 hs
    obtain ⟨⟨e, d', r⟩, h₁, ⟨⟩⟩ := bind_eq_ok.1 h
    exact hh.frame (a := a) (hh.disconnect_hooks (World.get_eq_ok.1 hd) h₁)
      fun b hb => by simp [World.erase_objs, hb]

theorem run {ops : List Op} (hh : HooksSound w) (hk : ∀ op ∈ ops, op.keepsHooks)
    (hr : w.run ops = .ok w') : HooksSound w' := by
  induction ops generalizing w with
  | nil => cases hr; exact hh
  | cons op ops ih =>
    obtain ⟨w₁, h₁, h₂⟩ := bind_eq_ok.1 hr
    exact ih (hh.step (hk op (List.mem_cons_self _ _)) h₁) (fun o ho => hk o (List.mem_cons_of_mem _ ho)) h₂

end HooksSound

theorem hooksSound_broken :
    ∃ w, World.init.run [.mkDefault 0, .connect 0 sqliteOk .ok, .setHandler 0 .busy true,
      .mkMove 1 0, .destroy 0 sqliteOk] = .ok w ∧
      w.engine.hooks 0 .busy = some 0 ∧ w.objs 0 = none ∧ ¬ HooksSound w := by
  refine ⟨_, rfl, rfl, rfl, fun hs => ?_⟩
  obtain ⟨d, hd, -⟩ := hs 0 .busy 0 rfl
  cases hd

end Sqlite3pp
