import Sqlite3pp.DatabaseLemmas

/-!
The ownership law the wrapper is meant to keep over `database` objects: every live object's `db_`
is null or a successfully opened connection, and every connection the engine holds open is the
`db_` of exactly one live object. The runs that break it, and the steps that keep it: every step
except a named constructor, a failed open, a refused close and a move assignment onto an object
that holds a connection.
-/

namespace Sqlite3pp

variable {w w' : World} {e : Connections} {a src h : Nat} {d d' : Database} {r : OptError}
  {op : Op}

def HandleOwnership (w : World) : Prop :=
  (∀ a d, w.objs a = some d → d.db = .null ∨ ∃ h, d.db = .conn h ∧ w.engine.conns h = .opened) ∧
  ∀ h, (w.engine.conns h).isOpen → ∃! a, ∃ d, w.objs a = some d ∧ d.db = .conn h

theorem not_handleOwnership_of_dropped (ho : (w.engine.conns h).isOpen)
    (hn : ∀ a d, w.objs a = some d → d.db ≠ .conn h) : ¬ HandleOwnership w := by
  rintro ⟨-, hu⟩
  obtain ⟨a, ⟨d, hd, hdb⟩, -⟩ := hu h ho
  exact hn a d hd hdb

theorem handleOwnership_broken :
    World.init.run [.mkNamed 0 sqliteOk .ok] = .error .indeterminateRead ∧
    (∃ w, World.init.run [.mkDefault 0, .connect 0 sqliteOk .ok, .mkDefault 1,
      .connect 1 sqliteOk .ok, .moveAssign 1 0] = .ok w ∧ ¬ HandleOwnership w) ∧
    (∃ w, World.init.run [.mkDefault 0, .connect 0 sqliteOk .ok, .moveAssign 0 0] = .ok w ∧
      ¬ HandleOwnership w) ∧
    (∃ w, World.init.run [.mkDefault 0, .connect 0 sqliteOk .ok, .connect 0 sqliteBusy .ok] =
      .ok w ∧ ¬ HandleOwnership w) ∧
    (∃ w, World.init.run [.mkDefault 0, .connect 0 sqliteOk (.failed sqliteError (by decide))] =
      .ok w ∧ ¬ HandleOwnership w) := by
  refine ⟨rfl, ⟨_, rfl, ?_⟩, ⟨_, rfl, ?_⟩, ⟨_, rfl, ?_⟩, ⟨_, rfl, ?_⟩⟩
  . refine not_handleOwnership_of_dropped (h := 1) rfl fun a d hd => ?_
    simp only [World.set, World.init, Connections.init, Function.update_apply] at hd
    split_ifs at hd <;> cases hd <;> simp
  . refine not_handleOwnership_of_dropped (h := 0) rfl fun a d hd => ?_
    simp only [World.set, World.init, Function.update_apply] at hd
    split_ifs at hd
    cases hd
    simp
  . refine not_handleOwnership_of_dropped (h := 0) rfl fun a d hd => ?_
    simp only [World.set, World.init, Connections.init, Connections.openV2, Function.update_apply] at hd
    split_ifs at hd <;> cases hd <;> simp
  . rintro ⟨ha, -⟩
    rcases ha 0 _ rfl with h | ⟨h, hh, ho⟩ <;> simp_all [World.set, Connections.openV2]

structure Held (w : World) : Prop where
  no_failed : ∀ h, w.engine.conns h ≠ .failed
  held : ∀ h, (w.engine.conns h).isOpen → ∃ a d, w.objs a = some d ∧ d.db = .conn h

theorem handleOwnership_of_held (ho : Owns w) (hh : Held w) : HandleOwnership w := by
  refine ⟨fun a d hd => ?_, fun h hopen => ?_⟩
  . rcases hdb : d.db with _ | h | _
    . exact .inl rfl
    . have hopen := ho.held_open a d h hd hdb
      refine .inr ⟨h, rfl, ?_⟩
      cases hc : w.engine.conns h <;> simp_all [ConnState.isOpen, hh.no_failed h]
    . exact absurd hdb (ho.initialised a d hd)
  . obtain ⟨a, d, hd, hdb⟩ := hh.held h hopen
    exact ⟨a, ⟨d, hd, hdb⟩, fun b ⟨db, hb, hbh⟩ => ho.unique b a db d h hb hd hbh hdb⟩

def Op.keepsOwnership (w : World) : Op → Prop
  | .mkNamed .. => False
  | .moveAssign a _ => ∀ d, w.objs a = some d → d.db = .null
  | .connect _ rc res => rc = sqliteOk ∧ (res = .ok ∨ res = .noMem)
  | .disconnect _ rc | .destroy _ rc => rc = sqliteOk
  | .mkDefault _ | .mkMove .. | .setHandler .. => True

namespace Held

theorem held_other (hh : Held w) (ha : ∀ d, w.objs a = some d → d.db ≠ .conn h)
    (hopen : (w.engine.conns h).isOpen) : ∃ b db, b ≠ a ∧ w.objs b = some db ∧ db.db = .conn h := by
  obtain ⟨b, db, hb, hbh⟩ := hh.held h hopen
  exact ⟨b, db, by rintro rfl; exact ha db hb hbh, hb, hbh⟩

theorem frame (hf : ∀ h, w'.engine.conns h ≠ .failed)
    (hheld : ∀ h, (w'.engine.conns h).isOpen → ∃ b db, b ≠ a ∧ w.objs b = some db ∧ db.db = .conn h)
    (ho : ∀ b, b ≠ a → w'.objs b = w.objs b) : Held w' :=
  ⟨hf, fun h hopen => let ⟨b, db, hba, hb, hbh⟩ := hheld h hopen; ⟨b, db, (ho b hba).trans hb, hbh⟩⟩

theorem disconnect (hh : Held w) (ha : w.objs a = some d)
    (hd : d.disconnect w.engine sqliteOk = .ok (e, d', r)) :
    (∀ h, e.conns h ≠ .failed) ∧ e.next = w.engine.next ∧
      ∀ h, (e.conns h).isOpen → ∃ b db, b ≠ a ∧ w.objs b = some db ∧ db.db = .conn h := by
  have hother : ∀ h, d.db ≠ .conn h → (w.engine.conns h).isOpen →
      ∃ b db, b ≠ a ∧ w.objs b = some db ∧ db.db = .conn h := fun h hne =>
    hh.held_other fun d' hd' => Option.some.inj (ha.symm.trans hd') ▸ hne
  rcases hdb : d.db with _ | c | _
  . rw [Database.disconnect_of_null hdb] at hd
    cases hd
    exact ⟨hh.no_failed, rfl, fun h => hother h (by simp [hdb])⟩
  . rw [Database.disconnect_of_conn hdb] at hd
    cases hd
    refine ⟨fun h => ?_, Connections.close_next, fun h hopen => ?_⟩
    . rw [Connections.close_conns]
      split_ifs
      . simp
      . exact hh.no_failed h
    . rw [Connections.close_conns] at hopen
      split_ifs at hopen with hc
      . simp [ConnState.isOpen] at hopen
      . exact hother h (fun e => hc ⟨rfl, (Ptr.conn.inj (hdb.symm.trans e)).symm⟩) hopen
  . simp [Database.disconnect, hdb, Ptr.read, bind, Except.bind] at hd

theorem step (hh : Held w) (hk : op.keepsOwnership w) (hs : w.step op = .ok w') : Held w' := by
  cases op with
  | mkDefault a =>
    obtain ⟨⟨⟩, hv, ⟨⟩⟩ := bind_eq_ok.1 hs
    exact frame (a := a) hh.no_failed (fun h => hh.held_other (by simp [World.vacant_eq_ok.1 hv]))
      fun b hb => by simp [World.set_objs, hb]
  | mkNamed => exact hk.elim
  | mkMove a src =>
    obtain ⟨⟨⟩, hv, h⟩ := bind_eq_ok.1 hs
    obtain ⟨s, hs', ⟨⟩⟩ := bind_eq_ok.1 h
    refine ⟨hh.no_failed, fun h hopen => ?_⟩
    obtain ⟨b, db, hba, hb, hbh⟩ := hh.held_other (a := a) (by simp [World.vacant_eq_ok.1 hv]) hopen
    by_cases hbs : b = src
    . subst hbs
      obtain rfl : s = db := Option.some.inj ((World.get_eq_ok.1 hs').symm.trans hb)
      exact ⟨a, s, World.set_objs.trans (if_pos rfl), hbh⟩
    . exact ⟨b, db, by simp [World.set_objs, hba, hbs, hb], hbh⟩
  | moveAssign a src =>
    obtain ⟨d, hd, hm⟩ := bind_eq_ok.1 hs
    obtain ⟨s, hs', hm⟩ := bind_eq_ok.1 hm
    replace hd := World.get_eq_ok.1 hd
    have hnull := hk d hd
    have hother : ∀ h, (w.engine.conns h).isOpen → ∃ b db, b ≠ a ∧ w.objs b = some db ∧ db.db = .conn h :=
      fun h => hh.held_other fun d' hd' => by simp [← Option.some.inj (hd.symm.trans hd'), hnull]
    split at hm <;> cases hm
    . exact frame hh.no_failed hother fun b hb => by simp [World.set_objs, hb]
    . refine ⟨hh.no_failed, fun h hopen => ?_⟩
      obtain ⟨b, db, hba, hb, hbh⟩ := hother h hopen
      by_cases hbs : b = src
      . subst hbs
        obtain rfl : s = db := Option.some.inj ((World.get_eq_ok.1 hs').symm.trans hb)
        exact ⟨a, _, World.set_objs.trans (if_neg ‹_›) |>.trans (World.set_objs.trans (if_pos rfl)), hbh⟩
      . exact ⟨b, db, by simp [World.set_objs, hba, hbs, hb], hbh⟩
  | connect a closeRc res =>
    obtain ⟨rfl, hres⟩ := hk
    obtain ⟨d, hd, h⟩ := bind_eq_ok.1 hs
    obtain ⟨⟨e, d', r⟩, h₁, ⟨⟩⟩ := bind_eq_ok.1 h
    obtain ⟨⟨e₁, d₁, r₁⟩, h₂, ⟨⟩⟩ := bind_eq_ok.1 h₁
    obtain ⟨hf, hn, hheld⟩ := hh.disconnect (World.get_eq_ok.1 hd) h₂
    rcases hres with rfl | rfl
    . refine ⟨fun h => ?_, fun h hopen => ?_⟩
      . simp only [Connections.openV2, World.set_engine, Function.update_apply]
        split_ifs
        . simp
        . exact hf h
      . simp only [Connections.openV2, World.set_engine, Function.update_apply] at hopen
        split_ifs at hopen with hn'
        . exact ⟨a, _, World.set_objs.trans (if_pos rfl), by simp [Connections.openV2, hn']⟩
        . obtain ⟨b, db, hba, hb, hbh⟩ := hheld h hopen
          exact ⟨b, db, by simp [World.set_objs, hba, hb], hbh⟩
    . exact frame hf hheld fun b hb => by simp [World.set_objs, hb]
  | disconnect a closeRc =>
    obtain rfl : closeRc = sqliteOk := hk
    obtain ⟨d, hd, h⟩ := bind_eq_ok.1 hs
    obtain ⟨⟨e, d', r⟩, h₁, ⟨⟩⟩ := bind_eq_ok.1 h
    obtain ⟨hf, -, hheld⟩ := hh.disconnect (World.get_eq_ok.1 hd) h₁
    exact frame hf hheld fun b hb => by simp [World.set_objs, hb]
  | setHandler a k f =>
    obtain ⟨d, hd, h⟩ := bind_eq_ok.1 hs
    obtain ⟨⟨e, d'⟩, h₁, ⟨⟩⟩ := bind_eq_ok.1 h
    obtain ⟨p, -, ⟨⟩⟩ := bind_eq_ok.1 h₁
    refine ⟨by simpa using hh.no_failed, fun h hopen => ?_⟩
    obtain ⟨b, db, hb, hbh⟩ := hh.held h (by simpa using hopen)
    by_cases hba : b = a
    . subst hba
      exact ⟨b, _, World.set_objs.trans (if_pos rfl),
        Option.some.inj ((World.get_eq_ok.1 hd).symm.trans hb) ▸ hbh⟩
    . exact ⟨b, db, by simp [World.set_objs, hba, hb], hbh⟩
  | destroy a closeRc =>
    obtain rfl : closeRc = sqliteOk := hk
    obtain ⟨d, hd, h⟩ := bind_eq_ok.1 hs
    obtain ⟨⟨e, d', r⟩, h₁, ⟨⟩⟩ := bind_eq_ok.1 h
    obtain ⟨hf, -, hheld⟩ := hh.disconnect (World.get_eq_ok.1 hd) h₁
    exact frame hf hheld fun b hb => by simp [World.erase_objs, hb]

end Held

inductive KeepsOwnership : World → Prop where
  | init : KeepsOwnership World.init
  | step {w w' : World} (op : Op) : KeepsOwnership w → op.keepsOwnership w → w.step op = .ok w' →
      KeepsOwnership w'

namespace KeepsOwnership

theorem reachable (hw : KeepsOwnership w) : Reachable w := by
  induction hw with
  | init => exact .init
  | step op _ _ hs ih => exact .step op ih hs

theorem held (hw : KeepsOwnership w) : Held w := by
  induction hw with
  | init => exact ⟨by simp [World.init, Connections.init], by simp [World.init, Connections.init, ConnState.isOpen]⟩
  | step op _ hk hs ih => exact ih.step hk hs

end KeepsOwnership

/-- Over every run whose steps keep it, the ownership law holds. -/
theorem handleOwnership_of_keeps (hw : KeepsOwnership w) : HandleOwnership w :=
  handleOwnership_of_held hw.reachable.owns hw.held

/-- A connection opened, moved to a second object by the move constructor, and the first destroyed. -/
theorem handleOwnership_of_keeps_move :
    ∃ w, World.init.run [.mkDefault 0, .connect 0 sqliteOk .ok, .mkMove 1 0, .destroy 0 sqliteOk] =
      .ok w ∧ HandleOwnership w :=
  ⟨_, rfl, handleOwnership_of_keeps (.step (.destroy 0 sqliteOk) (.step (.mkMove 1 0)
    (.step (.connect 0 sqliteOk .ok) (.step (.mkDefault 0) .init trivial rfl) ⟨rfl, .inl rfl⟩ rfl)
    trivial rfl) rfl rfl)⟩

end Sqlite3pp
