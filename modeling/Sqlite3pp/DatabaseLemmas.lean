import Sqlite3pp.Database

/-!
What every run of `database` operations keeps: no connection is held by two live objects, and no
live object holds a connection the engine has closed.
-/

namespace Sqlite3pp

namespace World

variable {w : World} {a b : Nat} {d : Database}

@[simp] theorem set_engine : (w.set a d).engine = w.engine := rfl
@[simp] theorem erase_engine : (w.erase a).engine = w.engine := rfl

theorem set_objs : (w.set a d).objs b = if b = a then some d else w.objs b := by
  simp [set, Function.update_apply]

theorem erase_objs : (w.erase a).objs b = if b = a then none else w.objs b := by
  simp [erase, Function.update_apply]

theorem get_eq_ok : w.get a = .ok d ↔ w.objs a = some d := by
  unfold get; split <;> simp_all

theorem vacant_eq_ok : w.vacant a = .ok () ↔ w.objs a = none := by
  unfold vacant; split <;> simp_all

theorem set_set_comm (h : a ≠ b) (d d' : Database) : (w.set a d).set b d' = (w.set b d').set a d := by
  simp only [set, Function.update_comm h]

end World

namespace Connections

variable {e : Connections}

@[simp] theorem setHook_conns : (e.setHook p k ctx).conns = e.conns := by
  unfold setHook; split <;> rfl

@[simp] theorem setHook_next : (e.setHook p k ctx).next = e.next := by
  unfold setHook; split <;> rfl

@[simp] theorem close_next : (e.close h rc).next = e.next := by
  unfold close; split <;> rfl

theorem close_conns : (e.close h rc).conns h' =
    if rc = sqliteOk ∧ h' = h then .closed else e.conns h' := by
  unfold close; split_ifs <;> simp_all [Function.update_apply]

theorem openV2_spec (res : OpenResult) : (e.openV2 res).2.1 = .null ∨
    ((e.openV2 res).2.1 = .conn e.next ∧ ((e.openV2 res).1.conns e.next).isOpen) := by
  cases res <;> simp [openV2, ConnState.isOpen]

theorem openV2_conns_of_ne (res : OpenResult) (h : h' ≠ e.next) :
    (e.openV2 res).1.conns h' = e.conns h' := by
  cases res <;> simp [openV2, Function.update_apply, h]

end Connections

namespace Database

variable {e : Connections} {d : Database} {h : Nat} {rc : Int}

theorem disconnect_of_null (hd : d.db = .null) : d.disconnect e rc = .ok (e, d, none) := by
  simp [disconnect, hd, Ptr.read, pure, Except.pure]
  rfl

theorem disconnect_of_conn (hd : d.db = .conn h) :
    d.disconnect e rc =
      .ok (e.close h rc, if rc = sqliteOk then { d with db := .null } else d, sqliteCall rc) := by
  simp [disconnect, hd, Ptr.read, sqliteCall]
  split_ifs <;> rfl

theorem mkNamed_eq (e : Connections) (rc : Int) (res : OpenResult) :
    mkNamed e rc res = .error .indeterminateRead := rfl

end Database

structure Owns (w : World) : Prop where
  initialised : ∀ a d, w.objs a = some d → d.db ≠ .indeterminate
  held_open : ∀ a d h, w.objs a = some d → d.db = .conn h → (w.engine.conns h).isOpen
  unique : ∀ a b da db h, w.objs a = some da → w.objs b = some db → da.db = .conn h →
    db.db = .conn h → a = b
  fresh : ∀ h, w.engine.next ≤ h → w.engine.conns h = .unused

namespace Owns

variable {w w' : World} {e : Connections} {a src h : Nat} {rc : Int} {r : OptError} {res : OpenResult}
  {op : Op} {d d' d₀ s : Database}

theorem lt_next (hw : Owns w) (ha : w.objs a = some d) (hd : d.db = .conn h) : h < w.engine.next := by
  have := hw.held_open a d h ha hd
  by_contra hlt
  simp [hw.fresh h (by omega), ConnState.isOpen] at this

theorem set (hw : Owns w) (hi : d.db ≠ .indeterminate)
    (ho : ∀ h, d.db = .conn h →
      (w.engine.conns h).isOpen ∧ ∀ b db, b ≠ a → w.objs b = some db → db.db ≠ .conn h) :
    Owns (w.set a d) := by
  constructor
  . intro b db hb
    rw [World.set_objs] at hb
    split_ifs at hb
    . cases hb; exact hi
    . exact hw.initialised b db hb
  . intro b db h hb hdb
    rw [World.set_objs] at hb
    split_ifs at hb
    . cases hb; exact (ho h hdb).1
    . exact hw.held_open b db h hb hdb
  . intro b c db dc h hb hc hbh hch
    rw [World.set_objs] at hb hc
    split_ifs at hb hc with hba hca hca
    . exact hba.trans hca.symm
    . cases hb; exact absurd hch ((ho h hbh).2 c dc hca hc)
    . cases hc; exact absurd hbh ((ho h hch).2 b db hba hb)
    . exact hw.unique b c db dc h hb hc hbh hch
  . exact hw.fresh

theorem set_null (hw : Owns w) (hd : d.db = .null) : Owns (w.set a d) :=
  hw.set (by simp [hd]) (by simp [hd])

theorem set_same (hw : Owns w) (ha : w.objs a = some d₀) (hd : d.db = d₀.db) : Owns (w.set a d) :=
  hw.set (hd ▸ hw.initialised a d₀ ha) fun h hh =>
    ⟨hw.held_open a d₀ h ha (hd ▸ hh), fun b db hba hb hbh =>
      hba (hw.unique b a db d₀ h hb ha hbh (hd ▸ hh))⟩

theorem transfer (hw : Owns w) (hs : w.objs src = some s) (hd : d.db = s.db) :
    Owns (((w.set src ⟨.null, Database.noHandlers⟩)).set a d) := by
  have hw₁ := hw.set_null (a := src) (d := ⟨.null, Database.noHandlers⟩) rfl
  refine hw₁.set (hd ▸ hw.initialised src s hs) fun h hh => ⟨hw.held_open src s h hs (hd ▸ hh), ?_⟩
  intro b db hba hb hbh
  rw [World.set_objs] at hb
  split_ifs at hb with hbs
  . cases hb; simp at hbh
  . exact hbs (hw.unique b src db s h hb hs hbh (hd ▸ hh))

theorem of_engine (hw : Owns w) (hc : e.conns = w.engine.conns) (hn : e.next = w.engine.next) :
    Owns { w with engine := e } :=
  ⟨hw.initialised, fun a d h ha hd => hc ▸ hw.held_open a d h ha hd, hw.unique,
    fun h hh => hc ▸ hw.fresh h (hn ▸ hh)⟩

theorem close (hw : Owns w) (hlt : h < w.engine.next)
    (hu : ∀ b db, w.objs b = some db → db.db ≠ .conn h) : Owns { w with engine := w.engine.close h rc } := by
  refine ⟨hw.initialised, fun b db h' hb hbh => ?_, hw.unique, fun h' hh => ?_⟩
  . have hne : h' ≠ h := by rintro rfl; exact hu b db hb hbh
    simpa [Connections.close_conns, hne] using hw.held_open b db h' hb hbh
  . simp only [Connections.close_next] at hh
    simpa [Connections.close_conns, show h' ≠ h by omega] using hw.fresh h' hh

theorem openV2 (hw : Owns w) (res : OpenResult) (hd : d.db = (w.engine.openV2 res).2.1) :
    Owns ({ w with engine := (w.engine.openV2 res).1 }.set a d) := by
  have hw₁ : Owns { w with engine := (w.engine.openV2 res).1 } := by
    refine ⟨hw.initialised, fun b db h hb hbh => ?_, hw.unique, fun h hh => ?_⟩
    . have := hw.lt_next hb hbh
      simpa [Connections.openV2_conns_of_ne res (show h ≠ w.engine.next by omega)] using
        hw.held_open b db h hb hbh
    . cases res with
      | noMem => exact hw.fresh h hh
      | _ =>
        simp only [Connections.openV2] at hh ⊢
        rw [Function.update_noteq (by omega)]
        exact hw.fresh h (by omega)
  rcases Connections.openV2_spec (e := w.engine) res with hn | ⟨hn, ho⟩
  . exact hw₁.set_null (hd.trans hn)
  . refine hw₁.set (by simp [hd, hn]) fun h hh => ?_
    obtain rfl : w.engine.next = h := by simpa [hd, hn] using hh
    exact ⟨ho, fun b db _ hb hbh => absurd (hw.lt_next hb hbh) (Nat.lt_irrefl _)⟩

theorem erase (hw : Owns w) : Owns (w.erase a) := by
  constructor
  . intro b db hb
    rw [World.erase_objs] at hb
    split_ifs at hb
    exact hw.initialised b db hb
  . intro b db h hb hdb
    rw [World.erase_objs] at hb
    split_ifs at hb
    exact hw.held_open b db h hb hdb
  . intro b c db dc h hb hc
    rw [World.erase_objs] at hb hc
    split_ifs at hb hc
    exact hw.unique b c db dc h hb hc
  . exact hw.fresh

theorem disconnect (hw : Owns w) (ha : w.objs a = some d)
    (hd : d.disconnect w.engine rc = .ok (e, d', r)) : Owns ({ w with engine := e }.set a d') := by
  rcases hdb : d.db with _ | h | _
  . rw [Database.disconnect_of_null hdb] at hd
    cases hd
    exact hw.set_same ha rfl
  . rw [Database.disconnect_of_conn hdb] at hd
    cases hd
    split_ifs with hrc
    . have hw₁ := hw.set_null (a := a) (d := { d with db := .null }) rfl
      refine hw₁.close (hw.lt_next ha hdb) fun b db hb hbh => ?_
      rw [World.set_objs] at hb
      split_ifs at hb with hba
      . cases hb; simp at hbh
      . exact hba (hw.unique b a db d h hb ha hbh hdb)
    . simpa [Connections.close, hrc] using hw.set_same ha rfl
  . exact absurd hdb (hw.initialised a d ha)

theorem connect (hw : Owns w) (ha : w.objs a = some d)
    (hd : d.connect w.engine rc res = .ok (e, d', r)) : Owns ({ w with engine := e }.set a d') := by
  obtain ⟨⟨e₁, d₁, r₁⟩, h₁, ⟨⟩⟩ := bind_eq_ok.1 hd
  have hw₁ := hw.disconnect ha h₁
  have := hw₁.openV2 (a := a) (d := { d₁ with db := (e₁.openV2 res).2.1 }) res rfl
  simpa [World.set, Function.update_idem] using this

theorem step (hw : Owns w) (hs : w.step op = .ok w') : Owns w' := by
  cases op with
  | mkDefault a =>
    obtain ⟨-, -, ⟨⟩⟩ := bind_eq_ok.1 hs
    exact hw.set_null rfl
  | mkNamed a closeRc res =>
    obtain ⟨-, -, h⟩ := bind_eq_ok.1 hs
    simp [Database.mkNamed_eq, bind, Except.bind] at h
  | mkMove a src =>
    obtain ⟨-, -, h⟩ := bind_eq_ok.1 hs
    obtain ⟨s, hs', ⟨⟩⟩ := bind_eq_ok.1 h
    exact hw.transfer (World.get_eq_ok.1 hs') rfl
  | moveAssign a src =>
    obtain ⟨d, hd, h⟩ := bind_eq_ok.1 hs
    obtain ⟨s, hs', h⟩ := bind_eq_ok.1 h
    split at h <;> cases h
    . exact hw.set_null rfl
    . rw [World.set_set_comm ‹_›]
      exact hw.transfer (World.get_eq_ok.1 hs') rfl
  | connect a closeRc res =>
    obtain ⟨d, hd, h⟩ := bind_eq_ok.1 hs
    obtain ⟨⟨e, d', r⟩, h₁, ⟨⟩⟩ := bind_eq_ok.1 h
    exact hw.connect (World.get_eq_ok.1 hd) h₁
  | disconnect a closeRc =>
    obtain ⟨d, hd, h⟩ := bind_eq_ok.1 hs
    obtain ⟨⟨e, d', r⟩, h₁, ⟨⟩⟩ := bind_eq_ok.1 h
    exact hw.disconnect (World.get_eq_ok.1 hd) h₁
  | setHandler a k f =>
    obtain ⟨d, hd, h⟩ := bind_eq_ok.1 hs
    obtain ⟨⟨e, d'⟩, h₁, ⟨⟩⟩ := bind_eq_ok.1 h
    obtain ⟨p, -, ⟨⟩⟩ := bind_eq_ok.1 h₁
    exact (hw.of_engine (by simp) (by simp)).set_same (World.get_eq_ok.1 hd) rfl
  | destroy a closeRc =>
    obtain ⟨d, hd, h⟩ := bind_eq_ok.1 hs
    obtain ⟨⟨e, d', r⟩, h₁, ⟨⟩⟩ := bind_eq_ok.1 h
    simpa [World.set, World.erase, Function.update_idem] using
      (hw.disconnect (World.get_eq_ok.1 hd) h₁).erase (a := a)

end Owns

theorem owns_init : Owns World.init :=
  ⟨by simp [World.init], by simp [World.init], by simp [World.init], by simp [World.init, Connections.init]⟩

/-- Over every run, no connection is held by two live objects and none a live object holds is closed. -/
theorem Reachable.owns (h : Reachable w) : Owns w := by
  induction h with
  | init => exact owns_init
  | step op _ hs ih => exact ih.step hs

end Sqlite3pp
