import Sqlite3pp.Handles

/-!
Over every run of statement objects, each handle `sqlite3_prepare_v2` produces is finalized at most
once, receives no call after it, is owned by exactly one live object until then, and is finalized
exactly once when no object is left.
-/

namespace Sqlite3pp

namespace Handles

structure Sound (w : World) : Prop where
  owned_live : ∀ a h, w.objs a = some (some h) → w.eng.handles h = .live
  unique : ∀ a b h, w.objs a = some (some h) → w.objs b = some (some h) → a = b
  live_owned : ∀ h, w.eng.handles h = .live → ∃ a, w.objs a = some (some h)
  fresh : ∀ h, w.eng.next ≤ h → w.eng.handles h = .unused
  log_unused : ∀ h, w.eng.handles h = .unused → ∀ c ∈ w.eng.log, c.handle ≠ h
  log_prepared : ∀ h, w.eng.handles h ≠ .unused → .prepare h ∈ w.eng.log
  log_live : ∀ h, w.eng.handles h = .live → .finalize h ∉ w.eng.log
  log_finalized : ∀ h, w.eng.handles h = .finalized → .finalize h ∈ w.eng.log ∧
    ∀ pre post, w.eng.log = pre ++ .finalize h :: post → (∀ c ∈ pre, c.handle ≠ h) ∧
      .finalize h ∉ post

namespace World

variable {w : World} {a b : Nat} {p : Option Nat}

@[simp] theorem set_eng : (w.set a p).eng = w.eng := rfl
@[simp] theorem erase_eng : (w.erase a).eng = w.eng := rfl

theorem set_objs : (w.set a p).objs b = if b = a then some p else w.objs b := by
  simp [set, Function.update_apply]

theorem erase_objs : (w.erase a).objs b = if b = a then none else w.objs b := by
  simp [erase, Function.update_apply]

theorem set_none_objs {h : Nat} (hb : (w.set a none).objs b = some (some h)) :
    b ≠ a ∧ w.objs b = some (some h) := by
  rw [set_objs] at hb
  split_ifs at hb with hba
  . simp at hb
  . exact ⟨hba, hb⟩

theorem erase_objs_some {h : Nat} (hb : (w.erase a).objs b = some (some h)) :
    b ≠ a ∧ w.objs b = some (some h) := by
  rw [erase_objs] at hb
  split_ifs at hb with hba
  . exact ⟨hba, hb⟩

end World

namespace Sound

variable {w w' : World} {a : Nat} {h : Nat} {p : Option Nat} {op : Op} {e' : Engine}

def Empty (w : World) (a : Nat) : Prop := ∀ h, w.objs a ≠ some (some h)

theorem finalized_cons {log : List Call} {c : Call} (hc : c.handle ≠ h)
    (hd : ∀ pre post, log = pre ++ .finalize h :: post → (∀ c ∈ pre, c.handle ≠ h) ∧ .finalize h ∉ post) :
    ∀ pre post, c :: log = pre ++ .finalize h :: post → (∀ c ∈ pre, c.handle ≠ h) ∧ .finalize h ∉ post := by
  intro pre post he
  cases pre with
  | nil => cases he; exact absurd rfl hc
  | cons c' pre =>
    obtain ⟨rfl, hl⟩ := List.cons.inj he
    obtain ⟨h₁, h₂⟩ := hd pre post hl
    exact ⟨fun c' hc' => (List.mem_cons.1 hc').elim (· ▸ hc) (h₁ c'), h₂⟩

theorem set_none (hw : Sound w) (ha : Empty w a) : Sound (w.set a none) := by
  refine ⟨fun b h hb => hw.owned_live b h (World.set_none_objs hb).2,
    fun b c h hb hc => hw.unique b c h (World.set_none_objs hb).2 (World.set_none_objs hc).2,
    fun h hh => ?_, hw.fresh, hw.log_unused, hw.log_prepared, hw.log_live, hw.log_finalized⟩
  obtain ⟨b, hb⟩ := hw.live_owned h hh
  refine ⟨b, ?_⟩
  rw [World.set_objs, if_neg (fun (hba : b = a) => ha h (hba ▸ hb))]
  exact hb

theorem erase (hw : Sound w) (ha : Empty w a) : Sound (w.erase a) := by
  refine ⟨fun b h hb => hw.owned_live b h (World.erase_objs_some hb).2,
    fun b c h hb hc => hw.unique b c h (World.erase_objs_some hb).2 (World.erase_objs_some hc).2,
    fun h hh => ?_, hw.fresh, hw.log_unused, hw.log_prepared, hw.log_live, hw.log_finalized⟩
  obtain ⟨b, hb⟩ := hw.live_owned h hh
  refine ⟨b, ?_⟩
  rw [World.erase_objs, if_neg (fun (hba : b = a) => ha h (hba ▸ hb))]
  exact hb

theorem call (hw : Sound w) (hp : ∀ h, p = some h → w.eng.handles h = .live) :
    Sound { w with eng := w.eng.call p } := by
  cases p with
  | none => exact hw
  | some h =>
    have hl := hp h rfl
    refine ⟨hw.owned_live, hw.unique, hw.live_owned, hw.fresh, fun h' hu c hc => ?_,
      fun h' hu => List.mem_cons_of_mem _ (hw.log_prepared h' hu), fun h' hl' hf => ?_,
      fun h' hf => ⟨List.mem_cons_of_mem _ (hw.log_finalized h' hf).1, fun pre post he => ?_⟩⟩
    . simp only [Engine.call, List.mem_cons] at hc
      rcases hc with rfl | hc
      . rintro rfl; simp [Engine.call, Call.handle, hl] at hu
      . exact hw.log_unused h' hu c hc
    . simp only [Engine.call, List.mem_cons, reduceCtorEq, false_or] at hf
      exact hw.log_live h' hl' hf
    . have hne : h ≠ h' := by rintro rfl; simp [Engine.call, hl] at hf
      exact finalized_cons (c := .use h) hne (hw.log_finalized h' hf).2 pre post he

theorem live_lt (hw : Sound w) (hl : w.eng.handles h = .live) : h < w.eng.next := by
  by_contra hn
  simp [hw.fresh h (by omega)] at hl

theorem finalize (hw : Sound w) (ha : w.objs a = some (some h)) :
    Sound ({ w with eng := w.eng.finalize h }.set a none) := by
  have hl := hw.owned_live a h ha
  have hne : ∀ b h', b ≠ a → w.objs b = some (some h') → h' ≠ h := fun b h' hba hb e =>
    hba (hw.unique b a h (e ▸ hb) ha)
  simp only [Engine.finalize]
  refine ⟨fun b h' hb => ?_, fun b c h' hb hc => ?_, fun h' hh => ?_, fun h' hh => ?_,
    fun h' hu c hc => ?_, fun h' hu => ?_, fun h' hh => ?_, fun h' hh => ?_⟩
  . obtain ⟨hba, hb⟩ := World.set_none_objs hb
    simpa [Function.update_noteq (hne b h' hba hb)] using hw.owned_live b h' hb
  . exact hw.unique b c h' (World.set_none_objs hb).2 (World.set_none_objs hc).2
  . have hh' : h' ≠ h := by rintro rfl; simp at hh
    simp only [World.set_eng, Function.update_noteq hh'] at hh
    obtain ⟨b, hb⟩ := hw.live_owned h' hh
    refine ⟨b, ?_⟩
    rw [World.set_objs, if_neg]
    . exact hb
    . rintro rfl
      rw [ha] at hb
      exact hh' (by simpa using hb.symm)
  . have := hw.live_lt hl
    simp only [World.set_eng] at hh ⊢
    simpa [Function.update_noteq (show h' ≠ h by omega)] using hw.fresh h' hh
  . have hh' : h' ≠ h := by rintro rfl; simp at hu
    simp only [World.set_eng, Function.update_noteq hh'] at hu
    simp only [World.set_eng, List.mem_cons] at hc
    rcases hc with rfl | hc
    . exact fun e => hh' e.symm
    . exact hw.log_unused h' hu c hc
  . by_cases hh' : h' = h
    . subst hh'; exact List.mem_cons_of_mem _ (hw.log_prepared h' (by simp [hl]))
    . simp only [World.set_eng, Function.update_noteq hh'] at hu
      exact List.mem_cons_of_mem _ (hw.log_prepared h' hu)
  . have hh' : h' ≠ h := by rintro rfl; simp at hh
    simp only [World.set_eng, Function.update_noteq hh'] at hh
    simp [hh', hw.log_live h' hh]
  . by_cases hh' : h' = h
    . subst hh'
      refine ⟨List.mem_cons_self _ _, fun pre post he => ?_⟩
      cases pre with
      | nil =>
        simp only [World.set_eng, List.nil_append, List.cons.injEq] at he
        obtain ⟨-, rfl⟩ := he
        exact ⟨by simp, hw.log_live h' hl⟩
      | cons c pre =>
        simp only [World.set_eng, List.cons_append, List.cons.injEq] at he
        exact absurd (he.2 ▸ List.mem_append_right _ (List.mem_cons_self _ _)) (hw.log_live h' hl)
    . simp only [World.set_eng, Function.update_noteq hh'] at hh
      obtain ⟨hm, hd⟩ := hw.log_finalized h' hh
      exact ⟨List.mem_cons_of_mem _ hm, finalized_cons (c := .finalize h) (Ne.symm hh') hd⟩

theorem compiled (hw : Sound w) (ha : Empty w a) :
    Sound ({ w with eng := (w.eng.prepareV2 .compiled).1 }.set a (some w.eng.next)) := by
  have hu := hw.fresh w.eng.next (Nat.le_refl _)
  have hnext : ∀ b, w.objs b ≠ some (some w.eng.next) := fun b hb => by
    simp [hw.owned_live b _ hb] at hu
  simp only [Engine.prepareV2]
  refine ⟨fun b h' hb => ?_, fun b c h' hb hc => ?_, fun h' hh => ?_, fun h' hh => ?_,
    fun h' hu' c hc => ?_, fun h' hu' => ?_, fun h' hh => ?_, fun h' hh => ?_⟩
  . rw [World.set_objs] at hb
    split_ifs at hb
    . cases hb; simp
    . have : h' ≠ w.eng.next := by rintro rfl; exact hnext b hb
      simpa [Function.update_noteq this] using hw.owned_live b h' hb
  . rw [World.set_objs] at hb hc
    split_ifs at hb hc with hba hca hca
    . exact hba.trans hca.symm
    . cases hb; exact absurd hc (hnext c)
    . cases hc; exact absurd hb (hnext b)
    . exact hw.unique b c h' hb hc
  . by_cases hh' : h' = w.eng.next
    . exact ⟨a, by simp [World.set_objs, hh']⟩
    . simp only [World.set_eng, Function.update_noteq hh'] at hh
      obtain ⟨b, hb⟩ := hw.live_owned h' hh
      refine ⟨b, ?_⟩
      rw [World.set_objs, if_neg (fun (e : b = a) => ha h' (e ▸ hb))]
      exact hb
  . simp only [World.set_eng] at hh ⊢
    simpa [Function.update_noteq (show h' ≠ w.eng.next by omega)] using hw.fresh h' (by omega)
  . have hh' : h' ≠ w.eng.next := by rintro rfl; simp at hu'
    simp only [World.set_eng, Function.update_noteq hh'] at hu'
    simp only [World.set_eng, List.mem_cons] at hc
    rcases hc with rfl | hc
    . exact fun e => hh' e.symm
    . exact hw.log_unused h' hu' c hc
  . by_cases hh' : h' = w.eng.next
    . subst hh'; exact List.mem_cons_self _ _
    . simp only [World.set_eng, Function.update_noteq hh'] at hu'
      exact List.mem_cons_of_mem _ (hw.log_prepared h' hu')
  . by_cases hh' : h' = w.eng.next
    . subst hh'
      simp only [World.set_eng, List.mem_cons, reduceCtorEq, false_or]
      exact fun hm => hw.log_unused _ hu _ hm rfl
    . simp only [World.set_eng, Function.update_noteq hh'] at hh
      simp [hw.log_live h' hh]
  . have hh' : h' ≠ w.eng.next := by rintro rfl; simp at hh
    simp only [World.set_eng, Function.update_noteq hh'] at hh
    obtain ⟨hm, hd⟩ := hw.log_finalized h' hh
    exact ⟨List.mem_cons_of_mem _ hm, finalized_cons (c := .prepare w.eng.next) (Ne.symm hh') hd⟩

theorem empty_of_none (ha : w.objs a = none) : Empty w a := fun h e => by simp [ha] at e

theorem empty_of_some_none (ha : w.objs a = some none) : Empty w a := fun h e => by simp [ha] at e

theorem finish (hw : Sound w) (ha : w.objs a = some p) (finRc : Int) :
    Sound ({ w with eng := (Handles.finish w.eng p finRc).1 }.set a none) := by
  cases p with
  | none => exact hw.set_none (empty_of_some_none ha)
  | some h =>
    exact (hw.call (p := some h) fun h' e => (Option.some.inj e) ▸ hw.owned_live a h ha).finalize ha

theorem prepareV2 (hw : Sound w) (ha : Empty w a) (r : PrepResult) :
    Sound ({ w with eng := (w.eng.prepareV2 r).1 }.set a (w.eng.prepareV2 r).2.1) := by
  cases r with
  | compiled => exact hw.compiled ha
  | _ => exact hw.set_none ha

theorem set_set (w : World) (a : Nat) (p q : Option Nat) (e : Engine) :
    { { w with eng := e }.set a p with eng := e' }.set a q = { w with eng := e' }.set a q := by
  simp [World.set, Function.update_idem]

theorem prepare (hw : Sound w) (ha : w.objs a = some p) (finRc : Int) (r : PrepResult) :
    Sound ({ w with eng := (Handles.prepare w.eng p finRc r).1 }.set a
      (Handles.prepare w.eng p finRc r).2.1) := by
  have hw₁ := hw.finish ha finRc
  have he₁ : Empty ({ w with eng := (Handles.finish w.eng p finRc).1 }.set a none) a :=
    empty_of_some_none (by simp [World.set_objs])
  unfold Handles.prepare
  split
  . rename_i e p' err hf
    cases p <;> simp_all [Handles.finish]
  . rename_i e p' hf
    have := hw₁.prepareV2 he₁ r
    simp only [hf, set_set] at this
    exact this

theorem step (hw : Sound w) (hs : w.step op = some w') : Sound w' := by
  cases op with
  | mk a =>
    simp only [World.step] at hs
    split at hs
    . cases hs
    . rename_i hsome
      cases hs; exact hw.set_none (empty_of_none (Option.not_isSome_iff_eq_none.1 hsome))
  | mkSql a r =>
    simp only [World.step] at hs
    split at hs
    . cases hs
    . rename_i hsome
      have ha : Empty w a := empty_of_none (Option.not_isSome_iff_eq_none.1 hsome)
      simp only [Handles.prepare, Handles.finish] at hs
      cases r with
      | error rc hrc => simp [Engine.prepareV2, sqliteCall, hrc] at hs; subst hs; exact hw
      | empty => simp [Engine.prepareV2] at hs; subst hs; exact hw.set_none ha
      | compiled => simp [Engine.prepareV2] at hs; subst hs; exact hw.compiled ha
  | prepare a finRc r =>
    obtain ⟨p, ha, hs⟩ := Option.bind_eq_some.1 hs
    cases hs
    exact hw.prepare ha finRc r
  | use a =>
    obtain ⟨p, ha, hs⟩ := Option.bind_eq_some.1 hs
    cases hs
    exact hw.call fun h e => hw.owned_live a h (e ▸ ha)
  | finish a finRc =>
    obtain ⟨p, ha, hs⟩ := Option.bind_eq_some.1 hs
    cases hs
    cases p <;> exact hw.finish ha finRc
  | destroy a finRc =>
    obtain ⟨p, ha, hs⟩ := Option.bind_eq_some.1 hs
    cases hs
    have := (hw.finish ha finRc).erase (a := a) (empty_of_some_none (by simp [World.set_objs]))
    simpa [World.set, World.erase, Function.update_idem] using this

end Sound

theorem sound_init : Sound World.init := by
  refine ⟨?_, ?_, ?_, ?_, ?_, ?_, ?_, ?_⟩ <;> simp [World.init, Engine.init]

theorem Reachable.sound (h : Reachable w) : Sound w := by
  induction h with
  | init => exact sound_init
  | step op _ hs ih => exact ih.step hs

theorem run_reachable {ops : List Op} (hw : Reachable w) (hr : w.run ops = some w') :
    Reachable w' := by
  induction ops generalizing w with
  | nil => cases hr; exact hw
  | cons op ops ih =>
    obtain ⟨w₁, h₁, h₂⟩ := Option.bind_eq_some.1 hr
    exact ih (hw.step op h₁) h₂

namespace Sound

variable {w : World} {h : Nat}

theorem finalized_of_mem (hw : Sound w) (hm : .finalize h ∈ w.eng.log) :
    w.eng.handles h = .finalized := by
  cases hh : w.eng.handles h with
  | unused => exact absurd rfl (hw.log_unused h hh _ hm)
  | live => exact absurd hm (hw.log_live h hh)
  | finalized => rfl

theorem count_finalize (hw : Sound w) :
    w.eng.log.count (.finalize h) = if w.eng.handles h = .finalized then 1 else 0 := by
  split_ifs with hf
  . obtain ⟨hm, hd⟩ := hw.log_finalized h hf
    obtain ⟨pre, post, he⟩ := List.append_of_mem hm
    obtain ⟨h₁, h₂⟩ := hd pre post he
    rw [he, List.count_append, List.count_cons_self, List.count_eq_zero_of_not_mem h₂,
      List.count_eq_zero_of_not_mem fun hp => h₁ (.finalize h) hp rfl]
  . exact List.count_eq_zero_of_not_mem fun hm => hf (hw.finalized_of_mem hm)

end Sound

/--
Over every run of statement objects, a handle that `sqlite3_prepare_v2` produced is passed to
`sqlite3_finalize` at most once and to no engine call after that; while it is not finalized it is
the `stmt_` of exactly one live object; and once no object is live it has been finalized exactly
once.
-/
theorem handle_finalized_once (hr : Reachable w) (h : Nat) (hp : .prepare h ∈ w.eng.log) :
    w.eng.log.count (.finalize h) ≤ 1 ∧
    (∀ pre post, w.eng.log = pre ++ .finalize h :: post → ∀ c ∈ pre, c.handle ≠ h) ∧
    (.finalize h ∉ w.eng.log → ∃! a, w.objs a = some (some h)) ∧
    ((∀ a, w.objs a = none) → w.eng.log.count (.finalize h) = 1) := by
  have hw := hr.sound
  have hnu : w.eng.handles h ≠ .unused := fun hu => hw.log_unused h hu _ hp rfl
  refine ⟨by rw [hw.count_finalize]; split_ifs <;> omega, fun pre post he => ?_, fun hn => ?_,
    fun hn => ?_⟩
  . have hm : .finalize h ∈ w.eng.log := he ▸ List.mem_append_right _ (List.mem_cons_self _ _)
    exact ((hw.log_finalized h (hw.finalized_of_mem hm)).2 pre post he).1
  . have hl : w.eng.handles h = .live := by
      cases hh : w.eng.handles h with
      | unused => exact absurd hh hnu
      | live => rfl
      | finalized => exact absurd (hw.log_finalized h hh).1 hn
    obtain ⟨a, ha⟩ := hw.live_owned h hl
    exact ⟨a, ha, fun b hb => hw.unique b a h hb ha⟩
  . have hf : w.eng.handles h = .finalized := by
      cases hh : w.eng.handles h with
      | unused => exact absurd hh hnu
      | live => obtain ⟨a, ha⟩ := hw.live_owned h hh; simp [hn a] at ha
      | finalized => rfl
    rw [hw.count_finalize, if_pos hf]

/-- A statement prepared by its constructor, stepped, and destroyed. -/
theorem handle_finalized_once_run :
    ∃ w, World.init.run [.mkSql 0 .compiled, .use 0, .destroy 0 sqliteOk] = some w ∧
      w.eng.log.count (.finalize 0) ≤ 1 ∧
      (∀ pre post, w.eng.log = pre ++ .finalize 0 :: post → ∀ c ∈ pre, c.handle ≠ 0) ∧
      (.finalize 0 ∉ w.eng.log → ∃! a, w.objs a = some (some 0)) ∧
      ((∀ a, w.objs a = none) → w.eng.log.count (.finalize 0) = 1) :=
  ⟨_, rfl, handle_finalized_once
    (run_reachable Reachable.init
      (show World.init.run [.mkSql 0 .compiled, .use 0, .destroy 0 sqliteOk] = some _ from rfl)) 0
    (by decide)⟩

end Handles

end Sqlite3pp
