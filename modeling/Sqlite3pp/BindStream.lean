import Sqlite3pp.StringView
import Sqlite3pp.Columns
import Sqlite3pp.Database

/-!
`statement::bind` for every type the header has an overload for, and the `bindstream` that
`binder(idx)` returns: `operator<<` binds each streamed value at `idx_`, moves on to the next index,
and throws `database_error` when a bind fails. The template `operator<<` hands its value to the
`bind` overload C++ overload resolution picks, which for a C string is `bind(uint, bool)`.

Every length, timeout and column value the wrapper exchanges with the engine goes through
`static_cast<int>`: it arrives unchanged inside the `int` range and wrapped modulo `2^32` outside it,
with no check.
-/

namespace Sqlite3pp

structure BindArgs where
  idx : Nat
  ptr : Nat
  nByte : Int
  transient : Bool
  deriving DecidableEq, Repr

def bindArgs (idx : Nat) (value : StringView) (fcopy : CopySemantic) : BindArgs :=
  ⟨idx, value.ptr, value.nByte, fcopy == .copy⟩

inductive SqlValue where
  | null
  | integer (v : Int)
  | real (v : Float)
  | text (ptr : Nat) (nByte : Int) (transient : Bool)
  | blob (ptr : Nat) (nByte : Int) (transient : Bool)
  deriving Repr

def SqlValue.type : SqlValue → DataType
  | .null => .null
  | .integer _ => .integer
  | .real _ => .float
  | .text .. => .text
  | .blob .. => .blob

abbrev Params := Nat → SqlValue

namespace Params

variable (sqlite3Bind : Nat → SqlValue → Int)

-- What `sqlite3_bind_*` leaves in the parameter it was asked to set: the value when it returns
-- `SQLITE_OK`; `NULL` when it unbound the parameter and then could not store the value
-- (`SQLITE_TOOBIG`, `SQLITE_NOMEM`); the old value when it refused before unbinding it
-- (`SQLITE_RANGE`, `SQLITE_MISUSE`).
def afterBind (rc : Int) (old v : SqlValue) : SqlValue :=
  if rc = sqliteOk then v else if rc = sqliteTooBig ∨ rc = sqliteNomem then .null else old

-- One `sqlite3_bind_*` call at the `uint` index `idx`, with the engine's result code.
def bindValue (p : Params) (idx : BitVec 32) (v : SqlValue) : Params × OptError :=
  let rc := sqlite3Bind idx.toNat v
  (Function.update p idx.toNat (afterBind rc (p idx.toNat) v), sqliteCall rc)

def bindNull (p : Params) (idx : BitVec 32) : Params × OptError :=
  bindValue sqlite3Bind p idx .null

def bindBool (p : Params) (idx : BitVec 32) (value : Bool) : Params × OptError :=
  bindValue sqlite3Bind p idx (.integer (if value then 1 else 0))

def bindInt (p : Params) (idx : BitVec 32) (value : Int) : Params × OptError :=
  bindValue sqlite3Bind p idx (.integer value)

def bindDouble (p : Params) (idx : BitVec 32) (value : Float) : Params × OptError :=
  bindValue sqlite3Bind p idx (.real value)

def bindInt64 (p : Params) (idx : BitVec 32) (value : Int) : Params × OptError :=
  bindValue sqlite3Bind p idx (.integer value)

def bindText (p : Params) (idx : BitVec 32) (value : StringView) (fcopy : CopySemantic) :
    Params × OptError :=
  let a := bindArgs idx.toNat value fcopy
  bindValue sqlite3Bind p idx (.text a.ptr a.nByte a.transient)

def bindBlob (p : Params) (idx : BitVec 32) (value : StringView) (fcopy : CopySemantic) :
    Params × OptError :=
  let a := bindArgs idx.toNat value fcopy
  bindValue sqlite3Bind p idx (.blob a.ptr a.nByte a.transient)

def bindOption {β : Type} (bindSome : Params → BitVec 32 → β → Params × OptError) (p : Params)
    (idx : BitVec 32) (value : Option β) : Params × OptError :=
  match value with
  | none => bindNull sqlite3Bind p idx
  | some v => bindSome p idx v

def bindOptBool (p : Params) (idx : BitVec 32) (value : Option Bool) : Params × OptError :=
  bindOption sqlite3Bind (bindBool sqlite3Bind) p idx value

def bindOptInt (p : Params) (idx : BitVec 32) (value : Option Int) : Params × OptError :=
  bindOption sqlite3Bind (bindInt sqlite3Bind) p idx value

def bindOptDouble (p : Params) (idx : BitVec 32) (value : Option Float) : Params × OptError :=
  bindOption sqlite3Bind (bindDouble sqlite3Bind) p idx value

def bindOptInt64 (p : Params) (idx : BitVec 32) (value : Option Int) : Params × OptError :=
  bindOption sqlite3Bind (bindInt64 sqlite3Bind) p idx value

def bindOptText (p : Params) (idx : BitVec 32) (value : Option StringView) (fcopy : CopySemantic) :
    Params × OptError :=
  bindOption sqlite3Bind (fun p idx v => bindText sqlite3Bind p idx v fcopy) p idx value

def bindOptBlob (p : Params) (idx : BitVec 32) (value : Option StringView) (fcopy : CopySemantic) :
    Params × OptError :=
  bindOption sqlite3Bind (fun p idx v => bindBlob sqlite3Bind p idx v fcopy) p idx value

def setFrom (p : Params) (idx : BitVec 32) : List SqlValue → Params
  | [] => p
  | v :: vs => setFrom (Function.update p idx.toNat v) (idx + 1) vs

theorem setFrom_apply_of_ne (p : Params) (idx : BitVec 32) (vs : List SqlValue) (j : Nat)
    (hj : ∀ i < vs.length, (idx + BitVec.ofNat 32 i).toNat ≠ j) : p.setFrom idx vs j = p j := by
  induction vs generalizing p idx with
  | nil => rfl
  | cons v vs ih =>
    have h₀ : idx.toNat ≠ j := by simpa using hj 0 (by simp)
    rw [setFrom, ih _ _ fun i hi => ?_, Function.update_noteq (Ne.symm h₀)]
    rw [show idx + 1 + BitVec.ofNat 32 i = idx + BitVec.ofNat 32 (i + 1) by bv_omega]
    exact hj (i + 1) (by simp; omega)

theorem setFrom_apply (p : Params) (idx : BitVec 32) (vs : List SqlValue) (hn : vs.length ≤ 2 ^ 32)
    (i : Nat) (hi : i < vs.length) : p.setFrom idx vs (idx + BitVec.ofNat 32 i).toNat = vs[i] := by
  induction vs generalizing p idx i with
  | nil => cases hi
  | cons v vs ih =>
    simp only [List.length_cons] at hn hi
    rw [setFrom]
    cases i with
    | zero =>
      rw [setFrom_apply_of_ne _ _ _ _ fun i hi' => by bv_omega,
        show idx + BitVec.ofNat 32 0 = idx by bv_omega, Function.update_same]
      rfl
    | succ i =>
      rw [show idx + BitVec.ofNat 32 (i + 1) = idx + 1 + BitVec.ofNat 32 i by bv_omega]
      exact ih _ _ (by omega) i (by omega)

def bindIndex (paramIndex : List Char → Int) (name : List Char) : Except Error (BitVec 32) :=
  let r := BitVec.ofInt 32 (paramIndex name)
  if r = 0 then .error ⟨sqliteMisuse⟩ else .ok r

def bindByName {β : Type} (bindAt : Params → BitVec 32 → β → Params × OptError)
    (paramIndex : List Char → Int) (p : Params) (name : List Char) (t : β) : Params × OptError :=
  match bindIndex paramIndex name with
  | .error e => (p, some e)
  | .ok idx => bindAt p idx t

theorem bindByName_spec {β : Type} (f : β → SqlValue) (paramIndex : List Char → Int) (p : Params)
    (name : List Char) (t : β) :
    (∀ j, j ≠ (BitVec.ofInt 32 (paramIndex name)).toNat →
      (bindByName (fun p idx v => bindValue sqlite3Bind p idx (f v)) paramIndex p name t).1 j = p j) ∧
    (paramIndex name = 0 →
      bindByName (fun p idx v => bindValue sqlite3Bind p idx (f v)) paramIndex p name t =
        (p, some ⟨sqliteMisuse⟩)) := by
  refine ⟨fun j hj => ?_, fun h0 => by simp [bindByName, bindIndex, h0]⟩
  by_cases h0 : BitVec.ofInt 32 (paramIndex name) = 0
  . simp [bindByName, bindIndex, h0]
  . simp only [bindByName, bindIndex, h0, if_false, bindValue]
    exact Function.update_noteq hj _ _

end Params

inductive Arg where
  | nullptr
  | bool (value : Bool)
  | int (value : Int)
  | int64 (value : Int)
  | double (value : Float)
  | view (value : StringView)
  | cstr (ptr : Nat)
  | optBool (value : Option Bool)
  | optInt (value : Option Int)
  | optInt64 (value : Option Int)
  | optDouble (value : Option Float)
  deriving Repr

namespace Arg

def sqlType : Arg → DataType
  | .nullptr => .null
  | .bool _ | .int _ | .int64 _ => .integer
  | .double _ => .float
  | .view _ | .cstr _ => .text
  | .optBool v => if v.isSome then .integer else .null
  | .optInt v => if v.isSome then .integer else .null
  | .optInt64 v => if v.isSome then .integer else .null
  | .optDouble v => if v.isSome then .float else .null

def boundValue : Arg → SqlValue
  | .nullptr => .null
  | .bool v => .integer (if v then 1 else 0)
  | .int v | .int64 v => .integer v
  | .double v => .real v
  | .view v => .text v.ptr v.nByte true
  | .cstr q => .integer (if q != 0 then 1 else 0)
  | .optBool v => (v.map fun x => .integer (if x then 1 else 0)).getD .null
  | .optInt v | .optInt64 v => (v.map .integer).getD .null
  | .optDouble v => (v.map .real).getD .null

/-- Every argument but a C string is bound with its own SQL type; a C string is bound as an `INTEGER`. -/
theorem boundValue_type (a : Arg) :
    a.boundValue.type = a.sqlType ∨ ∃ q, a = .cstr q ∧ a.boundValue.type = .integer := by
  cases a with
  | cstr q => exact .inr ⟨q, rfl, rfl⟩
  | optBool v | optInt v | optInt64 v | optDouble v => cases v <;> exact .inl rfl
  | _ => exact .inl rfl

end Arg

structure Bindstream where
  params : Params
  idx : BitVec 32

namespace Bindstream

variable (sqlite3Bind : Nat → SqlValue → Int)

def binder (p : Params) (idx : BitVec 32 := 1) : Bindstream := ⟨p, idx⟩

def put (b : Bindstream) : Arg → Params × OptError
  | .nullptr => Params.bindNull sqlite3Bind b.params b.idx
  | .bool v => Params.bindBool sqlite3Bind b.params b.idx v
  | .int v => Params.bindInt sqlite3Bind b.params b.idx v
  | .int64 v => Params.bindInt64 sqlite3Bind b.params b.idx v
  | .double v => Params.bindDouble sqlite3Bind b.params b.idx v
  | .view v => Params.bindText sqlite3Bind b.params b.idx v .copy
  | .cstr q => Params.bindBool sqlite3Bind b.params b.idx (q != 0)
  | .optBool v => Params.bindOptBool sqlite3Bind b.params b.idx v
  | .optInt v => Params.bindOptInt sqlite3Bind b.params b.idx v
  | .optInt64 v => Params.bindOptInt64 sqlite3Bind b.params b.idx v
  | .optDouble v => Params.bindOptDouble sqlite3Bind b.params b.idx v

def shift (b : Bindstream) (a : Arg) : Except (Params × Error) Bindstream :=
  match b.put sqlite3Bind a with
  | (p, some e) => .error (p, e)
  | (p, none) => .ok ⟨p, b.idx + 1⟩

def shiftAll (b : Bindstream) : List Arg → Except (Params × Error) Bindstream
  | [] => .ok b
  | a :: as =>
    match b.shift sqlite3Bind a with
    | .ok b => b.shiftAll as
    | .error e => .error e

def accepted (idx : BitVec 32) : List SqlValue → Nat
  | [] => 0
  | v :: vs => if sqlite3Bind idx.toNat v = sqliteOk then accepted (idx + 1) vs + 1 else 0

theorem put_eq_bindValue (b : Bindstream) (a : Arg) :
    b.put sqlite3Bind a = Params.bindValue sqlite3Bind b.params b.idx a.boundValue := by
  cases a with
  | optBool v | optInt v | optInt64 v | optDouble v => cases v <;> rfl
  | view v => simp only [put, Params.bindText, bindArgs, Arg.boundValue]; rfl
  | _ => rfl

theorem shift_eq (b : Bindstream) (a : Arg) :
    b.shift sqlite3Bind a =
      if sqlite3Bind b.idx.toNat a.boundValue = sqliteOk then
        .ok ⟨Function.update b.params b.idx.toNat a.boundValue, b.idx + 1⟩
      else .error ((Params.bindValue sqlite3Bind b.params b.idx a.boundValue).1,
        ⟨sqlite3Bind b.idx.toNat a.boundValue⟩) := by
  rw [shift, put_eq_bindValue]
  by_cases h : sqlite3Bind b.idx.toNat a.boundValue = sqliteOk <;>
    simp [Params.bindValue, Params.afterBind, sqliteCall, h]

theorem shiftAll_spec (b : Bindstream) (args : List Arg) :
    accepted sqlite3Bind b.idx (args.map Arg.boundValue) ≤ args.length ∧
    (accepted sqlite3Bind b.idx (args.map Arg.boundValue) = args.length →
      b.shiftAll sqlite3Bind args =
        .ok ⟨b.params.setFrom b.idx (args.map Arg.boundValue), b.idx + BitVec.ofNat 32 args.length⟩) ∧
    (accepted sqlite3Bind b.idx (args.map Arg.boundValue) < args.length → ∃ e,
      b.shiftAll sqlite3Bind args = .error
        ((Params.bindValue sqlite3Bind
          (b.params.setFrom b.idx ((args.map Arg.boundValue).take
            (accepted sqlite3Bind b.idx (args.map Arg.boundValue))))
          (b.idx + BitVec.ofNat 32 (accepted sqlite3Bind b.idx (args.map Arg.boundValue)))
          ((args.map Arg.boundValue).getD (accepted sqlite3Bind b.idx (args.map Arg.boundValue)) .null)).1,
          e)) := by
  induction args generalizing b with
  | nil => exact ⟨le_rfl, fun _ => by cases b; simp [shiftAll, Params.setFrom], by simp⟩
  | cons a as ih =>
    by_cases h : sqlite3Bind b.idx.toNat a.boundValue = sqliteOk
    . obtain ⟨hle, hok, herr⟩ := ih ⟨Function.update b.params b.idx.toNat a.boundValue, b.idx + 1⟩
      have hidx : ∀ n, b.idx + 1 + BitVec.ofNat 32 n = b.idx + BitVec.ofNat 32 (n + 1) := fun n => by
        bv_omega
      simp only [List.map_cons, accepted, h, if_true, List.length_cons, shiftAll, shift_eq,
        Params.setFrom, List.take_succ_cons, List.getD_cons_succ, hidx] at hle hok herr ⊢
      exact ⟨by omega, fun hm => hok (by omega), fun hm => herr (by omega)⟩
    . refine ⟨by simp [accepted, h], fun hm => absurd hm (by simp [accepted, h]), fun _ => ?_⟩
      have h0 : b.idx + BitVec.ofNat 32 0 = b.idx := by bv_omega
      simp [accepted, h, shiftAll, shift_eq, Params.setFrom, h0]

def paramsOf : Except (Params × Error) Bindstream → Params
  | .ok b => b.params
  | .error (p, _) => p

/--
`binder(k) << a₁ << ... << aₙ` with at most `2^32` values, on every engine: whether the stream ends
or throws, the value each `aᵢ₊₁` binds is at parameter `k + i` (a `uint`) for every value before the
engine's first refusal; the parameter of the refused value is as that failed bind left it (`NULL`
when the engine unbound it before failing with `SQLITE_TOOBIG` or `SQLITE_NOMEM`, unchanged
otherwise); and every other parameter is as it was.
-/
theorem binder_params (p : Params) (k : BitVec 32) (args : List Arg) (hn : args.length ≤ 2 ^ 32) :
    (∀ i < accepted sqlite3Bind k (args.map Arg.boundValue),
      args[i]?.map Arg.boundValue =
        some (paramsOf ((binder p k).shiftAll sqlite3Bind args) (k + BitVec.ofNat 32 i).toNat)) ∧
    (∀ a ∈ args[accepted sqlite3Bind k (args.map Arg.boundValue)]?,
      paramsOf ((binder p k).shiftAll sqlite3Bind args)
          (k + BitVec.ofNat 32 (accepted sqlite3Bind k (args.map Arg.boundValue))).toNat =
        Params.afterBind
          (sqlite3Bind (k + BitVec.ofNat 32 (accepted sqlite3Bind k (args.map Arg.boundValue))).toNat
            a.boundValue)
          (p (k + BitVec.ofNat 32 (accepted sqlite3Bind k (args.map Arg.boundValue))).toNat) a.boundValue) ∧
    ∀ j, (∀ i ≤ accepted sqlite3Bind k (args.map Arg.boundValue), i < args.length →
        (k + BitVec.ofNat 32 i).toNat ≠ j) →
      paramsOf ((binder p k).shiftAll sqlite3Bind args) j = p j := by
  obtain ⟨hle, hok, herr⟩ := shiftAll_spec sqlite3Bind (binder p k) args
  simp only [binder] at hle hok herr ⊢
  generalize hn' : accepted sqlite3Bind k (args.map Arg.boundValue) = n at hle hok herr ⊢
  have hlen : ((args.map Arg.boundValue).take n).length = n := by simp [hle]
  -- the accepted values sit at `k + i`, apart from each other and from `k + n`
  have hne : ∀ i < n, ∀ i', i' ≤ n → i' < 2 ^ 32 → i ≠ i' →
      (k + BitVec.ofNat 32 i).toNat ≠ (k + BitVec.ofNat 32 i').toNat := fun i hi i' _ hi' hii => by
    bv_omega
  have hacc : ∀ i (hi : i < n), p.setFrom k ((args.map Arg.boundValue).take n) (k + BitVec.ofNat 32 i).toNat =
      args[i]?.map Arg.boundValue := fun i hi => by
    rw [Params.setFrom_apply _ _ _ (by omega) i (by omega)]
    simp [List.getElem?_eq_getElem (show i < args.length by omega)]
  rcases Nat.lt_or_eq_of_le hle with hlt | heq
  . obtain ⟨e, he⟩ := herr hlt
    rw [he]
    simp only [paramsOf, Params.bindValue]
    refine ⟨fun i hi => ?_, fun a ha => ?_, fun j hj => ?_⟩
    . rw [Function.update_noteq (hne i hi n le_rfl (by omega) (by omega)), hacc i hi]
    . have hget : (args.map Arg.boundValue).getD n .null = a.boundValue := by
        simp [List.getD_eq_getElem?_getD, Option.mem_def.1 ha]
      rw [hget, Function.update_same, Params.setFrom_apply_of_ne _ _ _ _ fun i hi =>
        hne i (by rwa [hlen] at hi) n le_rfl (by omega) (by rw [hlen] at hi; omega)]
    . rw [Function.update_noteq (Ne.symm (hj n le_rfl hlt)), Params.setFrom_apply_of_ne _ _ _ _ fun i hi =>
        hj i (by rw [hlen] at hi; omega) (by rw [hlen] at hi; omega)]
  . subst heq
    rw [hok rfl]
    simp only [paramsOf]
    refine ⟨fun i hi => ?_, fun a ha => by simp at ha, fun j hj => ?_⟩
    . rw [← hacc i hi, List.take_of_length_le (by simp)]
    . exact Params.setFrom_apply_of_ne _ _ _ _ fun i hi => hj i (by simp at hi; omega) (by simpa using hi)

/-- `binder() << 7 << v` on an engine that accepts the first and finds the view too big. -/
theorem binder_params_run :
    [Arg.int 7, Arg.view ⟨0, 3⟩].length ≤ 2 ^ 32 ∧
    (∀ i < accepted (fun i _ => if i = 2 then sqliteTooBig else sqliteOk) 1
        ([Arg.int 7, Arg.view ⟨0, 3⟩].map Arg.boundValue),
      [Arg.int 7, Arg.view ⟨0, 3⟩][i]?.map Arg.boundValue =
        some (paramsOf ((binder (fun _ => .integer 5) 1).shiftAll
          (fun i _ => if i = 2 then sqliteTooBig else sqliteOk) [Arg.int 7, Arg.view ⟨0, 3⟩])
          (1 + BitVec.ofNat 32 i).toNat)) ∧
    (∀ a ∈ [Arg.int 7, Arg.view ⟨0, 3⟩][accepted (fun i _ => if i = 2 then sqliteTooBig else sqliteOk) 1
        ([Arg.int 7, Arg.view ⟨0, 3⟩].map Arg.boundValue)]?,
      paramsOf ((binder (fun _ => .integer 5) 1).shiftAll
          (fun i _ => if i = 2 then sqliteTooBig else sqliteOk) [Arg.int 7, Arg.view ⟨0, 3⟩])
          (1 + BitVec.ofNat 32 (accepted (fun i _ => if i = 2 then sqliteTooBig else sqliteOk) 1
            ([Arg.int 7, Arg.view ⟨0, 3⟩].map Arg.boundValue))).toNat =
        Params.afterBind
          ((fun i _ => if i = 2 then sqliteTooBig else sqliteOk)
            (1 + BitVec.ofNat 32 (accepted (fun i _ => if i = 2 then sqliteTooBig else sqliteOk) 1
              ([Arg.int 7, Arg.view ⟨0, 3⟩].map Arg.boundValue))).toNat a.boundValue)
          (SqlValue.integer 5) a.boundValue) ∧
    ∀ j, (∀ i ≤ accepted (fun i _ => if i = 2 then sqliteTooBig else sqliteOk) 1
        ([Arg.int 7, Arg.view ⟨0, 3⟩].map Arg.boundValue), i < [Arg.int 7, Arg.view ⟨0, 3⟩].length →
        (1 + BitVec.ofNat 32 i).toNat ≠ j) →
      paramsOf ((binder (fun _ => .integer 5) 1).shiftAll
        (fun i _ => if i = 2 then sqliteTooBig else sqliteOk) [Arg.int 7, Arg.view ⟨0, 3⟩]) j =
        SqlValue.integer 5 :=
  ⟨by decide, binder_params _ _ _ _ (by decide)⟩

end Bindstream

/-- A C string streamed into a `bindstream` is bound as the integer `1`, not as `TEXT`. -/
theorem bindstream_cstr_integer (p : Params) (k : BitVec 32) (q : Nat) :
    (Arg.cstr (q + 1)).sqlType = .text ∧
      (Bindstream.binder p k).shiftAll (fun _ _ => sqliteOk) [.cstr (q + 1)] =
        .ok ⟨Function.update p k.toNat (.integer 1), k + 1⟩ := by
  refine ⟨rfl, ?_⟩
  simp [Bindstream.shiftAll, Bindstream.shift_eq, Bindstream.binder, Arg.boundValue]

end Sqlite3pp
