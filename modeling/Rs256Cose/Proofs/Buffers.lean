import Mathlib
import Rs256Cose.Error
import Rs256Cose.Proofs.Places

/-!
# Storing into a buffer

A writer fills the buffer of a caller store by store, a byte at a position or bytes in place of
those between two positions. A store can go wrong in ways that the finished bytes do not show: the
position may lie beyond the end, and bytes of another number than those they replace make the
buffer longer or shorter, or are refused by a buffer of fixed length. A `Storing` program may stop
at any store, and what it stored before stays.

As long as each store goes on where the last one ended, the buffer is `out.overwrite written`: what
was written, then the old bytes. Such a store succeeds within the buffer, of whatever kind it is
(`runOn_storeByte`, `runOn_storeBetween`). `AllOrNothing` is what a caller sees of a write that
was made in this way.
-/

namespace Rs256Cose

namespace Bytes

/-- `out` with the bytes from `start` up to `stop` replaced by `data`, however many these are. From
a `start` behind `stop` none is replaced. -/
def splice (out : Bytes) (start stop : Nat) (data : Bytes) : Bytes :=
  out.take start ++ data ++ out.drop (max start stop)

variable {out written data : Bytes}

/-- Bytes put in place of as many behind a written part continue this part. -/
theorem splice_overwrite : (out.overwrite written).splice written.length
    (written.length + data.length) data = out.overwrite (written ++ data) := by
  rw [splice, max_eq_right (Nat.le_add_right _ _), overwrite, overwrite, List.take_left,
    List.drop_append, List.drop_drop, List.drop_of_length_le (Nat.le_add_right _ _),
    List.nil_append, List.length_append]
  congr 2
  omega

/-- A byte set behind a written part continues this part. -/
theorem set_overwrite {b : UInt8} (h : written.length < out.length) :
    (out.overwrite written).set written.length b = out.overwrite (written ++ [b]) := by
  rw [overwrite, overwrite, List.set_append_right _ _ le_rfl, Nat.sub_self,
    List.drop_eq_getElem_cons h, List.set_cons_zero, List.length_append, List.length_singleton,
    List.append_assoc, List.singleton_append]

end Bytes

/-! ### Programs of stores -/

/-- What a buffer does with bytes of another number than those that they are to replace. -/
inductive BufferKind where
  /-- It grows or shrinks. -/
  | resizable
  /-- It refuses them, as a view of another buffer does. -/
  | fixed
  deriving DecidableEq, Repr

/-- Why a writer stops. -/
inductive StoreError where
  | refused (error : EncodeError)
  | beyondEnd (pos : Nat)
  | otherLength (expected given : Nat)
  deriving DecidableEq, Repr

/-- A program that stores into a buffer. What it stored before it stops stays there. -/
abbrev Storing (α : Type) := ExceptT StoreError (StateM Bytes) α

namespace Storing

open Bytes

/-- What a computation that may refuse gives. -/
def demand {α : Type} (x : Except EncodeError α) : Storing α :=
  liftM (x.mapError StoreError.refused)

def refuseUnless (condition : Prop) [Decidable condition] (e : EncodeError) : Storing Unit :=
  if condition then pure () else throw (.refused e)

def storeByte (pos : Nat) (b : UInt8) : Storing Unit := do
  let out ← get
  if pos < out.length then set (out.set pos b) else throw (.beyondEnd pos)

/-- Stores `data` in place of the bytes from `start` up to `stop`. -/
def storeBetween (kind : BufferKind) (start stop : Nat) (data : Bytes) : Storing Unit := do
  let out ← get
  let replaced := ((out.take stop).drop start).length
  if kind = .resizable ∨ data.length = replaced then set (out.splice start stop data)
  else throw (.otherLength replaced data.length)

/-- The answer of a program on a buffer, and the buffer as it is afterwards. -/
def runOn {α : Type} (program : Storing α) (out : Bytes) : Except StoreError α × Bytes :=
  program.run.run out

section

variable {α β : Type} {program : Storing α} {next : α → Storing β} {out out' : Bytes}

theorem runOn_bind : runOn (program >>= next) out = match runOn program out with
    | (.ok a, out) => runOn (next a) out
    | (.error e, out) => (.error e, out) := by
  show (ExceptT.bindCont next (runOn program out).1).run (runOn program out).2 = _
  rcases runOn program out with ⟨e | a, out⟩
  · rfl
  · rfl

theorem runOn_bind_of_ok {a : α} (h : runOn program out = (.ok a, out')) :
    runOn (program >>= next) out = runOn (next a) out' := by
  rw [runOn_bind, h]

theorem runOn_bind_of_error {e : StoreError} (h : runOn program out = (.error e, out')) :
    runOn (program >>= next) out = (.error e, out') := by
  rw [runOn_bind, h]

theorem runOn_get : runOn get out = (.ok out, out) := rfl

theorem runOn_demand {x : Except EncodeError α} {a : α} (h : x = .ok a) :
    runOn (demand x) out = (.ok a, out) := by
  rw [h]
  rfl

theorem runOn_demand_of_error {x : Except EncodeError α} {e : EncodeError} (h : x = .error e) :
    runOn (demand x) out = (.error (.refused e), out) := by
  rw [h]
  rfl

variable {condition : Prop} [Decidable condition] {e : EncodeError}

theorem runOn_refuseUnless (h : condition) :
    runOn (refuseUnless condition e) out = (.ok (), out) := by
  rw [refuseUnless, if_pos h]
  rfl

theorem runOn_refuseUnless_of_not (h : ¬ condition) :
    runOn (refuseUnless condition e) out = (.error (.refused e), out) := by
  rw [refuseUnless, if_neg h]
  rfl

end

/-! ### Stores one behind the other -/

section

variable {out data : Bytes}

theorem runOn_storeByte (written : Bytes) {b : UInt8} (h : written.length < out.length) :
    runOn (storeByte written.length b) (out.overwrite written) =
      (.ok (), out.overwrite (written ++ [b])) := by
  have hin : written.length < (out.overwrite written).length := by
    rw [length_overwrite h.le]
    exact h
  rw [storeByte, runOn_bind_of_ok runOn_get, if_pos hin, set_overwrite h]
  rfl

/-- As many bytes are stored as are replaced, so no kind of buffer changes its length. -/
theorem runOn_storeBetween (written : Bytes) (kind : BufferKind)
    (h : (written ++ data).length ≤ out.length) :
    runOn (storeBetween kind written.length (written.length + data.length) data)
      (out.overwrite written) = (.ok (), out.overwrite (written ++ data)) := by
  rw [List.length_append] at h
  have hreplaced : (((out.overwrite written).take (written.length + data.length)).drop
      written.length).length = data.length := by
    rw [List.length_drop, List.length_take, length_overwrite (by omega)]
    omega
  rw [storeBetween, runOn_bind_of_ok runOn_get]
  simp only [hreplaced, or_true, if_true]
  rw [splice_overwrite]
  rfl

end

end Storing

/-! ### Writes -/

/-- What a caller sees of a write into `out` that stores all of `wire` or nothing: the answer, and
the buffer afterwards. -/
structure AllOrNothing (wire out : Bytes) (noRoom : EncodeError)
    (seen : Except EncodeError Nat × Bytes) : Prop where
  refused : out.length < wire.length → seen = (.error noRoom, out)
  stored : wire.length ≤ out.length → seen.1 = .ok wire.length ∧
    seen.2.take wire.length = wire ∧ seen.2.drop wire.length = out.drop wire.length ∧
    seen.2.length = out.length

theorem allOrNothing_overwrite (wire out : Bytes) (noRoom : EncodeError) :
    AllOrNothing wire out noRoom (if out.length < wire.length then (.error noRoom, out)
      else (.ok wire.length, out.overwrite wire)) where
  refused h := if_pos h
  stored h := by
    rw [if_neg (Nat.not_lt.mpr h)]
    exact ⟨rfl, List.take_left, List.drop_left, Bytes.length_overwrite h⟩

end Rs256Cose
