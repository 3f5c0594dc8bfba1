import Mathlib
import Rs256Cose.Log
import Rs256Cose.Settings.Basic

/-!
# Loggers that are set up

Two texts go by names among those of the levels and are none, so a logger refuses them; for any
other text it takes the level of that name, or `info` (`levelOfName_eq_ok_iff`). Only the first call
on a fresh logger does anything (`setUpTimes_fresh`): the handler that it leaves makes every further
call accept the logger as it is, also after a refusal, when no level was set
(`setUp_everyCall_iff`).
-/

namespace Rs256Cose.Log

variable {name : String}

/-! ### Names of levels -/

theorem layoutNamed?_eq_none_iff :
    layoutNamed? name = none ↔ name ∉ ["BASIC_FORMAT", "_STYLES"] := by
  unfold layoutNamed?
  split <;> simp_all

/-- No level shares its name with a layout. -/
theorem ofName?_eq_none_of_layoutNamed? {e : UnknownLevel} (h : layoutNamed? name = some e) :
    Severity.ofName? name = none := by
  unfold layoutNamed? at h
  split at h
  · rfl
  · rfl
  · cases h

theorem levelOfName_eq_error_iff {e : UnknownLevel} :
    levelOfName name = .error e ↔ layoutNamed? name = some e := by
  unfold levelOfName
  split
  · next s hs =>
    refine iff_of_false nofun fun h => ?_
    rw [ofName?_eq_none_of_layoutNamed? h] at hs
    cases hs
  · next e' hlayout => simp [hlayout]
  · next hlayout => simp [hlayout]

theorem levelOfName_eq_ok_iff {level : Severity} : levelOfName name = .ok level ↔
    name ∉ ["BASIC_FORMAT", "_STYLES"] ∧ level = (Severity.ofName? name).getD .info := by
  rw [← layoutNamed?_eq_none_iff]
  cases hlayout : layoutNamed? name with
  | some e =>
    rw [levelOfName_eq_error_iff.mpr hlayout]
    simp
  | none =>
    unfold levelOfName
    cases Severity.ofName? name with
    | some s => simp [eq_comm]
    | none => simp [hlayout, eq_comm]

/-! ### Calls one after the other -/

namespace Logger

variable {l : Logger}

theorem setUp_of_handlers (name : String) (h : l.handlers ≠ 0) : l.setUp name = (.ok (), l) :=
  if_pos h

theorem setUpTimes_of_handlers (name : String) (times : Nat) (h : l.handlers ≠ 0) :
    setUpTimes name times l = (.ok (), l) := by
  induction times with
  | zero => rfl
  | succ times ih => simp only [setUpTimes, setUp_of_handlers name h, ih]

theorem setUp_fresh (name : String) : fresh.setUp name = match levelOfName name with
    | .ok level => (.ok (), ⟨1, level⟩)
    | .error e => (.error e, ⟨1, .unset⟩) := rfl

theorem setUp_fresh_eq_ok_iff {level : Severity} :
    fresh.setUp name = (.ok (), ⟨1, level⟩) ↔ levelOfName name = .ok level := by
  rw [setUp_fresh]
  cases levelOfName name <;> simp

theorem setUp_fresh_eq_error_iff {e : UnknownLevel} :
    fresh.setUp name = (.error e, ⟨1, .unset⟩) ↔ levelOfName name = .error e := by
  rw [setUp_fresh]
  cases levelOfName name <;> simp

theorem exists_setUp_fresh_iff : (∃ logger, fresh.setUp name = (.ok (), logger)) ↔
    name ∉ ["BASIC_FORMAT", "_STYLES"] := by
  have hlevel : (∃ level, levelOfName name = .ok level) ↔
      name ∉ ["BASIC_FORMAT", "_STYLES"] := by
    simp only [levelOfName_eq_ok_iff, exists_and_left, exists_eq, and_true]
  rw [setUp_fresh, ← hlevel]
  cases levelOfName name <;> simp

theorem handlers_setUp_fresh (name : String) : (fresh.setUp name).2.handlers = 1 := by
  rw [setUp_fresh]
  cases levelOfName name <;> rfl

/-- Further calls find the logger as the first one has left it. -/
theorem setUpTimes_fresh (name : String) (calls : Nat) :
    setUpTimes name (calls + 1) fresh = fresh.setUp name := by
  have hhandlers := handlers_setUp_fresh name
  rcases hcall : fresh.setUp name with ⟨e | ⟨⟨⟩⟩, l⟩
  · simp only [setUpTimes, hcall]
  · have hone : l.handlers = 1 := by rwa [hcall] at hhandlers
    simp only [setUpTimes, hcall]
    exact setUpTimes_of_handlers name calls (by omega)

/-- Every call leaves one handler, and returns the logger with the level of the name in the settings
or else `info`, if and only if that is not the name of a layout. For such a name the first call is
refused, and any further ones return the logger without a level. -/
theorem setUp_everyCall_iff (environment : Environment) (file : String) :
    let name := (Settings.load environment file).logLevel
    (∀ calls, (setUpTimes name (calls + 1) fresh).2.handlers = 1) ∧
    ((∀ calls, setUpTimes name (calls + 1) fresh =
        (.ok (), ⟨1, (Severity.ofName? name).getD .info⟩)) ↔
      name ∉ ["BASIC_FORMAT", "_STYLES"]) ∧
    (∀ e, fresh.setUp name = (.error e, ⟨1, .unset⟩) ↔ layoutNamed? name = some e) ∧
    ∀ calls, setUpTimes name calls ⟨1, .unset⟩ = (.ok (), ⟨1, .unset⟩) := by
  intro name
  refine ⟨fun calls => ?_, ?_, fun e => ?_, fun calls => ?_⟩
  · rw [setUpTimes_fresh, handlers_setUp_fresh]
  · simp only [setUpTimes_fresh, forall_const, setUp_fresh_eq_ok_iff, levelOfName_eq_ok_iff,
      and_true]
  · rw [setUp_fresh_eq_error_iff, levelOfName_eq_error_iff]
  · exact setUpTimes_of_handlers name calls (by decide)

/-- The name of the layout of a bare line is that of no level. A logger that is set up by it for the
first time is refused, and when it is set up again it has a handler and no level. -/
theorem setUp_bareLayout :
    let name := (Settings.load [("COSESIGN_LOG_LEVEL", "BASIC_FORMAT")] "").logLevel
    name = "BASIC_FORMAT" ∧ (Severity.ofName? name).getD .info = .info ∧
      setUpTimes name 1 fresh = (.error (.text bareLayout), ⟨1, .unset⟩) ∧
      (setUpTimes name 1 fresh).2.setUp name = (.ok (), ⟨1, .unset⟩) := by
  intro name
  have hname : name = "BASIC_FORMAT" := by decide +kernel
  rw [hname]
  exact ⟨rfl, rfl, rfl, rfl⟩

end Logger

end Rs256Cose.Log
