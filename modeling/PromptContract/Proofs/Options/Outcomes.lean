import PromptContract.Options
import PromptContract.Proofs.Failure
import PromptContract.Proofs.Generation.Options
import PromptContract.Proofs.Number.Binary64
import PromptContract.Window

/-!
# What resolving options comes to

The window that a call asks for (`PredictOptions.from_mapping`) is a value of any kind, which comes
from the caller, from settings or from a text of the environment. It gives an integer that is not
negative, is refused as one that cannot be a window, or makes the call fail in a way that names no
fault of the configuration (`WindowOutcome`). Over all routes, options are resolved to ones that a
session can be opened with, as long as a floating-point number can hold the window, or refused, or
they escape in one of six ways (`Escape`, `resolve_outcomes`).
-/

namespace PromptContract

/-- Whether a failure names a fault of the configuration. -/
def Failure.isConfiguration : Failure → Bool
  | .debounceNotInteger _ | .debounceNegative _ | .noKeyConfigured .. => true
  | _ => false

namespace Options

/-! ## The window that a value gives -/

/-- A value is read as no integer, for its kind or for what it says. -/
def IsNoInteger (v : Value) : Prop :=
  v.toInteger = .error .wrongKind ∨ v.toInteger = .error .unreadable

/-- What stands in the way of naming a value that is refused. -/
def unnamed (reach : Reach) (v : Value) : Option Obstacle := v.obstacle reach [windowPlace]

/-- What becomes of a value that is asked for as a window. -/
inductive WindowOutcome (reach : Reach) (v : Value) : Except Failure Int → Prop
  | taken {n : Int} (hv : v.toInteger = .ok n) (hn : 0 ≤ n) : WindowOutcome reach v (.ok n)
  | negative {n : Int} (hv : v.toInteger = .ok n) (hn : n < 0)
      (hnamed : unnamed reach (.int n) = none) :
    WindowOutcome reach v (.error (.debounceNegative n))
  | noInteger (hv : IsNoInteger v) (hnamed : unnamed reach v = none) :
    WindowOutcome reach v (.error (.debounceNotInteger v))
  | negativeUnnamed {n : Int} {found : Obstacle} (hv : v.toInteger = .ok n) (hn : n < 0)
      (hfound : unnamed reach (.int n) = some found) : WindowOutcome reach v (.error found.failure)
  | noIntegerUnnamed {found : Obstacle} (hv : IsNoInteger v)
      (hfound : unnamed reach v = some found) : WindowOutcome reach v (.error found.failure)
  | infinite {negative : Bool} (hv : v = .float (.infinite negative)) :
    WindowOutcome reach v (.error .numberTooLarge)

/-- What is read as loosely as an integer may be written is no integer, or that one. -/
theorem ofReading_error {read : Option Int} {why : Failure}
    (h : read.elim (Except.error Failure.unreadable) Except.ok = .error why) :
    why = .unreadable ∧ read = none := by
  cases read with
  | none => exact ⟨(Except.error.inj h).symm, rfl⟩
  | some n => cases h

/-- A text is read as an integer as loosely as it may be written. -/
theorem toInteger_text (s : String) : (Value.text s).toInteger =
    (Numeral.looseInteger? s.toList).elim (Except.error Failure.unreadable) Except.ok := by
  simp only [Value.toInteger]
  cases Numeral.looseInteger? s.toList <;> rfl

/-- So are bytes, whether they may be changed or not. -/
theorem toInteger_bytes (bs : List Nat) :
    (Value.object (.bytes bs)).toInteger =
        (Numeral.bytesInteger? bs).elim (Except.error Failure.unreadable) Except.ok ∧
      (Value.object (.byteArray bs)).toInteger =
        (Numeral.bytesInteger? bs).elim (Except.error Failure.unreadable) Except.ok := by
  simp only [Value.toInteger]
  cases Numeral.bytesInteger? bs <;> exact ⟨rfl, rfl⟩

/-- A value of which no integer is made is read as none, or it is infinite. -/
theorem toInteger_error {v : Value} {why : Failure} (h : v.toInteger = .error why) :
    IsNoInteger v ∨ why = .numberTooLarge ∧ ∃ negative, v = .float (.infinite negative) := by
  unfold IsNoInteger
  rw [h]
  -- Only numbers that are infinite fail in a way of their own.
  cases v with
  | float x =>
    cases x with
    | nan => exact .inl (.inr h.symm)
    | infinite negative => exact .inr ⟨(Except.error.inj h).symm, negative, rfl⟩
    | finite negative units => cases negative <;> cases h
  | text s =>
    rw [toInteger_text] at h
    exact .inl (.inr (congrArg _ (ofReading_error h).1))
  | object o => cases o with
    | nan => exact .inl (.inr h.symm)
    | bytes bs =>
      rw [(toInteger_bytes bs).1] at h
      exact .inl (.inr (congrArg _ (ofReading_error h).1))
    | byteArray bs =>
      rw [(toInteger_bytes bs).2] at h
      exact .inl (.inr (congrArg _ (ofReading_error h).1))
    | _ => exact .inl (.inl h.symm)
  | bool b => cases h
  | int n => cases h
  | fieldType t => exact .inl (.inr h.symm)
  | _ => exact .inl (.inl h.symm)

variable {reach : Reach}

/-- A value that can be named is refused with its reason. -/
theorem refusal_of_none {v : Value} (h : unnamed reach v = none) (why : Failure) :
    refusal reach v why = why := by
  unfold refusal
  rw [unnamed] at h
  rw [h]
  rfl

/-- One that cannot is refused for what stands in the way. -/
theorem refusal_of_some {v : Value} {found : Obstacle} (h : unnamed reach v = some found)
    (why : Failure) : refusal reach v why = found.failure := by
  unfold refusal
  rw [unnamed] at h
  rw [h]
  rfl

/-- A value that is read as no integer is refused for that. -/
theorem debounceOf_noInteger {v : Value} (h : IsNoInteger v) :
    debounceOf reach v = .error (refusal reach v (.debounceNotInteger v)) := by
  unfold debounceOf
  rcases h with h | h <;> rw [h]

/-- An integer is refused if it is negative. -/
theorem debounceOf_integer {v : Value} {n : Int} (h : v.toInteger = .ok n) :
    debounceOf reach v =
      if n < 0 then .error (refusal reach (.int n) (.debounceNegative n)) else .ok n := by
  unfold debounceOf
  rw [h]

/-- Every value that is asked for as a window has one of the outcomes. -/
theorem windowOutcome (reach : Reach) (v : Value) :
    WindowOutcome reach v (debounceOf reach v) := by
  cases hv : v.toInteger with
  | ok n =>
    rw [debounceOf_integer hv]
    by_cases hn : n < 0
    · rw [if_pos hn]
      cases hfound : unnamed reach (.int n) with
      | none =>
        rw [refusal_of_none hfound]
        exact .negative hv hn hfound
      | some found =>
        rw [refusal_of_some hfound]
        exact .negativeUnnamed hv hn hfound
    · rw [if_neg hn]
      exact .taken hv (Int.not_lt.mp hn)
  | error why =>
    rcases toInteger_error hv with hno | ⟨rfl, negative, rfl⟩
    · rw [debounceOf_noInteger hno]
      cases hfound : unnamed reach v with
      | none =>
        rw [refusal_of_none hfound]
        exact .noInteger hno hfound
      | some found =>
        rw [refusal_of_some hfound]
        exact .noIntegerUnnamed hno hfound
    · exact .infinite rfl

/-- It has only that one. -/
theorem WindowOutcome.eq {v : Value} {r : Except Failure Int} (h : WindowOutcome reach v r) :
    debounceOf reach v = r := by
  cases h with
  | taken hv hn => rw [debounceOf_integer hv, if_neg (Int.not_lt.mpr hn)]
  | negative hv hn hnamed => rw [debounceOf_integer hv, if_pos hn, refusal_of_none hnamed]
  | noInteger hv hnamed => rw [debounceOf_noInteger hv, refusal_of_none hnamed]
  | negativeUnnamed hv hn hfound =>
    rw [debounceOf_integer hv, if_pos hn, refusal_of_some hfound]
  | noIntegerUnnamed hv hfound => rw [debounceOf_noInteger hv, refusal_of_some hfound]
  | infinite hv => rw [hv]; rfl

/-! ## The routes to a window -/

/-- The name of the variable of the environment that gives a window. -/
def windowVariable : String := "PROMPTSIG_DEBOUNCE_MS"

/-- The window that is asked for: that of the caller, or that of the settings where the caller's is
missing or null. -/
def askedWindow (es : Entries) (s : Settings) : Except Failure Value :=
  match (es.getD "debounce_ms").present? with
  | some v => pure v
  | none => do return (← s.streamingPart).debounceMs

/-- The model that is asked for, in the same way. -/
def askedModel (es : Entries) (s : Settings) : Except Failure Value :=
  if (es.getD "model").truthy then pure (es.getD "model")
  else do return (← s.modelPart).defaultModel

/-- Options are filled in from what is asked for, the window first. -/
theorem fill_eq (reach : Reach) (es : Entries) (s : Settings) : fill reach es s = (do
    let n ← debounceOf reach (← askedWindow es s)
    let model ← askedModel es s
    return {
      model
      validate := .bool (((es.getD "validate").present?).getD s.validateByDefault).truthy
      debounceMs := .int n
      apiKey := es.getD "api_key"
      providerOptions := .map (passedOn es) }) := by
  unfold fill askedWindow askedModel passedOn
  cases (es.getD "debounce_ms").present? <;> cases (es.getD "model").truthy <;> simp

/-- Options that are given by a map are filled in from the settings, if these can be read. -/
theorem resolve_fst (c : Context) (es : Entries) (given : Option Settings) :
    (resolve c (.map es) given).1 = (do fill c.reach es (← (c.settingsOr given).1)) := by
  have hentries : (Value.map es).entries = .ok es := by cases es <;> rfl
  rw [← c.reach_settingsOr given]
  unfold resolve
  rcases c.settingsOr given with ⟨_ | s, c'⟩
  · rfl
  · rw [ok_bind]
    dsimp only
    rw [hentries]
    rfl

/-- No window can be asked for where the caller gives none and the settings have lost theirs. -/
theorem askedWindow_error_iff {es : Entries} {s : Settings} {why : Failure} :
    askedWindow es s = .error why ↔
      es.getD "debounce_ms" = .null ∧ s.streaming = none ∧ why = .missingMember := by
  unfold askedWindow
  by_cases hgiven : es.getD "debounce_ms" = .null
  · rw [hgiven]
    unfold Settings.streamingPart
    cases s.streaming with
    | none => exact ⟨fun h => ⟨rfl, rfl, (Except.error.inj h).symm⟩, fun h => h.2.2 ▸ rfl⟩
    | some streaming => exact ⟨nofun, fun h => nomatch h.2.1⟩
  · rw [Value.present?_of_ne hgiven]
    exact ⟨nofun, fun h => absurd h.1 hgiven⟩

/-- So it is with the model, if what the caller gives counts as false. -/
theorem askedModel_error_iff {es : Entries} {s : Settings} {why : Failure} :
    askedModel es s = .error why ↔
      (es.getD "model").truthy = false ∧ s.models = none ∧ why = .missingMember := by
  unfold askedModel
  cases (es.getD "model").truthy with
  | true => exact ⟨nofun, fun h => nomatch h.1⟩
  | false =>
    unfold Settings.modelPart
    cases s.models with
    | none => exact ⟨fun h => ⟨rfl, rfl, (Except.error.inj h).symm⟩, fun h => h.2.2 ▸ rfl⟩
    | some models => exact ⟨nofun, fun h => nomatch h.2.1⟩

/-- The settings that the environment gives cannot be read if the text of the window is no integer.
-/
theorem ofEnvironment_error_iff {env : Environment} {why : Failure} :
    Settings.ofEnvironment env = .error why ↔ why = .unreadable ∧ ∃ text,
      env.get? windowVariable = some text ∧ Numeral.looseInteger? text.toList = none := by
  -- No other setting of the environment is read as a number.
  obtain ⟨made, hmade⟩ : ∃ made, Settings.ofEnvironment env =
      (env.getD windowVariable (.int 100)).toInteger.map made := ⟨_, rfl⟩
  rw [hmade, map_eq_error_iff]
  unfold Environment.getD
  cases env.get? windowVariable with
  | none => exact ⟨nofun, fun h => nomatch h.2⟩
  | some text =>
    rw [Option.map_some, Option.getD_some, toInteger_text]
    constructor
    · intro h
      obtain ⟨hwhy, hread⟩ := ofReading_error h
      exact ⟨hwhy, text, rfl, hread⟩
    · rintro ⟨rfl, text', htext, hread⟩
      rw [Option.some.inj htext, hread]
      rfl

/-- The settings of a call cannot be read if they are those of the environment, which no call has
read yet. -/
theorem settings_error_iff {c : Context} {given : Option Settings} {why : Failure} :
    (c.settingsOr given).1 = .error why ↔
      given = none ∧ c.shared = none ∧ Settings.ofEnvironment c.env = .error why := by
  unfold Context.settingsOr Context.settings
  cases given with
  | some s => exact ⟨nofun, fun h => nomatch h.1⟩
  | none =>
    cases c.shared with
    | some s => exact ⟨nofun, fun h => nomatch h.2.1⟩
    | none =>
      simp only [true_and]
      cases Settings.ofEnvironment c.env with
      | error why' => exact Iff.rfl
      | ok s => exact ⟨nofun, nofun⟩

/-! ## Outcomes -/

variable (c : Context) (es : Entries) (given : Option Settings)

/-- The window that a call asks for, with settings that can be read. -/
def Asks (v : Value) : Prop := ∃ s, (c.settingsOr given).1 = .ok s ∧ askedWindow es s = .ok v

/-- What is resolved: the window is the integer that is asked for, which is not negative, and with
which a session can be opened if a floating-point number can hold it; the other options are passed
on in their order. -/
structure Resolved (o : Options) : Prop where
  window : ∃ (v : Value) (n : ℕ), Asks c es given v ∧ v.toInteger = .ok n ∧ o.debounceMs = .int n ∧
    ((∃ seconds, Window.seconds o.debounceMs = .ok seconds) ↔ n + 2 ^ 970 < 2 ^ 1024)
  passedOn : o.providerOptions = .map (es.filter fun e => !ownNames.any e.1.isText)

/-- How options are refused as a fault of the configuration, which names what is asked for. -/
inductive Refused : Failure → Prop
  | negative {v : Value} {n : Int} (hasked : Asks c es given v) (hv : v.toInteger = .ok n)
    (hn : n < 0) (hnamed : unnamed c.reach (.int n) = none) : Refused (.debounceNegative n)
  | noInteger {v : Value} (hasked : Asks c es given v) (hv : IsNoInteger v)
    (hnamed : unnamed c.reach v = none) : Refused (.debounceNotInteger v)

/-- How a call fails over its options without naming a fault of the configuration. -/
inductive Escape : Failure → Prop
  /-- The text that the environment gives for the window is no integer. -/
  | environment {text : String} (hgiven : given = none) (hshared : c.shared = none)
    (htext : c.env.get? windowVariable = some text)
    (hinteger : Numeral.looseInteger? text.toList = none) : Escape .unreadable
  /-- The window that is asked for is infinite. -/
  | infinite {negative : Bool} (hasked : Asks c es given (.float (.infinite negative))) :
    Escape .numberTooLarge
  /-- It is no integer, and cannot be named. -/
  | noIntegerUnnamed {v : Value} {found : Obstacle} (hasked : Asks c es given v)
    (hv : IsNoInteger v) (hfound : unnamed c.reach v = some found) : Escape found.failure
  /-- It is a negative integer that cannot be named. -/
  | negativeUnnamed {v : Value} {n : Int} {found : Obstacle} (hasked : Asks c es given v)
    (hv : v.toInteger = .ok n) (hn : n < 0) (hfound : unnamed c.reach (.int n) = some found) :
    Escape found.failure
  /-- The window is asked of settings whose part about streaming is a plain value. -/
  | noStreaming {s : Settings} (hs : (c.settingsOr given).1 = .ok s)
    (hasked : es.getD "debounce_ms" = .null) (hstreaming : s.streaming = none) :
    Escape .missingMember
  /-- The window is taken, but the model is asked of settings whose part about models is a plain
  value. -/
  | noModels {s : Settings} {v : Value} {n : Int} (hs : (c.settingsOr given).1 = .ok s)
    (hasked : askedWindow es s = .ok v) (hv : v.toInteger = .ok n) (hn : 0 ≤ n)
    (hmodel : (es.getD "model").truthy = false) (hmodels : s.models = none) :
    Escape .missingMember

variable {c es given}

/-- A session can be opened with a window of whole milliseconds if a floating-point number can hold
it. -/
theorem exists_seconds_iff (n : ℕ) :
    (∃ seconds, Window.seconds (.int n) = .ok seconds) ↔ n + 2 ^ 970 < 2 ^ 1024 := by
  have hseconds : Window.seconds (.int n) = (do return Window.inSeconds (← Window.whole n)) := by
    unfold Window.seconds Window.milliseconds Value.number?
    rw [Value.isBelow_int, decide_eq_false (by omega), ok_bind]
    simp only [Bool.false_eq_true, if_false]
  have hwhole := Binary64.ofInt?_isSome_iff n
  rw [Int.natAbs_natCast] at hwhole
  rw [hseconds, ← hwhole]
  unfold Window.whole
  cases Binary64.ofInt? n with
  | none => exact ⟨nofun, nofun⟩
  | some x => exact ⟨fun _ => rfl, fun _ => ⟨_, rfl⟩⟩

/-- Filling in options comes to ones that are resolved. -/
theorem resolved_of_fill {s : Settings} (hs : (c.settingsOr given).1 = .ok s) {o : Options}
    (h : fill c.reach es s = .ok o) : Resolved c es given o := by
  rw [fill_eq] at h
  obtain ⟨v, hasked, h⟩ := exists_of_bind_eq_ok h
  obtain ⟨n, hn, h⟩ := exists_of_bind_eq_ok h
  obtain ⟨model, -, h⟩ := exists_of_bind_eq_ok h
  obtain rfl := Except.ok.inj h
  cases hn ▸ windowOutcome c.reach v with
  | taken hv hnonneg =>
    obtain ⟨k, rfl⟩ := Int.eq_ofNat_of_zero_le hnonneg
    exact ⟨⟨v, k, ⟨s, hs, hasked⟩, hv, rfl, exists_seconds_iff k⟩, rfl⟩

/-- Where filling in options fails they are refused, or they escape. -/
theorem refused_of_fill {s : Settings} (hs : (c.settingsOr given).1 = .ok s) {why : Failure}
    (h : fill c.reach es s = .error why) : Refused c es given why ∨ Escape c es given why := by
  rw [fill_eq] at h
  rcases error_of_bind_eq_error h with h | ⟨v, hasked, h⟩
  · obtain ⟨hgiven, hstreaming, rfl⟩ := askedWindow_error_iff.mp h
    exact .inr (.noStreaming hs hgiven hstreaming)
  have hasks : Asks c es given v := ⟨s, hs, hasked⟩
  rcases error_of_bind_eq_error h with h | ⟨n, hn, h⟩
  · cases h ▸ windowOutcome c.reach v with
    | negative hv hn hnamed => exact .inl (.negative hasks hv hn hnamed)
    | noInteger hv hnamed => exact .inl (.noInteger hasks hv hnamed)
    | negativeUnnamed hv hn hfound => exact .inr (.negativeUnnamed hasks hv hn hfound)
    | noIntegerUnnamed hv hfound => exact .inr (.noIntegerUnnamed hasks hv hfound)
    | infinite hv => exact .inr (.infinite (hv ▸ hasks))
  rcases error_of_bind_eq_error h with h | ⟨model, -, h⟩
  · obtain ⟨hmodel, hmodels, rfl⟩ := askedModel_error_iff.mp h
    cases hn ▸ windowOutcome c.reach v with
    | taken hv hnonneg => exact .inr (.noModels hs hasked hv hnonneg hmodel hmodels)
  · cases h

/-- What stands in the way of writing a value is no fault of the configuration. -/
theorem isConfiguration_failure (found : Obstacle) : found.failure.isConfiguration = false := by
  cases found <;> rfl

/-- A refusal names a fault of the configuration. -/
theorem Refused.isConfiguration {why : Failure} (h : Refused c es given why) :
    why.isConfiguration = true := by cases h <;> rfl

/-- What becomes of a window that is asked for fails the call. -/
theorem resolve_of_window {v : Value} {why : Failure} (hasked : Asks c es given v)
    (hv : WindowOutcome c.reach v (.error why)) : (resolve c (.map es) given).1 = .error why := by
  obtain ⟨s, hs, hasked⟩ := hasked
  rw [resolve_fst, hs, ok_bind, fill_eq, hasked, ok_bind, hv.eq, error_bind]

/-- Options that escape fail in the way that is told, which names no fault of the configuration. -/
theorem Escape.resolve_eq {why : Failure} (h : Escape c es given why) :
    (resolve c (.map es) given).1 = .error why ∧ why.isConfiguration = false := by
  cases h with
  | infinite hasked => exact ⟨resolve_of_window hasked (.infinite rfl), rfl⟩
  | noIntegerUnnamed hasked hv hfound =>
    exact ⟨resolve_of_window hasked (.noIntegerUnnamed hv hfound), isConfiguration_failure _⟩
  | negativeUnnamed hasked hv hn hfound =>
    exact ⟨resolve_of_window hasked (.negativeUnnamed hv hn hfound), isConfiguration_failure _⟩
  | environment hgiven hshared htext hinteger =>
    have henvironment := ofEnvironment_error_iff.mpr ⟨rfl, _, htext, hinteger⟩
    rw [resolve_fst, settings_error_iff.mpr ⟨hgiven, hshared, henvironment⟩]
    exact ⟨error_bind _ _, rfl⟩
  | @noStreaming s hs hasked hstreaming =>
    have hwindow := askedWindow_error_iff.mpr ⟨hasked, hstreaming, rfl⟩
    rw [resolve_fst, hs, ok_bind, fill_eq, hwindow]
    exact ⟨error_bind _ _, rfl⟩
  | @noModels s v n hs hasked hv hn hmodel hmodels =>
    have hmodel := askedModel_error_iff.mpr ⟨hmodel, hmodels, rfl⟩
    rw [resolve_fst, hs, ok_bind, fill_eq, hasked, ok_bind, (WindowOutcome.taken hv hn).eq, ok_bind,
      hmodel]
    exact ⟨error_bind _ _, rfl⟩

/-- Options that are given by a map are resolved, refused as a fault of the configuration, or
escape, and they escape in no other way than those told. -/
theorem resolve_outcomes (c : Context) (es : Entries) (given : Option Settings) :
    (∀ o, (resolve c (.map es) given).1 = .ok o → Resolved c es given o) ∧
    (∀ why, (resolve c (.map es) given).1 = .error why →
      Refused c es given why ∧ why.isConfiguration = true ∨ Escape c es given why) ∧
    ∀ why, Escape c es given why →
      (resolve c (.map es) given).1 = .error why ∧ why.isConfiguration = false := by
  rw [resolve_fst]
  refine ⟨fun o h => ?_, fun why h => ?_, fun why h => resolve_fst c es given ▸ h.resolve_eq⟩
  · obtain ⟨s, hs, h⟩ := exists_of_bind_eq_ok h
    exact resolved_of_fill hs h
  · rcases error_of_bind_eq_error h with h | ⟨s, hs, h⟩
    · obtain ⟨hgiven, hshared, henvironment⟩ := settings_error_iff.mp h
      obtain ⟨rfl, text, htext, hinteger⟩ := ofEnvironment_error_iff.mp henvironment
      exact .inr (.environment hgiven hshared htext hinteger)
    · rcases refused_of_fill hs h with hrefused | hescape
      · exact .inl ⟨hrefused, hrefused.isConfiguration⟩
      · exact .inr hescape

/-- A window that the environment gives is resolved where the caller's is null, a list is refused,
and an infinite window escapes. -/
theorem resolve_outcomes_routes :
    let c := Context.ofEnvironment [("PROMPTSIG_DEBOUNCE_MS", " 1_0")]
    let es : Entries := [(.text "top_k", .int 5), (.text "debounce_ms", .null)]
    let listed : Entries := [(.text "debounce_ms", .list [])]
    let infinite : Entries := [(.text "debounce_ms", .float (.infinite true))]
    (∃ o, (resolve c (.map es) none).1 = .ok o ∧ o.debounceMs = .int 10 ∧ Resolved c es none o) ∧
      Refused c listed none (.debounceNotInteger (.list [])) ∧
      Escape c infinite none .numberTooLarge := by
  intro c es listed infinite
  have hread : (resolve c (.map es) none).1 = .ok
      ⟨.text "gpt-3.5-turbo", .bool true, .int 10, .null, .map [(.text "top_k", .int 5)]⟩ := rfl
  have hlisted : (resolve c (.map listed) none).1 = .error (.debounceNotInteger (.list [])) := rfl
  have hinfinite : (resolve c (.map infinite) none).1 = .error .numberTooLarge := rfl
  refine ⟨⟨_, hread, rfl, (resolve_outcomes c es none).1 _ hread⟩, ?_, ?_⟩
  · rcases (resolve_outcomes c listed none).2.1 _ hlisted with hrefused | hescape
    · exact hrefused.1
    · cases ((resolve_outcomes c listed none).2.2 _ hescape).2
  · rcases (resolve_outcomes c infinite none).2.1 _ hinfinite with hrefused | hescape
    · exact nomatch hrefused.2
    · exact hescape

/-- An infinite window and a text of the environment that is no integer fail the call without naming
a fault of the configuration. -/
theorem window_escapes :
    (resolve (.ofEnvironment []) (.map [(.text "debounce_ms", .float (.infinite false))]) none).1 =
        .error .numberTooLarge ∧
      (resolve (.ofEnvironment [("PROMPTSIG_DEBOUNCE_MS", "abc")]) (.map []) none).1 =
        .error .unreadable ∧
      Failure.numberTooLarge.isConfiguration = false ∧ Failure.unreadable.isConfiguration = false :=
  ⟨rfl, rfl, rfl, rfl⟩

end Options

end PromptContract
