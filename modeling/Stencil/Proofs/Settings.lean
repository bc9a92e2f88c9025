/-
# Overrides and environment variables

A setting that is given hides its variable: what the variable holds is not looked at, and not checked
either.  The variables of the two integers are an exception.  They are read first, the tab size before the
ceiling, and one that holds no integer is refused whatever is given for it (`load_unreadable`).

So loading has two ends: the first variable that cannot be read, or what the check says about the settings
in effect (`load_eq`).  Only the first of them can tell two environments apart that differ in a variable
that is hidden.

* `inEffect_congr`: the settings in effect do not depend on variables that are hidden;
* `load_hidden_iff`: when a hidden variable makes a difference.
-/
import Stencil.Settings

namespace Stencil

/-- No two settings have one variable. -/
theorem Setting.variableName_injective : Function.Injective Setting.variableName := by
  intro r s h
  revert h
  cases r <;> cases s <;> decide

namespace Settings

/-! ## 1. Variables that cannot be read -/

/-- Whether a value is given for a setting. -/
def Overrides.gives (o : Overrides) : Setting → Bool
  | .tabSize => o.tabSize.isSome
  | .start => o.start.isSome
  | .stop => o.stop.isSome
  | .escape => o.escape.isSome
  | .stem => o.stem.isSome
  | .ceiling => o.ceiling.isSome
  | .logLevel => o.logLevel.isSome

/-- Why the variable of a setting cannot be read, if it has to be an integer and is none. -/
def unreadable? (env : Environment) (s : Setting) : Option Text.IntegerFault :=
  if s = .tabSize ∨ s = .ceiling then
    (env.get? s.variableName).bind fun text =>
      match Text.readInteger text with
      | .ok _ => none
      | .error fault => some fault
  else none

/-- Why an environment is refused before anything is checked. -/
def refusal? (env : Environment) : Option Text.IntegerFault :=
  (unreadable? env .tabSize).or (unreadable? env .ceiling)

theorem unreadable?_congr {env env' : Environment} {s : Setting}
    (h : env.get? s.variableName = env'.get? s.variableName) :
    unreadable? env s = unreadable? env' s := by
  rw [unreadable?, unreadable?, h]

/-! ## 2. The settings in effect -/

/-- The integer that the environment holds for a setting. -/
def integerOf (env : Environment) (s : Setting) (default : Int) : Int :=
  (integerVariable env s default).toOption.getD default

/-- The text that the environment holds for a setting. -/
def textOf (env : Environment) (s : Setting) (default : String) : String :=
  (env.get? s.variableName).getD default

/-- What is given, and for the rest what the environment holds. -/
def inEffect (env : Environment) (o : Overrides) : Settings :=
  let defaults : Settings := {}
  { tabSize := o.tabSize.getD (integerOf env .tabSize defaults.tabSize)
    delimiters :=
      { start := o.start.getD (textOf env .start defaults.delimiters.start)
        stop := o.stop.getD (textOf env .stop defaults.delimiters.stop)
        escape := o.escape.getD (textOf env .escape defaults.delimiters.escape) }
    stem := o.stem.getD (textOf env .stem defaults.stem)
    ceiling := o.ceiling.getD (integerOf env .ceiling defaults.ceiling)
    logLevel := o.logLevel.getD (textOf env .logLevel defaults.logLevel) }

/-- Reading the variable of an integer: it is refused, or it holds what is in effect. -/
theorem integerVariable_eq {env : Environment} {s : Setting} (hs : s = .tabSize ∨ s = .ceiling)
    (default : Int) :
    integerVariable env s default = match unreadable? env s with
      | some fault => .error (.notAnInteger fault)
      | none => .ok (integerOf env s default) := by
  unfold integerOf integerVariable unreadable?
  rw [if_pos hs]
  cases env.get? s.variableName with
  | none => rfl
  | some text => cases hread : Text.readInteger text <;> simp [hread, Except.toOption]

/-- Of what is not given, the default counts, and otherwise it does not. -/
theorem getD_congr {α : Type} {given : Option α} {a b : α} (h : given.isSome = true ∨ a = b) :
    given.getD a = given.getD b := by
  rcases h with h | rfl
  · obtain ⟨x, rfl⟩ := Option.isSome_iff_exists.mp h
    rfl
  · rfl

/-- **The settings in effect do not depend on variables that are hidden.** -/
theorem inEffect_congr {env env' : Environment} {o : Overrides}
    (h : ∀ s, o.gives s = true ∨ env.get? s.variableName = env'.get? s.variableName) :
    inEffect env o = inEffect env' o := by
  have hinteger (s : Setting) (default : Int) :
      o.gives s = true ∨ integerOf env s default = integerOf env' s default :=
    (h s).imp_right fun h => by rw [integerOf, integerOf, integerVariable, integerVariable, h]
  have htext (s : Setting) (default : String) :
      o.gives s = true ∨ textOf env s default = textOf env' s default :=
    (h s).imp_right fun h => by rw [textOf, textOf, h]
  simp only [inEffect, Settings.mk.injEq, Delimiters.mk.injEq]
  refine ⟨getD_congr (hinteger .tabSize _), ⟨?_, ?_, ?_⟩, ?_, getD_congr (hinteger .ceiling _), ?_⟩
  · exact getD_congr (htext .start _)
  · exact getD_congr (htext .stop _)
  · exact getD_congr (htext .escape _)
  · exact getD_congr (htext .stem _)
  · exact getD_congr (htext .logLevel _)

/-! ## 3. Loading -/

/-- **What loading comes to**: the refusal of the environment, or the check of the settings in effect. -/
theorem load_eq (env : Environment) (o : Overrides) :
    load env o = match refusal? env with
      | some fault => .error (.notAnInteger fault)
      | none => validate (inEffect env o) := by
  unfold load refusal?
  dsimp only
  -- the tab size is read first, so that its fault hides that of the ceiling
  rw [integerVariable_eq (.inl rfl), integerVariable_eq (.inr rfl)]
  cases unreadable? env .tabSize with
  | some fault => rfl
  | none => cases unreadable? env .ceiling <;> rfl

/-- The check says nothing about variables. -/
theorem validate_ne_notAnInteger (s : Settings) (fault : Text.IntegerFault) :
    s.validate ≠ .error (.notAnInteger fault) := by
  unfold validate
  split
  · simp
  · split <;> simp

/-- Two environments with the same settings in effect come to the same exactly if they are refused for the
same reason, or neither is. -/
theorem load_eq_iff {env env' : Environment} {o : Overrides}
    (h : inEffect env o = inEffect env' o) : load env o = load env' o ↔ refusal? env = refusal? env' := by
  rw [load_eq, load_eq, h]
  -- a refusal is told from a check, and two checks of the same settings are one
  cases refusal? env with
  | some fault =>
    cases refusal? env' with
    | some fault' => simp
    | none => simpa using (validate_ne_notAnInteger _ fault).symm
  | none =>
    cases refusal? env' with
    | some fault' => simpa using validate_ne_notAnInteger _ fault'
    | none => simp

/-- **A setting that is given hides its variable**, unless that has to be an integer and is none.  If two
environments differ in the variable only, loading tells them apart exactly by what it refuses before it
checks anything; so it does not if the variable can be read in both, as that of a text always can. -/
theorem load_hidden_iff {o : Overrides} {s : Setting} (hgiven : o.gives s = true)
    {env env' : Environment}
    (hothers : ∀ name, name ≠ s.variableName → env.get? name = env'.get? name) :
    (load env o = load env' o ↔ refusal? env = refusal? env') ∧
      (unreadable? env s = none → unreadable? env' s = none → load env o = load env' o) := by
  have hother (r : Setting) (hr : r ≠ s) : env.get? r.variableName = env'.get? r.variableName :=
    hothers _ fun h => hr (Setting.variableName_injective h)
  have hload : load env o = load env' o ↔ refusal? env = refusal? env' := by
    -- every setting is given or has the same variable in both
    refine load_eq_iff (inEffect_congr fun r => ?_)
    by_cases hr : r = s
    · exact .inl (hr ▸ hgiven)
    · exact .inr (hother r hr)
  refine ⟨hload, fun hread hread' => hload.mpr ?_⟩
  -- the variables of the other settings are the same, and this one can be read in both
  have hsame (r : Setting) : unreadable? env r = unreadable? env' r := by
    by_cases hr : r = s
    · rw [hr, hread, hread']
    · exact unreadable?_congr (hother r hr)
  rw [refusal?, refusal?, hsame, hsame]

/-- A tab size that is out of bounds, in a variable that is hidden. -/
theorem load_hidden_iff_outOfBounds :
    let o : Overrides := { tabSize := some 7 }
    let env : Environment := [("SEGTEXT_TAB_SIZE", "12"), ("SEGTEXT_TOKEN_END", "]]")]
    let env' : Environment := [("SEGTEXT_TOKEN_END", "]]")]
    load env {} = .error (.invalid [.above .tabSize 9]) ∧ o.gives .tabSize = true ∧
      (∀ name, name ≠ Setting.tabSize.variableName → env.get? name = env'.get? name) ∧
      unreadable? env .tabSize = none ∧ load env o = load env' o := by
  intro o env env'
  have hgiven : o.gives .tabSize = true := rfl
  have hothers (name : String) (h : name ≠ Setting.tabSize.variableName) :
      env.get? name = env'.get? name := if_neg h.symm
  have hread : unreadable? env .tabSize = none := by decide +kernel
  have hread' : unreadable? env' .tabSize = none := by decide +kernel
  exact ⟨rfl, hgiven, hothers, hread, (load_hidden_iff hgiven hothers).2 hread hread'⟩

/-- **A variable that is hidden and refused all the same**: with the tab size given, whether loading
succeeds depends on what the variable of the tab size holds. -/
theorem load_unreadable :
    let o : Overrides := { tabSize := some 7 }
    let env : Environment := [("SEGTEXT_TAB_SIZE", "wide")]
    o.gives .tabSize = true ∧
      (∀ name, name ≠ Setting.tabSize.variableName → env.get? name = Table.get? [] name) ∧
      load env o = .error (.notAnInteger (.malformed "wide")) ∧ load [] o = .ok { tabSize := 7 } :=
  ⟨rfl, fun _ h => if_neg h.symm, rfl, rfl⟩

end Settings

end Stencil
