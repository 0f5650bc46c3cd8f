import Sm83Cost.Fault

/-!
# Computations in parallel

Two computations run in parallel when both succeed with related values or both
fail with related causes.  Steps that run in parallel may be put one after the
other (`Parallel.bind`).  So two runs of one program on different inputs are
compared step by step, failures included, and without a word about how each of
them comes out.
-/

namespace Sm83Cost

set_option autoImplicit false

/-- Both computations succeed with related values, or both fail with related causes. -/
inductive Parallel {ε ε' α β : Type} (failed : ε → ε' → Prop) (done : α → β → Prop) :
    Except ε α → Except ε' β → Prop where
  | ok {value : α} {other : β} (related : done value other) :
      Parallel failed done (.ok value) (.ok other)
  | error {cause : ε} {other : ε'} (related : failed cause other) :
      Parallel failed done (.error cause) (.error other)

namespace Parallel

variable {ε ε' α β γ δ : Type} {failed : ε → ε' → Prop} {done : α → β → Prop}
  {further : γ → δ → Prop} {first : Except ε α} {second : Except ε' β}

/-- A computation runs in parallel with itself. -/
theorem refl {failed : ε → ε → Prop} {done : α → α → Prop} (causes : ∀ cause, failed cause cause)
    (values : ∀ value, done value value) (computation : Except ε α) :
    Parallel failed done computation computation := by
  cases computation with
  | error cause => exact .error (causes cause)
  | ok value => exact .ok (values value)

/-- Values that are related more closely are related. -/
theorem imp {looser : α → β → Prop} (together : Parallel failed done first second)
    (weaker : ∀ value value', done value value' → looser value value') :
    Parallel failed looser first second := by
  cases together with
  | ok related => exact .ok (weaker _ _ related)
  | error related => exact .error related

/-- Steps that run in parallel are put one after the other. -/
theorem bind (together : Parallel failed done first second) {next : α → Except ε γ}
    {other : β → Except ε' δ}
    (follow : ∀ value value', done value value' →
      Parallel failed further (next value) (other value')) :
    Parallel failed further (first >>= next) (second >>= other) := by
  cases together with
  | ok related => exact follow _ _ related
  | error related => exact .error related

theorem ofNumeral {first : Except Numeral.Error α} {second : Except Numeral.Error β}
    (together : Parallel Eq done first second) :
    Parallel Eq done (Fault.ofNumeral first) (Fault.ofNumeral second) := by
  cases together with
  | ok related => exact .ok related
  | error related => exact .error (congrArg Fault.numeral related)

/-- Computations that look the same run in parallel. -/
theorem of_map_eq {first second : Except ε α} {look : α → γ}
    (same : first.map look = second.map look) :
    Parallel Eq (fun value other => look value = look other) first second := by
  match first, second, same with
  | .error _, .error _, same => exact .error (Except.error.inj same)
  | .ok _, .ok _, same => exact .ok (Except.ok.inj same)

end Parallel

end Sm83Cost
