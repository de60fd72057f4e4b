/-
  NetDelegate/Proofs/Config/Failure.lean
  ======================================
  **Failures of the configuration.**  `FailsOnly` says which failures a computation can end in; it
  is put together along the steps of the computation (`FailsOnly.bind`); `Corresponds` says that two
  computations come to the same but for what a relation lets differ.  Checking an id and every
  step of loading a configuration but one can only refuse what was handed in (`Failure.IsRefusal`);
  reading the timeout may break down, too.  So both fail as a matter of configuration, at whatever
  step (`ContainerId.failsAs_check`, `Config.failsAs_load`).
-/
import NetDelegate.Config.Basic

namespace NetDelegate

/-! ### Failures of a computation -/

/-- Every failure that the computation can end in is one of these. -/
def FailsOnly {ε α : Type} (P : ε → Prop) (x : Except ε α) : Prop := ∀ f, x = .error f → P f

section
variable {ε α β : Type} {P Q : ε → Prop}

theorem failsOnly_ok (v : α) : FailsOnly P (.ok v) := by
  intro f h
  cases h

theorem failsOnly_error {f : ε} (h : P f) : FailsOnly (α := α) P (.error f) := by
  intro f' hf
  cases hf
  exact h

theorem FailsOnly.imp {x : Except ε α} (h : FailsOnly P x) (himp : ∀ f, P f → Q f) :
    FailsOnly Q x := by
  intro f hf
  exact himp f (h f hf)

theorem FailsOnly.bind {x : Except ε α} {f : α → Except ε β}
    (hx : FailsOnly P x) (hf : ∀ v, FailsOnly P (f v)) : FailsOnly P (x >>= f) := by
  intro failure h
  cases x with
  | error failure' =>
    cases h
    exact hx failure rfl
  | ok v => exact hf v failure h

theorem failsOnly_foldlM {f : β → α → Except ε β} (hf : ∀ b a, FailsOnly P (f b a))
    (b : β) (as : List α) : FailsOnly P (as.foldlM f b) := by
  induction as generalizing b with
  | nil => exact failsOnly_ok b
  | cons a as ih =>
    rw [List.foldlM_cons]
    exact (hf b a).bind ih

end

/-! ### Two computations -/

/-- Both computations fail, with errors that are so related, or both come to values that are. -/
inductive Corresponds {ε α β : Type} (E : ε → ε → Prop) (Q : α → β → Prop) :
    Except ε α → Except ε β → Prop
  | error {e e' : ε} (h : E e e') : Corresponds E Q (.error e) (.error e')
  | ok {a : α} {b : β} (h : Q a b) : Corresponds E Q (.ok a) (.ok b)

section
variable {ε α β γ δ : Type} {E : ε → ε → Prop} {Q : α → β → Prop} {P : γ → δ → Prop}

theorem Corresponds.bind {x : Except ε α} {y : Except ε β} {f : α → Except ε γ}
    {g : β → Except ε δ} (h : Corresponds E Q x y)
    (hnext : ∀ a b, Q a b → Corresponds E P (f a) (g b)) :
    Corresponds E P (x >>= f) (y >>= g) := by
  cases h with
  | error he => exact .error he
  | ok hab => exact hnext _ _ hab

theorem corresponds_refl (hE : ∀ e, E e e) (x : Except ε α) : Corresponds E Eq x x := by
  cases x with
  | error e => exact .error (hE e)
  | ok a => exact .ok rfl

theorem Corresponds.eq {x y : Except ε α} (h : Corresponds Eq Eq x y) : x = y := by
  cases h with
  | error he => rw [he]
  | ok hab => rw [hab]

end

/-! ### Categories of errors -/

/-- The computation comes to a value, breaks down, or ends with an error of the category. -/
def FailsAs {α : Type} (category : Category) (x : Except Failure α) : Prop :=
  ∀ e, x = failWith e → e.category = category

theorem FailsAs.bind {α β : Type} {category : Category} {x : Except Failure α}
    {f : α → Except Failure β} (hx : FailsAs category x) (hf : ∀ v, FailsAs category (f v)) :
    FailsAs category (x >>= f) := by
  intro e h
  cases x with
  | error failure =>
    apply hx e
    cases h
    rfl
  | ok v => exact hf v e h

/-- What was handed in is refused: it cannot be read, or one of its values is not allowed. -/
inductive Failure.IsRefusal : Failure → Prop
  | malformed (message : String) : IsRefusal (.error (.malformedConfig message))
  | invalid (field value reason : String) : IsRefusal (.error (.invalidValue field value reason))

theorem Failure.IsRefusal.category_eq {e : Error} (h : IsRefusal (.error e)) :
    e.category = .config := by
  cases h with
  | malformed message => rfl
  | invalid field value reason => rfl

theorem FailsOnly.failsAs {α : Type} {x : Except Failure α} {P : Failure → Prop}
    (h : FailsOnly P x) (hP : ∀ e, P (.error e) → Failure.IsRefusal (.error e)) :
    FailsAs .config x := by
  intro e he
  exact (hP e (h _ he)).category_eq

/-! ### Checks -/

theorem failsOnly_checkNonBlank (field value : String) :
    FailsOnly Failure.IsRefusal (checkNonBlank field value) := by
  unfold checkNonBlank
  split
  · exact failsOnly_error (.invalid _ _ _)
  · exact failsOnly_ok ()

theorem ContainerId.failsOnly_check (id : String) : FailsOnly Failure.IsRefusal (check id) := by
  apply (failsOnly_checkNonBlank "CNI_CONTAINERID" id).bind
  intro _
  split
  · exact failsOnly_ok ()
  · exact failsOnly_error (.invalid _ _ _)

theorem ContainerId.failsAs_check (id : String) : FailsAs .config (check id) :=
  (failsOnly_check id).failsAs fun _ h => h

theorem Url.failsOnly_check (field value : String) :
    FailsOnly Failure.IsRefusal (check field value) := by
  unfold check
  split
  · exact failsOnly_error (.invalid _ _ _)
  · split
    · exact failsOnly_ok _
    · exact failsOnly_error (.invalid _ _ _)

/-! ### Loading -/

namespace Config

theorem failsOnly_require (name value : String) :
    FailsOnly Failure.IsRefusal (require name value) := by
  unfold require
  split
  · exact failsOnly_error (.malformed _)
  · exact failsOnly_ok ()

theorem failsOnly_expandOptions (env : Environment) (entries : List (String × String)) :
    FailsOnly Failure.IsRefusal (expandOptions env entries) := by
  apply failsOnly_foldlM
  intro s entry
  apply FailsOnly.bind
  · unfold expandOption
    split
    · exact failsOnly_ok _
    · exact failsOnly_error (.invalid _ _ _)
  · intro value
    exact failsOnly_ok _

theorem failsOnly_parseEndpoint (uri scheme : String) :
    FailsOnly Failure.IsRefusal (parseEndpoint uri scheme) := by
  unfold parseEndpoint
  split
  · exact failsOnly_error (.invalid _ _ _)
  · exact Url.failsOnly_check _ _

theorem failsOnly_validate (c : Config) : FailsOnly Failure.IsRefusal c.validate := by
  apply (failsOnly_checkNonBlank _ _).bind
  intro _
  apply (Url.failsOnly_check _ _).bind
  intro _
  split
  · exact failsOnly_error (.invalid _ _ _)
  · exact failsOnly_ok ()

/-- Reading the timeout breaks down, or refuses the value. -/
inductive IsTimeoutFailure : Failure → Prop
  | refusal {f : Failure} (h : f.IsRefusal) : IsTimeoutFailure f
  | overflow : IsTimeoutFailure (.breakdown Duration.Issue.overflow.text)

theorem failsOnly_timeoutOf (options : Settings) :
    FailsOnly IsTimeoutFailure (timeoutOf options) := by
  unfold timeoutOf
  split
  · unfold parseTimeout
    dsimp only
    split
    · exact failsOnly_ok _
    · split
      · exact failsOnly_ok _
      · exact failsOnly_error .overflow
      · exact failsOnly_error (.refusal (.invalid _ _ _))
  · exact failsOnly_ok _

/-- What follows the timeout can only refuse. -/
theorem failsOnly_ofConfVisiting (env : Environment) (conf : Conf)
    (visits : List (String × String)) :
    FailsOnly IsTimeoutFailure (ofConfVisiting env conf visits) := by
  have hrefuses : ∀ {α : Type} {x : Except Failure α}, FailsOnly Failure.IsRefusal x →
      FailsOnly IsTimeoutFailure x := fun h => h.imp fun _ => .refusal
  apply (hrefuses (failsOnly_require _ _)).bind
  intro _
  apply (hrefuses (failsOnly_require _ _)).bind
  intro _
  apply (hrefuses (failsOnly_expandOptions env visits)).bind
  intro options
  apply (failsOnly_timeoutOf options).bind
  intro timeout
  apply (hrefuses (failsOnly_parseEndpoint _ _)).bind
  intro endpoint
  apply (hrefuses (failsOnly_validate _)).bind
  intro _
  exact failsOnly_ok _

theorem failsOnly_load (env : Environment) (text : Bytes) :
    FailsOnly IsTimeoutFailure (load env text) := by
  unfold load
  split
  · exact failsOnly_ofConfVisiting _ _ _
  · exact failsOnly_error (.refusal (.malformed _))

theorem failsAs_load (env : Environment) (text : Bytes) : FailsAs .config (load env text) := by
  apply (failsOnly_load env text).failsAs
  intro e h
  cases h with
  | refusal h => exact h

end Config

end NetDelegate
