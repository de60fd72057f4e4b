/-
  NetDelegate/Proofs/Store/Credentials.lean
  =========================================
  **Which credentials of an address can be seen.**  Addresses that are the same but for their
  credentials are written differently just if these are (`Url.text_eq_iff`), so the written form of
  an address tells its password (`Url.text_withPassword`).  Of the address that is handed on
  (`Url.outgoing`) this holds only where the credentials are no text
  (`Url.outgoing_withPassword_of_isSome`).
-/
import NetDelegate.Proofs.Engine.Requests

namespace NetDelegate.Url

/-! ### The written form -/

/-- A password behind its mark. -/
def passwordText (password : String) : List Char :=
  if password = "" then [] else ':' :: password.toList

/-- Credentials with the mark that ends them, unless there are none. -/
def closed : List Char → List Char
  | [] => []
  | cs => cs ++ ['@']

theorem passwordText_inj {p q : String} : passwordText p = passwordText q ↔ p = q := by
  constructor
  · intro h
    unfold passwordText at h
    split at h
    · next hp =>
      split at h
      · next hq => rw [hp, hq]
      · cases h
    · split at h
      · cases h
      · exact String.toList_inj.1 (List.cons.inj h).2
  · rintro rfl
    rfl

theorem closed_inj {cs ds : List Char} : closed cs = closed ds ↔ cs = ds := by
  cases cs with
  | nil => cases ds with
    | nil => exact Iff.rfl
    | cons d ds => simp [closed]
  | cons c cs => cases ds with
    | nil => simp [closed]
    | cons d ds => simp only [closed, List.append_cancel_right_eq]

variable {u v : Url}

theorem credentialsText_eq (u : Url) :
    u.credentialsText = closed (u.username.toList ++ passwordText u.password) := by
  rw [credentialsText, passwordText]
  generalize u.username.toList ++ _ = cs
  cases cs with
  | nil => rfl
  | cons c cs => rfl

theorem withoutCredentials_of_credentialsText (h : u.credentialsText = []) :
    u.withoutCredentials = u := by
  rw [credentialsText_eq] at h
  have hnothing : u.username.toList ++ passwordText u.password = [] :=
    closed_inj.1 (h.trans closed.eq_1.symm)
  obtain ⟨husername, hpassword⟩ := List.append_eq_nil_iff.1 hnothing
  have hnone : u.password = "" := passwordText_inj.1 (hpassword.trans (if_pos rfl).symm)
  rw [String.toList_eq_nil_iff] at husername
  cases u
  cases husername
  cases hnone
  rfl

/-- Addresses that are the same but for their credentials are told apart, where they are written, by
    these alone. -/
theorem text_eq_iff (h : u.withoutCredentials = v.withoutCredentials) :
    u.text = v.text ↔ u.credentialsText = v.credentialsText := by
  simp only [withoutCredentials, mk.injEq, true_and] at h
  obtain ⟨hscheme, hhost, hport, hpath, hquery, hfragment⟩ := h
  have hportText : u.portText = v.portText := by rw [portText, portText, hport]
  rw [text, text, hscheme, hhost, hportText, hpath, hquery, hfragment]
  simp only [String.ofList_inj, List.append_assoc, List.append_cancel_left_eq,
    List.append_cancel_right_eq]

/-! ### Another password -/

/-- The address with another password in front of the host. -/
def withPassword (u : Url) (password : String) : Url := { u with password := password }

variable {password : String}

theorem credentialsText_withPassword :
    u.credentialsText = (u.withPassword password).credentialsText ↔ u.password = password := by
  rw [credentialsText_eq, credentialsText_eq, closed_inj]
  exact (List.append_cancel_left_eq _ _ _).to_iff.trans passwordText_inj

/-- The written form of an address tells its password. -/
theorem text_withPassword : u.text = (u.withPassword password).text ↔ u.password = password := by
  have hsame : u.withoutCredentials = (u.withPassword password).withoutCredentials := rfl
  rw [text_eq_iff hsame, credentialsText_withPassword]

theorem withoutCredentials_outgoing (u : Url) :
    u.outgoing.withoutCredentials = u.withoutCredentials := by
  unfold outgoing
  split <;> rfl

/-- Credentials that are text are not handed on. -/
theorem outgoing_withPassword_of_isSome (h : (Draft.credentials? u).isSome = true)
    (h' : (Draft.credentials? (u.withPassword password)).isSome = true) :
    u.outgoing = (u.withPassword password).outgoing := by
  rw [outgoing, if_pos h, outgoing, if_pos h']
  rfl

/-- What is written tells whether the same is handed on. -/
theorem outgoing_withPassword :
    u.outgoing.credentialsText = (u.withPassword password).outgoing.credentialsText ↔
      u.outgoing = (u.withPassword password).outgoing := by
  refine ⟨fun h => ?_, congrArg credentialsText⟩
  by_cases hspelt : (Draft.credentials? u).isSome = true
  · by_cases hspelt' : (Draft.credentials? (u.withPassword password)).isSome = true
    · exact outgoing_withPassword_of_isSome hspelt hspelt'
    · rw [outgoing, if_pos hspelt, outgoing, if_neg hspelt'] at h ⊢
      exact withoutCredentials_of_credentialsText h.symm
  · by_cases hspelt' : (Draft.credentials? (u.withPassword password)).isSome = true
    · rw [outgoing, if_neg hspelt, outgoing, if_pos hspelt'] at h ⊢
      exact (withoutCredentials_of_credentialsText h).symm
    · rw [outgoing, if_neg hspelt, outgoing, if_neg hspelt'] at h ⊢
      rw [← credentialsText_withPassword.1 h]
      rfl

theorem SamePlace.credentialsText_outgoing (h : u.SamePlace v) :
    u.outgoing.credentialsText = v.outgoing.credentialsText := by
  unfold outgoing
  rw [h.credentials?_eq]
  split
  · rfl
  · rw [credentialsText_eq, credentialsText_eq, h.username, h.password]

end NetDelegate.Url
