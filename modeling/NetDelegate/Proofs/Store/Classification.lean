/-
  NetDelegate/Proofs/Store/Classification.lean
  ============================================
  **What an answer means.**  Getting a value comes to one of three things: the value, the error that
  there is none, or an error of the store; both errors are about the key that was asked for.  Which
  of them it is depends on the status and on a body that arrived whole (`Store.Classifies`), and each
  store has its own rule for these: `Etcd.Holds` and `Etcd.Lacks`, `Consul.Holds` and
  `Consul.Lacks`.  A service that does not answer, a body that breaks off, and an answer that says
  something else are never taken for a value, nor for the lack of one (`Store.classifies_builtin`).
-/
import NetDelegate.Proofs.Store.Failure

namespace NetDelegate

/-- What getting the value of a key comes to.  It is the value that a whole answer holds; there is
    none exactly if a whole answer says so; in all other cases the store has failed. -/
structure Store.Classifies (backend key : String) (draft : Draft)
    (holds : Nat → Bytes → Bytes → Prop) (lacks : Nat → Bytes → Prop) (get : Session Bytes) :
    Prop where
  value : ∀ net log v, (get net log).1 = .ok v ↔
    ∃ status body, draft.IsAnswered net log status body ∧ holds status body v
  notFound : ∀ net log k, (get net log).1 = .error (.keyNotFound k) ↔
    ∃ status body, draft.IsAnswered net log status body ∧ lacks status body ∧ k = key
  failed : ∀ net log, (∃ message, (get net log).1 = .error (.storeFailed backend key message)) ↔
    ¬∃ status body, draft.IsAnswered net log status body ∧
      ((∃ v, holds status body v) ∨ lacks status body)

/-! ### From answers to outcomes -/

/-- An answer that arrived whole is the only one. -/
theorem Draft.IsAnswered.exists_iff {draft : Draft} {net : Network} {log : List Request}
    {status : Nat} {body : Bytes} (h : draft.IsAnswered net log status body)
    {p : Nat → Bytes → Prop} :
    (∃ status body, draft.IsAnswered net log status body ∧ p status body) ↔ p status body := by
  constructor
  · rintro ⟨status', body', h', hp⟩
    have hsame := h.2.symm.trans h'.2
    cases hsame
    exact hp
  · intro hp
    exact ⟨status, body, h, hp⟩

section
variable {backend key : String} {draft : Draft} {classify : Nat × Bytes → Except Error Bytes}

/-- What is no error of the store is got exactly if a whole answer is classified as it. -/
theorem Store.get_eq_iff {net : Network} {log : List Request} (r : Except Error Bytes)
    (hr : ∀ message, .error (.storeFailed backend key message) ≠ r) :
    ((Store.fetch (.storeFailed backend key) draft >>= fun answer =>
        Session.pure (classify answer)) net log).1 = r ↔
      ∃ status body, draft.IsAnswered net log status body ∧ classify (status, body) = r := by
  rcases get_cases (.storeFailed backend key) draft classify net log with
    ⟨status, body, hanswer, hget⟩ | ⟨hno, ⟨fault, hget⟩ | hget⟩
  · rw [hget, hanswer.exists_iff]
  · rw [hget]
    exact iff_of_false (hr fault.text) fun ⟨status, body, hanswer, _⟩ => hno status body hanswer
  · rw [hget]
    exact iff_of_false (hr bodyFault) fun ⟨status, body, hanswer, _⟩ => hno status body hanswer

/-- What a store makes of whole answers decides what getting a value comes to. -/
theorem Store.classifies_of_classify {holds : Nat → Bytes → Bytes → Prop}
    {lacks : Nat → Bytes → Prop}
    (hvalue : ∀ status body v, classify (status, body) = .ok v ↔ holds status body v)
    (hlacks : ∀ status body k,
      classify (status, body) = .error (.keyNotFound k) ↔ lacks status body ∧ k = key)
    (herror : ∀ {answer e}, classify answer = .error e → IsReadError backend key e) :
    Classifies backend key draft holds lacks
      (Store.fetch (.storeFailed backend key) draft >>= fun answer =>
        Session.pure (classify answer)) := by
  refine ⟨fun net log v => ?value, fun net log k => ?notFound, fun net log => ?failed⟩
  case value =>
    rw [get_eq_iff (.ok v) nofun]
    simp only [hvalue]
  case notFound =>
    rw [get_eq_iff (.error (.keyNotFound k)) nofun]
    simp only [hlacks]
  case failed =>
    generalize hget : Prod.fst _ = got
    match got with
    | .ok v =>
      obtain ⟨status, body, hanswer, hv⟩ := (get_eq_iff (.ok v) nofun).1 hget
      refine iff_of_false nofun (not_not_intro ⟨status, body, hanswer, .inl ⟨v, ?_⟩⟩)
      exact (hvalue status body v).1 hv
    | .error e =>
      rcases (isReadError_of_get herror hget).eq_or_exists with rfl | ⟨message, rfl⟩
      · obtain ⟨status, body, hanswer, hno⟩ :=
          (get_eq_iff (.error (.keyNotFound key)) nofun).1 hget
        refine iff_of_false nofun (not_not_intro ⟨status, body, hanswer, .inr ?_⟩)
        exact ((hlacks status body key).1 hno).1
      · refine iff_of_true ⟨message, rfl⟩ ?_
        rintro ⟨status, body, hanswer, ⟨v, hv⟩ | hno⟩
        · have hok := (hvalue status body v).2 hv
          cases hget.symm.trans ((get_eq_iff (.ok v) nofun).2 ⟨status, body, hanswer, hok⟩)
        · have hmissing := (hlacks status body key).2 ⟨hno, rfl⟩
          cases hget.symm.trans ((get_eq_iff (.error (.keyNotFound key)) nofun).2
            ⟨status, body, hanswer, hmissing⟩)

end

/-! ### The rules of the two stores -/

theorem Status.isSuccess_iff {status : Nat} :
    Status.isSuccess status = true ↔ 200 ≤ status ∧ status < 300 := by
  simp [Status.isSuccess]

theorem Status.ne_notFound_of_isSuccess {status : Nat} (h : Status.isSuccess status = true) :
    status ≠ Status.notFound := by
  rintro rfl
  cases h

namespace Etcd

/-- The answer is a success and says that the key is no directory and has a value. -/
def Holds (status : Nat) (body v : Bytes) : Prop :=
  (200 ≤ status ∧ status < 300) ∧ ∃ s, parseNode body = .ok ⟨some s, false⟩ ∧ v = utf8 s

/-- The answer has the status of what is not there, and is no error with the code of another. -/
def Lacks (status : Nat) (body : Bytes) : Prop :=
  status = 404 ∧ ¬∃ f, parseFault body = .ok f ∧ f.code ≠ 100

section
variable {key : String} {status : Nat} {body : Bytes}

theorem classify_ne_ok (h : ¬Status.isSuccess status = true) (v : Bytes) :
    classify key status body ≠ .ok v := by
  intro hvalue
  rw [classify, Bool.eq_false_iff.2 h] at hvalue
  -- with status 404 or another, the body is read as an error or not at all
  split at hvalue
  · split at hvalue
    · split at hvalue <;> cases hvalue
    · cases hvalue
  · rw [if_pos (Bool.not_false)] at hvalue
    split at hvalue <;> cases hvalue

theorem classify_ne_notFound (h : status ≠ Status.notFound) (k : String) :
    classify key status body ≠ .error (.keyNotFound k) := by
  intro hmissing
  rw [classify, if_neg h] at hmissing
  -- a refusal first, then what a node can lack
  split at hmissing
  · split at hmissing <;> cases hmissing
  · split at hmissing
    · cases hmissing
    · split at hmissing
      · cases hmissing
      · split at hmissing <;> cases hmissing

theorem classify_eq_ok_iff {v : Bytes} :
    classify key status body = .ok v ↔ Holds status body v := by
  rw [Holds, ← Status.isSuccess_iff]
  by_cases hsuccess : Status.isSuccess status = true
  · rw [classify, if_neg (Status.ne_notFound_of_isSuccess hsuccess), hsuccess, and_iff_right rfl]
    match parseNode body with
    | .error e => exact iff_of_false nofun nofun
    | .ok ⟨value, true⟩ => exact iff_of_false nofun nofun
    | .ok ⟨none, false⟩ => exact iff_of_false nofun nofun
    | .ok ⟨some s, false⟩ => simp [eq_comm]
  · exact iff_of_false (classify_ne_ok hsuccess v) fun h => hsuccess h.1

theorem classify_eq_notFound_iff {k : String} :
    classify key status body = .error (.keyNotFound k) ↔ Lacks status body ∧ k = key := by
  by_cases hstatus : status = Status.notFound
  · have h404 : status = 404 := hstatus
    rw [classify, if_pos hstatus, Lacks, and_iff_right h404]
    match parseFault body with
    | .error e => simp [eq_comm]
    | .ok f =>
      by_cases hcode : f.code = 100
      · simp [keyNotFoundCode, hcode, eq_comm]
      · simp [keyNotFoundCode, hcode, storeError]
  · exact iff_of_false (classify_ne_notFound hstatus k) fun h => hstatus h.1.1

end

end Etcd

namespace Consul

/-- The answer is a success, and its body is the value. -/
def Holds (status : Nat) (body v : Bytes) : Prop :=
  (200 ≤ status ∧ status < 300) ∧ v = body

/-- The answer has the status of what is not there. -/
def Lacks (status : Nat) (_ : Bytes) : Prop := status = 404

section
variable {key : String} {status : Nat} {body : Bytes}

theorem classify_eq_ok_iff {v : Bytes} :
    classify key status body = .ok v ↔ Holds status body v := by
  rw [Holds, ← Status.isSuccess_iff, classify]
  by_cases hsuccess : Status.isSuccess status = true
  · rw [if_neg (Status.ne_notFound_of_isSuccess hsuccess), if_pos hsuccess]
    simp [hsuccess, eq_comm]
  · rw [if_neg hsuccess]
    refine iff_of_false ?_ fun h => hsuccess h.1
    split <;> exact nofun

theorem classify_eq_notFound_iff {k : String} :
    classify key status body = .error (.keyNotFound k) ↔ Lacks status body ∧ k = key := by
  rw [Lacks, classify]
  by_cases hstatus : status = Status.notFound
  · have h404 : status = 404 := hstatus
    rw [if_pos hstatus, iff_true_intro h404]
    simp [eq_comm]
  · rw [if_neg hstatus]
    refine iff_of_false ?_ fun h => hstatus h.1
    split <;> exact nofun

end

/-- The value need not be text. -/
example : classify "cni/a" 200 [0xFF, 0xC0] = .ok [0xFF, 0xC0] := rfl

end Consul

/-- **How both stores classify answers,** for every key, status and body. -/
theorem Store.classifies_builtin (config : Config) (key : String) :
    Classifies Etcd.backend key (Etcd.draft config (Etcd.keyUrl config key)) Etcd.Holds Etcd.Lacks
        (Etcd.get config key) ∧
      Classifies Consul.backend key (Consul.draft config (Consul.keyUrl config key)) Consul.Holds
        Consul.Lacks (Consul.get config key) := by
  rw [Etcd.get_eq, Consul.get_eq]
  constructor
  · exact classifies_of_classify (fun _ _ _ => Etcd.classify_eq_ok_iff)
      (fun _ _ _ => Etcd.classify_eq_notFound_iff) Etcd.isReadError_of_classify
  · exact classifies_of_classify (fun _ _ _ => Consul.classify_eq_ok_iff)
      (fun _ _ _ => Consul.classify_eq_notFound_iff) Consul.isReadError_of_classify

end NetDelegate
