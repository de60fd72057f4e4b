/-
  NetDelegate/Proofs/Engine/Outcome.lean
  ======================================
  **What setting up and tearing down come to.**  The stages are gone through in order, and the
  first that fails gives the error; there is a result only if none does.  `AttachOutcome` and
  `DetachOutcome` list the ways to end, each with all that succeeded before, and leave no choice
  (`attachOutcome_iff`, `detachOutcome_iff`).
-/
import NetDelegate.Proofs.Engine.Detach

namespace NetDelegate.Engine

/-! ### Courses leave no choice -/

section
variable {α : Type} {handle : List Call → Call → Except Error α} {command : Command}
  {context : Context}

/-- Entries whose calls are answered are passed, and the outcome is left to those that follow. -/
theorem delegate_append_of_answered {before : List NetworkEntry} {made : List Call}
    (hmade : List.Forall₂ (IsCallFor command context) before made) {index : Nat}
    {events : List Event} {answers : List α}
    (hanswers : Answered handle (Event.calls events) made answers) (after : List NetworkEntry) :
    (delegate handle command context index (before ++ after) events).1 =
      (delegate handle command context (index + before.length) after
        (events ++ made.map .call)).1.map (answers ++ ·) := by
  -- along the calls; each answer moves the index and the acts on by one
  induction hmade generalizing index events answers with
  | nil =>
    cases hanswers with
    | nil =>
      simp only [List.nil_append, List.length_nil, Nat.add_zero, List.map_nil, List.append_nil]
      exact (congrFun Except.map_id _).symm
  | @cons entry call before made hcall hmade ih =>
    cases hanswers with
    | @cons _ _ _ answer answers hanswer hanswers =>
      rw [← calls_append_call] at hanswers
      have hlength : index + (entry :: before).length = index + 1 + before.length := by
        rw [List.length_cons, Nat.add_comm before.length, Nat.add_assoc]
      rw [List.cons_append, delegate_cons_of_answer (callFor_eq_ok_iff.2 hcall) hanswer,
        ih hanswers, hlength, List.map_cons, List.append_assoc, List.singleton_append]
      cases (delegate handle command context (index + 1 + before.length) after
        (events ++ .call call :: made.map .call)).1 with
      | error e => rfl
      | ok later => rfl

/-- **A course that can be taken is taken.** -/
theorem Course.delegate_eq {index : Nat} {events : List Event} {entries : List NetworkEntry}
    {made : List Call} {r : Except Error (List α)}
    (h : Course handle command context index (Event.calls events) entries made r) :
    (delegate handle command context index entries events).1 = r := by
  cases h with
  | finished hmade hanswers => exact delegate_of_answered hmade hanswers
  | failed hentries hmade hanswers hcall hfails =>
    rw [← calls_append_map_call] at hfails
    rw [hentries, delegate_append_of_answered hmade hanswers]
    simp only [delegate, callFor_eq_ok_iff.2 hcall, hfails]
    rfl
  | untyped hentries hmade hanswers hplugin =>
    rw [hentries, delegate_append_of_answered hmade hanswers]
    simp only [delegate, callFor_eq_error_iff.2 ⟨hplugin, rfl⟩]
    rfl

end

theorem Course.unique {α : Type} {handle : List Call → Call → Except Error α} {command : Command}
    {context : Context} {index : Nat} {earlier : List Call} {entries : List NetworkEntry}
    {made made' : List Call} {r r' : Except Error (List α)}
    (h : Course handle command context index earlier entries made r)
    (h' : Course handle command context index earlier entries made' r') : r = r' := by
  have hearlier : Event.calls (earlier.map .call) = earlier := calls_append_map_call [] earlier
  rw [← hearlier] at h h'
  rw [← h.delegate_eq, h'.delegate_eq]

/-! ### Setting up -/

/-- What setting up comes to. -/
inductive AttachOutcome (w : World) (context : Context) (raw : Bytes) (s : State) :
    Except Failure AddResult → Prop
  -- The list cannot be retrieved.
  | unretrieved {f : Failure} {log : List Request}
      (hlist : Retrieval w context raw s.requests (.error f) log) :
      AttachOutcome w context raw s (.error f)
  -- It cannot be saved.
  | unsaved {value : Bytes} {list : NetworkList} {log : List Request} {f : Failure}
      (hlist : Retrieval w context raw s.requests (.ok (value, list)) log)
      (hput : (Scratch.put s.scratch context.containerId value w.disk).1 = .error f) :
      AttachOutcome w context raw s (.error f)
  -- An entry comes to nothing.
  | undelegated {value : Bytes} {list : NetworkList} {log : List Request} {made : List Call}
      {e : Error} (hlist : Retrieval w context raw s.requests (.ok (value, list)) log)
      (hput : (Scratch.put s.scratch context.containerId value w.disk).1 = .ok ())
      (hcourse : Course w.delegator.attach .add context 0 s.calls list.entries made (.error e)) :
      AttachOutcome w context raw s (failWith e)
  -- Every entry is added, and the answer for the first one is the result.
  | attached {value : Bytes} {list : NetworkList} {log : List Request} {calls : List Call}
      {r : AddResult} {answers : List AddResult}
      (hlist : Retrieval w context raw s.requests (.ok (value, list)) log)
      (hput : (Scratch.put s.scratch context.containerId value w.disk).1 = .ok ())
      (hcalls : List.Forall₂ (IsCallFor .add context) list.entries calls)
      (hanswers : Answered w.delegator.attach s.calls calls (r :: answers)) :
      AttachOutcome w context raw s (.ok r)

section
variable {w : World} {context : Context} {s : State}

theorem attachOutcome (w : World) (context : Context) (raw : Bytes) (s : State) :
    AttachOutcome w context raw s (attach w context raw s).1 := by
  obtain ⟨retrieved, log, hlist⟩ := retrieval w context raw s.requests
  match retrieved with
  | .error f =>
    rw [attach_of_error hlist]
    exact .unretrieved hlist
  | .ok (value, list) =>
    cases hput : (Scratch.put s.scratch context.containerId value w.disk).1 with
    | error f =>
      rw [attach_of_put_error hlist (Prod.ext hput rfl)]
      exact .unsaved hlist hput
    | ok u =>
      obtain ⟨made, r, hcourse, -, hattach⟩ := attach_of_put hlist (Prod.ext hput rfl)
      rw [hattach]
      cases hcourse with
      | failed hentries hmade hanswers hcall hfails =>
        exact .undelegated hlist hput (.failed hentries hmade hanswers hcall hfails)
      | untyped hentries hmade hanswers hplugin =>
        exact .undelegated hlist hput (.untyped hentries hmade hanswers hplugin)
      | finished hmade hanswers =>
        -- a list has a first entry, so there is a first answer
        cases hmade with
        | cons hcall hmade =>
          cases hanswers with
          | cons hanswer hanswers =>
            exact .attached hlist hput (.cons hcall hmade) (.cons hanswer hanswers)

/-- **What setting up comes to:** the first failure of a stage, or the result if there is none. -/
theorem attachOutcome_iff {raw : Bytes} {r : Except Failure AddResult} :
    AttachOutcome w context raw s r ↔ (attach w context raw s).1 = r := by
  constructor
  · intro h
    cases h with
    | unretrieved hlist => rw [attach_of_error hlist]
    | unsaved hlist hput => rw [attach_of_put_error hlist (Prod.ext hput rfl)]
    | undelegated hlist hput hcourse =>
      obtain ⟨made, r, htaken, -, hattach⟩ := attach_of_put hlist (Prod.ext hput rfl)
      rw [hattach, htaken.unique hcourse]
      rfl
    | attached hlist hput hcalls hanswers =>
      obtain ⟨made, r, -, hok, hattach⟩ := attach_of_put hlist (Prod.ext hput rfl)
      rw [hattach, (hok _).2 ⟨_, hcalls, hanswers⟩]
      rfl
  · rintro rfl
    exact attachOutcome w context raw s

/-! ### Tearing down -/

/-- What tearing down comes to. -/
inductive DetachOutcome (w : World) (context : Context) (s : State) :
    Except Failure Unit → Prop
  -- The record cannot be taken.
  | untaken {f : Failure}
      (htake : (Scratch.take w.pid s.scratch context.containerId w.disk).1 = .error f) :
      DetachOutcome w context s (.error f)
  -- It spells no list.
  | malformed {value : Bytes} {f : Failure}
      (htake : (Scratch.take w.pid s.scratch context.containerId w.disk).1 = .ok value)
      (hparse : NetworkList.parse value = .error f) :
      DetachOutcome w context s (.error f)
  -- An entry comes to nothing.
  | undelegated {value : Bytes} {list : NetworkList} {made : List Call} {e : Error}
      (htake : (Scratch.take w.pid s.scratch context.containerId w.disk).1 = .ok value)
      (hparse : NetworkList.parse value = .ok list)
      (hcourse : Course w.delegator.detach .del context 0 s.calls list.entries made (.error e)) :
      DetachOutcome w context s (failWith e)
  -- Every entry is deleted.
  | detached {value : Bytes} {list : NetworkList} {calls : List Call} {answers : List Unit}
      (htake : (Scratch.take w.pid s.scratch context.containerId w.disk).1 = .ok value)
      (hparse : NetworkList.parse value = .ok list)
      (hcalls : List.Forall₂ (IsCallFor .del context) list.entries calls)
      (hanswers : Answered w.delegator.detach s.calls calls answers) :
      DetachOutcome w context s (.ok ())

theorem detachOutcome (w : World) (context : Context) (s : State) :
    DetachOutcome w context s (detach w context s).1 := by
  cases htake : (Scratch.take w.pid s.scratch context.containerId w.disk).1 with
  | error f =>
    rw [(detach_of_take_error htake).1]
    exact .untaken htake
  | ok value =>
    obtain ⟨made, -, hdone⟩ := detach_of_taken htake
    cases hparse : NetworkList.parse value with
    | error f =>
      rw [hparse] at hdone
      rw [hdone.2]
      exact .malformed htake hparse
    | ok list =>
      rw [hparse] at hdone
      obtain ⟨r, hcourse, hr⟩ := hdone
      rw [hr]
      cases hcourse with
      | failed hentries hmade hanswers hcall hfails =>
        exact .undelegated htake hparse (.failed hentries hmade hanswers hcall hfails)
      | untyped hentries hmade hanswers hplugin =>
        exact .undelegated htake hparse (.untyped hentries hmade hanswers hplugin)
      | finished hmade hanswers => exact .detached htake hparse hmade hanswers

/-- **What tearing down comes to:** the first failure of a stage, or nothing if there is none. -/
theorem detachOutcome_iff {r : Except Failure Unit} :
    DetachOutcome w context s r ↔ (detach w context s).1 = r := by
  constructor
  · intro h
    cases h with
    | untaken htake => exact (detach_of_take_error htake).1
    | malformed htake hparse =>
      obtain ⟨made, -, hdone⟩ := detach_of_taken htake
      rw [hparse] at hdone
      exact hdone.2
    | undelegated htake hparse hcourse =>
      obtain ⟨made, -, hdone⟩ := detach_of_taken htake
      rw [hparse] at hdone
      obtain ⟨r, htaken, hr⟩ := hdone
      rw [hr, htaken.unique hcourse]
      rfl
    | detached htake hparse hcalls hanswers =>
      exact detach_eq_ok_iff.2 ⟨_, _, _, _, htake, hparse, hcalls, hanswers⟩
  · rintro rfl
    exact detachOutcome w context s

end

end NetDelegate.Engine
