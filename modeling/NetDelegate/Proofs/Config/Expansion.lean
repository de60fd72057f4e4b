/-
  NetDelegate/Proofs/Config/Expansion.lean
  ========================================
  **The replacement of references is one pass from left to right.**  A reference has one written
  form (`Reference.text`), and `reference?` finds a reference at the start of a text just where
  the text goes on from its written form (`reference?_eq_some_iff`).  `Pass` says, in terms of
  written forms alone, what a pass over a text puts out and which names it lacks.  There is one
  pass over each text, and the value of an option is what it puts out
  (`Config.expandOption_eq_pass`).
-/
import NetDelegate.Config.Basic
import NetDelegate.Proofs.Text.Utf8

namespace NetDelegate

namespace Environment

/-! ### The written form of a reference -/

/-- What follows the name: a default or not, and the closing brace. -/
def Reference.ending (r : Reference) : List Char :=
  match r.fallback with
  | none => ['\x7d']
  | some d => ':' :: '-' :: (d.toList ++ ['\x7d'])

/-- The written form of a reference, `${NAME}` or `${NAME:-DEFAULT}`. -/
def Reference.text (r : Reference) : List Char :=
  '$' :: '\x7b' :: (r.name.toList ++ r.ending)

/-- References that can be written: the name is an ASCII identifier, and the default does not
    hold the brace that would end it. -/
structure Reference.IsWritten (r : Reference) : Prop where
  name : ∃ c cs, r.name.toList = c :: cs ∧ (c.isAlpha = true ∨ c = '_') ∧
    ∀ d ∈ cs, d.isAlphanum = true ∨ d = '_'
  fallback : ∀ d, r.fallback = some d → '\x7d' ∉ d.toList

theorem isNameStart_iff {c : Char} : isNameStart c = true ↔ c.isAlpha = true ∨ c = '_' := by
  simp [isNameStart]

theorem isNamePart_iff {c : Char} : isNamePart c = true ↔ c.isAlphanum = true ∨ c = '_' := by
  simp [isNamePart]

theorem takeWhile_append_cons {p : Char → Bool} {cs rest : List Char} {c : Char}
    (hcs : ∀ d ∈ cs, p d = true) (hc : p c = false) :
    (cs ++ c :: rest).takeWhile p = cs := by
  rw [List.takeWhile_append_of_pos hcs, List.takeWhile_cons_of_neg (by simp [hc]), List.append_nil]

theorem dropWhile_append_cons {p : Char → Bool} {cs rest : List Char} {c : Char}
    (hcs : ∀ d ∈ cs, p d = true) (hc : p c = false) :
    (cs ++ c :: rest).dropWhile p = c :: rest := by
  rw [List.dropWhile_append_of_pos hcs, List.dropWhile_cons_of_neg (by simp [hc])]

theorem closeReference?_ending (r : Reference) (rest : List Char)
    (hfallback : ∀ d, r.fallback = some d → '\x7d' ∉ d.toList) :
    closeReference? r.name.toList (r.ending ++ rest) = some (r, rest) := by
  obtain ⟨name, fallback⟩ := r
  cases fallback with
  | none => simp [Reference.ending, closeReference?]
  | some d =>
    have hbrace : ∀ c ∈ d.toList, decide (c ≠ '\x7d') = true := by
      intro c hc
      have hne : c ≠ '\x7d' := fun h => hfallback d rfl (h ▸ hc)
      simpa using hne
    have htext : (Reference.mk name (some d)).ending ++ rest =
        ':' :: '-' :: (d.toList ++ '\x7d' :: rest) := by
      simp [Reference.ending]
    rw [htext, closeReference?, takeWhile_append_cons hbrace (by decide),
      dropWhile_append_cons hbrace (by decide)]
    simp

theorem closeReference?_eq_some {name cs rest : List Char} {r : Reference}
    (h : closeReference? name cs = some (r, rest)) :
    r.name.toList = name ∧ (∀ d, r.fallback = some d → '\x7d' ∉ d.toList) ∧
      cs = r.ending ++ rest := by
  unfold closeReference? at h
  split at h
  · cases h
    exact ⟨String.toList_ofList, (fun d hd => nomatch hd), rfl⟩
  · next tail =>
    split at h
    · cases h
    · next c after hafter =>
      cases h
      have hsplit := List.takeWhile_append_dropWhile (p := (· ≠ '\x7d')) (l := tail)
      have hend : c = '\x7d' := by
        have hhead := List.head?_dropWhile_not (· ≠ '\x7d') tail
        rw [hafter] at hhead
        simpa using hhead
      refine ⟨String.toList_ofList, ?_, ?_⟩
      · rintro d hd hmem
        cases hd
        rw [String.toList_ofList] at hmem
        have := List.all_eq_true.1 List.all_takeWhile _ hmem
        simp at this
      · rw [hafter, hend] at hsplit
        simp only [Reference.ending, String.toList_ofList, List.cons_append, List.append_assoc,
          List.nil_append, hsplit]
  · cases h

/-- What follows a name is no part of it. -/
theorem exists_ending (r : Reference) :
    ∃ c cs, r.ending = c :: cs ∧ isNamePart c = false := by
  unfold Reference.ending
  cases r.fallback with
  | none => exact ⟨_, _, rfl, by decide⟩
  | some d => exact ⟨_, _, rfl, by decide⟩

/-- **A reference is found just where its written form is.** -/
theorem reference?_eq_some_iff {cs rest : List Char} {r : Reference} :
    reference? cs = some (r, rest) ↔ r.IsWritten ∧ cs = r.text ++ rest := by
  constructor
  · intro h
    unfold reference? at h
    split at h
    · next c tail =>
      split at h
      · next hstart =>
        obtain ⟨hname, hfallback, hending⟩ := closeReference?_eq_some h
        refine ⟨⟨⟨c, tail.takeWhile isNamePart, hname, isNameStart_iff.1 hstart, ?_⟩, hfallback⟩, ?_⟩
        · intro d hd
          exact isNamePart_iff.1 (List.all_eq_true.1 List.all_takeWhile d hd)
        · rw [Reference.text, hname, List.cons_append, List.cons_append, List.append_assoc,
            ← hending, List.cons_append, List.takeWhile_append_dropWhile]
      · cases h
    · cases h
  · rintro ⟨⟨⟨c, name, hname, hstart, hparts⟩, hfallback⟩, rfl⟩
    obtain ⟨e, ending, hending, hends⟩ := exists_ending r
    have hparts' : ∀ d ∈ name, isNamePart d = true := fun d hd => isNamePart_iff.2 (hparts d hd)
    have htext : r.text ++ rest = '$' :: '\x7b' :: c :: (name ++ e :: (ending ++ rest)) := by
      simp [Reference.text, hname, hending]
    rw [htext, reference?, if_pos (isNameStart_iff.2 hstart), takeWhile_append_cons hparts' hends,
      dropWhile_append_cons hparts' hends, ← hname, ← List.cons_append, ← hending]
    exact closeReference?_ending r rest hfallback

/-! ### One pass -/

/-- The text of a variable: it is set, and its bytes are the text's. -/
def Holds (env : Environment) (name value : String) : Prop := env name = some (utf8 value)

theorem text?_eq_some_iff {env : Environment} {name value : String} :
    env.text? name = some value ↔ env.Holds name value := by
  rw [text?, Option.bind_eq_some_iff]
  constructor
  · rintro ⟨bytes, hbytes, hvalue⟩
    rw [Holds, hbytes, Bytes.text?_eq_some_iff.1 hvalue]
  · intro h
    exact ⟨utf8 value, h, Bytes.text?_eq_some_iff.2 rfl⟩

theorem text?_eq_none_iff {env : Environment} {name : String} :
    env.text? name = none ↔ ∀ value, ¬ env.Holds name value := by
  rw [Option.eq_none_iff_forall_ne_some]
  exact forall_congr' fun value => not_congr text?_eq_some_iff

/-- A pass over a text from left to right: what it puts out, and the names it lacks in the order
    in which it meets them.  Where the written form of a reference stands, the pass puts out the
    value of the variable or, if that holds no text, the default, and goes on behind the closing
    brace; everywhere else it copies a character.  What it puts out it does not look at again. -/
inductive Pass (env : Environment) : List Char → List Char → List String → Prop
  | done : Pass env [] [] []
  | value {r : Reference} {v : String} {rest out : List Char} {lacks : List String}
      (written : r.IsWritten) (holds : env.Holds r.name v) (onward : Pass env rest out lacks) :
      Pass env (r.text ++ rest) (v.toList ++ out) lacks
  | fallback {r : Reference} {d : String} {rest out : List Char} {lacks : List String}
      (written : r.IsWritten) (unset : ∀ v, ¬ env.Holds r.name v) (default : r.fallback = some d)
      (onward : Pass env rest out lacks) : Pass env (r.text ++ rest) (d.toList ++ out) lacks
  | lack {r : Reference} {rest out : List Char} {lacks : List String}
      (written : r.IsWritten) (unset : ∀ v, ¬ env.Holds r.name v) (bare : r.fallback = none)
      (onward : Pass env rest out lacks) : Pass env (r.text ++ rest) out (r.name :: lacks)
  | copy {c : Char} {cs out : List Char} {lacks : List String}
      (plain : ∀ (r : Reference) (rest : List Char), r.IsWritten → c :: cs ≠ r.text ++ rest)
      (onward : Pass env cs out lacks) : Pass env (c :: cs) (c :: out) lacks

/-- The text that pieces stand for, where every variable that lacks leaves a gap. -/
def output (env : Environment) (ps : List Piece) : List Char :=
  ps.flatMap fun p => (p.text? env).getD []

/-- The names to which pieces refer in vain. -/
def lacking (env : Environment) (ps : List Piece) : List String :=
  ps.filterMap (Piece.missing? env)

section
variable {env : Environment} {cs rest : List Char} {r : Reference}

theorem output_char (c : Char) (ps : List Piece) :
    output env (.char c :: ps) = c :: output env ps := rfl

theorem lacking_char (c : Char) (ps : List Piece) :
    lacking env (.char c :: ps) = lacking env ps := List.filterMap_cons_none rfl

theorem pieces_text_append (h : r.IsWritten) :
    pieces (r.text ++ rest) = .reference r :: pieces rest := by
  have hfound : reference? (r.text ++ rest) = some (r, rest) :=
    reference?_eq_some_iff.2 ⟨h, rfl⟩
  obtain ⟨c, tail, htext⟩ : ∃ c tail, r.text ++ rest = c :: tail := ⟨_, _, rfl⟩
  rw [htext] at hfound ⊢
  rw [pieces]
  split
  · next r' rest' hsome =>
    rw [hfound] at hsome
    cases hsome
    rfl
  · next hnone =>
    rw [hfound] at hnone
    cases hnone

theorem pieces_cons_of_plain {c : Char}
    (h : ∀ (r : Reference) (rest : List Char), r.IsWritten → c :: cs ≠ r.text ++ rest) :
    pieces (c :: cs) = .char c :: pieces cs := by
  rw [pieces]
  split
  · next r rest hsome =>
    obtain ⟨hwritten, htext⟩ := reference?_eq_some_iff.1 hsome
    exact absurd htext (h r rest hwritten)
  · rfl

/-- A pass puts out what the pieces of the text stand for. -/
theorem Pass.eq_of_pieces {out : List Char} {lacks : List String} (h : Pass env cs out lacks) :
    out = output env (pieces cs) ∧ lacks = lacking env (pieces cs) := by
  induction h with
  | done => rw [pieces]; exact ⟨rfl, rfl⟩
  | value hwritten hholds _ ih =>
    rw [pieces_text_append hwritten]
    simp [output, lacking, Piece.text?, Piece.missing?, text?_eq_some_iff.2 hholds, ih]
  | fallback hwritten hunset hdefault _ ih =>
    rw [pieces_text_append hwritten]
    simp [output, lacking, Piece.text?, Piece.missing?, text?_eq_none_iff.2 hunset, hdefault, ih]
  | lack hwritten hunset hbare _ ih =>
    rw [pieces_text_append hwritten]
    simp [output, lacking, Piece.text?, Piece.missing?, text?_eq_none_iff.2 hunset, hbare, ih]
  | copy hplain _ ih =>
    rw [pieces_cons_of_plain hplain, lacking_char, ← ih.2, output_char, ← ih.1]
    exact ⟨rfl, rfl⟩

/-- There is a pass over each text. -/
theorem exists_pass (env : Environment) (cs : List Char) :
    ∃ out lacks, Pass env cs out lacks := by
  fun_induction pieces cs with
  | case1 => exact ⟨[], [], .done⟩
  | case2 c cs r rest hfound ih =>
    obtain ⟨hwritten, htext⟩ := reference?_eq_some_iff.1 hfound
    obtain ⟨out, lacks, honward⟩ := ih
    rw [htext]
    cases hvalue : env.text? r.name with
    | some v => exact ⟨_, _, .value hwritten (text?_eq_some_iff.1 hvalue) honward⟩
    | none =>
      have hunset := text?_eq_none_iff.1 hvalue
      cases hfallback : r.fallback with
      | some d => exact ⟨_, _, .fallback hwritten hunset hfallback honward⟩
      | none => exact ⟨_, _, .lack hwritten hunset hfallback honward⟩
  | case3 c cs hnone ih =>
    obtain ⟨out, lacks, honward⟩ := ih
    refine ⟨_, _, .copy (fun r rest hwritten htext => ?_) honward⟩
    rw [reference?_eq_some_iff.2 ⟨hwritten, htext⟩] at hnone
    cases hnone

theorem pass_iff {out : List Char} {lacks : List String} :
    Pass env cs out lacks ↔ out = output env (pieces cs) ∧ lacks = lacking env (pieces cs) := by
  constructor
  · exact Pass.eq_of_pieces
  · rintro ⟨rfl, rfl⟩
    obtain ⟨out, lacks, h⟩ := exists_pass env cs
    obtain ⟨rfl, rfl⟩ := h.eq_of_pieces
    exact h

/-- A text without the mark of a reference is copied. -/
theorem pass_of_notMem (h : '$' ∉ cs) : Pass env cs cs [] := by
  induction cs with
  | nil => exact .done
  | cons c cs ih =>
    rw [List.mem_cons, not_or] at h
    refine .copy (fun r rest _ htext => ?_) (ih h.2)
    exact h.1 (List.cons.inj htext).1.symm

theorem findSome?_missing? (ps : List Piece) :
    ps.findSome? (Piece.missing? env) = (lacking env ps).head? := by
  rw [lacking, List.head?_filterMap]

end

end Environment

namespace Config

open Environment

theorem expandOption_eq_ok_iff {env : Environment} {name value expanded : String} :
    expandOption env name value = .ok expanded ↔ Pass env value.toList expanded.toList [] := by
  rw [pass_iff, expandOption, Environment.expand]
  simp only [findSome?_missing?]
  cases lacking env (pieces value.toList) with
  | nil =>
    simp only [List.head?_nil, Except.ok.injEq, and_true]
    rw [← String.toList_inj, String.toList_ofList, eq_comm]
    rfl
  | cons missing lacks => simp [failWith]

/-- **The value of an option is put out by one pass.**  Over each text there is exactly one pass.
    If it lacks no name, the value of the option is what it puts out; else the option is refused,
    with its text as it was and the first name that lacks. -/
theorem expandOption_eq_pass (env : Environment) (name value : String) :
    ∃ out lacks,
      (∀ out' lacks', Pass env value.toList out' lacks' ↔ out' = out ∧ lacks' = lacks) ∧
      expandOption env name value = match lacks with
        | [] => .ok (String.ofList out)
        | missing :: _ => failWith (.invalidValue ("storeConfig." ++ name) value
            ("environment variable '" ++ missing ++ "' not set")) := by
  refine ⟨output env (pieces value.toList), lacking env (pieces value.toList), fun _ _ => pass_iff, ?_⟩
  simp only [expandOption, Environment.expand, findSome?_missing?]
  cases lacking env (pieces value.toList) with
  | nil => rfl
  | cons missing lacks => rfl

/-- A value that looks like a reference and a default that begins like one are not read again. -/
example :
    (expandOption (fun name => if name = "A" then some (utf8 "$\x7bB\x7d") else none) "token"
      "x$\x7bA\x7d$\x7bB:-$\x7bC\x7d\x7d").toOption = some "x$\x7bB\x7d$\x7bC\x7d" := by
  decide +kernel

end Config

end NetDelegate
