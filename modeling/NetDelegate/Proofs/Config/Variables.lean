/-
  NetDelegate/Proofs/Config/Variables.lean
  ========================================
  **Which variables a configuration depends on.**  A pass over a text looks at the environment only
  where it meets the written form of a reference (`Environment.Meets`); what it puts in is not
  looked at again, so a value that looks like a reference draws in no other variable.  Hence
  environments that agree on the names of the references in the options are the same to loading
  (`Config.load_congr`).  `Config.variableNames` lists these names, so reading just them from the
  system is enough.
-/
import NetDelegate.Proofs.Config.Load
import NetDelegate.Proofs.Config.Options

namespace NetDelegate

namespace Environment

/-! ### The references of a text -/

/-- A pass over the text meets the written form of the reference: at the start, or behind what it
    has gone over, which is another reference or a character where none begins. -/
inductive Meets : List Char → Reference → Prop
  | here {r : Reference} {rest : List Char} (written : r.IsWritten) : Meets (r.text ++ rest) r
  | behind {r r' : Reference} {rest : List Char} (written : r'.IsWritten) (onward : Meets rest r) :
      Meets (r'.text ++ rest) r
  | copied {r : Reference} {c : Char} {cs : List Char}
      (plain : ∀ (r' : Reference) (rest : List Char), r'.IsWritten → c :: cs ≠ r'.text ++ rest)
      (onward : Meets cs r) : Meets (c :: cs) r

theorem meets_iff_mem_pieces {cs : List Char} {r : Reference} :
    Meets cs r ↔ .reference r ∈ pieces cs := by
  constructor
  · intro h
    induction h with
    | here written =>
      rw [pieces_text_append written]
      exact List.mem_cons_self
    | behind written _ ih =>
      rw [pieces_text_append written]
      exact List.mem_cons_of_mem _ ih
    | copied plain _ ih =>
      rw [pieces_cons_of_plain plain]
      exact List.mem_cons_of_mem _ ih
  · intro h
    fun_induction pieces cs with
    | case1 => cases h
    | case2 c cs found rest hfound ih =>
      obtain ⟨written, htext⟩ := reference?_eq_some_iff.1 hfound
      rw [htext]
      rcases List.mem_cons.1 h with heq | hmem
      · cases heq
        exact .here written
      · exact .behind written (ih hmem)
    | case3 c cs hnone ih =>
      have hlater := (List.mem_cons.1 h).resolve_left (by simp)
      refine .copied (fun r' rest written htext => ?_) (ih hlater)
      rw [reference?_eq_some_iff.2 ⟨written, htext⟩] at hnone
      cases hnone

theorem mem_names_iff {s name : String} :
    name ∈ names s ↔ ∃ r, Meets s.toList r ∧ r.name = name := by
  simp only [names, List.mem_filterMap, meets_iff_mem_pieces]
  constructor
  · rintro ⟨p, hmem, hname⟩
    cases p with
    | char c => cases hname
    | reference r => exact ⟨r, hmem, Option.some.inj hname⟩
  · rintro ⟨r, hmem, hname⟩
    exact ⟨.reference r, hmem, congrArg some hname⟩

/-! ### Environments that agree -/

/-- The variable has the same text in both environments, or in neither any: it is not set there,
    or its bytes are no text. -/
def AgreeOn (env env' : Environment) (name : String) : Prop :=
  ∀ value, env.Holds name value ↔ env'.Holds name value

theorem AgreeOn.text?_eq {env env' : Environment} {name : String} (h : AgreeOn env env' name) :
    env.text? name = env'.text? name := by
  refine Option.ext fun value => ?_
  rw [text?_eq_some_iff, text?_eq_some_iff]
  exact h value

/-- Expanding looks only at the variables of the references that it meets. -/
theorem expand_congr {env env' : Environment} {s : String}
    (h : ∀ r, Meets s.toList r → AgreeOn env env' r.name) : env.expand s = env'.expand s := by
  have htext : ∀ p ∈ pieces s.toList, p.text? env = p.text? env' := by
    intro p hp
    cases p with
    | char c => rfl
    | reference r =>
      rw [Piece.text?, Piece.text?, (h r (meets_iff_mem_pieces.2 hp)).text?_eq]
  have hmissing : ∀ p ∈ pieces s.toList, p.missing? env = p.missing? env' := by
    intro p hp
    cases p with
    | char c => rfl
    | reference r => rw [Piece.missing?, Piece.missing?, htext _ hp]
  have houtput : output env (pieces s.toList) = output env' (pieces s.toList) :=
    List.flatMap_congr fun p hp => by rw [htext p hp]
  have hlacking : lacking env (pieces s.toList) = lacking env' (pieces s.toList) :=
    List.filterMap_congr hmissing
  unfold output at houtput
  simp only [expand, findSome?_missing?, hlacking, houtput]

end Environment

namespace Config

open Environment

/-- The variable is named by a reference in the value of an option. -/
def IsNamed (text : Bytes) (name : String) : Prop :=
  ∃ conf option value r, Conf.parse text = .ok conf ∧ conf.options.get? option = some value ∧
    Meets value.toList r ∧ r.name = name

theorem mem_variableNames_iff {text : Bytes} {name : String} :
    name ∈ variableNames text ↔ IsNamed text name := by
  unfold variableNames IsNamed
  cases Conf.parse text with
  | error e => simp
  | ok conf =>
    simp only [List.mem_flatMap, mem_names_iff, Prod.exists, ← NameMap.get?_eq_some_iff,
      Except.ok.injEq, exists_and_left, exists_eq_left']

section
variable {env env' : Environment} {visits : List (String × String)}

theorem expandOption_congr {name value : String}
    (h : ∀ r, Meets value.toList r → AgreeOn env env' r.name) :
    expandOption env name value = expandOption env' name value := by
  rw [expandOption, expandOption, expand_congr h]

theorem expandOptions_congr
    (h : ∀ e ∈ visits, ∀ r, Meets e.2.toList r → AgreeOn env env' r.name) :
    expandOptions env visits = expandOptions env' visits := by
  change visits.foldlM (expandNext env) NameMap.empty =
    visits.foldlM (expandNext env') NameMap.empty
  generalize NameMap.empty = s
  induction visits generalizing s with
  | nil => rfl
  | cons e visits ih =>
    have hstep : expandNext env s e = expandNext env' s e := by
      rw [expandNext, expandNext, expandOption_congr (h e List.mem_cons_self)]
    rw [List.foldlM_cons, List.foldlM_cons, hstep]
    refine bind_congr fun s' => ?_
    exact ih (fun e' he' => h e' (List.mem_cons_of_mem e he')) s'

theorem ofConfVisiting_congr {conf : Conf}
    (h : ∀ e ∈ visits, ∀ r, Meets e.2.toList r → AgreeOn env env' r.name) :
    ofConfVisiting env conf visits = ofConfVisiting env' conf visits := by
  rw [ofConfVisiting, ofConfVisiting, expandOptions_congr h]

end

/-- **Loading looks only at the variables that the options name.**  In environments that agree on
    these a text comes to the same configuration or fails in the same way, in whatever order the
    options are visited.  What a configuration has from the text alone is the same in any two
    environments in which it can be loaded. -/
theorem load_congr {env env' : Environment} {text : Bytes} :
    ((∀ name, IsNamed text name → AgreeOn env env' name) →
      load env text = load env' text ∧
        ∀ conf visits, Conf.parse text = .ok conf → visits.Perm conf.options.entries →
          ofConfVisiting env conf visits = ofConfVisiting env' conf visits) ∧
    ∀ config config', load env text = .ok config → load env' text = .ok config' →
      config.name = config'.name ∧ config.version = config'.version ∧
        config.backend = config'.backend ∧ config.basePath = config'.basePath := by
  constructor
  · intro h
    have hvisiting : ∀ conf visits, Conf.parse text = .ok conf →
        visits.Perm conf.options.entries →
          ofConfVisiting env conf visits = ofConfVisiting env' conf visits := by
      intro conf visits hparse hvisits
      apply ofConfVisiting_congr
      intro e he r hmeets
      have hvalue : conf.options.get? e.1 = some e.2 :=
        NameMap.get?_eq_some_iff.2 (hvisits.mem_iff.1 he)
      exact h r.name ⟨conf, e.1, e.2, r, hparse, hvalue, hmeets, rfl⟩
    refine ⟨?_, hvisiting⟩
    unfold load
    cases hparse : Conf.parse text with
    | error e => rfl
    | ok conf => exact hvisiting conf _ hparse (List.Perm.refl _)
  · intro config config' hload hload'
    obtain ⟨conf, hloads⟩ := load_eq_ok_iff.1 hload
    obtain ⟨conf', hloads'⟩ := load_eq_ok_iff.1 hload'
    obtain rfl : conf = conf' := Except.ok.inj (hloads.parsed.symm.trans hloads'.parsed)
    exact ⟨hloads.name.trans hloads'.name.symm, hloads.version.trans hloads'.version.symm,
      hloads.backend.trans hloads'.backend.symm, hloads.basePath.trans hloads'.basePath.symm⟩

/-- The value of the variable that is named looks like a reference to another, which does not
    count. -/
theorem load_congr_inserted :
    let text := utf8 ("\x7b\"storeBackend\":\"consul\",\"uri\":\"h\"," ++
      "\"storeConfig\":\x7b\"token\":\"$\x7bA\x7d\"\x7d\x7d")
    let env (b : String) : Environment := fun name =>
      if name = "A" then some (utf8 "$\x7bB\x7d") else if name = "B" then some (utf8 b) else none
    load (env "x") text = load (env "y") text ∧
      ∃ config, load (env "x") text = .ok config ∧ config.option? "token" = some "$\x7bB\x7d" := by
  intro text env
  have hnames : variableNames text = ["A"] := by decide +kernel
  have hagree : ∀ name, IsNamed text name → AgreeOn (env "x") (env "y") name := by
    intro name hnamed
    rw [← mem_variableNames_iff, hnames, List.mem_singleton] at hnamed
    subst hnamed
    exact fun _ => Iff.rfl
  exact ⟨(load_congr.1 hagree).1, exists_load_of_map (by decide +kernel)⟩

end Config

end NetDelegate
