/-
  NetDelegate/Proofs/Store/Etcd.lean
  ==================================
  **Answers of etcd that give a value.**  `IsAnswer v` are the texts that say that the node of a key
  has the value `v`, in any layout and with any further members.  They are read as that value,
  (`parseNode_of_isAnswer`), so the bytes of the value are what is got (`classify_of_isAnswer`).
-/
import NetDelegate.Proofs.Json.Printing
import NetDelegate.Proofs.Json.Record
import NetDelegate.Store.Etcd

namespace NetDelegate.Etcd

open Json (Mark Outline Record textOf?)

/-- Has the member this name? -/
def isNamed (name : String) (entry : List Mark × Outline .value) : Bool :=
  textOf? entry.1 = some name

/-- The members say that the node has the value `v` and is no directory. -/
structure IsNode (v : String) (members : Outline .members) : Prop where
  named : ∀ entry ∈ members.entries, (textOf? entry.1).isSome
  value : ∃ name marks, members.entries.filter (isNamed "value") = [(name, .string marks)] ∧
    textOf? marks = some v
  dir : members.entries.filter (isNamed "dir") = [] ∨
    ∃ name, members.entries.filter (isNamed "dir") = [(name, .bool false)]

/-- The text says that the node of the key has the value `v`.  There may be further members, in
    any order. -/
def IsAnswer (v : String) (text : Bytes) : Prop :=
  ∃ (before after : Json.Blanks) (members node : Outline .members) (name : List Mark),
    text = before.1 ++ ((Outline.object members).text ++ after.1) ∧
    (∀ entry ∈ members.entries, (textOf? entry.1).isSome) ∧
    members.entries.filter (isNamed "node") = [(name, .object node)] ∧ IsNode v node

/-- Every text is the value of an answer. -/
theorem isAnswer_bytes (v : String) :
    IsAnswer v (Json.bytes (.object [("node", .object [("value", .string v)])])) := by
  obtain ⟨nodeMarks, hnode, hnodeText⟩ := Json.exists_marks_quoted "node"
  obtain ⟨valueMarks, hvalue, hvalueText⟩ := Json.exists_marks_quoted "value"
  obtain ⟨marks, hmarks, hmarksText⟩ := Json.exists_marks_quoted v
  have hstring : (Json.string v).bytes = (Outline.string marks).text := by
    rw [Json.bytes, Json.print]
    exact hmarks
  have hbytes := Json.bytes_object_singleton hnode (Json.bytes_object_singleton hvalue hstring)
  let node := Outline.lone valueMarks (.string marks)
  refine ⟨Json.noBlanks, Json.noBlanks, .lone nodeMarks (.object node), node, nodeMarks, ?_, ?_, ?_,
    ?_, ⟨valueMarks, marks, ?_, hmarksText⟩, .inl ?_⟩
  · rw [hbytes]
    exact (List.append_nil _).symm
  · simp [Outline.lone, Outline.entries, hnodeText]
  · simp [Outline.lone, Outline.entries, isNamed, hnodeText]
  · simp [node, Outline.lone, Outline.entries, hvalueText]
  · simp [node, Outline.lone, Outline.entries, isNamed, hvalueText]
  · simp [node, Outline.lone, Outline.entries, isNamed, hvalueText]

section
variable {name : String} {entry : List Mark × Outline .value}
  (entries : List (List Mark × Outline .value)) (hname : textOf? entry.1 = some name)
include hname

theorem filter_isNamed_of_eq :
    (entry :: entries).filter (isNamed name) = entry :: entries.filter (isNamed name) := by
  apply List.filter_cons_of_pos
  rw [isNamed, hname]
  exact decide_eq_true rfl

theorem filter_isNamed_of_ne {other : String} (hne : name ≠ other) :
    (entry :: entries).filter (isNamed other) = entries.filter (isNamed other) := by
  apply List.filter_cons_of_neg
  rw [isNamed, hname]
  simp [hne]

end

/-! ### The members of a node -/

/-- The node of a draft. -/
def NodeDraft.node (d : NodeDraft) : Node := ⟨d.value.join, d.isDirectory.getD false⟩

/-- What a field of a node comes to, if it is a string or a truth value. -/
def nodeField? (f : Json.Field NodeDraft) (d : NodeDraft) : Outline .value → Option NodeDraft
  | .string marks =>
    if f.name = "value" then (textOf? marks).map fun s => { d with value := some (some s) }
    else none
  | .bool b => if f.name = "dir" then some { d with isDirectory := some b } else none
  | _ => none

theorem nodeRecord_field? (name : String) (hvalue : name ≠ "value") (hdir : name ≠ "dir") :
    nodeRecord.field? name = none := by
  simp [Record.field?, nodeRecord, Record.field, hvalue.symm, hdir.symm]

section
variable {v : String} {x : Option (Option String)} {y : Option Bool}

theorem take?_value {entryName marks : List Mark} (hname : textOf? entryName = some "value")
    (hmarks : textOf? marks = some v) :
    nodeRecord.take? nodeField? ⟨none, y⟩ (entryName, .string marks) = some ⟨some (some v), y⟩ := by
  rw [Record.take?, hname]
  change (textOf? marks).map _ = _
  rw [hmarks]
  rfl

theorem take?_dir {entryName : List Mark} (hname : textOf? entryName = some "dir") (b : Bool) :
    nodeRecord.take? nodeField? ⟨x, none⟩ (entryName, .bool b) = some ⟨x, some b⟩ := by
  rw [Record.take?, hname]
  rfl

theorem take?_other {name : String} {entry : List Mark × Outline .value}
    (hname : textOf? entry.1 = some name) (hvalue : name ≠ "value") (hdir : name ≠ "dir") :
    nodeRecord.take? nodeField? ⟨x, y⟩ entry = some ⟨x, y⟩ := by
  rw [Record.take?, hname]
  simp only [Option.bind_some, nodeRecord_field? name hvalue hdir]

/-- Taking the members of a node, from a state in which the value has been read or is to come. -/
theorem absorb_node {entries : List (List Mark × Outline .value)}
    (hnamed : ∀ entry ∈ entries, (textOf? entry.1).isSome)
    (hvalue : (x = some (some v) ∧ entries.filter (isNamed "value") = []) ∨
      (x = none ∧ ∃ name marks, entries.filter (isNamed "value") = [(name, .string marks)] ∧
        textOf? marks = some v))
    (hdir : entries.filter (isNamed "dir") = [] ∨
      (y = none ∧ ∃ name, entries.filter (isNamed "dir") = [(name, .bool false)]))
    (hy : y.getD false = false) :
    ∃ y', entries.foldlM (nodeRecord.take? nodeField?) ⟨x, y⟩ = some ⟨some (some v), y'⟩ ∧
      y'.getD false = false := by
  induction entries generalizing x y with
  | nil =>
    rcases hvalue with ⟨rfl, -⟩ | ⟨-, name, marks, hnone, -⟩
    · exact ⟨y, rfl, hy⟩
    · cases hnone
  | cons entry entries ih =>
    obtain ⟨hentry, hrestNamed⟩ := List.forall_mem_cons.1 hnamed
    obtain ⟨name, hname⟩ := Option.isSome_iff_exists.1 hentry
    rw [List.foldlM_cons]
    -- the member is the value, the mark of a directory, or neither
    by_cases hisValue : name = "value"
    · subst hisValue
      rw [filter_isNamed_of_eq entries hname] at hvalue
      rw [filter_isNamed_of_ne entries hname (by decide)] at hdir
      rcases hvalue with ⟨-, hnone⟩ | ⟨rfl, other, marks, hone, hmarks⟩
      · cases hnone
      · obtain ⟨rfl, hrest⟩ := List.cons.inj hone
        rw [take?_value hname hmarks]
        exact ih hrestNamed (.inl ⟨rfl, hrest⟩) hdir hy
    by_cases hisDir : name = "dir"
    · subst hisDir
      rw [filter_isNamed_of_ne entries hname (by decide)] at hvalue
      rw [filter_isNamed_of_eq entries hname] at hdir
      rcases hdir with hnone | ⟨rfl, other, hone⟩
      · cases hnone
      · obtain ⟨rfl, hrest⟩ := List.cons.inj hone
        rw [take?_dir hname]
        exact ih hrestNamed hvalue (.inl hrest) rfl
    · rw [filter_isNamed_of_ne entries hname hisValue] at hvalue
      rw [filter_isNamed_of_ne entries hname hisDir] at hdir
      rw [take?_other hname hisValue hisDir]
      exact ih hrestNamed hvalue hdir hy

end

theorem eq_of_filter_isNamed {entries : List (List Mark × Outline .value)} {name : String}
    {entry only : List Mark × Outline .value} (hentry : entry ∈ entries)
    (hname : textOf? entry.1 = some name) (honly : entries.filter (isNamed name) = [only]) :
    entry = only := by
  rw [← List.mem_singleton, ← honly, List.mem_filter]
  exact ⟨hentry, decide_eq_true hname⟩

section
variable {v : String} {node : Outline .members}

/-- The members of a node that are fields are read as they are taken. -/
theorem IsNode.readsEntry (h : IsNode v node) (depth : Nat) :
    ∀ entry ∈ node.entries, nodeRecord.ReadsEntry depth nodeField? entry := by
  intro entry hentry name f hname hf d
  by_cases hisValue : name = "value"
  · rw [hisValue] at hname hf
    cases hf
    obtain ⟨other, marks, honly, -⟩ := h.value
    rw [eq_of_filter_isNamed hentry hname honly]
    have hread : (Outline.string marks).IsReadBy
        ((Record.field "value" false NodeDraft.value (fun d v => { d with value := some v })
          fun _ => Json.readString?).read depth d)
        (((textOf? marks).map some).map fun v => { d with value := some v }) := by
      apply Record.isReadBy_field
      exact Json.readString?_text marks
    rw [Option.map_map] at hread
    exact hread
  · by_cases hisDir : name = "dir"
    · rw [hisDir] at hname hf
      cases hf
      rcases h.dir with hnone | ⟨other, honly⟩
      · have hmem : entry ∈ node.entries.filter (isNamed "dir") :=
          List.mem_filter.2 ⟨hentry, decide_eq_true hname⟩
        rw [hnone] at hmem
        cases hmem
      · rw [eq_of_filter_isNamed hentry hname honly]
        have hread : (Outline.bool false).IsReadBy
            ((Record.field "dir" false NodeDraft.isDirectory
              (fun d v => { d with isDirectory := some v }) fun _ => Json.readBool).read depth d)
            ((some false).map fun v => { d with isDirectory := some v }) := by
          apply Record.isReadBy_field
          exact Json.readBool_text false
        exact hread
    · rw [nodeRecord_field? name hisValue hisDir] at hf
      cases hf

theorem IsNode.isReadBy (h : IsNode v node) (depth : Nat) :
    (Outline.object node).IsReadBy (readNode (depth + 1)) (some ⟨some v, false⟩) := by
  obtain ⟨dir, hstate, hdir⟩ := absorb_node h.named (.inr ⟨rfl, h.value⟩) (h.dir.imp_right
    fun hone => ⟨rfl, hone⟩) rfl
  intro before rest hrest
  have hread := Record.isReadBy_read node (h.readsEntry depth) before hrest
  rw [Record.absorb?, show nodeRecord.initial = ⟨none, none⟩ from rfl, hstate] at hread
  change (nodeRecord.read (depth + 1) _ >>= fun p => .ok (p.1.node, p.2)).toOption = _
  rw [Outline.toOption_bind_ok NodeDraft.node, hread]
  change some (Node.mk (some v) (dir.getD false), rest) = _
  rw [hdir]
  rfl

/-! ### The members of an answer -/

/-- What the field of an answer comes to, if it says that the node has the value `v`. -/
def answerField? (v : String) (_ : Json.Field (Option Node)) (_ : Option Node)
    (_ : Outline .value) : Option (Option Node) := some (some ⟨some v, false⟩)

theorem answerRecord_field? (name : String) (hnode : name ≠ "node") :
    answerRecord.field? name = none := by
  simp [Record.field?, answerRecord, Record.field, hnode.symm]

theorem absorb_answer {entries : List (List Mark × Outline .value)} {x : Option Node}
    (hnamed : ∀ entry ∈ entries, (textOf? entry.1).isSome)
    (hnode : (x = some ⟨some v, false⟩ ∧ entries.filter (isNamed "node") = []) ∨
      (x = none ∧ ∃ only, entries.filter (isNamed "node") = [only])) :
    entries.foldlM (answerRecord.take? (answerField? v)) x = some (some ⟨some v, false⟩) := by
  induction entries generalizing x with
  | nil =>
    rcases hnode with ⟨rfl, -⟩ | ⟨-, only, hnone⟩
    · rfl
    · cases hnone
  | cons entry entries ih =>
    obtain ⟨hentry, hrestNamed⟩ := List.forall_mem_cons.1 hnamed
    obtain ⟨name, hname⟩ := Option.isSome_iff_exists.1 hentry
    rw [List.foldlM_cons]
    by_cases hisNode : name = "node"
    · rw [hisNode] at hname
      rw [filter_isNamed_of_eq entries hname] at hnode
      rcases hnode with ⟨-, hnone⟩ | ⟨rfl, only, hone⟩
      · cases hnone
      · obtain ⟨-, hrest⟩ := List.cons.inj hone
        have htake : answerRecord.take? (answerField? v) none entry =
            some (some ⟨some v, false⟩) := by
          rw [Record.take?, hname]
          rfl
        rw [htake]
        exact ih hrestNamed (.inl ⟨rfl, hrest⟩)
    · have hother : answerRecord.take? (answerField? v) x entry = some x := by
        rw [Record.take?, hname]
        simp only [Option.bind_some, answerRecord_field? name hisNode]
      rw [filter_isNamed_of_ne entries hname hisNode] at hnode
      rw [hother]
      exact ih hrestNamed hnode

/-- **Such an answer is read as the value.** -/
theorem parseNode_of_isAnswer {text : Bytes} (h : IsAnswer v text) :
    parseNode text = .ok ⟨some v, false⟩ := by
  obtain ⟨before, after, members, node, only, rfl, hnamed, honly, hnode⟩ := h
  have hentries : ∀ entry ∈ members.entries, answerRecord.ReadsEntry 126 (answerField? v) entry := by
    intro entry hentry name f hname hf s
    by_cases hisNode : name = "node"
    · rw [hisNode] at hname hf
      cases hf
      rw [eq_of_filter_isNamed hentry hname honly]
      have hread : (Outline.object node).IsReadBy
          ((Record.field "node" true id (fun _ n => some n) readNode).read 126 s)
          ((some (Node.mk (some v) false)).map some) := by
        apply Record.isReadBy_field
        exact hnode.isReadBy 125
      exact hread
    · rw [answerRecord_field? name hisNode] at hf
      cases hf
  have hstate := absorb_answer (v := v) hnamed (.inr ⟨rfl, _, honly⟩)
  have hparse := Record.toOption_parse (rfl : Json.maxDepth = 126 + 1) before members after hentries
  rw [Record.absorb?, show answerRecord.initial = none from rfl, hstate] at hparse
  have hfinish : answerRecord.finish? (some (Node.mk (some v) false)) =
      some (some ⟨some v, false⟩) := rfl
  rw [Option.bind_some, hfinish, Json.toOption_eq_some_iff] at hparse
  rw [parseNode, hparse]
  rfl

/-- What is got from such an answer are the bytes of the value. -/
theorem classify_of_isAnswer {text : Bytes} (h : IsAnswer v text) (key : String) :
    classify key 200 text = .ok (utf8 v) := by
  unfold classify
  rw [if_neg (by decide), if_neg (by decide), parseNode_of_isAnswer h]
  rfl

end

end NetDelegate.Etcd
