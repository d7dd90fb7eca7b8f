import BraceLink.Proofs.Yaml.Layout
import BraceLink.Yaml.Document

/-!
# Reading nodes

Reading nodes goes on in the text, and fails only because the text is malformed or holds a number that cannot be read
(`ReadM.Tame`). So the same is true of reading a document (`document_safe`).
-/

namespace BraceLink.Yaml

namespace ReadM

variable {α : Type} {text : Text}

/-- The step stays in the text, or fails for a reason that stands there. -/
abbrev Tame (text : Text) (step : ReadM α) : Prop :=
  Preserves (fun s : Reading => s.layout.Within text) (fun error => error = .malformed ∨ Blocked text error) step

theorem malformed_tame : Tame text (throw .malformed : ReadM α) := .fail (Or.inl rfl)

theorem malformed_bind_tame {β : Type} {next : α → ReadM β} : Tame text (throw .malformed >>= next) :=
  .fail_bind (Or.inl rfl)

theorem peek?_tame : Tame text peek? := by
  intro s hs
  have hahead := hs.ahead (s.layout.cursor.rest.length + 2)
  have hrun : peek?.run s =
      (s.layout.ahead (s.layout.cursor.rest.length + 2)).map fun layout => (layout.queue.head?, { s with layout }) := by
    unfold peek?
    cases h : s.layout.ahead (s.layout.cursor.rest.length + 2) <;> simp [h, Except.map]
  rw [hrun]
  exact hahead.map fun _ hlayout => hlayout

theorem skip_tame : Tame text skip := .modify fun _ h => h

theorem accept_tame (token : Token) : Tame text (accept token) := by
  refine peek?_tame.bind fun next => .ite (fun _ => ?_) fun _ => .pure _
  exact skip_tame.bind fun _ => .pure _

theorem isNext_tame (ends : List Token) : Tame text (isNext ends) := peek?_tame.bind fun _ => .pure _

theorem tagText_tame (written : WrittenTag) : Tame text (tagText written) := by
  unfold tagText
  split
  · exact .pure _
  · refine .get_bind fun s _ => ?_
    split
    · exact .pure _
    · exact malformed_tame

theorem properties_tame : Tame text properties := by
  have htag : ∀ written (name : Option Text),
      Tame text (do return (name, some (← tagText written)) : ReadM (Option Text × Option Text)) :=
    fun written name => (tagText_tame written).bind fun _ => .pure _
  refine peek?_tame.bind fun first => ?_
  split
  · refine skip_tame.bind fun _ => peek?_tame.bind fun second => ?_
    split
    · exact skip_tame.bind fun _ => htag _ _
    · exact .pure _
  · refine skip_tame.bind fun _ => peek?_tame.bind fun second => ?_
    split
    · exact skip_tame.bind fun _ => htag _ _
    · exact htag _ _
  · exact .pure _

theorem checkNew_tame (anchor : Option Text) : Tame text (checkNew anchor) :=
  .get_bind fun _ _ => .ite (fun _ => malformed_tame) fun _ => .pure _

theorem noted_tame (name : Text) : Tame text (noted name) := by
  refine .get_bind fun s _ => ?_
  split
  · exact malformed_tame
  · exact .pure _

/-! ### Nodes -/

theorem add_tame (anchor : Option Text) (node : Node) : Tame text (add anchor node) :=
  .get_bind fun _ _ => .bind (.modify fun _ h => h) fun _ => .pure _

theorem addAround_tame (anchor : Option Text) (kind : Kind) {read : ReadM Content} (h : Tame text read) :
    Tame text (addAround anchor kind read) :=
  (add_tame _ _).bind fun _ => h.bind fun _ => .bind (.modify fun _ h => h) fun _ => .pure _

theorem addEmpty_tame (anchor tag : Option Text) : Tame text (addEmpty anchor tag) := by
  unfold addEmpty
  exact .ite (fun _ => malformed_bind_tame) fun _ => add_tame _ _

/-- All readers of nodes are tame with so much fuel. -/
structure NodesTame (text : Text) (fuel : Nat) : Prop where
  node : ∀ place, Tame text (node place fuel)
  blockItems : Tame text (blockItems fuel)
  bareItems : Tame text (bareItems fuel)
  blockEntries : Tame text (blockEntries fuel)
  blockPart : Tame text (blockPart fuel)
  flowItems : ∀ isFirst, Tame text (flowItems isFirst fuel)
  flowEntries : ∀ isFirst, Tame text (flowEntries isFirst fuel)
  flowEntry : ∀ ends, Tame text (flowEntry ends fuel)
  flowPart : ∀ ends, Tame text (flowPart ends fuel)

section

variable {fuel : Nat}

theorem NodesTame.node_succ (h : NodesTame text fuel) (place : Place) : Tame text (ReadM.node place (fuel + 1)) := by
  rw [ReadM.node]
  refine peek?_tame.bind fun first => ?_
  split
  · exact skip_tame.bind fun _ => noted_tame _
  · refine properties_tame.bind fun found => ?_
    obtain ⟨anchor, tag⟩ := found
    have hempty : Tame text (addEmpty anchor tag) := addEmpty_tame anchor tag
    refine peek?_tame.bind fun next => (checkNew_tame anchor).bind fun _ => ?_
    split
    · exact skip_tame.bind fun _ => add_tame _ _
    · exact skip_tame.bind fun _ => addAround_tame _ _ ((h.flowItems true).bind fun _ => .pure _)
    · exact skip_tame.bind fun _ => addAround_tame _ _ ((h.flowEntries true).bind fun _ => .pure _)
    · exact .ite (fun _ => addAround_tame _ _ (h.bareItems.bind fun _ => .pure _)) fun _ => hempty
    · refine .ite (fun _ => ?_) fun _ => hempty
      exact skip_tame.bind fun _ => addAround_tame _ _ (h.blockItems.bind fun _ => .pure _)
    · refine .ite (fun _ => ?_) fun _ => hempty
      exact skip_tame.bind fun _ => addAround_tame _ _ (h.blockEntries.bind fun _ => .pure _)
    · exact hempty

theorem NodesTame.blockItems_succ (h : NodesTame text fuel) : Tame text (ReadM.blockItems (fuel + 1)) := by
  rw [ReadM.blockItems]
  refine (accept_tame _).bind fun isItem => .ite (fun _ => ?_) fun _ => ?_
  · have hrest : ∀ item : Nat, Tame text (do return item :: (← ReadM.blockItems fuel)) := fun _ =>
      h.blockItems.bind fun _ => .pure _
    refine (isNext_tame _).bind fun isEmpty => ?_
    exact .ite (fun _ => (add_tame _ _).bind hrest) fun _ => (h.node _).bind hrest
  · exact (accept_tame _).bind fun _ => .ite (fun _ => .pure _) fun _ => malformed_tame

theorem NodesTame.bareItems_succ (h : NodesTame text fuel) : Tame text (ReadM.bareItems (fuel + 1)) := by
  rw [ReadM.bareItems]
  refine (accept_tame _).bind fun isItem => .ite (fun _ => ?_) fun _ => .pure _
  have hrest : ∀ item : Nat, Tame text (do return item :: (← ReadM.bareItems fuel)) := fun _ =>
    h.bareItems.bind fun _ => .pure _
  refine (isNext_tame _).bind fun isEmpty => ?_
  exact .ite (fun _ => (add_tame _ _).bind hrest) fun _ => (h.node _).bind hrest

theorem NodesTame.blockEntries_succ (h : NodesTame text fuel) : Tame text (ReadM.blockEntries (fuel + 1)) := by
  rw [ReadM.blockEntries]
  refine (accept_tame _).bind fun isKey => .ite (fun _ => ?_) fun _ => ?_
  · refine h.blockPart.bind fun key => (accept_tame _).bind fun hasValue => ?_
    have hrest : ∀ value : Nat, Tame text (do return (key, value) :: (← ReadM.blockEntries fuel)) := fun _ =>
      h.blockEntries.bind fun _ => .pure _
    exact .ite (fun _ => h.blockPart.bind hrest) fun _ => (add_tame _ _).bind hrest
  · exact (accept_tame _).bind fun _ => .ite (fun _ => .pure _) fun _ => malformed_tame

theorem NodesTame.blockPart_succ (h : NodesTame text fuel) : Tame text (ReadM.blockPart (fuel + 1)) := by
  rw [ReadM.blockPart]
  exact (isNext_tame _).bind fun _ => .ite (fun _ => add_tame _ _) fun _ => h.node _

theorem NodesTame.flowPart_succ (h : NodesTame text fuel) (ends : List Token) :
    Tame text (ReadM.flowPart ends (fuel + 1)) := by
  rw [ReadM.flowPart]
  exact (isNext_tame _).bind fun _ => .ite (fun _ => add_tame _ _) fun _ => h.node _

theorem NodesTame.flowEntry_succ (h : NodesTame text fuel) (ends : List Token) :
    Tame text (ReadM.flowEntry ends (fuel + 1)) := by
  rw [ReadM.flowEntry]
  refine (h.flowPart _).bind fun key => (accept_tame _).bind fun hasValue => ?_
  exact .ite (fun _ => (h.flowPart _).bind fun _ => .pure _) fun _ => (add_tame _ _).bind fun _ => .pure _

/-- What stands between two brackets goes on behind a comma, unless it is the first. -/
theorem behindComma_tame {rest : ReadM α} (isFirst : Bool) (h : Tame text rest) :
    Tame text (do
      if !isFirst then
        if !(← accept .comma) then throw .malformed
      rest) := by
  refine .ite (fun _ => ?_) fun _ => h
  exact (accept_tame _).bind fun _ => .ite (fun _ => malformed_bind_tame) fun _ => h

theorem NodesTame.flowItems_succ (h : NodesTame text fuel) (isFirst : Bool) :
    Tame text (ReadM.flowItems isFirst (fuel + 1)) := by
  have hrest : ∀ item : Nat, Tame text (do return item :: (← ReadM.flowItems false fuel)) := fun _ =>
    (h.flowItems false).bind fun _ => .pure _
  rw [ReadM.flowItems]
  refine (accept_tame _).bind fun _ => .ite (fun _ => .pure _) fun _ => behindComma_tame isFirst ?_
  refine (accept_tame _).bind fun isKey => .ite (fun _ => ?_) fun _ => ?_
  · exact (addAround_tame _ _ ((h.flowEntry _).bind fun _ => .pure _)).bind hrest
  · exact (accept_tame _).bind fun _ => .ite (fun _ => .pure _) fun _ => (h.node _).bind hrest

theorem NodesTame.flowEntries_succ (h : NodesTame text fuel) (isFirst : Bool) :
    Tame text (ReadM.flowEntries isFirst (fuel + 1)) := by
  have hrest : ∀ entry : Nat × Nat, Tame text (do return entry :: (← ReadM.flowEntries false fuel)) := fun _ =>
    (h.flowEntries false).bind fun _ => .pure _
  rw [ReadM.flowEntries]
  refine (accept_tame _).bind fun _ => .ite (fun _ => .pure _) fun _ => behindComma_tame isFirst ?_
  refine (accept_tame _).bind fun isKey => .ite (fun _ => ?_) fun _ => ?_
  · exact (h.flowEntry _).bind hrest
  · refine (accept_tame _).bind fun _ => .ite (fun _ => .pure _) fun _ => ?_
    exact (h.node _).bind fun key => (add_tame _ _).bind fun value => hrest (key, value)

end

theorem nodesTame (text : Text) (fuel : Nat) : NodesTame text fuel := by
  induction fuel with
  | zero =>
    refine ⟨fun place => ?_, ?_, ?_, ?_, ?_, fun isFirst => ?_, fun isFirst => ?_, fun ends => ?_, fun ends => ?_⟩
    · rw [node]
      exact malformed_tame
    · rw [blockItems]
      exact malformed_tame
    · rw [bareItems]
      exact malformed_tame
    · rw [blockEntries]
      exact malformed_tame
    · rw [blockPart]
      exact malformed_tame
    · rw [flowItems]
      exact malformed_tame
    · rw [flowEntries]
      exact malformed_tame
    · rw [flowEntry]
      exact malformed_tame
    · rw [flowPart]
      exact malformed_tame
  | succ fuel ih =>
    exact ⟨ih.node_succ, ih.blockItems_succ, ih.bareItems_succ, ih.blockEntries_succ, ih.blockPart_succ,
      ih.flowItems_succ, ih.flowEntries_succ, ih.flowEntry_succ, ih.flowPart_succ⟩

/-! ### Documents -/

theorem directives_tame (version : Bool) (fuel : Nat) : Tame text (directives version fuel) := by
  induction fuel generalizing version with
  | zero => exact malformed_tame
  | succ fuel ih =>
    rw [directives]
    refine peek?_tame.bind fun next => ?_
    split
    · refine skip_tame.bind fun _ => ?_
      split
      · exact .ite (fun _ => malformed_bind_tame) fun _ => ih true
      · refine .get_bind fun s _ => .ite (fun _ => malformed_bind_tame) fun _ => ?_
        exact .bind (.modify fun _ h => h) fun _ => ih version
      · exact ih version
    · exact .modify fun _ h => h

theorem skipEnds_tame (fuel : Nat) : Tame text (skipEnds fuel) := by
  induction fuel with
  | zero => exact malformed_tame
  | succ fuel ih =>
    rw [skipEnds]
    exact (accept_tame _).bind fun _ => .ite (fun _ => ih) fun _ => .pure _

theorem finish_tame (fuel : Nat) : Tame text (finish fuel) := by
  refine (skipEnds_tame fuel).bind fun _ => peek?_tame.bind fun next => .ite (fun _ => ?_) fun _ => .pure _
  exact .bind (.modify fun _ h => h) fun _ => (directives_tame false fuel).bind fun _ => malformed_tame

theorem root_tame (fuel : Nat) : Tame text (root fuel) := by
  refine peek?_tame.bind fun next => ?_
  split
  case h_5 => exact (nodesTame text fuel).node _
  all_goals exact add_tame _ _

theorem document_tame (fuel : Nat) : Tame text (document fuel) := by
  have hend : ∀ number : Nat, Tame text (do
      finish fuel
      return some number) := fun number => (finish_tame fuel).bind fun _ => .pure _
  unfold document
  refine peek?_tame.bind fun first => ?_
  split
  · exact .pure _
  -- A document that is opened, by directives or by the mark of its start alone.
  case h_2 | h_3 =>
    refine (directives_tame _ _).bind fun _ => (accept_tame _).bind fun found => ?_
    exact .ite (fun _ => malformed_bind_tame) fun _ => (root_tame fuel).bind hend
  · exact .bind (.modify fun _ h => h) fun _ => ((nodesTame text fuel).node _).bind hend

end ReadM

/-- A text that is no document is malformed, or a number that is written in it is too large. -/
theorem document_safe (text : Text) : Safe text (fun _ => True) (document text) := by
  unfold document
  refine .ite (fun _ => ?_) fun _ => malformed_safe
  have htame : ReadM.Tame text (ReadM.document (8 * text.length + 8)) := ReadM.document_tame _
  exact (htame { layout := .start text } (Layout.start_within text)).bind fun _ _ => trivial

end BraceLink.Yaml
