import BraceLink.Proofs.Yaml.Document
import BraceLink.Proofs.Yaml.Node
import BraceLink.Yaml.Build

/-!
# Building values

The nodes change while values are made of them, but nothing can be read that could not be read before
(`BuildM.Tame`). So an error of building is that of a malformed document or that of a node of the document which has no
value (`Graph.Flaw`), and a text has a value, is malformed, or holds a number or a node that cannot be read
(`value_error`).
-/

namespace BraceLink.Yaml

/-- Something in a document that has no value. -/
inductive Graph.Flaw (g : Graph) : Error → Prop
  /-- The text that stands for a node has no value of its kind. -/
  | scalar {n : Nat} {text : Text} {error : Error} (hstands : g.Stands text n)
    (hread : readScalar (g.kind n) text = .error error) (hkind : KindFails (g.kind n) error) : Flaw g error
  /-- A text stands for a mapping that is to be read as a moment. -/
  | entryMoment {n : Nat} {text : Text} (hstands : g.Stands text n) (hmapping : g.IsMapping n)
    (hkind : g.kind n = .moment) : Flaw g .entryMoment
  /-- The default entries of mappings lead from a node back to it. -/
  | endless {n : Nat} (hcircle : Relation.TransGen g.LeadsTo n n) : Flaw g .endless

variable {g g' : Graph}

theorem Graph.Flaw.ne_malformed {error : Error} (h : g.Flaw error) : error ≠ .malformed := by
  cases h with
  | scalar _ _ hkind => exact hkind.ne_malformed
  | entryMoment => exact Error.noConfusion
  | endless => exact Error.noConfusion

theorem Graph.Comes.flaw {error : Error} (h : Comes g g') (hflaw : g'.Flaw error) : g.Flaw error := by
  cases hflaw with
  | @scalar n text error hstands hread hkind =>
    rcases h.kind n with hsame | ⟨-, htext⟩
    · rw [hsame] at hread hkind
      exact .scalar (h.stands hstands) hread hkind
    · rw [htext] at hkind
      cases hkind
  | @entryMoment n text hstands hmapping hkind =>
    rcases h.kind n with hsame | ⟨-, htext⟩
    · exact .entryMoment (h.stands hstands) ((h.isMapping n).mp hmapping) (hsame ▸ hkind)
    · rw [htext] at hkind
      cases hkind
  | endless hcircle => exact .endless (Relation.TransGen.mono (fun _ _ => h.leadsTo) _ _ hcircle)

abbrev Graph.Explains (g : Graph) (error : Error) : Prop := error = .malformed ∨ g.Flaw error

theorem Graph.single_outcome (g : Graph) (n : Nat) : Outcome (fun _ => True) g.Explains (g.single n) := by
  have htext : Outcome (g.Stands · n) g.Explains (g.text (g.nodes.length + 1) n) := by
    refine (g.text_outcome _ n).imp_error ?_
    rintro error (hmalformed | ⟨rfl, path, hlength, hpath⟩)
    · exact Or.inl hmalformed
    · obtain ⟨m, hcircle⟩ := exists_circle hpath (by rw [hlength]; omega)
      exact Or.inr (.endless hcircle)
  have hread : ∀ text, g.Stands text n → Outcome (fun _ => True) g.Explains (readScalar (g.kind n) text) := by
    refine fun text hstands => .intro (fun _ _ => trivial) fun error herror => ?_
    have hfails := readScalar_fails (g.kind n) text
    rw [herror] at hfails
    exact hfails.imp_right (.scalar hstands herror)
  unfold Graph.single
  refine .ite (fun _ => Or.inl rfl) fun _ => htext.bind fun text hstands => ?_
  split
  · next hkind hcontent => exact Or.inr (.entryMoment hstands ⟨_, hcontent⟩ hkind)
  · exact hread text hstands

namespace BuildM

variable {α : Type}

/-- The step goes on with nodes that come from those of the document, and its errors are explained by these. -/
abbrev Tame (g : Graph) (step : BuildM α) : Prop := Preserves (fun s : Building => g.Comes s.graph) g.Explains step

theorem make_tame (n : Nat) : Tame g (make n) := by
  refine .get_bind fun s hs => ?_
  split
  · exact .pure _
  · refine .ite (fun _ => ?_) fun _ => ?_
    · exact .bind (.set hs) fun _ => .pure _
    · have hsingle := (s.graph.single_outcome n).imp_error fun error => Or.imp_right hs.flaw
      exact .lift_bind hsingle fun _ _ => .bind (.set hs) fun _ => .pure _

theorem makeEntry_tame (entry : Nat × Nat) : Tame g (makeEntry entry) := by
  refine (make_tame entry.1).bind fun made => ?_
  split
  · exact (make_tame entry.2).bind fun _ => .pure _
  · exact .fail (Or.inl rfl)

theorem makePair_tame (n : Nat) : Tame g (makePair n) := by
  refine .get_bind fun s _ => ?_
  split
  · exact (make_tame _).bind fun _ => (make_tame _).bind fun _ => .pure _
  · exact .fail (Or.inl rfl)

theorem entries_tame (n : Nat) : Tame g (collect.entries n) := by
  refine .get_bind fun s hs => ?_
  have hflat := (Graph.flatten_comes (s.graph.size + 1) s.graph n).imp_error fun error hmalformed =>
    (Or.inl hmalformed : g.Explains error)
  refine .lift_bind hflat fun graph hgraph => .bind (.set (hs.trans hgraph.1)) fun _ => ?_
  exact .mapM makeEntry_tame _

theorem collect_tame (n : Nat) : Tame g (collect n) := by
  refine .get_bind fun s _ => ?_
  dsimp only
  split
  · exact (Preserves.mapM make_tame _).bind fun _ => .pure _
  · exact (Preserves.mapM makePair_tame _).bind fun _ => .pure _
  · exact (entries_tame n).bind fun _ => .pure _
  · exact (entries_tame n).bind fun _ => .pure _
  · exact .fail (Or.inl rfl)

theorem fill_tame (n : Nat) : Tame g (fill n) := (collect_tame n).bind fun _ => .modify fun _ hs => hs

theorem fillAll_tame (fuel : Nat) : Tame g (fillAll fuel) := by
  induction fuel with
  | zero => exact .pure _
  | succ fuel ih =>
    refine .get_bind fun s _ => ?_
    split
    · exact .pure _
    · exact .bind (.modify fun _ hs => hs) fun _ => (fill_tame _).bind fun _ => ih

end BuildM

theorem Document.value_outcome (d : Document) : Outcome (fun _ => True) d.graph.Explains d.value := by
  have hbuild : BuildM.Tame d.graph (do let _ ← BuildM.make d.root; BuildM.fillAll (d.graph.nodes.length + 1)) :=
    (BuildM.make_tame d.root).bind fun _ => BuildM.fillAll_tame _
  exact (hbuild { graph := d.graph } (.refl d.graph)).bind fun _ _ => trivial

/-- **A text without a value** is malformed, or it holds a number that is too large, or a node that has no value. -/
theorem value_error {text : Text} {error : Error} (h : value text = .error error) :
    error = .malformed ∨ Blocked text error ∨ ∃ d, document text = .ok (some d) ∧ d.graph.Flaw error := by
  have hdocument := document_safe text
  unfold value at h
  cases hread : document text with
  | error found =>
    rw [hread] at h hdocument
    cases h
    exact hdocument.imp_right Or.inl
  | ok found =>
    rw [hread] at h
    cases found with
    | none => cases h
    | some d => exact (d.value_outcome.of_error h).imp_right fun hflaw => Or.inr ⟨d, rfl, hflaw⟩

end BraceLink.Yaml
