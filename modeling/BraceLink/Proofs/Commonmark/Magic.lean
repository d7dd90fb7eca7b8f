import BraceLink.Commonmark.Inline.Magic
import BraceLink.Proofs.Html.Escape
import BraceLink.Proofs.Resolver.Chain
import BraceLink.Proofs.Token.Grammar

/-!
# The rule for brace tokens

Both modes of the rule ask the same two questions: is there a token at the position, and which draft do
the handlers make of its payload (`Resolver.draftAt`). `magic_on` says all that a step can do in terms of
the answer: fail and leave the state alone, decline and leave the state alone, or move behind the token,
with the pieces of the record in front of it unless the mode is silent. `magic_modes_agree` follows.

One of the pieces is HTML as it stands, the image of the record; `imageSpan_reads` says that it is well formed and that
the address of the image can be read back from it.
-/

namespace BraceLink

/-- The token at an offset of a text with the draft for its payload. -/
def Resolver.draftAt (resolver : Resolver) (source : Text) (pos : Nat) :
    Except Fault (Option (Token × Draft)) :=
  match Token.at? source pos with
  | .error _ | .ok none => .ok none
  | .ok (some token) =>
    (resolver.parse token.payload).map fun draft => draft.map fun draft => (token, draft)

theorem Resolver.at?_of_draftAt {resolver : Resolver} {source : Text} {pos : Nat} {token : Token}
    {draft : Draft} (h : resolver.draftAt source pos = .ok (some (token, draft))) :
    Token.at? source pos = .ok (some token) ∧ resolver.parse token.payload = .ok (some draft) := by
  unfold draftAt at h
  split at h
  · simp at h
  · simp at h
  · rename_i found hat
    cases hparse : resolver.parse found.payload with
    | error fault => simp [hparse, Except.map] at h
    | ok answer =>
      obtain ⟨d, rfl, hd⟩ : ∃ d, answer = some d ∧ (found, d) = (token, draft) := by
        simpa [hparse, Except.map] using h
      obtain ⟨rfl, rfl⟩ := Prod.mk.inj hd
      exact ⟨hat, hparse⟩

theorem Resolver.draftAt_of_neverFails {resolver : Resolver}
    (hfree : ∀ handler ∈ resolver.handlers, handler.NeverFails) (source : Text) (pos : Nat) :
    ∃ answer, resolver.draftAt source pos = .ok answer := by
  unfold draftAt
  rcases Token.at? source pos with _ | _ | token
  · exact ⟨_, rfl⟩
  · exact ⟨_, rfl⟩
  · obtain ⟨draft, hdraft⟩ := parse_ok hfree token.payload
    exact ⟨draft.map fun draft => (token, draft), by simp [hdraft, Except.map]⟩

namespace Commonmark

/-! ### Steps -/

namespace Action

variable {α β : Type} (s : State)

@[simp] theorem on_pure (value : α) : (pure value : Action α).on s = (.ok value, s) := rfl

@[simp] theorem on_get : (get : Action State).on s = (.ok s, s) := rfl

@[simp] theorem on_modify (f : State → State) :
    (modify f : Action PUnit).on s = (.ok ⟨⟩, f s) := rfl

@[simp] theorem on_ofExcept (value : Except Fault α) :
    (MonadExcept.ofExcept value : Action α).on s = (value, s) := by
  cases value with
  | error fault => rfl
  | ok value => rfl

@[simp] theorem on_bind (first : Action α) (next : α → Action β) :
    (first >>= next).on s =
      match first.on s with
      | (.ok value, after) => (next value).on after
      | (.error fault, after) => (.error fault, after) := by
  simp only [on, ExceptT.run_bind, StateT.run_bind]
  rcases first.run.run s with ⟨_ | value, after⟩ <;> rfl

@[simp] theorem on_map (f : α → β) (action : Action α) :
    (f <$> action).on s =
      match action.on s with
      | (.ok value, after) => (.ok (f value), after)
      | (.error fault, after) => (.error fault, after) := by
  rw [← bind_pure_comp, on_bind]
  rfl

end Action

/-! ### The image of a record -/

theorem imageSpan_eq (record : Record) :
    imageSpan record =
      ("<span class=\"markdown-magic-link-image\" style=\"background-image: url('" : String).toList ++
        Html.escape record.image ++ ("');\"></span>" : String).toList := by
  have hbefore : "<span class=\"" ++ Link.imageClass ++ "\" style=\"" ++ "background-image: url('" =
      ("<span class=\"markdown-magic-link-image\" style=\"background-image: url('" : String).toList := by decide
  have hbehind : ("');" : String).toList ++ ("\"></span>" : String).toList =
      ("');\"></span>" : String).toList := by decide
  have hpieces : imageSpan record =
      ("<span class=\"" ++ Link.imageClass ++ "\" style=\"" ++ "background-image: url('") ++
        Html.escape record.image ++ (("');" : String).toList ++ ("\"></span>" : String).toList) := by
    unfold imageSpan Link.backgroundStyle
    simp only [List.append_assoc]
  -- `rw` would compare the texts byte by byte
  exact hpieces.trans
    (congrArg₂ (fun before behind => before ++ Html.escape record.image ++ behind) hbefore hbehind)

/-- **The image of a record as HTML.** It is a fixed element around a text that may stand in an attribute and that
reads as the address of the image, and no other such text reads so. Hence two records have the same element exactly if
they have the same image. -/
theorem imageSpan_reads (record other : Record) :
    (∃ shown,
      imageSpan record =
        ("<span class=\"markdown-magic-link-image\" style=\"background-image: url('" : String).toList ++ shown ++
          ("');\"></span>" : String).toList ∧
      Html.IsEscaped shown ∧ Html.unescape shown = record.image ∧
      ∀ text, Html.IsEscaped text ∧ Html.unescape text = record.image → text = shown) ∧
    (imageSpan record = imageSpan other ↔ record.image = other.image) := by
  constructor
  · refine ⟨Html.escape record.image, imageSpan_eq record, Html.isEscaped_escape _, Html.unescape_escape _, ?_⟩
    rintro text ⟨hescaped, hread⟩
    rw [← hread, Html.isEscaped_iff.mp hescaped]
  · constructor
    · intro h
      rw [imageSpan_eq, imageSpan_eq, List.append_left_inj, List.append_right_inj] at h
      exact Html.escape_injective h
    · intro h
      rw [imageSpan_eq, imageSpan_eq, h]

/-! ### The pieces of a record -/

/-- The pieces of a record inside as many open elements as `level` says. -/
def recordPieces (record : Record) (level : Nat) : List Piece :=
  [⟨.linkOpen [("href", record.link), ("class", record.className)] true, level⟩,
    ⟨.html (imageSpan record), level + 1⟩, ⟨.text record.text, level + 1⟩, ⟨.linkClose true, level⟩]

theorem State.flush_eq (s : State) :
    s.flush = { s with pending := [], pieces := s.flush.pieces } := by
  unfold flush
  split_ifs with hempty
  · have hnil : s.pending = [] := by simpa using hempty
    rw [← hnil]
  · rfl

theorem State.push_eq (s : State) (node : Node) :
    s.push node = { s with pending := [], pieces := s.flush.pieces ++ [⟨node, s.level⟩] } := by
  rw [push, flush_eq]

theorem State.pushOpen_eq (s : State) (node : Node) :
    s.pushOpen node =
      { s with
        pending := []
        pieces := s.flush.pieces ++ [⟨node, s.level⟩]
        level := s.level + 1
        outer := s.delimiters :: s.outer
        delimiters := [] } := by
  rw [pushOpen, push_eq]

theorem State.pushClose_eq (s : State) (node : Node) :
    s.pushClose node =
      { s with
        pending := []
        pieces := s.flush.pieces ++ [⟨node, s.level - 1⟩]
        level := s.level - 1
        closed := s.closed ++ [s.delimiters]
        delimiters := s.outer.headD []
        outer := s.outer.tail } := by
  rw [pushClose, flush_eq]

theorem State.pushRecord_eq (s : State) (record : Record) :
    s.pushRecord record =
      { s with
        pending := []
        pieces := s.flush.pieces ++ recordPieces record s.level
        closed := s.closed ++ [[]] } := by
  rw [pushRecord, pushClose_eq, push_eq, push_eq, pushOpen_eq]
  simp [flush, recordPieces]

/-! ### Both modes -/

variable (resolver : Resolver) (silent : Bool) (s : State)

def State.behind (token : Token) (draft : Draft) : State :=
  (if silent then s else s.pushRecord (resolver.complete draft)).moveTo token.stop.toNat

/-- **All that a step of the rule can do.** -/
theorem State.magic_on :
    (State.magic resolver silent).on s =
      match resolver.draftAt s.src s.pos with
      | .error fault => (.error fault, s)
      | .ok none => (.ok false, s)
      | .ok (some (token, draft)) => (.ok true, State.behind resolver silent s token draft) := by
  have hstop : ∀ token, Token.at? s.src s.pos = .ok (some token) →
      s.pos + token.length.toNat = token.stop.toNat := by
    intro token hat
    obtain ⟨payload, -, rfl⟩ := Token.at?_eq_some_iff.mp hat
    simp only [Token.length, Token.standing]
    omega
  rw [State.magic, Resolver.draftAt, Action.on_bind, Action.on_get]
  dsimp only
  cases hat : Token.at? s.src s.pos with
  | error => rfl
  | ok found =>
    cases found with
    | none => rfl
    | some token =>
      simp only [Resolver.resolve]
      cases resolver.parse token.payload with
      | error fault => cases silent <;> simp [Except.map]
      | ok answer =>
        cases answer with
        | none => cases silent <;> simp [Except.map]
        | some draft =>
          cases silent <;> simp [Except.map, hstop token hat, State.behind, State.pushRecord_eq]

/-- **Both modes agree**: they match, decline or fail together, with the same failure, and a match ends
behind the token. Silent mode changes nothing but the position, and a step that does not match changes
nothing at all. -/
theorem magic_modes_agree (resolver : Resolver) (s : State) :
    ((State.magic resolver true).on s).1 = ((State.magic resolver false).on s).1 ∧
    (((State.magic resolver true).on s).1 = .ok true →
      ∃ token, Token.at? s.src s.pos = .ok (some token) ∧
        ((State.magic resolver true).on s).2.pos = token.stop ∧
        ((State.magic resolver false).on s).2.pos = token.stop) ∧
    ((State.magic resolver true).on s).2 = s.moveTo ((State.magic resolver true).on s).2.pos ∧
    ((State.magic resolver true).on s).2.pieces = s.pieces ∧
    ∀ silent, ((State.magic resolver silent).on s).1 ≠ .ok true →
      ((State.magic resolver silent).on s).2 = s := by
  simp only [State.magic_on]
  cases hdraft : resolver.draftAt s.src s.pos with
  | error fault => exact ⟨rfl, fun h => by simp at h, rfl, rfl, fun _ _ => rfl⟩
  | ok answer =>
    cases answer with
    | none => exact ⟨rfl, fun h => by simp at h, rfl, rfl, fun _ _ => rfl⟩
    | some found =>
      obtain ⟨token, draft⟩ := found
      have hat := (Resolver.at?_of_draftAt hdraft).1
      have hstop : (token.stop.toNat : Int) = token.stop := by
        obtain ⟨payload, -, rfl⟩ := Token.at?_eq_some_iff.mp hat
        simp only [Token.standing]
        omega
      exact ⟨rfl, fun _ => ⟨token, hat, hstop, hstop⟩, rfl, rfl, fun _ h => absurd rfl h⟩

end Commonmark

end BraceLink
