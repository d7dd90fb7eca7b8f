import BraceLink.Proofs.Yaml.Token
import BraceLink.Yaml.Layout

/-!
# Dividing a document

Every step of dividing a document keeps the cursor in the text (`Layout.Within`). So reading on to the next token fails
because the text is malformed there or because it holds a number that cannot be read (`Layout.Within.ahead`).
-/

namespace BraceLink.Yaml

namespace Layout

def Within (s : Layout) (text : Text) : Prop := s.cursor.Within text

/-- The division goes on in the text, or fails for a reason. -/
abbrev Keeps (text : Text) (result : Except Error Layout) : Prop := Safe text (Within · text) result

variable {text : Text} {s : Layout}

/-! ### The state -/

theorem Within.allowKey (h : s.Within text) (allowed : Bool) : (s.allowKey allowed).Within text := h

theorem Within.advance (h : s.Within text) (n : Nat) : (s.advance n).Within text := Cursor.Within.advance h n

theorem unwindFrom_cursor (column : Int) (s : Layout) (outer : List Int) :
    (unwindFrom column s outer).cursor = s.cursor := by
  induction outer generalizing s with
  | nil => rfl
  | cons around outer ih =>
    rw [unwindFrom]
    split_ifs
    · exact ih _
    · rfl

theorem unwind_cursor (s : Layout) (column : Int) : (s.unwind column).cursor = s.cursor := by
  unfold unwind
  split_ifs
  · rfl
  · exact unwindFrom_cursor column s s.outer

theorem Within.unwind (h : s.Within text) (column : Int) : (s.unwind column).Within text := by
  unfold Within
  rw [unwind_cursor]
  exact h

theorem Within.indentTo (h : s.Within text) (column number : Nat) (token : Token) :
    (s.indentTo column number token).Within text := by
  unfold Layout.indentTo
  split_ifs
  · exact h
  · exact h

theorem Within.skipSpace (fuel : Nat) (h : s.Within text) : (skipSpace fuel s).Within text := by
  induction fuel generalizing s with
  | zero => exact h
  | succ fuel ih =>
    have hspaces : (s.cursor.skipSpaces.skipComment).Within text := (Cursor.Within.skipSpaces h).skipComment
    rw [Layout.skipSpace]
    split
    · next hbreak => exact ih (hspaces.readBreak hbreak)
    · exact hspaces

/-! ### Keys -/

theorem Within.dropStale (h : s.Within text) : Keeps text s.dropStale :=
  .ite (fun _ => malformed_safe) fun _ => h

theorem dropKey_cursor {s' : Layout} (h : s.dropKey = .ok s') : s'.cursor = s.cursor := by
  unfold dropKey at h
  split at h
  · cases h
    rfl
  · split_ifs at h
    cases h
    rfl

theorem Within.dropKey (h : s.Within text) : Keeps text s.dropKey := by
  unfold Layout.dropKey
  split
  · exact h
  · exact .ite (fun _ => malformed_safe) fun _ => h

theorem Within.saveKey (h : s.Within text) : Keeps text s.saveKey := by
  unfold Layout.saveKey
  dsimp only
  split
  · exact h
  · exact h.dropKey.bind fun s' hs' => hs'

/-! ### Tokens -/

theorem Within.documentMark (h : s.Within text) (token : Token) : Keeps text (s.documentMark token) :=
  (h.unwind _).dropKey.bind fun _ hs => (hs.allowKey false).advance 3

theorem Within.readDirective (h : s.Within text) (hfirst : s.cursor.rest.head? = some '%') :
    Keeps text s.readDirective := by
  unfold Layout.readDirective
  have hdrop := (h.unwind (-1)).dropKey
  cases hkey : (s.unwind (-1)).dropKey with
  | error error =>
    rw [hkey] at hdrop
    exact hdrop
  | ok s' =>
    rw [hkey] at hdrop
    have hcursor : s'.cursor = s.cursor := (dropKey_cursor hkey).trans (unwind_cursor s (-1))
    exact (directive_reads hdrop (by rw [hcursor, hfirst])).bind fun found hfound => hfound

theorem Within.openBracket (h : s.Within text) (token : Token) : Keeps text (s.openBracket token) :=
  h.saveKey.bind fun _ hs => (hs.allowKey true).advance 1

theorem Within.closeBracket (h : s.Within text) (token : Token) : Keeps text (s.closeBracket token) :=
  .ite (fun _ => malformed_safe) fun _ => h.dropKey.bind fun _ hs => (hs.allowKey false).advance 1

theorem Within.readComma (h : s.Within text) : Keeps text s.readComma :=
  (h.allowKey true).dropKey.bind fun _ hs => hs.advance 1

theorem Within.indented (h : s.Within text) (token : Token) :
    (if s.inFlow then s else s.indentTo s.cursor.column s.number token).Within text := by
  split
  · exact h
  · exact h.indentTo _ _ _

theorem Within.readItem (h : s.Within text) : Keeps text s.readItem :=
  .ite (fun _ => malformed_safe) fun _ =>
    ((h.indented .blockSequence).allowKey true).dropKey.bind fun _ hs => hs.advance 1

theorem Within.readKey (h : s.Within text) : Keeps text s.readKey :=
  .ite (fun _ => malformed_safe) fun _ =>
    ((h.indented .blockMapping).allowKey _).dropKey.bind fun _ hs => hs.advance 1

theorem Within.readValue (h : s.Within text) : Keeps text s.readValue := by
  unfold Layout.readValue
  split
  · next key _ =>
    have hinserted :
        ({ s with keys := s.keys.filter fun entry => entry.1 ≠ s.depth }.insert key.number .key).Within text := h
    dsimp only
    split
    · exact (hinserted.allowKey false).advance 1
    · exact ((hinserted.indentTo key.column key.number .blockMapping).allowKey false).advance 1
  · exact .ite (fun _ => malformed_safe) fun _ =>
      ((h.indented .blockMapping).allowKey _).dropKey.bind fun _ hs => hs.advance 1

theorem Within.readPart {read : Cursor → Except Error (Token × Cursor)} (h : s.Within text)
    (hread : ∀ {c : Cursor}, c.Within text → Reads text (read c)) : Keeps text (s.readPart read) :=
  h.saveKey.bind fun _ hs => (hread hs).bind fun _ hfound => hfound

theorem Within.readBlock (h : s.Within text) (fold : Bool) : Keeps text (s.readBlock fold) :=
  (h.allowKey true).dropKey.bind fun s' hs => (block_reads fold s'.indent hs).bind fun _ hfound => hfound

theorem Within.readPlain (h : s.Within text) : Keeps text s.readPlain :=
  h.saveKey.bind fun s' hs => plain_within s'.inFlow (s'.indent + 1) hs

theorem Within.fetch (h : s.Within text) : Keeps text s.fetch := by
  unfold Layout.fetch
  refine (h.skipSpace _).dropStale.bind fun s hs => ?_
  have hs := Within.unwind hs s.cursor.column
  generalize s.unwind s.cursor.column = s at hs
  dsimp only
  split
  · exact (hs.unwind _).dropKey.bind fun _ hend => hend
  · next first rest hrest =>
    have hpart : ∀ {α : Type} (token : α → Token) {read : Cursor → Except Error (α × Cursor)},
        (∀ {c : Cursor}, c.Within text → Reads text (read c)) →
        Keeps text (s.readPart fun c => (read c).map fun found => (token found.1, found.2)) := fun _ _ hread =>
      hs.readPart fun hc => (hread hc).map fun _ hafter => hafter
    -- One case for each way in which a token can begin, in the order in which they are tried.
    refine .ite (fun hdirective => ?_) fun _ => ?_
    · rw [Bool.and_eq_true, decide_eq_true_eq] at hdirective
      exact hs.readDirective (by rw [hrest, hdirective.1, List.head?_cons])
    refine .ite (fun _ => hs.documentMark _) fun _ => ?_
    refine .ite (fun _ => hs.documentMark _) fun _ => ?_
    refine .ite (fun _ => hs.openBracket _) fun _ => ?_
    refine .ite (fun _ => hs.openBracket _) fun _ => ?_
    refine .ite (fun _ => hs.closeBracket _) fun _ => ?_
    refine .ite (fun _ => hs.closeBracket _) fun _ => ?_
    refine .ite (fun _ => hs.readComma) fun _ => ?_
    refine .ite (fun _ => hs.readItem) fun _ => ?_
    refine .ite (fun _ => hs.readKey) fun _ => ?_
    refine .ite (fun _ => hs.readValue) fun _ => ?_
    refine .ite (fun _ => hpart Token.again anchorName_reads) fun _ => ?_
    refine .ite (fun _ => hpart Token.anchor anchorName_reads) fun _ => ?_
    refine .ite (fun _ => hpart Token.tag writtenTag_reads) fun _ => ?_
    refine .ite (fun _ => hs.readBlock false) fun _ => ?_
    refine .ite (fun _ => hs.readBlock true) fun _ => ?_
    refine .ite (fun _ => hpart (Token.scalar · false) (quotedText_reads first)) fun _ => ?_
    exact .ite (fun _ => hs.readPlain) fun _ => malformed_safe

theorem Within.ahead (fuel : Nat) (h : s.Within text) : Keeps text (s.ahead fuel) := by
  induction fuel generalizing s with
  | zero => exact h
  | succ fuel ih =>
    have hfetch : ∀ {s : Layout}, s.Within text → Keeps text (s.fetch >>= Layout.ahead fuel) := fun hs =>
      hs.fetch.bind fun _ => ih
    rw [Layout.ahead]
    refine .ite (fun _ => h) fun _ => .ite (fun _ => hfetch h) fun _ => ?_
    exact h.dropStale.bind fun _ hs => .ite (fun _ => hfetch hs) fun _ => hs

theorem start_within (text : Text) : (start text).Within text := by
  have hstart : Cursor.Within { rest := text } text := List.suffix_rfl
  show Cursor.Within (if _ then _ else _) text
  split
  · exact hstart.next
  · exact hstart

end Layout

end BraceLink.Yaml
