import BraceLink.Terminal.Markup
import Mathlib.Data.List.Basic

/-!
# Marked texts that can be read

Only a mark that acts can make a marked text unreadable, and a mark acts if an even number of backslashes stands
in front of it. `Quiet` says that no mark of a text acts, one character at a time (`isQuiet_iff`), and a quiet
text can be read (`marked_of_quiet`). Escaping puts one backslash and as many as there are already in front of each
mark (`escape_eq`), so an escaped text is quiet, with whatever text without marks behind it (`quiet_escape`).
-/

namespace BraceLink.Terminal.Markup

variable {c : Char} {text rest content after more plain : Text} {slashes : Nat}

/-! ### Marks -/

/-- Whether the character begins or ends a mark. -/
def isBracket (c : Char) : Bool := c = '[' || c = ']'

/-- What may stand between the brackets of a mark. -/
def IsContent (content : Text) : Prop :=
  (∃ c, content.head? = some c ∧ canBegin c = true) ∧ ∀ c ∈ content, isBracket c = false

theorem markEnd?_append (h : ∀ c ∈ content, isBracket c = false) (after : Text) :
    markEnd? (content ++ ']' :: after) = some (content, after) := by
  induction content with
  | nil => rfl
  | cons c content ih =>
    have hc : c ≠ ']' ∧ c ≠ '[' := by
      have hbracket := h c List.mem_cons_self
      simp only [isBracket, Bool.or_eq_false_iff, decide_eq_false_iff_not] at hbracket
      exact hbracket.symm
    rw [List.cons_append, markEnd?, if_neg hc.1, if_neg hc.2, ih fun d hd => h d (List.mem_cons_of_mem _ hd)]
    rfl

theorem markEnd?_eq_some (h : markEnd? text = some (content, after)) :
    text = content ++ ']' :: after ∧ ∀ c ∈ content, isBracket c = false := by
  induction text generalizing content with
  | nil => cases h
  | cons c text ih =>
    rw [markEnd?] at h
    split_ifs at h with hclose hopen
    · cases h
      exact ⟨by rw [hclose]; rfl, by simp⟩
    · obtain ⟨⟨before, found⟩, hfound, hpair⟩ := Option.map_eq_some_iff.mp h
      cases hpair
      obtain ⟨rfl, hbefore⟩ := ih hfound
      refine ⟨rfl, fun d hd => ?_⟩
      rcases List.mem_cons.mp hd with rfl | hd
      · simp [isBracket, hclose, hopen]
      · exact hbefore d hd

theorem markEnd?_eq_none_iff : markEnd? text = none ↔ text.find? isBracket ≠ some ']' := by
  induction text with
  | nil => simp [markEnd?]
  | cons c text ih =>
    rw [markEnd?]
    by_cases hclose : c = ']'
    · simp [hclose, isBracket]
    · by_cases hopen : c = '['
      · simp [hopen, isBracket]
      · rw [if_neg hclose, if_neg hopen, Option.map_eq_none_iff, ih,
          List.find?_cons_of_neg (by simp [isBracket, hclose, hopen])]

theorem mark?_append (h : IsContent content) (after : Text) :
    mark? (content ++ ']' :: after) = some (content, after) := by
  obtain ⟨⟨c, hhead, hbegin⟩, hfree⟩ := h
  obtain ⟨content, rfl⟩ := List.head?_eq_some_iff.mp hhead
  rw [List.cons_append, mark?, if_pos hbegin, markEnd?_append fun d hd => hfree d (List.mem_cons_of_mem _ hd)]
  rfl

theorem mark?_eq_some (h : mark? text = some (content, after)) :
    text = content ++ ']' :: after ∧ IsContent content := by
  cases text with
  | nil => cases h
  | cons c text =>
    rw [mark?] at h
    split_ifs at h with hbegin
    obtain ⟨⟨before, found⟩, hfound, hpair⟩ := Option.map_eq_some_iff.mp h
    cases hpair
    obtain ⟨rfl, hbefore⟩ := markEnd?_eq_some hfound
    refine ⟨rfl, ⟨c, rfl, hbegin⟩, fun d hd => ?_⟩
    rcases List.mem_cons.mp hd with rfl | hd
    · by_contra hbracket
      simp only [isBracket, Bool.not_eq_false, Bool.or_eq_true, decide_eq_true_eq] at hbracket
      rcases hbracket with rfl | rfl
      · exact absurd hbegin (by decide)
      · exact absurd hbegin (by decide)
    · exact hbefore d hd

theorem mark?_cons_of_not (h : canBegin c = false) (rest : Text) : mark? (c :: rest) = none := by
  rw [mark?, h]
  rfl

/-! ### Pieces -/

theorem piecesAfter_backslash (plain : Text) (slashes : Nat) (rest : Text) :
    piecesAfter plain slashes ('\\' :: rest) = piecesAfter plain (slashes + 1) rest := by
  rw [piecesAfter, if_pos rfl]

theorem piecesAfter_mark (h : IsContent content) (plain : Text) (slashes : Nat) (after : Text) :
    piecesAfter plain slashes ('[' :: (content ++ ']' :: after)) =
      (if plain.isEmpty then [] else [.plain plain.reverse]) ++
        .mark slashes content :: piecesAfter [] 0 after := by
  rw [piecesAfter, if_neg (by decide)]
  split
  · rename_i found behind hfound
    rw [if_pos rfl, mark?_append h] at hfound
    cases hfound
    rfl
  · rename_i hnone
    rw [if_pos rfl, mark?_append h] at hnone
    cases hnone

theorem piecesAfter_char (hc : c ≠ '\\') (hmark : c = '[' → mark? rest = none) (plain : Text) (slashes : Nat) :
    piecesAfter plain slashes (c :: rest) =
      piecesAfter (c :: (List.replicate slashes '\\' ++ plain)) 0 rest := by
  rw [piecesAfter, if_neg hc]
  split
  · rename_i found behind hfound
    split_ifs at hfound with hopen
    rw [hmark hopen] at hfound
    cases hfound
  · rfl

@[elab_as_elim]
theorem marked_rec {motive : Text → Prop} (nil : motive [])
    (backslash : ∀ rest, motive rest → motive ('\\' :: rest))
    (mark : ∀ content after, IsContent content → motive after → motive ('[' :: (content ++ ']' :: after)))
    (char : ∀ c rest, c ≠ '\\' → (c = '[' → mark? rest = none) → motive rest → motive (c :: rest))
    (text : Text) : motive text := by
  match text with
  | [] => exact nil
  | c :: rest =>
    by_cases hslash : c = '\\'
    · rw [hslash]
      exact backslash rest (marked_rec nil backslash mark char rest)
    · cases hmark : if c = '[' then mark? rest else none with
      | none =>
        refine char c rest hslash (fun hopen => ?_) (marked_rec nil backslash mark char rest)
        rwa [if_pos hopen] at hmark
      | some found =>
        obtain ⟨content, after⟩ := found
        split_ifs at hmark with hopen
        obtain ⟨hrest, hcontent⟩ := mark?_eq_some hmark
        have hshorter := length_of_mark? hmark
        rw [hopen, hrest]
        exact mark content after hcontent (marked_rec nil backslash mark char after)
termination_by text.length
decreasing_by all_goals simp only [List.length_cons]; omega

theorem mark_mem_piecesAfter_iff {number : Nat} :
    .mark number content ∈ piecesAfter plain slashes text ↔ .mark number content ∈ piecesAfter [] slashes text := by
  induction text using marked_rec generalizing plain slashes with
  | nil =>
    have hplain : ∀ front, .mark number content ∉ piecesAfter front slashes [] := by
      intro front
      rw [piecesAfter]
      split_ifs <;> simp
    exact iff_of_false (hplain plain) (hplain [])
  | backslash rest ih =>
    rw [piecesAfter_backslash, piecesAfter_backslash]
    exact ih
  | mark found after hfound ih =>
    rw [piecesAfter_mark hfound, piecesAfter_mark hfound]
    split_ifs <;> simp
  | char c rest hc hmark ih =>
    rw [piecesAfter_char hc hmark, piecesAfter_char hc hmark]
    exact ih.trans ih.symm

/-! ### Quiet texts -/

/-- No mark acts, where so many backslashes stand in front of the text. -/
def Quiet (slashes : Nat) (text : Text) : Prop :=
  ∀ number content, .mark number content ∈ piecesAfter [] slashes text → number % 2 = 1

theorem quiet_nil (slashes : Nat) : Quiet slashes [] := by
  intro number content hmem
  rw [piecesAfter] at hmem
  split_ifs at hmem <;> simp at hmem

theorem quiet_backslash : Quiet slashes ('\\' :: rest) ↔ Quiet (slashes + 1) rest := by
  rw [Quiet, piecesAfter_backslash]
  rfl

theorem quiet_backslashes (number : Nat) :
    Quiet slashes (List.replicate number '\\' ++ rest) ↔ Quiet (slashes + number) rest := by
  induction number generalizing slashes with
  | zero => rfl
  | succ number ih =>
    rw [List.replicate_succ, List.cons_append, quiet_backslash, ih, Nat.add_assoc, Nat.add_comm 1]

theorem quiet_mark (h : IsContent content) :
    Quiet slashes ('[' :: (content ++ ']' :: after)) ↔ slashes % 2 = 1 ∧ Quiet 0 after := by
  rw [Quiet, piecesAfter_mark h]
  simp only [List.isEmpty_nil, if_true, List.nil_append, List.mem_cons, Piece.mark.injEq]
  constructor
  · intro hquiet
    exact ⟨hquiet slashes content (Or.inl ⟨rfl, rfl⟩), fun number found hmem => hquiet number found (Or.inr hmem)⟩
  · rintro ⟨hodd, hafter⟩ number found (⟨rfl, -⟩ | hmem)
    · exact hodd
    · exact hafter number found hmem

theorem quiet_char (hc : c ≠ '\\') (hmark : c = '[' → mark? rest = none) :
    Quiet slashes (c :: rest) ↔ Quiet 0 rest := by
  rw [Quiet, piecesAfter_char hc hmark]
  exact forall_congr' fun number => forall_congr' fun content => by rw [mark_mem_piecesAfter_iff]

theorem quiet_of_no_marks (h : '[' ∉ text) (slashes : Nat) : Quiet slashes text := by
  induction text generalizing slashes with
  | nil => exact quiet_nil slashes
  | cons c rest ih =>
    simp only [List.mem_cons, not_or] at h
    by_cases hc : c = '\\'
    · rw [hc, quiet_backslash]
      exact ih h.2 _
    · rw [quiet_char hc fun hopen => absurd hopen.symm h.1]
      exact ih h.2 0

theorem showPieces_ok {pieces : List Piece}
    (h : ∀ number content, .mark number content ∈ pieces → number % 2 = 1) (start : Nat) :
    ∃ shown, showPieces start [] pieces = .ok ⟨shown, []⟩ := by
  induction pieces generalizing start with
  | nil => exact ⟨_, rfl⟩
  | cons piece pieces ih =>
    have hrest : ∀ start, ∃ shown, showPieces start [] pieces = .ok ⟨shown, []⟩ :=
      ih fun number content hmem => h number content (List.mem_cons_of_mem _ hmem)
    cases piece with
    | plain text =>
      obtain ⟨shown, hshown⟩ := hrest (start + (showPlain text).length)
      rw [showPieces, hshown]
      exact ⟨_, rfl⟩
    | mark slashes content =>
      rw [showPieces, if_pos (h slashes content List.mem_cons_self)]
      dsimp only
      obtain ⟨shown, hshown⟩ := hrest (start + _)
      rw [hshown]
      exact ⟨_, rfl⟩

/-! ### Escaped texts -/

/-- What escaping makes of a text with so many backslashes in front of it. -/
def escapeAfter (slashes : Nat) (text : Text) : Text := (piecesAfter [] slashes text).flatMap Piece.escape

theorem flatMap_escape_piecesAfter :
    (piecesAfter plain slashes text).flatMap Piece.escape = plain.reverse ++ escapeAfter slashes text := by
  induction text using marked_rec generalizing plain slashes with
  | nil =>
    have hnil : ∀ front, (piecesAfter front slashes []).flatMap Piece.escape =
        front.reverse ++ List.replicate slashes '\\' := by
      intro front
      rw [piecesAfter]
      split_ifs with hempty
      · simp only [List.isEmpty_iff, List.append_eq_nil_iff] at hempty
        simp [hempty]
      · simp [Piece.escape]
    rw [escapeAfter, hnil, hnil]
    rfl
  | backslash rest ih =>
    rw [escapeAfter, piecesAfter_backslash, piecesAfter_backslash, ih]
    rfl
  | mark content after hcontent ih =>
    rw [escapeAfter, piecesAfter_mark hcontent, piecesAfter_mark hcontent]
    by_cases hplain : plain = []
    · simp [hplain]
    · simp [hplain, Piece.escape]
  | char c rest hc hmark ih =>
    rw [escapeAfter, piecesAfter_char hc hmark, piecesAfter_char hc hmark, ih, ih]
    simp

theorem escapeAfter_nil (slashes : Nat) : escapeAfter slashes [] = List.replicate slashes '\\' := by
  rw [escapeAfter, piecesAfter]
  split_ifs with hempty
  · simp only [List.isEmpty_iff, List.append_nil] at hempty
    exact hempty.symm
  · simp [Piece.escape]

theorem escapeAfter_backslash (slashes : Nat) (rest : Text) :
    escapeAfter slashes ('\\' :: rest) = escapeAfter (slashes + 1) rest := by
  rw [escapeAfter, piecesAfter_backslash]
  rfl

theorem escapeAfter_mark (h : IsContent content) (slashes : Nat) (after : Text) :
    escapeAfter slashes ('[' :: (content ++ ']' :: after)) =
      List.replicate (2 * slashes + 1) '\\' ++ '[' :: (content ++ ']' :: escapeAfter 0 after) := by
  rw [escapeAfter, piecesAfter_mark h]
  simp [Piece.escape, escapeAfter]

theorem escapeAfter_char (hc : c ≠ '\\') (hmark : c = '[' → mark? rest = none) (slashes : Nat) :
    escapeAfter slashes (c :: rest) = List.replicate slashes '\\' ++ c :: escapeAfter 0 rest := by
  rw [escapeAfter, piecesAfter_char hc hmark, flatMap_escape_piecesAfter]
  simp

theorem find?_escapeAfter (slashes : Nat) (text : Text) :
    (escapeAfter slashes text).find? isBracket = text.find? isBracket := by
  have hslashes : ∀ number more, (List.replicate number '\\' ++ more).find? isBracket = more.find? isBracket := by
    intro number more
    rw [List.find?_append, List.find?_eq_none.mpr (by simp [isBracket])]
    rfl
  induction text using marked_rec generalizing slashes with
  | nil => rw [escapeAfter_nil, ← List.append_nil (List.replicate _ _), hslashes]
  | backslash rest ih =>
    rw [escapeAfter_backslash, ih]
    rfl
  | mark content after hcontent ih =>
    rw [escapeAfter_mark hcontent, hslashes]
    rfl
  | char c rest hc hmark ih =>
    rw [escapeAfter_char hc hmark, hslashes, List.find?_cons, List.find?_cons, ih]

theorem exists_escapeAfter_succ (slashes : Nat) (text : Text) :
    ∃ behind, escapeAfter (slashes + 1) text = '\\' :: behind := by
  induction text using marked_rec generalizing slashes with
  | nil => exact ⟨_, escapeAfter_nil _⟩
  | backslash rest ih =>
    rw [escapeAfter_backslash]
    exact ih (slashes + 1)
  | mark content after hcontent => exact ⟨_, escapeAfter_mark hcontent _ _⟩
  | char c rest hc hmark => exact ⟨_, escapeAfter_char hc hmark _⟩

theorem mark?_escapeAfter (h : mark? rest = none) (hmore : ']' ∉ more) :
    mark? (escapeAfter 0 rest ++ more) = none := by
  have hclose : ∀ behind : Text, markEnd? behind = none → markEnd? (escapeAfter 0 behind ++ more) = none := by
    intro behind hbehind
    rw [markEnd?_eq_none_iff] at hbehind ⊢
    rw [List.find?_append, find?_escapeAfter]
    cases hfind : behind.find? isBracket with
    | none => exact fun hfound => hmore (List.mem_of_find?_eq_some hfound)
    | some bracket => rwa [hfind] at hbehind
  have hslash : ∀ behind, mark? ('\\' :: behind) = none := mark?_cons_of_not (by decide)
  induction rest using marked_rec with
  | nil =>
    rw [escapeAfter_nil]
    cases hmark : mark? more with
    | none => exact hmark
    | some found =>
      obtain ⟨content, after⟩ := found
      obtain ⟨rfl, -⟩ := mark?_eq_some hmark
      exact absurd (by simp) hmore
  | backslash rest =>
    obtain ⟨behind, hbehind⟩ := exists_escapeAfter_succ 0 rest
    rw [escapeAfter_backslash, hbehind]
    exact hslash _
  | mark content after hcontent =>
    rw [escapeAfter_mark hcontent]
    exact hslash _
  | char c rest hc hmark =>
    rw [escapeAfter_char hc hmark]
    change mark? (c :: (escapeAfter 0 rest ++ more)) = none
    rw [mark?] at h ⊢
    split_ifs at h ⊢
    · rw [Option.map_eq_none_iff] at h ⊢
      exact hclose rest h
    · rfl

theorem quiet_escapeAfter (hquiet : ∀ number, Quiet number more) (hmore : ']' ∉ more) (slashes : Nat)
    (text : Text) : Quiet 0 (escapeAfter slashes text ++ more) := by
  induction text using marked_rec generalizing slashes with
  | nil =>
    rw [escapeAfter_nil, quiet_backslashes]
    exact hquiet _
  | backslash rest ih =>
    rw [escapeAfter_backslash]
    exact ih _
  | mark content after hcontent ih =>
    rw [escapeAfter_mark hcontent, List.append_assoc, quiet_backslashes, List.cons_append, List.append_assoc,
      List.cons_append, quiet_mark hcontent]
    exact ⟨by omega, ih 0⟩
  | char c rest hc hmark ih =>
    rw [escapeAfter_char hc hmark, List.append_assoc, quiet_backslashes, List.cons_append,
      quiet_char hc fun hopen => mark?_escapeAfter (hmark hopen) hmore]
    exact ih 0

theorem quiet_escape (text : Text) (hmore : '[' ∉ more ∧ ']' ∉ more) : Quiet 0 (escape text ++ more) := by
  have hescape : escape text = escapeAfter 0 text ∨ escape text = escapeAfter 0 text ++ ['\\'] := by
    unfold escape
    dsimp only
    split_ifs
    · exact Or.inr rfl
    · exact Or.inl rfl
  rcases hescape with hescape | hescape
  · rw [hescape]
    exact quiet_escapeAfter (quiet_of_no_marks hmore.1) hmore.2 0 text
  · rw [hescape, List.append_assoc]
    refine quiet_escapeAfter (quiet_of_no_marks ?_) ?_ 0 text
    · simpa using hmore.1
    · simpa using hmore.2

/-! ### Reading -/

theorem marked_of_quiet (h : Quiet 0 text) : ∃ shown, marked text = .ok ⟨shown, []⟩ := showPieces_ok h 0

theorem piecesAfter_words {words : Text} (h : ∀ c ∈ words, c ≠ '\\' ∧ c ≠ '[') (plain rest : Text) :
    piecesAfter plain 0 (words ++ rest) = piecesAfter (words.reverse ++ plain) 0 rest := by
  induction words generalizing plain with
  | nil => rfl
  | cons c words ih =>
    obtain ⟨hslash, hopen⟩ := h c List.mem_cons_self
    rw [List.cons_append, piecesAfter_char hslash fun hc => absurd hc hopen,
      ih fun d hd => h d (List.mem_cons_of_mem _ hd)]
    simp

theorem marked_styled {name : Text} {style : Opened} (words : Text) (hname : IsContent name)
    (hopened : applyMark 0 [] name = .ok ([style], none))
    (hended : ∀ place, applyMark place [style] ('/' :: name) = .ok ([], some style))
    (hplain : ∀ place, style.faults place = []) (hwords : ∀ c ∈ words, c ≠ '\\' ∧ c ≠ '[') (h : Quiet 0 text) :
    ∃ shown, marked ('[' :: (name ++ ']' :: (words ++ '[' :: ('/' :: name ++ ']' :: text)))) = .ok ⟨shown, []⟩ := by
  have hend : IsContent ('/' :: name) := by
    refine ⟨⟨'/', rfl, by decide⟩, fun c hc => ?_⟩
    rcases List.mem_cons.mp hc with rfl | hc
    · decide
    · exact hname.2 c hc
  -- the end of the style and the quiet text behind it
  have hbehind : ∀ place, ∃ shown, showPieces place [style] (.mark 0 ('/' :: name) :: piecesAfter [] 0 text) =
      .ok ⟨shown, []⟩ := by
    intro place
    obtain ⟨shown, hshown⟩ := showPieces_ok h place
    rw [showPieces]
    simp only [Nat.zero_mod, Nat.zero_ne_one, if_false, Nat.zero_div, List.replicate_zero, List.length_nil,
      Nat.add_zero, hended, hshown]
    exact ⟨shown, by simp [Except.map, hplain]⟩
  have hpieces : ∃ shown, showPieces 0 [style] (piecesAfter words.reverse 0 ('[' :: ('/' :: name ++ ']' :: text))) =
      .ok ⟨shown, []⟩ := by
    rw [piecesAfter_mark hend]
    split_ifs
    · exact hbehind 0
    · obtain ⟨shown, hshown⟩ := hbehind (0 + (showPlain words.reverse.reverse).length)
      rw [List.cons_append, List.nil_append, showPieces, hshown]
      exact ⟨_, rfl⟩
  obtain ⟨behind, hbehind⟩ := hpieces
  rw [marked, pieces, piecesAfter_mark hname, piecesAfter_words hwords, List.append_nil]
  simp only [List.isEmpty_nil, if_true, List.nil_append]
  rw [showPieces]
  simp only [Nat.zero_mod, Nat.zero_ne_one, if_false, Nat.zero_div, List.replicate_zero, List.length_nil,
    Nat.add_zero, hopened, hbehind]
  exact ⟨behind, rfl⟩

end BraceLink.Terminal.Markup
