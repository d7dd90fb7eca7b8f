import BraceLink.Proofs.Outcome
import BraceLink.Proofs.Table
import BraceLink.Proofs.Terminal.Markup
import BraceLink.Proofs.Text.Split

/-!
# Texts that are shown as they are

Every step of reading a marked text leaves it as it is or makes it smaller (`Shrinks`). What gets smaller is the number
of colons, and where that stays the same the length: a mark loses at least its brackets or a backslash
(`showPieces_shrinks`), a backslash in front of a bracket goes away (`replaceFrom_shrinks`), the name of an emoji loses
the colons around it, though the emoji may be longer (`replaceEmoji_shrinks`), and controls are dropped. So a text that
is shown as it is has been changed by none of these steps (`read_eq_self_iff`).
-/

namespace BraceLink

/-! ### Smaller texts -/

/-- The new text has fewer colons, or as many and a smaller length. -/
def Text.Smaller (new old : Text) : Prop :=
  new.count ':' < old.count ':' ∨ new.count ':' = old.count ':' ∧ new.length < old.length

def Text.Shrinks (new old : Text) : Prop := new = old ∨ Smaller new old

namespace Text

variable {first second third fourth : Text}

theorem Smaller.of_le (hcolons : first.count ':' ≤ second.count ':') (hlength : first.length < second.length) :
    Smaller first second := by
  rcases Nat.lt_or_eq_of_le hcolons with hlt | heq
  · exact Or.inl hlt
  · exact Or.inr ⟨heq, hlength⟩

theorem Smaller.irrefl (text : Text) : ¬ Smaller text text := by
  rintro (h | ⟨-, h⟩)
  · exact Nat.lt_irrefl _ h
  · exact Nat.lt_irrefl _ h

theorem Smaller.trans (h : Smaller first second) (hnext : Smaller second third) : Smaller first third := by
  unfold Smaller at *
  omega

namespace Shrinks

theorem refl (text : Text) : Shrinks text text := Or.inl rfl

theorem trans (h : Shrinks first second) (hnext : Shrinks second third) : Shrinks first third := by
  rcases h with rfl | h
  · exact hnext
  · rcases hnext with rfl | hnext
    · exact Or.inr h
    · exact Or.inr (h.trans hnext)

theorem append_smaller (h : Shrinks first second) (hnext : Smaller third fourth) :
    Smaller (first ++ third) (second ++ fourth) := by
  rcases h with rfl | h
  · unfold Smaller at *
    simp only [List.count_append, List.length_append]
    omega
  · unfold Smaller at *
    simp only [List.count_append, List.length_append]
    omega

theorem smaller_append (h : Smaller first second) (hnext : Shrinks third fourth) :
    Smaller (first ++ third) (second ++ fourth) := by
  rcases hnext with rfl | hnext
  · unfold Smaller at *
    simp only [List.count_append, List.length_append]
    omega
  · exact append_smaller (Or.inr h) hnext

theorem append (h : Shrinks first second) (hnext : Shrinks third fourth) :
    Shrinks (first ++ third) (second ++ fourth) := by
  rcases hnext with rfl | hsmaller
  · rcases h with rfl | h
    · exact refl _
    · exact Or.inr (smaller_append h (refl _))
  · exact Or.inr (append_smaller h hsmaller)

theorem filter (p : Char → Bool) (text : Text) : Shrinks (text.filter p) text := by
  have hsub : (text.filter p).Sublist text := List.filter_sublist
  rcases Nat.lt_or_ge (text.filter p).length text.length with h | h
  · exact Or.inr (.of_le (hsub.count_le ':') h)
  · exact Or.inl (hsub.eq_of_length_le h)

theorem antisymm (h : Shrinks first second) (hback : Shrinks second first) : first = second := by
  rcases h with rfl | h
  · rfl
  · rcases hback with rfl | hback
    · rfl
    · exact absurd (h.trans hback) (Smaller.irrefl _)

end Shrinks

end Text

/-! ### Replacing -/

theorem Text.replaceFrom_shrinks {first : Char} {more new : Text} (hnew : Smaller new (first :: more)) (text : Text) :
    Text.Shrinks (Text.replaceFrom first more new text) text := by
  fun_induction Text.replaceFrom first more new text with
  | case1 => exact Text.Shrinks.refl []
  | case2 c rest after hprefix ih =>
    rw [Text.dropPrefix?_eq_some_iff.mp hprefix]
    exact Or.inr (Shrinks.smaller_append hnew ih)
  | case3 c rest hprefix ih => exact (Text.Shrinks.refl [c]).append ih

theorem Text.replaceFrom_eq_self_iff {first : Char} {more new : Text} (hnew : Smaller new (first :: more))
    {text : Text} : Text.replaceFrom first more new text = text ↔ ¬ first :: more <:+: text := by
  fun_induction Text.replaceFrom first more new text with
  | case1 => simp
  | case2 c rest after hprefix ih =>
    have hsource := Text.dropPrefix?_eq_some_iff.mp hprefix
    refine iff_of_false (fun hsame => ?_) (not_not.mpr ?_)
    · have hsmaller := Shrinks.smaller_append hnew (Text.replaceFrom_shrinks hnew after)
      rw [← hsource, hsame] at hsmaller
      exact Smaller.irrefl _ hsmaller
    · rw [hsource]
      exact (List.prefix_append _ _).isInfix
  | case3 c rest hprefix ih =>
    have hnot : ¬ first :: more <+: c :: rest := by
      rintro ⟨after, hafter⟩
      rw [← hafter, Text.dropPrefix?_eq_some_iff.mpr rfl] at hprefix
      cases hprefix
    rw [List.cons.injEq, ih, List.infix_cons_iff]
    simp [hnot]

namespace Terminal

theorem colon_not_mem_of_entry {table name emoji : Text} (h : (name, emoji) ∈ emojiEntries table) : ':' ∉ emoji := by
  obtain ⟨entry, -, hentry⟩ := List.mem_filterMap.mp h
  split at hentry
  · rename_i found hfound
    cases hentry
    have hmem : emoji ∈ Text.splitOn ':' entry := by
      rw [hfound]
      exact List.mem_cons_of_mem _ List.mem_cons_self
    exact Text.not_mem_of_mem_splitOn hmem
  · cases hentry

theorem colon_not_mem_emoji {name emoji : Text} (h : emoji? name = some emoji) : ':' ∉ emoji := by
  rw [emoji?] at h
  have hmem := Table.mem_of_lookup h
  rw [emojiNames] at hmem
  exact colon_not_mem_of_entry hmem

theorem colon_not_mem_selector (name : Text) : ':' ∉ (emojiForm name).2 := by
  unfold emojiForm
  split
  · split_ifs <;> simp
  · simp

theorem emojiText_shrinks (name : Text) : Text.Shrinks (emojiText name) (':' :: name ++ [':']) := by
  have hselector := colon_not_mem_selector name
  have hemoji : ∀ emoji, emoji? (emojiForm name).1 = some emoji → ':' ∉ emoji := fun _ => colon_not_mem_emoji
  rw [emojiText]
  generalize emoji? (emojiForm name).1 = found at hemoji ⊢
  cases found with
  | none => exact Text.Shrinks.refl _
  | some emoji =>
    refine Or.inr (Or.inl ?_)
    simp only [Option.map_some, Option.getD_some, List.count_append, List.count_eq_zero.mpr (hemoji emoji rfl),
      List.count_eq_zero.mpr hselector, List.cons_append, List.count_cons_self]
    exact Nat.succ_pos _

/-- What has been read as a name since the last colon. -/
def pending (name : Option Text) : Text := (name.map fun name => ':' :: name.reverse).getD []

theorem replaceEmojiAfter_shrinks (name : Option Text) (text : Text) :
    Text.Shrinks (replaceEmojiAfter name text) (pending name ++ text) := by
  induction text generalizing name with
  | nil =>
    rw [replaceEmojiAfter, List.append_nil]
    exact Text.Shrinks.refl _
  | cons c rest ih =>
    cases name with
    | none =>
      rw [replaceEmojiAfter]
      split_ifs with hcolon
      · rw [hcolon]
        exact ih (some [])
      · exact (Text.Shrinks.refl [c]).append (ih none)
    | some name =>
      rw [replaceEmojiAfter]
      split_ifs with hcolon hblank
      · have happend := (emojiText_shrinks name.reverse).append (ih none)
        simpa [hcolon, pending] using happend
      · have happend := (Text.Shrinks.refl (':' :: name.reverse ++ [c])).append (ih none)
        simpa [pending] using happend
      · have hnext := ih (some (c :: name))
        simpa [pending] using hnext

theorem replaceEmoji_shrinks (text : Text) : Text.Shrinks (replaceEmoji text) text :=
  replaceEmojiAfter_shrinks none text

/-! ### Marked texts -/

namespace Markup

variable {text shown : Text} {pieces : List Piece}

theorem unescape_smaller : Text.Smaller ['['] ['\\', '['] := Or.inr ⟨by decide, by decide⟩

theorem showPlain_shrinks (text : Text) : Text.Shrinks (showPlain text) text :=
  ((Text.Shrinks.filter _ _).trans (replaceEmoji_shrinks _)).trans (Text.replaceFrom_shrinks unescape_smaller text)

def Piece.source : Piece → Text
  | .plain text => text
  | .mark slashes content => List.replicate slashes '\\' ++ '[' :: content ++ [']']

theorem flatMap_source_piecesAfter (plain : Text) (slashes : Nat) (text : Text) :
    (piecesAfter plain slashes text).flatMap Piece.source =
      plain.reverse ++ List.replicate slashes '\\' ++ text := by
  induction text using marked_rec generalizing plain slashes with
  | nil =>
    rw [piecesAfter]
    split_ifs with hempty
    · simp only [List.isEmpty_iff, List.append_eq_nil_iff] at hempty
      simp [hempty]
    · simp [Piece.source]
  | backslash rest ih =>
    rw [piecesAfter_backslash, ih, List.replicate_succ']
    simp
  | mark content after hcontent ih =>
    rw [piecesAfter_mark hcontent]
    by_cases hplain : plain = []
    · simp [hplain, Piece.source, ih]
    · simp [hplain, Piece.source, ih]
  | char c rest hc hmark ih =>
    rw [piecesAfter_char hc hmark, ih]
    simp

theorem showMark_smaller (slashes : Nat) (content : Text) :
    Text.Smaller (List.replicate (slashes / 2) '\\') (Piece.source (.mark slashes content)) ∧
      (slashes % 2 = 1 → Text.Smaller (List.replicate (slashes / 2) '\\' ++ showPlain ('[' :: content ++ [']']))
        (Piece.source (.mark slashes content))) := by
  constructor
  · refine .of_le ?_ ?_
    · rw [List.count_eq_zero.mpr (by simp)]
      exact Nat.zero_le _
    · simp only [Piece.source, List.length_append, List.length_replicate, List.length_cons, List.length_nil]
      omega
  · intro hodd
    have hslashes : Text.Smaller (List.replicate (slashes / 2) '\\') (List.replicate slashes '\\') := by
      refine Or.inr ⟨?_, ?_⟩
      · rw [List.count_eq_zero.mpr (by simp), List.count_eq_zero.mpr (by simp)]
      · simp only [List.length_replicate]
        omega
    rw [Piece.source, List.append_assoc]
    exact Text.Shrinks.smaller_append hslashes (showPlain_shrinks ('[' :: content ++ [']']))

theorem showPieces_shrinks {start : Nat} {opened : List Opened} {shown : Marked}
    (h : showPieces start opened pieces = .ok shown) :
    Text.Shrinks shown.text (pieces.flatMap Piece.source) ∧
      ∀ number content, .mark number content ∈ pieces → Text.Smaller shown.text (pieces.flatMap Piece.source) := by
  induction pieces generalizing start opened shown with
  | nil =>
    obtain rfl := Except.ok.inj h
    exact ⟨Text.Shrinks.refl [], by simp⟩
  | cons piece pieces ih =>
    rw [List.flatMap_cons]
    cases piece with
    | plain text =>
      rw [showPieces] at h
      obtain ⟨after, hafter, rfl⟩ := map_eq_ok_iff.mp h
      obtain ⟨hshrinks, hmarks⟩ := ih hafter
      have htext := showPlain_shrinks text
      refine ⟨htext.append hshrinks, fun number content hmem => ?_⟩
      rcases List.mem_cons.mp hmem with heq | hmem
      · cases heq
      · exact htext.append_smaller (hmarks number content hmem)
    | mark slashes content =>
      obtain ⟨heven, hodd⟩ := showMark_smaller slashes content
      have hsmaller : Text.Smaller shown.text (Piece.source (.mark slashes content) ++ pieces.flatMap Piece.source) := by
        rw [showPieces] at h
        dsimp only at h
        split_ifs at h with hslashes
        · obtain ⟨after, hafter, rfl⟩ := map_eq_ok_iff.mp h
          exact Text.Shrinks.smaller_append (hodd hslashes) (ih hafter).1
        · split at h
          · cases h
          · obtain ⟨after, hafter, rfl⟩ := map_eq_ok_iff.mp h
            exact Text.Shrinks.smaller_append heven (ih hafter).1
      exact ⟨Or.inr hsmaller, fun _ _ _ => hsmaller⟩

/-- A mark stands somewhere in the text. -/
def HasMark (text : Text) : Prop :=
  ∃ before content after, IsContent content ∧ text = before ++ '[' :: (content ++ ']' :: after)

theorem HasMark.cons {rest : Text} (h : HasMark rest) (c : Char) : HasMark (c :: rest) := by
  obtain ⟨before, content, after, hcontent, rfl⟩ := h
  exact ⟨c :: before, content, after, hcontent, rfl⟩

theorem mem_of_hasMark (h : HasMark text) (slashes : Nat) :
    ∃ number content, .mark number content ∈ piecesAfter [] slashes text := by
  induction text using marked_rec generalizing slashes with
  | nil =>
    obtain ⟨before, content, after, -, hnil⟩ := h
    simp at hnil
  | backslash rest ih =>
    obtain ⟨before, content, after, hcontent, htext⟩ := h
    cases before with
    | nil => cases htext
    | cons d before =>
      rw [piecesAfter_backslash]
      exact ih ⟨before, content, after, hcontent, (List.cons.inj htext).2⟩ (slashes + 1)
  | mark found after hfound =>
    rw [piecesAfter_mark hfound]
    exact ⟨slashes, found, by simp⟩
  | char c rest hc hmark ih =>
    obtain ⟨before, content, after, hcontent, htext⟩ := h
    cases before with
    | nil =>
      obtain ⟨rfl, rfl⟩ := List.cons.inj htext
      have hsome := mark?_append hcontent after
      rw [hmark rfl] at hsome
      cases hsome
    | cons d before =>
      obtain ⟨number, found, hmem⟩ := ih ⟨before, content, after, hcontent, (List.cons.inj htext).2⟩ 0
      rw [piecesAfter_char hc hmark]
      exact ⟨number, found, mark_mem_piecesAfter_iff.mpr hmem⟩

theorem piecesAfter_of_no_mark (h : ¬ HasMark text) (plain : Text) (slashes : Nat) :
    piecesAfter plain slashes text =
      if (plain.reverse ++ List.replicate slashes '\\' ++ text).isEmpty then []
      else [.plain (plain.reverse ++ List.replicate slashes '\\' ++ text)] := by
  induction text using marked_rec generalizing plain slashes with
  | nil =>
    rw [piecesAfter]
    simp [and_comm]
  | backslash rest ih =>
    rw [piecesAfter_backslash, ih fun hrest => h (hrest.cons _), List.replicate_succ']
    simp
  | mark content after hcontent => exact absurd ⟨[], content, after, hcontent, rfl⟩ h
  | char c rest hc hmark ih =>
    rw [piecesAfter_char hc hmark, ih fun hrest => h (hrest.cons _)]
    simp

theorem marked_of_no_mark (h : ¬ HasMark text) : marked text = .ok ⟨showPlain text, []⟩ := by
  rw [marked, pieces, piecesAfter_of_no_mark h]
  cases text with
  | nil =>
    have hnil : showPlain [] = [] := by decide +kernel
    rw [hnil]
    rfl
  | cons c rest =>
    change Except.ok (Marked.mk (showPlain (c :: rest) ++ []) []) = _
    rw [List.append_nil]

theorem read_of_no_mark (h : ¬ HasMark text) : read text = .ok (showPlain text) := by
  rw [read, marked_of_no_mark h]
  rfl

/-- A text that reading leaves as it is. -/
structure IsLiteral (text : Text) : Prop where
  no_mark : ¬ HasMark text
  no_escape : ¬ ['\\', '['] <:+: text
  no_emoji : replaceEmoji text = text
  no_control : ∀ c ∈ text, isDropped c = false

theorem showPlain_eq_self_iff :
    showPlain text = text ↔
      ¬ ['\\', '['] <:+: text ∧ replaceEmoji text = text ∧ ∀ c ∈ text, isDropped c = false := by
  have hescape : Text.replaceAll "\\[" "[" text = text ↔ ¬ ['\\', '['] <:+: text :=
    Text.replaceFrom_eq_self_iff unescape_smaller
  have hfirst : Text.Shrinks (Text.replaceAll "\\[" "[" text) text := Text.replaceFrom_shrinks unescape_smaller text
  have hlast := Text.Shrinks.filter (fun c => !isDropped c) (replaceEmoji (Text.replaceAll "\\[" "[" text))
  have hemoji := replaceEmoji_shrinks (Text.replaceAll "\\[" "[" text)
  rw [← hescape]
  constructor
  · -- each step is between the text and itself
    intro h
    rw [showPlain] at h
    rw [h] at hlast
    have hsame := hfirst.antisymm (hlast.trans hemoji)
    rw [hsame] at h hemoji hlast
    have hshown := hemoji.antisymm hlast
    rw [hshown] at h
    exact ⟨hsame, hshown, fun c hc => by simpa using List.filter_eq_self.mp h c hc⟩
  · rintro ⟨hsame, hshown, hcontrol⟩
    rw [showPlain, hsame, hshown, List.filter_eq_self]
    exact fun c hc => by rw [hcontrol c hc]; rfl

/-- **Which texts are shown as they are**: those without marks, without backslashes in front of opening brackets,
without names of emoji, and without controls. -/
theorem read_eq_self_iff : read text = .ok text ↔ IsLiteral text := by
  constructor
  · intro h
    have hmark : ¬ HasMark text := by
      intro hmark
      obtain ⟨marked, hmarked, htext⟩ := map_eq_ok_iff.mp h
      obtain ⟨number, content, hmem⟩ := mem_of_hasMark hmark 0
      have hsmaller := (showPieces_shrinks hmarked).2 number content hmem
      rw [htext, pieces, flatMap_source_piecesAfter] at hsmaller
      exact Text.Smaller.irrefl _ hsmaller
    rw [read_of_no_mark hmark] at h
    obtain ⟨hescape, hemoji, hcontrol⟩ := showPlain_eq_self_iff.mp (Except.ok.inj h)
    exact ⟨hmark, hescape, hemoji, hcontrol⟩
  · intro h
    rw [read_of_no_mark h.no_mark, showPlain_eq_self_iff.mpr ⟨h.no_escape, h.no_emoji, h.no_control⟩]

end Markup

end Terminal

end BraceLink
