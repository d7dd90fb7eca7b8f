import BraceLink.Proofs.Outcome
import BraceLink.Yaml.Token
import Mathlib.Algebra.Group.Nat.Defs
import Mathlib.Data.List.Basic
import Mathlib.Data.List.TakeWhile

/-!
# Reading tokens

A cursor only moves on in its text (`Cursor.Within`), and reading a part of a document fails because the text is
malformed there or because a number that is written in the text is too large (`Blocked`): the code of a character
or the number of a version.
-/

namespace BraceLink.Yaml

/-! ### Cursors -/

namespace Cursor

variable {c : Cursor} {text : Text}

def Within (c : Cursor) (text : Text) : Prop := c.rest <:+ text

theorem rest_next (c : Cursor) : c.next.rest = c.rest.tail := by
  unfold next
  split
  · next h => rw [h, List.tail_nil]
  · next h => split_ifs <;> rw [h, List.tail_cons]

theorem rest_advance (c : Cursor) (n : Nat) : (c.advance n).rest = c.rest.drop n := by
  induction n generalizing c with
  | zero => rfl
  | succ n ih => rw [advance, ih, rest_next, List.drop_tail]

theorem rest_readWhile (c : Cursor) (p : Char → Bool) :
    (c.readWhile p).1 ++ (c.readWhile p).2.rest = c.rest := by
  show c.rest.takeWhile p ++ (c.advance (c.rest.takeWhile p).length).rest = c.rest
  rw [rest_advance]
  obtain ⟨after, hafter⟩ := List.takeWhile_prefix (l := c.rest) p
  conv_lhs => arg 2; arg 2; rw [← hafter]
  rw [List.drop_left, hafter]

theorem of_mem_readWhile {p : Char → Bool} {d : Char} (h : d ∈ (c.readWhile p).1) : p d = true :=
  List.mem_takeWhile_imp h

theorem Within.advance (h : c.Within text) (n : Nat) : (c.advance n).Within text := by
  show (c.advance n).rest <:+ text
  rw [rest_advance]
  exact (List.drop_suffix n c.rest).trans h

theorem Within.next (h : c.Within text) : c.next.Within text := h.advance 1

theorem Within.readWhile (h : c.Within text) (p : Char → Bool) : (c.readWhile p).2.Within text := h.advance _

theorem Within.skipWhile (h : c.Within text) (p : Char → Bool) : (c.skipWhile p).Within text := h.advance _

theorem Within.skipSpaces (h : c.Within text) : c.skipSpaces.Within text := h.skipWhile _

theorem Within.skipComment (h : c.Within text) : c.skipComment.Within text := by
  unfold Cursor.skipComment
  split_ifs
  · exact h.skipWhile _
  · exact h

theorem Within.readBreak {first : Char} {after : Cursor} (h : c.Within text)
    (hbreak : c.readBreak? = some (first, after)) : after.Within text := by
  unfold readBreak? at hbreak
  split at hbreak
  · split_ifs at hbreak
    cases hbreak
    exact h.next
  · cases hbreak

theorem Within.skipBreak (h : c.Within text) : c.skipBreak.Within text := by
  unfold Cursor.skipBreak
  split
  · next hbreak => exact h.readBreak hbreak
  · exact h

end Cursor

/-! ### Reasons to fail -/

/-- A number at the beginning of a text that is too large to be read: the code of a character beyond the last one,
or a number of more than 4300 digits in the version of a document. -/
inductive Overflows : Text → Error → Prop
  | code {digits after : Text} (hlength : digits.length = 8) (hdigits : digits.all Text.isHexDigit = true)
    (hcode : 0x110000 ≤ Text.hexNumber digits) :
    Overflows ('\\' :: 'U' :: (digits ++ after))
      (if 0x80000000 ≤ Text.hexNumber digits then .hugeCode else .badNumber)
  | version {spaces major digits after : Text} (hspaces : ∀ c ∈ spaces, c = ' ')
    (hmajor : major = [] ∨ ∃ number : Text, (∀ d ∈ number, d.isDigit = true) ∧ major = number ++ ['.'])
    (hlength : 4300 < digits.length) (hdigits : ∀ d ∈ digits, d.isDigit = true) :
    Overflows ("%YAML".toList ++ (spaces ++ (major ++ (digits ++ after)))) .badNumber

/-- Somewhere in the text stands a number that is too large to be read. -/
def Blocked (text : Text) (error : Error) : Prop := ∃ part, part <:+ text ∧ Overflows part error

theorem Blocked.ne_malformed {text : Text} {error : Error} (h : Blocked text error) : error ≠ .malformed := by
  obtain ⟨part, -, hover⟩ := h
  cases hover with
  | code =>
    split
    · exact Error.noConfusion
    · exact Error.noConfusion
  | version => exact Error.noConfusion

/-- The result is as wanted, or the text is malformed, or it holds a number that cannot be read. -/
abbrev Safe {α : Type} (text : Text) (P : α → Prop) (result : Except Error α) : Prop :=
  Outcome P (fun error => error = .malformed ∨ Blocked text error) result

abbrev Reads {α : Type} (text : Text) (result : Except Error (α × Cursor)) : Prop :=
  Safe text (fun found => found.2.Within text) result

theorem malformed_safe {α : Type} {text : Text} {P : α → Prop} : Safe text P (.error .malformed) := Or.inl rfl

section

variable {text : Text} {c : Cursor}

/-! ### Quoted scalars -/

theorem hexValue_lt (c : Char) : (Text.hexValue? c).getD 0 < 16 := by
  unfold Text.hexValue?
  split_ifs with hdigit hlower hupper
  · have hle : c.toNat ≤ '9'.toNat := hdigit.2
    show c.toNat - 48 < 16
    change c.toNat ≤ 57 at hle
    omega
  · have hle : c.toNat ≤ 'f'.toNat := hlower.2
    show c.toNat - 97 + 10 < 16
    change c.toNat ≤ 102 at hle
    omega
  · have hle : c.toNat ≤ 'F'.toNat := hupper.2
    show c.toNat - 65 + 10 < 16
    change c.toNat ≤ 70 at hle
    omega
  · show 0 < 16
    omega

theorem hexNumber_lt (digits : Text) : Text.hexNumber digits < 16 ^ digits.length := by
  have hfold : ∀ n, digits.foldl (fun n c => n * 16 + (Text.hexValue? c).getD 0) n < (n + 1) * 16 ^ digits.length := by
    induction digits with
    | nil =>
      intro n
      simp
    | cons c rest ih =>
      intro n
      have hvalue := hexValue_lt c
      calc (c :: rest).foldl (fun n c => n * 16 + (Text.hexValue? c).getD 0) n
          < (n * 16 + (Text.hexValue? c).getD 0 + 1) * 16 ^ rest.length := ih _
        _ ≤ ((n + 1) * 16) * 16 ^ rest.length := Nat.mul_le_mul_right _ (by omega)
        _ = (n + 1) * 16 ^ (c :: rest).length := by rw [List.length_cons, Nat.pow_succ, Nat.mul_assoc, Nat.mul_comm 16]
  have h := hfold 0
  rwa [Nat.zero_add, Nat.one_mul] at h

theorem code?_eq_some {width code : Nat} {part : Text} (h : code? width part = some code) :
    (part.take width).length = width ∧ (part.take width).all Text.isHexDigit = true ∧
      code = Text.hexNumber (part.take width) := by
  unfold code? at h
  dsimp only at h
  split_ifs at h with hdigits
  rw [Bool.and_eq_true, decide_eq_true_eq] at hdigits
  exact ⟨hdigits.1, hdigits.2, (Option.some.inj h).symm⟩

theorem eq_of_codeWidth? {letter : Char} {width code : Nat} (hwidth : codeWidth? letter = some width)
    (hlt : code < 16 ^ width) (hcode : 0x110000 ≤ code) : width = 8 ∧ letter = 'U' := by
  unfold codeWidth? at hwidth
  split at hwidth
  · cases hwidth
    omega
  · cases hwidth
    omega
  · cases hwidth
    exact ⟨rfl, rfl⟩
  · cases hwidth

theorem codedChar_reads {letter : Char} {width : Nat} (hwidth : codeWidth? letter = some width)
    (h : '\\' :: letter :: c.rest <:+ text) : Reads text (codedChar width c) := by
  have hwithin : c.Within text := (List.suffix_cons _ _).trans ((List.suffix_cons _ _).trans h)
  unfold codedChar
  split
  · exact malformed_safe
  · next code hcode =>
    obtain ⟨hlength, hdigits, rfl⟩ := code?_eq_some hcode
    have hlt := hexNumber_lt (c.rest.take width)
    rw [hlength] at hlt
    have hblocked : 0x110000 ≤ Text.hexNumber (c.rest.take width) →
        Blocked text (if 0x80000000 ≤ Text.hexNumber (c.rest.take width) then .hugeCode else .badNumber) := by
      intro hcode
      -- Two and four digits are too few for a code beyond the last character.
      obtain ⟨rfl, rfl⟩ := eq_of_codeWidth? hwidth hlt hcode
      refine ⟨_, h, ?_⟩
      have hover : Overflows ('\\' :: 'U' :: (c.rest.take 8 ++ c.rest.drop 8)) _ := .code hlength hdigits hcode
      rwa [List.take_append_drop] at hover
    have hhalf : Cursor.Within { c.advance width with halves := true } text := hwithin.advance width
    refine .ite (fun hhuge => ?_) fun hhuge => .ite (fun hlarge => ?_) fun _ => .ite (fun _ => ?_) fun _ => ?_
    · rw [if_pos hhuge] at hblocked
      exact Or.inr (hblocked (by omega))
    · rw [if_neg hhuge] at hblocked
      exact Or.inr (hblocked hlarge)
    · exact hwithin.advance width
    · dsimp only
      split
      · exact hhalf.advance 6
      · exact hhalf

theorem quotedLines_reads (fuel : Nat) (h : c.Within text) : Reads text (quotedLines fuel c) := by
  induction fuel generalizing c with
  | zero => exact malformed_safe
  | succ fuel ih =>
    rw [quotedLines]
    split_ifs
    · exact malformed_safe
    · dsimp only
      split
      · exact h.skipWhile _
      · next hbreak =>
        have hafter := (h.skipWhile isBlank).readBreak hbreak
        exact (ih hafter).bind fun _ hlast => hlast

theorem quotedSpace_reads (h : c.Within text) : Reads text (quotedSpace c) := by
  have hblank := h.readWhile isBlank
  unfold quotedSpace
  dsimp only
  split
  · split_ifs
    · exact malformed_safe
    · exact hblank
  · next hbreak => exact (quotedLines_reads _ (hblank.readBreak hbreak)).bind fun _ hlast => hlast

theorem escape_reads (h : '\\' :: c.rest <:+ text) : Reads text (escape c) := by
  have hwithin : c.Within text := (List.suffix_cons _ _).trans h
  unfold escape
  split
  · exact malformed_safe
  · next first rest hrest =>
    split
    · exact hwithin.next
    · next width _ hwidth =>
      have hnext : first :: c.next.rest = c.rest := by
        rw [Cursor.rest_next, hrest, List.tail_cons]
      rw [← hnext] at h
      exact (codedChar_reads hwidth h).map fun _ hafter => hafter
    · split
      · next hbreak => exact quotedLines_reads _ (hwithin.readBreak hbreak)
      · exact malformed_safe

theorem quotedFrom_reads (quote : Char) (fuel : Nat) (h : c.Within text) : Reads text (quotedFrom quote fuel c) := by
  induction fuel generalizing c with
  | zero => exact malformed_safe
  | succ fuel ih =>
    rw [quotedFrom]
    split
    · exact malformed_safe
    · next first rest hrest =>
      split_ifs with hquote htwice hspace hescape
      · exact (ih (h.advance 2)).bind fun _ hafter => hafter
      · exact h.next
      · exact (quotedSpace_reads h).bind fun part hpart => (ih hpart).bind fun _ hafter => hafter
      · have hcurrent : '\\' :: c.next.rest <:+ text := by
          rw [Bool.and_eq_true, decide_eq_true_eq, decide_eq_true_eq] at hescape
          rw [Cursor.rest_next, hrest, List.tail_cons, ← hescape.2, ← hrest]
          exact h
        exact (escape_reads hcurrent).bind fun part hpart => (ih hpart).bind fun _ hafter => hafter
      · exact (ih h.next).bind fun _ hafter => hafter

theorem quotedText_reads (quote : Char) (h : c.Within text) : Reads text (quotedText quote c) :=
  quotedFrom_reads quote _ h.next

/-! ### Plain scalars and blocks -/

theorem plainSpace_within (h : c.Within text) : (plainSpace c).2.1.Within text := by
  have hblank := h.readWhile (· = ' ')
  unfold plainSpace
  dsimp only
  split
  · exact hblank
  · next hbreak =>
    have hafter := hblank.readBreak hbreak
    split
    · exact hafter
    · exact hafter.advance _

theorem plainFrom_within (inFlow : Bool) (indent : Int) (fuel : Nat) (space : Text) (ended : Bool)
    (h : c.Within text) : (plainFrom inFlow indent fuel space ended c).2.Within text := by
  induction fuel generalizing c space ended with
  | zero => exact h
  | succ fuel ih =>
    rw [plainFrom]
    dsimp only
    generalize (if c.rest.head? = some '#' then [] else plainPart inFlow c.rest) = part
    have hspace := plainSpace_within (h.advance part.length)
    split_ifs
    · exact h
    · exact hspace
    · exact ih _ _ hspace

theorem plain_within (inFlow : Bool) (indent : Int) (h : c.Within text) : (plain inFlow indent c).2.Within text :=
  plainFrom_within _ _ _ _ _ h

theorem blockRemarks_reads (h : c.Within text) : Reads text (blockRemarks c) := by
  unfold blockRemarks
  extract_lets digit? sign?
  split
  next chomping increment after hremarks =>
  have hafter : after.Within text := by
    split at hremarks
    · split at hremarks <;> cases hremarks
      · exact h.advance 2
      · exact h.next
    · split at hremarks
      · split at hremarks <;> cases hremarks
        · exact h.advance 2
        · exact h.next
      · cases hremarks
        exact h
  dsimp only
  split
  · exact malformed_safe
  · split
    · exact malformed_safe
    · exact hafter

theorem restOfLine_safe (h : c.Within text) : Safe text (·.Within text) (restOfLine c) := by
  unfold restOfLine
  dsimp only
  split_ifs
  · exact h.skipSpaces.skipComment.skipBreak
  · exact malformed_safe

theorem blockStart_within (fuel widest : Nat) (h : c.Within text) : (blockStart fuel widest c).2.Within text := by
  induction fuel generalizing c widest with
  | zero => exact h
  | succ fuel ih =>
    rw [blockStart]
    split_ifs
    · exact ih _ h.next
    · split
      · next hbreak => exact ih _ (h.readBreak hbreak)
      · exact h

theorem blockBreaks_within (indent fuel : Nat) (h : c.Within text) : (blockBreaks indent fuel c).2.Within text := by
  induction fuel generalizing c with
  | zero => exact h
  | succ fuel ih =>
    rw [blockBreaks]
    split_ifs
    · exact ih h.next
    · split
      · next hbreak => exact ih (h.readBreak hbreak)
      · exact h

theorem blockLines_within (fold : Bool) (chomping : Chomping) (indent fuel : Nat) (breaks : Text)
    (h : c.Within text) : (blockLines fold chomping indent fuel breaks c).2.Within text := by
  induction fuel generalizing c breaks with
  | zero => exact h
  | succ fuel ih =>
    rw [blockLines]
    split
    next line after hline =>
    have hafter : after.Within text := (Prod.mk.inj hline).2 ▸ h.readWhile _
    split
    next ending start hending =>
    have hstart : start.Within text := by
      split at hending
      · next hbreak =>
        cases hending
        exact hafter.readBreak hbreak
      · cases hending
        exact hafter
    split
    next breaks' after' hbreaks =>
    have hafter' : after'.Within text := by
      have h := blockBreaks_within indent (start.rest.length + 1) hstart
      rwa [hbreaks] at h
    dsimp only
    split
    · exact ih _ hafter'
    · exact hafter'

theorem block_reads (fold : Bool) (indent : Int) (h : c.Within text) : Reads text (block fold indent c) := by
  unfold block
  refine (blockRemarks_reads h.next).bind ?_
  rintro ⟨⟨chomping, increment⟩, after⟩ hafter
  refine (restOfLine_safe hafter).bind fun start hstart => ?_
  extract_lets least fuel
  split
  next breaks indent' c' hfound =>
  have hc' : c'.Within text := by
    split at hfound
    · next digit =>
      have hbehind : (blockBreaks (least + digit - 1) fuel start).2 = c' := congrArg (·.2.2) hfound
      rw [← hbehind]
      exact blockBreaks_within _ _ hstart
    · have hbehind : (blockStart fuel 0 start).2 = c' := congrArg (·.2.2) hfound
      rw [← hbehind]
      exact blockStart_within _ _ hstart
  split_ifs
  · exact blockLines_within _ _ _ _ _ hc'
  · exact hc'
  · exact hc'

/-! ### Names and tags -/

theorem anchorName_reads (h : c.Within text) : Reads text (anchorName c) := by
  have hafter := h.next.readWhile isNameChar
  unfold anchorName
  dsimp only
  split_ifs
  · exact malformed_safe
  · exact hafter

theorem tagChars_reads (fuel : Nat) (h : c.Within text) : Reads text (tagChars fuel c) := by
  induction fuel generalizing c with
  | zero => exact malformed_safe
  | succ fuel ih =>
    rw [tagChars]
    split
    · exact h
    · split_ifs
      · exact h
      · split
        · exact malformed_safe
        · split
          · exact malformed_safe
          · exact (ih (h.advance _)).bind fun _ hafter => hafter
      · exact (ih h.next).bind fun _ hafter => hafter

theorem tagText_reads (h : c.Within text) : Reads text (tagText c) := by
  refine (tagChars_reads _ h).bind fun found hafter => ?_
  dsimp only
  split
  · exact malformed_safe
  · exact hafter

theorem tagHandle_reads (h : c.Within text) : Reads text (tagHandle c) := by
  have hafter := h.next.readWhile isNameChar
  unfold tagHandle
  split_ifs
  · exact malformed_safe
  · dsimp only
    split
    · exact hafter.next
    · split_ifs
      · exact hafter
      · exact malformed_safe
    · exact malformed_safe

theorem writtenTag_reads (h : c.Within text) : Reads text (writtenTag c) := by
  have hend : ∀ (tag : WrittenTag) (after : Cursor), after.Within text →
      Reads text (if endsTag after.rest = true then .ok (tag, after) else .error .malformed) := by
    intro tag after hafter
    split
    · exact hafter
    · exact malformed_safe
  have htext : ∀ (handle : Text) (after : Cursor), after.Within text →
      Reads text (tagText after >>= fun found =>
        if endsTag found.2.rest then return (({ handle := some handle, rest := found.1 } : WrittenTag), found.2)
        else throw .malformed) :=
    fun handle after hafter => (tagText_reads hafter).bind fun found hfound => hend _ _ hfound
  unfold writtenTag
  dsimp only
  split
  · refine (tagText_reads (h.advance 2)).bind fun found hafter => ?_
    split
    · exact malformed_safe
    · exact hend _ _ hafter.next
  · split
    · exact hend _ _ h.next
    · split
      · exact (tagHandle_reads h).bind fun found hfound => htext _ _ hfound
      · exact htext _ _ h.next

/-! ### Directives -/

theorem versionNumber_ok {number : Nat} {after : Cursor} (h : versionNumber c = .ok (number, after)) :
    ∃ digits : Text, (∀ d ∈ digits, d.isDigit = true) ∧ c.rest = digits ++ after.rest := by
  unfold versionNumber at h
  dsimp only at h
  split_ifs at h
  cases h
  exact ⟨_, fun d hd => Cursor.of_mem_readWhile hd, (c.rest_readWhile Char.isDigit).symm⟩

theorem versionNumber_error {error : Error} (h : versionNumber c = .error error) :
    error = .malformed ∨ error = .badNumber ∧ ∃ digits after : Text, c.rest = digits ++ after ∧
      4300 < digits.length ∧ ∀ d ∈ digits, d.isDigit = true := by
  unfold versionNumber at h
  dsimp only at h
  split_ifs at h with hempty hlong
  · exact Or.inl (Except.error.inj h).symm
  · exact Or.inr ⟨(Except.error.inj h).symm, _, _, (c.rest_readWhile Char.isDigit).symm, hlong,
      fun d hd => Cursor.of_mem_readWhile hd⟩

theorem rest_eq_cons {first : Char} (h : c.rest.head? = some first) : c.rest = first :: c.next.rest := by
  rw [Cursor.rest_next]
  cases hrest : c.rest with
  | nil => simp [hrest] at h
  | cons d rest =>
    rw [hrest] at h
    rw [Option.some.inj h, List.tail_cons]

theorem versionDirective_reads (h : "%YAML".toList ++ c.rest <:+ text) : Reads text (versionDirective c) := by
  have hwithin : c.Within text := (List.suffix_append _ _).trans h
  have hspaces : ∀ d ∈ (c.readWhile (· = ' ')).1, d = ' ' := fun d hd =>
    of_decide_eq_true (Cursor.of_mem_readWhile hd)
  have hrest : (c.readWhile (· = ' ')).1 ++ c.skipSpaces.rest = c.rest := c.rest_readWhile _
  rw [← hrest] at h
  unfold versionDirective
  -- Either number can be too large; `h` keeps what stands in front of it.
  cases hmajor : versionNumber c.skipSpaces with
  | error error =>
    rcases versionNumber_error hmajor with rfl | ⟨rfl, digits, after, hdigits, hlong, hall⟩
    · exact malformed_safe
    · rw [hdigits] at h
      exact Or.inr ⟨_, h, @Overflows.version _ [] _ _ hspaces (Or.inl rfl) hlong hall⟩
  | ok found =>
    obtain ⟨major, after⟩ := found
    obtain ⟨number, hnumber, hafter⟩ := versionNumber_ok hmajor
    have hafterWithin : after.Within text := by
      refine List.IsSuffix.trans ?_ (hwithin.skipSpaces)
      rw [hafter]
      exact List.suffix_append _ _
    rw [hafter] at h
    refine Outcome.bind (P := (· = (major, after))) rfl ?_
    rintro _ rfl
    dsimp only
    split
    · exact malformed_safe
    · next hpoint =>
      rw [rest_eq_cons (not_not.mp hpoint)] at h
      cases hminor : versionNumber after.next with
      | error error =>
        rcases versionNumber_error hminor with rfl | ⟨rfl, digits, rest, hdigits, hlong, hall⟩
        · exact malformed_safe
        · have hpart : number ++ '.' :: after.next.rest = (number ++ ['.']) ++ (digits ++ rest) := by
            rw [hdigits, List.append_assoc, List.singleton_append]
          rw [hpart] at h
          exact Or.inr ⟨_, h, Overflows.version hspaces (Or.inr ⟨number, hnumber, rfl⟩) hlong hall⟩
      | ok found =>
        obtain ⟨minor, behind⟩ := found
        obtain ⟨digits, -, hbehind⟩ := versionNumber_ok hminor
        have hbehindWithin : behind.Within text := by
          refine List.IsSuffix.trans ?_ hafterWithin.next
          rw [hbehind]
          exact List.suffix_append _ _
        refine Outcome.bind (P := (· = (minor, behind))) rfl ?_
        rintro _ rfl
        dsimp only
        split
        · exact hbehindWithin
        · exact malformed_safe

theorem handleDirective_reads (h : c.Within text) : Reads text (handleDirective c) := by
  refine (tagHandle_reads h.skipSpaces).bind ?_
  rintro ⟨handle, after⟩ hafter
  dsimp only at hafter ⊢
  split
  · exact malformed_safe
  · refine (tagText_reads hafter.skipSpaces).bind fun found hfound => ?_
    split
    · exact hfound
    · exact malformed_safe

theorem directive_reads (h : c.Within text) (hfirst : c.rest.head? = some '%') : Reads text (directive c) := by
  have hname := c.next.rest_readWhile isNameChar
  have hafter := h.next.readWhile isNameChar
  unfold directive
  split
  next name after hread =>
  rw [hread] at hname hafter
  dsimp only at hname hafter ⊢
  split
  · exact malformed_safe
  · have hend : ∀ found : Directive × Cursor, found.2.Within text →
        Reads text (do return (found.1, ← restOfLine found.2)) :=
      fun found hfound => (restOfLine_safe hfound).bind fun _ hlast => hlast
    split_ifs with hversion hhandle
    · have hrest : "%YAML".toList ++ after.rest = c.rest := by
        rw [rest_eq_cons hfirst, ← hname, hversion]
        rfl
      exact (versionDirective_reads (by rwa [hrest])).bind hend
    · exact (handleDirective_reads hafter).bind hend
    · exact hend _ (hafter.skipWhile _)

end

end BraceLink.Yaml
