import BraceLink.Proofs.Token.Grammar
import Mathlib.Data.Nat.Init

/-!
# The tokens of a text

A walk over a text (`Walk`) reads the token at its offset, if there is one, and goes on; how far it goes behind
a token is left open. No token begins inside of another one (`found?_inside`), so a walk that stays in the token
finds the same tokens however far it goes: all that the text has (`Walk.eq_foundFrom`). The scan of the library
is the walk that goes on behind each token (`walk_allFrom`), and `all_misses_none` puts this together.
-/

namespace BraceLink.Token

variable {source : Text} {pos : Nat} {token : Token}

/-! ### The token at an offset -/

/-- The token that stands at the offset. -/
def found? (source : Text) (pos : Nat) : Option Token :=
  match at? source pos with
  | .ok found => found
  | .error _ => none

theorem at?_eq_found? (source : Text) (pos : Nat) : at? source pos = .ok (found? source pos) := by
  rw [found?, at?_natCast]

theorem found?_eq_some_iff :
    found? source pos = some token ↔ ∃ payload, Stands source pos payload ∧ token = standing source pos payload := by
  rw [← at?_eq_some_iff, at?_eq_found?, Except.ok.injEq]

theorem found?_start (h : found? source pos = some token) : token.start = pos := by
  obtain ⟨payload, -, rfl⟩ := found?_eq_some_iff.mp h
  rfl

theorem found?_stop (h : found? source pos = some token) :
    token.stop = pos + token.length ∧ pos + 2 ≤ token.stop ∧ token.stop ≤ source.length := by
  obtain ⟨payload, hstands, rfl⟩ := found?_eq_some_iff.mp h
  have hstop := hstands.stop_le
  simp only [standing, length]
  omega

theorem found?_spelled (h : found? source pos = some token) :
    slice source token.start token.stop = Text.openBrace :: token.payload ++ [Text.closeBrace] := by
  obtain ⟨payload, hstands, rfl⟩ := found?_eq_some_iff.mp h
  have hlength : pos + payload.length + 2 - pos = (Text.openBrace :: payload ++ [Text.closeBrace]).length := by
    simp only [List.length_append, List.length_cons, List.length_nil]
    omega
  show slice source pos ((pos + payload.length + 2 : Nat) : Int) = _
  rw [slice_natCast, hlength]
  exact (List.prefix_iff_eq_take.mp hstands.spelled).symm

theorem found?_inside (h : found? source pos = some token) {inner : Nat} (hfirst : pos < inner)
    (hlast : inner < token.stop) : found? source inner = none := by
  obtain ⟨payload, hstands, rfl⟩ := found?_eq_some_iff.mp h
  have hbehind : inner < pos + payload.length + 2 := by
    simp only [standing] at hlast
    omega
  have hopen := hstands.getElem?_ne_openBrace hfirst hbehind
  refine Option.eq_none_iff_forall_ne_some.mpr fun other hother => ?_
  obtain ⟨payload', hstands', -⟩ := found?_eq_some_iff.mp hother
  exact hopen hstands'.getElem?_eq_openBrace

/-! ### All tokens from an offset on -/

/-- The tokens that stand at the offset or behind it. -/
def foundFrom (source : Text) (pos : Nat) : List Token :=
  (List.range' pos (source.length - pos)).filterMap (found? source)

theorem foundFrom_past (h : source.length ≤ pos) : foundFrom source pos = [] := by
  rw [foundFrom, Nat.sub_eq_zero_of_le h]
  rfl

theorem foundFrom_of_lt (h : pos < source.length) :
    foundFrom source pos = (found? source pos).toList ++ foundFrom source (pos + 1) := by
  have hcount : source.length - pos = source.length - (pos + 1) + 1 := by omega
  rw [foundFrom, hcount, List.range'_succ, List.filterMap_cons, foundFrom]
  cases found? source pos <;> rfl

theorem foundFrom_skip {next : Nat} (hle : pos ≤ next)
    (hfree : ∀ inner, pos ≤ inner → inner < next → found? source inner = none) :
    foundFrom source pos = foundFrom source next := by
  induction next, hle using Nat.le_induction with
  | base => rfl
  | succ next hle ih =>
    rw [ih fun inner hfirst hlast => hfree inner hfirst (by omega)]
    by_cases hpast : source.length ≤ next
    · rw [foundFrom_past hpast, foundFrom_past (by omega)]
    · rw [foundFrom_of_lt (by omega), hfree next hle (by omega)]
      rfl

theorem foundFrom_token (h : found? source pos = some token) {next : Nat} (hfirst : pos < next)
    (hlast : next ≤ token.stop) : foundFrom source pos = token :: foundFrom source next := by
  obtain ⟨-, hlower, hupper⟩ := found?_stop h
  have hskip : foundFrom source (pos + 1) = foundFrom source next :=
    foundFrom_skip hfirst fun inner hinner hnext => found?_inside h hinner (by omega)
  rw [foundFrom_of_lt (by omega), h, hskip]
  rfl

theorem mem_foundFrom_zero : token ∈ foundFrom source 0 ↔ ∃ pos, found? source pos = some token := by
  rw [foundFrom, List.mem_filterMap]
  constructor
  · rintro ⟨pos, -, hfound⟩
    exact ⟨pos, hfound⟩
  · rintro ⟨pos, hfound⟩
    obtain ⟨-, hlower, hupper⟩ := found?_stop hfound
    exact ⟨pos, List.mem_range'_1.mpr (by omega), hfound⟩

theorem pairwise_foundFrom (source : Text) (pos : Nat) :
    (foundFrom source pos).Pairwise fun first second => first.stop ≤ second.start := by
  rw [foundFrom, List.pairwise_filterMap]
  refine List.Pairwise.imp (fun {i j} hlt first hfirst second hsecond => ?_) List.pairwise_lt_range'
  -- otherwise the second token would begin inside of the first
  by_contra hstop
  rw [found?_start hsecond] at hstop
  rw [found?_inside hfirst hlt (by omega)] at hsecond
  cases hsecond

/-! ### Walks -/

/-- The tokens that a walk over the text reads from an offset on. Behind a token it goes on where `next` says,
and one character further where no token stands. -/
inductive Walk (source : Text) (next : Nat → Token → Nat) : Nat → List Token → Prop
  | past {pos : Nat} (hpast : source.length ≤ pos) : Walk source next pos []
  | token {pos : Nat} {token : Token} {tokens : List Token} (hat : at? source pos = .ok (some token))
      (hrest : Walk source next (next pos token) tokens) : Walk source next pos (token :: tokens)
  | character {pos : Nat} {tokens : List Token} (hpos : pos < source.length) (hat : at? source pos = .ok none)
      (hrest : Walk source next (pos + 1) tokens) : Walk source next pos tokens

/-- The walk gets on, and it never leaves out a character behind a token. -/
def StaysInside (source : Text) (next : Nat → Token → Nat) : Prop :=
  ∀ (pos : Nat) token, at? source pos = .ok (some token) → pos < next pos token ∧ next pos token ≤ token.stop

variable {next : Nat → Token → Nat} {tokens : List Token}

theorem Walk.eq_foundFrom (hnext : StaysInside source next) (h : Walk source next pos tokens) :
    tokens = foundFrom source pos := by
  induction h with
  | past hpast => rw [foundFrom_past hpast]
  | token hat _ ih =>
    obtain ⟨hfirst, hlast⟩ := hnext _ _ hat
    rw [at?_eq_found?, Except.ok.injEq] at hat
    rw [foundFrom_token hat hfirst hlast, ← ih]
  | character hpos hat _ ih =>
    rw [at?_eq_found?, Except.ok.injEq] at hat
    rw [foundFrom_of_lt hpos, hat, ← ih]
    rfl

theorem walk_foundFrom (hnext : StaysInside source next) (pos : Nat) :
    Walk source next pos (foundFrom source pos) := by
  -- what is left of the text gets shorter with every step
  induction hleft : source.length - pos using Nat.strong_induction_on generalizing pos with
  | h left ih =>
    by_cases hpast : source.length ≤ pos
    · rw [foundFrom_past hpast]
      exact .past hpast
    · have hpos : pos < source.length := by omega
      cases hfound : found? source pos with
      | none =>
        have hat : at? source pos = .ok none := by rw [at?_eq_found?, hfound]
        rw [foundFrom_of_lt hpos, hfound]
        exact .character hpos hat (ih _ (by omega) _ rfl)
      | some token =>
        have hat : at? source pos = .ok (some token) := by rw [at?_eq_found?, hfound]
        obtain ⟨hfirst, hlast⟩ := hnext pos token hat
        rw [foundFrom_token hfound hfirst hlast]
        exact .token hat (ih _ (by omega) _ rfl)

theorem walk_iff (hnext : StaysInside source next) :
    Walk source next pos tokens ↔ tokens = foundFrom source pos :=
  ⟨Walk.eq_foundFrom hnext, fun h => h ▸ walk_foundFrom hnext pos⟩

theorem staysInside_length (source : Text) : StaysInside source fun pos token => pos + token.length.toNat := by
  intro pos token hat
  rw [at?_eq_found?, Except.ok.injEq] at hat
  obtain ⟨hstop, hlower, -⟩ := found?_stop hat
  dsimp only
  omega

theorem staysInside_one (source : Text) : StaysInside source fun pos _ => pos + 1 := by
  intro pos token hat
  rw [at?_eq_found?, Except.ok.injEq] at hat
  obtain ⟨-, hlower, -⟩ := found?_stop hat
  dsimp only
  omega

theorem walk_allFrom {text : Text} (htext : text = source.drop pos) :
    Walk source (fun pos token => pos + token.length.toNat) pos (allFrom pos text) := by
  induction pos, text using allFrom.induct with
  | case1 pos =>
    rw [allFrom]
    exact .past (List.drop_eq_nil_iff.mp htext.symm)
  | case2 pos c rest hread ih =>
    have hrest : rest = source.drop (pos + 1) := by
      rw [← List.tail_drop, ← htext, List.tail_cons]
    have hpos : pos < source.length := by
      by_contra hpast
      rw [List.drop_eq_nil_of_le (by omega)] at htext
      cases htext
    have hat : at? source pos = .ok none := by rw [at?_natCast, ← htext, hread, Option.map_none]
    rw [allFrom, hread]
    exact .character hpos hat (ih hrest)
  | case3 pos c rest payload trailing hread stop ih =>
    rw [htext] at hread
    obtain ⟨hstands, rfl⟩ := read?_drop_eq_some_iff.mp hread
    have hat : at? source pos = .ok (some (standing source pos payload)) :=
      at?_eq_some_iff.mpr ⟨payload, hstands, rfl⟩
    have hbehind : pos + (standing source pos payload).length.toNat = stop := by
      simp only [standing, length, stop]
      omega
    have hrest : rest.drop (payload.length + 1) = source.drop stop := by
      have hcut := congrArg (List.drop (payload.length + 2)) htext
      rwa [List.drop_succ_cons, List.drop_drop, ← Nat.add_assoc] at hcut
    have hrecorded : allFrom pos (c :: rest) =
        standing source pos payload :: allFrom stop (rest.drop (payload.length + 1)) := by
      rw [allFrom, htext, hread]
      rfl
    rw [hrecorded]
    refine .token hat ?_
    rw [hbehind]
    exact ih hrest

theorem all_eq_foundFrom (source : Text) : all source = foundFrom source 0 :=
  (walk_allFrom rfl).eq_foundFrom (staysInside_length source)

/-- **A scan misses no token**: whether it goes on behind each token or one character behind its beginning, it
records the tokens of all offsets at which one stands, from left to right. They do not overlap, each reads as
its payload in braces, and none begins inside of another one. -/
theorem all_misses_none (source : Text) :
    (∀ tokens, Walk source (fun pos token => pos + token.length.toNat) 0 tokens ↔ tokens = all source) ∧
    (∀ tokens, Walk source (fun pos _ => pos + 1) 0 tokens ↔ tokens = all source) ∧
    all source = (List.range source.length).filterMap (found? source) ∧
    (∀ token, token ∈ all source ↔ ∃ pos : Nat, at? source pos = .ok (some token)) ∧
    (all source).Pairwise (fun first second => first.stop ≤ second.start) ∧
    (∀ token ∈ all source, token.start < token.stop ∧
      slice source token.start token.stop = Text.openBrace :: token.payload ++ [Text.closeBrace]) ∧
    (∀ (pos inner : Nat) token, at? source pos = .ok (some token) → pos < inner → inner < token.stop →
      at? source inner = .ok none) := by
  have hall := all_eq_foundFrom source
  refine ⟨fun tokens => ?_, fun tokens => ?_, ?_, fun token => ?_, ?_, fun token hmem => ?_, ?_⟩
  · rw [hall]
    exact walk_iff (staysInside_length source)
  · rw [hall]
    exact walk_iff (staysInside_one source)
  · rw [hall, foundFrom, Nat.sub_zero, List.range_eq_range']
  · rw [hall, mem_foundFrom_zero]
    exact exists_congr fun pos => by rw [at?_eq_found?, Except.ok.injEq]
  · rw [hall]
    exact pairwise_foundFrom source 0
  · rw [hall, mem_foundFrom_zero] at hmem
    obtain ⟨pos, hfound⟩ := hmem
    obtain ⟨-, hlower, -⟩ := found?_stop hfound
    refine ⟨?_, found?_spelled hfound⟩
    rw [found?_start hfound]
    omega
  · intro pos inner token hat hfirst hlast
    rw [at?_eq_found?, Except.ok.injEq] at hat
    rw [at?_eq_found?, found?_inside hat hfirst hlast]

/-- Of two tokens without anything between them only the second one counts. -/
theorem all_misses_none_adjacent :
    all "{a}{b} {c}" = [standing "{a}{b} {c}" 3 "b", standing "{a}{b} {c}" 7 "c"] ∧
    at? "{a}{b} {c}" 3 = .ok (some (standing "{a}{b} {c}" 3 "b")) ∧ at? "{a}{b} {c}" 4 = .ok none := by
  obtain ⟨-, -, hall, -, -, -, hinside⟩ := all_misses_none "{a}{b} {c}"
  have hat : at? "{a}{b} {c}" (3 : Nat) = .ok (some (standing "{a}{b} {c}" 3 "b")) := by decide
  refine ⟨?_, hat, hinside 3 4 _ hat (by decide) (by decide)⟩
  rw [hall]
  decide

end BraceLink.Token
