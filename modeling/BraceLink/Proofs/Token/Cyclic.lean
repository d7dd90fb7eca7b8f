import BraceLink.Proofs.Token.Grammar

/-!
# Tokens from negative offsets on

A negative offset counts from the end of a text, and a scan that begins there goes on at the beginning of the text:
it reads the text as if it stood there twice (`view_eq_doubled`). Only the payload is cut out of the text itself, so
one that runs over the end is lost, unless all of it stands at the beginning (`Stands.slice_around`). No payload
gets further than that, because on its way it would meet the brace that it began behind.

`Scans` is the scan as a loop over single characters, which goes on until it meets a character that ends it.
`scans_iff` says that it ends from every offset on, and with what; `at?_around` adds what that is behind a negative
offset.
-/

namespace BraceLink.Token

variable {source payload : Text}

/-! ### The loop over characters -/

/-- The character at an offset, which counts from the end if it is negative. Past the end there is none. -/
def charAt (source : Text) (pos : Int) : Except OffsetError (Option Char) :=
  if source.length + pos < 0 then .error .beforeStart
  else if pos < 0 then .ok source[(source.length + pos).toNat]?
  else .ok source[pos.toNat]?

/-- Where the search for a closing brace ends that begins at an offset: at a brace, or without one. -/
inductive Searches (source : Text) : Int → Option Int → Prop
  | closed {cursor : Int} (h : charAt source cursor = .ok (some Text.closeBrace)) :
    Searches source cursor (some cursor)
  | ended {cursor : Int} (h : charAt source cursor = .ok none) : Searches source cursor none
  | stopped {cursor : Int} {c : Char} (h : charAt source cursor = .ok (some c)) (hends : endsSearch c = true) :
    Searches source cursor none
  | next {cursor : Int} {c : Char} {found : Option Int} (h : charAt source cursor = .ok (some c))
    (hclose : c ≠ Text.closeBrace) (hends : endsSearch c = false) (hrest : Searches source (cursor + 1) found) :
    Searches source cursor found

/-- What the scan for a token ends with that begins at an offset. -/
inductive Scans (source : Text) (pos : Int) : Except OffsetError (Option Token) → Prop
  | outside {error : OffsetError} (h : charAt source pos = .error error) : Scans source pos (.error error)
  | plain {found : Option Char} (h : charAt source pos = .ok found) (hopen : found ≠ some Text.openBrace) :
    Scans source pos (.ok none)
  | unclosed (hopen : charAt source pos = .ok (some Text.openBrace)) (hsearch : Searches source (pos + 1) none) :
    Scans source pos (.ok none)
  | followed {close : Int} {c : Char} (hopen : charAt source pos = .ok (some Text.openBrace))
    (hsearch : Searches source (pos + 1) (some close)) (hfollow : charAt source (close + 1) = .ok (some c))
    (hbracket : isBracket c = true) : Scans source pos (.ok none)
  | token {close : Int} {trailing : Option Char} (hopen : charAt source pos = .ok (some Text.openBrace))
    (hsearch : Searches source (pos + 1) (some close)) (hfollow : charAt source (close + 1) = .ok trailing)
    (hfree : ∀ c, trailing = some c → isBracket c = false) :
    Scans source pos (.ok (some ⟨slice source (pos + 1) close, pos, close + 1, trailing⟩))

/-! ### What is read from an offset on -/

theorem view_of_nonneg {pos : Int} (h : 0 ≤ pos) : view source pos = source.drop pos.toNat :=
  if_neg (Int.not_lt.mpr h)

theorem view_of_neg {pos : Int} (h : pos < 0) :
    view source pos = source.drop (source.length + pos).toNat ++ source := if_pos h

/-- Behind a negative offset the text is read as if it stood there twice. -/
theorem view_eq_doubled {k : Nat} (hk : k < source.length) :
    view source (k - source.length : Int) = (source ++ source).drop k := by
  have hplace : (source.length + (k - source.length : Int)).toNat = k := by omega
  rw [view_of_neg (by omega), hplace, List.drop_append_of_le_length (Nat.le_of_lt hk)]

theorem charAt_eq_head? {pos : Int} (h : 0 ≤ source.length + pos) :
    charAt source pos = .ok (view source pos).head? := by
  rw [charAt, if_neg (Int.not_lt.mpr h)]
  by_cases hneg : pos < 0
  · have hinside : (source.length + pos).toNat < source.length := by omega
    rw [if_pos hneg, view_of_neg hneg, List.head?_append, List.head?_drop, List.getElem?_eq_getElem hinside,
      Option.some_or]
  · rw [if_neg hneg, view_of_nonneg (Int.not_lt.mp hneg), List.head?_drop]

theorem inside_of_charAt {pos : Int} {found : Option Char} (h : charAt source pos = .ok found) :
    0 ≤ source.length + pos := by
  by_contra houtside
  rw [charAt, if_pos (Int.not_le.mp houtside)] at h
  cases h

theorem head?_of_charAt {pos : Int} {found : Option Char} (h : charAt source pos = .ok found) :
    (view source pos).head? = found := by
  rw [charAt_eq_head? (inside_of_charAt h)] at h
  exact Except.ok.inj h

theorem view_succ {pos : Int} (h : 0 ≤ source.length + pos) : view source (pos + 1) = (view source pos).tail := by
  by_cases hneg : pos < 0
  · obtain ⟨k, hk, rfl⟩ : ∃ k : Nat, k < source.length ∧ pos = k - source.length :=
      ⟨(source.length + pos).toNat, by omega, by omega⟩
    rw [view_eq_doubled hk, List.tail_drop]
    by_cases hlast : k + 1 < source.length
    · rw [← view_eq_doubled hlast]
      congr 1
      omega
    · -- behind the last character the text begins anew
      have hzero : (k - source.length + 1 : Int) = 0 := by omega
      have hend : k + 1 = source.length := by omega
      rw [hzero, view_of_nonneg (Int.le_refl 0), hend, List.drop_left]
      rfl
  · have hnext : (pos + 1).toNat = pos.toNat + 1 := by omega
    rw [view_of_nonneg (Int.not_lt.mp hneg), view_of_nonneg (by omega), List.tail_drop, hnext]

theorem view_add {pos : Int} (h : 0 ≤ source.length + pos) (k : Nat) :
    view source (pos + k) = (view source pos).drop k := by
  induction k with
  | zero => rw [Int.natCast_zero, Int.add_zero, List.drop_zero]
  | succ k ih => rw [Int.natCast_succ, ← Int.add_assoc, view_succ (by omega), ih, List.tail_drop]

theorem view_of_charAt_none {pos : Int} (h : charAt source pos = .ok none) : view source pos = [] :=
  List.head?_eq_none_iff.mp (head?_of_charAt h)

theorem view_of_charAt_some {pos : Int} {c : Char} (h : charAt source pos = .ok (some c)) :
    view source pos = c :: view source (pos + 1) := by
  obtain ⟨rest, hrest⟩ := List.head?_eq_some_iff.mp (head?_of_charAt h)
  rw [view_succ (inside_of_charAt h), hrest]
  rfl

/-- What follows a payload is read from the offset behind its closing brace on. -/
theorem view_behind {cursor : Int} {after : Text} (h : 0 ≤ source.length + cursor)
    (hsplit : split? (view source cursor) = some (payload, after)) :
    view source (cursor + payload.length + 1) = after := by
  obtain ⟨-, hview⟩ := split?_eq_some_iff.mp hsplit
  rw [view_succ (by omega), view_add h, hview, List.drop_left]
  rfl

/-! ### Where the loop ends -/

theorem ne_closeBrace_of_endsSearch {c : Char} (h : endsSearch c = true) : c ≠ Text.closeBrace := by
  rintro rfl
  revert h
  decide

theorem exists_searches {cursor : Int} (h : 0 ≤ source.length + cursor) : ∃ found, Searches source cursor found := by
  -- every step leaves one character less to be read
  induction hlength : (view source cursor).length generalizing cursor with
  | zero =>
    refine ⟨none, .ended ?_⟩
    rw [charAt_eq_head? h, List.length_eq_zero_iff.mp hlength]
    rfl
  | succ left ih =>
    obtain ⟨c, rest, hview⟩ := List.exists_cons_of_length_eq_add_one hlength
    have hchar : charAt source cursor = .ok (some c) := by
      rw [charAt_eq_head? h, hview]
      rfl
    by_cases hclose : c = Text.closeBrace
    · exact ⟨some cursor, .closed (hclose ▸ hchar)⟩
    · cases hends : endsSearch c with
      | true => exact ⟨none, .stopped hchar hends⟩
      | false =>
        have hleft : (view source (cursor + 1)).length = left := by
          rw [view_succ h, List.length_tail, hlength, Nat.add_sub_cancel]
        obtain ⟨found, hfound⟩ := ih (by omega) hleft
        exact ⟨found, .next hchar hclose hends hfound⟩

/-- Where the search ends, the scanner of lists finds the closing brace. -/
theorem Searches.eq_split? {cursor : Int} {found : Option Int} (hsearch : Searches source cursor found)
    (h : 0 ≤ source.length + cursor) :
    found = (split? (view source cursor)).map fun split => cursor + split.1.length := by
  induction hsearch with
  | closed hchar =>
    rw [view_of_charAt_some hchar, split?, if_pos rfl]
    simp
  | ended hchar =>
    rw [view_of_charAt_none hchar]
    rfl
  | stopped hchar hends =>
    rw [view_of_charAt_some hchar, split?, if_neg (ne_closeBrace_of_endsSearch hends), if_pos hends]
    rfl
  | next hchar hclose hends _ ih =>
    rw [view_of_charAt_some hchar, split?, if_neg hclose, if_neg (by simp [hends]), ih (by omega)]
    cases split? (view source _) with
    | none => rfl
    | some split =>
      simp only [Option.map_some, List.length_cons, Option.some.injEq]
      omega

/-- The token that the text itself shows where one is read whose payload closes at the offset. -/
def cut (source : Text) (pos close : Int) (trailing : Option Char) : Token :=
  ⟨slice source (pos + 1) close, pos, close + 1, trailing⟩

theorem at?_of_inside {pos : Int} (h : 0 ≤ source.length + pos) :
    at? source pos =
      .ok ((read? (view source pos)).map fun found => cut source pos (pos + 1 + found.1.length) found.2) :=
  if_neg (Int.not_lt.mpr h)

theorem at?_of_outside {pos : Int} (h : source.length + pos < 0) : at? source pos = .error .beforeStart := if_pos h

theorem at?_of_openBrace {pos : Int} {found : Option Int} (hopen : charAt source pos = .ok (some Text.openBrace))
    (hsearch : Searches source (pos + 1) found) :
    at? source pos = .ok (found.bind fun close =>
      if (view source (close + 1)).head?.any isBracket then none
      else some (cut source pos close (view source (close + 1)).head?)) := by
  have h := inside_of_charAt hopen
  rw [at?_of_inside h, view_of_charAt_some hopen, read?_openBrace, hsearch.eq_split? (by omega)]
  cases hsplit : split? (view source (pos + 1)) with
  | none => rfl
  | some split =>
    obtain ⟨payload, after⟩ := split
    have hafter := view_behind (by omega) hsplit
    simp only [Option.map_some, Option.bind_some, hafter]
    split_ifs <;> rfl

theorem exists_scans (source : Text) (pos : Int) : ∃ outcome, Scans source pos outcome := by
  by_cases houtside : source.length + pos < 0
  · exact ⟨_, .outside (if_pos houtside)⟩
  · have hinside := Int.not_lt.mp houtside
    have hchar := charAt_eq_head? hinside
    by_cases hopen : (view source pos).head? = some Text.openBrace
    · rw [hopen] at hchar
      obtain ⟨found, hsearch⟩ := exists_searches (by omega : 0 ≤ source.length + (pos + 1))
      cases found with
      | none => exact ⟨_, .unclosed hchar hsearch⟩
      | some close =>
        obtain ⟨split, -, hclose⟩ := Option.map_eq_some_iff.mp (hsearch.eq_split? (by omega)).symm
        have hfollow := charAt_eq_head? (by omega : 0 ≤ source.length + (close + 1))
        cases hnext : (view source (close + 1)).head? with
        | none => exact ⟨_, .token hchar hsearch (hnext ▸ hfollow) (by simp)⟩
        | some c =>
          rw [hnext] at hfollow
          cases hbracket : isBracket c with
          | true => exact ⟨_, .followed hchar hsearch hfollow hbracket⟩
          | false => exact ⟨_, .token hchar hsearch hfollow (by rintro _ ⟨⟩; exact hbracket)⟩
    · exact ⟨_, .plain hchar hopen⟩

theorem Scans.eq_at? {pos : Int} {outcome : Except OffsetError (Option Token)} (h : Scans source pos outcome) :
    outcome = at? source pos := by
  cases h with
  | outside hchar =>
    unfold charAt at hchar
    split_ifs at hchar with houtside
    cases hchar
    exact (at?_of_outside houtside).symm
  | plain hchar hopen =>
    have hnone : read? (view source pos) = none := by
      have hfound := head?_of_charAt hchar
      cases hview : view source pos with
      | nil => rfl
      | cons c rest =>
        rw [hview] at hfound
        exact if_pos fun hc => hopen (by rw [← hfound, hc]; rfl)
    rw [at?_of_inside (inside_of_charAt hchar), hnone]
    rfl
  | unclosed hopen hsearch =>
    rw [at?_of_openBrace hopen hsearch]
    rfl
  | followed hopen hsearch hfollow hbracket =>
    rw [at?_of_openBrace hopen hsearch, Option.bind_some, head?_of_charAt hfollow, Option.any_some, if_pos hbracket]
  | @token close trailing hopen hsearch hfollow hfree =>
    have hnone : ¬ trailing.any isBracket = true := by
      cases trailing with
      | none => simp
      | some c => simp [hfree c rfl]
    rw [at?_of_openBrace hopen hsearch, Option.bind_some, head?_of_charAt hfollow, if_neg hnone]
    rfl

theorem scans_iff {pos : Int} {outcome : Except OffsetError (Option Token)} :
    Scans source pos outcome ↔ outcome = at? source pos := by
  refine ⟨Scans.eq_at?, ?_⟩
  rintro rfl
  obtain ⟨outcome, hscan⟩ := exists_scans source pos
  rwa [← hscan.eq_at?]

/-! ### Payloads behind negative offsets -/

theorem clampOffset_of_neg {size : Nat} {pos : Int} (h : pos < 0) : clampOffset size pos = (size + pos).toNat :=
  if_pos h

theorem clampOffset_of_nonneg {size : Nat} {pos : Int} (h : 0 ≤ pos) : clampOffset size pos = min pos.toNat size :=
  if_neg (Int.not_lt.mpr h)

section

variable {k : Nat}

theorem Stands.take_drop (h : Stands source k payload) : (source.drop (k + 1)).take payload.length = payload := by
  rw [← List.tail_drop, h.drop_eq, List.cons_append, List.tail_cons, List.take_left]

/-- In a text that stands twice, a token that begins in the first copy ends before that brace comes again. -/
theorem Stands.length_add_two_le (hk : k < source.length) (h : Stands (source ++ source) k payload) :
    payload.length + 2 ≤ source.length := by
  have hopen : source[k]? = some Text.openBrace := by
    rw [← h.getElem?_eq_openBrace, List.getElem?_append_left hk]
  have hagain : (source ++ source)[k + source.length]? = some Text.openBrace := by
    rw [List.getElem?_append_right (Nat.le_add_left _ _), Nat.add_sub_cancel, hopen]
  by_contra hlong
  exact h.getElem?_ne_openBrace (by omega) (by omega) hagain

/-- Of a payload that begins behind a negative offset, the text itself shows all if it stands in one piece, and
nothing otherwise. -/
theorem Stands.slice_around (hk : k < source.length) (h : Stands (source ++ source) k payload) :
    slice source (k - source.length + 1) (k - source.length + 1 + payload.length) =
      if k + payload.length + 2 ≤ source.length ∨ k + 1 = source.length then payload else [] := by
  have htake := h.take_drop
  have hlength := h.length_add_two_le hk
  rw [List.drop_append_of_le_length (Nat.succ_le_of_lt hk), Nat.succ_eq_add_one] at htake
  by_cases hlast : k + 1 = source.length
  · -- the whole payload stands at the beginning
    have hfirst : (k - source.length + 1 : Int) = (0 : Nat) := by omega
    have hclose : ((0 : Nat) + payload.length : Int) = payload.length := by omega
    rw [hlast, List.drop_length, List.nil_append] at htake
    rw [if_pos (Or.inr hlast), hfirst, hclose, slice_natCast, List.drop_zero, Nat.sub_zero, htake]
  · have hfirst : clampOffset source.length (k - source.length + 1) = k + 1 := by
      rw [clampOffset_of_neg (by omega)]
      omega
    by_cases hpiece : k + payload.length + 2 ≤ source.length
    · have hclose : clampOffset source.length (k - source.length + 1 + payload.length) = k + 1 + payload.length := by
        rw [clampOffset_of_neg (by omega)]
        omega
      have hlong : payload.length ≤ (source.drop (k + 1)).length := by
        rw [List.length_drop]
        omega
      rw [List.take_append_of_le_length hlong] at htake
      rw [if_pos (Or.inl hpiece), slice, hfirst, hclose, Nat.add_sub_cancel_left, htake]
    · -- the closing brace stands at the beginning, in front of the opening one
      have hclose : clampOffset source.length (k - source.length + 1 + payload.length) ≤ k + 1 := by
        rw [clampOffset_of_nonneg (by omega)]
        omega
      rw [if_neg (by omega), slice, hfirst, Nat.sub_eq_zero_of_le hclose, List.take_zero]

/-- The token that is read where one with this payload stands in the text that stands twice. -/
def around (source : Text) (k : Nat) (payload : Text) : Token :=
  { payload := if k + payload.length + 2 ≤ source.length ∨ k + 1 = source.length then payload else []
    start := k - source.length
    stop := k + payload.length + 2 - source.length
    trailing := (source ++ source)[k + payload.length + 2]? }

theorem at?_of_neg (hk : k < source.length) :
    at? source (k - source.length) =
      .ok ((read? ((source ++ source).drop k)).map fun found => around source k found.1) := by
  rw [at?_of_inside (by omega), view_eq_doubled hk]
  cases hread : read? ((source ++ source).drop k) with
  | none => rfl
  | some found =>
    obtain ⟨payload, trailing⟩ := found
    obtain ⟨hstands, rfl⟩ := read?_drop_eq_some_iff.mp hread
    have hstop : (k - source.length + 1 + payload.length + 1 : Int) = k + payload.length + 2 - source.length := by
      omega
    simp only [Option.map_some, cut, around, hstands.slice_around hk, hstop]

theorem at?_of_neg_eq_some_iff (hk : k < source.length) {token : Token} :
    at? source (k - source.length) = .ok (some token) ↔
      ∃ payload, Stands (source ++ source) k payload ∧ token = around source k payload := by
  rw [at?_of_neg hk, Except.ok.injEq, Option.map_eq_some_iff]
  constructor
  · rintro ⟨⟨payload, trailing⟩, hread, rfl⟩
    exact ⟨payload, (read?_drop_eq_some_iff.mp hread).1, rfl⟩
  · rintro ⟨payload, hstands, rfl⟩
    exact ⟨(payload, _), read?_drop_eq_some_iff.mpr ⟨hstands, rfl⟩, rfl⟩

end

/-- **Negative offsets.** From an offset that counts from the end, a token is read exactly if one is read at the same
place of the text that stands twice. It has the same offsets, counted from the end, and the same character behind
it. Its payload is the same if it closes before the end or begins with the text, and empty otherwise. Offsets before
the beginning are refused. From every offset on, the loop over single characters ends with this answer. -/
theorem at?_around (source : Text) (pos : Int) (hneg : pos < 0) :
    (-source.length ≤ pos →
      (∀ token, at? source pos = .ok (some token) ↔
        ∃ twice, at? (source ++ source) (pos + source.length) = .ok (some twice) ∧
          token.start = twice.start - source.length ∧ token.stop = twice.stop - source.length ∧
          token.trailing = twice.trailing ∧
          token.payload = if token.stop ≤ 0 ∨ pos = -1 then twice.payload else []) ∧
      (at? source pos = .ok none ↔ at? (source ++ source) (pos + source.length) = .ok none)) ∧
    (pos < -source.length → at? source pos = .error .beforeStart) ∧
    ∀ outcome, Scans source pos outcome ↔ outcome = at? source pos := by
  refine ⟨fun hinside => ?_, fun houtside => at?_of_outside (by omega), fun outcome => scans_iff⟩
  obtain ⟨k, hk, rfl⟩ : ∃ k : Nat, k < source.length ∧ pos = k - source.length :=
    ⟨(source.length + pos).toNat, by omega, by omega⟩
  have hplace : (k - source.length + source.length : Int) = k := by omega
  rw [hplace]
  refine ⟨fun token => ?_, ?_⟩
  · simp only [at?_of_neg_eq_some_iff hk, at?_eq_some_iff]
    have hcase : ∀ payload : Text, (k + payload.length + 2 ≤ source.length ∨ k + 1 = source.length) ↔
        ((k + payload.length + 2 - source.length : Int) ≤ 0 ∨ (k - source.length : Int) = -1) := fun payload => by
      omega
    constructor
    · rintro ⟨payload, hstands, rfl⟩
      refine ⟨_, ⟨payload, hstands, rfl⟩, rfl, rfl, rfl, ?_⟩
      simp only [around, standing, hcase]
    · rintro ⟨_, ⟨payload, hstands, rfl⟩, hstart, hstop, htrailing, hpayload⟩
      refine ⟨payload, hstands, ?_⟩
      cases token
      simp only [standing] at hstart hstop htrailing hpayload
      simp only [around, hcase, Token.mk.injEq]
      exact ⟨by rw [hpayload, hstop], hstart, hstop, htrailing⟩
  · rw [at?_of_neg hk, at?_natCast, Except.ok.injEq, Except.ok.injEq, Option.map_eq_none_iff, Option.map_eq_none_iff]

/-- A token that begins in front of the last letter and ends behind the first one, so that its payload is lost, one
that begins with the last character, and an offset before the beginning. -/
theorem at?_around_lost :
    (-2 : Int) < 0 ∧ at? "b\x7d \x7ba" (-2) = .ok (some ⟨[], -2, 2, some ' '⟩) ∧
    (-1 : Int) < 0 ∧ at? "ab\x7d \x7b" (-1) = .ok (some ⟨"ab", -1, 3, some ' '⟩) ∧
    (-6 : Int) < 0 ∧ at? "b\x7d \x7ba" (-6) = .error .beforeStart ∧
    Scans "b\x7d \x7ba" (-2) (.ok (some ⟨[], -2, 2, some ' '⟩)) := by
  have hlost : at? "b\x7d \x7ba" (-2) = .ok (some ⟨[], -2, 2, some ' '⟩) := by
    refine (((at?_around "b\x7d \x7ba" (-2) (by decide)).1 (by decide)).1 _).mpr ⟨⟨"ab", 3, 7, some ' '⟩, ?_⟩
    decide
  have hlast : at? "ab\x7d \x7b" (-1) = .ok (some ⟨"ab", -1, 3, some ' '⟩) := by
    refine (((at?_around "ab\x7d \x7b" (-1) (by decide)).1 (by decide)).1 _).mpr ⟨⟨"ab", 4, 8, some ' '⟩, ?_⟩
    decide
  refine ⟨by decide, hlost, by decide, hlast, by decide, ?_, ?_⟩
  · exact (at?_around "b\x7d \x7ba" (-6) (by decide)).2.1 (by decide)
  · exact ((at?_around "b\x7d \x7ba" (-2) (by decide)).2.2 _).mpr hlost.symm

end BraceLink.Token
