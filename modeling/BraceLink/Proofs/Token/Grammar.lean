import BraceLink.Token
import Mathlib.Data.List.Basic

/-!
# The grammar of tokens

`Stands source pos payload` says that a token with this payload stands at an offset: an opening brace,
the payload without brackets of any kind and without a line end, a closing brace, and behind it the end
or a character that is no bracket. `at?_reads_exactly` says that the scanner reads a token exactly where one
stands, and which one; the lemmas before it take the scanner apart (`split?`, `read?`, `slice`).
-/

namespace BraceLink.Token

/-- The characters that may not follow a token. -/
def brackets : Text := ['[', ']', Text.openBrace, Text.closeBrace, '(', ')']

/-- The characters that may not stand in a payload. -/
def payloadStops : Text := '\n' :: brackets

structure Stands (source : Text) (pos : Nat) (payload : Text) : Prop where
  payload_free : ∀ c ∈ payload, c ∉ payloadStops
  spelled : Text.openBrace :: payload ++ [Text.closeBrace] <+: source.drop pos
  follow_free : ∀ c, source[pos + payload.length + 2]? = some c → c ∉ brackets

def standing (source : Text) (pos : Nat) (payload : Text) : Token :=
  { payload := payload
    start := pos
    stop := pos + payload.length + 2
    trailing := source[pos + payload.length + 2]? }

theorem standing_stop_toNat (source : Text) (pos : Nat) (payload : Text) :
    (standing source pos payload).stop.toNat = pos + payload.length + 2 := by
  simp only [standing]
  omega

/-! ### The stop characters -/

theorem isBracket_iff (c : Char) : isBracket c = true ↔ c ∈ brackets := by
  simp only [isBracket, brackets, Bool.or_eq_true, decide_eq_true_eq, List.mem_cons,
    List.not_mem_nil, or_false]
  tauto

theorem not_mem_payloadStops_iff (c : Char) :
    c ∉ payloadStops ↔ c ≠ Text.closeBrace ∧ endsSearch c = false := by
  rw [payloadStops, List.mem_cons, ← isBracket_iff, endsSearch]
  by_cases hc : c = Text.closeBrace
  · simp [hc, isBracket]
  · simp [hc, and_comm]

/-! ### The scanner on a list -/

theorem split?_eq_some_iff {text payload after : Text} :
    split? text = some (payload, after) ↔
      (∀ c ∈ payload, c ∉ payloadStops) ∧ text = payload ++ Text.closeBrace :: after := by
  induction text generalizing payload with
  | nil => simp [split?]
  | cons c rest ih =>
    by_cases hclose : c = Text.closeBrace
    · rw [split?, if_pos hclose, Option.some.injEq, Prod.mk.injEq]
      constructor
      · rintro ⟨rfl, rfl⟩
        exact ⟨by simp, by simp [hclose]⟩
      · rintro ⟨hfree, htext⟩
        cases payload with
        | nil => exact ⟨rfl, (List.cons.inj htext).2⟩
        | cons d payload =>
          have hd := (not_mem_payloadStops_iff d).mp (hfree d (by simp))
          exact absurd ((List.cons.inj htext).1 ▸ hclose) hd.1
    · rw [split?, if_neg hclose]
      cases payload with
      | nil =>
        -- an empty payload needs the closing brace that `c` is not
        have hne : ¬ (c :: rest = [] ++ Text.closeBrace :: after) := fun h =>
          hclose (List.cons.inj h).1
        simp only [hne, and_false, iff_false]
        split_ifs <;> simp
      | cons d payload =>
        by_cases hends : endsSearch c = true
        · rw [if_pos hends]
          refine ⟨fun h => by simp at h, ?_⟩
          rintro ⟨hfree, htext⟩
          have hd := (not_mem_payloadStops_iff d).mp (hfree d (by simp))
          rw [← (List.cons.inj htext).1, hends] at hd
          exact absurd hd.2 (by simp)
        · rw [if_neg hends]
          have hc : c ∉ payloadStops :=
            (not_mem_payloadStops_iff c).mpr ⟨hclose, by simpa using hends⟩
          constructor
          · intro h
            obtain ⟨⟨p, a⟩, hp, he⟩ := Option.map_eq_some_iff.mp h
            obtain ⟨⟨rfl, rfl⟩, rfl⟩ := by simpa only [Prod.mk.injEq, List.cons.injEq] using he
            obtain ⟨hfree, rfl⟩ := ih.mp hp
            exact ⟨by simpa [hc] using hfree, by simp⟩
          · rintro ⟨hfree, htext⟩
            obtain ⟨rfl, hrest⟩ := List.cons.inj htext
            have hp := ih.mpr ⟨fun x hx => hfree x (by simp [hx]), hrest⟩
            rw [hp]
            rfl

/-- After an opening brace the scanner finds the payload and looks at what follows. -/
theorem read?_openBrace (rest : Text) :
    read? (Text.openBrace :: rest) = (split? rest).bind fun found =>
      if found.2.head?.any isBracket then none else some (found.1, found.2.head?) := by
  rw [read?, if_neg (by simp)]
  cases split? rest with
  | none => rfl
  | some found =>
    obtain ⟨payload, after⟩ := found
    cases after with
    | nil => rfl
    | cons next after => rfl

theorem read?_eq_some_iff {text payload : Text} {trailing : Option Char} :
    read? text = some (payload, trailing) ↔
      ∃ after, (∀ c ∈ payload, c ∉ payloadStops) ∧
        text = Text.openBrace :: payload ++ Text.closeBrace :: after ∧
        (∀ c, after.head? = some c → c ∉ brackets) ∧ trailing = after.head? := by
  cases text with
  | nil => simp [read?]
  | cons c rest =>
    by_cases hopen : c = Text.openBrace
    · subst hopen
      rw [read?_openBrace, Option.bind_eq_some_iff]
      have hany : ∀ after : Text, after.head?.any isBracket = false ↔
          ∀ c, after.head? = some c → c ∉ brackets := by
        intro after
        simp [← isBracket_iff, Option.any_eq_false_iff_get, Option.eq_some_iff_get_eq]
      constructor
      · rintro ⟨⟨p, after⟩, hsplit, h⟩
        split_ifs at h with hbracket
        obtain ⟨rfl, rfl⟩ := by simpa using h
        obtain ⟨hfree, rfl⟩ := split?_eq_some_iff.mp hsplit
        exact ⟨after, hfree, rfl, (hany after).mp (by simpa using hbracket), rfl⟩
      · rintro ⟨after, hfree, htext, hfollow, rfl⟩
        refine ⟨(payload, after), split?_eq_some_iff.mpr ⟨hfree, (List.cons.inj htext).2⟩, ?_⟩
        rw [if_neg (by rw [(hany after).mpr hfollow]; simp)]
    · rw [read?, if_pos hopen]
      refine ⟨fun h => by simp at h, ?_⟩
      rintro ⟨after, -, htext, -, -⟩
      exact absurd (List.cons.inj htext).1 hopen

/-! ### Offsets -/

theorem view_natCast (source : Text) (pos : Nat) : view source pos = source.drop pos := by
  rw [view, if_neg (by omega), Int.toNat_natCast]

theorem slice_natCast (text : Text) (start stop : Nat) :
    slice text start stop = (text.drop start).take (stop - start) := by
  have hclamp : ∀ n : Nat, clampOffset text.length n = min n text.length := by
    intro n
    rw [clampOffset, if_neg (by omega), Int.toNat_natCast]
  simp only [slice, hclamp]
  by_cases hstart : start ≤ text.length
  · rw [Nat.min_eq_left hstart]
    by_cases hstop : stop ≤ text.length
    · rw [Nat.min_eq_left hstop]
    · -- both cuts keep the whole rest of the text
      rw [List.take_of_length_le (by rw [List.length_drop]; omega),
        List.take_of_length_le (by rw [List.length_drop]; omega)]
  · have hpast : text.length ≤ start := by omega
    rw [Nat.min_eq_right hpast, List.drop_length, List.drop_eq_nil_of_le hpast]
    simp

theorem drop_behind {source payload after : Text} {pos : Nat}
    (h : source.drop pos = Text.openBrace :: payload ++ Text.closeBrace :: after) :
    source.drop (pos + payload.length + 2) = after := by
  rw [show pos + payload.length + 2 = pos + (payload.length + 2) by omega, ← List.drop_drop, h]
  simp

theorem read?_drop_eq_some_iff {source payload : Text} {pos : Nat} {trailing : Option Char} :
    read? (source.drop pos) = some (payload, trailing) ↔
      Stands source pos payload ∧ trailing = source[pos + payload.length + 2]? := by
  have hhead : ∀ after, source.drop pos = Text.openBrace :: payload ++ Text.closeBrace :: after →
      after.head? = source[pos + payload.length + 2]? := by
    intro after hspelled
    rw [← drop_behind hspelled, List.head?_drop]
  rw [read?_eq_some_iff]
  constructor
  · rintro ⟨after, hfree, hspelled, hfollow, rfl⟩
    rw [hhead after hspelled] at hfollow ⊢
    exact ⟨⟨hfree, ⟨after, by rw [hspelled]; simp⟩, hfollow⟩, rfl⟩
  · rintro ⟨⟨hfree, ⟨after, hspelled⟩, hfollow⟩, rfl⟩
    have hspelled' : source.drop pos = Text.openBrace :: payload ++ Text.closeBrace :: after := by
      rw [← hspelled]
      simp
    rw [← hhead after hspelled'] at hfollow ⊢
    exact ⟨after, hfree, hspelled', hfollow, rfl⟩

theorem Stands.drop_eq {source payload : Text} {pos : Nat} (h : Stands source pos payload) :
    source.drop pos =
      Text.openBrace :: payload ++ Text.closeBrace :: source.drop (pos + payload.length + 2) := by
  obtain ⟨after, hspelled⟩ := h.spelled
  have hdrop : source.drop pos = Text.openBrace :: payload ++ Text.closeBrace :: after := by
    rw [← hspelled]
    simp
  rw [drop_behind hdrop, hdrop]

theorem Stands.getElem?_eq_openBrace {source payload : Text} {pos : Nat}
    (h : Stands source pos payload) : source[pos]? = some Text.openBrace := by
  rw [← List.head?_drop, h.drop_eq]
  rfl

theorem Stands.slice_eq {source payload : Text} {pos : Nat} (h : Stands source pos payload) :
    slice source (pos + 1) (pos + 1 + payload.length) = payload := by
  have hdrop : source.drop (pos + 1) =
      payload ++ Text.closeBrace :: source.drop (pos + payload.length + 2) := by
    rw [← List.drop_drop, h.drop_eq]
    rfl
  have := slice_natCast source (pos + 1) (pos + 1 + payload.length)
  push_cast at this
  rw [this, hdrop, Nat.add_sub_cancel_left]
  simp

theorem at?_natCast (source : Text) (pos : Nat) :
    at? source pos =
      .ok ((read? (source.drop pos)).map fun found => standing source pos found.1) := by
  rw [at?, if_neg (by omega), view_natCast]
  congr 1
  cases hread : read? (source.drop pos) with
  | none => rfl
  | some found =>
    obtain ⟨payload, trailing⟩ := found
    obtain ⟨hstands, rfl⟩ := read?_drop_eq_some_iff.mp hread
    simp only [Option.map_some, standing, hstands.slice_eq, Option.some.injEq, Token.mk.injEq,
      true_and, and_true]
    omega

theorem at?_eq_some_iff {source : Text} {pos : Nat} {token : Token} :
    at? source pos = .ok (some token) ↔
      ∃ payload, Stands source pos payload ∧ token = standing source pos payload := by
  rw [at?_natCast, Except.ok.injEq, Option.map_eq_some_iff]
  constructor
  · rintro ⟨⟨payload, trailing⟩, hread, rfl⟩
    exact ⟨payload, (read?_drop_eq_some_iff.mp hread).1, rfl⟩
  · rintro ⟨payload, hstands, rfl⟩
    exact ⟨(payload, _), read?_drop_eq_some_iff.mpr ⟨hstands, rfl⟩, rfl⟩

theorem Stands.unique {source first second : Text} {pos : Nat} (hfirst : Stands source pos first)
    (hsecond : Stands source pos second) : first = second := by
  have h1 := read?_drop_eq_some_iff.mpr ⟨hfirst, rfl⟩
  have h2 := read?_drop_eq_some_iff.mpr ⟨hsecond, rfl⟩
  rw [h1] at h2
  exact (Prod.mk.inj (Option.some.inj h2)).1

theorem Stands.stop_le {source payload : Text} {pos : Nat} (h : Stands source pos payload) :
    pos + payload.length + 2 ≤ source.length := by
  have := h.spelled.length_le
  simp only [List.length_append, List.length_cons, List.length_nil, List.length_drop] at this
  omega

theorem Stands.getElem?_ne_openBrace {source payload : Text} {pos i : Nat}
    (h : Stands source pos payload) (hfirst : pos < i) (hlast : i < pos + payload.length + 2) :
    source[i]? ≠ some Text.openBrace := by
  obtain ⟨k, rfl⟩ := Nat.exists_eq_add_of_lt hfirst
  rw [Nat.add_assoc, ← List.getElem?_drop, h.drop_eq, List.cons_append, List.getElem?_cons_succ]
  by_cases hk : k < payload.length
  · rw [List.getElem?_append_left hk]
    intro hopen
    exact h.payload_free _ (List.mem_of_getElem? hopen) (by decide)
  · obtain rfl : k = payload.length := by omega
    simp [Text.openBrace, Text.closeBrace]

theorem at?_eq_none_iff {source : Text} {pos : Nat} :
    at? source pos = .ok none ↔ ∀ payload, ¬ Stands source pos payload := by
  rw [at?_natCast, Except.ok.injEq, Option.map_eq_none_iff, Option.eq_none_iff_forall_ne_some]
  constructor
  · intro h payload hstands
    exact h (payload, _) (read?_drop_eq_some_iff.mpr ⟨hstands, rfl⟩)
  · rintro h ⟨payload, trailing⟩ hread
    exact h payload (read?_drop_eq_some_iff.mp hread).1

/-- **The scanner accepts exactly its grammar**: from every offset it reads a token if and only if one
stands there, the token is the one with the only payload that does, and everywhere else, also past the
end, it reads none. -/
theorem at?_reads_exactly (source : Text) (pos : Nat) :
    (∀ token, at? source pos = .ok (some token) ↔ ∃ payload, Stands source pos payload ∧
      token.payload = payload ∧ token.start = pos ∧ token.stop = pos + payload.length + 2 ∧
      token.length = payload.length + 2 ∧
      token.trailing = source[pos + payload.length + 2]?) ∧
    (∀ first second, Stands source pos first → Stands source pos second → first = second) ∧
    (at? source pos = .ok none ↔ ∀ payload, ¬ Stands source pos payload) ∧
    (source.length ≤ pos → at? source pos = .ok none) := by
  refine ⟨fun token => ?_, fun _ _ => Stands.unique, at?_eq_none_iff, fun hpast => ?_⟩
  · rw [at?_eq_some_iff]
    refine exists_congr fun payload => and_congr_right fun _ => ?_
    constructor
    · rintro rfl
      refine ⟨rfl, rfl, rfl, ?_, rfl⟩
      simp only [standing, length]
      omega
    · rintro ⟨hpayload, hstart, hstop, -, htrailing⟩
      cases token
      simp only [standing, Token.mk.injEq]
      exact ⟨hpayload, hstart, hstop, htrailing⟩
  · refine at?_eq_none_iff.mpr fun payload hstands => ?_
    have := hstands.stop_le
    omega

end BraceLink.Token
