import BraceLink.Proofs.Commonmark.Nesting

/-!
# Tokens inside of labels

Inside of the brackets of a link the reader stops at the closing one (`State.Framed`), but the rule for brace tokens
looks at the whole text. It still does not get past the bracket: no character of a token is a bracket, and none may
follow one (`Token.Stands.getElem?_ne_closeBracket`). This is so in both modes of the rule.
-/

namespace BraceLink

namespace Token.Stands

variable {source payload : Text} {pos : Nat}

theorem closeBracket_not_mem (h : Stands source pos payload) :
    ']' ∉ Text.openBrace :: payload ++ [Text.closeBrace] := by
  intro hmem
  rw [List.cons_append, List.mem_cons, List.mem_append, List.mem_singleton] at hmem
  rcases hmem with hopen | hpayload | hclose
  · exact absurd hopen (by decide)
  · exact h.payload_free ']' hpayload (by decide)
  · exact absurd hclose (by decide)

theorem getElem?_ne_closeBracket (h : Stands source pos payload) {i : Nat} (hfirst : pos ≤ i)
    (hlast : i ≤ pos + payload.length + 2) : source[i]? ≠ some ']' := by
  intro hbracket
  obtain ⟨k, rfl⟩ := Nat.exists_eq_add_of_le hfirst
  by_cases hinside : k < (Text.openBrace :: payload ++ [Text.closeBrace]).length
  · obtain ⟨after, hspelled⟩ := h.spelled
    rw [← List.getElem?_drop, ← hspelled, List.getElem?_append_left hinside] at hbracket
    exact h.closeBracket_not_mem (List.mem_of_getElem? hbracket)
  · rw [List.length_append, List.length_cons, List.length_singleton] at hinside
    obtain rfl : k = payload.length + 2 := by omega
    exact h.follow_free ']' hbracket (by decide)

end Token.Stands

namespace Commonmark

/-- Reading ends for now at the end of the text or at a closing bracket. -/
def State.Framed (s : State) : Prop := s.stop = s.src.length ∨ s.src[s.stop]? = some ']'

theorem State.start_framed (src : Text) : (State.start src).Framed := Or.inl rfl

theorem State.stands_of_magic {resolver : Resolver} {silent : Bool} {s : State}
    (h : ((State.magic resolver silent).on s).1 = .ok true) :
    ∃ payload, Token.Stands s.src s.pos payload ∧
      ((State.magic resolver silent).on s).2.pos = s.pos + payload.length + 2 := by
  rw [State.magic_on] at h ⊢
  rcases hdraft : resolver.draftAt s.src s.pos with fault | _ | ⟨token, draft⟩
  · rw [hdraft] at h
    cases h
  · rw [hdraft] at h
    cases h
  · obtain ⟨payload, hstands, rfl⟩ := Token.at?_eq_some_iff.mp (Resolver.at?_of_draftAt hdraft).1
    exact ⟨payload, hstands, Token.standing_stop_toNat s.src s.pos payload⟩

/-- **The rule stays inside of what is read.** Where reading ends at the end of the text or at a closing bracket, a
match that begins before that place does not end behind it, and not even at it if it is a bracket. -/
theorem magic_stays_inside (resolver : Resolver) (silent : Bool) (s : State) (hpos : s.pos < s.stop)
    (hframed : s.Framed) (hmatch : ((State.magic resolver silent).on s).1 = .ok true) :
    ((State.magic resolver silent).on s).2.pos ≤ s.stop ∧
      (s.src[s.stop]? = some ']' → ((State.magic resolver silent).on s).2.pos < s.stop) := by
  obtain ⟨payload, hstands, hbehind⟩ := State.stands_of_magic hmatch
  have hbracket : s.src[s.stop]? = some ']' → s.pos + payload.length + 2 < s.stop := by
    intro hcloses
    by_contra hover
    exact hstands.getElem?_ne_closeBracket (by omega) (by omega) hcloses
  rw [hbehind]
  refine ⟨?_, hbracket⟩
  rcases hframed with hend | hcloses
  · rw [hend]
    exact hstands.stop_le
  · exact Nat.le_of_lt (hbracket hcloses)

/-- A mention inside of a label, and one at the end of the text. -/
theorem magic_stays_inside_label :
    (∃ s : State, s.src = "[\x7b@b\x7d c](d)" ∧ s.pos < s.stop ∧ s.src[s.stop]? = some ']' ∧ s.Framed ∧
      ((State.magic ⟨{}, [.github], Url.normalize⟩ false).on s).1 = .ok true ∧
      ((State.magic ⟨{}, [.github], Url.normalize⟩ false).on s).2.pos < s.stop) ∧
    ∃ s : State, s.src = "\x7b@b\x7d" ∧ s.pos < s.stop ∧ s.stop = s.src.length ∧ s.Framed ∧
      ((State.magic ⟨{}, [.github], Url.normalize⟩ true).on s).1 = .ok true ∧
      ((State.magic ⟨{}, [.github], Url.normalize⟩ true).on s).2.pos ≤ s.stop := by
  have hlabel : ({ src := "[\x7b@b\x7d c](d)", pos := 1, stop := 7 } : State).Framed := Or.inr (by decide)
  refine ⟨⟨{ src := "[\x7b@b\x7d c](d)", pos := 1, stop := 7 }, rfl, by decide, by decide, hlabel, rfl, ?_⟩,
    ⟨State.start "\x7b@b\x7d", rfl, by decide, rfl, State.start_framed _, rfl, ?_⟩⟩
  · exact (magic_stays_inside _ false _ (by decide) hlabel rfl).2 (by decide)
  · exact (magic_stays_inside _ true _ (by decide) (State.start_framed _) rfl).1

end Commonmark

end BraceLink
