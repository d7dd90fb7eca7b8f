import BraceLink.Classic.Anchor
import BraceLink.Proofs.Commonmark.Magic
import BraceLink.Proofs.Resolver.Build

/-!
# The same link in both dialects

The rule of the CommonMark dialect takes a step on a state, the rule of the classic dialect gives an element
with its place. Both ask which draft the handlers make of the token at the offset (`State.magic_on`,
`Resolver.resolveAt_eq`), so they find the same tokens, and `dialects_agree` compares what they make of one:
the four pieces of the step are the element read from the outside to the inside.
-/

namespace BraceLink

open Commonmark (State recordPieces)

theorem Resolver.resolveAt_eq (resolver : Resolver) (source : Text) (pos : Nat) :
    resolver.resolveAt source pos =
      match resolver.draftAt source pos with
      | .error fault => .error (.handler fault)
      | .ok none => .ok none
      | .ok (some (token, draft)) => .ok (some (token, resolver.complete draft)) := by
  rw [Resolver.resolveAt, Resolver.draftAt, Token.at?_natCast]
  cases (Token.read? (source.drop pos)).map fun found => Token.standing source pos found.1 with
  | none => rfl
  | some token =>
    simp only [Resolver.resolve]
    rcases resolver.parse token.payload with fault | _ | draft <;> rfl

theorem Html.escape_backgroundStyle (image : Text) :
    Html.escape (Link.backgroundStyle image) = Link.backgroundStyle (Html.escape image) := by
  have happend : ∀ a b : Text, Html.escape (a ++ b) = Html.escape a ++ Html.escape b := fun _ _ =>
    List.flatMap_append
  have hbefore : Html.escape "background-image: url('" = ("background-image: url('" : String).toList := rfl
  have hbehind : Html.escape "');" = ("');" : String).toList := rfl
  unfold Link.backgroundStyle
  rw [happend, happend, hbefore, hbehind]

/-- **Both dialects agree on every token.** Where no handler fails, the step at an offset matches if and only
if the other dialect finds an element there. Then they end at the same place, the step adds four pieces
and leaves as many elements open as before, and the pieces hold what the element holds: the
attributes of the link, its only child, which is the image, and the fixed text behind the child. -/
theorem dialects_agree (resolver : Resolver)
    (hfree : ∀ handler ∈ resolver.handlers, handler.NeverFails) (source : Text) (pos : Nat) :
    ∃ matched after answer,
      (State.magic resolver false).on ((State.start source).moveTo pos) = (.ok matched, after) ∧
      Classic.anchorAt resolver source pos = .ok answer ∧
      (matched = true ↔ answer.isSome = true) ∧
      ∀ found, answer = some found →
        found.start = pos ∧ found.stop = after.pos ∧ after.level = (State.start source).level ∧
        ∃ href classes style text,
          found.element =
            { tag := "a"
              attrs := [("href", href), ("class", classes)]
              children :=
                [({ tag := "span", attrs := [("class", Link.imageClass), ("style", style)] },
                  .ofFixed text)] } ∧
          after.pieces =
            [⟨.linkOpen [("href", href), ("class", classes)] true, 0⟩,
              ⟨.html ("<span class=\"" ++ Link.imageClass ++ "\" style=\"" ++ Html.escape style ++
                "\"></span>"), 1⟩,
              ⟨.text text, 1⟩, ⟨.linkClose true, 0⟩] := by
  obtain ⟨answer, hanswer⟩ := Resolver.draftAt_of_neverFails hfree source pos
  have hfresh : resolver.draftAt ((State.start source).moveTo pos).src
      ((State.start source).moveTo pos).pos = .ok answer := hanswer
  rw [State.magic_on, hfresh, Classic.anchorAt, Resolver.resolveAt_eq, hanswer]
  rcases answer with _ | ⟨token, draft⟩
  · exact ⟨false, _, none, rfl, rfl, by simp, by simp⟩
  · refine ⟨true, _, _, rfl, rfl, by simp, ?_⟩
    intro found hfound
    obtain rfl := Option.some.inj hfound
    obtain ⟨payload, -, rfl⟩ := Token.at?_eq_some_iff.mp (Resolver.at?_of_draftAt hanswer).1
    have hstop : ((Token.standing source pos payload).stop.toNat : Int) =
        (Token.standing source pos payload).stop := by
      rw [Token.standing_stop_toNat]
      simp only [Token.standing]
      omega
    refine ⟨rfl, hstop.symm, ?_, (resolver.complete draft).link, (resolver.complete draft).className,
      Link.backgroundStyle (resolver.complete draft).image, (resolver.complete draft).text, rfl, ?_⟩
    · rw [State.behind, State.pushRecord_eq]
      rfl
    · rw [State.behind, State.pushRecord_eq, Html.escape_backgroundStyle]
      rfl

/-- A mention behind a word, read by both dialects. -/
theorem dialects_agree_mention :
    (∀ handler ∈ Resolver.defaultHandlers {}, handler.NeverFails) ∧
    ∃ after found,
      (State.magic ⟨{}, Resolver.defaultHandlers {}, Url.normalize⟩ false).on
        ((State.start "by \x7B@x\x7D").moveTo 3) = (.ok true, after) ∧
      Classic.anchorAt ⟨{}, Resolver.defaultHandlers {}, Url.normalize⟩ "by \x7B@x\x7D" 3 =
        .ok (some found) ∧
      found.start = 3 ∧ found.stop = after.pos := by
  have hfree : ∀ handler ∈ Resolver.defaultHandlers {}, handler.NeverFails := fun handler hmem =>
    (Resolver.isBuiltin_of_mem_defaultHandlers hmem).neverFails
  obtain ⟨matched, after, answer, hstep, hanchor, hiff, hfound⟩ :=
    dialects_agree ⟨{}, Resolver.defaultHandlers {}, Url.normalize⟩ hfree "by \x7B@x\x7D" 3
  have hsome : (Classic.anchorAt ⟨{}, Resolver.defaultHandlers {}, Url.normalize⟩
      "by \x7B@x\x7D" (3 : Nat)).toOption.join.isSome = true := by rfl
  rw [hanchor] at hsome
  obtain ⟨found, rfl⟩ := Option.isSome_iff_exists.mp hsome
  obtain ⟨hstart, hstop, -⟩ := hfound found rfl
  obtain rfl := hiff.mpr rfl
  exact ⟨hfree, after, found, hstep, hanchor, hstart, hstop⟩

end BraceLink
