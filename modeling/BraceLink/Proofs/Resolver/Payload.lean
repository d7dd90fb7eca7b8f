import BraceLink.Proofs.Resolver.Build
import BraceLink.Proofs.Text.Split

/-!
# The normal form of payloads

Parts without bars and without blanks at their ends come back from a payload, whatever blanks are put around them
(`Payload.parts_spelled`), so the parts of a payload, put together again, are a normal form of it
(`Payload.parts_ofParts_of_subset`). Built-in handlers see no more of a payload than its first three parts
(`Handler.IsBuiltin.resolve_congr`), and neither does a chain of them (`Chain.draft?_congr`); `resolve_ofParts`
puts the two together.
-/

namespace BraceLink

/-! ### Parts of payloads -/

namespace Payload

/-- A part as it may be written in a payload, with blanks around it. -/
structure Padded where
  left : Text
  part : Text
  right : Text
  left_blank : ∀ c ∈ left, Text.isBlank c = true
  right_blank : ∀ c ∈ right, Text.isBlank c = true
  trimmed : part.IsTrimmed
  bar : '|' ∉ part

def Padded.spelled (padded : Padded) : Text := padded.left ++ padded.part ++ padded.right

theorem Padded.bar_not_mem_spelled (padded : Padded) : '|' ∉ padded.spelled := by
  have hblank : ∀ {text : Text}, (∀ c ∈ text, Text.isBlank c = true) → '|' ∉ text := by
    intro text h hmem
    exact absurd (h _ hmem) (by decide)
  rw [spelled, List.mem_append, List.mem_append]
  rintro ((hleft | hpart) | hright)
  · exact hblank padded.left_blank hleft
  · exact padded.bar hpart
  · exact hblank padded.right_blank hright

theorem parts_ofParts {texts : List Text} (hne : texts ≠ []) (h : ∀ text ∈ texts, '|' ∉ text) :
    parts (ofParts texts) = texts.map Text.strip := by
  rw [parts, ofParts, Text.splitOn_join hne h]

theorem parts_spelled {pieces : List Padded} (hne : pieces ≠ []) :
    parts (ofParts (pieces.map Padded.spelled)) = pieces.map Padded.part := by
  rw [parts_ofParts (by simpa using hne), List.map_map]
  · refine List.map_congr_left fun padded _ => ?_
    exact Text.strip_padded padded.left_blank padded.trimmed padded.right_blank
  · intro text htext
    obtain ⟨padded, -, rfl⟩ := List.mem_map.mp htext
    exact padded.bar_not_mem_spelled

theorem parts_ne_nil (payload : Text) : parts payload ≠ [] := by
  simpa [parts] using Text.splitOn_ne_nil '|' payload

theorem of_mem_parts {text payload : Text} (h : text ∈ parts payload) : '|' ∉ text ∧ Text.strip text = text := by
  obtain ⟨piece, hpiece, rfl⟩ := List.mem_map.mp h
  exact ⟨fun hbar => Text.not_mem_of_mem_splitOn hpiece (Text.mem_of_mem_strip hbar), Text.strip_strip piece⟩

theorem parts_ofParts_of_subset {texts : List Text} {payload : Text} (hne : texts ≠ [])
    (h : texts ⊆ parts payload) : parts (ofParts texts) = texts := by
  rw [parts_ofParts hne fun text htext => (of_mem_parts (h htext)).1]
  have hstrip : texts.map Text.strip = texts.map id :=
    List.map_congr_left fun text htext => (of_mem_parts (h htext)).2
  rw [hstrip, List.map_id]

theorem part_ofParts_take {index count : Nat} (h : index < count) (payload : Text) :
    part index (ofParts ((parts payload).take count)) = part index payload := by
  have hne : (parts payload).take count ≠ [] := by
    rw [Ne, List.take_eq_nil_iff, not_or]
    exact ⟨Nat.ne_of_gt (Nat.zero_lt_of_lt h), parts_ne_nil payload⟩
  rw [part, parts_ofParts_of_subset hne (List.take_subset count _), part, List.getD_eq_getElem?_getD,
    List.getElem?_take_of_lt h, ← List.getD_eq_getElem?_getD]

end Payload

/-! ### What is read of a payload -/

section

variable {first second : Text}

/-- Built-in handlers read the first three parts of a payload and nothing else. -/
theorem Handler.IsBuiltin.resolve_congr {handler : Handler} (h : handler.IsBuiltin)
    (hparts : ∀ index < 3, Payload.part index first = Payload.part index second) :
    handler.resolve first = handler.resolve second := by
  have hmention : mention? first = mention? second := by
    rw [mention?, hparts 0 (by decide)]
    rfl
  cases h with
  | named links =>
    apply congrArg Except.ok
    simp only [namedDraft, hparts 0 (by decide), hparts 1 (by decide)]
  | platform platforms =>
    apply congrArg Except.ok
    simp only [platformDraft, hmention, hparts 1 (by decide), hparts 2 (by decide)]
  | github reserved =>
    apply congrArg Except.ok
    simp only [githubDraft, hmention, hparts 1 (by decide), hparts 2 (by decide)]

theorem Chain.draft?_congr {chain : List Handler}
    (h : ∀ handler ∈ chain, handler.resolve first = handler.resolve second) :
    draft? chain first = draft? chain second := by
  induction chain with
  | nil => rfl
  | cons handler rest ih =>
    obtain ⟨hhandler, hrest⟩ := List.forall_mem_cons.mp h
    rw [draft?_cons, draft?_cons, hhandler, ih hrest]

/-- A resolver of built-in handlers reads the first three parts of a payload and nothing else. -/
theorem Resolver.resolve_parts_congr {resolver : Resolver} (hbuiltin : ∀ handler ∈ resolver.handlers, handler.IsBuiltin)
    (hparts : ∀ index < 3, Payload.part index first = Payload.part index second) :
    resolver.resolve first = resolver.resolve second := by
  rw [resolve, resolve, parse, parse,
    Chain.draft?_congr fun handler hhandler => (hbuiltin handler hhandler).resolve_congr hparts]

end

/-- **The normal form of payloads.** Parts that hold no bar and no blank at either end come back from the payload in
which they stand between bars, with any blanks around them. And a resolver of built-in handlers makes of every payload
what it makes of its normal form, in which there are no blanks beside the bars, and of the first three parts of that
alone. -/
theorem resolve_ofParts :
    (∀ pieces : List Payload.Padded, pieces ≠ [] →
      Payload.parts (Payload.ofParts (pieces.map Payload.Padded.spelled)) = pieces.map Payload.Padded.part) ∧
    ∀ resolver : Resolver, (∀ handler ∈ resolver.handlers, handler.IsBuiltin) → ∀ payload,
      resolver.resolve payload = resolver.resolve (Payload.ofParts (Payload.parts payload)) ∧
      resolver.resolve payload = resolver.resolve (Payload.ofParts ((Payload.parts payload).take 3)) := by
  refine ⟨fun pieces hne => Payload.parts_spelled hne, fun resolver hbuiltin payload => ⟨?_, ?_⟩⟩
  · refine resolver.resolve_parts_congr hbuiltin fun index _ => ?_
    rw [Payload.part, Payload.part, Payload.parts_ofParts_of_subset (Payload.parts_ne_nil payload) fun _ => id]
  · exact resolver.resolve_parts_congr hbuiltin fun index hindex => (Payload.part_ofParts_take hindex payload).symm

/-- Three parts with a line end, a tab and an empty part among them, and a payload of four parts for the resolver of
the default chain. -/
theorem resolve_ofParts_padded :
    (∀ handler ∈ Resolver.defaultHandlers {}, handler.IsBuiltin) ∧
    Payload.parts "\n@a|\t|b c " = (["@a", "", "b c"] : List Text) ∧
    (⟨{}, Resolver.defaultHandlers {}, Url.normalize⟩ : Resolver).resolve " @a | b|\t| c" =
      (⟨{}, Resolver.defaultHandlers {}, Url.normalize⟩ : Resolver).resolve "@a|b||c" ∧
    (⟨{}, Resolver.defaultHandlers {}, Url.normalize⟩ : Resolver).resolve " @a | b|\t| c" =
      (⟨{}, Resolver.defaultHandlers {}, Url.normalize⟩ : Resolver).resolve "@a|b|" := by
  obtain ⟨hparts, hresolve⟩ := resolve_ofParts
  have hbuiltin : ∀ handler ∈ Resolver.defaultHandlers {}, handler.IsBuiltin := fun _ =>
    Resolver.isBuiltin_of_mem_defaultHandlers
  obtain ⟨hnormal, hcut⟩ := hresolve ⟨{}, Resolver.defaultHandlers {}, Url.normalize⟩ hbuiltin " @a | b|\t| c"
  refine ⟨hbuiltin, ?_, hnormal, hcut⟩
  have hblank : ∀ text : Text, text.all Text.isBlank = true → ∀ c ∈ text, Text.isBlank c = true :=
    fun _ => List.all_eq_true.mp
  have hends : ∀ text : Text, text.head?.any Text.isBlank = false → text.getLast?.any Text.isBlank = false →
      text.IsTrimmed := fun _ hhead hlast =>
    ⟨fun c hc => by simpa [hc] using hhead, fun c hc => by simpa [hc] using hlast⟩
  exact hparts [⟨"\n", "@a", "", hblank _ rfl, hblank _ rfl, hends _ rfl rfl, by decide⟩,
    ⟨"\t", "", "", hblank _ rfl, hblank _ rfl, hends _ rfl rfl, by decide⟩,
    ⟨"", "b c", " ", hblank _ rfl, hblank _ rfl, hends _ rfl rfl, by decide⟩] (List.cons_ne_nil _ _)

end BraceLink
