import BraceLink.Commonmark.Document
import BraceLink.Proofs.Commonmark.Magic
import BraceLink.Proofs.Resolver.Build
import Mathlib.Data.List.TakeWhile

/-!
# Paragraphs of text and tokens

`segments` reads a paragraph from left to right without a reader, its rules and its pending text: where a
token stands that resolves it takes the token, everywhere else it takes one character. In the plain
dialect a round of the reader changes nothing in what has been shown together with the segments to come
(`run_step`), so the reader shows exactly the segments (`run_shown`); they spell the paragraph
(`source_segments`), and they stop at every opening brace (`segments_reach`), so a token that does not
resolve is shown as it is written. `renderInline_plain` puts the three together.
-/

namespace BraceLink.Commonmark

open Text (openBrace closeBrace)

/-! ### Segments -/

/-- A token with its record, or a character outside of such tokens. -/
inductive Segment where
  | link (token : Token) (record : Record)
  | char (c : Char)

def anchor (record : Record) : Text :=
  "<a href=\"" ++ Html.escape record.link ++ "\" class=\"" ++ Html.escape record.className ++ "\">" ++
    imageSpan record ++ Html.escape record.text ++ "</a>"

namespace Segment

def source : Segment → Text
  | link token _ => openBrace :: token.payload ++ [closeBrace]
  | char c => [c]

def html : Segment → Text
  | link _ record => anchor record
  | char c => Html.escapeChar c

end Segment

def resolvedAt? (resolver : Resolver) (content : Text) (i : Nat) : Option (Token × Record) :=
  match Token.at? content i with
  | .ok (some token) =>
    match resolver.resolve token.payload with
    | .ok (some record) => some (token, record)
    | _ => none
  | _ => none

theorem resolvedAt?_eq_some_iff {resolver : Resolver} {content : Text} {i : Nat} {token : Token}
    {record : Record} :
    resolvedAt? resolver content i = some (token, record) ↔
      Token.at? content i = .ok (some token) ∧ resolver.resolve token.payload = .ok (some record) := by
  unfold resolvedAt?
  constructor
  · intro h
    split at h
    · rename_i found hat
      split at h
      · rename_i answer hresolve
        obtain ⟨rfl, rfl⟩ := Prod.mk.inj (Option.some.inj h)
        exact ⟨hat, hresolve⟩
      · simp at h
    · simp at h
  · rintro ⟨hat, hresolve⟩
    simp only [hat, hresolve]

theorem stands_of_resolvedAt? {resolver : Resolver} {content : Text} {i : Nat} {token : Token}
    {record : Record} (h : resolvedAt? resolver content i = some (token, record)) :
    Token.Stands content i token.payload ∧ token.stop.toNat = i + token.payload.length + 2 := by
  obtain ⟨payload, hstands, rfl⟩ := Token.at?_eq_some_iff.mp (resolvedAt?_eq_some_iff.mp h).1
  exact ⟨hstands, Token.standing_stop_toNat content i payload⟩

def segments (resolver : Resolver) (content : Text) (i : Nat) : List Segment :=
  if _hi : i < content.length then
    match _h : resolvedAt? resolver content i with
    | some (token, record) => .link token record :: segments resolver content token.stop.toNat
    | none => .char content[i] :: segments resolver content (i + 1)
  else []
termination_by content.length - i
decreasing_by
  · have := (stands_of_resolvedAt? _h).2
    omega
  · omega

section

variable {resolver : Resolver} {content : Text}

theorem segments_link {i : Nat} {token : Token} {record : Record}
    (h : resolvedAt? resolver content i = some (token, record)) :
    segments resolver content i = .link token record :: segments resolver content token.stop.toNat := by
  obtain ⟨hstands, hstop⟩ := stands_of_resolvedAt? h
  have := hstands.stop_le
  rw [segments, dif_pos (by omega)]
  split
  · rename_i found hfound
    rw [h] at hfound
    obtain ⟨rfl, rfl⟩ := Prod.mk.inj (Option.some.inj hfound)
    rfl
  · rename_i hnone
    rw [h] at hnone
    cases hnone

theorem segments_char {i : Nat} {c : Char} (hc : content[i]? = some c)
    (h : resolvedAt? resolver content i = none) :
    segments resolver content i = .char c :: segments resolver content (i + 1) := by
  obtain ⟨hi, rfl⟩ := List.getElem?_eq_some_iff.mp hc
  rw [segments, dif_pos hi]
  split
  · rename_i hsome
    rw [h] at hsome
    cases hsome
  · rfl

theorem segments_end {i : Nat} (hi : content.length ≤ i) : segments resolver content i = [] := by
  rw [segments, dif_neg (by omega)]

theorem segments_plain {i : Nat} {plain rest : Text} (hdrop : content.drop i = plain ++ rest)
    (hplain : openBrace ∉ plain) :
    segments resolver content i =
      plain.map Segment.char ++ segments resolver content (i + plain.length) := by
  induction plain generalizing i with
  | nil => simp
  | cons c plain ih =>
    have hc : content[i]? = some c := by rw [← List.head?_drop, hdrop]; rfl
    have hnone : resolvedAt? resolver content i = none := by
      by_contra hsome
      obtain ⟨⟨token, record⟩, hfound⟩ := Option.ne_none_iff_exists'.mp hsome
      obtain ⟨after, hspelled⟩ := (stands_of_resolvedAt? hfound).1.spelled
      rw [hdrop] at hspelled
      exact hplain (by rw [(List.cons.inj hspelled).1]; simp)
    have hnext : content.drop (i + 1) = plain ++ rest := by
      rw [← List.drop_drop, hdrop]
      rfl
    rw [segments_char hc hnone, ih hnext fun hmem => hplain (by simp [hmem])]
    simp [Nat.add_assoc, Nat.add_comm 1]

/-- The segments spell the paragraph: no character is lost, doubled or moved. -/
theorem source_segments (resolver : Resolver) (content : Text) (i : Nat) :
    (segments resolver content i).flatMap Segment.source = content.drop i := by
  fun_induction segments resolver content i with
  | case1 i hi token record h ih =>
    obtain ⟨hstands, hstop⟩ := stands_of_resolvedAt? h
    rw [List.flatMap_cons, ih, hstop, hstands.drop_eq]
    simp [Segment.source]
  | case2 i hi h ih =>
    rw [List.flatMap_cons, ih, List.drop_eq_getElem_cons hi]
    rfl
  | case3 i hi => simp [List.drop_eq_nil_of_le (Nat.le_of_not_lt hi)]

/-- The segments stop at every opening brace: no token that resolves has one behind its first
character. -/
theorem segments_reach {i j : Nat} (hij : i ≤ j) (hopen : content[j]? = some openBrace) :
    ∃ before, segments resolver content i = before ++ segments resolver content j := by
  obtain ⟨hj, -⟩ := List.getElem?_eq_some_iff.mp hopen
  fun_induction segments resolver content i with
  | case1 i hi token record h ih =>
    rcases Nat.eq_or_lt_of_le hij with rfl | hlt
    · exact ⟨[], by rw [segments_link h]; rfl⟩
    · obtain ⟨hstands, hstop⟩ := stands_of_resolvedAt? h
      have hbehind : token.stop.toNat ≤ j := by
        by_contra hinside
        exact hstands.getElem?_ne_openBrace hlt (by omega) hopen
      obtain ⟨before, hbefore⟩ := ih hbehind
      exact ⟨.link token record :: before, by rw [hbefore]; rfl⟩
  | case2 i hi h ih =>
    rcases Nat.eq_or_lt_of_le hij with rfl | hlt
    · exact ⟨[], by rw [segments_char (List.getElem?_eq_getElem hi) h]; rfl⟩
    · obtain ⟨before, hbefore⟩ := ih hlt
      exact ⟨.char content[i] :: before, by rw [hbefore]; rfl⟩
  | case3 i hi => omega

theorem segments_unresolved {i : Nat} {payload : Text} (hstands : Token.Stands content i payload)
    (h : resolvedAt? resolver content i = none) :
    segments resolver content i =
      (openBrace :: payload ++ [closeBrace]).map Segment.char ++
        segments resolver content (i + payload.length + 2) := by
  have hnext : content.drop (i + 1) =
      (payload ++ [closeBrace]) ++ content.drop (i + payload.length + 2) := by
    rw [← List.drop_drop, hstands.drop_eq]
    simp
  have hplain : openBrace ∉ payload ++ [closeBrace] := by
    rw [List.mem_append, not_or]
    exact ⟨fun hmem => hstands.payload_free _ hmem (by decide), by decide⟩
  rw [segments_char hstands.getElem?_eq_openBrace h, segments_plain hnext hplain]
  simp [Nat.add_assoc, Nat.add_comm 1]

end

/-! ### What a state shows -/

theorem escape_append (first second : Text) :
    Html.escape (first ++ second) = Html.escape first ++ Html.escape second :=
  List.flatMap_append

namespace State

/-- The HTML of what has been read, the pending text included. -/
def shown (s : State) : Text :=
  renderNodes false (s.pieces.map Piece.node) ++ Html.escape s.pending

/-- A state in a paragraph of the plain dialect: no element is open, and no piece is an emphasis mark, so
the partners of marks change nothing. -/
structure Plain (content : Text) (s : State) : Prop where
  src : s.src = content
  stop : s.stop = content.length
  level : s.level = 0
  settled : ∀ piece ∈ s.pieces, ∀ table, resolveNode table piece.node = piece.node

variable {content : Text} {s : State}

theorem Plain.start (content : Text) : (State.start content).Plain content :=
  ⟨rfl, rfl, rfl, by simp [State.start]⟩

theorem Plain.moveTo (hs : s.Plain content) (offset : Nat) : (s.moveTo offset).Plain content :=
  ⟨hs.src, hs.stop, hs.level, hs.settled⟩

theorem Plain.addPending (hs : s.Plain content) (text : Text) : (s.addPending text).Plain content :=
  ⟨hs.src, hs.stop, hs.level, hs.settled⟩

theorem Plain.flush (hs : s.Plain content) : s.flush.Plain content := by
  unfold State.flush
  split_ifs
  · exact hs
  · refine ⟨hs.src, hs.stop, hs.level, fun piece hpiece table => ?_⟩
    rcases List.mem_append.mp hpiece with hold | hnew
    · exact hs.settled piece hold table
    · rw [List.mem_singleton.mp hnew]
      rfl

theorem Plain.pushRecord (hs : s.Plain content) (record : Record) :
    (s.pushRecord record).Plain content := by
  rw [pushRecord_eq]
  refine ⟨hs.src, hs.stop, hs.level, fun piece hpiece table => ?_⟩
  rcases List.mem_append.mp hpiece with hold | hnew
  · exact hs.flush.settled piece hold table
  · simp only [recordPieces, List.mem_cons, List.not_mem_nil, or_false] at hnew
    rcases hnew with rfl | rfl | rfl | rfl <;> rfl

theorem shown_addPending (s : State) (text : Text) :
    (s.addPending text).shown = s.shown ++ Html.escape text := by
  rw [shown, addPending, escape_append, ← List.append_assoc]
  rfl

theorem renderNodes_flush (s : State) :
    renderNodes false (s.flush.pieces.map Piece.node) = s.shown := by
  unfold flush
  split_ifs with hempty
  · have hnil : s.pending = [] := by simpa using hempty
    rw [shown, hnil]
    exact (List.append_nil _).symm
  · simp [shown, renderNodes, renderNode]

theorem renderNodes_recordPieces (record : Record) (level : Nat) :
    renderNodes false ((recordPieces record level).map Piece.node) = anchor record := by
  have hstart : ∀ href classes : Text,
      Html.startTag "a" [("href", href), ("class", classes)] =
        "<a href=\"" ++ Html.escape href ++ "\" class=\"" ++ Html.escape classes ++ "\">" := by
    intro href classes
    simp [Html.startTag, Html.escape, Html.escapeChar]
  have hend : Html.endTag "a" = ("</a>" : String).toList := by decide
  unfold anchor
  simp only [renderNodes, recordPieces, List.map_cons, List.map_nil, List.flatMap_cons,
    List.flatMap_nil, renderNode, Node.tag, hstart, hend, List.append_assoc, List.append_nil]

theorem shown_pushRecord (s : State) (record : Record) :
    (s.pushRecord record).shown = s.shown ++ anchor record := by
  rw [pushRecord_eq, shown, List.map_append, renderNodes, List.flatMap_append]
  show renderNodes false (s.flush.pieces.map Piece.node) ++
    renderNodes false ((recordPieces record s.level).map Piece.node) ++ [] = _
  rw [renderNodes_flush, renderNodes_recordPieces, List.append_nil]

end State

/-! ### The reader -/

section

variable {resolver : Resolver} {content : Text} {setting : Setting} {s : State}

theorem resolvedAt?_eq_draftAt (resolver : Resolver) (content : Text) (i : Nat) :
    resolvedAt? resolver content i =
      match resolver.draftAt content i with
      | .ok (some (token, draft)) => some (token, resolver.complete draft)
      | _ => none := by
  unfold resolvedAt? Resolver.draftAt Resolver.resolve
  rcases Token.at? content i with _ | _ | token
  · rfl
  · rfl
  · rcases hparse : resolver.parse token.payload with _ | _ | draft <;> simp [hparse, Except.map]

/-- The rule for brace tokens takes a token that resolves, and declines everywhere else. -/
theorem Rule.magic_resolvedAt? (hfree : ∀ handler ∈ resolver.handlers, handler.NeverFails)
    (reader : Reader) :
    Rule.magic resolver setting reader false s =
      match resolvedAt? resolver s.src s.pos with
      | some (token, record) => .ok (true, (s.pushRecord record).moveTo token.stop.toNat)
      | none => .ok (false, s) := by
  obtain ⟨answer, hanswer⟩ := Resolver.draftAt_of_neverFails hfree s.src s.pos
  rw [Rule.magic, Rule.ofAction, State.magic_on, resolvedAt?_eq_draftAt, hanswer]
  rcases answer with _ | ⟨token, draft⟩ <;> rfl

/-- The text that the rule for text takes: it stops at every opening brace. -/
def textRun (s : State) : Text := (s.rest s.pos).takeWhile fun c => !Rule.endsText c

theorem openBrace_not_mem_textRun (s : State) : openBrace ∉ textRun s := by
  intro hmem
  exact absurd (List.mem_takeWhile_imp hmem) (by decide)

theorem Rule.text_eq (reader : Reader) :
    Rule.text setting reader false s =
      if (textRun s).isEmpty then .ok (false, s)
      else .ok (true, (s.addPending (textRun s)).moveTo (s.pos + (textRun s).length)) := by
  unfold Rule.text Rule.plain textRun
  split_ifs with hempty
  · simp [hempty]
  · simp [hempty]

theorem tryRules_plain (hfree : ∀ handler ∈ resolver.handlers, handler.NeverFails)
    (reader : Reader) :
    tryRules setting reader false (Dialect.plain.grammar resolver).rules s =
      match resolvedAt? resolver s.src s.pos with
      | some (token, record) => .ok (true, (s.pushRecord record).moveTo token.stop.toNat)
      | none =>
        if (textRun s).isEmpty then .ok (false, s)
        else .ok (true, (s.addPending (textRun s)).moveTo (s.pos + (textRun s).length)) := by
  simp only [Dialect.grammar, Dialect.ownRules, tryRules, Rule.magic_resolvedAt? hfree, Rule.text_eq]
  rcases resolvedAt? resolver s.src s.pos with _ | ⟨token, record⟩
  · by_cases hempty : (textRun s).isEmpty = true <;> simp [hempty, bind, Except.bind, pure, Except.pure]
  · rfl

/-- The HTML of the segments from an offset on. -/
def shownFrom (resolver : Resolver) (content : Text) (i : Nat) : Text :=
  (segments resolver content i).flatMap Segment.html

theorem shownFrom_link {i : Nat} {token : Token} {record : Record}
    (h : resolvedAt? resolver content i = some (token, record)) :
    shownFrom resolver content i = anchor record ++ shownFrom resolver content token.stop.toNat := by
  rw [shownFrom, segments_link h]
  rfl

theorem shownFrom_char {i : Nat} {c : Char} (hc : content[i]? = some c)
    (h : resolvedAt? resolver content i = none) :
    shownFrom resolver content i = Html.escape [c] ++ shownFrom resolver content (i + 1) := by
  rw [shownFrom, segments_char hc h]
  simp [Segment.html, Html.escape, shownFrom]

theorem shownFrom_textRun (hs : s.Plain content) :
    shownFrom resolver content s.pos =
      Html.escape (textRun s) ++ shownFrom resolver content (s.pos + (textRun s).length) := by
  have hdrop : content.drop s.pos =
      textRun s ++ (s.rest s.pos).dropWhile fun c => !Rule.endsText c := by
    rw [textRun, List.takeWhile_append_dropWhile, State.rest, hs.src]
  rw [shownFrom, segments_plain hdrop (openBrace_not_mem_textRun s), List.flatMap_append,
    List.flatMap_map]
  rfl

/-- One round of the reader takes a token that resolves, else a run of text, else a character. -/
theorem run_succ (hfree : ∀ handler ∈ resolver.handlers, handler.NeverFails) (setting : Setting)
    (hs : s.Plain content) (hlt : s.pos < content.length) (fuel : Nat) :
    (Dialect.plain.grammar resolver).run setting (fuel + 1) s =
      (Dialect.plain.grammar resolver).run setting fuel
        (match resolvedAt? resolver content s.pos with
        | some (token, record) => (s.pushRecord record).moveTo token.stop.toNat
        | none =>
          if (textRun s).isEmpty then (s.addPending [content[s.pos]]).moveTo (s.pos + 1)
          else (s.addPending (textRun s)).moveTo (s.pos + (textRun s).length)) := by
  have hc : s.next? = some content[s.pos] := by
    rw [State.next?, State.char?, hs.src, List.getElem?_eq_getElem hlt]
  have hnesting : s.level < (Dialect.plain.grammar resolver).maxNesting := by
    rw [hs.level]
    exact Nat.succ_pos 19
  rw [Grammar.run, if_pos (hs.stop ▸ hlt), hc]
  simp only [if_pos hnesting, tryRules_plain hfree, hs.src]
  rcases resolvedAt? resolver content s.pos with _ | ⟨token, record⟩
  · by_cases hempty : (textRun s).isEmpty = true
    · simp only [if_pos hempty]
      rfl
    · simp only [if_neg hempty]
      rfl
  · rfl

/-- One round of the reader moves on, and what has been shown together with the segments that are still to
come stays the same. -/
theorem run_step (hfree : ∀ handler ∈ resolver.handlers, handler.NeverFails) (setting : Setting)
    (hs : s.Plain content) (hlt : s.pos < content.length) :
    ∃ next : State, next.Plain content ∧ s.pos < next.pos ∧
      next.shown ++ shownFrom resolver content next.pos =
        s.shown ++ shownFrom resolver content s.pos ∧
      ∀ fuel, (Dialect.plain.grammar resolver).run setting (fuel + 1) s =
        (Dialect.plain.grammar resolver).run setting fuel next := by
  have hround := run_succ hfree setting hs hlt
  rcases hat : resolvedAt? resolver content s.pos with _ | ⟨token, record⟩
  · simp only [hat] at hround
    by_cases hempty : (textRun s).isEmpty = true
    · -- no rule takes the character, so it is pending text
      simp only [if_pos hempty] at hround
      refine ⟨_, (hs.addPending _).moveTo _, Nat.lt_succ_self _, ?_, hround⟩
      rw [shownFrom_char (List.getElem?_eq_getElem hlt) hat, ← List.append_assoc,
        ← State.shown_addPending]
      rfl
    · simp only [if_neg hempty] at hround
      have hrun : 0 < (textRun s).length := by
        rw [List.length_pos_iff]
        simpa using hempty
      refine ⟨_, (hs.addPending _).moveTo _, Nat.lt_add_of_pos_right hrun, ?_, hround⟩
      rw [shownFrom_textRun hs, ← List.append_assoc, ← State.shown_addPending]
      rfl
  · simp only [hat] at hround
    have hstop : s.pos < token.stop.toNat := by
      have := (stands_of_resolvedAt? hat).2
      omega
    refine ⟨_, (hs.pushRecord record).moveTo _, hstop, ?_, hround⟩
    rw [shownFrom_link hat, ← List.append_assoc, ← State.shown_pushRecord]
    rfl

/-- With enough fuel the reader adds the segments of the rest to what it has shown. -/
theorem run_shown (hfree : ∀ handler ∈ resolver.handlers, handler.NeverFails) (setting : Setting)
    (fuel : Nat) (s : State) (hs : s.Plain content) (hfuel : content.length - s.pos < fuel) :
    ∃ after, (Dialect.plain.grammar resolver).run setting fuel s = .ok after ∧ after.Plain content ∧
      renderNodes false (after.pieces.map Piece.node) = s.shown ++ shownFrom resolver content s.pos := by
  induction fuel generalizing s with
  | zero => omega
  | succ fuel ih =>
    by_cases hlt : s.pos < content.length
    · obtain ⟨next, hnext, hpos, hshown, hround⟩ := run_step hfree setting hs hlt
      rw [hround, ← hshown]
      exact ih next hnext (by omega)
    · rw [Grammar.run, if_neg (hs.stop ▸ hlt)]
      refine ⟨s.flush, rfl, hs.flush, ?_⟩
      rw [State.renderNodes_flush, shownFrom, segments_end (Nat.le_of_not_lt hlt)]
      exact (List.append_nil _).symm

theorem renderInline_of_neverFails (hfree : ∀ handler ∈ resolver.handlers, handler.NeverFails)
    (content : Text) :
    renderInline .plain resolver content = .ok (shownFrom resolver content 0) := by
  obtain ⟨after, hrun, hafter, hshown⟩ :=
    run_shown hfree { normalize := resolver.normalize, html := false } (content.length + 1)
      (State.start content) (.start content) (by simp [State.start])
  have hresolved : after.resolved = after.pieces.map Piece.node := by
    rw [State.resolved]
    exact List.map_congr_left fun piece hpiece => hafter.settled piece hpiece _
  have hparse : (Dialect.plain.grammar resolver).parse
      { normalize := resolver.normalize, html := false } content = .ok after.resolved := by
    rw [Grammar.parse, Grammar.alone, hrun]
    rfl
  have hstart : (State.start content).shown = [] := rfl
  rw [hstart] at hshown
  simp only [renderInline, reduceCtorEq, decide_false, hparse, hresolved]
  exact congrArg Except.ok hshown

/-- **A paragraph shows its segments.** For settings whose chain consists of built-in handlers the HTML of
every paragraph is that of its segments, read from left to right; the segments spell the paragraph, so
nothing is lost, doubled or moved; and wherever a token stands that does not resolve, the segments up to
it are followed by the single characters of the token. -/
theorem renderInline_plain (registry : Registry) (settings : Settings) (normalize : Text → Text)
    (hchain : registry.BuildsBuiltin settings) :
    ∃ resolver, Resolver.build registry settings normalize = .ok resolver ∧ ∀ content : Text,
      renderInline .plain resolver content =
        .ok ((segments resolver content 0).flatMap Segment.html) ∧
      (segments resolver content 0).flatMap Segment.source = content ∧
      ∀ (i : Nat) (token : Token), Token.at? content i = .ok (some token) →
        resolvedAt? resolver content i = none →
        ∃ before, before.flatMap Segment.source = content.take i ∧
          segments resolver content 0 = before ++
            (openBrace :: token.payload ++ [closeBrace]).map Segment.char ++
            segments resolver content token.stop.toNat := by
  obtain ⟨handlers, hbuiltin, hbuild⟩ := hchain.exists_resolver normalize
  refine ⟨_, hbuild, fun content => ⟨?_, source_segments _ content 0, ?_⟩⟩
  · exact renderInline_of_neverFails (fun handler hmem => (hbuiltin handler hmem).neverFails) content
  · intro i token hat hunresolved
    obtain ⟨payload, hstands, rfl⟩ := Token.at?_eq_some_iff.mp hat
    obtain ⟨before, hbefore⟩ : ∃ before, segments ⟨settings, handlers, normalize⟩ content 0 =
        before ++ segments ⟨settings, handlers, normalize⟩ content i :=
      segments_reach (Nat.zero_le i) hstands.getElem?_eq_openBrace
    refine ⟨before, ?_, ?_⟩
    · -- what `before` spells is what stands in front of the segments from `i` on
      have hsource := source_segments ⟨settings, handlers, normalize⟩ content 0
      rw [hbefore, List.flatMap_append, source_segments, List.drop_zero] at hsource
      rw [← List.append_left_inj (content.drop i), hsource, List.take_append_drop]
    · rw [hbefore, segments_unresolved hstands hunresolved, Token.standing_stop_toNat]
      exact (List.append_assoc _ _ _).symm

/-- Beside a token that resolves, a token that does not resolve stays as it is written. -/
theorem renderInline_plain_beside :
    Registry.builtin.BuildsBuiltin {} ∧
    ∃ resolver, Resolver.build Registry.builtin {} = .ok resolver ∧
      renderInline .plain resolver "\x7B@a\x7D \x7Bb\x7D" =
        .ok ((segments resolver "\x7B@a\x7D \x7Bb\x7D" 0).flatMap Segment.html) ∧
      (resolvedAt? resolver "\x7B@a\x7D \x7Bb\x7D" 0).isSome ∧
      ∃ before, before.flatMap Segment.source = ("\x7B@a\x7D " : String).toList ∧
        segments resolver "\x7B@a\x7D \x7Bb\x7D" 0 =
          before ++ ("\x7Bb\x7D" : String).toList.map Segment.char ++
            segments resolver "\x7B@a\x7D \x7Bb\x7D" 8 := by
  have hbuiltin : Registry.builtin.BuildsBuiltin {} := Registry.builtin_hasDefaults.buildsBuiltin rfl
  obtain ⟨resolver, hbuild, hshown⟩ := renderInline_plain Registry.builtin {} Url.normalize hbuiltin
  obtain ⟨hhtml, -, hliteral⟩ := hshown ("\x7B@a\x7D \x7Bb\x7D" : String).toList
  have hdefault : Resolver.build Registry.builtin {} =
      .ok ⟨{}, Resolver.defaultHandlers {}, Url.normalize⟩ :=
    Resolver.build_default Registry.builtin_hasDefaults rfl Url.normalize
  obtain rfl : ⟨{}, Resolver.defaultHandlers {}, Url.normalize⟩ = resolver :=
    Except.ok.inj (hdefault.symm.trans hbuild)
  refine ⟨hbuiltin, _, hbuild, hhtml, ?_, ?_⟩
  · rfl
  · exact hliteral 5 ⟨['b'], 5, 8, none⟩ (by decide) (by rfl)

end

end BraceLink.Commonmark
