import BraceLink.Commonmark.Document
import BraceLink.Proofs.Commonmark.Linked
import BraceLink.Proofs.Outcome
import BraceLink.Proofs.Resolver.Build

/-!
# Nested links

While the reader skips over a text it adds no pieces, and while it reads one it adds pieces with links in their
turn. Every rule keeps this as long as the reader that it calls does (`Rule.Keeps`), and with such rules the
reader does, by induction on its fuel (`Grammar.reader_keeps`). Only the rule for links in brackets reads what
stands inside of the link, so only these links hold others: a brace token makes its link of a text and an image.

Nothing keeps every link out of the brackets of another. The search for the end of a label gives up at a bracket
that is a link, but not at a token or an address, and a bracket may become a link only once the text ends with the
label (`links_open_in_links`).
-/

namespace BraceLink.Commonmark

/-! ### Rules -/

/-- If there is a result, it satisfies the condition. -/
abbrev Gives {α : Type} (p : α → Prop) (result : Result α) : Prop := Outcome p (fun _ => True) result

theorem gives_true {α : Type} (result : Result α) : Gives (fun _ => True) result :=
  .intro (fun _ _ => trivial) fun _ _ => trivial

/-- The reader adds pieces as it should, and none where it skips. -/
structure Reader.Keeps (reader : Reader) : Prop where
  skip : ∀ s, Gives (fun after => s.Skims after) (reader.skip s)
  run : ∀ s, Gives (fun after => s.Grows after) (reader.run s)

/-- With such a reader the rule does what its mode allows, whether it declines or not. -/
def Rule.Keeps (rule : Rule) : Prop :=
  ∀ setting reader, reader.Keeps → ∀ silent s,
    Gives (fun answer => s.Reads silent answer.2) (rule setting reader silent s)

namespace Rule

open State

variable {silent : Bool} {s after : State}

theorem plain_keeps {rule : Setting → Bool → State → Option State}
    (h : ∀ setting silent s after, rule setting silent s = some after → s.Reads silent after) :
    (plain rule).Keeps := by
  intro setting reader hreader silent s
  unfold plain
  split
  · rename_i after hafter
    exact h _ _ _ _ hafter
  · exact (Skims.refl s).reads

theorem text_keeps : Rule.text.Keeps := by
  refine plain_keeps fun setting silent s after h => ?_
  dsimp only at h
  split at h
  · cases h
  · obtain rfl := Option.some.inj h
    exact (reads_addPending s _).moveTo _

theorem newline_keeps : Rule.newline.Keeps := by
  refine plain_keeps fun setting silent s after h => ?_
  dsimp only at h
  split_ifs at h with hline hsilent
  · obtain rfl := Option.some.inj h
    exact (Skims.refl s).reads.moveTo _
  · obtain rfl := Option.some.inj h
    obtain rfl : silent = false := by simpa using hsilent
    refine Reads.moveTo ?_ _
    have hbreak : ∀ (pending : Text) (node : Node), node.isLink = false →
        s.Grows (State.push { s with pending } node) := by
      intro pending node hnode
      have hsame : s.Skims { s with pending } := ⟨rfl, rfl⟩
      exact (hsame.fills.trans (fills_push hnode _)).grows
    split
    · exact hbreak _ _ rfl
    · exact hbreak _ _ rfl
    · exact (fills_push rfl s).grows

theorem escape_keeps : Rule.escape.Keeps := by
  refine plain_keeps fun setting silent s after h => ?_
  dsimp only at h
  split_ifs at h
  split at h
  · cases h
  · obtain rfl := Option.some.inj h
    exact (reads_pushUnless rfl s).moveTo _
  · obtain rfl := Option.some.inj h
    exact (reads_pushUnless rfl s).moveTo _

theorem backticks_keeps : Rule.backticks.Keeps := by
  refine plain_keeps fun setting silent s after h => ?_
  dsimp only at h
  split at h
  · cases h
  · split at h
    · obtain rfl := Option.some.inj h
      exact (reads_pushUnless rfl s).moveTo _
    · obtain rfl := Option.some.inj h
      exact (reads_addPending s _).moveTo _

theorem reads_pushMarks (s : State) (symbol : Char) (run : Run) : s.Reads false (s.pushMarks symbol run) := by
  refine Grows.repeat (fun before => ?_) run.length s
  have hmark := fills_push (rfl : (Node.mark symbol before.flush.pieces.length).isLink = false) before.flush
  have hnoted := ((fills_flush before).trans hmark).grows
  exact ⟨hnoted.src, hnoted.pieces⟩

theorem emphasis_keeps : Rule.emphasis.Keeps := by
  refine plain_keeps fun setting silent s after h => ?_
  dsimp only at h
  split at h
  · split_ifs at h with hdeclines
    obtain rfl := Option.some.inj h
    obtain rfl : silent = false := by
      simp only [Bool.or_eq_true, not_or, Bool.not_eq_true] at hdeclines
      exact hdeclines.1
    exact (reads_pushMarks s _ _).moveTo _
  · cases h

theorem autolink_keeps : Rule.autolink.Keeps := by
  refine plain_keeps fun setting silent s after h => ?_
  dsimp only at h
  split at h
  · split at h
    · cases h
    · split at h
      · cases h
      · split at h
        · cases h
        · obtain rfl := Option.some.inj h
          refine Reads.moveTo ?_ _
          cases silent with
          | true => exact Skims.refl s
          | false =>
            exact grows_made (fills_push rfl _)
  · cases h

theorem html_keeps : Rule.html.Keeps := by
  refine plain_keeps fun setting silent s after h => ?_
  dsimp only at h
  split_ifs at h
  obtain ⟨rest, -, rfl⟩ := Option.map_eq_some_iff.mp h
  exact (reads_pushUnless rfl s).moveTo _

theorem entity_keeps : Rule.entity.Keeps := by
  refine plain_keeps fun setting silent s after h => ?_
  dsimp only at h
  split_ifs at h
  obtain ⟨found, -, rfl⟩ := Option.map_eq_some_iff.mp h
  exact (reads_pushUnless rfl s).moveTo _

theorem magic_keeps (resolver : Resolver) : (Rule.magic resolver).Keeps := by
  intro setting reader hreader silent s
  rw [Rule.magic, Rule.ofAction, State.magic_on]
  rcases resolver.draftAt s.src s.pos with fault | _ | ⟨token, draft⟩
  · trivial
  · exact (Skims.refl s).reads
  · refine Reads.moveTo ?_ _
    cases silent with
    | true => exact Skims.refl s
    | false =>
      exact grows_made ((fills_push rfl _).trans (fills_push rfl _))

/-! ### Links and images -/

section

variable {reader : Reader} (hreader : reader.Keeps)

include hreader

theorem findLabelEnd_skims (single : Bool) (steps level : Nat) (s : State) :
    Gives (fun answer => s.Skims answer.2) (findLabelEnd reader single level s steps) := by
  induction steps generalizing level s with
  | zero => exact Skims.refl s
  | succ steps ih =>
    rw [findLabelEnd]
    refine .ite (fun _ => Skims.refl s) fun _ => .ite (fun _ => Skims.refl s) fun _ => ?_
    refine .bind (hreader.skip s) fun after hafter => ?_
    have hmore : ∀ level, Gives (fun answer => s.Skims answer.2) (findLabelEnd reader single level after steps) :=
      fun level => (ih level after).imp fun answer hanswer => hafter.trans hanswer
    exact .ite (fun _ => hmore _) fun _ => .ite (fun _ => hafter) fun _ => hmore _

theorem labelEnd_skims (s : State) (start : Nat) (single : Bool) :
    Gives (fun answer => s.Skims answer.2) (labelEnd reader s start single) := by
  refine .bind (findLabelEnd_skims hreader single _ _ _) fun answer hanswer => ?_
  exact ⟨hanswer.src, hanswer.pieces⟩

theorem readReference_skims (setting : Setting) (s : State) (first last offset : Nat) :
    Gives (fun answer => s.Skims answer.2) (readReference setting reader s first last offset) := by
  unfold readReference
  refine .ite (fun _ => ?_) fun _ => Skims.refl s
  refine .bind (labelEnd_skims hreader s offset false) fun answer hanswer => ?_
  obtain ⟨found, read⟩ := answer
  exact hanswer

theorem resolveSource_skims (setting : Setting) (s : State) (first last : Nat) (source : Source) :
    Gives (fun answer => s.Skims answer.2) (resolveSource setting reader s first last source) := by
  cases source with
  | inlined href title stop => exact Skims.refl s
  | nowhere => exact Skims.refl s
  | defined offset =>
    exact .ite (fun _ => Skims.refl s) fun _ => readReference_skims hreader setting s first last offset

end

theorem link_keeps : Rule.link.Keeps := by
  intro setting reader hreader silent s
  unfold Rule.link
  refine .ite (fun _ => (Skims.refl s).reads) fun hopens => ?_
  refine .bind (labelEnd_skims hreader s s.pos true) fun answer hlabel => ?_
  obtain ⟨last | last, found⟩ := answer
  · exact hlabel.reads
  dsimp only
  refine .bind (resolveSource_skims hreader setting found _ _ _) fun answer hsource => ?_
  obtain ⟨target | ⟨target, stop⟩, read⟩ := answer
  · exact (hlabel.trans hsource).reads
  have hskims := hlabel.trans hsource
  dsimp only
  refine .ite (fun _ => (hskims.reads).moveTo stop) fun hsilent => ?_
  refine .bind (hreader.run _) fun inner hinner => ?_
  obtain rfl : silent = false := by simpa using hsilent
  have hbracket : '[' ∈ read.src := by
    rw [hskims.src]
    exact List.mem_of_getElem? (not_not.mp hopens)
  have hwritten : read.Grows (inner.pushClose (.linkClose false)) := by
    refine State.grows_written (linkAttrs "href" target.href target.title) hbracket ?_ hinner
    exact ⟨rfl, rfl⟩
  exact hskims.grows.trans ⟨hwritten.src, hwritten.pieces⟩

theorem image_keeps : Rule.image.Keeps := by
  intro setting reader hreader silent s
  unfold Rule.image
  refine .ite (fun _ => (Skims.refl s).reads) fun _ => ?_
  refine .bind (labelEnd_skims hreader s (s.pos + 1) false) fun answer hlabel => ?_
  obtain ⟨last | last, found⟩ := answer
  · exact hlabel.reads
  dsimp only
  refine .bind (resolveSource_skims hreader setting found _ _ _) fun answer hsource => ?_
  obtain ⟨target | ⟨target, stop⟩, read⟩ := answer
  · exact (hlabel.trans hsource).reads
  have hskims := hlabel.trans hsource
  dsimp only
  refine .ite (fun _ => (hskims.reads).moveTo stop) fun hsilent => ?_
  refine .bind (gives_true _) fun children _ => ?_
  obtain rfl : silent = false := by simpa using hsilent
  have hpush : ∀ attrs content, s.Reads false (read.push (.image attrs content children)) := fun _ _ =>
    hskims.grows.trans (fills_push rfl read).grows
  exact (hpush _ _).moveTo stop

end Rule

/-! ### The reader -/

theorem tryRules_reads {setting : Setting} {reader : Reader} (hreader : reader.Keeps)
    {rules : List (Text × Rule)} (hrules : ∀ entry ∈ rules, entry.2.Keeps) (silent : Bool) (s : State) :
    Gives (fun answer => s.Reads silent answer.2) (tryRules setting reader silent rules s) := by
  induction rules generalizing s with
  | nil => exact (State.Skims.refl s).reads
  | cons entry rest ih =>
    obtain ⟨name, rule⟩ := entry
    obtain ⟨hrule, hrest⟩ := List.forall_mem_cons.mp hrules
    rw [tryRules]
    -- a rule that declines may have changed the state as well
    refine .bind (hrule setting reader hreader silent s) fun answer hanswer => ?_
    refine .ite (fun _ => hanswer) fun _ => ?_
    exact (ih hrest answer.2).imp fun more hmore => hanswer.trans hmore

namespace Grammar

variable {g : Grammar} {setting : Setting}

theorem reader_keeps (hrules : ∀ entry ∈ g.rules, entry.2.Keeps) (fuel : Nat) :
    Reader.Keeps ⟨skip g setting fuel, run g setting fuel, alone g setting fuel⟩ := by
  induction fuel with
  | zero =>
    refine ⟨fun s => ?_, fun s => ?_⟩
    · change Gives _ (skip g setting 0 s)
      rw [skip]
      exact ⟨rfl, rfl⟩
    · change Gives _ (run g setting 0 s)
      rw [run]
      exact (State.fills_flush s).grows
  | succ fuel ih =>
    refine ⟨fun s => ?_, fun s => ?_⟩
    · change Gives _ (skip g setting (fuel + 1) s)
      rw [skip]
      split
      · exact ⟨rfl, rfl⟩
      · refine .ite (fun _ => ?_) fun _ => ⟨rfl, rfl⟩
        refine .bind (tryRules_reads ih hrules true _) fun answer hanswer => ?_
        exact ⟨hanswer.src, hanswer.pieces⟩
    · change Gives _ (run g setting (fuel + 1) s)
      rw [run]
      split
      · exact (State.fills_flush s).grows
      · rename_i c _
        -- a character that no rule takes is pending text
        have hround : ∀ (done : Bool) (after : State), s.Grows after →
            Gives (fun final => s.Grows final)
              (if done then run g setting fuel after
              else run g setting fuel ((after.addPending [c]).moveTo (s.pos + 1))) := by
          intro done after hafter
          refine .ite (fun _ => (ih.run after).imp fun final hfinal => hafter.trans hfinal) fun _ => ?_
          have hpending : after.Skims ((after.addPending [c]).moveTo (s.pos + 1)) := ⟨rfl, rfl⟩
          exact (ih.run _).imp fun final hfinal => (hafter.trans hpending.grows).trans hfinal
        refine .ite (fun _ => ?_) fun _ => hround false s (State.Skims.refl s).grows
        exact .bind (tryRules_reads ih hrules false s) fun answer hanswer => hround answer.1 answer.2 hanswer

end Grammar

/-! ### Resolved marks -/

theorem isLink_of_mem_meanings (delimiters : Array Delimiter) (count : Nat) :
    ∀ entry ∈ meanings delimiters count, entry.2.isLink = false := by
  fun_induction meanings delimiters count with
  | case1 => simp
  | case2 => assumption
  | case3 => assumption
  | case4 opener close closer _ _ single ih => exact List.forall_mem_cons.mpr ⟨rfl, List.forall_mem_cons.mpr ⟨rfl, ih⟩⟩
  | case5 opener close closer _ index before after _ _ _ _ _ ih =>
    simp only [List.forall_mem_cons]
    exact ⟨rfl, rfl, rfl, rfl, ih⟩
  | case6 opener close closer _ index before after _ _ _ _ single ih =>
    exact List.forall_mem_cons.mpr ⟨rfl, List.forall_mem_cons.mpr ⟨rfl, ih⟩⟩
  | case7 opener close closer _ index _ _ single ih =>
    exact List.forall_mem_cons.mpr ⟨rfl, List.forall_mem_cons.mpr ⟨rfl, ih⟩⟩

theorem isLink_resolveNode {table : List (Nat × Node)} (htable : ∀ entry ∈ table, entry.2.isLink = false)
    {node : Node} (h : node.isLink = false) : (resolveNode table node).isLink = false := by
  cases node with
  | mark symbol number =>
    rw [resolveNode]
    cases hfound : table.lookup number with
    | none => rfl
    | some found =>
      obtain ⟨before, after, hsplit, -⟩ := List.lookup_eq_some_iff.mp hfound
      exact htable (number, found) (by rw [hsplit]; simp)
  | _ => exact h

theorem linked_resolved {brackets : Prop} {s : State} (h : Linked brackets (s.pieces.map Piece.node)) :
    Linked brackets s.resolved := by
  obtain ⟨table, htable, hresolved⟩ : ∃ table, (∀ entry ∈ table, entry.2.isLink = false) ∧
      s.resolved = (s.pieces.map Piece.node).map (resolveNode table) := by
    refine ⟨(s.closed ++ s.delimiters :: s.outer).flatMap fun delimiters =>
      meanings (pair delimiters) delimiters.length, fun entry hentry => ?_, ?_⟩
    · obtain ⟨delimiters, -, hmem⟩ := List.mem_flatMap.mp hentry
      exact isLink_of_mem_meanings _ _ entry hmem
    · rw [List.map_map]
      rfl
  rw [hresolved]
  refine h.map (fun node hnode => ?_) fun node hnode => isLink_resolveNode htable hnode
  cases node with
  | mark symbol number => simp [Node.isLink] at hnode
  | _ => rfl

/-! ### Paragraphs -/

theorem Dialect.rules_keep (dialect : Dialect) (resolver : Resolver) :
    ∀ entry ∈ (dialect.grammar resolver).rules, entry.2.Keeps := by
  have hown : ∀ entry ∈ dialect.ownRules, entry.2.Keeps := by
    cases dialect with
    | plain => simpa [Dialect.ownRules] using Rule.text_keeps
    | full =>
      simp only [Dialect.ownRules, List.forall_mem_cons]
      exact ⟨Rule.text_keeps, Rule.newline_keeps, Rule.escape_keeps, Rule.backticks_keeps, Rule.emphasis_keeps,
        Rule.link_keeps, Rule.image_keeps, Rule.autolink_keeps, Rule.html_keeps, Rule.entity_keeps, by simp⟩
  exact List.forall_mem_cons.mpr ⟨Rule.magic_keeps resolver, hown⟩

/-- The state after a whole text has grown from one without pieces. -/
theorem Grammar.parse_linked {g : Grammar} (hrules : ∀ entry ∈ g.rules, entry.2.Keeps) (setting : Setting)
    (text : Text) : Gives (Linked ('[' ∈ text)) (g.parse setting text) := by
  rw [parse, alone]
  refine .bind ((reader_keeps hrules (text.length + 1)).run (State.start text)) fun s hs => ?_
  obtain ⟨added, hadded, hlinked⟩ := hs.pieces
  have hpieces : s.pieces = added := hadded
  exact linked_resolved (hpieces ▸ hlinked)

/-- **Which links stand inside of others.** In the pieces of a paragraph every link is closed in its turn, and
wherever one is opened, the links that are open around it are written with brackets. So a made link, that of a
brace token or of an address, never holds another one, and without a bracket in the text no link does. -/
theorem links_open_in_brackets (dialect : Dialect) (resolver : Resolver) (setting : Setting) (text : Text)
    (nodes : List Node) (hparse : (dialect.grammar resolver).parse setting text = .ok nodes) :
    ∃ found, openings? [] nodes = some found ∧ ∀ opening ∈ found,
      (∀ made ∈ opening.outer, made = false) ∧ (opening.outer ≠ [] → '[' ∈ text) := by
  have hlinked := Grammar.parse_linked (dialect.rules_keep resolver) setting text
  rw [hparse] at hlinked
  exact Linked.exists_openings hlinked

/-- The links that the text opens in the full dialect without settings. -/
def openingsOf (setting : Setting) (text : Text) : Option (List Opening) :=
  ((Dialect.full.grammar ⟨{}, Resolver.defaultHandlers {}, Url.normalize⟩).parse setting text).toOption.bind
    (openings? [])

/-- A link around a mention. -/
theorem links_open_in_brackets_mention :
    ∃ nodes found,
      (Dialect.full.grammar ⟨{}, Resolver.defaultHandlers {}, Url.normalize⟩).parse { normalize := Url.normalize }
        "[a \x7B@b\x7D c](d)" = .ok nodes ∧
      openings? [] nodes = some found ∧
      ∀ opening ∈ found, ∀ made ∈ opening.outer, made = false := by
  have hsome : (openingsOf { normalize := Url.normalize } "[a \x7B@b\x7D c](d)").isSome = true := by decide +kernel
  cases hparse : (Dialect.full.grammar ⟨{}, Resolver.defaultHandlers {}, Url.normalize⟩).parse
      { normalize := Url.normalize } "[a \x7B@b\x7D c](d)" with
  | error fault =>
    rw [openingsOf, hparse] at hsome
    cases hsome
  | ok nodes =>
    obtain ⟨found, hfound, hbrackets⟩ := links_open_in_brackets .full _ _ _ nodes hparse
    exact ⟨nodes, found, rfl, hfound, fun opening hopening => (hbrackets opening hopening).1⟩

/-- A mention, an address and a link, each inside of a link that is written with brackets. -/
theorem links_open_in_links :
    openingsOf { normalize := Url.normalize } "[a \x7B@b\x7D c](d)" = some [⟨[], false⟩, ⟨[false], true⟩] ∧
    openingsOf { normalize := Url.normalize } "[a <http://b> c](d)" = some [⟨[], false⟩, ⟨[false], true⟩] ∧
    openingsOf { normalize := Url.normalize, definitions := [("B", ⟨"x", []⟩)] } "[a [b](c](u) d[z]" =
      some [⟨[], false⟩, ⟨[false], false⟩] := by
  decide +kernel

end BraceLink.Commonmark
