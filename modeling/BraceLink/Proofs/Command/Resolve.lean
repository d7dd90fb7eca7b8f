import BraceLink.Proofs.Command.Render
import BraceLink.Proofs.Resolver.Script
import BraceLink.Proofs.Terminal.Grid
import BraceLink.Proofs.Terminal.Literal

/-!
# Resolving at the terminal

Without settings the resolver never fails, so a run that resolves a payload comes to its record or to the message
that there is none. The payload in that message is escaped, so the message can always be shown (`print_unresolved`).
The values of a record are not escaped: text, link and image are read as marked texts, and what they show is a record
again (`Reads`). The grid of the record is that of the record that is shown, and it is drawn exactly if there is one
(`render_recordGrid_iff`). `resolve_reports` says what is shown of each payload.

A mark that ends a style without a beginning cannot be read, and then the run breaks off (`resolve_breaks_off`).
-/

namespace BraceLink.Command

open Terminal
open Text (Separate)

variable {payload : Text} {record shown : Record}

/-! ### Payloads without a record -/

def unresolvedMessage (payload : Text) : Text :=
  "[yellow]Unresolved[/yellow] " ++ Markup.escape (braced payload) ++ " is left as literal text"

theorem print_unresolved (payload : Text) : ∃ output, Terminal.print (unresolvedMessage payload) = .ok output := by
  have hname : Markup.IsContent "yellow" := ⟨⟨'y', rfl, by decide⟩, List.all_iff_forall_prop.mp (by decide)⟩
  have hopened : Markup.applyMark 0 [] "yellow" = .ok ([⟨"yellow", none, 0⟩], none) := by rfl
  have hwords : ∀ c ∈ ("Unresolved" : String).toList, c ≠ '\\' ∧ c ≠ '[' := List.all_iff_forall_prop.mp (by decide)
  have hmore : '[' ∉ (" is left as literal text" : String).toList ∧
      ']' ∉ (" is left as literal text" : String).toList := by decide
  have hquiet : Markup.Quiet 0 (' ' :: (Markup.escape (braced payload) ++ " is left as literal text")) :=
    (Markup.quiet_char (by decide) fun hopen => absurd hopen (by decide)).mpr (Markup.quiet_escape _ hmore)
  obtain ⟨shown, hshown⟩ :=
    Markup.marked_styled "Unresolved" hname hopened (fun _ => by rfl) (fun _ => rfl) hwords hquiet
  exact Grid.print_ok hshown

theorem marked_title (payload : Text) :
    ∃ title, Markup.marked (Markup.escape (braced payload)) = .ok ⟨title, []⟩ := by
  have hnone : '[' ∉ ([] : Text) ∧ ']' ∉ ([] : Text) := by simp
  have hquiet := Markup.quiet_escape (braced payload) hnone
  rw [List.append_nil] at hquiet
  exact Markup.marked_of_quiet hquiet

/-! ### Records -/

def valueWidth (record : Record) : Nat :=
  ((Grid.fitWidths (Grid.naturalWidths (recordRows record))).getLast?).getD 0

/-- A marked text shows a text in lines of the width, where no style that cannot be read is seen. -/
def ShowsAs (width : Nat) (value shown : Text) : Prop :=
  ∃ marked, Markup.marked value = .ok marked ∧ marked.text = shown ∧ marked.isFaulty width = false

/-- Text, link and image of the second record are those of the first as the terminal shows them. -/
structure Reads (record shown : Record) : Prop where
  text : ShowsAs (valueWidth shown) record.text shown.text
  link : ShowsAs (valueWidth shown) record.link shown.link
  image : ShowsAs (valueWidth shown) record.image shown.image
  eq : shown = { record with text := shown.text, link := shown.link, image := shown.image }

theorem ShowsAs.read {width : Nat} {value shown : Text} (h : ShowsAs width value shown) :
    Markup.read value = .ok shown := by
  obtain ⟨marked, hmarked, rfl, -⟩ := h
  rw [Markup.read, hmarked]
  rfl

theorem Reads.eq_iff (h : Reads record shown) :
    shown = record ↔ ∀ value ∈ [record.text, record.link, record.image], Markup.IsLiteral value := by
  simp only [List.forall_mem_cons, ← Markup.read_eq_self_iff, h.text.read, h.link.read, h.image.read, Except.ok.injEq]
  constructor
  · rintro rfl
    exact ⟨rfl, rfl, rfl, List.forall_mem_nil _⟩
  · rintro ⟨htext, hlink, himage, -⟩
    rw [h.eq, htext, hlink, himage]

/-- Category and classes are shown as they are, and the classes take more room than the labels. -/
structure HasPlainKind (record : Record) : Prop where
  kind : Markup.marked record.kind = .ok ⟨record.kind, []⟩
  className : Markup.marked record.className = .ok ⟨record.className, []⟩
  room : 6 ≤ Grid.longestLine record.className
  separate : Separate record.kind ∧ Separate record.className

theorem HasPlainKind.with_values (h : HasPlainKind record) (text link image : Text) :
    HasPlainKind { record with text, link, image } := ⟨h.kind, h.className, h.room, h.separate⟩

theorem Reads.hasPlainKind (h : Reads record shown) (hplain : HasPlainKind record) : HasPlainKind shown := by
  rw [h.eq]
  exact hplain.with_values _ _ _

def isPlainMarked (text : Text) : Bool :=
  match Markup.marked text with
  | .ok marked => marked.text = text && marked.faults.isEmpty
  | .error _ => false

theorem marked_eq_of_isPlainMarked {text : Text} (h : isPlainMarked text = true) :
    Markup.marked text = .ok ⟨text, []⟩ := by
  unfold isPlainMarked at h
  split at h
  · rename_i marked hmarked
    simp only [Bool.and_eq_true, decide_eq_true_eq, List.isEmpty_iff] at h
    obtain ⟨rfl, hnone⟩ := h
    rw [hmarked, ← hnone]
  · cases h

theorem hasPlainKind_of_resolve (h : Resolver.plain.resolve payload = .ok (some record)) : HasPlainKind record := by
  obtain ⟨hkind, hclasses⟩ := Resolver.plain_kind h
  have hkinds : ∀ kind ∈ [Handler.namedKind, Handler.githubKind], ∀ classes ∈
      [Text.join [' '] [Link.generalClass, Link.generalClass ++ '-' :: kind]],
      isPlainMarked kind = true ∧ isPlainMarked classes = true ∧ 6 ≤ Grid.longestLine classes ∧
        Separate kind ∧ Separate classes := by
    decide +kernel
  obtain ⟨hread, hclass, hroom, hseparate⟩ := hkinds record.kind (by simpa using hkind) record.className
    (by rw [Record.className, hclasses, List.mem_singleton])
  exact ⟨marked_eq_of_isPlainMarked hread, marked_eq_of_isPlainMarked hclass, hroom, hseparate⟩

/-- The names of the values of a record. -/
def valueLabels : List Text := ["text", "link", "type", "class", "image"]

/-- The values of a record, in the order in which they are shown. -/
def recordValues (record : Record) : List Text :=
  [record.text, record.link, record.kind, record.className, record.image]

def labelled (labels values : List Text) : List (List Text) :=
  List.zipWith (fun label value => [label, value]) labels values

/-- Values that have been read behind their names. -/
def labelledCells (labels : List Text) (cells : List Markup.Marked) : List (List Markup.Marked) :=
  List.zipWith (fun label cell => [⟨label, []⟩, cell]) labels cells

theorem map_rowTexts_labelledCells (labels : List Text) (cells : List Markup.Marked) :
    (labelledCells labels cells).map Grid.rowTexts = labelled labels (cells.map Markup.Marked.text) := by
  rw [labelledCells, labelled, List.map_zipWith, List.zipWith_map_right]
  rfl

theorem forall₂_labelled {labels : List Text} (hlabels : ∀ label ∈ labels, Markup.marked label = .ok ⟨label, []⟩)
    (values : List Text) (hlength : labels.length = values.length) {rows : List (List Markup.Marked)} :
    List.Forall₂ (List.Forall₂ fun cell shown => Markup.marked cell = .ok shown) (labelled labels values) rows ↔
      ∃ cells, List.Forall₂ (fun value cell => Markup.marked value = .ok cell) values cells ∧
        rows = labelledCells labels cells := by
  induction labels generalizing values rows with
  | nil =>
    obtain rfl := List.eq_nil_of_length_eq_zero hlength.symm
    simp [labelled, labelledCells]
  | cons label labels ih =>
    obtain ⟨value, values, rfl⟩ := List.exists_cons_of_length_eq_add_one hlength.symm
    obtain ⟨hlabel, hlabels⟩ := List.forall_mem_cons.mp hlabels
    have hrest : ∀ {rows}, List.Forall₂ _ (labelled labels values) rows ↔ _ :=
      ih hlabels values (Nat.succ.inj hlength)
    rw [labelled, List.zipWith_cons_cons]
    constructor
    · rintro (_ | ⟨_ | ⟨hread, _ | ⟨hvalue, _ | _⟩⟩, hrows⟩)
      obtain rfl := Except.ok.inj (hlabel.symm.trans hread)
      obtain ⟨cells, hcells, rfl⟩ := hrest.mp hrows
      exact ⟨_ :: cells, .cons hvalue hcells, rfl⟩
    · rintro ⟨_, _ | ⟨hvalue, hcells⟩, rfl⟩
      exact .cons (.cons hlabel (.cons hvalue .nil)) (hrest.mpr ⟨_, hcells, rfl⟩)

theorem marked_valueLabels : ∀ label ∈ valueLabels, Markup.marked label = .ok ⟨label, []⟩ := by
  have hplain : ∀ label ∈ valueLabels, isPlainMarked label = true := by decide +kernel
  exact fun label hlabel => marked_eq_of_isPlainMarked (hplain label hlabel)

/-! ### The grid of a record -/

theorem naturalWidths_recordRows (record : Record) :
    ∃ width, Grid.longestLine record.className ≤ width ∧ Grid.naturalWidths (recordRows record) = [5, width] := by
  have hlabels : max (Grid.longestLine "text") (max (Grid.longestLine "link") (max (Grid.longestLine "type")
      (max (Grid.longestLine "class") (Grid.longestLine "image")))) = 5 := by
    decide
  refine ⟨max (Grid.longestLine record.text) (max (Grid.longestLine record.link) (max (Grid.longestLine record.kind)
    (max (Grid.longestLine record.className) (Grid.longestLine record.image)))), by omega, ?_⟩
  exact congrArg (fun width => [width, _]) hlabels

theorem fitWidths_pair {width : Nat} (h : 6 ≤ width) : Grid.fitWidths [5, width] = [5, min width 68] := by
  simp only [Grid.fitWidths, Grid.total, screenWidth, List.map_cons, List.map_nil, List.foldl_cons, List.foldl_nil,
    List.length_cons, List.length_nil]
  -- the column of values is the widest one, so it alone gives way
  rw [if_neg (by omega), if_pos (by omega)]
  exact congrArg₂ (fun first second => [first, second]) (by omega) (by omega)

theorem fitWidths_recordRows (h : HasPlainKind record) :
    Grid.fitWidths (Grid.naturalWidths (recordRows record)) = [5, valueWidth record] ∧ 2 ≤ valueWidth record := by
  obtain ⟨width, hroom, hnatural⟩ := naturalWidths_recordRows record
  have hwide : 6 ≤ width := Nat.le_trans h.room hroom
  have hwidths : Grid.fitWidths (Grid.naturalWidths (recordRows record)) = [5, min width 68] := by
    rw [hnatural, fitWidths_pair hwide]
  have hvalue : valueWidth record = min width 68 := by
    rw [valueWidth, hwidths]
    rfl
  exact ⟨by rw [hwidths, hvalue], by omega⟩

theorem draw_recordRows (h : HasPlainKind record)
    (hseparate : ∀ value ∈ [record.text, record.link, record.image], Separate value) (title : Text) :
    Grid.Shows (recordRows record) (Grid.draw title none (recordRows record)) := by
  obtain ⟨hwidths, hroom⟩ := fitWidths_recordRows h
  refine Grid.draw_shows title hwidths ?_ ?_ ?_
  · exact List.forall_mem_cons.mpr ⟨by omega, List.forall_mem_singleton.mpr hroom⟩
  · simp [recordRows]
  · have hlabels : ∀ label ∈ (["text", "link", "type", "class", "image"] : List Text), Separate label := by decide
    simp only [List.forall_mem_cons] at hlabels hseparate
    obtain ⟨htext, hlink, htype, hclass, himage, -⟩ := hlabels
    simp only [recordRows, List.forall_mem_cons, List.not_mem_nil, IsEmpty.forall_iff, implies_true, and_true, htext,
      hlink, htype, hclass, himage, hseparate, h.separate]

theorem reads_iff (h : HasPlainKind record) :
    Reads record shown ↔ ∃ cells,
      List.Forall₂ (fun value cell => Markup.marked value = .ok cell) (recordValues record) cells ∧
        cells.map Markup.Marked.text = recordValues shown ∧ shown.classes = record.classes ∧
        ∀ cell ∈ cells, cell.isFaulty (valueWidth shown) = false := by
  constructor
  · intro hreads
    obtain ⟨text, htext, htextSame, htextFine⟩ := hreads.text
    obtain ⟨link, hlink, hlinkSame, hlinkFine⟩ := hreads.link
    obtain ⟨image, himage, himageSame, himageFine⟩ := hreads.image
    have hsame : shown.kind = record.kind ∧ shown.classes = record.classes := by
      rw [hreads.eq]
      exact ⟨rfl, rfl⟩
    refine ⟨[text, link, ⟨record.kind, []⟩, ⟨record.className, []⟩, image], ?_, ?_, hsame.2, ?_⟩
    · exact .cons htext (.cons hlink (.cons h.kind (.cons h.className (.cons himage .nil))))
    · simp only [List.map_cons, List.map_nil, recordValues, Record.className, htextSame, hlinkSame, himageSame, hsame]
    · have hfine : ∀ text, (Markup.Marked.mk text []).isFaulty (valueWidth shown) = false := fun _ => rfl
      simp [htextFine, hlinkFine, himageFine, hfine]
  · rintro ⟨cells, hcells, htexts, hclasses, hfine⟩
    rcases hcells with _ | ⟨htext, _ | ⟨hlink, _ | ⟨hkind, _ | ⟨hclass, _ | ⟨himage, _ | _⟩⟩⟩⟩⟩
    simp only [List.map_cons, List.map_nil, recordValues, List.cons.injEq, and_true] at htexts
    simp only [List.forall_mem_cons] at hfine
    obtain ⟨htextSame, hlinkSame, hkindSame, -, himageSame⟩ := htexts
    obtain ⟨htextFine, hlinkFine, -, -, himageFine, -⟩ := hfine
    obtain rfl := Except.ok.inj (h.kind.symm.trans hkind)
    refine ⟨⟨_, htext, htextSame, htextFine⟩, ⟨_, hlink, hlinkSame, hlinkFine⟩, ⟨_, himage, himageSame, himageFine⟩, ?_⟩
    cases shown
    simp only at hkindSame hclasses ⊢
    rw [← hkindSame, hclasses]

def recordGrid (payload : Text) (record : Record) : Grid :=
  { title := Markup.escape (braced payload), rows := recordRows record }

theorem render_recordGrid_iff (h : HasPlainKind record) {title drawn : Text}
    (htitle : Markup.marked (Markup.escape (braced payload)) = .ok ⟨title, []⟩) :
    (recordGrid payload record).render = .ok drawn ↔
      ∃ shown, Reads record shown ∧ drawn = Grid.draw title none (recordRows shown) := by
  have hrows : ∀ record, recordRows record = labelled valueLabels (recordValues record) := fun _ => rfl
  have hfaulty : ∀ {cells : List Markup.Marked} (width : Nat), cells.length = 5 →
      ((∀ row ∈ labelledCells valueLabels cells, Grid.isFaultyRow [5, width] row = false) ↔
        ∀ cell ∈ cells, cell.isFaulty width = false) := by
    intro cells width hlength
    match cells, hlength with
    | [_, _, _, _, _], _ =>
      have hlabel : ∀ label, (Markup.Marked.mk label []).isFaulty 5 = false := fun _ => rfl
      simp [labelledCells, valueLabels, Grid.isFaultyRow, hlabel]
  rw [Grid.render_eq_ok_iff rfl htitle]
  constructor
  · rintro ⟨rows, hread, hfine, rfl⟩
    obtain ⟨cells, hcells, rfl⟩ := (forall₂_labelled marked_valueLabels (recordValues record) rfl).mp hread
    rw [map_rowTexts_labelledCells] at hfine ⊢
    rcases hcells with _ | ⟨htext, _ | ⟨hlink, _ | ⟨hkind, _ | ⟨hclass, _ | ⟨himage, _ | _⟩⟩⟩⟩⟩
    rename_i text link kind classes image
    obtain rfl := Except.ok.inj (h.kind.symm.trans hkind)
    obtain rfl := Except.ok.inj (h.className.symm.trans hclass)
    let shown : Record := { record with text := text.text, link := link.text, image := image.text }
    have hshown : HasPlainKind shown := h.with_values _ _ _
    refine ⟨shown, (reads_iff h).mpr ⟨_, .cons htext (.cons hlink (.cons hkind (.cons hclass (.cons himage .nil)))),
      rfl, rfl, ?_⟩, rfl⟩
    refine (hfaulty _ rfl).mp ?_
    rw [← (fitWidths_recordRows hshown).1]
    exact hfine
  · rintro ⟨shown, hreads, rfl⟩
    obtain ⟨cells, hcells, htexts, -, hfine⟩ := (reads_iff h).mp hreads
    refine ⟨labelledCells valueLabels cells, ?_, ?_, ?_⟩
    · exact (forall₂_labelled marked_valueLabels (recordValues record) rfl).mpr ⟨cells, hcells, rfl⟩
    · rw [map_rowTexts_labelledCells, htexts, ← hrows, (fitWidths_recordRows (hreads.hasPlainKind h)).1]
      exact (hfaulty _ hcells.length_eq.symm).mpr hfine
    · rw [map_rowTexts_labelledCells, htexts, ← hrows]

theorem render_record (h : HasPlainKind record) (payload : Text) :
    (∃ title shown, Markup.read (Markup.escape (braced payload)) = .ok title ∧ Reads record shown ∧
        (recordGrid payload record).render = .ok (Grid.draw title none (recordRows shown))) ∨
      (∃ error, (recordGrid payload record).render = .error error) ∧ ∀ shown, ¬ Reads record shown := by
  obtain ⟨title, htitle⟩ := marked_title payload
  have hdrawn : ∀ {drawn}, (recordGrid payload record).render = .ok drawn ↔ _ := render_recordGrid_iff h htitle
  have hread : Markup.read (Markup.escape (braced payload)) = .ok title := by
    rw [Markup.read, htitle]
    rfl
  cases hrender : (recordGrid payload record).render with
  | ok drawn =>
    obtain ⟨shown, hshown, rfl⟩ := hdrawn.mp hrender
    exact Or.inl ⟨title, shown, hread, hshown, rfl⟩
  | error error =>
    refine Or.inr ⟨⟨error, rfl⟩, fun shown hshown => ?_⟩
    have hok := hdrawn.mpr ⟨shown, hshown, rfl⟩
    rw [hrender] at hok
    cases hok

/-! ### Runs -/

theorem run_resolve (disk : Disk) (payload : Text) :
    run disk ["resolve", "--", payload] = (resolve payload Resolver.plain).run disk := by
  have hwords : Request.read ["resolve", "--", payload] = .ok (.resolve payload none) := by rfl
  rw [run_eq_ofRequest hwords, Plan.ofRequest, withSettings, withResolver,
    Resolver.build_plain Registry.builtin_hasDefaults]

/-- **What is shown of a payload.** Without settings and for every payload, the command to resolve leaves the disk as
it is. If the payload is not resolved, the run ends with the code one and the message. If it is, and text, link and
image of the record can be read as marked texts, without a style in sight that is none, the run ends with the code zero
and the grid of what these show. They show themselves exactly if no mark, no escape of a bracket, no name of an emoji
and no control is in them, and the rows of the grid show every value but for blanks, where it is folded. If one of them
cannot be read, the run breaks off. -/
theorem resolve_reports (disk : Disk) (payload : Text) :
    ∃ resolver, Resolver.build Registry.builtin {} = .ok resolver ∧
      ((resolver.resolve payload = .ok none ∧ ∃ output, Terminal.print (unresolvedMessage payload) = .ok output ∧
          run disk ["resolve", "--", payload] = ({ code := 1, output }, disk)) ∨
        ∃ record, resolver.resolve payload = .ok (some record) ∧
          ((∃ title shown, Markup.read (Markup.escape (braced payload)) = .ok title ∧ Reads record shown ∧
              run disk ["resolve", "--", payload] = ({ output := Grid.draw title none (recordRows shown) }, disk) ∧
              (shown = record ↔ ∀ value ∈ [record.text, record.link, record.image], Markup.IsLiteral value) ∧
              ((∀ value ∈ [shown.text, shown.link, shown.image], Separate value) →
                Grid.Shows (recordRows shown) (Grid.draw title none (recordRows shown)))) ∨
            (∃ error, run disk ["resolve", "--", payload] = ({ code := 1, crash := some (.display error) }, disk)) ∧
              ∀ shown, ¬ Reads record shown)) := by
  refine ⟨_, Resolver.build_plain Registry.builtin_hasDefaults, ?_⟩
  have hnever : ∀ handler ∈ Resolver.plain.handlers, handler.NeverFails := fun handler hmem =>
    (Resolver.isBuiltin_of_mem_plain handler hmem).neverFails
  obtain ⟨answer, hanswer⟩ := Resolver.resolve_ok hnever payload
  rw [run_resolve, resolve, hanswer]
  cases answer with
  | none =>
    obtain ⟨output, houtput⟩ := print_unresolved payload
    refine Or.inl ⟨rfl, output, houtput, ?_⟩
    change (finishWith 1 (Terminal.print (unresolvedMessage payload))).run disk = _
    rw [houtput]
    rfl
  | some record =>
    have hplain := hasPlainKind_of_resolve hanswer
    refine Or.inr ⟨record, rfl, ?_⟩
    rcases render_record hplain payload with ⟨title, shown, htitle, hshown, hrender⟩ | ⟨⟨error, hrender⟩, hnone⟩
    · refine Or.inl ⟨title, shown, htitle, hshown, ?_, hshown.eq_iff, fun hseparate => ?_⟩
      · change (finishWith 0 (recordGrid payload record).render).run disk = _
        rw [hrender]
        rfl
      · exact draw_recordRows (hshown.hasPlainKind hplain) hseparate title
    · refine Or.inr ⟨⟨error, ?_⟩, hnone⟩
      change (finishWith 0 (recordGrid payload record).render).run disk = _
      rw [hrender]
      rfl

/-- A login that is a mark for the end of a style. -/
theorem resolve_breaks_off :
    ∃ resolver record, Resolver.build Registry.builtin {} = .ok resolver ∧
      resolver.resolve "@[/b]" = .ok (some record) ∧ record.text = "[/B]" ∧
      run ⟨[]⟩ ["resolve", "--", "@[/b]"] = ({ code := 1, crash := some (.display .nothingToEnd) }, ⟨[]⟩) :=
  ⟨_, _, rfl, rfl, by decide, by decide +kernel⟩

end BraceLink.Command
