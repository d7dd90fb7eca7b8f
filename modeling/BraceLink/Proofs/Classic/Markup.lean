import BraceLink.Proofs.Classic.Anchor
import BraceLink.Proofs.Classic.Element
import BraceLink.Proofs.Commonmark.Paragraph
import BraceLink.Proofs.Html.Markup

/-!
# What the markup of a record says

The CommonMark dialect escapes every field of a record, so a reader of its markup finds the record
(`readMarkup?_anchor`). The classic dialect leaves an ampersand alone that looks like the beginning of a reference,
so a reader finds the record with the references in its fields read (`readMarkup?_render`). `markup_of_record`
compares the two.
-/

namespace BraceLink

open Html (unescape readMarkup? shownMarkup HoldsReference)

/-! ### The fields of markup -/

/-- What the markup of a record is meant to say. -/
def Record.markup (record : Record) : Html.Markup :=
  { link := record.link
    classes := record.className
    imageClass := Link.imageClass
    style := Link.backgroundStyle record.image
    text := record.text }

/-- The record with the references in its link, its classes, its image and its text read. -/
def Record.unescapedMarkup (record : Record) : Html.Markup :=
  { link := unescape record.link
    classes := unescape record.className
    imageClass := Link.imageClass
    style := Link.backgroundStyle (unescape record.image)
    text := unescape record.text }

theorem Html.unescape_backgroundStyle (image : Text) :
    unescape (Link.backgroundStyle image) = Link.backgroundStyle (unescape image) := by
  have hbehind : ∀ c, ("');" : String).toList.head? = some c → ∀ reference ∈ references, c ∉ reference.1 := by
    intro c hc
    obtain rfl := Option.some.inj hc
    decide
  unfold Link.backgroundStyle
  rw [List.append_assoc, unescape_append_of_not_mem (by decide), unescape_append hbehind, List.append_assoc]
  rfl

theorem Link.backgroundStyle_inj {image other : Text} (h : backgroundStyle image = backgroundStyle other) :
    image = other := by
  unfold backgroundStyle at h
  exact (List.append_right_inj _).mp (List.append_cancel_right h)

theorem Record.unescapedMarkup_eq_iff (record : Record) :
    record.markup = record.unescapedMarkup ↔
      ∀ field ∈ [record.link, record.className, record.image, record.text], ¬ HoldsReference field := by
  simp only [markup, unescapedMarkup, Html.Markup.mk.injEq, List.forall_mem_cons, ← Html.unescape_eq_self_iff]
  constructor
  · rintro ⟨hlink, hclasses, -, hstyle, htext⟩
    exact ⟨hlink.symm, hclasses.symm, (Link.backgroundStyle_inj hstyle).symm, htext.symm, by simp⟩
  · rintro ⟨hlink, hclasses, himage, htext, -⟩
    exact ⟨hlink.symm, hclasses.symm, trivial, by rw [himage], htext.symm⟩

/-! ### The two dialects -/

theorem anchor_eq_shownMarkup (record : Record) :
    Commonmark.anchor record =
      shownMarkup [("href", Html.escape record.link), ("class", Html.escape record.className)]
        [("class", Link.imageClass), ("style", Html.escape (Link.backgroundStyle record.image))]
        (Html.escape record.text) := by
  rw [Html.escape_backgroundStyle]
  unfold Commonmark.anchor Commonmark.imageSpan shownMarkup
  simp [Html.shownAttribute]

theorem readMarkup?_anchor (record : Record) : readMarkup? (Commonmark.anchor record) = some record.markup := by
  have hquote : ∀ text, '\x22' ∉ Html.escape text := Html.not_mem_escape (by simp)
  rw [anchor_eq_shownMarkup, Html.readMarkup?_shown rfl rfl]
  · simp only [List.map_cons, List.map_nil, Html.unescape_escape]
    rfl
  · simp only [List.cons_append, List.nil_append, List.forall_mem_cons, Html.IsShowable, hquote]
    decide
  · exact Html.not_mem_escape (by simp) _

namespace Classic

namespace Element

theorem mergeSort_pair {α : Type} (le : α → α → Bool) (a b : α) :
    [a, b].mergeSort le = if le a b then [a, b] else [b, a] := by
  simp [List.mergeSort, List.merge, List.MergeSort.Internal.splitInTwo]

theorem startTag_eq {tag : Text} (h : tag ∉ emptyTags) (attrs : List (Text × Text)) :
    startTag tag attrs = '<' :: tag ++
      ((attrs.mergeSort attributeOrder).map fun attr => (attr.1, write true attr.2)).flatMap
        Html.shownAttribute ++ ">" := by
  rw [startTag, if_neg h, List.flatMap_map]
  rfl

end Element

open Element (write)

theorem startTag_anchor (link classes : Text) :
    Element.startTag "a" [("href", link), ("class", classes)] =
      "<a" ++ [(("class" : Text), write true classes), (("href" : Text), write true link)].flatMap
        Html.shownAttribute ++ ">" := by
  have horder : Element.attributeOrder (("href" : Text), link) (("class" : Text), classes) = false := rfl
  rw [Element.startTag_eq (by decide), Element.mergeSort_pair, horder]
  rfl

theorem startTag_image (image : Text) :
    Element.startTag "span" [("class", Link.imageClass), ("style", Link.backgroundStyle image)] =
      "<span" ++ [(("class" : Text), Link.imageClass),
        (("style" : Text), write true (Link.backgroundStyle image))].flatMap Html.shownAttribute ++ ">" := by
  have horder : Element.attributeOrder (("class" : Text), Link.imageClass)
      (("style" : Text), Link.backgroundStyle image) = true := rfl
  have hclass : write true Link.imageClass = Link.imageClass := by decide
  rw [Element.startTag_eq (by decide), Element.mergeSort_pair, horder, if_pos rfl, List.map_cons, List.map_cons,
    hclass]
  rfl

theorem render_anchor (record : Record) :
    Element.render (anchor record) =
      shownMarkup [("class", write true record.className), ("href", write true record.link)]
        [("class", Link.imageClass), ("style", write true (Link.backgroundStyle record.image))]
        (write false record.text) := by
  have hnone : Element.escapeText Fragment.none.text = [] := rfl
  have hspan : Element.endTag "span" = ("</span>" : String).toList := by decide
  have hanchor : Element.endTag "a" = ("</a>" : String).toList := by decide
  have himage : Element.render (imageElement record.image) =
      "<span" ++ [(("class" : Text), Link.imageClass),
        (("style" : Text), write true (Link.backgroundStyle record.image))].flatMap Html.shownAttribute ++
          "></span>" := by
    unfold imageElement
    rw [Element.render, startTag_image, Element.renderAll, hspan, hnone, ite_self]
    simp
  unfold anchor shownMarkup
  -- the text of the link is the tail of its image
  rw [Element.render, startTag_anchor, Element.renderAll, Element.renderAll, himage, hanchor, hnone, ite_self]
  simp only [List.append_assoc, List.append_nil]
  rfl

theorem readMarkup?_render (record : Record) :
    readMarkup? (Element.render (anchor record)) = some record.unescapedMarkup := by
  have hquote : ∀ text, '\x22' ∉ write true text := Element.not_mem_write (by simp)
  have hclass : unescape Link.imageClass = Link.imageClass := by decide
  rw [render_anchor, Html.readMarkup?_shown rfl rfl]
  · simp only [List.map_cons, List.map_nil, Element.unescape_write, Html.unescape_backgroundStyle, hclass]
    rfl
  · simp only [List.cons_append, List.nil_append, List.forall_mem_cons, Html.IsShowable, hquote]
    decide
  · exact Element.not_mem_write (by simp) _

end Classic

/-! ### Agreement -/

/-- **What the markup of a record says.** A reader of the pieces that a record becomes in the CommonMark dialect
finds the record, and a reader of the element that the classic dialect writes for it finds the record with the four
references in its fields read. So both find the same exactly if no field holds one of these references. -/
theorem markup_of_record (record : Record) (level : Nat) (closed : Bool) :
    readMarkup? (Commonmark.renderNodes closed ((Commonmark.recordPieces record level).map Commonmark.Piece.node)) =
        some record.markup ∧
      readMarkup? (Classic.Element.render (Classic.anchor record)) = some record.unescapedMarkup ∧
      (record.markup = record.unescapedMarkup ↔
        ∀ field ∈ [record.link, record.className, record.image, record.text], ¬ HoldsReference field) := by
  have hclosed : Commonmark.renderNodes closed ((Commonmark.recordPieces record level).map Commonmark.Piece.node) =
      Commonmark.renderNodes false ((Commonmark.recordPieces record level).map Commonmark.Piece.node) := rfl
  refine ⟨?_, Classic.readMarkup?_render record, record.unescapedMarkup_eq_iff⟩
  rw [hclosed, Commonmark.State.renderNodes_recordPieces]
  exact readMarkup?_anchor record

/-- A mention whose text is a reference: only the CommonMark dialect shows it as it is written. -/
theorem markup_of_reference :
    ∃ resolver record, Resolver.build Registry.builtin {} = .ok resolver ∧
      resolver.resolve "@a|&amp;" = .ok (some record) ∧ record.text = ("&amp;" : String).toList ∧
      readMarkup? (Commonmark.anchor record) = some record.markup ∧
      readMarkup? (Classic.Element.render (Classic.anchor record)) ≠ some record.markup := by
  refine ⟨_, _, rfl, rfl, rfl, readMarkup?_anchor _, ?_⟩
  rw [Classic.readMarkup?_render]
  decide

end BraceLink
