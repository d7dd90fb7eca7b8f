import BraceLink.Proofs.Classic.Markup
import BraceLink.Proofs.Resolver.Image
import BraceLink.Proofs.Resolver.Script

/-!
# Images inside of their quotation marks

The style of an image is a quoted string of a style sheet, and none of the four characters that HTML escapes ends
one. An image stays inside of its quotation marks (`Link.StaysQuoted`) if it holds no quotation mark, no backslash
and no line end. Reading references neither adds nor removes one (`staysQuoted_unescape_iff`).

A link in normal form holds no backslash and no line end, but it may hold a quotation mark, also in its host name.
A login is taken as it is written. `style_of_record` says for which payloads an image leaves its quotation marks.
-/

namespace BraceLink

open Html (unescape readMarkup?)

/-! ### Quoted strings -/

namespace Link

/-- The characters that a quoted string of a style sheet may not hold as they are. -/
def quoteEnds : Text := ['\x27', '\\', '\n']

/-- The image does not end the quoted string that it stands in. -/
def StaysQuoted (image : Text) : Prop := ∀ c ∈ quoteEnds, c ∉ image

instance (image : Text) : Decidable (StaysQuoted image) :=
  List.decidableBAll _ quoteEnds

theorem staysQuoted_append {a b : Text} : StaysQuoted (a ++ b) ↔ StaysQuoted a ∧ StaysQuoted b := by
  simp only [StaysQuoted, List.mem_append, not_or, forall_and]

theorem staysQuoted_avatarUrl {login : Text} : StaysQuoted (Handler.avatarUrl login) ↔ StaysQuoted login := by
  have hfront : StaysQuoted (Handler.githubUrl ++ ['/']) := by decide
  have hbehind : StaysQuoted ".png" := by decide
  have havatar : Handler.avatarUrl login = Handler.githubUrl ++ ['/'] ++ login ++ ".png" := by
    simp [Handler.avatarUrl, Handler.profileUrl]
  rw [havatar, staysQuoted_append, staysQuoted_append, and_iff_left hbehind, and_iff_right hfront]

end Link

open Link (StaysQuoted quoteEnds)

theorem Html.mem_unescape_iff {c : Char} (hmark : ∀ reference ∈ references, c ∉ '&' :: reference.2 :: reference.1)
    (text : Text) : c ∈ unescape text ↔ c ∈ text := by
  induction text using unescape_induct with
  | nil => rfl
  | reference reference hmem rest ih =>
    have hc := hmark reference hmem
    simp only [List.mem_cons, not_or] at hc
    rw [unescape_reference hmem]
    simp [hc, ih]
  | char d rest hstart ih => rw [unescape_char hstart, List.mem_cons, List.mem_cons, ih]

theorem staysQuoted_unescape_iff {image : Text} : StaysQuoted (unescape image) ↔ StaysQuoted image := by
  have hmarks : ∀ c ∈ quoteEnds, ∀ reference ∈ Html.references, c ∉ '&' :: reference.2 :: reference.1 := by
    simp [quoteEnds, Html.references]
  exact forall₂_congr fun c hc => not_congr (Html.mem_unescape_iff (hmarks c hc) image)

theorem staysQuoted_of_isLoginChar {login : Text} (h : ∀ c ∈ login, Handler.isLoginChar c = true) :
    StaysQuoted login := by
  have hends : ∀ c ∈ quoteEnds, Handler.isLoginChar c = false := by simp [quoteEnds, Handler.isLoginChar]
  intro c hc hmem
  have hchar := h c hmem
  rw [hends c hc] at hchar
  exact absurd hchar (by simp)

/-! ### Icons -/

set_option maxRecDepth 4000 in
theorem ne_of_mem_normalize {c d : Char} {url : Text} (hd : d ∈ Url.normalize url) (hcase : c = d ∨ c = d.toLower) :
    c ≠ '\\' ∧ c ≠ '\n' := by
  have hchars : ∀ d : Char, (Url.isPlain d = true ∨ d ∈ ['%', '[', ']']) →
      (d ≠ '\\' ∧ d ≠ '\n') ∧ d.toLower ≠ '\\' ∧ d.toLower ≠ '\n' := by
    intro d hd
    have hsmall : d.toNat < 128 := by
      rcases hd with hplain | hmark
      · exact Url.toNat_lt_of_isPlain hplain
      · simp only [List.mem_cons, List.not_mem_nil, or_false] at hmark
        rcases hmark with rfl | rfl | rfl <;> decide
    exact Url.ascii_cases
      (p := fun d => (Url.isPlain d = true ∨ d ∈ ['%', '[', ']']) →
        (d ≠ '\\' ∧ d ≠ '\n') ∧ d.toLower ≠ '\\' ∧ d.toLower ≠ '\n')
      (by decide) hsmall hd
  obtain ⟨hself, hlower⟩ := hchars d (Url.isPlain_of_mem_normalize hd)
  rcases hcase with rfl | rfl
  · exact hself
  · exact hlower

/-- The icon of a link in normal form ends its quoted string only by a quotation mark in the host name. -/
theorem staysQuoted_favicon_iff {url : Text} :
    StaysQuoted (Link.favicon (Url.normalize url)) ↔
      ∀ name, Url.host (Url.normalize url) = .ok name → '\x27' ∉ name := by
  have hascii : ∀ d ∈ Url.normalize url, d.toNat < 0x80 := fun d hd => by
    have hlarge := (Url.toNat_of_mem_normalize hd).2
    omega
  have hprefix : StaysQuoted Link.faviconPrefix := by decide
  unfold Link.favicon
  rw [Link.staysQuoted_append, and_iff_right hprefix]
  cases hname : Url.host (Url.normalize url) with
  | error fault => simp [StaysQuoted]
  | ok name =>
    constructor
    · intro hquoted other hother
      obtain rfl := Except.ok.inj hother
      exact hquoted _ (by decide)
    · -- up to their case the characters of the name stand in the normal form
      intro hquote c hc hmem
      obtain ⟨d, hd, hcase⟩ := Url.mem_of_mem_host hascii hname hmem
      obtain ⟨hbackslash, hline⟩ := ne_of_mem_normalize hd hcase
      simp only [quoteEnds, List.mem_cons, List.not_mem_nil, or_false] at hc
      rcases hc with rfl | hc | hc
      · exact hquote name rfl hmem
      · exact hbackslash hc
      · exact hline hc

/-! ### The two kinds of records -/

namespace Resolver

variable {payload : Text} {record : Record}

theorem WonBy.unique {resolver : Resolver} {handler other : Handler} (h : resolver.WonBy handler payload)
    (hother : resolver.WonBy other payload) : handler = other := by
  obtain ⟨draft, -, hanswer, -⟩ := h
  obtain ⟨draft', -, hanswer', -⟩ := hother
  rw [hanswer] at hanswer'
  exact (Prod.mk.inj (Option.some.inj (Except.ok.inj hanswer'))).1

theorem WonBy.not_github (h : plain.WonBy (Handler.named []) payload) : ¬ plain.WonBy Handler.github payload := by
  intro hgithub
  have hname := congrArg Handler.name (h.unique hgithub)
  exact absurd hname (by decide)

theorem plain_image (draft : Draft) :
    (∀ login, Handler.LacksAvatar Handler.reservedRoutes (draft.fill Url.normalize) login →
      (plain.complete draft).image = Handler.avatarUrl login) ∧
    ((∀ login, ¬ Handler.LacksAvatar Handler.reservedRoutes (draft.fill Url.normalize) login) →
      (plain.complete draft).image = (draft.fill Url.normalize).image) := by
  have hhandlers : plain.handlers = defaultHandlers plain.settings := rfl
  exact complete_default_of_none hhandlers draft fun rule hrule => absurd hrule List.not_mem_nil

theorem exists_normalize (h : plain.resolve payload = .ok (some record)) :
    ∃ url, record.link = Url.normalize url := by
  obtain ⟨-, -, draft, -, -, -, rfl⟩ := exists_wonBy h
  exact ⟨draft.link, plain_link draft⟩

theorem WonBy.github_image (hwon : plain.WonBy Handler.github payload)
    (h : plain.resolve payload = .ok (some record)) :
    ∃ login, Payload.part 0 payload = '@' :: login ∧ record.image = Handler.avatarUrl login := by
  obtain ⟨draft, hdraft, rfl⟩ := hwon.exists_draft h
  obtain ⟨login, hpart, rfl⟩ := github_draft hdraft
  refine ⟨login, hpart, ?_⟩
  rw [(plain_image _).2 fun other hlacks => hlacks.kind rfl, Draft.fill_image]
  exact orDefault_some (avatarUrl_ne_nil login) _

/-- The image of a link by address is the icon of its site, or an avatar of GitHub for a link to GitHub. -/
theorem WonBy.named_image (hwon : plain.WonBy (Handler.named []) payload)
    (h : plain.resolve payload = .ok (some record)) :
    record.image = Link.favicon record.link ∨
      ∃ login, (∀ c ∈ login, Handler.isLoginChar c = true) ∧ record.image = Handler.avatarUrl login ∧
        Url.host record.link = .ok "github.com" := by
  have hweb := hwon.named_link h
  obtain ⟨draft, hdraft, rfl⟩ := hwon.exists_draft h
  rw [plain_link] at hweb ⊢
  -- a link to the page of a login gets the avatar of that login in place of the icon
  by_cases hlacks : ∃ login, Handler.LacksAvatar Handler.reservedRoutes (draft.fill Url.normalize) login
  · obtain ⟨login, hlogin⟩ := hlacks
    obtain ⟨-, -, -, -, hchars, -⟩ := hlogin.link
    refine Or.inr ⟨login, hchars, (plain_image draft).1 login hlogin, ?_⟩
    exact host_of_githubLogin hweb (fun c hc => (Url.toNat_of_mem_normalize hc).1)
      (Handler.githubLogin?_eq_some_iff.mpr hlogin.link)
  · have himage : draft.image = none := by
      have hnamed : Handler.namedDraft [] payload = some draft := Except.ok.inj hdraft
      have htarget : ∀ name, Handler.target? [] name = none := fun name => ite_self _
      simp only [Handler.namedDraft, htarget] at hnamed
      split_ifs at hnamed
      · rw [← Option.some.inj hnamed]
        rfl
      · rw [← Option.some.inj hnamed]
        rfl
    refine Or.inl ?_
    rw [(plain_image draft).2 (not_exists.mp hlacks), Draft.fill_image, himage]
    rfl

end Resolver

/-! ### Styles -/

/-- **Which images leave their quotation marks.** Without settings, a reader of the markup of a record finds the
style of its image in both dialects, in the classic dialect with the references in the image read. In both, the
image stays inside of its quotation marks exactly if it belongs to a mention whose login does, or to a link whose
host name holds no quotation mark. -/
theorem style_of_record (registry : Registry) (hdefaults : registry.HasDefaults) :
    ∃ resolver, Resolver.build registry {} = .ok resolver ∧ ∀ payload record,
      resolver.resolve payload = .ok (some record) →
        ∃ commonmark classic,
          readMarkup? (Commonmark.renderNodes false
            ((Commonmark.recordPieces record 0).map Commonmark.Piece.node)) = some commonmark ∧
          readMarkup? (Classic.Element.render (Classic.anchor record)) = some classic ∧
          commonmark.style = Link.backgroundStyle record.image ∧
          classic.style = Link.backgroundStyle (unescape record.image) ∧
          ∀ image ∈ [record.image, unescape record.image], StaysQuoted image ↔
            (∃ login, resolver.WonBy Handler.github payload ∧ Payload.part 0 payload = '@' :: login ∧
              StaysQuoted login) ∨
            (resolver.WonBy (Handler.named []) payload ∧
              ∀ name, Url.host record.link = .ok name → '\x27' ∉ name) := by
  refine ⟨_, Resolver.build_plain hdefaults, fun payload record hresolve => ?_⟩
  have hrecord : StaysQuoted record.image ↔
      (∃ login, Resolver.plain.WonBy Handler.github payload ∧ Payload.part 0 payload = '@' :: login ∧
        StaysQuoted login) ∨
      (Resolver.plain.WonBy (Handler.named []) payload ∧
        ∀ name, Url.host record.link = .ok name → '\x27' ∉ name) := by
    rcases Resolver.wonBy_plain hresolve with hnamed | hgithub
    · have hgithub := hnamed.not_github
      have hquoted : StaysQuoted record.image ↔ ∀ name, Url.host record.link = .ok name → '\x27' ∉ name := by
        rcases hnamed.named_image hresolve with hicon | ⟨login, hchars, havatar, hhost⟩
        · obtain ⟨url, hurl⟩ := Resolver.exists_normalize hresolve
          rw [hicon, hurl]
          exact staysQuoted_favicon_iff
        · rw [havatar, Link.staysQuoted_avatarUrl, hhost]
          refine iff_of_true (staysQuoted_of_isLoginChar hchars) fun name hname => ?_
          obtain rfl := Except.ok.inj hname
          decide
      simp [hquoted, hgithub, hnamed]
    · have hnamed : ¬ Resolver.plain.WonBy (Handler.named []) payload := fun h => h.not_github hgithub
      obtain ⟨login, hpart, himage⟩ := hgithub.github_image hresolve
      rw [himage, Link.staysQuoted_avatarUrl, hpart]
      simp [hgithub, hnamed]
  refine ⟨record.markup, record.unescapedMarkup, ?_, Classic.readMarkup?_render record, rfl, rfl, ?_⟩
  · rw [Commonmark.State.renderNodes_recordPieces]
    exact readMarkup?_anchor record
  · simp only [List.forall_mem_cons, staysQuoted_unescape_iff]
    exact ⟨hrecord, hrecord, by simp⟩

/-- A mention whose avatar stays inside of its quotation marks. -/
theorem style_of_login :
    Registry.builtin.HasDefaults ∧
    ∃ resolver record, Resolver.build Registry.builtin {} = .ok resolver ∧
      resolver.resolve "@a" = .ok (some record) ∧ StaysQuoted record.image ∧
      StaysQuoted (unescape record.image) := by
  obtain ⟨resolver, hbuild, hrecords⟩ := style_of_record Registry.builtin Registry.builtin_hasDefaults
  cases hbuild
  obtain ⟨-, -, -, -, -, -, hquoted⟩ := hrecords "@a" _ rfl
  have hpart : Payload.part 0 "@a" = '@' :: ("a" : String).toList := by decide
  have hwon : Resolver.plain.WonBy Handler.github "@a" :=
    Resolver.wonBy_github (by rw [hasWebHost_iff]; decide) rfl
  refine ⟨Registry.builtin_hasDefaults, _, _, rfl, rfl, ?_, ?_⟩
  · exact (hquoted _ (by simp)).mpr (Or.inl ⟨_, hwon, hpart, by decide⟩)
  · exact (hquoted _ (by simp)).mpr (Or.inl ⟨_, hwon, hpart, by decide⟩)

/-- A login with a quotation mark, which ends the string in both dialects. -/
theorem style_of_quotation_mark :
    Registry.builtin.HasDefaults ∧
    ∃ resolver record image, Resolver.build Registry.builtin {} = .ok resolver ∧
      resolver.resolve "@o\x27x" = .ok (some record) ∧ image = ("https://github.com/o\x27x.png" : String).toList ∧
      (readMarkup? (Commonmark.anchor record)).map Html.Markup.style = some (Link.backgroundStyle image) ∧
      (readMarkup? (Classic.Element.render (Classic.anchor record))).map Html.Markup.style =
        some (Link.backgroundStyle image) ∧
      ¬ StaysQuoted image := by
  refine ⟨Registry.builtin_hasDefaults, _, _, _, rfl, rfl, rfl, ?_, ?_, by decide⟩
  · rw [readMarkup?_anchor]
    rfl
  · rw [Classic.readMarkup?_render]
    decide

end BraceLink
