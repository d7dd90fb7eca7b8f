import BraceLink.Proofs.Url.Normal
import BraceLink.Url.Host

/-!
# The host of a normal form

A link of the web keeps its scheme in its normal form. Whether the normal form still has a host name is a
question about the parts of the link (`Parts.KeepsHost`, `hasHost_normalize`): the parts are read by other
rules than the host name, and a host name that they do not accept is left out. What a host name consists of
stands in the link, but for the case of letters (`mem_of_mem_host`).
-/

namespace BraceLink

/-! ### Lower case -/

theorem Text.lowerAfter_eq_nil_iff {before text : Text} : Text.lowerAfter before text = [] ↔ text = [] := by
  cases text with
  | nil => exact ⟨fun _ => rfl, fun _ => rfl⟩
  | cons c rest =>
    rw [Text.lowerAfter]
    split_ifs <;> simp

theorem Text.lower_eq_lowerAscii {text : Text} (h : ∀ c ∈ text, c.toNat < 0x80) :
    Text.lower text = Text.lowerAscii text := by
  have hafter : ∀ before, Text.lowerAfter before text = Text.lowerAscii text := by
    induction text with
    | nil => exact fun _ => rfl
    | cons c text ih =>
      intro before
      have hc := h c (by simp)
      rw [Text.lowerAfter, if_neg (by omega), if_neg (by omega), Text.lowerChar, if_pos hc,
        ih fun d hd => h d (by simp [hd])]
      rfl
  exact hafter []

namespace Url

theorem lowerHost_eq_nil_iff {name : Text} : lowerHost name = [] ↔ name = [] := by
  unfold lowerHost
  by_cases hzone : '%' ∈ name
  · obtain ⟨before, after, rfl, hbefore⟩ := List.eq_append_cons_of_mem hzone
    rw [Text.cut_of_mem hbefore]
    simp
  · rw [Text.cut_of_not_mem hzone]
    exact Text.lowerAfter_eq_nil_iff

/-! ### The authority of a link of the web -/

def IsWebProtocol (protocol : Text) : Prop :=
  protocol = ("http:" : String).toList ∨ protocol = ("https:" : String).toList

theorem afterScheme_web {protocol : Text} (h : IsWebProtocol protocol) (rest : Text) :
    afterScheme (protocol ++ rest) = rest := by
  rcases h with rfl | rfl
  · rfl
  · rfl

theorem tidy_eq_self {url : Text} (h : ∀ c ∈ url, 0x20 < c.toNat) : tidy url = url := by
  have hdrop : (url.dropWhile fun c => decide (c.toNat ≤ 0x20)) = url := by
    cases url with
    | nil => rfl
    | cons c rest =>
      have hc := h c (by simp)
      exact List.dropWhile_cons_of_neg (by simpa using hc)
  rw [tidy, hdrop, List.filter_eq_self]
  intro c hc
  have hlarge := h c hc
  rw [decide_eq_true_eq]
  refine ⟨?_, ?_, ?_⟩ <;> rintro rfl <;> exact absurd hlarge (by decide)

theorem tidy_append {front : Text} (hne : front ≠ []) (hfront : ∀ c ∈ front, 0x20 < c.toNat) (rest : Text) :
    tidy (front ++ rest) = front ++ rest.filter fun c => c ≠ '\t' ∧ c ≠ '\n' ∧ c ≠ '\r' := by
  have hkept := tidy_eq_self hfront
  have hdrop : ∀ more, ((front ++ more).dropWhile fun c => decide (c.toNat ≤ 0x20)) = front ++ more := by
    intro more
    obtain ⟨c, front, rfl⟩ := List.exists_cons_of_ne_nil hne
    have hc := hfront c (by simp)
    exact List.dropWhile_cons_of_neg (by simpa using hc)
  have hself := hdrop []
  rw [List.append_nil] at hself
  rw [tidy, hself] at hkept
  rw [tidy, hdrop, List.filter_append, hkept]

theorem authority_web {protocol behind : Text} (hprotocol : IsWebProtocol protocol)
    (h : ∀ c ∈ protocol ++ Parts.slashText true ++ behind, 0x20 < c.toNat) :
    authority (protocol ++ Parts.slashText true ++ behind) = Parts.userZone behind := by
  rw [authority, tidy_eq_self h, List.append_assoc, afterScheme_web hprotocol]
  rfl

namespace Parts

variable {parts : Parts}

/-- A host name is left in the normal form: an address in brackets that is one, or otherwise a name, or what
stands in the place of one. -/
def KeepsHost (parts : Parts) : Prop :=
  if parts.needsBrackets then isBracketed (escape parts.hostName) = true
  else parts.hostName ≠ [] ∨
    (parts.port = [] ∧ ∃ c, parts.tail.head? = some c ∧ c ∉ (":/?#" : Text))

/-- The text between user information and path in the normal form. -/
def hostZone (parts : Parts) : Text :=
  parts.escaped.hostText ++ parts.portText ++ escape (userZone parts.tail)

section

variable (h : parts.Sound)

include h

theorem Sound.mem_escaped_hostText {c : Char} (hc : c ∈ parts.escaped.hostText) :
    endsUser c = false ∧ c ≠ '@' := by
  have hname : ∀ c ∈ escape parts.hostName, endsUser c = false ∧ c ≠ '@' := fun c hc =>
    ⟨endsUser_of_mem_escape (fun d hd => endsUser_eq_false (h.hostName d hd).1) c hc, by
      rintro rfl
      exact (h.hostName _ (mem_of_mem_escape (by decide) (by decide) hc)).2 rfl⟩
  rw [hostText] at hc
  split_ifs at hc
  · simp only [List.cons_append, List.mem_cons, List.mem_append, List.not_mem_nil, or_false] at hc
    rcases hc with rfl | hc | rfl
    · decide
    · exact hname c hc
    · decide
  · exact hname c hc

theorem Sound.mem_escaped_userText {c : Char} (hc : c ∈ parts.escaped.userText) : endsUser c = false := by
  by_cases huser : parts.escaped.user = []
  · simp [userText_eq_nil huser] at hc
  · rw [userText_eq_append huser, List.mem_append, List.mem_singleton] at hc
    rcases hc with hc | rfl
    · exact endsUser_of_mem_escape h.user c hc
    · decide

/-- The authority of the normal form: user information and what follows it. -/
theorem Sound.userZone_behind : userZone parts.escaped.behind = parts.escaped.userText ++ parts.hostZone := by
  have hfront : ∀ c ∈ parts.escaped.userText ++ parts.escaped.hostText ++ parts.escaped.portText,
      endsUser c = false := by
    intro c hc
    rcases List.mem_append.mp hc with hc | hc
    · rcases List.mem_append.mp hc with hc | hc
      · exact h.mem_escaped_userText hc
      · exact (h.mem_escaped_hostText hc).1
    · exact endsUser_eq_false (h.mem_portText hc).1
  rw [behind, userZone_append hfront, h.tail_escaped, userZone_escape, hostZone]
  simp only [List.append_assoc]
  rfl

theorem Sound.cutLast_authority (hhost : parts.MayHaveHost) :
    (Text.cutLast '@' (parts.escaped.userText ++ parts.hostZone)).2 = parts.hostZone := by
  have hmark : '@' ∉ parts.hostZone := by
    rw [hostZone, List.mem_append, List.mem_append, not_or, not_or]
    exact ⟨⟨fun hmem => (h.mem_escaped_hostText hmem).2 rfl, fun hmem => (h.mem_portText hmem).2 rfl⟩,
      fun hmem => h.mark hhost (mem_of_mem_escape (by decide) (by decide) hmem)⟩
  by_cases huser : parts.escaped.user = []
  · rw [userText_eq_nil huser, List.nil_append, Text.cutLast_of_not_mem hmark]
  · rw [userText_eq_append huser, List.append_assoc, List.singleton_append, Text.cutLast_append hmark]

omit h in
theorem bracket_not_mem_userText {c : Char} (hc : c = '[' ∨ c = ']') : c ∉ parts.escaped.userText := by
  by_cases huser : parts.escaped.user = []
  · simp [userText_eq_nil huser]
  · rw [userText_eq_append huser, List.mem_append, not_or]
    rcases hc with rfl | rfl
    · exact ⟨not_mem_escape (by decide) (by decide) _, by decide⟩
    · exact ⟨not_mem_escape (by decide) (by decide) _, by decide⟩

theorem Sound.bracket_mem_authority_iff {c : Char} (hc : c = '[' ∨ c = ']') :
    c ∈ parts.escaped.userText ++ parts.hostZone ↔ parts.needsBrackets = true := by
  have hfree : isPlain c = false ∧ c ≠ '%' := by rcases hc with rfl | rfl <;> decide
  have hport : c ∉ parts.portText := fun hmem => by
    have hplain := h.isPlain_of_mem_portText hmem
    rw [hfree.1] at hplain
    exact absurd hplain (by simp)
  rw [List.mem_append, hostZone, List.mem_append, List.mem_append, or_iff_right (bracket_not_mem_userText hc),
    or_iff_left (not_mem_escape hfree.1 hfree.2 _), or_iff_left hport, hostText,
    Sound.needsBrackets_escaped]
  split_ifs with hbrackets
  · rcases hc with rfl | rfl <;> simp [hbrackets]
  · exact iff_of_false (not_mem_escape hfree.1 hfree.2 _) hbrackets

omit h in
theorem hostZone_of_brackets (hbrackets : parts.needsBrackets = true) :
    parts.hostZone =
      '[' :: (escape parts.hostName ++ ']' :: (parts.portText ++ escape (userZone parts.tail))) := by
  have htext : parts.escaped.hostText = '[' :: escape parts.hostName ++ [']'] := by
    rw [hostText, Sound.needsBrackets_escaped, if_pos hbrackets]
    rfl
  rw [hostZone, htext]
  simp

omit h in
theorem hostZone_of_no_brackets (hbrackets : ¬ parts.needsBrackets = true) :
    parts.hostZone = escape parts.hostName ++ (parts.portText ++ escape (userZone parts.tail)) := by
  have htext : parts.escaped.hostText = escape parts.hostName := by
    rw [hostText, Sound.needsBrackets_escaped, if_neg hbrackets]
    rfl
  rw [hostZone, htext, List.append_assoc]

theorem Sound.authorityError?_eq (hascii : ∀ c ∈ parts.escaped.userText ++ parts.hostZone, c.toNat < 0x7F) :
    authorityError? (parts.escaped.userText ++ parts.hostZone) =
      if parts.needsBrackets && !isBracketed (escape parts.hostName) then some .bracketedHost else none := by
  have hhidden : ((parts.escaped.userText ++ parts.hostZone).any fun c => c.toNat ∈ hiddenDelimiters) = false := by
    rw [List.any_eq_false]
    intro c hc hmem
    have hlarge := (by decide : ∀ n ∈ hiddenDelimiters, 0x7F ≤ n) c.toNat (of_decide_eq_true hmem)
    have hsmall := hascii c hc
    omega
  have hopen : decide ('[' ∈ parts.escaped.userText ++ parts.hostZone) = parts.needsBrackets := by
    rw [Bool.eq_iff_iff, decide_eq_true_eq, h.bracket_mem_authority_iff (Or.inl rfl)]
  have hclose : decide (']' ∈ parts.escaped.userText ++ parts.hostZone) = parts.needsBrackets := by
    rw [Bool.eq_iff_iff, decide_eq_true_eq, h.bracket_mem_authority_iff (Or.inr rfl)]
  rw [authorityError?, hopen, hclose, hhidden]
  cases hbrackets : parts.needsBrackets with
  | false => rfl
  | true =>
    rw [hostZone_of_brackets hbrackets, Text.cut_of_mem (bracket_not_mem_userText (Or.inl rfl))]
    simp only [Option.getD_some,
      Text.cut_of_mem (not_mem_escape (c := ']') (by decide) (by decide) parts.hostName)]
    cases isBracketed (escape parts.hostName) <;> rfl

/-- What the authority says about its host: the address in brackets, or what stands before a colon. -/
theorem Sound.hostPart_eq (hhost : parts.MayHaveHost) :
    hostPart (parts.escaped.userText ++ parts.hostZone) =
      if parts.needsBrackets then escape parts.hostName else (Text.cut ':' parts.hostZone).1 := by
  unfold hostPart
  dsimp only
  rw [h.cutLast_authority hhost]
  split_ifs with hbrackets
  · rw [hostZone_of_brackets hbrackets, Text.cut, if_pos rfl]
    dsimp only
    rw [Text.cut_of_mem (not_mem_escape (by decide) (by decide) _)]
  · have hopen : '[' ∉ parts.hostZone := fun hmem =>
      hbrackets ((h.bracket_mem_authority_iff (Or.inl rfl)).mp (List.mem_append_right _ hmem))
    rw [Text.cut_of_not_mem hopen]

omit h in
theorem cut_escape_userZone_ne_nil_iff (text : Text) :
    (Text.cut ':' (escape (userZone text))).1 ≠ [] ↔ ∃ c, text.head? = some c ∧ c ∉ (":/?#" : Text) := by
  rw [ne_eq, Text.cut_fst_eq_nil_iff]
  cases text with
  | nil => simp [userZone, escape]
  | cons c text =>
    have hmark : (∃ d, (c :: text).head? = some d ∧ d ∉ (":/?#" : Text)) ↔
        ¬ (c = ':' ∨ endsUser c = true) := by
      simp [endsUser, or_assoc]
    rw [hmark]
    by_cases hends : endsUser c = true
    · have hzone : userZone (c :: text) = [] := List.takeWhile_cons_of_neg (by simp [hends])
      simp [hzone, escape, hends]
    · have hzone : userZone (c :: text) = c :: userZone text :=
        List.takeWhile_cons_of_pos (by simpa using hends)
      have hne : escape (c :: userZone text) ≠ [] := mt escape_eq_nil_iff.mp (by simp)
      obtain ⟨d, more, hmore⟩ := List.exists_cons_of_ne_nil hne
      have hcolon : d = ':' ↔ c = ':' := by
        have hhead : (escape (c :: userZone text)).head? = some ':' ↔ (c :: userZone text).head? = some ':' :=
          head?_escape_iff (by decide)
        rw [hmore] at hhead
        simpa using hhead
      simp [hzone, hmore, hends, hcolon]

omit h in
/-- Without brackets, a name or something in its place stands before the colon. -/
theorem cut_hostZone_ne_nil_iff (hbrackets : ¬ parts.needsBrackets = true) :
    (Text.cut ':' parts.hostZone).1 ≠ [] ↔
      parts.hostName ≠ [] ∨ (parts.port = [] ∧ ∃ c, parts.tail.head? = some c ∧ c ∉ (":/?#" : Text)) := by
  rw [hostZone_of_no_brackets hbrackets]
  by_cases hname : parts.hostName = []
  · rw [hname, show escape [] = [] from rfl, List.nil_append]
    by_cases hport : parts.port = []
    · rw [portText_eq_nil hport, List.nil_append, cut_escape_userZone_ne_nil_iff]
      simp [hport]
    · rw [portText_eq_cons hport, ne_eq, Text.cut_fst_eq_nil_iff]
      simp [hport]
  · have hne : escape parts.hostName ≠ [] := mt escape_eq_nil_iff.mp hname
    obtain ⟨c, more, hmore⟩ := List.exists_cons_of_ne_nil hne
    have hcolon : c ≠ ':' := by
      rintro rfl
      have hmem : ':' ∈ parts.hostName :=
        mem_of_mem_escape (by decide) (by decide) (hmore ▸ List.mem_cons_self)
      exact hbrackets (decide_eq_true hmem)
    rw [hmore, ne_eq, Text.cut_fst_eq_nil_iff]
    simp [hname, hcolon]

theorem Sound.hasHost_write_iff (hhost : parts.MayHaveHost) (hprotocol : IsWebProtocol parts.escaped.protocol)
    (hslashes : parts.slashes = true) (hascii : ∀ c ∈ parts.escaped.write, 0x20 < c.toNat ∧ c.toNat < 0x7F) :
    hasHost parts.escaped.write = true ↔ parts.KeepsHost := by
  have hwrite : parts.escaped.write =
      parts.escaped.protocol ++ slashText true ++ parts.escaped.behind := by
    rw [write_eq, show parts.escaped.slashes = parts.slashes from rfl, hslashes]
  have hauthority : authority parts.escaped.write = parts.escaped.userText ++ parts.hostZone := by
    rw [hwrite, authority_web hprotocol fun c hc => (hascii c (hwrite ▸ hc)).1, h.userZone_behind]
  have hzone : ∀ c ∈ parts.escaped.userText ++ parts.hostZone, c.toNat < 0x7F := by
    intro c hc
    rw [← h.userZone_behind] at hc
    refine (hascii c ?_).2
    rw [hwrite]
    exact List.mem_append_right _ ((List.takeWhile_sublist _).subset hc)
  rw [hasHost, host, hauthority, h.authorityError?_eq hzone, h.hostPart_eq hhost, KeepsHost]
  by_cases hbrackets : parts.needsBrackets = true
  · have hname : escape parts.hostName ≠ [] := by
      intro hnil
      rw [escape_eq_nil_iff] at hnil
      simp [needsBrackets, hnil] at hbrackets
    cases isBracketed (escape parts.hostName) with
    | false => simp [hbrackets]
    | true => simp [hbrackets, lowerHost_eq_nil_iff, hname]
  · rw [if_neg hbrackets, if_neg hbrackets, ← cut_hostZone_ne_nil_iff hbrackets]
    simp [hbrackets, lowerHost_eq_nil_iff]

end

end Parts

/-! ### Links of the web -/

/-- The URL begins with one of the two schemes of the web. -/
def IsWebUrl (url : Text) : Prop := ∃ protocol, IsWebProtocol protocol ∧ protocol ++ Parts.slashText true <+: url

theorem IsWebProtocol.chars {protocol : Text} (h : IsWebProtocol protocol) :
    (∀ c ∈ protocol ++ Parts.slashText true, isPlain c = true) ∧ Parts.IsProtocol protocol ∧
      Parts.isHostless protocol = false := by
  rcases h with rfl | rfl
  · exact ⟨List.all_eq_true.mp (by decide),
      Or.inr ⟨"http", rfl, by decide, List.all_eq_true.mp (by decide)⟩, by decide⟩
  · exact ⟨List.all_eq_true.mp (by decide),
      Or.inr ⟨"https", rfl, by decide, List.all_eq_true.mp (by decide)⟩, by decide⟩

/-- A host name of visible characters is the authority of a link of the web, whatever path follows. -/
theorem authority_of_name {protocol name path : Text} (hprotocol : IsWebProtocol protocol)
    (hname : ∀ c ∈ name, 0x20 < c.toNat ∧ endsAuthority c = false) (hpath : path.head? = some '/') :
    authority (protocol ++ Parts.slashText true ++ name ++ path) = name := by
  have hfront : ∀ c ∈ protocol ++ Parts.slashText true ++ name, 0x20 < c.toNat := by
    intro c hc
    rcases List.mem_append.mp hc with hc | hc
    · exact (toNat_of_isPlain (hprotocol.chars.1 c hc)).1
    · exact (hname c hc).1
  obtain ⟨after, rfl⟩ := List.head?_eq_some_iff.mp hpath
  rw [authority, tidy_append (by simp) hfront, List.append_assoc, List.append_assoc, afterScheme_web hprotocol]
  change (name ++ '/' :: after.filter _).takeWhile (fun c => !endsAuthority c) = name
  rw [List.takeWhile_append_of_pos fun c hc => by rw [(hname c hc).2]; rfl]
  exact List.append_nil name

theorem IsWebProtocol.isOpening {protocol : Text} (h : IsWebProtocol protocol) (after : Text) :
    Parts.IsOpening (protocol ++ Parts.slashText true ++ after) protocol true
      (Text.dropEndWhile Text.isBlank after) := by
  obtain ⟨hplain, hshape, hhostless⟩ := h.chars
  refine Parts.isOpening_of ?_ (fun _ => hhostless) (by simp)
  rw [Text.strip_append (by simp) fun c hc => isBlank_eq_false (toNat_of_isPlain (hplain c hc)), List.append_assoc]
  exact Parts.cutProtocol_of_isProtocol hshape fun _ => rfl

theorem IsWebUrl.exists_isOpening {url : Text} (h : IsWebUrl url) :
    ∃ protocol rest, IsWebProtocol protocol ∧ Parts.IsOpening url protocol true rest := by
  obtain ⟨protocol, hprotocol, after, rfl⟩ := h
  exact ⟨protocol, _, hprotocol, hprotocol.isOpening after⟩

/-- **The host of a normal form.** A link of the web stays one in its normal form, which has a host name
exactly if the parts keep theirs. -/
theorem hasHost_normalize {url : Text} (h : IsWebUrl url) :
    IsWebUrl (normalize url) ∧ (hasHost (normalize url) = true ↔ (Parts.read url).recoded.KeepsHost) := by
  obtain ⟨protocol, rest, hprotocol, hopening⟩ := h.exists_isOpening
  obtain ⟨hplain, -, hhostless⟩ := hprotocol.chars
  have hslashes : (Parts.read url).recoded.slashes = true := by
    rw [Parts.recoded_eq, hopening.read_opening.2]
  have hprotocolEq : (Parts.read url).recoded.protocol = protocol := by
    rw [Parts.recoded_eq, hopening.read_opening.1]
  have hescaped : (Parts.read url).recoded.escaped.protocol = protocol :=
    (congrArg escape hprotocolEq).trans (escape_eq_self fun c hc => hplain c (List.mem_append_left _ hc))
  have hhost : (Parts.read url).recoded.MayHaveHost := by
    rw [Parts.MayHaveHost, hprotocolEq, hslashes, Parts.mayHaveHost, hhostless]
    rfl
  rw [normalize_eq]
  constructor
  · refine ⟨protocol, hprotocol, (Parts.read url).recoded.escaped.behind, ?_⟩
    rw [Parts.write_eq, hescaped, show (Parts.read url).recoded.escaped.slashes = true from hslashes]
  · refine (Parts.read_sound url).recoded.hasHost_write_iff hhost (hescaped ▸ hprotocol) hslashes fun c hc => ?_
    rw [← normalize_eq] at hc
    exact toNat_of_mem_normalize hc

/-! ### The characters of a host name -/

theorem mem_of_mem_cut_fst {c sep : Char} {text : Text} (h : c ∈ (Text.cut sep text).1) : c ∈ text := by
  by_cases hsep : sep ∈ text
  · obtain ⟨before, after, rfl, hbefore⟩ := List.eq_append_cons_of_mem hsep
    rw [Text.cut_of_mem hbefore] at h
    exact List.mem_append_left _ h
  · rwa [Text.cut_of_not_mem hsep] at h

theorem mem_of_mem_cutLast_snd {c sep : Char} {text : Text} (h : c ∈ (Text.cutLast sep text).2) : c ∈ text := by
  by_cases hsep : sep ∈ text
  · obtain ⟨before, after, rfl, hafter⟩ := Text.exists_cutLast hsep
    rw [Text.cutLast_append hafter] at h
    simp [show c ∈ after from h]
  · rwa [Text.cutLast_of_not_mem hsep] at h

theorem mem_of_mem_hostPart {c : Char} {authority : Text} (h : c ∈ hostPart authority) : c ∈ authority := by
  suffices hhost : c ∈ (Text.cutLast '@' authority).2 from mem_of_mem_cutLast_snd hhost
  unfold hostPart at h
  dsimp only at h
  split at h
  · rename_i bracketed hcut
    rw [(Text.of_cut_eq_some hcut).1]
    simp [mem_of_mem_cut_fst h]
  · rename_i plain hcut
    have hplain := mem_of_mem_cut_fst h
    rw [← show (Text.cut '[' (Text.cutLast '@' authority).2).1 = plain by rw [hcut]] at hplain
    exact mem_of_mem_cut_fst hplain

theorem mem_of_mem_authority {c : Char} {url : Text} (h : c ∈ authority url) : c ∈ url := by
  have hafter : c ∈ afterScheme (tidy url) := by
    unfold authority at h
    split at h
    · rename_i rest hrest
      rw [hrest]
      simp [(List.takeWhile_prefix _).subset h]
    · exact absurd h List.not_mem_nil
  have htidy : c ∈ tidy url := by
    unfold afterScheme at hafter
    split at hafter
    · rename_i hcut
      split_ifs at hafter
      · rw [(Text.of_cut_eq_some hcut).1]
        simp [hafter]
      · exact hafter
    · exact hafter
  exact (List.dropWhile_suffix _).subset (List.mem_filter.mp htidy).1

theorem mem_of_mem_host {c : Char} {url name : Text} (hascii : ∀ d ∈ url, d.toNat < 0x80)
    (hname : host url = .ok name) (hc : c ∈ name) : ∃ d ∈ url, c = d ∨ c = d.toLower := by
  have hpart : ∀ d ∈ hostPart (authority url), d ∈ url := fun d hd =>
    mem_of_mem_authority (mem_of_mem_hostPart hd)
  have hlower : ∀ {text : Text}, (∀ d ∈ text, d ∈ url) → c ∈ Text.lower text → ∃ d ∈ url, c = d ∨ c = d.toLower := by
    intro text htext hmem
    rw [Text.lower_eq_lowerAscii fun d hd => hascii d (htext d hd)] at hmem
    obtain ⟨d, hd, rfl⟩ := List.mem_map.mp hmem
    exact ⟨d, htext d hd, Or.inr rfl⟩
  unfold host at hname
  split at hname
  · cases hname
  · obtain rfl := Except.ok.inj hname
    unfold lowerHost at hc
    split at hc
    · rename_i before zone hcut
      have hspelled := (Text.of_cut_eq_some hcut).1
      rcases List.mem_append.mp hc with hc | hc
      · exact hlower (fun d hd => hpart d (by rw [hspelled]; simp [hd])) hc
      · exact ⟨c, hpart c (by rw [hspelled]; exact List.mem_append_right _ hc), Or.inl rfl⟩
    · rename_i before hcut
      rw [← show (Text.cut '%' (hostPart (authority url))).1 = before by rw [hcut]] at hc
      exact hlower (fun d hd => hpart d (mem_of_mem_cut_fst hd)) hc

end Url

end BraceLink
