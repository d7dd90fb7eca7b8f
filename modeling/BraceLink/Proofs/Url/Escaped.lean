import BraceLink.Proofs.Url.Reading
import BraceLink.Url.Normal

/-!
# Escaped parts

Writing with escapes is writing parts that are escaped one by one (`Parts.Sound.writeEscaped_eq`). Escaped
parts are as sound as the parts themselves (`Parts.Sound.escaped`), an escaped text has escaped parts
(`Parts.Sound.escaped_eq_self`), and escaping makes no host where there was none
(`Parts.not_mayHaveHost_escape`).
-/

namespace BraceLink.Url

/-! ### Escaped texts -/

theorem isBlank_eq_false {c : Char} (h : 0x20 < c.toNat ∧ c.toNat < 0x7F) : Text.isBlank c = false :=
  ascii_cases (p := fun c => 0x20 < c.toNat ∧ c.toNat < 0x7F → Text.isBlank c = false)
    (by decide) (by omega) h

theorem strip_escape (text : Text) : Text.strip (escape text) = escape text :=
  Text.strip_eq_self fun _ hc => isBlank_eq_false (toNat_of_mem_escape hc)

theorem takeWhile_escape {p : Char → Bool}
    (hp : ∀ c, p c = false → isPlain c = true ∧ Text.isHexDigit c = false) (text : Text) :
    (escape text).takeWhile p = escape (text.takeWhile p) ∧
      (escape text).dropWhile p = escape (text.dropWhile p) := by
  have hkeeps : ∀ {piece : Text}, (∀ c ∈ piece, p c = true) → ∀ c ∈ escape piece, p c = true := by
    intro piece hpiece c hc
    by_contra hstop
    obtain ⟨hplain, hdigit⟩ := hp c (by simpa using hstop)
    exact hstop (hpiece c (mem_of_mem_escape (ne_percent_of_isPlain hplain) hdigit hc))
  have hbefore : ∀ c ∈ escape (text.takeWhile p), p c = true :=
    hkeeps fun c hc => List.mem_takeWhile_imp hc
  have htext : text.takeWhile p ++ text.dropWhile p = text := List.takeWhile_append_dropWhile
  cases hrest : text.dropWhile p with
  | nil =>
    rw [hrest, List.append_nil] at htext
    rw [htext] at hbefore ⊢
    exact ⟨List.takeWhile_eq_self_iff.mpr hbefore, List.dropWhile_eq_nil_iff.mpr hbefore⟩
  | cons c rest =>
    have hstop := List.head?_dropWhile_not p text
    rw [hrest] at htext hstop
    have hc : p c = false := by simpa using hstop
    obtain ⟨hplain, hdigit⟩ := hp c hc
    have hescape : escape text = escape (text.takeWhile p) ++ c :: escape rest := by
      rw [← escape_append_mark hplain hdigit, htext]
    rw [hescape, List.takeWhile_append_of_pos hbefore, List.dropWhile_append_of_pos hbefore,
      List.takeWhile_cons_of_neg (by simp [hc]), List.dropWhile_cons_of_neg (by simp [hc]),
      List.append_nil, escape_plain_cons hplain]
    exact ⟨rfl, rfl⟩

/-! ### Escaped parts -/

namespace Parts

theorem userZone_escape (text : Text) : userZone (escape text) = escape (userZone text) := by
  refine (takeWhile_escape (fun c hc => ?_) text).1
  have hends : endsUser c = true := by simpa using hc
  simp only [endsUser, Bool.or_eq_true, decide_eq_true_eq] at hends
  rcases hends with (rfl | rfl) | rfl <;> decide

theorem cutPath_eq (text : Text) :
    cutPath text =
      ((text.takeWhile (· ≠ '#')).takeWhile (· ≠ '?'), (text.takeWhile (· ≠ '#')).dropWhile (· ≠ '?'),
        text.dropWhile (· ≠ '#')) := by
  unfold cutPath
  dsimp only
  rw [Text.drop_length_takeWhile, Text.drop_length_takeWhile]

theorem cutPath_escape (text : Text) :
    cutPath (escape text) =
      (escape (cutPath text).1, escape (cutPath text).2.1, escape (cutPath text).2.2) := by
  have hmark : ∀ mark : Char, isPlain mark = true → Text.isHexDigit mark = false →
      ∀ c, decide (c ≠ mark) = false → isPlain c = true ∧ Text.isHexDigit c = false := by
    intro mark hplain hdigit c hc
    rw [decide_eq_false_iff_not, not_not] at hc
    rw [hc]
    exact ⟨hplain, hdigit⟩
  have hfragment := takeWhile_escape (hmark '#' (by decide) (by decide))
  have hquery := takeWhile_escape (hmark '?' (by decide) (by decide))
  rw [cutPath_eq, cutPath_eq, (hfragment text).1, (hfragment text).2, (hquery _).1, (hquery _).2]

theorem IsProtocol.percent_not_mem {protocol : Text} (h : IsProtocol protocol) : '%' ∉ protocol := by
  obtain rfl | ⟨name, rfl, -, hall⟩ := h
  · simp
  · rw [List.mem_append, not_or]
    exact ⟨fun hmem => absurd (hall _ hmem) (by decide), by decide⟩

/-- The parts with everything escaped that may not stand in a URL. -/
def escaped (parts : Parts) : Parts :=
  { parts with
    protocol := escape parts.protocol
    user := escape parts.user
    hostName := escape parts.hostName
    path := escape parts.path
    query := escape parts.query
    fragment := escape parts.fragment }

variable {parts : Parts}

namespace Sound

variable (h : parts.Sound)

include h

theorem head_query {c : Char} (hc : parts.query.head? = some c) : c = '?' := by
  have hquery := congrArg (fun pieces => pieces.2.1) h.tail
  rw [cutPath_eq] at hquery
  dsimp only at hquery
  have hnot := List.head?_dropWhile_not (· ≠ '?') (parts.tail.takeWhile (· ≠ '#'))
  rw [hquery, hc] at hnot
  simpa using hnot

theorem head_fragment {c : Char} (hc : parts.fragment.head? = some c) : c = '#' := by
  have hfragment := congrArg (fun pieces => pieces.2.2) h.tail
  rw [cutPath_eq] at hfragment
  dsimp only at hfragment
  have hnot := List.head?_dropWhile_not (· ≠ '#') parts.tail
  rw [hfragment, hc] at hnot
  simpa using hnot

theorem tail_escaped : parts.escaped.tail = escape parts.tail := by
  have hquery : ∀ c, (parts.query ++ parts.fragment).head? = some c → Text.isHexDigit c = false := by
    intro c hc
    cases hnil : parts.query with
    | nil =>
      rw [hnil] at hc
      rw [h.head_fragment hc]
      decide
    | cons d rest =>
      rw [hnil] at hc
      rw [h.head_query (c := c) (by rw [hnil]; exact hc)]
      decide
  have hfragment : ∀ c, parts.fragment.head? = some c → Text.isHexDigit c = false := by
    intro c hc
    rw [h.head_fragment hc]
    decide
  rw [Parts.tail, Parts.tail, List.append_assoc, List.append_assoc, escape_append hquery,
    escape_append hfragment]
  rfl

theorem percent_not_mem_hostName : '%' ∉ parts.hostName := fun hmem =>
  absurd (h.hostName _ hmem).1 (by decide)

theorem isPlain_of_mem_portText {c : Char} (hc : c ∈ parts.portText) : isPlain c = true := by
  by_cases hport : parts.port = []
  · simp [portText_eq_nil hport] at hc
  · rw [portText_eq_cons hport, List.mem_cons] at hc
    rcases hc with rfl | hc
    · decide
    · simp [isPlain, Char.isAlphanum, h.port c hc]

omit h in
theorem needsBrackets_escaped : parts.escaped.needsBrackets = parts.needsBrackets := by
  rw [Bool.eq_iff_iff, needsBrackets, needsBrackets, decide_eq_true_eq, decide_eq_true_eq]
  constructor
  · exact mem_of_mem_escape (by decide) (by decide)
  · intro hmem
    obtain ⟨before, after, hname⟩ := List.append_of_mem hmem
    rw [escaped, hname, escape_append_mark (by decide) (by decide)]
    simp

/-- What stands before the host name is escaped on its own, whatever follows. -/
theorem escape_writeHead_append (more : Text) :
    escape (parts.writeHead ++ more) = parts.escaped.writeHead ++ escape more := by
  have hslashes : ∀ c ∈ slashText parts.slashes, isPlain c = true := by
    cases parts.slashes <;> exact List.all_eq_true.mp (by decide)
  have huser : escape (parts.userText ++ more) = parts.escaped.userText ++ escape more := by
    by_cases huser : parts.user = []
    · rw [userText_eq_nil huser, userText_eq_nil (escape_eq_nil_iff.mpr huser)]
      rfl
    · rw [userText_eq_append huser, userText_eq_append (mt escape_eq_nil_iff.mp huser),
        List.append_assoc, List.append_assoc]
      exact escape_append_mark (by decide) (by decide) _ _
  calc escape (parts.writeHead ++ more)
      = escape (parts.protocol ++ (slashText parts.slashes ++ (parts.userText ++ more))) := by
        rw [writeHead_eq]
        simp only [List.append_assoc]
    _ = escape parts.protocol ++ (slashText parts.slashes ++ (parts.escaped.userText ++ escape more)) := by
        rw [escape_append_of_not_mem h.protocol.percent_not_mem,
          escape_append_of_not_mem fun hmem => ne_percent_of_isPlain (hslashes _ hmem) rfl,
          escape_eq_self hslashes, huser]
    _ = parts.escaped.writeHead ++ escape more := by
        rw [writeHead_eq]
        simp only [List.append_assoc]
        rfl

theorem escape_writeTail : escape parts.writeTail = parts.escaped.writeTail := by
  have hport : parts.escaped.portText = parts.portText := rfl
  rw [writeTail_eq, writeTail_eq, hport, h.tail_escaped,
    escape_append_of_not_mem fun hmem => ne_percent_of_isPlain (h.isPlain_of_mem_portText hmem) rfl,
    escape_eq_self fun _ => h.isPlain_of_mem_portText]

theorem writeEscaped_eq : writeEscaped parts = parts.escaped.write := by
  have hhead : escape parts.writeHead = parts.escaped.writeHead := by
    have happend := h.escape_writeHead_append []
    rwa [List.append_nil, show escape [] = [] from rfl, List.append_nil] at happend
  rw [writeEscaped, write, write, needsBrackets_escaped, ← h.escape_writeTail]
  split_ifs with hbrackets
  · rw [hhead]
    simp [escaped]
  · rw [List.append_assoc, h.escape_writeHead_append,
      escape_append_of_not_mem h.percent_not_mem_hostName, List.append_assoc]
    rfl

end Sound

theorem escaped_escaped (parts : Parts) : parts.escaped.escaped = parts.escaped := by
  simp only [escaped, escape_escape]

/-! ### Regular parts -/

theorem HasRegularName.isPlain (h : parts.HasRegularName) : ∀ c ∈ parts.hostName, isPlain c = true := by
  rw [HasRegularName] at h
  split_ifs at h
  · exact h.1
  · intro c hc
    rw [← Text.join_splitOn '.' parts.hostName] at hc
    rcases Text.mem_join hc with rfl | ⟨label, hlabel, hc⟩
    · decide
    · have hchar := h.1 label hlabel
      simp only [isLabel, Bool.false_and, Bool.or_false, Bool.and_eq_true, List.all_eq_true] at hchar
      have hlabelChar := hchar.2 c hc
      simp only [isLabelChar, Bool.or_eq_true, decide_eq_true_eq] at hlabelChar
      rcases hlabelChar with ((halnum | rfl) | rfl) | rfl
      · simp [Url.isPlain, halnum]
      · decide
      · decide
      · decide

theorem HasRegularName.hostName_escaped (h : parts.HasRegularName) :
    parts.escaped.hostName = parts.hostName := escape_eq_self h.isPlain

theorem HasRegularName.escaped (h : parts.HasRegularName) : parts.escaped.HasRegularName := by
  rw [HasRegularName, Sound.needsBrackets_escaped, h.hostName_escaped]
  exact h

theorem mem_endsUser {c : Char} (h : endsUser c = true) : c = '/' ∨ c = '?' ∨ c = '#' := by
  simpa [endsUser, or_assoc] using h

theorem endsUser_of_mem_escape {text : Text} (h : ∀ c ∈ text, endsUser c = false) :
    ∀ c ∈ escape text, endsUser c = false := by
  intro c hc
  by_contra hends
  have hmem : c ∈ text := by
    rcases mem_endsUser (by simpa using hends) with rfl | rfl | rfl
    · exact mem_of_mem_escape (by decide) (by decide) hc
    · exact mem_of_mem_escape (by decide) (by decide) hc
    · exact mem_of_mem_escape (by decide) (by decide) hc
  exact hends (h c hmem)

theorem endsHost_escape {text : Text} (h : EndsHost text) : EndsHost (escape text) := by
  have hhead : ∀ {text : Text}, (∀ c, text.head? = some c → endsHost c = true) →
      ∀ c, (escape text).head? = some c → endsHost c = true := by
    intro text htext c hc
    rcases isPlain_or_percent_of_mem_escape (List.mem_of_mem_head? hc) with hplain | rfl
    · exact htext c ((head?_escape_iff hplain).mp hc)
    · decide
  rcases h with hend | ⟨rest, rfl, hend⟩
  · exact Or.inl (hhead hend)
  · exact Or.inr ⟨escape rest, escape_plain_cons (by decide) rest, hhead hend⟩

theorem Sound.escaped (h : parts.Sound) (hprotocol : ∀ c ∈ parts.protocol, isPlain c = true)
    (hname : ∀ c ∈ parts.hostName, isPlain c = true) : parts.escaped.Sound := by
  have hprotocolEq : parts.escaped.protocol = parts.protocol := escape_eq_self hprotocol
  have hnameEq : parts.escaped.hostName = parts.hostName := escape_eq_self hname
  exact
    { protocol := hprotocolEq ▸ h.protocol
      slashes := hprotocolEq ▸ h.slashes
      bare := fun hbare => by
        rw [hprotocolEq] at hbare
        obtain ⟨huser, hhost, hport⟩ := h.bare hbare
        exact ⟨escape_eq_nil_iff.mpr huser, escape_eq_nil_iff.mpr hhost, hport⟩
      user := endsUser_of_mem_escape h.user
      hostName := hnameEq ▸ h.hostName
      port := h.port
      mark := fun hhost hmem => by
        rw [hprotocolEq] at hhost
        rw [h.tail_escaped, userZone_escape] at hmem
        exact h.mark hhost (mem_of_mem_escape (by decide) (by decide) hmem)
      tail := by
        rw [h.tail_escaped, cutPath_escape, h.tail]
        rfl }

theorem IsRegular.escaped (h : parts.IsRegular) (hsound : parts.Sound) : parts.escaped.IsRegular where
  protocol := by
    rw [show parts.escaped.protocol = parts.protocol from escape_eq_self h.protocol]
    exact h.protocol
  name := h.name.escaped
  tail := by
    rw [hsound.tail_escaped]
    exact endsHost_escape h.tail
  behind := fun hslashes hstart => by
    have hescaped := hsound.escaped h.protocol h.name.isPlain
    rw [hescaped.slashes_isPrefix_behind, hsound.tail_escaped] at hstart
    obtain ⟨huser, hhost, hport, after, hafter⟩ := hstart
    obtain ⟨more, hmore, -⟩ := exists_of_escape_eq_append (by decide) hafter.symm
    refine h.behind hslashes (hsound.slashes_isPrefix_behind.mpr ?_)
    exact ⟨escape_eq_nil_iff.mp huser, escape_eq_nil_iff.mp hhost, hport, more, hmore.symm⟩

/-! ### The parts of an escaped text -/

theorem IsOpening.escape_eq_self {url protocol rest : Text} {slashes : Bool}
    (h : IsOpening url protocol slashes rest) (hself : escape url = url) :
    escape protocol = protocol ∧ escape rest = rest := by
  have hurl : url = protocol ++ (slashText slashes ++ rest) := by
    rw [← List.append_assoc, ← h.strip_eq, ← hself, strip_escape]
  have hslashes : '%' ∉ slashText slashes := by cases slashes <;> decide
  rw [hurl] at hself
  obtain ⟨hprotocol, hbehind⟩ :=
    escape_eq_self_of_append (escape_append_of_not_mem h.isProtocol.percent_not_mem _) hself
  exact ⟨hprotocol, (escape_eq_self_of_append (escape_append_of_not_mem hslashes _) hbehind).2⟩

theorem IsAuthority.escape_eq_self {rest user host beyond name port used excess : Text}
    (h : IsAuthority rest user host beyond name port used excess) (hself : escape rest = rest) :
    escape user = user ∧ (∀ c ∈ host, isPlain c = true) ∧ escape beyond = beyond := by
  have hpercent : '%' ∉ host := fun hmem => absurd (h.host_chars.1 _ hmem).1 (by decide)
  have hbehind : ∀ {text : Text}, escape text = text → text = host ++ beyond →
      (∀ c ∈ host, isPlain c = true) ∧ escape beyond = beyond := by
    rintro text htext rfl
    obtain ⟨hhost, hbeyond⟩ := escape_eq_self_of_append (escape_append_of_not_mem hpercent _) htext
    exact ⟨isPlain_of_escape_eq_self hpercent hhost, hbeyond⟩
  have hspelled := (cutUser_spelled rest).1
  rw [h.user_eq] at hspelled
  rcases hspelled with hrest | ⟨huser, hrest⟩
  · rw [hrest] at hself
    have hmark : ∀ c, ('@' :: (host ++ beyond)).head? = some c → Text.isHexDigit c = false := by
      rintro c ⟨⟩
      decide
    obtain ⟨huser, hafter⟩ := escape_eq_self_of_append (escape_append hmark) hself
    rw [escape_plain_cons (by decide)] at hafter
    exact ⟨huser, hbehind (List.cons.inj hafter).2 rfl⟩
  · have huser : user = [] := huser
    exact ⟨by rw [huser]; rfl, hbehind hself hrest⟩

theorem Sound.escaped_eq_self (h : parts.Sound) (hprotocol : escape parts.protocol = parts.protocol)
    (huser : escape parts.user = parts.user) (hname : escape parts.hostName = parts.hostName)
    (htail : escape parts.tail = parts.tail) : parts.escaped = parts := by
  have hcut := h.tail
  rw [← htail, cutPath_escape, h.tail] at hcut
  obtain ⟨hpath, hquery, hfragment⟩ :
      escape parts.path = parts.path ∧ escape parts.query = parts.query ∧
        escape parts.fragment = parts.fragment := by simpa using hcut
  rw [Parts.escaped, hprotocol, huser, hname, hpath, hquery, hfragment]

/-- A protocol with letters that only look like letters of ASCII is none any more once it is escaped. -/
theorem not_mayHaveHost_of_lookalike {protocol rest url : Text} (hprotocol : IsProtocol protocol)
    (hplain : ¬ ∀ c ∈ protocol, isPlain c = true) (hurl : Text.strip url = escape protocol ++ rest) :
    ¬ (read url).MayHaveHost := by
  obtain rfl | ⟨name, rfl, hne, hall⟩ := hprotocol
  · exact absurd (by simp) hplain
  have hescape : escape (name ++ [':']) = escape name ++ [':'] := escape_append_mark rfl rfl _ _
  have hcolon : ':' ∉ escape name := fun hmem =>
    ne_colon_of_isProtocolChar (hall _ (mem_of_mem_escape (by decide) (by decide) hmem)) rfl
  have hname : ¬ ∀ c ∈ name, isPlain c = true := fun hname => hplain fun c hc => by
    rcases List.mem_append.mp hc with hc | hc
    · exact hname c hc
    · rw [List.mem_singleton.mp hc]
      decide
  simp only [not_forall] at hname
  obtain ⟨c, hc, hplain⟩ := hname
  have hcut : cutProtocol (Text.strip url) = ([], Text.strip url) := by
    rw [hurl, hescape, List.append_assoc]
    exact cutProtocol_of_not hcolon ⟨'%', percent_mem_escape hc hplain, by decide⟩ rest
  have hopening : IsOpening url [] false (Text.strip url) := by
    refine isOpening_of (by simpa using hcut) (by simp) fun _ => Or.inr fun hstart => ?_
    obtain ⟨after, hafter⟩ := hstart
    rw [hurl, hescape, List.append_assoc] at hafter
    have hnil : escape name ≠ [] := mt escape_eq_nil_iff.mp hne
    obtain ⟨d, more, hmore⟩ := List.exists_cons_of_ne_nil hnil
    rw [hmore] at hafter
    have hd : '/' = d := (List.cons.inj hafter).1
    have hmem : '/' ∈ name := mem_of_mem_escape (by decide) (by decide) (by rw [hmore, hd]; simp)
    exact absurd (hall _ hmem) (by decide)
  rw [hopening.mayHaveHost_iff]
  decide

theorem not_mayHaveHost_escape {url : Text} (h : ¬ (read url).MayHaveHost) :
    ¬ (read (escape (Text.strip url))).MayHaveHost := by
  obtain ⟨protocol, slashes, rest, hopening⟩ := exists_isOpening url
  rw [hopening.mayHaveHost_iff, Bool.not_eq_true] at h
  have hslashes : slashes = false := by
    by_contra htrue
    have hslashes : slashes = true := by simpa using htrue
    rw [mayHaveHost, hopening.isHostless_eq hslashes, hslashes] at h
    exact absurd h (by simp)
  subst hslashes
  have hprotocol := hopening.isProtocol
  have hescape : escape (Text.strip url) = escape protocol ++ escape rest := by
    rw [hopening.strip_eq, slashText_false, List.append_nil, escape_append_of_not_mem hprotocol.percent_not_mem]
  have hstrip : Text.strip (escape (Text.strip url)) = escape protocol ++ escape rest := by
    rw [strip_escape, hescape]
  by_cases hplain : ∀ c ∈ protocol, isPlain c = true
  · have hopening' : IsOpening (escape (Text.strip url)) protocol false (escape rest) := by
      rw [escape_eq_self hplain] at hstrip
      refine isOpening_of ?_ (by simp) fun _ => ?_
      · rw [hstrip]
        obtain rfl | ⟨name, rfl, hne, hall⟩ := hprotocol
        · -- a protocol of the escaped text would have been one of the text itself
          refine cutProtocol_eq_nil fun name after hafter hne hall => ?_
          have hname : '%' ∉ name ++ [':'] := by
            rw [List.mem_append, not_or]
            exact ⟨fun hmem => absurd (hall _ hmem) (by decide), by decide⟩
          have hstart : escape rest = name ++ [':'] ++ after := by simpa using hafter
          obtain ⟨more, hmore, -⟩ := exists_of_escape_eq_append hname hstart
          have hcut := hopening.protocol_eq
          rw [hopening.strip_eq, hmore] at hcut
          simp only [slashText_false, List.nil_append, List.append_assoc] at hcut
          rw [List.singleton_append, cutProtocol_append hne hall] at hcut
          exact absurd (Prod.mk.inj hcut).1 (by simp)
        · rw [List.append_assoc]
          exact cutProtocol_append hne hall _
      · by_cases hhostless : isHostless protocol = true
        · exact Or.inl hhostless
        · refine Or.inr fun hstart => ?_
          obtain ⟨after, hafter⟩ := hstart
          obtain ⟨more, rfl, -⟩ := exists_of_escape_eq_append (by decide) hafter.symm
          have hcut := hopening.slashes_eq
          rw [slashText_false, List.nil_append, slashText_true, List.cons_append, List.cons_append,
            List.nil_append, cutSlashes_slashes, if_neg hhostless] at hcut
          exact absurd (Prod.mk.inj hcut).1 (by simp)
    rw [hopening'.mayHaveHost_iff, h]
    simp
  · exact not_mayHaveHost_of_lookalike hprotocol hplain hstrip

end Parts

end BraceLink.Url
