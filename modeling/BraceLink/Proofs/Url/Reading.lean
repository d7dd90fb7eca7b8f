import BraceLink.Proofs.Url.Parts
import BraceLink.Proofs.Url.Percent

/-!
# Reading a URL and writing it again

A URL is cut into its opening (`IsOpening`), where the protocol and two slashes stand, and what follows: an
authority (`IsAuthority`) and a path, or only a path (`read_eq`). Whatever is read is `Sound`: every part
holds only characters that the cut before it lets through. Parts are written one behind the other
(`write_eq`).

Without a host, reading and writing change nothing (`write_read_of_no_host`). With one, the parts are read
back from what is written if they are regular (`IsRegular.read_write`). A host name that is too long is
dropped, and one that holds something else than labels is cut off in the middle: what is left of it moves
behind the port, where the next reading finds another host.
-/

namespace BraceLink.Url.Parts

open Text (splitOn)

/-! ### Reading -/

/-- What stands behind the host: path, query and fragment. -/
def tail (parts : Parts) : Text := parts.path ++ parts.query ++ parts.fragment

theorem cutPath_spelled (text : Text) :
    (cutPath text).1 ++ (cutPath text).2.1 ++ (cutPath text).2.2 = text := by
  unfold cutPath
  dsimp only
  rw [Text.drop_length_takeWhile, Text.drop_length_takeWhile, List.takeWhile_append_dropWhile,
    List.takeWhile_append_dropWhile]

def mayHaveHost (protocol : Text) (slashes : Bool) : Bool :=
  !isHostless protocol && (slashes || (!protocol.isEmpty && !isSlashed protocol))

/-- The slashes in front of a host, and the text behind them. -/
def cutSlashes (protocol rest : Text) : Bool × Text :=
  match rest with
  | '/' :: '/' :: after => if isHostless protocol then (false, rest) else (true, after)
  | _ => (false, rest)

def slashText (slashes : Bool) : Text := (if slashes then "//" else "" : String)

@[simp] theorem slashText_true : slashText true = ['/', '/'] := rfl

@[simp] theorem slashText_false : slashText false = [] := rfl

theorem cutSlashes_slashes (protocol after : Text) :
    cutSlashes protocol ('/' :: '/' :: after) =
      if isHostless protocol then (false, '/' :: '/' :: after) else (true, after) := rfl

theorem cutSlashes_other (protocol : Text) {rest : Text} (h : ∀ after, rest ≠ '/' :: '/' :: after) :
    cutSlashes protocol rest = (false, rest) := by
  unfold cutSlashes
  split
  · exact absurd rfl (h _)
  · rfl

theorem cutSlashes_spelled (protocol rest : Text) :
    rest = slashText (cutSlashes protocol rest).1 ++ (cutSlashes protocol rest).2 ∧
      ((cutSlashes protocol rest).1 = true → isHostless protocol = false) := by
  unfold cutSlashes
  split
  · split_ifs with hhostless
    · simp
    · simpa using hhostless
  · simp

/-- The pieces into which a text with a host is cut. -/
structure IsAuthority (rest user host beyond name port used excess : Text) : Prop where
  user_eq : cutUser rest = (user, host ++ beyond)
  host_eq : cutHost (host ++ beyond) = (host, beyond)
  port_eq : cutPort host = (name, port)
  name_eq : checkName name = (used, excess)

theorem exists_isAuthority (rest : Text) :
    ∃ user host beyond name port used excess,
      IsAuthority rest user host beyond name port used excess := by
  obtain ⟨user, after, hcut⟩ : ∃ user after, cutUser rest = (user, after) := ⟨_, _, rfl⟩
  obtain ⟨host, beyond, hhost⟩ : ∃ host beyond, cutHost after = (host, beyond) := ⟨_, _, rfl⟩
  have hafter := (cutHost_spelled after).1
  rw [hhost] at hafter
  exact ⟨user, host, beyond, (cutPort host).1, (cutPort host).2, (checkName (cutPort host).1).1,
    (checkName (cutPort host).1).2, ⟨by rw [hcut, hafter], by rw [← hafter, hhost], rfl, rfl⟩⟩

structure IsOpening (url protocol : Text) (slashes : Bool) (rest : Text) : Prop where
  protocol_eq : cutProtocol (Text.strip url) = (protocol, slashText slashes ++ rest)
  slashes_eq : cutSlashes protocol (slashText slashes ++ rest) = (slashes, rest)

theorem exists_isOpening (url : Text) : ∃ protocol slashes rest, IsOpening url protocol slashes rest := by
  obtain ⟨protocol, after, hcut⟩ : ∃ protocol after, cutProtocol (Text.strip url) = (protocol, after) :=
    ⟨_, _, rfl⟩
  obtain ⟨slashes, rest, hslashes⟩ : ∃ slashes rest, cutSlashes protocol after = (slashes, rest) :=
    ⟨_, _, rfl⟩
  have hafter := (cutSlashes_spelled protocol after).1
  rw [hslashes] at hafter
  exact ⟨protocol, slashes, rest, by rw [hcut, hafter], by rw [← hafter, hslashes]⟩

theorem isOpening_of {url protocol rest : Text} {slashes : Bool}
    (hprotocol : cutProtocol (Text.strip url) = (protocol, slashText slashes ++ rest))
    (hslashes : slashes = true → isHostless protocol = false)
    (hrest : slashes = false → isHostless protocol = true ∨ ¬ slashText true <+: rest) :
    IsOpening url protocol slashes rest := by
  refine ⟨hprotocol, ?_⟩
  cases slashes with
  | true => exact (cutSlashes_slashes protocol rest).trans (by rw [hslashes rfl]; rfl)
  | false =>
    by_cases hstart : slashText true <+: rest
    · obtain ⟨after, rfl⟩ := hstart
      have hhostless := (hrest rfl).resolve_right (not_not_intro ⟨after, rfl⟩)
      exact (cutSlashes_slashes protocol after).trans (by rw [hhostless]; rfl)
    · exact cutSlashes_other protocol fun after hafter => hstart ⟨after, hafter.symm⟩

theorem read_eq (url : Text) :
    read url =
      (let (protocol, rest) := cutProtocol (Text.strip url)
       let (slashes, rest) := cutSlashes protocol rest
       if mayHaveHost protocol slashes then
         let (user, rest) := cutUser rest
         let (host, rest) := cutHost rest
         let (name, port) := cutPort host
         let (name, excess) := checkName name
         let (path, query, fragment) := cutPath (excess ++ rest)
         ⟨protocol, slashes, user, name, port, path, query, fragment⟩
       else
         let (path, query, fragment) := cutPath rest
         ⟨protocol, slashes, [], [], [], path, query, fragment⟩) := by
  unfold read
  generalize cutProtocol (Text.strip url) = cut
  obtain ⟨protocol, rest⟩ := cut
  dsimp only
  split
  · rw [cutSlashes_slashes]
    rfl
  · rename_i hother
    rw [cutSlashes_other protocol hother]
    rfl

section

variable {url protocol rest : Text} {slashes : Bool}

theorem read_of_isAuthority {user host beyond name port used excess : Text}
    (hopening : IsOpening url protocol slashes rest) (hhost : mayHaveHost protocol slashes = true)
    (h : IsAuthority rest user host beyond name port used excess) :
    read url =
      ⟨protocol, slashes, user, used, port, (cutPath (excess ++ beyond)).1,
        (cutPath (excess ++ beyond)).2.1, (cutPath (excess ++ beyond)).2.2⟩ := by
  rw [read_eq, hopening.protocol_eq]
  dsimp only
  rw [hopening.slashes_eq]
  dsimp only
  rw [if_pos hhost, h.user_eq]
  dsimp only
  rw [h.host_eq]
  dsimp only
  rw [h.port_eq]
  dsimp only
  rw [h.name_eq]

theorem read_of_no_host (hopening : IsOpening url protocol slashes rest)
    (hhost : mayHaveHost protocol slashes = false) :
    read url =
      ⟨protocol, slashes, [], [], [], (cutPath rest).1, (cutPath rest).2.1, (cutPath rest).2.2⟩ := by
  rw [read_eq, hopening.protocol_eq]
  dsimp only
  rw [hopening.slashes_eq]
  dsimp only
  rw [if_neg (by simp [hhost])]

/-! ### What is read -/

structure Sound (parts : Parts) : Prop where
  protocol : IsProtocol parts.protocol
  slashes : parts.slashes = true → isHostless parts.protocol = false
  bare : mayHaveHost parts.protocol parts.slashes = false →
    parts.user = [] ∧ parts.hostName = [] ∧ parts.port = []
  user : ∀ c ∈ parts.user, endsUser c = false
  hostName : ∀ c ∈ parts.hostName, endsHost c = false ∧ c ≠ '@'
  port : ∀ c ∈ parts.port, c.isDigit = true
  mark : mayHaveHost parts.protocol parts.slashes = true → '@' ∉ userZone parts.tail
  tail : cutPath parts.tail = (parts.path, parts.query, parts.fragment)

theorem IsOpening.isProtocol (h : IsOpening url protocol slashes rest) : IsProtocol protocol := by
  have hspelled := (cutProtocol_spelled (Text.strip url)).2
  rwa [h.protocol_eq] at hspelled

theorem IsOpening.strip_eq (h : IsOpening url protocol slashes rest) :
    Text.strip url = protocol ++ slashText slashes ++ rest := by
  have hspelled := (cutProtocol_spelled (Text.strip url)).1
  rwa [h.protocol_eq, ← List.append_assoc] at hspelled

theorem IsOpening.isHostless_eq (h : IsOpening url protocol slashes rest) (hslashes : slashes = true) :
    isHostless protocol = false := by
  have hspelled := (cutSlashes_spelled protocol (slashText slashes ++ rest)).2
  rw [h.slashes_eq] at hspelled
  exact hspelled hslashes

theorem IsAuthority.host_chars {user host beyond name port used excess : Text}
    (h : IsAuthority rest user host beyond name port used excess) :
    (∀ c ∈ host, endsHost c = false ∧ c ≠ '@') ∧ (∀ c ∈ name, c ∈ host) ∧
      (∀ c ∈ port, c.isDigit = true) ∧ '@' ∉ userZone beyond := by
  have hhost := (cutHost_spelled (host ++ beyond)).2.1
  have hmark := (cutUser_spelled rest).2.2
  obtain ⟨hname, hport⟩ := cutPort_spelled host
  rw [h.host_eq] at hhost
  rw [h.port_eq] at hname hport
  have huser : ∀ c ∈ host, endsUser c = false := fun c hc => endsUser_eq_false (hhost c hc)
  rw [h.user_eq, userZone_append huser, List.mem_append, not_or] at hmark
  refine ⟨fun c hc => ⟨hhost c hc, fun hat => hmark.1 (hat ▸ hc)⟩, fun c hc => ?_, hport, hmark.2⟩
  rcases hname with hname | ⟨-, hname⟩
  · rw [hname]
    exact List.mem_append_left _ hc
  · rw [hname]
    exact hc

theorem IsAuthority.mem_host {user host beyond name port used excess : Text}
    (h : IsAuthority rest user host beyond name port used excess) :
    ∀ c, c ∈ used ∨ c ∈ excess → c ∈ host := by
  intro c hc
  obtain ⟨-, hname, -, -⟩ := h.host_chars
  refine hname c (mem_of_mem_checkName ?_)
  rw [h.name_eq]
  exact hc

theorem read_sound (url : Text) : (read url).Sound := by
  obtain ⟨protocol, slashes, rest, hopening⟩ := exists_isOpening url
  cases hhost : mayHaveHost protocol slashes with
  | false =>
    rw [read_of_no_host hopening hhost]
    exact
      { protocol := hopening.isProtocol
        slashes := hopening.isHostless_eq
        bare := fun _ => ⟨rfl, rfl, rfl⟩
        user := by simp
        hostName := by simp
        port := by simp
        mark := by simp [hhost]
        tail := congrArg cutPath (cutPath_spelled _) }
  | true =>
    obtain ⟨user, host, beyond, name, port, used, excess, h⟩ := exists_isAuthority rest
    obtain ⟨hchars, -, hport, hmark⟩ := h.host_chars
    have huser := (cutUser_spelled rest).2.1
    rw [h.user_eq] at huser
    have hpieces := h.mem_host
    rw [read_of_isAuthority hopening hhost h]
    exact
      { protocol := hopening.isProtocol
        slashes := hopening.isHostless_eq
        bare := by simp [hhost]
        user := huser
        hostName := fun c hc => hchars c (hpieces c (Or.inl hc))
        port := hport
        mark := fun _ => by
          have hexcess : ∀ c ∈ excess, endsUser c = false := fun c hc =>
            endsUser_eq_false (hchars c (hpieces c (Or.inr hc))).1
          rw [tail, cutPath_spelled, userZone_append hexcess, List.mem_append, not_or]
          exact ⟨fun hat => (hchars _ (hpieces _ (Or.inr hat))).2 rfl, hmark⟩
        tail := congrArg cutPath (cutPath_spelled _) }

end

def MayHaveHost (parts : Parts) : Prop := mayHaveHost parts.protocol parts.slashes = true

theorem ne_nil_of_mayHaveHost {protocol : Text} {slashes : Bool} (h : mayHaveHost protocol slashes = true) :
    protocol ≠ [] ∨ slashes = true := by
  rw [mayHaveHost, Bool.and_eq_true, Bool.or_eq_true, Bool.and_eq_true] at h
  exact h.2.symm.imp_left fun hprotocol => by simpa using hprotocol.1

theorem IsOpening.read_opening {url protocol rest : Text} {slashes : Bool}
    (h : IsOpening url protocol slashes rest) :
    (read url).protocol = protocol ∧ (read url).slashes = slashes := by
  cases hhost : mayHaveHost protocol slashes with
  | false => rw [read_of_no_host h hhost]; exact ⟨rfl, rfl⟩
  | true =>
    obtain ⟨user, host, beyond, name, port, used, excess, hauthority⟩ := exists_isAuthority rest
    rw [read_of_isAuthority h hhost hauthority]
    exact ⟨rfl, rfl⟩

theorem IsOpening.mayHaveHost_iff {url protocol rest : Text} {slashes : Bool}
    (h : IsOpening url protocol slashes rest) :
    (read url).MayHaveHost ↔ mayHaveHost protocol slashes = true := by
  rw [MayHaveHost, h.read_opening.1, h.read_opening.2]

/-! ### What is written -/

section

variable (parts : Parts)

/-- User information as it is written. -/
def userText : Text := unlessEmpty parts.user (parts.user ++ ['@'])

def portText : Text := unlessEmpty parts.port (':' :: parts.port)

def hostText : Text := if parts.needsBrackets then '[' :: parts.hostName ++ [']'] else parts.hostName

/-- The text behind protocol and slashes. -/
def behind : Text := parts.userText ++ parts.hostText ++ parts.portText ++ parts.tail

theorem writeHead_eq :
    parts.writeHead = parts.protocol ++ slashText parts.slashes ++ parts.userText := rfl

theorem writeTail_eq : parts.writeTail = parts.portText ++ parts.tail := by
  simp only [writeTail, portText, tail, List.append_assoc]

theorem write_eq : parts.write = parts.protocol ++ slashText parts.slashes ++ parts.behind := by
  rw [write, writeHead_eq, writeTail_eq, behind, hostText]
  simp only [List.append_assoc]

end

/-! ### Reading what is written -/

variable {parts : Parts}

theorem write_read_of_no_host {url : Text} (h : ¬ (read url).MayHaveHost) :
    (read url).write = Text.strip url := by
  obtain ⟨protocol, slashes, rest, hopening⟩ := exists_isOpening url
  rw [hopening.mayHaveHost_iff, Bool.not_eq_true] at h
  rw [read_of_no_host hopening h, hopening.strip_eq, write_eq]
  exact congrArg (protocol ++ slashText slashes ++ ·) (cutPath_spelled rest)

/-- The host name is one that is read as it is written: plain characters in brackets if there is a colon
among them, otherwise labels of a legal length. -/
def HasRegularName (parts : Parts) : Prop :=
  if parts.needsBrackets then
    (∀ c ∈ parts.hostName, isPlain c = true) ∧ parts.hostName.length + 2 ≤ 255
  else
    (∀ label ∈ splitOn '.' parts.hostName, isLabel false label = true) ∧ parts.hostName.length ≤ 255

/-- Parts with a protocol of plain characters and a host name that is read as it is written, followed by
something that does not go on with it. -/
structure IsRegular (parts : Parts) : Prop where
  protocol : ∀ c ∈ parts.protocol, isPlain c = true
  name : parts.HasRegularName
  tail : EndsHost parts.tail
  behind : parts.slashes = false → ¬ slashText true <+: parts.behind

theorem portText_eq_cons (h : parts.port ≠ []) : parts.portText = ':' :: parts.port := by
  rw [portText, unlessEmpty, if_neg (by simpa using h)]

theorem portText_eq_nil (h : parts.port = []) : parts.portText = [] := by
  rw [portText, unlessEmpty, if_pos (by simpa using h)]

theorem userText_eq_append (h : parts.user ≠ []) : parts.userText = parts.user ++ ['@'] := by
  rw [userText, unlessEmpty, if_neg (by simpa using h)]

theorem userText_eq_nil (h : parts.user = []) : parts.userText = [] := by
  rw [userText, unlessEmpty, if_pos (by simpa using h)]

theorem getLast?_hostText (parts : Parts) : parts.hostText.getLast? ≠ some ':' := by
  rw [hostText]
  split_ifs with hbrackets
  · rw [List.getLast?_concat]
    decide
  · intro hlast
    exact hbrackets (decide_eq_true (List.mem_of_getLast? hlast))

namespace Sound

variable (h : parts.Sound)

include h

theorem mem_hostText {c : Char} (hc : c ∈ parts.hostText) : endsHost c = false ∧ c ≠ '@' := by
  rw [hostText] at hc
  split_ifs at hc
  · simp only [List.cons_append, List.mem_cons, List.mem_append, List.not_mem_nil, or_false] at hc
    rcases hc with rfl | hc | rfl
    · decide
    · exact h.hostName c hc
    · decide
  · exact h.hostName c hc

theorem mem_portText {c : Char} (hc : c ∈ parts.portText) : endsHost c = false ∧ c ≠ '@' := by
  by_cases hport : parts.port = []
  · simp [portText_eq_nil hport] at hc
  · rw [portText_eq_cons hport, List.mem_cons] at hc
    rcases hc with rfl | hc
    · decide
    · have hdigit := h.port c hc
      have hascii := toNat_lt_of_isAlphanum (c := c) (by simp [Char.isAlphanum, hdigit])
      exact ascii_cases (p := fun c => c.isDigit = true → endsHost c = false ∧ c ≠ '@')
        (by decide) hascii hdigit

theorem cutUser_behind (hhost : parts.MayHaveHost) :
    cutUser parts.behind = (parts.user, parts.hostText ++ parts.portText ++ parts.tail) := by
  have hfree : ∀ c ∈ parts.hostText ++ parts.portText, endsHost c = false ∧ c ≠ '@' := fun c hc =>
    (List.mem_append.mp hc).elim h.mem_hostText h.mem_portText
  have hmark : '@' ∉ userZone (parts.hostText ++ parts.portText ++ parts.tail) := by
    rw [userZone_append fun c hc => endsUser_eq_false (hfree c hc).1, List.mem_append, not_or]
    exact ⟨fun hat => (hfree _ hat).2 rfl, h.mark hhost⟩
  by_cases huser : parts.user = []
  · rw [behind, userText_eq_nil huser, List.nil_append, cutUser_of_not_mem hmark, huser]
  · rw [behind, userText_eq_append huser]
    simpa using cutUser_of_mark h.user hmark

theorem cutHost_behind (htail : EndsHost parts.tail) :
    cutHost (parts.hostText ++ parts.portText ++ parts.tail) =
      (parts.hostText ++ parts.portText, parts.tail) := by
  refine cutHost_append (fun c hc => ((List.mem_append.mp hc).elim h.mem_hostText h.mem_portText).1) ?_
    htail
  by_cases hport : parts.port = []
  · rw [portText_eq_nil hport, List.append_nil]
    exact parts.getLast?_hostText
  · -- the last character is a digit
    rw [portText_eq_cons hport, List.getLast?_append_of_ne_nil _ (by simp), List.getLast?_cons,
      List.getLast?_eq_some_getLast hport]
    intro hlast
    have hdigit := h.port _ (List.getLast_mem hport)
    simp only [Option.getD_some, Option.some.injEq] at hlast
    rw [hlast] at hdigit
    exact absurd hdigit (by decide)

theorem cutPort_hostText : cutPort (parts.hostText ++ parts.portText) = (parts.hostText, parts.port) := by
  by_cases hport : parts.port = []
  · rw [portText_eq_nil hport, List.append_nil, hport]
    refine cutPort_of_none fun name port hsplit hdigits => ?_
    -- the colon stands in brackets, and digits behind it would reach the closing one
    have hmem : ':' ∈ parts.hostText := by simp [hsplit]
    rw [hostText] at hsplit hmem
    split_ifs at hsplit hmem with hbrackets
    · have hlast := congrArg List.getLast? hsplit
      rw [List.getLast?_concat, List.getLast?_append_of_ne_nil _ (by simp), List.getLast?_cons] at hlast
      cases hport' : port.getLast? with
      | none => simp [hport'] at hlast
      | some c =>
        rw [hport', Option.getD_some] at hlast
        have hdigit := hdigits c (List.mem_of_getLast? hport')
        rw [← Option.some.inj hlast] at hdigit
        exact absurd hdigit (by decide)
    · exact hbrackets (decide_eq_true hmem)
  · rw [portText_eq_cons hport]
    exact cutPort_append h.port parts.hostText

end Sound

theorem Sound.slashes_isPrefix_behind (h : parts.Sound) :
    slashText true <+: parts.behind ↔
      parts.user = [] ∧ parts.hostName = [] ∧ parts.port = [] ∧ slashText true <+: parts.tail := by
  have hslash : '/' ∉ parts.userText ∧ '/' ∉ parts.hostText ∧ '/' ∉ parts.portText := by
    refine ⟨fun hmem => ?_, fun hmem => ?_, fun hmem => ?_⟩
    · by_cases huser : parts.user = []
      · simp [userText_eq_nil huser] at hmem
      · rw [userText_eq_append huser, List.mem_append] at hmem
        exact hmem.elim (fun hmem => absurd (h.user _ hmem) (by decide)) (by decide)
    · exact absurd (h.mem_hostText hmem).1 (by decide)
    · exact absurd (h.mem_portText hmem).1 (by decide)
  have hnil : ∀ {piece rest : Text}, '/' ∉ piece → slashText true <+: piece ++ rest → piece = [] := by
    intro piece rest hpiece hstart
    by_contra hne
    obtain ⟨c, piece, rfl⟩ := List.exists_cons_of_ne_nil hne
    rw [slashText_true, List.cons_append, List.cons_prefix_cons] at hstart
    exact hpiece (hstart.1 ▸ List.mem_cons_self)
  constructor
  · intro hstart
    rw [behind, List.append_assoc, List.append_assoc] at hstart
    have huser := hnil hslash.1 hstart
    rw [huser, List.nil_append] at hstart
    have hhost := hnil hslash.2.1 hstart
    rw [hhost, List.nil_append] at hstart
    have hport := hnil hslash.2.2 hstart
    rw [hport, List.nil_append] at hstart
    refine ⟨?_, ?_, ?_, hstart⟩
    · by_contra hne
      simp [userText_eq_append hne] at huser
    · rw [hostText] at hhost
      split_ifs at hhost
      · simp at hhost
      · exact hhost
    · by_contra hne
      simp [portText_eq_cons hne] at hport
  · rintro ⟨huser, hhost, hport, hstart⟩
    rwa [behind, userText_eq_nil huser, hostText, needsBrackets, hhost, portText_eq_nil hport]

theorem HasRegularName.checkName_hostText (h : parts.HasRegularName) :
    checkName parts.hostText = (parts.hostName, []) := by
  rw [HasRegularName] at h
  rw [hostText]
  split_ifs at h ⊢ with hbrackets
  · exact checkName_of_brackets h.2
  · exact checkName_of_labels h.1 h.2

/-- **Regular parts are read as they are written.** -/
theorem IsRegular.read_write (h : parts.IsRegular) (hsound : parts.Sound) (hhost : parts.MayHaveHost)
    (hstrip : Text.strip parts.write = parts.write) : read parts.write = parts := by
  have hopening : IsOpening parts.write parts.protocol parts.slashes parts.behind := by
    refine isOpening_of ?_ hsound.slashes fun hslashes => Or.inr (h.behind hslashes)
    rw [hstrip, write_eq, List.append_assoc]
    refine cutProtocol_of_isProtocol hsound.protocol fun hnil => ?_
    have hslashes : isHostless [] = false ∧ parts.slashes = true := by
      simpa [MayHaveHost, mayHaveHost, hnil] using hhost
    rw [hslashes.2]
    rfl
  have hauthority : IsAuthority parts.behind parts.user (parts.hostText ++ parts.portText) parts.tail
      parts.hostText parts.port parts.hostName [] :=
    { user_eq := hsound.cutUser_behind hhost
      host_eq := hsound.cutHost_behind h.tail
      port_eq := hsound.cutPort_hostText
      name_eq := h.name.checkName_hostText }
  rw [read_of_isAuthority hopening hhost hauthority, List.nil_append, hsound.tail]

end BraceLink.Url.Parts
