import BraceLink.Proofs.Handler.Avatar
import BraceLink.Proofs.Resolver.Complete
import BraceLink.Proofs.Resolver.Order

/-!
# Where a bare mention leads

A mention of GitHub without a link of its own leads to the page of its login, and the login is any text:
slashes, marks of queries, at signs and percent signs among others. It stands behind the slash that ends the
host, so it is read as path, query and fragment and never as a part of the host (`Url.read_profileUrl`), and
the normal form of the link only escapes it (`Url.normalize_profileUrl`). `link_of_login` puts this together
with the chain that holds nothing but the handler of GitHub mentions.
-/

namespace BraceLink

/-! ### Addresses of profiles -/

namespace Url

open Handler (profileUrl)

/-- The parts of the address of a profile; the login is cut into path, query and fragment. -/
def profileParts (login : Text) : Parts :=
  ⟨"https:", true, [], "github.com", [], (Parts.cutPath ('/' :: login)).1, (Parts.cutPath ('/' :: login)).2.1,
    (Parts.cutPath ('/' :: login)).2.2⟩

theorem profileParts_tail (login : Text) : (profileParts login).tail = '/' :: login :=
  Parts.cutPath_spelled _

theorem profileParts_needsBrackets (login : Text) : (profileParts login).needsBrackets = false :=
  show decide (':' ∈ ("github.com" : String).toList) = false by decide

theorem profileParts_write (login : Text) : (profileParts login).write = profileUrl login := by
  have hhost : (profileParts login).hostText = "github.com" := by
    rw [Parts.hostText, profileParts_needsBrackets]
    rfl
  have hgithub : Handler.githubUrl = "https:" ++ Parts.slashText true ++ "github.com" := by decide
  rw [Parts.write_eq, Parts.behind, profileParts_tail, hhost, profileUrl, hgithub]
  simp [profileParts, Parts.userText, Parts.portText, Parts.unlessEmpty]

theorem profileParts_sound (login : Text) : (profileParts login).Sound where
  protocol := (show IsWebProtocol "https:" from Or.inr rfl).chars.2.1
  slashes _ := show Parts.isHostless "https:" = false by decide
  bare hhost := absurd hhost (show ¬ Parts.mayHaveHost "https:" true = false by decide)
  user := show ∀ c ∈ ([] : Text), Parts.endsUser c = false by simp
  hostName := show ∀ c ∈ ("github.com" : String).toList, Parts.endsHost c = false ∧ c ≠ '@' from
    List.all_iff_forall_prop.mp (by decide)
  port := show ∀ c ∈ ([] : Text), c.isDigit = true by simp
  mark _ := by
    rw [profileParts_tail]
    exact List.not_mem_nil
  tail := by
    rw [profileParts_tail]
    rfl

theorem profileParts_isRegular (login : Text) : (profileParts login).IsRegular where
  protocol := show ∀ c ∈ ("https:" : String).toList, isPlain c = true from List.all_eq_true.mp (by decide)
  name := by
    rw [Parts.HasRegularName, profileParts_needsBrackets]
    change (∀ label ∈ Text.splitOn '.' ("github.com" : String).toList, Parts.isLabel false label = true) ∧
      ("github.com" : String).toList.length ≤ 255
    decide
  tail := by
    rw [profileParts_tail]
    refine Or.inl fun c hc => ?_
    obtain rfl := Option.some.inj hc
    decide
  behind hslashes := absurd hslashes (show ¬ true = false by decide)

theorem read_profileUrl {login : Text} (hblank : Text.dropEndWhile Text.isBlank login = login) :
    Parts.read (profileUrl login) = profileParts login := by
  have hstrip : Text.strip (profileUrl login) = profileUrl login := by
    have hfront : Handler.githubUrl ++ ['/'] ≠ [] ∧ ∀ c ∈ Handler.githubUrl ++ ['/'], Text.isBlank c = false :=
      ⟨by decide, List.all_iff_forall_prop.mp (by decide)⟩
    have htrimmed := Text.strip_append hfront.1 hfront.2 login
    rw [hblank] at htrimmed
    simpa [profileUrl] using htrimmed
  rw [← profileParts_write] at hstrip ⊢
  exact (profileParts_isRegular login).read_write (profileParts_sound login) (by rfl) hstrip

theorem normalize_profileUrl {login : Text} (hblank : Text.dropEndWhile Text.isBlank login = login) :
    normalize (profileUrl login) = profileUrl (escape login) := by
  have hascii : ∀ c ∈ (profileParts login).hostName, c.toNat < 0x7F ∧ c ≠ '@' :=
    show ∀ c ∈ ("github.com" : String).toList, c.toNat < 0x7F ∧ c ≠ '@' from List.all_iff_forall_prop.mp (by decide)
  have hparts : (Parts.read (profileUrl login)).recoded = profileParts login := by
    rw [read_profileUrl hblank, Parts.recoded_eq_self hascii]
  have hgithub : escape Handler.githubUrl = Handler.githubUrl :=
    escape_eq_self (List.all_eq_true.mp (by decide))
  change writeEscaped (Parts.read (profileUrl login)).recoded = _
  rw [hparts, writeEscaped, profileParts_needsBrackets, profileParts_write, profileUrl]
  simp only [Bool.false_eq_true, if_false]
  rw [escape_append_mark (by decide) (by decide), hgithub]
  rfl

end Url

/-! ### Bare mentions -/

theorem Payload.part_zero_mention {login more : Text} (hbar : '|' ∉ login)
    (hmore : more = [] ∨ more.head? = some '|') :
    Payload.part 0 ('@' :: (login ++ more)) = '@' :: Text.dropEndWhile Text.isBlank login := by
  have hmention : '|' ∉ '@' :: login := by simpa using hbar
  have hstrip : Text.strip ('@' :: login) = '@' :: Text.dropEndWhile Text.isBlank login :=
    Text.strip_append (List.cons_ne_nil '@' []) (List.all_iff_forall_prop.mp (by decide)) login
  have hsplit : ∃ rest, Text.splitOn '|' ('@' :: (login ++ more)) = ('@' :: login) :: rest := by
    rcases hmore with rfl | hmore
    · rw [List.append_nil, Text.splitOn_of_not_mem hmention]
      exact ⟨_, rfl⟩
    · obtain ⟨after, rfl⟩ := List.head?_eq_some_iff.mp hmore
      exact ⟨_, Text.splitOn_append hmention after⟩
  obtain ⟨rest, hrest⟩ := hsplit
  rw [Payload.part, Payload.parts, hrest, List.map_cons, hstrip]
  rfl

/-- **Where a bare mention leads.** In a chain of the handler of GitHub mentions alone, a mention that gives no
link resolves to the page of its login, with or without a text of its own. The link is the address of GitHub, a
slash and the login without the blanks at its end, in which every character that may not stand in a URL is
escaped. Whatever characters the login has, the host is that of GitHub, and normalising the link again changes
nothing. -/
theorem link_of_login (registry : Registry) (settings : Settings) (hdefaults : registry.HasDefaults) :
    ∃ resolver, Resolver.build registry (settings.withNames [.github]) = .ok resolver ∧
      ∀ login more, ':' ∉ login → '|' ∉ login → (more = [] ∨ more.head? = some '|') →
        Payload.part 2 ('@' :: (login ++ more)) = [] →
        ∃ record, resolver.resolve ('@' :: (login ++ more)) = .ok (some record) ∧
          record.link = Handler.githubUrl ++ '/' :: Url.escape (Text.dropEndWhile Text.isBlank login) ∧
          Url.host record.link = .ok "github.com" ∧ Url.normalize record.link = record.link := by
  let resolver : Resolver := ⟨settings.withNames [.github], [Handler.github], Url.normalize⟩
  refine ⟨resolver, Resolver.build_withNames hdefaults settings [.github] Url.normalize, ?_⟩
  intro login more hcolon hbar hmore hcustom
  have hpart := Payload.part_zero_mention hbar hmore
  have hkept : Text.dropEndWhile Text.isBlank login <+: login := List.rdropWhile_prefix _ _
  have hblank : Text.dropEndWhile Text.isBlank (Text.dropEndWhile Text.isBlank login) =
      Text.dropEndWhile Text.isBlank login :=
    List.rdropWhile_idempotent _ _
  have hanswers : Handler.github.Answers ('@' :: (login ++ more)) :=
    github_answers hpart fun hmem => hcolon (hkept.subset hmem)
  have hwon : resolver.WonBy Handler.github ('@' :: (login ++ more)) :=
    Resolver.wonBy_of_declines [] rfl (by simp) hanswers
  obtain ⟨draft, hdraft, -, hresolve⟩ := hwon
  obtain ⟨mentioned, hmentioned, rfl⟩ := github_draft hdraft
  obtain rfl : _ = mentioned := (List.cons.inj (hpart.symm.trans hmentioned)).2
  -- nothing is left to trim in an escaped text
  have hescaped : Text.dropEndWhile Text.isBlank (Url.escape (Text.dropEndWhile Text.isBlank login)) =
      Url.escape (Text.dropEndWhile Text.isBlank login) := by
    refine List.rdropWhile_eq_self_iff.mpr fun hne => ?_
    rw [Url.isBlank_eq_false (Url.toNat_of_mem_escape (List.getLast_mem hne))]
    exact Bool.false_ne_true
  have hbuiltin : ∀ handler ∈ resolver.handlers, handler.IsBuiltin := by
    simpa [resolver] using Handler.IsBuiltin.github Handler.reservedRoutes
  refine ⟨_, hresolve, ?_⟩
  rw [Resolver.complete_link hbuiltin, hcustom, Payload.firstNonEmpty_one, if_pos rfl,
    show resolver.normalize = Url.normalize from rfl, Url.normalize_profileUrl hblank]
  have hweb : Url.IsWebProtocol "https:" := Or.inr rfl
  refine ⟨rfl, Handler.host_of_github hweb rfl, ?_⟩
  rw [Url.normalize_profileUrl hescaped, Url.escape_escape]

/-- A login with the marks of user information, of a query and of an escape, and with a blank inside and at
its end. -/
theorem link_of_login_marks :
    Registry.builtin.HasDefaults ∧
    ∃ resolver, Resolver.build Registry.builtin (({} : Settings).withNames [.github]) = .ok resolver ∧
      ':' ∉ ("a@b?c%20d% é " : String).toList ∧ '|' ∉ ("a@b?c%20d% é " : String).toList ∧
      ("| x" : String).toList.head? = some '|' ∧ Payload.part 2 "@a@b?c%20d% é | x" = [] ∧
      ∃ record, resolver.resolve "@a@b?c%20d% é | x" = .ok (some record) ∧
        record.link = "https://github.com/a@b?c%20d%25%20%C3%A9" ∧
        Url.host record.link = .ok "github.com" ∧ Url.normalize record.link = record.link := by
  obtain ⟨resolver, hbuild, hlogin⟩ := link_of_login Registry.builtin {} Registry.builtin_hasDefaults
  have hcolon : ':' ∉ ("a@b?c%20d% é " : String).toList := by decide
  have hbar : '|' ∉ ("a@b?c%20d% é " : String).toList := by decide
  have hcustom : Payload.part 2 "@a@b?c%20d% é | x" = [] := by decide
  obtain ⟨record, hrecord, hlink, hsame⟩ :=
    hlogin "a@b?c%20d% é " "| x" hcolon hbar (Or.inr (by decide)) hcustom
  exact ⟨Registry.builtin_hasDefaults, resolver, hbuild, hcolon, hbar, by decide, hcustom, record, hrecord,
    hlink.trans (by decide), hsame⟩

end BraceLink
