import BraceLink.Handler.GitHub
import BraceLink.Proofs.Text.Split

/-!
# Logins in links

A link names a login if it leads to GitHub and the login is the first segment of its path
(`Handler.LeadsTo`). The handler of GitHub mentions reads exactly these logins (`githubLogin?_eq_some_iff`),
and it corrects exactly the records that lack the avatar of such a login (`repairAvatar_eq_some_iff`).
-/

namespace BraceLink.Handler

/-- The link leads to GitHub, with or without a scheme of the web, and the login is the first segment of
its path: characters of logins up to a slash, to the end, or to a line end that ends the link. -/
def LeadsTo (link login : Text) : Prop :=
  ∃ scheme tail : Text,
    (scheme = [] ∨ scheme = ("http://" : String).toList ∨ scheme = ("https://" : String).toList) ∧
    link = scheme ++ (("github.com/" : String).toList ++ (login ++ tail)) ∧
    (∀ c ∈ login, isLoginChar c = true) ∧ (tail = [] ∨ tail = ['\n'] ∨ tail.head? = some '/')

theorem exists_withoutWebScheme (link : Text) :
    ∃ scheme : Text,
      (scheme = [] ∨ scheme = ("http://" : String).toList ∨ scheme = ("https://" : String).toList) ∧
      link = scheme ++ withoutWebScheme link := by
  unfold withoutWebScheme
  cases hsecure : Text.dropPrefix? "https://" link with
  | some rest => exact ⟨_, Or.inr (Or.inr rfl), Text.dropPrefix?_eq_some_iff.mp hsecure⟩
  | none =>
    cases hopen : Text.dropPrefix? "http://" link with
    | some rest => exact ⟨_, Or.inr (Or.inl rfl), Text.dropPrefix?_eq_some_iff.mp hopen⟩
    | none => exact ⟨[], Or.inl rfl, rfl⟩

theorem takeWhile_login {login tail : Text} (hlogin : ∀ c ∈ login, isLoginChar c = true)
    (htail : tail = [] ∨ tail = ['\n'] ∨ tail.head? = some '/') :
    (login ++ tail).takeWhile isLoginChar = login := by
  have hstop : tail.takeWhile isLoginChar = [] := by
    rcases htail with rfl | rfl | hslash
    · rfl
    · rfl
    · obtain ⟨rest, rfl⟩ := List.head?_eq_some_iff.mp hslash
      rfl
  rw [List.takeWhile_append_of_pos hlogin, hstop, List.append_nil]

theorem githubLogin?_eq_some_iff {link login : Text} : githubLogin? link = some login ↔ LeadsTo link login := by
  constructor
  · intro h
    obtain ⟨path, hpath, h⟩ := Option.bind_eq_some_iff.mp h
    obtain ⟨scheme, hscheme, hlink⟩ := exists_withoutWebScheme link
    rw [Text.dropPrefix?_eq_some_iff.mp hpath] at hlink
    have hsplit : path = path.takeWhile isLoginChar ++ path.drop (path.takeWhile isLoginChar).length := by
      rw [Text.drop_length_takeWhile, List.takeWhile_append_dropWhile]
    have hchars : ∀ c ∈ path.takeWhile isLoginChar, isLoginChar c = true := fun c hc =>
      List.mem_takeWhile_imp hc
    dsimp only at h
    split at h
    · rename_i htail
      obtain rfl := Option.some.inj h
      exact ⟨scheme, _, hscheme, by rw [← hsplit]; exact hlink, hchars, Or.inl htail⟩
    · rename_i htail
      obtain rfl := Option.some.inj h
      exact ⟨scheme, _, hscheme, by rw [← hsplit]; exact hlink, hchars, Or.inr (Or.inl htail)⟩
    · rename_i htail
      obtain rfl := Option.some.inj h
      refine ⟨scheme, _, hscheme, by rw [← hsplit]; exact hlink, hchars, Or.inr (Or.inr ?_)⟩
      rw [htail, List.head?_cons]
    · cases h
  · rintro ⟨scheme, tail, hscheme, rfl, hchars, htail⟩
    have hrest : withoutWebScheme (scheme ++ (("github.com/" : String).toList ++ (login ++ tail))) =
        ("github.com/" : String).toList ++ (login ++ tail) := by
      rcases hscheme with rfl | rfl | rfl <;> rfl
    rw [githubLogin?, hrest, Text.dropPrefix?_eq_some_iff.mpr rfl, Option.bind_some]
    simp only [takeWhile_login hchars htail, List.drop_left]
    rcases htail with rfl | rfl | hslash
    · rfl
    · rfl
    · obtain ⟨rest, rfl⟩ := List.head?_eq_some_iff.mp hslash
      rfl

/-- The record shows the icon of a site although its link leads to the page of the login. -/
structure LacksAvatar (reserved : List Text) (record : Record) (login : Text) : Prop where
  kind : record.kind ≠ githubKind
  link : LeadsTo record.link login
  ne_nil : login ≠ []
  free : login ∉ reserved
  icon : Link.faviconPrefix <+: record.image

/-- A record is corrected exactly if it lacks the avatar of a login, and then it gets that avatar. -/
theorem repairAvatar_eq_some_iff {reserved : List Text} {record after : Record} :
    repairAvatar reserved record = some after ↔
      ∃ login, LacksAvatar reserved record login ∧ after = { record with image := avatarUrl login } := by
  constructor
  · intro h
    unfold repairAvatar at h
    split_ifs at h with hkind
    split at h
    · cases h
    · rename_i login hlogin
      split_ifs at h with hkept
      simp only [Bool.or_eq_true, not_or, List.isEmpty_iff, List.contains_iff_mem, Bool.not_eq_true',
        Bool.not_eq_false, Text.isPrefix_iff] at hkept
      obtain ⟨⟨hne, hfree⟩, hicon⟩ := hkept
      exact ⟨login, ⟨hkind, githubLogin?_eq_some_iff.mp hlogin, hne, hfree, hicon⟩, (Option.some.inj h).symm⟩
  · rintro ⟨login, hlacks, rfl⟩
    have hlogin := githubLogin?_eq_some_iff.mpr hlacks.link
    have hicon : Text.isPrefix Link.faviconPrefix record.image = true := Text.isPrefix_iff.mpr hlacks.icon
    rw [repairAvatar, if_neg hlacks.kind, hlogin]
    simp [hlacks.ne_nil, hlacks.free, hicon]

/-! ### A second look -/

def repaired (reserved : List Text) (record : Record) : Record := (repairAvatar reserved record).getD record

theorem not_faviconPrefix_avatarUrl (login : Text) : ¬ Link.faviconPrefix <+: avatarUrl login := by
  rintro ⟨rest, h⟩
  have hletter : some 'f' = some 'g' := congrArg (fun url => url[8]?) h
  cases hletter

theorem repairAvatar_avatarUrl (reserved : List Text) (record : Record) (login : Text) :
    repairAvatar reserved { record with image := avatarUrl login } = none := by
  refine Option.eq_none_iff_forall_ne_some.mpr fun other hother => ?_
  obtain ⟨_, hlacks, -⟩ := repairAvatar_eq_some_iff.mp hother
  exact not_faviconPrefix_avatarUrl login hlacks.icon

theorem repaired_repaired (reserved : List Text) (record : Record) :
    repaired reserved (repaired reserved record) = repaired reserved record := by
  cases hfirst : repairAvatar reserved record with
  | none => simp only [repaired, hfirst, Option.getD_none]
  | some after =>
    obtain ⟨login, -, rfl⟩ := repairAvatar_eq_some_iff.mp hfirst
    have hrepaired : repaired reserved record = { record with image := avatarUrl login } := by
      rw [repaired, hfirst, Option.getD_some]
    rw [hrepaired, repaired, repairAvatar_avatarUrl, Option.getD_none]

end BraceLink.Handler
