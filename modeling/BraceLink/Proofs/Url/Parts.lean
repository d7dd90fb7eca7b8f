import BraceLink.Proofs.Text.Split
import BraceLink.Url.Parts
import Mathlib.Data.List.DropRight

/-!
# Reading and writing the parts of a URL

Each of the functions that cut a URL has two lemmas: what it gives (`_spelled` and its companions) and for
which text it gives just that.
-/

namespace BraceLink.Url.Parts

open Text (cut cutLast splitOn join)

/-! ### The protocol -/

/-- The text may stand in front of the rest of a URL as its protocol. -/
def IsProtocol (protocol : Text) : Prop :=
  protocol = [] ∨
    ∃ name, protocol = name ++ [':'] ∧ name ≠ [] ∧ ∀ c ∈ name, isProtocolChar c = true

theorem ne_colon_of_isProtocolChar {c : Char} (h : isProtocolChar c = true) : c ≠ ':' := by
  rintro rfl
  exact absurd h (by decide)

theorem cutProtocol_spelled (url : Text) :
    url = (cutProtocol url).1 ++ (cutProtocol url).2 ∧ IsProtocol (cutProtocol url).1 := by
  unfold cutProtocol
  by_cases hmem : ':' ∈ url
  · obtain ⟨name, rest, rfl, hname⟩ := List.eq_append_cons_of_mem hmem
    rw [Text.cut_of_mem hname]
    dsimp only
    split_ifs with hprotocol
    · simp only [Bool.and_eq_true, Bool.not_eq_true', List.isEmpty_eq_false_iff, List.all_eq_true]
        at hprotocol
      exact ⟨by simp, Or.inr ⟨name, rfl, hprotocol⟩⟩
    · exact ⟨rfl, Or.inl rfl⟩
  · rw [Text.cut_of_not_mem hmem]
    exact ⟨rfl, Or.inl rfl⟩

theorem cutProtocol_append {name : Text} (hne : name ≠ []) (h : ∀ c ∈ name, isProtocolChar c = true)
    (rest : Text) : cutProtocol (name ++ ':' :: rest) = (name ++ [':'], rest) := by
  have hcolon : ':' ∉ name := fun hmem => ne_colon_of_isProtocolChar (h _ hmem) rfl
  rw [cutProtocol, Text.cut_of_mem hcolon]
  simpa [hne] using h

theorem cutProtocol_eq_nil {url : Text}
    (h : ∀ name rest, url = name ++ ':' :: rest → name ≠ [] → ¬ ∀ c ∈ name, isProtocolChar c = true) :
    cutProtocol url = ([], url) := by
  unfold cutProtocol
  by_cases hmem : ':' ∈ url
  · obtain ⟨name, rest, rfl, hname⟩ := List.eq_append_cons_of_mem hmem
    rw [Text.cut_of_mem hname]
    dsimp only
    rw [if_neg]
    simp only [Bool.and_eq_true, Bool.not_eq_true', List.isEmpty_eq_false_iff, List.all_eq_true]
    rintro ⟨hne, hall⟩
    exact h name rest rfl hne hall
  · rw [Text.cut_of_not_mem hmem]

theorem cutProtocol_of_isProtocol {protocol rest : Text} (h : IsProtocol protocol)
    (hnil : protocol = [] → rest.head? = some '/') : cutProtocol (protocol ++ rest) = (protocol, rest) := by
  rcases h with rfl | ⟨name, rfl, hne, hall⟩
  · refine cutProtocol_eq_nil fun name after hrest hne hall => ?_
    obtain ⟨c, name, rfl⟩ := List.exists_cons_of_ne_nil hne
    have hhead := hnil rfl
    rw [show rest = (c :: name) ++ ':' :: after from hrest] at hhead
    have hc := hall c (by simp)
    rw [Option.some.inj hhead] at hc
    exact absurd hc (by decide)
  · rw [List.append_assoc]
    exact cutProtocol_append hne hall rest

/-- What stands before the first colon is no protocol if one of its characters may not stand in one. -/
theorem cutProtocol_of_not {name : Text} (hcolon : ':' ∉ name)
    (h : ∃ c ∈ name, isProtocolChar c = false) (rest : Text) :
    cutProtocol (name ++ ':' :: rest) = ([], name ++ ':' :: rest) := by
  obtain ⟨c, hc, hchar⟩ := h
  rw [cutProtocol, Text.cut_of_mem hcolon]
  dsimp only
  rw [if_neg]
  rw [Bool.and_eq_true, List.all_eq_true]
  rintro ⟨-, hall⟩
  rw [hall c hc] at hchar
  exact absurd hchar (by simp)

/-! ### User information -/

theorem endsHost_of_endsUser {c : Char} (h : endsUser c = true) : endsHost c = true := by
  simp only [endsUser, Bool.or_eq_true, decide_eq_true_eq] at h
  rcases h with (rfl | rfl) | rfl <;> decide

theorem endsUser_eq_false {c : Char} (h : endsHost c = false) : endsUser c = false := by
  by_contra hends
  rw [endsHost_of_endsUser (by simpa using hends)] at h
  exact absurd h (by simp)

/-- The part of a text in which user information may stand. -/
def userZone (text : Text) : Text := text.takeWhile fun c => !endsUser c

theorem userZone_append {before : Text} (h : ∀ c ∈ before, endsUser c = false) (text : Text) :
    userZone (before ++ text) = before ++ userZone text := by
  rw [userZone, List.takeWhile_append_of_pos fun c hc => by simp [h c hc]]
  rfl

theorem cutUser_eq (text : Text) :
    cutUser text =
      match cutLast '@' (userZone text) with
      | (some user, after) => (user, after ++ text.dropWhile fun c => !endsUser c)
      | (none, _) => ([], text) := by
  unfold cutUser
  dsimp only
  rw [Text.drop_length_takeWhile]
  rfl

theorem cutUser_of_mark {user after : Text} (huser : ∀ c ∈ user, endsUser c = false)
    (hafter : '@' ∉ userZone after) : cutUser (user ++ '@' :: after) = (user, after) := by
  have hmark : ∀ c ∈ user ++ ['@'], endsUser c = false := by
    intro c hc
    rcases List.mem_append.mp hc with hc | hc
    · exact huser c hc
    · rw [List.mem_singleton.mp hc]
      decide
  have htext : user ++ '@' :: after = (user ++ ['@']) ++ after := by simp
  have hzone : userZone (user ++ '@' :: after) = user ++ '@' :: userZone after := by
    rw [htext, userZone_append hmark, List.append_assoc]
    rfl
  rw [cutUser_eq, hzone, Text.cutLast_append hafter, htext,
    List.dropWhile_append_of_pos fun c hc => by simp [hmark c hc]]
  dsimp only
  rw [userZone, List.takeWhile_append_dropWhile]

theorem cutUser_of_not_mem {text : Text} (h : '@' ∉ userZone text) : cutUser text = ([], text) := by
  rw [cutUser_eq, Text.cutLast_of_not_mem h]

theorem cutUser_spelled (text : Text) :
    (text = (cutUser text).1 ++ '@' :: (cutUser text).2 ∨
        ((cutUser text).1 = [] ∧ text = (cutUser text).2)) ∧
      (∀ c ∈ (cutUser text).1, endsUser c = false) ∧ '@' ∉ userZone (cutUser text).2 := by
  by_cases hmem : '@' ∈ userZone text
  · obtain ⟨user, after, hzone, hafter⟩ := Text.exists_cutLast hmem
    have hfree : ∀ c ∈ userZone text, endsUser c = false := fun c hc => by
      simpa using List.mem_takeWhile_imp hc
    have huser : ∀ c ∈ user, endsUser c = false := fun c hc => hfree c (by simp [hzone, hc])
    have htext : text = user ++ '@' :: (after ++ text.dropWhile fun c => !endsUser c) := by
      have happend : userZone text ++ (text.dropWhile fun c => !endsUser c) = text :=
        List.takeWhile_append_dropWhile
      rw [hzone] at happend
      simpa using happend.symm
    have hrest : '@' ∉ userZone (after ++ text.dropWhile fun c => !endsUser c) := by
      rw [userZone_append fun c hc => hfree c (by simp [hzone, hc])]
      have hnil : userZone (text.dropWhile fun c => !endsUser c) = [] :=
        Text.takeWhile_dropWhile_eq_nil _ _
      rw [hnil, List.append_nil]
      exact hafter
    have hcut := cutUser_of_mark huser hrest
    rw [← htext] at hcut
    rw [hcut]
    exact ⟨Or.inl htext, huser, hrest⟩
  · rw [cutUser_of_not_mem hmem]
    exact ⟨Or.inr ⟨rfl, rfl⟩, by simp, hmem⟩

/-! ### The host -/

/-- The text does not go on with a host: it is empty, or it begins with a character that may not stand in
one, or a colon stands alone in front of that. -/
def EndsHost (text : Text) : Prop :=
  (∀ c, text.head? = some c → endsHost c = true) ∨
    ∃ rest, text = ':' :: rest ∧ ∀ c, rest.head? = some c → endsHost c = true

theorem cutHost_eq (text : Text) :
    cutHost text =
      if (text.takeWhile fun c => !endsHost c).getLast? = some ':' then
        ((text.takeWhile fun c => !endsHost c).dropLast, ':' :: text.dropWhile fun c => !endsHost c)
      else (text.takeWhile fun c => !endsHost c, text.dropWhile fun c => !endsHost c) := by
  unfold cutHost
  dsimp only
  rw [Text.drop_length_takeWhile]

theorem cutHost_append {host beyond : Text} (hhost : ∀ c ∈ host, endsHost c = false)
    (hlast : host.getLast? ≠ some ':') (hbeyond : EndsHost beyond) :
    cutHost (host ++ beyond) = (host, beyond) := by
  have hpos : ∀ c ∈ host, (!endsHost c) = true := fun c hc => by simp [hhost c hc]
  have hstop : ∀ {text : Text}, (∀ c, text.head? = some c → endsHost c = true) →
      (text.takeWhile fun c => !endsHost c) = [] ∧ (text.dropWhile fun c => !endsHost c) = text := by
    intro text htext
    cases text with
    | nil => exact ⟨rfl, rfl⟩
    | cons c text =>
      have hc : ¬ (!endsHost c) = true := by rw [htext c rfl]; simp
      exact ⟨List.takeWhile_cons_of_neg hc, List.dropWhile_cons_of_neg hc⟩
  rw [cutHost_eq, List.takeWhile_append_of_pos hpos, List.dropWhile_append_of_pos hpos]
  rcases hbeyond with hend | ⟨rest, rfl, hend⟩
  · rw [(hstop hend).1, (hstop hend).2, List.append_nil, if_neg hlast]
  · rw [List.takeWhile_cons_of_pos (by decide), List.dropWhile_cons_of_pos (by decide), (hstop hend).1,
      (hstop hend).2]
    simp

theorem cutHost_spelled (text : Text) :
    text = (cutHost text).1 ++ (cutHost text).2 ∧ (∀ c ∈ (cutHost text).1, endsHost c = false) ∧
      EndsHost (cutHost text).2 := by
  have htext : (text.takeWhile fun c => !endsHost c) ++ (text.dropWhile fun c => !endsHost c) = text :=
    List.takeWhile_append_dropWhile
  have hhost : ∀ c ∈ text.takeWhile fun c => !endsHost c, endsHost c = false := fun c hc => by
    simpa using List.mem_takeWhile_imp hc
  have hend : ∀ c, (text.dropWhile fun c => !endsHost c).head? = some c → endsHost c = true := by
    intro c hc
    have hnot := List.head?_dropWhile_not (fun c => !endsHost c) text
    rw [hc] at hnot
    simpa using hnot
  rw [cutHost_eq]
  split_ifs with hlast
  · have hsplit := List.dropLast_append_getLast? _ hlast
    refine ⟨?_, fun c hc => hhost c (List.dropLast_subset _ hc), Or.inr ⟨_, rfl, hend⟩⟩
    rw [← List.singleton_append, ← List.append_assoc, hsplit, htext]
  · exact ⟨htext.symm, hhost, Or.inl hend⟩

/-! ### The port -/

theorem cutPort_eq (host : Text) :
    cutPort host =
      if (host.rdropWhile Char.isDigit).getLast? = some ':' then
        ((host.rdropWhile Char.isDigit).dropLast, host.rtakeWhile Char.isDigit)
      else (host, []) := by
  have hbefore : host.take (host.length - (host.rtakeWhile Char.isDigit).length) =
      host.rdropWhile Char.isDigit := by
    rw [← List.rdrop, List.rdrop_eq_reverse_drop_reverse, List.rtakeWhile, List.length_reverse,
      Text.drop_length_takeWhile, List.rdropWhile]
  unfold cutPort
  dsimp only
  rw [← List.rtakeWhile, hbefore]

theorem cutPort_append {port : Text} (h : ∀ c ∈ port, c.isDigit = true) (name : Text) :
    cutPort (name ++ ':' :: port) = (name, port) := by
  have hreverse : (name ++ ':' :: port).reverse = port.reverse ++ ':' :: name.reverse := by simp
  have hport : ∀ c ∈ port.reverse, c.isDigit = true := by simpa using h
  have hdigits : (name ++ ':' :: port).rtakeWhile Char.isDigit = port := by
    rw [List.rtakeWhile, hreverse, List.takeWhile_append_of_pos hport, List.takeWhile_cons_of_neg (by decide)]
    simp
  have hbefore : (name ++ ':' :: port).rdropWhile Char.isDigit = name ++ [':'] := by
    rw [List.rdropWhile, hreverse, List.dropWhile_append_of_pos hport, List.dropWhile_cons_of_neg (by decide)]
    simp
  rw [cutPort_eq, hdigits, hbefore]
  simp

theorem cutPort_spelled (host : Text) :
    (host = (cutPort host).1 ++ ':' :: (cutPort host).2 ∨
        ((cutPort host).2 = [] ∧ host = (cutPort host).1)) ∧
      ∀ c ∈ (cutPort host).2, c.isDigit = true := by
  rw [cutPort_eq]
  split_ifs with hlast
  · have hsplit := List.dropLast_append_getLast? _ hlast
    refine ⟨Or.inl ?_, fun c hc => ?_⟩
    · rw [← List.singleton_append, ← List.append_assoc, hsplit]
      exact List.rdropWhile_append_rtakeWhile.symm
    · exact List.mem_rtakeWhile_imp hc
  · exact ⟨Or.inr ⟨rfl, rfl⟩, by simp⟩

theorem cutPort_of_none {host : Text}
    (h : ∀ name port, host = name ++ ':' :: port → ¬ ∀ c ∈ port, c.isDigit = true) :
    cutPort host = (host, []) := by
  obtain ⟨hspelled | ⟨hport, hname⟩, hdigits⟩ := cutPort_spelled host
  · exact absurd hdigits (h _ _ hspelled)
  · exact Prod.ext hname.symm hport

/-! ### The host name -/

theorem labelStart_append_drop (label : Text) :
    labelStart label ++ label.drop (labelStart label).length = label :=
  List.prefix_iff_eq_append.mp ((List.take_prefix _ _).trans (List.takeWhile_prefix _))

theorem cutLabels_ne_nil {labels : List Text} (h : labels ≠ []) : (cutLabels labels).1 ≠ [] := by
  cases labels with
  | nil => exact absurd rfl h
  | cons label rest =>
    rw [cutLabels]
    split <;> simp

theorem cutLabels_join (labels : List Text) :
    join ['.'] (cutLabels labels).1 ++ ((cutLabels labels).2.map (join ['.'])).getD [] =
      join ['.'] labels := by
  induction labels with
  | nil => rfl
  | cons label rest ih =>
    rw [cutLabels]
    split_ifs with hlabel
    · dsimp only
      by_cases hrest : rest = []
      · subst hrest
        simp [cutLabels]
      · rw [Text.join_cons _ _ (cutLabels_ne_nil hrest), Text.join_cons _ _ hrest, ← ih]
        simp only [List.append_assoc]
    · have hstart := labelStart_append_drop label
      dsimp only [Option.map_some, Option.getD_some]
      by_cases hrest : rest = []
      · subst hrest
        exact hstart
      · rw [Text.join_cons _ _ hrest, Text.join_cons _ _ hrest, ← List.append_assoc, ← List.append_assoc]
        exact congrArg (· ++ ['.'] ++ join ['.'] rest) hstart

theorem cutLabels_of_forall {labels : List Text} (h : ∀ label ∈ labels, isLabel false label = true) :
    cutLabels labels = (labels, none) := by
  induction labels with
  | nil => rfl
  | cons label rest ih =>
    rw [cutLabels, h label (by simp), ih fun other hother => h other (by simp [hother])]
    rfl

/-- A character that may stand in a host name without brackets. -/
def isNameChar (c : Char) : Bool := isLabelChar c || 127 < c.toNat || c = '.'

theorem isNameChar_of_mem_cutLabels {labels : List Text} {c : Char}
    (h : c ∈ join ['.'] (cutLabels labels).1) : isNameChar c = true := by
  have hlabel : ∀ foreign label, isLabel foreign label = true → ∀ c ∈ label, isNameChar c = true := by
    intro foreign label hlabel c hc
    simp only [isLabel, Bool.and_eq_true, List.all_eq_true] at hlabel
    have hchar := hlabel.2 c hc
    cases foreign <;> simp_all [isNameChar]
  rcases Text.mem_join h with rfl | ⟨piece, hpiece, hc⟩
  · decide
  · clear h
    induction labels with
    | nil => simp [cutLabels] at hpiece
    | cons label rest ih =>
      rw [cutLabels] at hpiece
      split_ifs at hpiece with hallowed
      · rcases List.mem_cons.mp hpiece with rfl | hpiece
        · rcases Bool.or_eq_true _ _ ▸ hallowed with hallowed | hallowed
          · exact hlabel false piece hallowed c hc
          · exact hlabel true piece hallowed c hc
        · exact ih hpiece
      · rw [List.mem_singleton.mp hpiece] at hc
        have hstart := List.mem_takeWhile_imp (List.mem_of_mem_take hc)
        simp [isNameChar, hstart]

/-- What a name without brackets gives: the labels that are used, unless they are too long, and the rest. -/
theorem checkName_spelled {name : Text} (h : isBracketedName name = false) :
    ∃ used, used ++ (checkName name).2 = name ∧ (∀ c ∈ used, isNameChar c = true) ∧
      (checkName name).1 = if 255 < used.length then [] else used := by
  have hjoin := cutLabels_join (splitOn '.' name)
  rw [Text.join_splitOn] at hjoin
  refine ⟨join ['.'] (cutLabels (splitOn '.' name)).1, ?_, fun c => isNameChar_of_mem_cutLabels, ?_⟩
  · rw [checkName, h]
    dsimp only
    cases hrest : (cutLabels (splitOn '.' name)).2 with
    | none => rw [hrest] at hjoin; exact hjoin
    | some labels => rw [hrest] at hjoin; exact hjoin
  · rw [checkName, h]
    rfl

theorem checkName_of_bracketed {name : Text} (h : isBracketedName name = true) :
    checkName name = (if 255 < name.length then [] else (name.drop 1).dropLast, []) := by
  rw [checkName, h]
  rfl

theorem checkName_of_labels {name : Text} (h : ∀ label ∈ splitOn '.' name, isLabel false label = true)
    (hlength : name.length ≤ 255) : checkName name = (name, []) := by
  have hcut := cutLabels_of_forall h
  have hplain : isBracketedName name = false := by
    by_contra hbracketed
    have hmem : '[' ∈ join ['.'] (cutLabels (splitOn '.' name)).1 := by
      rw [hcut, Text.join_splitOn]
      simp only [isBracketedName, Bool.not_eq_false, Bool.and_eq_true, decide_eq_true_eq] at hbracketed
      exact List.mem_of_mem_head? hbracketed.1
    exact absurd (isNameChar_of_mem_cutLabels hmem) (by decide)
  rw [checkName, hplain, hcut, if_neg Bool.false_ne_true]
  dsimp only
  rw [Text.join_splitOn, if_neg (by omega)]

theorem checkName_of_brackets {name : Text} (hlength : name.length + 2 ≤ 255) :
    checkName ('[' :: name ++ [']']) = (name, []) := by
  have hbracketed : isBracketedName ('[' :: name ++ [']']) = true := by
    have hlast : ('[' :: name ++ [']']).getLast? = some ']' := List.getLast?_concat
    rw [isBracketedName, hlast]
    rfl
  rw [checkName_of_bracketed hbracketed, if_neg (by simp; omega)]
  simp

theorem mem_of_mem_checkName {c : Char} {name : Text}
    (h : c ∈ (checkName name).1 ∨ c ∈ (checkName name).2) : c ∈ name := by
  cases hbracketed : isBracketedName name with
  | true =>
    rw [checkName_of_bracketed hbracketed] at h
    rcases h with h | h
    · dsimp only at h
      split_ifs at h
      · simp at h
      · exact List.mem_of_mem_drop (List.dropLast_subset _ h)
    · simp at h
  | false =>
    obtain ⟨used, hspelled, -, hused⟩ := checkName_spelled hbracketed
    rw [← hspelled, List.mem_append]
    refine h.imp_left fun hc => ?_
    rw [hused] at hc
    split_ifs at hc
    · simp at hc
    · exact hc

end BraceLink.Url.Parts
