/-
# The host of an exclusion

`exclusions.rs`, `extract_host`: an exclusion is given as a URL or as `host[:port]`, and only its
host is resolved.  The scheme and the user info are taken off by searching for `://` and `@` in
the whole of what is left, before the path is cut away, so a delimiter of a later part can be
taken for theirs.

The result is about URLs in their parts (`UrlParts`), of which path, query and fragment are any
text.  What the two searches leave is determined first (`read_text`): the rest from the host on, or
what follows a delimiter in the tail (`misread`).  The cuts after that are read as a relation between
a text and the host that it names (`Names`, `hostOf_iff`).

* `extractHost_iff`: the host is found exactly when no later part is taken for the authority, or
  the part that is names the same host once more.
* `path_taken_for_authority`: a path that names another one.

Hosts are names and IPv4 addresses; an IPv6 address in brackets is not among them.
-/
import SwiftTunnel.Lib.Delimiters
import SwiftTunnel.RobloxProxy.Domains

namespace SwiftTunnel

open Rust

/-! ## 1. `extract_host` -/

/-- The characters that end the authority. -/
def isSeparator (c : Char) : Bool := c == '/' || c == '?' || c == '#'

/-- A trailing `:port` is taken off. -/
def stripPort (s : Text) : Text :=
  match rfindChar ':' s with
  | some idx =>
    if (s.drop (idx + 1)).all Char.isDigit && decide (idx + 1 < s.length) then s.take idx else s
  | none => s

/-- From the cut at the first separator on. -/
def hostOf (s : Text) : Text :=
  ((trim (stripPort (s.takeWhile fun c => !isSeparator c))).rdropWhile (· == '.')).map Char.toLower

/-- `extract_host`. -/
def extractHost (raw : String) : Option String :=
  let s := trim raw.toList
  let s := afterFirst [':', '/', '/'] s
  let s := afterFirst ['@'] s
  let host := hostOf s
  if host = [] then none else some (String.ofList host)

example : extractHost "http://user@host.test:8080/x" = some "host.test" ∧
    extractHost "  discord.com.  " = some "discord.com" ∧ extractHost "https://" = none := by
  decide +kernel

/-! ## 2. What a text names -/

def isUrlHostChar (c : Char) : Bool := c.isAlphanum || c == '-' || c == '.' || c == '*'

/-- A host as it is written in a URL. -/
structure IsHost (host : Text) : Prop where
  ne_nil : host ≠ []
  chars : ∀ c ∈ host, isUrlHostChar c = true
  last : host.getLast? ≠ some '.'

/-- Nothing, or a colon and digits. -/
def IsPort (port : Text) : Prop :=
  port = [] ∨ ∃ digits, digits ≠ [] ∧ (∀ c ∈ digits, c.isDigit = true) ∧ port = ':' :: digits

/-- Nothing, or a path, a query or a fragment, and what follows. -/
def IsTail (tail : Text) : Prop := ∀ c ∈ tail.head?, isSeparator c = true

/-- A text is read as naming a host: as the host itself in any case, with dots after it and white
space around, and then a port and a tail. -/
def Names (host s : Text) : Prop :=
  ∃ front name dots back port tail,
    s = front ++ (name ++ dots ++ back) ++ port ++ tail ∧
    (∀ c ∈ front, isWhitespace c = true) ∧ (∀ c ∈ back, isWhitespace c = true) ∧
    (∀ c ∈ dots, c = '.') ∧ name.map Char.toLower = host.map Char.toLower ∧
    IsPort port ∧ IsTail tail

theorem isUrlHostChar_toLower (c : Char) : isUrlHostChar c.toLower = isUrlHostChar c := by
  by_cases hup : c.val ≥ 'A'.val ∧ c.val ≤ 'Z'.val
  · -- one of the capitals
    have hletters : ∀ k < 26,
        isUrlHostChar (Char.ofNat (65 + k)).toLower = isUrlHostChar (Char.ofNat (65 + k)) := by
      decide
    have hge : 65 ≤ c.toNat := hup.1
    have hle : c.toNat ≤ 90 := hup.2
    have hc := hletters (c.toNat - 65) (by omega)
    rwa [Nat.add_sub_cancel' hge, Char.ofNat_toNat] at hc
  · have hc : c.toLower = c := dif_neg hup
    rw [hc]

theorem isUrlHostChar_range {c : Char} (h : isUrlHostChar c = true) :
    42 ≤ c.toNat ∧ c.toNat ≤ 122 := by
  simp only [isUrlHostChar, Char.isAlphanum, Bool.or_eq_true, beq_iff_eq] at h
  rcases h with (((h | h) | rfl) | rfl) | rfl
  · rcases (Bool.or_eq_true _ _).mp h with h | h
    · have hupper : 65 ≤ c.toNat ∧ c.toNat ≤ 90 :=
        of_decide_eq_true (p := c.val ≥ 'A'.val ∧ c.val ≤ 'Z'.val) h
      omega
    · obtain ⟨hge, hle⟩ := (Bool.and_eq_true _ _).mp h
      have hlower : 97 ≤ c.toNat := of_decide_eq_true hge
      have hlower' : c.toNat ≤ 122 := of_decide_eq_true hle
      omega
  · have hdigit : 48 ≤ c.toNat ∧ c.toNat ≤ 57 := Char.isDigit_iff_toNat.mp h
    omega
  · decide
  · decide
  · decide

/-- The characters of a host are not among those that the steps look for. -/
theorem isUrlHostChar_spec {c : Char} (h : isUrlHostChar c = true) :
    isSeparator c = false ∧ c ≠ ':' ∧ c ≠ '@' ∧ isWhitespace c = false := by
  have hne : ∀ d, isUrlHostChar d = false → c ≠ d := by
    rintro d hd rfl
    exact absurd h (by simp [hd])
  refine ⟨?_, hne ':' (by decide), hne '@' (by decide), ?_⟩
  · simp [isSeparator, hne '/' (by decide), hne '?' (by decide), hne '#' (by decide)]
  · have hrange := isUrlHostChar_range h
    simp only [isWhitespace, Bool.or_eq_false_iff, decide_eq_false_iff_not]
    omega

/-- Digits are characters of a host. -/
theorem isUrlHostChar_of_isDigit {c : Char} (h : c.isDigit = true) : isUrlHostChar c = true := by
  simp [isUrlHostChar, Char.isAlphanum, h]

/-- A name that is the host in another case. -/
theorem isHost_of_lower {host name : Text} (h : IsHost host)
    (hname : name.map Char.toLower = host.map Char.toLower) : IsHost name where
  ne_nil hnil := h.ne_nil (by simpa [hnil] using hname.symm)
  chars c hc := by
    have hmem : c.toLower ∈ host.map Char.toLower := hname ▸ List.mem_map_of_mem hc
    obtain ⟨d, hd, hlower⟩ := List.mem_map.mp hmem
    rw [← isUrlHostChar_toLower, ← hlower, isUrlHostChar_toLower]
    exact h.chars d hd
  last hdot := by
    have hlast := congrArg List.getLast? hname
    rw [List.getLast?_map, List.getLast?_map, hdot, Option.map_some] at hlast
    obtain ⟨d, hd, hlower⟩ := Option.map_eq_some_iff.mp hlast.symm
    obtain rfl := toLower_eq_dot.mp (hlower.trans (by decide))
    exact h.last hd

theorem isWhitespace_spec {c : Char} (h : isWhitespace c = true) :
    isSeparator c = false ∧ c ≠ ':' := by
  have hne : ∀ d, isWhitespace d = false → c ≠ d := by
    rintro d hd rfl
    exact absurd h (by simp [hd])
  refine ⟨?_, hne ':' (by decide)⟩
  simp [isSeparator, hne '/' (by decide), hne '?' (by decide), hne '#' (by decide)]

theorem isPort_spec {port : Text} (h : IsPort port) {c : Char} (hc : c ∈ port) :
    isSeparator c = false ∧ c ≠ '@' ∧ isWhitespace c = false := by
  rcases h with rfl | ⟨digits, -, hdigits, rfl⟩
  · exact nomatch hc
  · rcases List.mem_cons.mp hc with rfl | hc
    · decide
    · obtain ⟨hsep, -, hat, hws⟩ := isUrlHostChar_spec (isUrlHostChar_of_isDigit (hdigits c hc))
      exact ⟨hsep, hat, hws⟩

theorem IsTail.append {a b : Text} (ha : IsTail a) (hb : IsTail b) : IsTail (a ++ b) := by
  cases a with
  | nil => exact hb
  | cons c a => exact fun d hd => ha d hd

/-- A part with its separator, or nothing. -/
theorem isTail_part {sep : Char} (hsep : isSeparator sep = true) (part : Option Text) :
    IsTail ((part.map (sep :: ·)).getD []) := by
  cases part with
  | none => exact fun c hc => absurd hc (Option.not_mem_none c)
  | some t =>
    intro c hc
    obtain rfl := Option.some.inj hc
    exact hsep

theorem takeWhile_authority {authority tail : Text}
    (h : ∀ c ∈ authority, isSeparator c = false) (htail : IsTail tail) :
    (authority ++ tail).takeWhile (fun c => !isSeparator c) = authority := by
  have hall : ∀ c ∈ authority, (!isSeparator c) = true := by simpa using h
  rw [List.takeWhile_append_of_pos hall]
  cases tail with
  | nil => simp
  | cons c tail => simp [htail c rfl]

theorem stripPort_append {body port : Text} (hbody : ':' ∉ body) (hport : IsPort port) :
    stripPort (body ++ port) = body := by
  rcases hport with rfl | ⟨digits, hne, hdigits, rfl⟩
  · rw [List.append_nil, stripPort, rfindChar_eq_none.mpr hbody]
  · have hcolon : ':' ∉ digits := fun hmem => (isUrlHostChar_spec
      (isUrlHostChar_of_isDigit (hdigits ':' hmem))).2.1 rfl
    rw [stripPort, rfindChar_append hcolon]
    simp only [List.take_left]
    refine if_pos ?_
    have hlen := List.length_pos_iff.mpr hne
    simpa [List.drop_append, List.drop_eq_nil_of_le] using ⟨hdigits, hlen⟩

/-- What is taken off is a port. -/
theorem exists_port (s : Text) : ∃ port, s = stripPort s ++ port ∧ IsPort port := by
  rw [stripPort]
  split
  · rename_i idx hidx
    split
    · rename_i hdigits
      rw [Bool.and_eq_true, List.all_eq_true, decide_eq_true_eq] at hdigits
      refine ⟨':' :: s.drop (idx + 1), rfindChar_some hidx, Or.inr ⟨_, ?_, hdigits.1, rfl⟩⟩
      exact fun hnil => absurd (List.drop_eq_nil_iff.mp hnil) (Nat.not_le.mpr hdigits.2)
    · exact ⟨[], (List.append_nil s).symm, Or.inl rfl⟩
  · exact ⟨[], (List.append_nil s).symm, Or.inl rfl⟩

/-- What the cuts leave is named by the text. -/
theorem names_of_hostOf {host s : Text} (h : hostOf s = host.map Char.toLower) : Names host s := by
  let authority := s.takeWhile fun c => !isSeparator c
  obtain ⟨port, hauthority, hport⟩ := exists_port authority
  obtain ⟨front, back, hbody, hfront, hback⟩ := exists_trim (stripPort authority)
  let word := trim (stripPort authority)
  refine ⟨front, word.rdropWhile (· == '.'), word.rtakeWhile (· == '.'), back, port,
    s.dropWhile fun c => !isSeparator c, ?_, hfront, hback, ?_, h, hport, ?_⟩
  · rw [List.rdropWhile_append_rtakeWhile, ← hbody, ← hauthority]
    exact List.takeWhile_append_dropWhile.symm
  · intro c hc
    simpa using List.mem_rtakeWhile_imp hc
  · intro c hc
    have hnot := List.head?_dropWhile_not (fun c => !isSeparator c) s
    rw [Option.mem_def.mp hc] at hnot
    simpa using hnot

/-- Dots and white space around a host are cut away. -/
theorem trim_host {name front dots back : Text} (h : IsHost name)
    (hfront : ∀ c ∈ front, isWhitespace c = true) (hback : ∀ c ∈ back, isWhitespace c = true)
    (hdots : ∀ c ∈ dots, c = '.') :
    (trim (front ++ (name ++ dots ++ back))).rdropWhile (· == '.') = name := by
  have hne : name ++ dots ≠ [] := List.append_ne_nil_of_left_ne_nil h.ne_nil dots
  have hword : ∀ c ∈ name ++ dots, isWhitespace c = false := by
    intro c hc
    rcases List.mem_append.mp hc with hc | hc
    · exact (isUrlHostChar_spec (h.chars c hc)).2.2.2
    · rw [hdots c hc]
      decide
  rw [trim_around hne hword, List.dropWhile_eq_nil_iff.mpr hfront,
    List.rdropWhile_eq_nil_iff.mpr hback, List.nil_append, List.append_nil,
    rdropWhile_append_all (fun c hc => beq_iff_eq.mpr (hdots c hc)), List.rdropWhile_eq_self_iff]
  intro hnil hdot
  rw [beq_iff_eq] at hdot
  exact h.last (hdot ▸ List.getLast?_eq_some_getLast hnil)

/-- No separator and no colon stands among the host, the dots and the white space. -/
theorem body_spec {name front dots back : Text} (h : IsHost name)
    (hfront : ∀ c ∈ front, isWhitespace c = true) (hback : ∀ c ∈ back, isWhitespace c = true)
    (hdots : ∀ c ∈ dots, c = '.') :
    ∀ c ∈ front ++ (name ++ dots ++ back), isSeparator c = false ∧ c ≠ ':' := by
  simp only [List.mem_append]
  rintro c (hc | (hc | hc) | hc)
  · exact isWhitespace_spec (hfront c hc)
  · have hspec := isUrlHostChar_spec (h.chars c hc)
    exact ⟨hspec.1, hspec.2.1⟩
  · rw [hdots c hc]
    decide
  · exact isWhitespace_spec (hback c hc)

/-- **The cuts find the host that a text names.** -/
theorem hostOf_iff {host : Text} (h : IsHost host) (s : Text) :
    hostOf s = host.map Char.toLower ↔ Names host s := by
  refine ⟨names_of_hostOf, ?_⟩
  rintro ⟨front, name, dots, back, port, tail, rfl, hfront, hback, hdots, hname, hport, htail⟩
  have hhost := isHost_of_lower h hname
  have hbody := body_spec hhost hfront hback hdots
  have hauthority : ∀ c ∈ front ++ (name ++ dots ++ back) ++ port, isSeparator c = false := by
    intro c hc
    rcases List.mem_append.mp hc with hc | hc
    · exact (hbody c hc).1
    · exact (isPort_spec hport hc).1
  rw [hostOf, takeWhile_authority hauthority htail,
    stripPort_append (fun hc => (hbody _ hc).2 rfl) hport, trim_host hhost hfront hback hdots, hname]

/-! ## 3. URLs -/

def schemeMark : Text := [':', '/', '/']

/-- A URL in its parts.  The path, the query and the fragment are any text. -/
structure UrlParts where
  scheme : Option Text
  userinfo : Option Text
  host : Text
  port : Text
  path : Option Text
  query : Option Text
  fragment : Option Text
  scheme_ok : ∀ x ∈ scheme, ':' ∉ x
  userinfo_ok : ∀ u ∈ userinfo, '@' ∉ u ∧ ∀ c ∈ u, isSeparator c = false
  host_ok : IsHost host
  port_ok : IsPort port

namespace UrlParts

variable (url : UrlParts)

/-- The user info with its `@`. -/
def userText : Text := (url.userinfo.map (· ++ ['@'])).getD []

/-- All that comes before the host. -/
def front : Text := (url.scheme.map (· ++ schemeMark)).getD [] ++ url.userText

/-- All that comes after the port. -/
def tail : Text :=
  (url.path.map ('/' :: ·)).getD [] ++ (url.query.map ('?' :: ·)).getD [] ++
    (url.fragment.map ('#' :: ·)).getD []

def text : Text := url.front ++ (url.host ++ url.port ++ url.tail)

/-- The tail as it is after trimming. -/
def shownTail : Text := url.tail.rdropWhile isWhitespace

/-- The later text that is taken for the authority: what follows a `://` of the tail when there is
no scheme, or else an `@` of the tail when there is no user info. -/
def misread : Option Text :=
  if url.scheme = none ∧ schemeMark <:+: url.shownTail then
    some (afterFirst ['@'] (afterFirst schemeMark url.shownTail))
  else if url.userinfo = none ∧ '@' ∈ url.shownTail then some (afterFirst ['@'] url.shownTail)
  else none

theorem isTail_tail : IsTail url.tail :=
  ((isTail_part rfl url.path).append (isTail_part rfl url.query)).append
    (isTail_part rfl url.fragment)

theorem isTail_shownTail : IsTail url.shownTail := by
  intro c hc
  obtain ⟨rest, hrest⟩ := List.rdropWhile_prefix isWhitespace (l := url.tail)
  refine url.isTail_tail c ?_
  rw [← hrest, List.head?_append, ← shownTail, Option.mem_def.mp hc]
  rfl

/-- The characters of the host and of the port. -/
theorem host_port_spec {c : Char} (hc : c ∈ url.host ++ url.port) :
    isSeparator c = false ∧ c ≠ '@' ∧ isWhitespace c = false := by
  rcases List.mem_append.mp hc with hc | hc
  · obtain ⟨hsep, -, hat, hws⟩ := isUrlHostChar_spec (url.host_ok.chars c hc)
    exact ⟨hsep, hat, hws⟩
  · exact isPort_spec url.port_ok hc

theorem host_port_ne_nil : url.host ++ url.port ≠ [] :=
  List.append_ne_nil_of_left_ne_nil url.host_ok.ne_nil url.port

/-- Neither ends with a colon. -/
theorem host_port_last : (url.host ++ url.port).getLast? ≠ some ':' := by
  intro hlast
  have hcolon : isUrlHostChar ':' = true := by
    rcases url.port_ok with hport | ⟨digits, hne, hdigits, hport⟩
    · rw [hport, List.append_nil] at hlast
      exact url.host_ok.chars _ (List.mem_of_getLast? hlast)
    · rw [hport, List.append_cons, List.getLast?_append_of_ne_nil _ hne] at hlast
      exact isUrlHostChar_of_isDigit (hdigits _ (List.mem_of_getLast? hlast))
  exact absurd hcolon (by decide)

theorem trim_text : trim url.text =
    url.front.dropWhile isWhitespace ++ (url.host ++ url.port ++ url.shownTail) :=
  trim_around url.host_port_ne_nil (fun _ hc => (url.host_port_spec hc).2.2) url.front url.tail

/-- No `://` begins before the tail when there is no scheme. -/
theorem not_schemeMark_before {front rest : Text} (hslash : '/' ∉ front)
    (hlast : front.getLast? ≠ some ':') :
    ∀ i < front.length, ¬ schemeMark <+: (front ++ rest).drop i := by
  rintro i hi ⟨after, hafter⟩
  rw [List.drop_append_of_le_length hi.le] at hafter
  cases hdrop : front.drop i with
  | nil => exact absurd (List.drop_eq_nil_iff.mp hdrop) (Nat.not_le.mpr hi)
  | cons c part =>
    rw [hdrop] at hafter
    obtain rfl : ':' = c := (List.cons.inj hafter).1
    cases part with
    | nil =>
      have hend : (front.drop i).getLast? = some ':' := by rw [hdrop]; rfl
      rw [List.getLast?_drop, if_neg (Nat.not_le.mpr hi)] at hend
      exact hlast hend
    | cons d part =>
      obtain rfl : '/' = d := (List.cons.inj (List.cons.inj hafter).2).1
      have hmem : '/' ∈ front.drop i := by simp [hdrop]
      exact hslash (List.mem_of_mem_drop hmem)

theorem userText_spec {c : Char} (hc : c ∈ url.userText) : isSeparator c = false := by
  rw [userText] at hc
  cases huser : url.userinfo with
  | none => simp [huser] at hc
  | some u =>
    rw [huser, Option.map_some, Option.getD_some] at hc
    rcases List.mem_append.mp hc with hc | hc
    · exact (url.userinfo_ok u huser).2 c hc
    · obtain rfl := List.mem_singleton.mp hc
      rfl

/-- Once the scheme is off: the user info and all after it, or what follows a `://` of the tail. -/
theorem afterFirst_schemeMark :
    ∃ user, (user = url.userText ∨ user = url.userText.dropWhile isWhitespace) ∧
    afterFirst schemeMark (trim url.text) =
      if url.scheme = none ∧ schemeMark <:+: url.shownTail then afterFirst schemeMark url.shownTail
      else user ++ (url.host ++ url.port ++ url.shownTail) := by
  rw [trim_text, front]
  cases hscheme : url.scheme with
  | some x =>
    refine ⟨url.userText, Or.inl rfl, ?_⟩
    have hx : ':' ∉ x.dropWhile isWhitespace := fun hmem =>
      url.scheme_ok x hscheme ((List.dropWhile_suffix isWhitespace).subset hmem)
    have hhead : ∀ ch ∈ (schemeMark ++ url.userText).head?, isWhitespace ch = false := by
      rintro ch ⟨⟩
      decide
    rw [if_neg (fun h => nomatch h.1), Option.map_some, Option.getD_some, List.append_assoc,
      dropWhile_append_head hhead, List.append_assoc, List.append_assoc]
    exact afterFirst_mark hx _
  | none =>
    refine ⟨url.userText.dropWhile isWhitespace, Or.inr rfl, ?_⟩
    have hslash : '/' ∉ url.userText.dropWhile isWhitespace ++ (url.host ++ url.port) := by
      intro hmem
      rcases List.mem_append.mp hmem with hmem | hmem
      · exact absurd (url.userText_spec ((List.dropWhile_suffix isWhitespace).subset hmem))
          (by decide)
      · exact absurd (url.host_port_spec hmem).1 (by decide)
    have hlast : (url.userText.dropWhile isWhitespace ++ (url.host ++ url.port)).getLast? ≠
        some ':' := by
      rw [List.getLast?_append_of_ne_nil _ url.host_port_ne_nil]
      exact url.host_port_last
    rw [Option.map_none, Option.getD_none, List.nil_append, ← List.append_assoc,
      afterFirst_append (not_schemeMark_before hslash hlast)]
    simp only [true_and, List.append_assoc]

/-- Once the user info is off too. -/
theorem afterFirst_at {user : Text}
    (huser : user = url.userText ∨ user = url.userText.dropWhile isWhitespace) :
    afterFirst ['@'] (user ++ (url.host ++ url.port ++ url.shownTail)) =
      if url.userinfo = none ∧ '@' ∈ url.shownTail then afterFirst ['@'] url.shownTail
      else url.host ++ url.port ++ url.shownTail := by
  rw [userText] at huser
  cases hinfo : url.userinfo with
  | none =>
    have hnil : user = [] := by simpa [hinfo] using huser
    have hat : '@' ∉ url.host ++ url.port := fun hmem => (url.host_port_spec hmem).2.1 rfl
    rw [hnil, List.nil_append, afterFirst_append (not_prefix_of_notMem hat _)]
    simp only [List.singleton_infix_iff, true_and]
  | some u =>
    obtain ⟨v, rfl, hv⟩ : ∃ v, user = v ++ ['@'] ∧ '@' ∉ v := by
      have hu := (url.userinfo_ok u hinfo).1
      rw [hinfo, Option.map_some, Option.getD_some] at huser
      rcases huser with rfl | rfl
      · exact ⟨u, rfl, hu⟩
      · refine ⟨u.dropWhile isWhitespace, ?_, fun hmem =>
          hu ((List.dropWhile_suffix isWhitespace).subset hmem)⟩
        refine dropWhile_append_head ?_ u
        rintro ch ⟨⟩
        decide
    rw [if_neg (fun h => nomatch h.1), List.append_assoc]
    exact afterFirst_mark hv _

/-- **What `extract_host` reads.** -/
theorem read_text : afterFirst ['@'] (afterFirst schemeMark (trim url.text)) =
    url.misread.getD (url.host ++ url.port ++ url.shownTail) := by
  obtain ⟨user, huser, hstripped⟩ := url.afterFirst_schemeMark
  rw [hstripped, misread]
  split
  · rfl
  · rw [url.afterFirst_at huser]
    split <;> rfl

/-- A host with its port and the tail names itself. -/
theorem names_self : Names url.host (url.host ++ url.port ++ url.shownTail) :=
  ⟨[], url.host, [], [], url.port, url.shownTail, by simp, by simp, by simp, by simp, rfl,
    url.port_ok, url.isTail_shownTail⟩

end UrlParts

/-- **When the host of a URL is found**: when no later part is taken for the authority, or the
part that is names the same host. -/
theorem extractHost_iff (url : UrlParts) :
    extractHost (String.ofList url.text) =
        some (toAsciiLowercase (String.ofList url.host)) ↔
      ∀ s, url.misread = some s → Names url.host s := by
  have hne : url.host.map Char.toLower ≠ [] := by
    simpa using url.host_ok.ne_nil
  have hread : extractHost (String.ofList url.text) =
        some (toAsciiLowercase (String.ofList url.host)) ↔
      hostOf (url.misread.getD (url.host ++ url.port ++ url.shownTail)) =
        url.host.map Char.toLower := by
    rw [extractHost, String.toList_ofList, ← schemeMark, url.read_text, toAsciiLowercase,
      String.toList_ofList]
    generalize hostOf (url.misread.getD (url.host ++ url.port ++ url.shownTail)) = found
    by_cases hnil : found = []
    · subst hnil
      simp [Ne.symm hne]
    · simp [hnil, String.ofList_inj]
  rw [hread, hostOf_iff url.host_ok]
  cases url.misread with
  | none => simpa using url.names_self
  | some s => simp

theorem isHost_example : IsHost "example.com".toList where
  ne_nil := by decide
  chars := List.all_eq_true.mp (by decide)
  last := by decide

theorem isPort_nil : IsPort [] := Or.inl rfl

/-- The page of a user on a site, without a scheme. -/
def profileUrl : UrlParts where
  scheme := none
  userinfo := none
  host := "example.com".toList
  port := []
  path := some "@me".toList
  query := none
  fragment := none
  scheme_ok _ h := absurd h (Option.not_mem_none _)
  userinfo_ok _ h := absurd h (Option.not_mem_none _)
  host_ok := isHost_example
  port_ok := isPort_nil

/-- **A path is taken for the authority**, and another host is excluded. -/
theorem path_taken_for_authority :
    String.ofList profileUrl.text = "example.com/@me" ∧
      extractHost (String.ofList profileUrl.text) = some "me" ∧
      extractHost (String.ofList profileUrl.text) ≠
        some (toAsciiLowercase (String.ofList profileUrl.host)) := by
  decide +kernel

end SwiftTunnel
