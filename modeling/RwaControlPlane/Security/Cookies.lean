import RwaControlPlane.Failure
import RwaControlPlane.Library.Checked
import RwaControlPlane.Library.PercentEncoding

open checked

namespace rwa.security

/-- What `decodeURIComponent` throws. -/
def uriMalformed : Failure := ⟨"", "URI malformed"⟩

/-- The name and the value of a cookie, before the value is decoded. -/
def cookiePair (part : List Char) : Option (String × String) :=
  let name := part.takeWhile (· ≠ '=')
  if name = [] then none
  else if '=' ∈ part then
    some (js_text.trim (String.ofList name), js_text.trim (String.ofList (part.drop (name.length + 1))))
  else none

/-- The cookies of a header. -/
def cookiePairs (header : String) : List (String × String) :=
  (header.toList.splitOn ';').filterMap cookiePair

/-- `cookieValue` of the production service: the first session cookie. -/
def cookieValue (header : Option String) : Except Failure (Option String) :=
  match (cookiePairs (header.getD "")).find? (·.1 = "rwa_session") with
  | none => pure none
  | some (_, value) => do
    let token ← require (percent.decode value) uriMalformed
    pure (some token)

def decodeCookie (cookie : String × String) : Except Failure (String × String) := do
  let value ← require (percent.decode cookie.2) uriMalformed
  pure (cookie.1, value)

/-- `parseCookies` of the sandbox: all cookies, of which the last of a name counts. -/
def parseCookies (header : Option String) : Except Failure (List (String × String)) :=
  (cookiePairs (header.getD "")).mapM decodeCookie

/-- `parseCookies(header).rwa_session` -/
def sandboxCookie (header : Option String) : Except Failure (Option String) := do
  let cookies ← parseCookies header
  pure ((cookies.reverse.find? (·.1 = "rwa_session")).map (·.2))

/-- `#cookie` -/
def sessionCookie (token : String) (maxAge : Nat) (secureCookies : Bool) : String :=
  "rwa_session=" ++ percent.encode token ++ "; Path=/; HttpOnly; SameSite=Strict; Max-Age=" ++ toString maxAge ++
    if secureCookies then "; Secure" else ""

/-- What a client keeps of a cookie and sends back: its text up to the first
attribute. -/
def keptPair (cookie : String) : String :=
  String.ofList (cookie.toList.takeWhile (· ≠ ';'))

/-- The header that a client sends. -/
def cookieHeader (pairs : List String) : String :=
  String.ofList (List.intercalate [';', ' '] (pairs.map String.toList))

/-- The name of the cookie in a pair. -/
def cookieName (pair : String) : String :=
  js_text.trim (String.ofList (pair.toList.takeWhile (· ≠ '=')))

/-- A pair that is no session cookie, and that one split does not divide. -/
def OtherPair (pair : String) : Prop :=
  ';' ∉ pair.toList ∧ cookieName pair ≠ "rwa_session"

instance (pair : String) : Decidable (OtherPair pair) :=
  inferInstanceAs (Decidable (_ ∧ _))

private theorem trim_of_spaceless {text : String} (h : ∀ char ∈ text.toList, js_text.isSpace char = false) :
    js_text.trim text = text := by
  have hstays : ∀ chars : List Char, (∀ char ∈ chars, js_text.isSpace char = false) →
      chars.dropWhile js_text.isSpace = chars := by
    intro chars hchars
    cases chars with
    | nil => rfl
    | cons char chars => exact List.dropWhile_cons_of_neg (by simp [hchars char List.mem_cons_self])
  rw [js_text.trim, hstays _ h, hstays _ (by simpa using h), List.reverse_reverse, String.ofList_toList]

private theorem trim_space {chars : List Char} :
    js_text.trim (String.ofList (' ' :: chars)) = js_text.trim (String.ofList chars) := by
  rw [js_text.trim, js_text.trim, String.toList_ofList, String.toList_ofList, List.dropWhile_cons_of_pos (by decide)]

private theorem isSpace_of_unreserved {char : Char} (h : percent.isUnreserved char = true) :
    js_text.isSpace char = false := by
  obtain ⟨hlow, hhigh⟩ := percent.toNat_of_unreserved h
  simp only [js_text.isSpace, Bool.or_eq_false_iff, Bool.and_eq_false_iff, decide_eq_false_iff_not,
    List.contains_eq_mem, List.mem_cons, List.not_mem_nil, or_false]
  omega

/-- An encoded text holds no separator and no space. -/
private theorem encode_plain {token : String} {char : Char} (h : char ∈ (percent.encode token).toList) :
    char ≠ ';' ∧ js_text.isSpace char = false := by
  obtain hunreserved | rfl := percent.mem_encode h
  · refine ⟨?_, isSpace_of_unreserved hunreserved⟩
    rintro rfl
    revert hunreserved
    decide
  · decide

private theorem toList_sessionCookie {token : String} {maxAge : Nat} {secureCookies : Bool} :
    ∃ rest, (sessionCookie token maxAge secureCookies).toList =
      "rwa_session=".toList ++ (percent.encode token).toList ++ ';' :: rest := by
  have hattributes : "; Path=/; HttpOnly; SameSite=Strict; Max-Age=".toList =
      ';' :: " Path=/; HttpOnly; SameSite=Strict; Max-Age=".toList := by decide
  refine ⟨" Path=/; HttpOnly; SameSite=Strict; Max-Age=".toList ++
    ((toString maxAge).toList ++ (if secureCookies then "; Secure" else "").toList), ?_⟩
  simp only [sessionCookie, String.toList_append, hattributes, List.append_assoc, List.cons_append]

private theorem not_mem_name : ';' ∉ "rwa_session=".toList := by decide

/-- What a client keeps is the name and the encoded token. -/
private theorem toList_keptPair {token : String} {maxAge : Nat} {secureCookies : Bool} :
    (keptPair (sessionCookie token maxAge secureCookies)).toList =
      "rwa_session=".toList ++ (percent.encode token).toList := by
  obtain ⟨rest, hcookie⟩ := @toList_sessionCookie token maxAge secureCookies
  have hplain : ∀ char ∈ "rwa_session=".toList ++ (percent.encode token).toList, decide (char ≠ ';') = true := by
    intro char hchar
    obtain hname | hvalue := List.mem_append.mp hchar
    · exact decide_eq_true (fun heq => not_mem_name (heq ▸ hname))
    · exact decide_eq_true (encode_plain hvalue).1
  rw [keptPair, String.toList_ofList, hcookie, List.takeWhile_append_of_pos hplain,
    List.takeWhile_cons_of_neg (by decide), List.append_nil]

/-- A part of a header is a pair, or a pair after a space. -/
private def IsPart (part : List Char) (pair : String) : Prop :=
  part = pair.toList ∨ part = ' ' :: pair.toList

private theorem splitOn_intercalate_space {first : List Char} {rest : List (List Char)} (hfirst : ';' ∉ first)
    (hrest : ∀ other ∈ rest, ';' ∉ other) :
    (List.intercalate [';', ' '] (first :: rest)).splitOn ';' = first :: rest.map (' ' :: ·) := by
  induction rest generalizing first with
  | nil => rw [List.intercalate_singleton, List.splitOn_eq_singleton hfirst, List.map_nil]
  | cons next rest ih =>
    have hnext : ';' ∉ ' ' :: next := by
      simp only [List.mem_cons, not_or]
      exact ⟨by decide, hrest next List.mem_cons_self⟩
    rw [List.intercalate_cons_cons, List.append_assoc, List.cons_append, List.singleton_append,
      List.splitOn_append_cons_self_of_not_mem hfirst, ← List.intercalate_cons_cons_left,
      ih hnext fun other hother => hrest other (List.mem_cons_of_mem next hother), List.map_cons]

/-- The parts of a header are its pairs, in their order. -/
private theorem cookieParts {before after : List String} {pair : String}
    (h : ∀ other ∈ before ++ pair :: after, ';' ∉ other.toList) :
    ∃ first part last, (cookieHeader (before ++ pair :: after)).toList.splitOn ';' = first ++ part :: last ∧
      IsPart part pair ∧ (∀ other ∈ first, ∃ source ∈ before, IsPart other source) ∧
      ∀ other ∈ last, ∃ source ∈ after, IsPart other source := by
  have hparts : ∀ {pairs : List String}, ∀ part ∈ pairs.map fun source => ' ' :: source.toList,
      ∃ source ∈ pairs, IsPart part source := by
    intro pairs part hpart
    obtain ⟨source, hsource, rfl⟩ := List.mem_map.mp hpart
    exact ⟨source, hsource, Or.inr rfl⟩
  have hchars : ∀ other ∈ (before ++ pair :: after).map String.toList, ';' ∉ other := by
    intro other hother
    obtain ⟨source, hsource, rfl⟩ := List.mem_map.mp hother
    exact h source hsource
  rw [cookieHeader, String.toList_ofList]
  cases before with
  | nil =>
    rw [List.nil_append, List.map_cons] at hchars ⊢
    refine ⟨[], pair.toList, after.map fun source => ' ' :: source.toList, ?_, Or.inl rfl, fun _ hother => ?_, hparts⟩
    · rw [splitOn_intercalate_space (hchars _ List.mem_cons_self)
        fun other hother => hchars other (List.mem_cons_of_mem _ hother), List.map_map]
      rfl
    · exact absurd hother List.not_mem_nil
  | cons head before =>
    rw [List.cons_append, List.map_cons] at hchars ⊢
    refine ⟨head.toList :: before.map fun source => ' ' :: source.toList, ' ' :: pair.toList,
      after.map fun source => ' ' :: source.toList, ?_, Or.inr rfl, ?_, hparts⟩
    · rw [splitOn_intercalate_space (hchars _ List.mem_cons_self)
        fun other hother => hchars other (List.mem_cons_of_mem _ hother), List.map_map, List.map_append, List.map_cons]
      rfl
    · intro other hother
      obtain rfl | hother := List.mem_cons.mp hother
      · exact ⟨head, List.mem_cons_self, Or.inl rfl⟩
      · obtain ⟨source, hsource, hpart⟩ := hparts other hother
        exact ⟨source, List.mem_cons_of_mem head hsource, hpart⟩

/-- The space before a pair is no part of its name. -/
private theorem name_of_cookiePair {part : List Char} {pair name value : String} (hpart : IsPart part pair)
    (h : cookiePair part = some (name, value)) : name = cookieName pair := by
  unfold cookiePair at h
  dsimp only at h
  split at h
  · cases h
  · split at h
    · obtain ⟨rfl, -⟩ := Prod.mk.inj (Option.some.inj h)
      obtain rfl | rfl := hpart
      · rfl
      · rw [cookieName, List.takeWhile_cons_of_pos (by decide), trim_space]
    · cases h

private theorem cookiePair_of_name {name value : List Char} (hname : '=' ∉ name) (hne : name ≠ []) :
    cookiePair (name ++ '=' :: value) =
      some (js_text.trim (String.ofList name), js_text.trim (String.ofList value)) := by
  have htake : (name ++ '=' :: value).takeWhile (· ≠ '=') = name := by
    rw [List.takeWhile_append_of_pos fun char hchar => decide_eq_true (ne_of_mem_of_not_mem hchar hname),
      List.takeWhile_cons_of_neg (by decide), List.append_nil]
  have hdrop : (name ++ '=' :: value).drop (name.length + 1) = value := by
    rw [List.drop_length_add_append, List.drop_one, List.tail_cons]
  unfold cookiePair
  dsimp only
  rw [htake, hdrop, if_neg hne, if_pos (List.mem_append_right name List.mem_cons_self)]

/-- The part of the session cookie, with or without a space before it. -/
private theorem cookiePair_session {token : String} {part : List Char} {pair : String}
    (hpair : pair.toList = "rwa_session=".toList ++ (percent.encode token).toList) (hpart : IsPart part pair) :
    cookiePair part = some ("rwa_session", percent.encode token) := by
  have hsplit : "rwa_session=".toList = "rwa_session".toList ++ ['='] := by decide
  have hvalue : js_text.trim (String.ofList (percent.encode token).toList) = percent.encode token := by
    rw [String.ofList_toList]
    exact trim_of_spaceless fun char hchar => (encode_plain hchar).2
  have hname : js_text.trim (String.ofList "rwa_session".toList) = "rwa_session" := by decide
  rw [hsplit, List.append_assoc, List.singleton_append] at hpair
  obtain rfl | rfl := hpart
  · rw [hpair, cookiePair_of_name (by decide) (by decide), hname, hvalue]
  · rw [hpair, ← List.cons_append, cookiePair_of_name (by decide) (by decide), trim_space, hname, hvalue]

/-- The cookies of a header with a session cookie. -/
private theorem cookiePairs_session {before after : List String} {token : String} {maxAge : Nat} {secureCookies : Bool}
    (hbefore : ∀ pair ∈ before, OtherPair pair) (hafter : ∀ pair ∈ after, OtherPair pair) :
    ∃ first last, cookiePairs (cookieHeader (before ++ keptPair (sessionCookie token maxAge secureCookies) :: after)) =
        first ++ ("rwa_session", percent.encode token) :: last ∧
      (∀ cookie ∈ first, cookie.1 ≠ "rwa_session") ∧ ∀ cookie ∈ last, cookie.1 ≠ "rwa_session" := by
  have hkept := @toList_keptPair token maxAge secureCookies
  have hplain : ∀ other ∈ before ++ keptPair (sessionCookie token maxAge secureCookies) :: after,
      ';' ∉ other.toList := by
    intro other hother
    obtain hother | hother := List.mem_append.mp hother
    · exact (hbefore other hother).1
    · obtain rfl | hother := List.mem_cons.mp hother
      · rw [hkept]
        intro hmem
        obtain hname | hvalue := List.mem_append.mp hmem
        · exact not_mem_name hname
        · exact (encode_plain hvalue).1 rfl
      · exact (hafter other hother).1
  have hnames : ∀ {pairs : List String} {parts : List (List Char)}, (∀ pair ∈ pairs, OtherPair pair) →
      (∀ other ∈ parts, ∃ source ∈ pairs, IsPart other source) →
      ∀ cookie ∈ parts.filterMap cookiePair, cookie.1 ≠ "rwa_session" := by
    intro pairs parts hpairs hparts cookie hcookie
    obtain ⟨part, hpart, hread⟩ := List.mem_filterMap.mp hcookie
    obtain ⟨source, hsource, hsent⟩ := hparts part hpart
    rw [name_of_cookiePair hsent hread]
    exact (hpairs source hsource).2
  obtain ⟨first, part, last, hsplit, hpart, hfirst, hlast⟩ := cookieParts hplain
  refine ⟨first.filterMap cookiePair, last.filterMap cookiePair, ?_, hnames hbefore hfirst, hnames hafter hlast⟩
  rw [cookiePairs, hsplit, List.filterMap_append, List.filterMap_cons_some (cookiePair_session hkept hpart)]

private theorem mapM_decodeCookie {cookies : List (String × String)}
    (h : ∀ cookie ∈ cookies, (percent.decode cookie.2).isSome = true) :
    cookies.mapM decodeCookie = .ok (cookies.map fun cookie => (cookie.1, (percent.decode cookie.2).getD "")) := by
  induction cookies with
  | nil => rfl
  | cons cookie cookies ih =>
    obtain ⟨value, hvalue⟩ := Option.isSome_iff_exists.mp (h cookie List.mem_cons_self)
    have hcookie : decodeCookie cookie = .ok (cookie.1, value) := by
      rw [decodeCookie, hvalue]
      rfl
    rw [List.mapM_cons, hcookie, ih fun other hother => h other (List.mem_cons_of_mem cookie hother), List.map_cons,
      hvalue]
    rfl

/-- A client that keeps the session cookie and sends it among cookies of other names
gets its token back from the production service, and from the sandbox where the other
cookies can be decoded. -/
theorem session_cookie_round_trip {before after : List String} (token : String) (maxAge : Nat) (secureCookies : Bool)
    (hbefore : ∀ pair ∈ before, OtherPair pair) (hafter : ∀ pair ∈ after, OtherPair pair) :
    cookieValue (some (cookieHeader (before ++ keptPair (sessionCookie token maxAge secureCookies) :: after))) =
        .ok (some token) ∧
      ((∀ cookie ∈ cookiePairs (cookieHeader (before ++ keptPair (sessionCookie token maxAge secureCookies) :: after)),
          (percent.decode cookie.2).isSome = true) →
        sandboxCookie (some (cookieHeader (before ++ keptPair (sessionCookie token maxAge secureCookies) :: after))) =
          .ok (some token)) := by
  obtain ⟨first, last, hcookies, hfirst, hlast⟩ :=
    @cookiePairs_session before after token maxAge secureCookies hbefore hafter
  have hnone : ∀ {cookies : List (String × String)}, (∀ cookie ∈ cookies, cookie.1 ≠ "rwa_session") →
      cookies.find? (·.1 = "rwa_session") = none := by
    intro cookies hcookies
    exact List.find?_eq_none.mpr fun cookie hcookie => by simpa using hcookies cookie hcookie
  constructor
  · have hfind : (cookiePairs ((some (cookieHeader
          (before ++ keptPair (sessionCookie token maxAge secureCookies) :: after))).getD "")).find?
        (·.1 = "rwa_session") = some ("rwa_session", percent.encode token) := by
      rw [Option.getD_some, hcookies, List.find?_append, hnone hfirst, Option.none_or]
      exact List.find?_cons_of_pos (decide_eq_true rfl)
    rw [cookieValue, hfind]
    simp only [percent.decode_encode]
    rfl
  · intro hdecodable
    have hlast' : ∀ cookie ∈ (last.map fun cookie => (cookie.1, (percent.decode cookie.2).getD "")).reverse,
        cookie.1 ≠ "rwa_session" := by
      intro cookie hcookie
      obtain ⟨source, hsource, rfl⟩ := List.mem_map.mp (List.mem_reverse.mp hcookie)
      exact hlast source hsource
    have hfound : (first.map (fun cookie => (cookie.1, (percent.decode cookie.2).getD "")) ++ ("rwa_session", token) ::
        last.map (fun cookie => (cookie.1, (percent.decode cookie.2).getD ""))).reverse.find? (·.1 = "rwa_session") =
          some ("rwa_session", token) := by
      rw [List.reverse_append, List.reverse_cons, List.append_assoc, List.find?_append, hnone hlast', Option.none_or,
        List.singleton_append]
      exact List.find?_cons_of_pos (decide_eq_true rfl)
    have hparsed := mapM_decodeCookie hdecodable
    rw [hcookies, List.map_append, List.map_cons, percent.decode_encode, Option.getD_some] at hparsed
    rw [sandboxCookie, parseCookies, Option.getD_some, hcookies, hparsed]
    simp only [bind, Except.bind]
    rw [hfound]
    rfl

/-- A session cookie between two others. -/
theorem session_cookie_round_trip_sample :
    cookieValue (some (cookieHeader ["theme=dark", keptPair (sessionCookie "a b;%é" 900 true), "lang=zh"])) =
      .ok (some "a b;%é") :=
  (@session_cookie_round_trip ["theme=dark"] ["lang=zh"] "a b;%é" 900 true (by decide) (by decide)).1

end rwa.security
