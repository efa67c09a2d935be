import ApiTypings.Proofs.Replies
import ApiTypings.Proofs.UrlPaths
import ApiTypings.Url.Parse
import Std.Data.String.ToNat

/-!
# URLs of requests

A request is asked for at a URL that has the path of the base in front, and as its query the token
and what the request is about. The parts are found in the text of the URL: what stands before the
path holds no slash, neither holds a mark of a query, and the codes in the query hold no mark of a
fragment. So no token adds to a query or changes what else is in it, and requests that differ in
the token or in what they ask for have different URLs.
-/

namespace ApiTypings

namespace Url

open Percent

/-! ## The parts of a text -/

/-- What ends the authority of a URL. -/
def isDelimiter (c : Char) : Bool := c == '/' || c == '?' || c == '#'

/-- A text that may stand before the path of a URL. -/
def Undelimited (s : String) : Prop := ∀ c ∈ s.toList, isDelimiter c = false

instance (s : String) : Decidable (Undelimited s) :=
  List.decidableBAll (isDelimiter · = false) s.toList

/-- The text of a URL, taken apart where the first delimiters of each part stand. -/
structure HasParts (url scheme authority path query : String) : Prop where
  text : url = scheme ++ "://" ++ authority ++ path ++ "?" ++ query
  scheme : Undelimited scheme ∧ ':' ∉ scheme.toList
  authority : Undelimited authority
  rooted : ∃ rest, path = "/" ++ rest
  path : ∀ c ∈ path.toList, c ≠ '?' ∧ c ≠ '#'
  query : '#' ∉ query.toList

/-- A text has one query. -/
theorem HasParts.query_unique {url scheme scheme' authority authority' path path' query
    query' : String} (h : HasParts url scheme authority path query)
    (h' : HasParts url scheme' authority' path' query') : query = query' := by
  have hsplit {scheme authority path query : String}
      (h : HasParts url scheme authority path query) :
      Text.splitFirst (· == '?') url.toList =
        ((scheme ++ "://" ++ authority ++ path).toList, some query.toList) := by
    have hchars : url.toList =
        (scheme ++ "://" ++ authority ++ path).toList ++ '?' :: query.toList := by
      rw [h.text]
      simp
    rw [hchars]
    refine Text.splitFirst_append (by decide) (fun c hc => beq_eq_false_iff_ne.mpr ?_) _
    rintro rfl
    simp only [String.toList_append, List.mem_append] at hc
    rcases hc with ((hc | hc) | hc) | hc
    · exact absurd (h.scheme.1 _ hc) (by decide)
    · exact absurd hc (by decide)
    · exact absurd (h.authority _ hc) (by decide)
    · exact (h.path _ hc).1 rfl
  have hpair := (hsplit h).symm.trans (hsplit h')
  exact String.toList_injective (Option.some.inj (congrArg Prod.snd hpair))

theorem undelimited_append {s t : String} (hs : Undelimited s) (ht : Undelimited t) :
    Undelimited (s ++ t) := by
  unfold Undelimited
  rw [String.toList_append, List.forall_mem_append]
  exact ⟨hs, ht⟩

theorem undelimited_join {sep : String} {xs : List String} (hsep : Undelimited sep)
    (hxs : ∀ x ∈ xs, Undelimited x) : Undelimited (Text.join sep xs) := by
  intro c hc
  rcases Text.mem_join hc with hc | ⟨x, hx, hc⟩
  · exact hsep c hc
  · exact hxs x hx c hc

theorem undelimited_digits (base n : Nat) (hbase : 1 < base) (hle : base ≤ 16) :
    Undelimited (.ofList (Nat.toDigits base n)) := by
  have hdigit (d : Nat) (hd : d < 16) : isDelimiter d.digitChar = false := by
    decide +revert
  unfold Undelimited
  rw [String.toList_ofList]
  induction n using Nat.strongRecOn with
  | ind n ih =>
    rw [Nat.toDigits_eq_if hbase]
    split
    · next hlt => exact List.forall_mem_singleton.mpr (hdigit n (by omega))
    · next hle =>
      rw [List.forall_mem_append]
      have hmod : n % base < base := Nat.mod_lt n (by omega)
      exact ⟨ih _ (Nat.div_lt_self (by omega) hbase),
        List.forall_mem_singleton.mpr (hdigit _ (by omega))⟩

theorem undelimited_number (n : Nat) : Undelimited (toString n) := by
  have h := undelimited_digits 10 n (by decide) (by decide)
  rwa [← Nat.repr_eq_ofList_toDigits] at h

/-! ## Authorities -/

theorem undelimited_ipv4Text (n : Nat) : Undelimited (Host.ipv4Text n) :=
  undelimited_join (by decide) fun x hx => by
    obtain ⟨k, _, rfl⟩ := List.mem_map.mp hx
    exact undelimited_number k

theorem undelimited_ipv6Text (gs : List Nat) : Undelimited (Host.ipv6Text gs) := by
  have hgroups (gs : List Nat) : Undelimited (Text.join ":" (gs.map Host.groupText)) :=
    undelimited_join (by decide) fun x hx => by
      obtain ⟨g, _, rfl⟩ := List.mem_map.mp hx
      exact undelimited_digits 16 g (by decide) (by decide)
  unfold Host.ipv6Text
  dsimp only
  split
  · exact hgroups gs
  · exact undelimited_append (undelimited_append (hgroups _) (by decide)) (hgroups _)

theorem undelimited_ofDomain {cs : List Char} {host : String} (h : Host.ofDomain cs = .ok host) :
    Undelimited host := by
  have hallowed (c : Char) (hdelimiter : isDelimiter c = true) :
      Host.isForbiddenInDomain c = true := by
    simp only [isDelimiter, Bool.or_eq_true, beq_iff_eq] at hdelimiter
    rcases hdelimiter with (rfl | rfl) | rfl <;> decide
  unfold Host.ofDomain at h
  dsimp only at h
  split at h
  · cases h
  · next domain _ =>
    split_ifs at h with hforbidden
    · split at h
      · cases h
        exact undelimited_ipv4Text _
      · cases h
    · cases h
      intro c hc
      rw [String.toList_ofList] at hc
      exact Bool.eq_false_iff.mpr fun hdelimiter =>
        hforbidden (List.any_eq_true.mpr ⟨c, hc, hallowed c hdelimiter⟩)

theorem undelimited_host {cs : List Char} {host : String} (h : Host.parse true cs = .ok host) :
    Undelimited host := by
  unfold Host.parse at h
  split at h
  · split at h
    · split at h
      · cases h
        exact undelimited_append (undelimited_append (by decide) (undelimited_ipv6Text _))
          (by decide)
      · cases h
    · cases h
  · rw [if_pos rfl] at h
    exact undelimited_ofDomain h

theorem keepsCodes_inUserInfo : KeepsCodes inUserInfo :=
  keepsCodes_of_ascii (by decide) (by decide)

theorem undelimited_userInfo (cs : List Char) :
    Undelimited (.ofList (encode inUserInfo cs)) := by
  intro c hc
  rw [String.toList_ofList] at hc
  have hkept := keepsCodes_inUserInfo.of_mem_encode hc
  rw [Bool.eq_false_iff]
  intro hdelimiter
  simp only [isDelimiter, Bool.or_eq_true, beq_iff_eq] at hdelimiter
  rcases hdelimiter with (rfl | rfl) | rfl <;> exact absurd hkept (by decide)

theorem undelimited_authority {a : Authority} (huser : Undelimited a.user)
    (hpassword : Undelimited a.password) (hhost : Undelimited a.host) : Undelimited a.text := by
  unfold Authority.text
  refine undelimited_append (undelimited_append ?_ hhost) ?_
  · split
    · decide
    · refine undelimited_append (undelimited_append huser ?_) (by decide)
      split
      · decide
      · exact undelimited_append (by decide) hpassword
  · split
    · exact undelimited_append (by decide) (undelimited_number _)
    · decide

theorem undelimited_parseAuthority {scheme : String} (hspecial : isSpecial scheme = true)
    {cs start : List Char} {a : Authority} (h : parseAuthority scheme cs = .ok (a, start)) :
    Undelimited a.text := by
  unfold parseAuthority at h
  rw [hspecial] at h
  dsimp only at h
  split_ifs at h
  split at h
  · cases h
  · next host hhost =>
    split at h
    · cases h
    · cases h
      exact undelimited_authority (undelimited_userInfo _) (undelimited_userInfo _)
        (undelimited_host hhost)

theorem text_of_authority {u : Url} {a : Authority} {q : String} (ha : u.authority = some a)
    (hquery : u.query = some q) (hfragment : u.fragment = none) :
    u.text = u.scheme ++ "://" ++ a.text ++ u.path.text ++ "?" ++ q := by
  have hbefore : u.beforePath = "//" ++ a.text := by
    rw [beforePath, ha]
  have hcolon : "://" = ":" ++ "//" := by decide
  rw [text, hbefore, hquery, hfragment, hcolon]
  simp only [marked, String.append_assoc, String.append_empty]

/-! ## Web addresses -/

/-- The scheme of a web address. -/
def IsWeb (scheme : String) : Prop := scheme = "http" ∨ scheme = "https"

theorem IsWeb.special {scheme : String} (h : IsWeb scheme) :
    isSpecial scheme = true ∧ isFile scheme = false := by
  rcases h with rfl | rfl <;> decide

/-- What the authority and the path of a web address are like. -/
structure WebParts (scheme : String) (authority : Option Authority) (path : UrlPath) (a : Authority)
    (ss : List String) : Prop where
  authority : authority = some a
  path : path = .segments ss
  undelimited : Undelimited a.text
  segments : ∀ s ∈ ss, IsSegment scheme s

theorem parseHierarchy_web {scheme : String} (hweb : IsWeb scheme) {ends : Bool} {cs : List Char}
    {authority : Option Authority} {path : UrlPath}
    (h : parseHierarchy scheme ends cs = .ok (authority, path)) :
    ∃ a ss, WebParts scheme authority path a ss := by
  obtain ⟨hspecial, hfile⟩ := hweb.special
  unfold parseHierarchy at h
  rw [hfile, hspecial] at h
  simp only [Bool.false_eq_true, if_false, if_true] at h
  split_ifs at h
  unfold Except.map at h
  split at h
  · cases h
  · next hparse =>
    cases h
    exact ⟨_, _, rfl, rfl, undelimited_parseAuthority hspecial hparse,
      Trail.isSegment_ofText hfile _⟩

theorem parse_web {text : String} {u : Url} (h : parse text = .ok u) (hweb : IsWeb u.scheme) :
    ∃ a ss, WebParts u.scheme u.authority u.path a ss := by
  unfold parse at h
  split at h
  · cases h
  · next scheme rest _ =>
    dsimp only at h
    split at h
    · cases h
    · next authority path hhierarchy =>
      cases h
      exact parseHierarchy_web hweb hhierarchy

end Url

open Url Url.Percent

/-! ## Requests -/

/-- The path of a request, with slashes between its segments. -/
def Request.endpoint (r : Request) : String := Text.join "/" r.path

theorem Request.path_ne_nil (r : Request) : r.path ≠ [] := by
  cases r <;> exact List.cons_ne_nil _ _

theorem Request.path_kept (r : Request) : ∀ s ∈ r.path, ∀ c ∈ s.toList, inPath c = true := by
  have hall : r.path.all (·.toList.all inPath) = true := by
    cases r <;> rfl
  exact fun s hs => List.all_eq_true.mp (List.all_eq_true.mp hall s hs)

/-- A request is told by the names and values behind the token. -/
theorem Request.eq_of_pairs {r r' : Request} (h : r.pairs = r'.pairs) : r = r' := by
  have hnumber {key : String} {m n : Nat} (h : [(key, toString m)] = [(key, toString n)]) : m = n :=
    Nat.repr_injective (Prod.mk.inj (List.cons.inj h).1).2
  cases r <;> cases r' <;> simp only [pairs, reduceCtorEq] at h
  · rfl
  · rw [hnumber h]
  · simp at h
  · simp at h
  · rw [hnumber h]

/-- The URL with which a client of a base makes a request: the endpoint lies below the path of the
base, and the query holds the token and what the request is about. -/
def Carries (base : Url) (token : String) (r : Request) (url : String) : Prop :=
  ∃ authority query, base.authority = some authority ∧
    HasParts url base.scheme authority.text (slashed base.path.text ++ r.endpoint) query ∧
    Form.pairs? query = some (("token", token) :: r.pairs)

/-- The query alone tells the token and the request. -/
theorem Carries.unique {base : Url} {token token' : String} {r r' : Request} {url : String}
    (h : Carries base token r url) (h' : Carries base token' r' url) : token = token' ∧ r = r' := by
  obtain ⟨_, query, _, hparts, hpairs⟩ := h
  obtain ⟨_, query', _, hparts', hpairs'⟩ := h'
  obtain rfl := hparts.query_unique hparts'
  have hsame := Option.some.inj (hpairs.symm.trans hpairs')
  obtain ⟨htoken, hrest⟩ := List.cons.inj hsame
  exact ⟨(Prod.mk.inj htoken).2, Request.eq_of_pairs hrest⟩

namespace Client

/-- The exchanges of the call that makes a request. -/
def exchanges (c : Client) (net : Transport) : Request → List Exchange
  | .project => (c.projectId net).exchanges
  | .menu project => (c.menu net project).exchanges
  | .detail id => (c.detail net id).exchanges

theorem exchanges_of_asks {c : Client} (net : Transport) {r : Request} {url : String}
    (h : c.Asks r url) : c.exchanges net r = [⟨url, net url⟩] := by
  cases r with
  | project => exact ((projectId_answers c net).asked url h).1
  | menu project => exact ((menu_answers c net project).asked url h).1
  | detail id => exact ((detail_answers c net id).asked url h).1

/-- The characters of a path that was read, and of the endpoints below it, are no marks. -/
theorem mark_not_mem_path {scheme : String} {ss : List String}
    (hss : ∀ s ∈ ss, IsSegment scheme s) (r : Request) :
    ∀ c ∈ (UrlPath.segments (directory ss ++ r.path)).text.toList, c ≠ '?' ∧ c ≠ '#' := by
  have hdirectory : directory ss ⊆ ss := by
    unfold directory
    split
    · exact (List.dropLast_sublist ss).subset
    · exact List.Subset.refl ss
  intro c hc
  rcases mem_text_segments hc with rfl | ⟨s, hs, hc⟩
  · decide
  · have hkept : inPath c = true := by
      rcases List.mem_append.mp hs with hs | hs
      · exact (hss s (hdirectory hs)).kept c hc
      · exact r.path_kept s hs c hc
    constructor <;> rintro rfl <;> exact absurd hkept (by decide)

/-- The path of a request is resolved below that of the base, which is read again. -/
theorem asks_carries {base : Url} (hweb : IsWeb base.scheme) {a : Authority} {ss : List String}
    (hparts : WebParts base.scheme base.authority base.path a ss) (token : String) (r : Request) :
    ∃ url, (atBase base token).Asks r url ∧ Carries base token r url := by
  have hbase : (atBase base token).base = { base with path := .segments (directory ss ++ [""]) } :=
    withSlash_eq hparts.path hweb.special.2 hparts.segments
  let place : Url :=
    { base with path := .segments (directory ss ++ r.path), query := none, fragment := none }
  have hplace : (atBase base token).base.below r.path = .ok place := by
    rw [hbase, below]
    dsimp only
    rw [List.dropLast_concat]
  have haskable : isAskable place = true := by
    rcases hweb with hscheme | hscheme <;> simp [isAskable, place, hscheme]
  have hpath : place.path.text = slashed base.path.text ++ r.endpoint := by
    rw [hparts.path]
    exact text_below hparts.segments r.path_ne_nil
  refine ⟨_, ⟨place, hplace, haskable, rfl⟩, a, Form.query (("token", token) :: r.pairs),
    hparts.authority, ⟨?_, ?_, hparts.undelimited, ?_, ?_, ?_⟩, Form.pairs?_query _⟩
  · rw [← hpath]
    exact text_of_authority hparts.authority rfl rfl
  · rcases hweb with hscheme | hscheme <;> rw [hscheme] <;> decide
  · rw [← hpath]
    exact ⟨_, text_eq_join (by simp [r.path_ne_nil])⟩
  · rw [← hpath]
    exact mark_not_mem_path hparts.segments r
  · exact Form.not_mem_query (by decide) (by decide) (by decide) _

/-- Every request is made at one URL, which carries the token and what is asked for and nothing
else. So URLs tell tokens and requests apart. -/
theorem requests_carry_their_parameters {text : String} {base : Url}
    (hparse : Url.parse text = .ok base) (hweb : IsWeb base.scheme) :
    (∀ token net r, ∃ url, (atBase base token).exchanges net r = [⟨url, net url⟩] ∧
      Carries base token r url) ∧
      ∀ net token token' r r', (atBase base token).exchanges net r =
        (atBase base token').exchanges net r' → token = token' ∧ r = r' := by
  have hasks (token : String) (net : Transport) (r : Request) :
      ∃ url, (atBase base token).exchanges net r = [⟨url, net url⟩] ∧
        Carries base token r url := by
    obtain ⟨a, ss, hparts⟩ := parse_web hparse hweb
    obtain ⟨url, hasks, hcarries⟩ := asks_carries hweb hparts token r
    exact ⟨url, exchanges_of_asks net hasks, hcarries⟩
  refine ⟨hasks, fun net token token' r r' hsame => ?_⟩
  obtain ⟨url, hexchanges, hcarries⟩ := hasks token net r
  obtain ⟨url', hexchanges', hcarries'⟩ := hasks token' net r'
  rw [hexchanges, hexchanges'] at hsame
  obtain rfl : url = url' := congrArg Exchange.url (List.cons.inj hsame).1
  exact hcarries.unique hcarries'

/-- A base with a query and a fragment of its own, and a port. -/
def proxyBase : Url :=
  ⟨"http", some ⟨"", "", "host", some 8080⟩, .segments ["my%20proxy"], some "x=1", some "f"⟩

/-- Neither marks nor a character of two bytes in the token change what else is asked for. -/
theorem requests_carry_their_parameters_proxy :
    let token := "a&id=8+b%26#?é "
    let url := "http://host:8080/my%20proxy/api/interface/get?" ++
      "token=a%26id%3D8%2Bb%2526%23%3F%C3%A9+&id=7"
    Url.parse "http://host:8080/my proxy?x=1#f" = .ok proxyBase ∧ IsWeb proxyBase.scheme ∧
      (atBase proxyBase token).exchanges Transport.offline (.detail 7) = [⟨url, .none⟩] ∧
      Carries proxyBase token (.detail 7) url ∧
      (atBase proxyBase token).exchanges Transport.offline (.detail 7) ≠
        (atBase proxyBase "a").exchanges Transport.offline (.detail 7) := by
  intro token url
  have hparse : Url.parse "http://host:8080/my proxy?x=1#f" = .ok proxyBase := rfl
  have hweb : IsWeb proxyBase.scheme := .inl rfl
  obtain ⟨hcarries, hdistinct⟩ := requests_carry_their_parameters hparse hweb
  have hexchanges : (atBase proxyBase token).exchanges Transport.offline (.detail 7) =
      [⟨url, .none⟩] := by decide +kernel
  obtain ⟨url', hexchanges', hurl⟩ := hcarries token Transport.offline (.detail 7)
  rw [hexchanges] at hexchanges'
  obtain rfl : url = url' := congrArg Exchange.url (List.cons.inj hexchanges').1
  exact ⟨hparse, hweb, hexchanges, hurl, fun hsame =>
    absurd (hdistinct _ _ _ _ _ hsame).1 (by decide)⟩

end Client

end ApiTypings
