import ApiTypings.Client
import Mathlib.Data.List.Forall2

/-!
# Calls of clients that differ in their tokens

A client makes requests of three kinds, and the token of the client enters each of them in one
place, the query of its URL. What a client makes of the replies does not depend on the token, so
two clients with the same base whose servers reply alike to the same requests go through the same
calls: they report the same events and come to the same results, and their exchanges are about the
same requests and have the same replies.
-/

namespace ApiTypings

/-- What a client asks for. -/
inductive Request where
  | project
  | menu (id : Nat)
  | detail (id : Nat)

namespace Request

def path : Request → List String
  | .project => ["api", "project", "get"]
  | .menu _ => ["api", "interface", "list_menu"]
  | .detail _ => ["api", "interface", "get"]

/-- The names and values in the query, behind the token. -/
def pairs : Request → List (String × String)
  | .project => []
  | .menu id => [("projectId", toString id)]
  | .detail id => [("id", toString id)]

/-- How a request is made of the URL that its path leads to. -/
def url (r : Request) (place : Url) (token : String) : Url :=
  place.withPairs (("token", token) :: r.pairs)

end Request

/-- The URLs with which two clients of one base ask for the same. They differ in the token, the
first value of the query. -/
def Client.Corresponding (c c' : Client) (url url' : String) : Prop :=
  ∃ (r : Request) (place : Url), c.base.below r.path = .ok place ∧
    url = (r.url place c.token).text ∧ url' = (r.url place c'.token).text

/-- Up to the query such URLs are the same. -/
theorem Client.Corresponding.beforeQuery {c c' : Client} {url url' : String}
    (h : c.Corresponding c' url url') :
    url.toList.takeWhile (· != '?') = url'.toList.takeWhile (· != '?') := by
  obtain ⟨r, place, _, rfl, rfl⟩ := h
  let before := place.scheme ++ ":" ++ place.beforePath ++ place.path.text
  have hbefore (token : String) : (r.url place token).text.toList.takeWhile (· != '?') =
      before.toList.takeWhile (· != '?') := by
    have htext : (r.url place token).text =
        before ++ ("?" ++ Url.Form.query (("token", token) :: r.pairs)) ++
          Url.marked "#" place.fragment := rfl
    rw [htext, String.toList_append, String.toList_append, List.append_assoc, List.takeWhile_append]
    split
    · next hall =>
      rw [(List.takeWhile_prefix _).eq_of_length hall]
      simp
    · rfl
  rw [hbefore, hbefore]

/-- Exchanges that differ in their URLs alone, which are related. -/
def Exchange.Alike (R : String → String → Prop) (x x' : Exchange) : Prop :=
  R x.url x'.url ∧ x.reply = x'.reply

/-- Calls that differ in the URLs of their exchanges alone, which are related. -/
structure Call.Alike {α : Type} (R : String → String → Prop) (a b : Call α) : Prop where
  exchanges : List.Forall₂ (Exchange.Alike R) a.exchanges b.exchanges
  events : a.events = b.events
  result : a.result = b.result

namespace Call.Alike

variable {α β : Type} {R : String → String → Prop} {a b : Call α}

theorem mono {S : String → String → Prop} (h : Alike R a b)
    (hurl : ∀ url url', R url url' → S url url') : Alike S a b where
  exchanges := h.exchanges.imp fun _ _ hx => ⟨hurl _ _ hx.1, hx.2⟩
  events := h.events
  result := h.result

theorem mapResult (h : Alike R a b) (f : α → Except FetchError β) :
    Alike R (a.mapResult f) (b.mapResult f) where
  exchanges := h.exchanges
  events := h.events
  result := congrArg (·.bind f) h.result

theorem report (h : Alike R a b) (event : α → ClientEvent) :
    Alike R (a.report event) (b.report event) := by
  unfold Call.report
  rw [← h.result]
  cases a.result with
  | error e => exact h
  | ok v => exact ⟨h.exchanges, congrArg (· ++ [event v]) h.events, rfl⟩

theorem andThen (h : Alike R a b) {next next' : α → Call β}
    (hnext : ∀ v, Alike R (next v) (next' v)) : Alike R (a.andThen next) (b.andThen next') := by
  unfold Call.andThen
  rw [← h.result]
  cases a.result with
  | error e => exact ⟨h.exchanges, h.events, rfl⟩
  | ok v =>
    have hv := hnext v
    refine ⟨List.rel_append h.exchanges hv.exchanges, ?_, hv.result⟩
    simp only [h.events, hv.events]

end Call.Alike

namespace Client

variable {c c' : Client} {net net' : Transport} (hbase : c.base = c'.base)
  (hreply : ∀ url url', c.Corresponding c' url url' → net url = net' url')
include hbase hreply

theorem ask_alike {α : Type} (r : Request) (decode : Json → Option α) :
    Call.Alike (c.Corresponding c') (c.ask net r.path r.pairs decode)
      (c'.ask net' r.path r.pairs decode) := by
  unfold Client.ask Client.endpoint
  rw [← hbase]
  cases hbelow : c.base.below r.path with
  | error e => exact ⟨.nil, rfl, rfl⟩
  | ok place =>
    have hurls : c.Corresponding c' (r.url place c.token).text (r.url place c'.token).text :=
      ⟨r, place, hbelow, rfl, rfl⟩
    have hsame := hreply _ _ hurls
    -- Whether a URL can be asked for is a matter of its scheme, which the query leaves alone.
    have haskable (token : String) : isAskable (r.url place token) = isAskable place := rfl
    change Call.Alike _ (get net decode (r.url place c.token))
      (get net' decode (r.url place c'.token))
    unfold Client.get
    rw [haskable, haskable]
    split
    · exact ⟨.cons ⟨hurls, hsame⟩ .nil, rfl, congrArg (judge decode) hsame⟩
    · exact ⟨.nil, rfl, rfl⟩

theorem projectId_alike : Call.Alike (c.Corresponding c') (c.projectId net) (c'.projectId net') :=
  ((ask_alike hbase hreply .project Payload.projectId?).mapResult _).report _

theorem menu_alike (project : Nat) :
    Call.Alike (c.Corresponding c') (c.menu net project) (c'.menu net' project) :=
  (ask_alike hbase hreply (.menu project) Payload.menu?).mapResult _

theorem detail_alike (id : Nat) :
    Call.Alike (c.Corresponding c') (c.detail net id) (c'.detail net' id) :=
  (ask_alike hbase hreply (.detail id) (Payload.detail? id)).mapResult _

omit hreply in
theorem categories_alike {server server' : Server}
    (hserver : ∀ n url url', c.Corresponding c' url url' →
      server.request n url = server'.request n url') :
    Call.Alike (c.Corresponding c') (c.categories server) (c'.categories server') :=
  (projectId_alike hbase (hserver 0)).andThen fun project =>
    ((menu_alike hbase (hserver 1) project).mapResult _).report _

end Client

end ApiTypings
