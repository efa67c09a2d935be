import ApiTypings.Category
import ApiTypings.FetchError
import ApiTypings.Payload.Detail
import ApiTypings.Payload.Envelope
import ApiTypings.Url.Basic

/-!
# The client

A client asks a server for a project, for its menu and for details of interfaces.
Each request is a URL below the base of the client, with the token as the first
parameter of its query. An answer is judged by its status first, then as an
envelope, then by its error code, and its data is decoded last.
-/

namespace ApiTypings

/-- How an exchange with a server ends. The body is a text, so an answer that is not UTF-8
is outside of the model. -/
inductive Reply where
  | none
  | answer (status : Nat) (body : String)
  deriving DecidableEq, Repr

/-- The server as a request finds it: the reply to the URL that is asked for. -/
abbrev Transport := String → Reply

/-- The server over time. Requests are counted, so a server need not answer a second
request for a URL like the first. -/
structure Server where
  request : Nat → Transport

/-- A server that does not change. -/
instance : Coe Transport Server := ⟨fun net => ⟨fun _ => net⟩⟩

structure Exchange where
  url : String
  reply : Reply
  deriving DecidableEq, Repr

def Transport.offline : Transport := fun _ => .none

structure Client where
  base : Url
  token : String

/-- What a call reports while it is under way. -/
inductive ClientEvent where
  /-- A request is sent; only the path is named, since the query holds the token. -/
  | sending (path : String)
  | project (id : Nat)
  | listing (project categories interfaces : Nat)
  deriving DecidableEq, Repr

/-- A call: the exchanges with the server, the events, and the result. -/
structure Call (α : Type) where
  exchanges : List Exchange
  events : List ClientEvent
  result : Except FetchError α

namespace Call

def fail {α : Type} (e : FetchError) : Call α := ⟨[], [], .error e⟩

/-- Goes on with the result of a call. -/
def andThen {α β : Type} (c : Call α) (next : α → Call β) : Call β :=
  match c.result with
  | .error e => ⟨c.exchanges, c.events, .error e⟩
  | .ok a =>
    let d := next a
    ⟨c.exchanges ++ d.exchanges, c.events ++ d.events, d.result⟩

def report {α : Type} (c : Call α) (event : α → ClientEvent) : Call α :=
  match c.result with
  | .error _ => c
  | .ok a => { c with events := c.events ++ [event a] }

def mapResult {α β : Type} (c : Call α) (f : α → Except FetchError β) : Call β :=
  ⟨c.exchanges, c.events, c.result.bind f⟩

end Call

namespace Client

/-- A client whose requests lie below the path of a URL. -/
def atBase (base : Url) (token : String) : Client := ⟨base.withSlash, token⟩

def endpoint (c : Client) (path : List String) (pairs : List (String × String)) :
    Except UrlError Url :=
  (c.base.below path).map (·.withPairs (("token", c.token) :: pairs))

/-- The data of a reply. An error code in the envelope comes before its data. -/
def judge {α : Type} (decode : Json → Option α) : Reply → Except FetchError (Option α)
  | .none => .error (.http none)
  | .answer status body =>
    if 400 ≤ status && status < 600 then .error (.http (some status))
    else
      match Payload.Envelope.read? body with
      | none => .error (.http none)
      | some e =>
        if e.code ≠ 0 then .error (.api e.code e.errorText)
        else
          match e.data with
          | none => .ok none
          | some v =>
            match decode v with
            | some a => .ok (some a)
            | none => .error .decode

/-- Only web addresses can be asked. -/
def isAskable (u : Url) : Bool := u.scheme == "http" || u.scheme == "https"

def get {α : Type} (net : Transport) (decode : Json → Option α) (u : Url) : Call (Option α) :=
  let events := [.sending u.path.text]
  if isAskable u then
    let reply := net u.text
    ⟨[⟨u.text, reply⟩], events, judge decode reply⟩
  else ⟨[], events, judge decode .none⟩

def ask {α : Type} (c : Client) (net : Transport) (path : List String)
    (pairs : List (String × String)) (decode : Json → Option α) : Call (Option α) :=
  match c.endpoint path pairs with
  | .error e => .fail (.invalidUrl e)
  | .ok u => get net decode u

/-- Data that has to be there. -/
def present {α : Type} (what : String) : Option α → Except FetchError α
  | some a => .ok a
  | none => .error (.missing what)

/-- The project that the token belongs to. -/
def projectId (c : Client) (net : Transport) : Call Nat :=
  ((c.ask net ["api", "project", "get"] [] Payload.projectId?).mapResult
    (present "project info")).report .project

def menu (c : Client) (net : Transport) (project : Nat) : Call (List MenuEntry) :=
  (c.ask net ["api", "interface", "list_menu"] [("projectId", toString project)]
    Payload.menu?).mapResult fun menu => .ok (menu.getD [])

def countInterfaces (categories : List Category) : Nat :=
  (categories.map (·.interfaces.length)).foldr (· + ·) 0

/-- The listing of the project, which takes the first two requests. -/
def categories (c : Client) (server : Server) : Call (List Category) :=
  (c.projectId (server.request 0)).andThen fun project =>
    ((c.menu (server.request 1) project).mapResult fun menu => .ok (Category.index menu)).report
      fun cs => .listing project cs.length (countInterfaces cs)

def detail (c : Client) (net : Transport) (id : Nat) : Call Detail :=
  (c.ask net ["api", "interface", "get"] [("id", toString id)] (Payload.detail? id)).mapResult
    (present "interface detail")

end Client

end ApiTypings
