import ApiTypings.Proofs.AlikeCalls
import ApiTypings.Proofs.JsonWords
import ApiTypings.Proofs.PayloadShapes

/-!
# What a client makes of a reply

A reply is judged by its status, then as an envelope, then by the code in the envelope, and last
by the shape of its data, for each of the three kinds of requests. What an envelope is, is said
here by itself: which values its fields may have, that an object has none of them twice, and that
under other keys an object may hold whatever the grammar allows. A reply that carries an error code
comes out the same whatever stands beside the code and the message, even if the data could not be
decoded.

The categories of a project take two requests, the second one with the id that the first one gave,
and only if it gave one.
-/

namespace ApiTypings

namespace Payload

/-! ## Envelopes -/

/-- The members of an object under a key are none or a single one, with the value. -/
def HasOnly (key : String) (members : List (String × Json)) (value : Option Json) : Prop :=
  members.filter (·.1 == key) = (value.map (key, ·)).toList

theorem single?_eq_some {key : String} {members : List (String × Json)} {value : Option Json} :
    single? key members = some value ↔ HasOnly key members value := by
  have hkeys : ∀ m ∈ members.filter (·.1 == key), m.1 = key := fun m hm =>
    beq_iff_eq.mp (List.mem_filter.mp hm).2
  unfold single? occurrences HasOnly
  cases hfilter : members.filter (·.1 == key) with
  | nil => cases value <;> simp
  | cons m rest =>
    obtain ⟨k, v⟩ := m
    obtain rfl : k = key := hkeys (k, v) (hfilter ▸ List.mem_cons_self)
    cases rest with
    | nil => cases value <;> simp
    | cons m' rest => cases value <;> simp

/-- An error code is an integer of 64 bits; none is the code of success. -/
inductive CodeField : Option Json → Int → Prop
  | missing : CodeField none 0
  | given {n : Int} : -(Int.pow 2 63) ≤ n → n < Int.pow 2 63 → CodeField (some (.int n)) n

/-- Data may be any value. Null counts as none. -/
inductive DataField : Option Json → Option Json → Prop
  | missing : DataField none none
  | null : DataField (some .null) none
  | given {v : Json} : v ≠ .null → DataField (some v) (some v.unique)

theorem code?_eq_some {v : Json} {n : Int} : code? v = some n ↔ CodeField (some v) n := by
  constructor
  · intro h
    unfold code? at h
    split at h
    · split_ifs at h with hbounds
      simp only [Bool.and_eq_true, decide_eq_true_eq] at hbounds
      cases h
      exact .given hbounds.1 hbounds.2
    · cases h
  · rintro ⟨⟩
    next hlow hhigh =>
      rw [code?, if_pos (by rw [decide_eq_true hlow, decide_eq_true hhigh, Bool.and_self])]

theorem dataOf_eq_iff {v d : Option Json} : dataOf v = d ↔ DataField v d := by
  constructor
  · rintro rfl
    unfold dataOf
    split
    · exact .missing
    · exact .null
    · next v hv => exact .given hv
  · rintro ⟨⟩
    · rfl
    · rfl
    · next v hv => cases v <;> first | rfl | exact (hv rfl).elim

namespace Envelope

/-- The values that are envelopes. In an object the order does not matter and other keys do not
count; an array has the three fields and nothing else. -/
inductive Form : Json → Envelope → Prop
  | object {members : List (String × Json)} {code message data : Option Json} {c : Int}
      {m : Option String} {d : Option Json} :
      HasOnly "errcode" members code → HasOnly "errmsg" members message →
        HasOnly "data" members data → CodeField code c → MessageField message m →
        DataField data d → Form (.object members) ⟨c, m, d⟩
  | array {code message data : Json} {c : Int} {m : Option String} {d : Option Json} :
      CodeField (some code) c → MessageField (some message) m → DataField (some data) d →
        Form (.array [code, message, data]) ⟨c, m, d⟩

theorem Form.of_ofJson? {v : Json} {e : Envelope} (h : ofJson? v = some e) : Form v e := by
  unfold ofJson? at h
  split at h
  · next members =>
    simp only [Option.bind_eq_bind, Option.bind_eq_some_iff, single?_eq_some] at h
    obtain ⟨code, hcode, message, hmessage, data, hdata, h⟩ := h
    cases code with
    | none =>
      simp only [Option.bind_some, Option.bind_eq_some_iff, text?_eq_some] at h
      obtain ⟨m, hm, he⟩ := h
      cases he
      exact .object hcode hmessage hdata .missing hm (dataOf_eq_iff.mp rfl)
    | some v =>
      simp only [Option.bind_eq_some_iff, code?_eq_some, text?_eq_some] at h
      obtain ⟨c, hc, m, hm, he⟩ := h
      cases he
      exact .object hcode hmessage hdata hc hm (dataOf_eq_iff.mp rfl)
  · next code message data =>
    simp only [Option.bind_eq_bind, Option.bind_eq_some_iff, code?_eq_some, text?_eq_some] at h
    obtain ⟨c, hc, m, hm, he⟩ := h
    cases he
    exact .array hc hm (dataOf_eq_iff.mp rfl)
  · cases h

theorem ofJson?_eq_some {v : Json} {e : Envelope} : ofJson? v = some e ↔ Form v e := by
  refine ⟨.of_ofJson?, ?_⟩
  intro h
  cases h with
  | object hcode hmessage hdata hc hm hd =>
    simp only [ofJson?, single?_eq_some.mpr hcode, single?_eq_some.mpr hmessage,
      single?_eq_some.mpr hdata, text?_eq_some.mpr hm, dataOf_eq_iff.mpr hd, Option.bind_eq_bind,
      Option.bind_some]
    cases hc with
    | missing => rfl
    | given hlow hhigh => simp [code?_eq_some.mpr (.given hlow hhigh)]
  | array hc hm hd =>
    simp [ofJson?, code?_eq_some.mpr hc, text?_eq_some.mpr hm, dataOf_eq_iff.mpr hd]

/-- The texts that are envelopes, by what they show under the keys of one. -/
def Reads (body : String) (e : Envelope) : Prop := ∃ v, Json.Shown keys body v ∧ Form v e

theorem read?_eq_some {body : String} {e : Envelope} : read? body = some e ↔ Reads body e := by
  simp only [read?, Option.bind_eq_some_iff, Json.readOnly_eq_some, ofJson?_eq_some, Reads]

theorem Reads.unique {body : String} {e e' : Envelope} (h : Reads body e) (h' : Reads body e') :
    e = e' :=
  Option.some.inj ((read?_eq_some.mpr h).symm.trans (read?_eq_some.mpr h'))

/-- The message of an error; an empty one says nothing. -/
def errorMessage (e : Envelope) : String := (e.message.filter (· ≠ "")).getD "unknown error"

theorem errorText_eq (e : Envelope) : e.errorText = e.errorMessage := by
  unfold errorText errorMessage
  cases e.message with
  | none => rfl
  | some message => by_cases hempty : message = "" <;> simp [hempty, Option.filter]

/-! ## Bodies that carry the same error -/

def isErrorKey (key : String) : Bool := key == "errcode" || key == "errmsg"

/-- Bodies that are objects and say the same of the error. They may differ in the data, in the
order of the keys, and in all other keys with whatever these hold. -/
def SameError (body body' : String) : Prop :=
  ∃ members members', Json.Shown keys body (.object members) ∧
    Json.Shown keys body' (.object members') ∧
    (members.filter (isErrorKey ·.1)).Perm (members'.filter (isErrorKey ·.1))

end Envelope

open Envelope

/-- What is under an error key does not depend on the other keys, nor on the order. -/
theorem HasOnly.perm {key : String} {members members' : List (String × Json)}
    {value : Option Json} (hkey : isErrorKey key = true)
    (hperm : (members.filter (isErrorKey ·.1)).Perm (members'.filter (isErrorKey ·.1)))
    (h : HasOnly key members value) : HasOnly key members' value := by
  have hfilter (ms : List (String × Json)) :
      (ms.filter (isErrorKey ·.1)).filter (·.1 == key) = ms.filter (·.1 == key) := by
    rw [List.filter_filter]
    apply List.filter_congr
    rintro ⟨k, v⟩ _
    by_cases hk : k = key
    · simp [hk, hkey]
    · simp [hk]
  have hkept := hperm.filter (·.1 == key)
  rw [hfilter, hfilter, h] at hkept
  unfold HasOnly
  cases value with
  | none => exact hkept.nil_eq.symm
  | some v => exact List.perm_singleton.mp hkept.symm

theorem HasOnly.unique {key : String} {members : List (String × Json)} {value value' : Option Json}
    (h : HasOnly key members value) (h' : HasOnly key members value') : value = value' :=
  Option.some.inj ((single?_eq_some.mpr h).symm.trans (single?_eq_some.mpr h'))

theorem CodeField.unique {v : Option Json} {n n' : Int} (h : CodeField v n) (h' : CodeField v n') :
    n = n' := by
  cases h <;> cases h' <;> rfl

theorem MessageField.unique {v : Option Json} {s s' : Option String} (h : MessageField v s)
    (h' : MessageField v s') : s = s' := by
  cases h <;> cases h' <;> rfl

theorem Envelope.SameError.fields {body body' : String} (h : SameError body body')
    {e e' : Envelope} (he : Reads body e) (he' : Reads body' e') :
    e'.code = e.code ∧ e'.message = e.message := by
  obtain ⟨members, members', hshown, hshown', hperm⟩ := h
  obtain ⟨v, hv, hform⟩ := he
  obtain ⟨v', hv', hform'⟩ := he'
  obtain rfl := hshown.unique hv
  obtain rfl := hshown'.unique hv'
  cases hform with
  | object hcode hmessage _ hc hm _ =>
    cases hform' with
    | object hcode' hmessage' _ hc' hm' _ =>
      obtain rfl := hcode'.unique (hcode.perm rfl hperm)
      obtain rfl := hmessage'.unique (hmessage.perm rfl hperm)
      exact ⟨hc'.unique hc, hm'.unique hm⟩

end Payload

open Payload Payload.Envelope

namespace Client

/-! ## Judging -/

/-- The statuses with which a server says that a request failed. -/
def IsRefusal (status : Nat) : Prop := 400 ≤ status ∧ status < 600

/-- What becomes of a reply. The status counts first, then whether the body is an envelope, then
the code in it, and the shape of the data last; `absent` is what no data amount to. -/
inductive Judged {α : Type} (shape : Json → α → Prop) (absent : Except FetchError α) :
    Reply → Except FetchError α → Prop
  | unreachable : Judged shape absent .none (.error (.http none))
  | refused {status : Nat} {body : String} : IsRefusal status →
      Judged shape absent (.answer status body) (.error (.http (some status)))
  | noEnvelope {status : Nat} {body : String} : ¬ IsRefusal status → (∀ e, ¬ Reads body e) →
      Judged shape absent (.answer status body) (.error (.http none))
  | failed {status : Nat} {body : String} {e : Envelope} : ¬ IsRefusal status → Reads body e →
      e.code ≠ 0 →
      Judged shape absent (.answer status body) (.error (.api e.code e.errorMessage))
  | missing {status : Nat} {body : String} {e : Envelope} : ¬ IsRefusal status → Reads body e →
      e.code = 0 → e.data = none → Judged shape absent (.answer status body) absent
  | malformed {status : Nat} {body : String} {e : Envelope} {v : Json} : ¬ IsRefusal status →
      Reads body e → e.code = 0 → e.data = some v → (∀ a, ¬ shape v a) →
      Judged shape absent (.answer status body) (.error .decode)
  | decoded {status : Nat} {body : String} {e : Envelope} {v : Json} {a : α} :
      ¬ IsRefusal status → Reads body e → e.code = 0 → e.data = some v → shape v a →
      Judged shape absent (.answer status body) (.ok a)

/-- A reply that carries an error comes out as the error, whatever shape its data should have. -/
theorem Judged.error {α : Type} {shape : Json → α → Prop} {absent result : Except FetchError α}
    {status : Nat} {body : String} {e : Envelope}
    (h : Judged shape absent (.answer status body) result) (hstatus : ¬ IsRefusal status)
    (he : Reads body e) (hcode : e.code ≠ 0) : result = .error (.api e.code e.errorMessage) := by
  cases h with
  | refused hrefused => exact (hstatus hrefused).elim
  | noEnvelope _ hnone => exact (hnone e he).elim
  | failed _ he' _ => rw [he'.unique he]
  | missing _ he' hcode' _ => exact (hcode (he'.unique he ▸ hcode')).elim
  | malformed _ he' hcode' _ _ => exact (hcode (he'.unique he ▸ hcode')).elim
  | decoded _ he' hcode' _ _ => exact (hcode (he'.unique he ▸ hcode')).elim

/-- The data that a reply turned out to have, or what no data amount to. -/
def orAbsent {α : Type} (absent : Except FetchError α) : Option α → Except FetchError α
  | some a => .ok a
  | none => absent

theorem isRefusal_iff {status : Nat} :
    (decide (400 ≤ status) && decide (status < 600)) = true ↔ IsRefusal status := by
  simp [IsRefusal]

/-- Without an error in the status or the code, the data decide. -/
theorem judge_of_success {α : Type} {decode : Json → Option α} {status : Nat} {body : String}
    {e : Envelope} (hstatus : ¬ IsRefusal status) (he : Reads body e) (hcode : e.code = 0) :
    judge decode (.answer status body) = e.data.elim (.ok none) fun v =>
      (decode v).elim (.error .decode) fun a => .ok (some a) := by
  simp only [judge, isRefusal_iff, hstatus, if_false, read?_eq_some.mpr he, hcode, ne_eq,
    not_true_eq_false]
  cases e.data with
  | none => rfl
  | some v =>
    dsimp only [Option.elim_some]
    cases decode v <;> rfl

section Shape

variable {α : Type} {decode : Json → Option α} {shape : Json → α → Prop}
  (hshape : ∀ v a, decode v = some a ↔ shape v a)
include hshape

theorem judged_judge (absent : Except FetchError α) (reply : Reply) :
    Judged shape absent reply ((judge decode reply).bind (orAbsent absent)) := by
  cases reply with
  | none => exact .unreachable
  | answer status body =>
    unfold judge
    dsimp only
    split
    · next hrefused => exact .refused (isRefusal_iff.mp hrefused)
    · next haccepted =>
      have hstatus : ¬ IsRefusal status := mt isRefusal_iff.mpr haccepted
      split
      · next hread =>
        refine .noEnvelope hstatus fun e he => ?_
        rw [read?_eq_some.mpr he] at hread
        cases hread
      · next e hread =>
        have he := read?_eq_some.mp hread
        split
        · next hcode =>
          rw [errorText_eq]
          exact .failed hstatus he hcode
        · next hcode =>
          rw [not_not] at hcode
          split
          · next hdata => exact .missing hstatus he hcode hdata
          · next v hdata =>
            split
            · next a hdecode => exact .decoded hstatus he hcode hdata ((hshape v a).mp hdecode)
            · next hdecode =>
              refine .malformed hstatus he hcode hdata fun a ha => ?_
              rw [(hshape v a).mpr ha] at hdecode
              cases hdecode

theorem Judged.eq_judge {absent result : Except FetchError α} {reply : Reply}
    (h : Judged shape absent reply result) :
    result = (judge decode reply).bind (orAbsent absent) := by
  cases h with
  | unreachable => rfl
  | refused hrefused =>
    simp only [judge, isRefusal_iff, hrefused, if_true]
    rfl
  | noEnvelope hstatus hnone =>
    rename_i body
    have hread : read? body = none :=
      Option.eq_none_iff_forall_ne_some.mpr fun e he => hnone e (read?_eq_some.mp he)
    simp only [judge, isRefusal_iff, hstatus, if_false, hread]
    rfl
  | failed hstatus he hcode =>
    simp only [judge, isRefusal_iff, hstatus, if_false, read?_eq_some.mpr he, if_pos hcode,
      errorText_eq]
    rfl
  | missing hstatus he hcode hdata =>
    rw [judge_of_success hstatus he hcode, hdata]
    rfl
  | @malformed _ _ _ v hstatus he hcode hdata hnone =>
    have hdecode : decode v = none :=
      Option.eq_none_iff_forall_ne_some.mpr fun a ha => hnone a ((hshape v a).mp ha)
    rw [judge_of_success hstatus he hcode, hdata, Option.elim_some, hdecode]
    rfl
  | @decoded _ _ _ v a hstatus he hcode hdata ha =>
    rw [judge_of_success hstatus he hcode, hdata, Option.elim_some, (hshape v a).mpr ha]
    rfl

/-- What a reader of the shape makes of a reply is what becomes of it, and nothing else does. -/
theorem judge_eq_iff {absent result : Except FetchError α} {reply : Reply} :
    (judge decode reply).bind (orAbsent absent) = result ↔ Judged shape absent reply result :=
  ⟨fun h => h ▸ judged_judge hshape absent reply, fun h => (h.eq_judge hshape).symm⟩

end Shape

/-! ## Asking -/

/-- A client that can reach a server: its base is a web address. -/
structure Reaches (c : Client) : Prop where
  askable : isAskable c.base = true
  hierarchical : ∃ segments, c.base.path = .segments segments

/-- The URL that a client asks for with a request. -/
def Asks (c : Client) (r : Request) (url : String) : Prop :=
  ∃ place, c.base.below r.path = .ok place ∧ isAskable place = true ∧
    url = (r.url place c.token).text

theorem Reaches.asks {c : Client} (h : c.Reaches) (r : Request) : ∃ url, c.Asks r url := by
  obtain ⟨segments, hpath⟩ := h.hierarchical
  refine ⟨_, { c.base with
    path := .segments (segments.dropLast ++ r.path), query := none, fragment := none }, ?_, ?_, rfl⟩
  · rw [Url.below, hpath]
  · exact h.askable

theorem Asks.unique {c : Client} {r : Request} {url url' : String} (h : c.Asks r url)
    (h' : c.Asks r url') : url = url' := by
  obtain ⟨place, hplace, _, rfl⟩ := h
  obtain ⟨place', hplace', _, rfl⟩ := h'
  cases hplace.symm.trans hplace'
  rfl

theorem Asks.reaches {c : Client} {r : Request} {url : String} (h : c.Asks r url) : c.Reaches := by
  obtain ⟨place, hplace, haskable, _⟩ := h
  unfold Url.below at hplace
  split at hplace
  · cases hplace
  · next segments hpath =>
    cases hplace
    exact ⟨haskable, segments, hpath⟩

section Ask

variable {α : Type} {c : Client} (net : Transport) {r : Request} (decode : Json → Option α)

theorem ask_of_asks {url : String} (h : c.Asks r url) :
    (c.ask net r.path r.pairs decode).exchanges = [⟨url, net url⟩] ∧
      (c.ask net r.path r.pairs decode).result = judge decode (net url) := by
  obtain ⟨place, hplace, haskable, rfl⟩ := h
  have hendpoint : c.endpoint r.path r.pairs = .ok (r.url place c.token) := by
    rw [Client.endpoint, hplace]
    rfl
  have hget : isAskable (r.url place c.token) = true := haskable
  rw [ask, hendpoint]
  simp only [get, hget, if_true, and_self]

theorem ask_of_not_reaches (h : ¬ c.Reaches) :
    (c.ask net r.path r.pairs decode).exchanges = [] ∧
      ∃ e, (c.ask net r.path r.pairs decode).result = .error e := by
  unfold ask endpoint
  cases hplace : c.base.below r.path with
  | error e => exact ⟨rfl, _, rfl⟩
  | ok place =>
    have haskable : ¬ isAskable place = true := fun haskable =>
      h (Asks.reaches ⟨place, hplace, haskable, rfl⟩)
    have hget : ¬ isAskable (r.url place c.token) = true := haskable
    change (get net decode (r.url place c.token)).exchanges = [] ∧
      ∃ e, (get net decode (r.url place c.token)).result = .error e
    simp only [get, hget]
    exact ⟨rfl, _, rfl⟩

end Ask

/-- A call makes its request and no other, if the server can be reached, and its result is what
becomes of the reply. -/
structure Answers {α : Type} (c : Client) (net : Transport) (r : Request)
    (shape : Json → α → Prop) (absent : Except FetchError α) (call : Call α) : Prop where
  asked : ∀ url, c.Asks r url → call.exchanges = [⟨url, net url⟩] ∧
    ∀ result, call.result = result ↔ Judged shape absent (net url) result
  unasked : ¬ c.Reaches → call.exchanges = [] ∧ ∃ e, call.result = .error e

/-- A call that comes to something could reach the server. -/
theorem Answers.reaches {α : Type} {c : Client} {net : Transport} {r : Request}
    {shape : Json → α → Prop} {absent : Except FetchError α} {call : Call α}
    (h : c.Answers net r shape absent call) {a : α} (ha : call.result = .ok a) : c.Reaches := by
  by_contra hnot
  obtain ⟨_, e, herror⟩ := h.unasked hnot
  rw [ha] at herror
  cases herror

theorem answers_ask {α : Type} {decode : Json → Option α} {shape : Json → α → Prop}
    (hshape : ∀ v a, decode v = some a ↔ shape v a) (c : Client) (net : Transport) (r : Request)
    (absent : Except FetchError α) :
    c.Answers net r shape absent
      ((c.ask net r.path r.pairs decode).mapResult (orAbsent absent)) where
  asked url h := by
    obtain ⟨hexchanges, hresult⟩ := ask_of_asks net decode h
    refine ⟨hexchanges, fun result => ?_⟩
    rw [Call.mapResult, hresult]
    exact judge_eq_iff hshape
  unasked h := by
    obtain ⟨hexchanges, e, hresult⟩ := ask_of_not_reaches net (r := r) decode h
    refine ⟨hexchanges, e, ?_⟩
    rw [Call.mapResult, hresult]
    rfl

theorem Answers.report {α : Type} {c : Client} {net : Transport} {r : Request}
    {shape : Json → α → Prop} {absent : Except FetchError α} {call : Call α}
    (h : c.Answers net r shape absent call) (event : α → ClientEvent) :
    c.Answers net r shape absent (call.report event) := by
  unfold Call.report
  split
  · exact h
  · exact ⟨h.asked, h.unasked⟩

theorem present_eq {α : Type} (what : String) :
    present (α := α) what = orAbsent (.error (.missing what)) := by
  funext data
  cases data <;> rfl

theorem projectId_answers (c : Client) (net : Transport) :
    c.Answers net .project SaysProject (.error (.missing "project info")) (c.projectId net) := by
  unfold projectId
  rw [present_eq]
  exact (answers_ask (fun _ _ => projectId?_eq_some) c net .project _).report _

theorem menu_answers (c : Client) (net : Transport) (project : Nat) :
    c.Answers net (.menu project) SaysMenu (.ok []) (c.menu net project) := by
  have hpresent : (fun menu : Option (List MenuEntry) => Except.ok (menu.getD [])) =
      orAbsent (.ok []) := by
    funext data
    cases data <;> rfl
  unfold menu
  rw [hpresent]
  exact answers_ask (fun _ _ => menu?_eq_some) c net (.menu project) _

theorem detail_answers (c : Client) (net : Transport) (id : Nat) :
    c.Answers net (.detail id) (SaysRecord id) (.error (.missing "interface detail"))
      (c.detail net id) := by
  unfold detail
  rw [present_eq]
  exact answers_ask (fun _ _ => detail?_eq_some) c net (.detail id) _

/-! ## Categories -/

theorem categories_of_error {c : Client} {server : Server} {e : FetchError}
    (h : (c.projectId (server.request 0)).result = .error e) :
    (c.categories server).exchanges = (c.projectId (server.request 0)).exchanges ∧
      (c.categories server).result = .error e := by
  simp only [categories, Call.andThen, h, and_self]

theorem categories_of_ok {c : Client} {server : Server} {project : Nat}
    (h : (c.projectId (server.request 0)).result = .ok project) :
    (c.categories server).exchanges = (c.projectId (server.request 0)).exchanges ++
        (c.menu (server.request 1) project).exchanges ∧
      (c.categories server).result =
        (c.menu (server.request 1) project).result.map Category.index := by
  simp only [categories, Call.andThen, h, Call.report, Call.mapResult]
  cases (c.menu (server.request 1) project).result <;> exact ⟨rfl, rfl⟩

/-! ## Replies to all requests -/

/-- Each call comes out as what becomes of its reply, where the data have to be about a project, a
menu or a detail. Two replies that are envelopes with the same error come to the same error whatever
is asked for, and whatever else is in them. The menu is asked for exactly if the project was found,
for that project and in the next request, and gives the categories. -/
theorem calls_judge_replies (c : Client) :
    (∀ net, c.Answers net .project SaysProject (.error (.missing "project info"))
        (c.projectId net)) ∧
      (∀ net project, c.Answers net (.menu project) SaysMenu (.ok []) (c.menu net project)) ∧
      (∀ net id, c.Answers net (.detail id) (SaysRecord id) (.error (.missing "interface detail"))
        (c.detail net id)) ∧
      (c.Reaches → ∀ r : Request, ∃ url, c.Asks r url) ∧
      (∀ body body' e e', SameError body body' → Reads body e → Reads body' e' → e.code ≠ 0 →
        ∀ {α : Type} (shape : Json → α → Prop) (absent result : Except FetchError α)
          (status : Nat), ¬ IsRefusal status →
            Judged shape absent (.answer status body) result ∨
              Judged shape absent (.answer status body') result →
            result = .error (.api e.code e.errorMessage)) ∧
      (∀ (server : Server) project, (c.projectId (server.request 0)).result = .ok project →
        ∃ url, c.Asks (.menu project) url ∧
          (c.categories server).exchanges =
            (c.projectId (server.request 0)).exchanges ++ [⟨url, server.request 1 url⟩] ∧
          (c.categories server).result =
            (c.menu (server.request 1) project).result.map Category.index) ∧
      ∀ (server : Server) e, (c.projectId (server.request 0)).result = .error e →
        (c.categories server).exchanges = (c.projectId (server.request 0)).exchanges ∧
          (c.categories server).result = .error e := by
  refine ⟨projectId_answers c, menu_answers c, detail_answers c, Reaches.asks, ?_, ?_,
    fun _ _ => categories_of_error⟩
  · intro body body' e e' hsame he he' hcode
    obtain ⟨hcode', hmessage⟩ := hsame.fields he he'
    rintro α shape absent result status hstatus (hjudged | hjudged)
    · exact hjudged.error hstatus he hcode
    · rw [hjudged.error hstatus he' (hcode'.symm ▸ hcode), errorMessage, errorMessage, hcode',
        hmessage]
  · intro server project hproject
    have hreaches := (projectId_answers c (server.request 0)).reaches hproject
    obtain ⟨url, hurl⟩ := hreaches.asks (.menu project)
    obtain ⟨hexchanges, hresult⟩ := categories_of_ok hproject
    rw [((menu_answers c (server.request 1) project).asked url hurl).1] at hexchanges
    exact ⟨url, hurl, hexchanges, hresult⟩

/-- A project, in the envelope that is an array. -/
def found : String := "[0,null,\x7b\"_id\":7\x7d]"

/-- An error with data of a shape that no request expects. -/
def refusal : String := "\x7b\"errmsg\":\"no\",\"errcode\":40011,\"data\":[]\x7d"

/-- The same error in another order, without data and with a key whose value is no number that
could be read. -/
def refusal' : String := "\x7b\"errcode\":40011,\"more\":1e400,\"errmsg\":\"no\"\x7d"

theorem shown_samples :
    Json.Shown keys found (.array [.int 0, .null, .object [("_id", .int 7)]]) ∧
      Json.Shown keys refusal
        (.object [("errmsg", .text "no"), ("errcode", .int 40011), ("data", .array [])]) ∧
      Json.Shown keys refusal' (.object [("errcode", .int 40011), ("errmsg", .text "no")]) :=
  ⟨Json.readOnly_eq_some.mp (by with_unfolding_all rfl),
    Json.readOnly_eq_some.mp (by with_unfolding_all rfl),
    Json.readOnly_eq_some.mp (by with_unfolding_all rfl)⟩

theorem reads_samples : Reads found ⟨0, none, some (.object [("_id", .int 7)])⟩ ∧
    Reads refusal ⟨40011, some "no", some (.array [])⟩ ∧
    Reads refusal' ⟨40011, some "no", none⟩ := by
  obtain ⟨hfound, hrefusal, hrefusal'⟩ := shown_samples
  exact ⟨⟨_, hfound, ofJson?_eq_some.mp rfl⟩, ⟨_, hrefusal, ofJson?_eq_some.mp rfl⟩,
    ⟨_, hrefusal', ofJson?_eq_some.mp rfl⟩⟩

def hostClient : Client := ⟨⟨"http", some ⟨"", "", "host", none⟩, .segments [""], none, none⟩, "t"⟩

/-- A server that knows project 7 and refuses everything else. -/
def refusingServer : Server where
  request
    | 0 => fun _ => .answer 200 found
    | _ => fun _ => .answer 302 refusal

/-- The menu of the project is asked for, and the error in the reply is what every reply with the
same error comes to, whatever was asked for. -/
theorem calls_judge_replies_refused :
    hostClient.Reaches ∧ SameError refusal refusal' ∧
      (hostClient.projectId (refusingServer.request 0)).result = .ok 7 ∧
      (hostClient.categories refusingServer).exchanges =
        (hostClient.projectId (refusingServer.request 0)).exchanges ++
          [⟨"http://host/api/interface/list_menu?token=t&projectId=7", .answer 302 refusal⟩] ∧
      (hostClient.categories refusingServer).result = .error (.api 40011 "no") ∧
      ∀ result, Judged (SaysRecord 1) (.error .decode) (.answer 200 refusal') result →
        result = .error (.api 40011 "no") := by
  obtain ⟨hread, hrefusal, hrefusal'⟩ := reads_samples
  obtain ⟨_, hshown, hshown'⟩ := shown_samples
  have hreaches : hostClient.Reaches := ⟨rfl, [""], rfl⟩
  have hsame : SameError refusal refusal' := ⟨_, _, hshown, hshown', .swap _ _ _⟩
  have hplace (r : Request) : hostClient.base.below r.path =
      .ok { hostClient.base with path := .segments r.path } := by
    cases r <;> rfl
  have hasksMenu : hostClient.Asks (.menu 7)
      "http://host/api/interface/list_menu?token=t&projectId=7" :=
    ⟨_, hplace (.menu 7), rfl, by decide +kernel⟩
  have hstatus : ¬ IsRefusal 200 ∧ ¬ IsRefusal 302 := by simp [IsRefusal]
  obtain ⟨hcall, hmenu, _, hasks, herrors, hok, _⟩ := calls_judge_replies hostClient
  have hproject : (hostClient.projectId (refusingServer.request 0)).result = .ok 7 := by
    obtain ⟨url, hurl⟩ := hasks hreaches .project
    have hseven : SaysProject (.object [("_id", .int 7)]) 7 := ⟨trivial, rfl, by decide⟩
    exact (((hcall _).asked url hurl).2 _).mpr (.decoded hstatus.1 hread rfl rfl hseven)
  obtain ⟨_, hurl, hexchanges, hresult⟩ := hok refusingServer 7 hproject
  obtain rfl := hurl.unique hasksMenu
  have hjudged := (((hmenu (refusingServer.request 1) 7).asked _ hasksMenu).2 _).mp rfl
  refine ⟨hreaches, hsame, hproject, hexchanges, ?_, fun result h => ?_⟩
  · rw [hresult, herrors _ _ _ _ hsame hrefusal hrefusal' (by decide) _ _ _ 302 hstatus.2
      (.inl hjudged)]
    rfl
  · exact herrors _ _ _ _ hsame hrefusal hrefusal' (by decide) _ _ _ 200 hstatus.1 (.inr h)

end Client

end ApiTypings
