import ApiTypings.Proofs.Replies
import ApiTypings.Proofs.UniqueKeys
import Mathlib.Logic.Relation

/-!
# Details that are said in different ways

A detail is read from the keys that are known of it and of its parameters. A known key may as well
be missing as be null, and other keys and the order of keys do not matter, at both levels. A call
for a detail comes out with a detail exactly if its fields say what the data say. So data that are
reworded at these two levels give the same detail.
-/

namespace ApiTypings

namespace Payload

/-! ## Details of objects -/

/-- The detail that the members of an object are about. -/
structure SaysDetail (requested : Nat) (members : List (String × Json)) (d : Detail) : Prop where
  id : IdField requested (Assoc.find? "_id" members) d.id
  title : TextField (Assoc.find? "title" members) d.title
  path : TextField (Assoc.find? "path" members) d.path
  method : TextField (Assoc.find? "method" members) d.method
  pathParameters : ListField (Assoc.find? "req_params" members) d.pathParameters
  queryParameters : ListField (Assoc.find? "req_query" members) d.queryParameters
  requestBody : MessageField (Assoc.find? "req_body_other" members) d.requestBody
  responseBody : MessageField (Assoc.find? "res_body" members) d.responseBody

theorem saysRecord_object {requested : Nat} {members : List (String × Json)} {d : Detail} :
    SaysRecord requested (.object members) d ↔ SaysDetail requested members d := by
  constructor
  · rintro ⟨_, hid, htitle, hpath, hmethod, hpathParameters, hqueryParameters, hrequest, hresponse⟩
    exact ⟨hid, htitle, hpath, hmethod, hpathParameters, hqueryParameters, hrequest, hresponse⟩
  · rintro ⟨hid, htitle, hpath, hmethod, hpathParameters, hqueryParameters, hrequest, hresponse⟩
    exact ⟨trivial, hid, htitle, hpath, hmethod, hpathParameters, hqueryParameters, hrequest,
      hresponse⟩

theorem detail?_object_eq_some {requested : Nat} {members : List (String × Json)} {d : Detail} :
    detail? requested (.object members) = some d ↔ SaysDetail requested members d :=
  detail?_eq_some.trans saysRecord_object

theorem detail?_object (requested : Nat) (members : List (String × Json)) :
    detail? requested (.object members) =
      (optional? id? (Assoc.find? "_id" members)).bind fun id =>
        (text? (Assoc.find? "title" members)).bind fun title =>
          (text? (Assoc.find? "path" members)).bind fun path =>
            (text? (Assoc.find? "method" members)).bind fun method =>
              (parameters? (Assoc.find? "req_params" members)).bind fun pathParameters =>
                (parameters? (Assoc.find? "req_query" members)).bind fun queryParameters =>
                  (text? (Assoc.find? "req_body_other" members)).bind fun request =>
                    (text? (Assoc.find? "res_body" members)).bind fun response =>
                      some ⟨id.getD requested, title.getD "", path.getD "", method.getD "",
                        pathParameters, queryParameters, request, response⟩ :=
  rfl

/-! ## Rewordings -/

/-- One change to the members of an object that leaves what the known keys say: a known key goes
that is null and stands there only once, an unknown key goes, or the keys are put in another
order. -/
inductive Reword (known : List String) : List (String × Json) → List (String × Json) → Prop
  | null {before after : List (String × Json)} {key : String} : key ∈ known →
      key ∉ (before ++ after).map Prod.fst →
      Reword known (before ++ (key, .null) :: after) (before ++ after)
  | unknown {before after : List (String × Json)} {key : String} {value : Json} : key ∉ known →
      Reword known (before ++ (key, value) :: after) (before ++ after)
  | reorder {members members' : List (String × Json)} : (members.map Prod.fst).Nodup →
      members.Perm members' → Reword known members members'

/-- One such change to a detail, at the top or in an object that stands for a parameter. -/
inductive RewordDetail : List (String × Json) → List (String × Json) → Prop
  | top {members members' : List (String × Json)} : Reword detailKeys members members' →
      RewordDetail members members'
  | parameter {before after : List (String × Json)} {key : String} {first last : List Json}
      {entry entry' : List (String × Json)} : key ∈ ["req_params", "req_query"] →
      Reword parameterKeys entry entry' →
      RewordDetail (before ++ (key, .array (first ++ .object entry :: last)) :: after)
        (before ++ (key, .array (first ++ .object entry' :: last)) :: after)

/-- Members that rewordings lead from one to the other, in either direction. -/
abbrev SameDetail : List (String × Json) → List (String × Json) → Prop :=
  Relation.EqvGen RewordDetail

/-- A field as far as it says something: one that is null says as much as a missing one. -/
def said : Option Json → Option Json
  | some .null => none
  | field => field

theorem optional?_said {α : Type} (decode : Json → Option α) (field : Option Json) :
    optional? decode (said field) = optional? decode field := by
  unfold said
  split <;> rfl

theorem isRequired_said (field : Option Json) : isRequired (said field) = isRequired field := by
  unfold said
  split <;> rfl

/-- What a known key says is the same in other words. -/
theorem Reword.said_find? {known : List String} {members members' : List (String × Json)}
    (h : Reword known members members') {key : String} (hkey : key ∈ known) :
    said (Assoc.find? key members) = said (Assoc.find? key members') := by
  cases h with
  | @null before after k _ honly =>
    by_cases hk : k = key
    · -- The key stands nowhere else, so it is missing where the null is gone.
      have hnone : Assoc.find? key (before ++ after) = none := by
        rw [← Option.not_isSome_iff_eq_none, Assoc.isSome_find?_iff, ← hk]
        exact honly
      rw [Assoc.find?_append, Option.or_eq_none_iff] at hnone
      rw [Assoc.find?_append, Assoc.find?_append, hnone.1, hnone.2, Assoc.find?, if_pos hk]
      rfl
    · rw [Assoc.find?_append_cons_of_ne hk]
  | @unknown before after k value hunknown =>
    have hk : k ≠ key := fun heq => hunknown (heq ▸ hkey)
    rw [Assoc.find?_append_cons_of_ne hk]
  | reorder hnodup hperm => rw [Assoc.find?_perm hnodup hperm]

theorem parameter?_congr {entry entry' : List (String × Json)}
    (h : ∀ key ∈ parameterKeys, said (Assoc.find? key entry) = said (Assoc.find? key entry')) :
    parameter? (.object entry) = parameter? (.object entry') := by
  have htext {key : String} (hkey : key ∈ parameterKeys) :
      text? (Assoc.find? key entry) = text? (Assoc.find? key entry') := by
    rw [text?, ← optional?_said, h key hkey, optional?_said]
  have hrequired : isRequired (Assoc.find? "required" entry) =
      isRequired (Assoc.find? "required" entry') := by
    rw [← isRequired_said, h _ (by decide), isRequired_said]
  have hrecord (members : List (String × Json)) : IsRecord parameterKeys (.object members) :=
    trivial
  rw [parameter?_of_isRecord (hrecord entry), parameter?_of_isRecord (hrecord entry')]
  simp only [fieldOf, htext (show "name" ∈ parameterKeys by decide),
    htext (show "type" ∈ parameterKeys by decide), htext (show "desc" ∈ parameterKeys by decide),
    hrequired]

/-- Members from which the same detail is read. -/
structure SameFields (members members' : List (String × Json)) : Prop where
  id : optional? id? (Assoc.find? "_id" members) = optional? id? (Assoc.find? "_id" members')
  texts : ∀ key ∈ ["title", "path", "method", "req_body_other", "res_body"],
    text? (Assoc.find? key members) = text? (Assoc.find? key members')
  lists : ∀ key ∈ ["req_params", "req_query"],
    parameters? (Assoc.find? key members) = parameters? (Assoc.find? key members')

theorem SameFields.detail?_eq {members members' : List (String × Json)}
    (h : SameFields members members') (requested : Nat) :
    detail? requested (.object members) = detail? requested (.object members') := by
  simp only [detail?_object, h.id, h.texts "title" (by decide), h.texts "path" (by decide),
    h.texts "method" (by decide), h.texts "req_body_other" (by decide),
    h.texts "res_body" (by decide), h.lists "req_params" (by decide),
    h.lists "req_query" (by decide)]

theorem RewordDetail.sameFields {members members' : List (String × Json)}
    (h : RewordDetail members members') : SameFields members members' := by
  cases h with
  | top h =>
    have hsaid {α : Type} (decode : Json → Option α) {key : String} (hkey : key ∈ detailKeys) :
        optional? decode (Assoc.find? key members) =
          optional? decode (Assoc.find? key members') := by
      rw [← optional?_said, h.said_find? hkey, optional?_said]
    have htexts : ["title", "path", "method", "req_body_other", "res_body"] ⊆ detailKeys := by
      decide
    have hlists : ["req_params", "req_query"] ⊆ detailKeys := by decide
    refine ⟨hsaid _ (by decide), fun key hkey => hsaid _ (htexts hkey), fun key hkey => ?_⟩
    rw [parameters?, hsaid _ (hlists hkey), parameters?]
  | @parameter before after key first last entry entry' hkey h =>
    have hlist : parameters? (some (.array (first ++ .object entry :: last))) =
        parameters? (some (.array (first ++ .object entry' :: last))) := by
      simp only [parameters?, optional?, listOf?, List.mapM_append, List.mapM_cons,
        parameter?_congr fun _ => h.said_find?]
    refine ⟨?_, fun other hother => ?_, fun other _ => ?_⟩
    · have hne : key ≠ "_id" := by
        rintro rfl
        exact absurd hkey (by decide)
      rw [Assoc.find?_revalued_of_ne hne]
    · have hne : key ≠ other := by
        rintro rfl
        revert key
        decide
      rw [Assoc.find?_revalued_of_ne hne]
    · by_cases hother : key = other
      · subst hother
        exact Assoc.find?_revalued hlist ..
      · rw [Assoc.find?_revalued_of_ne hother]

theorem SameDetail.detail?_eq {members members' : List (String × Json)}
    (h : SameDetail members members') (requested : Nat) :
    detail? requested (.object members) = detail? requested (.object members') := by
  induction h with
  | rel _ _ h => exact h.sameFields.detail?_eq requested
  | refl => rfl
  | symm _ _ _ ih => exact ih.symm
  | trans _ _ _ _ _ ih ih' => exact ih.trans ih'

end Payload

open Payload Payload.Envelope

namespace Client

/-! ## Details of replies -/

/-- A reply of success with these data. -/
def Gives (reply : Reply) (data : Json) : Prop :=
  ∃ status body e, reply = .answer status body ∧ ¬ IsRefusal status ∧ Reads body e ∧
    e.code = 0 ∧ e.data = some data

theorem detail_of_gives {c : Client} {net : Transport} {id : Nat} {url : String} {data : Json}
    (hasks : c.Asks (.detail id) url) (h : Gives (net url) data) :
    (c.detail net id).result = (detail? id data).elim (.error .decode) .ok := by
  obtain ⟨status, body, e, hreply, hstatus, hreads, hcode, hdata⟩ := h
  rw [((detail_answers c net id).asked url hasks).2, hreply]
  cases hdetail : detail? id data with
  | none =>
    refine .malformed hstatus hreads hcode hdata fun d hd => ?_
    rw [detail?_eq_some.mpr hd] at hdetail
    cases hdetail
  | some d => exact .decoded hstatus hreads hcode hdata (detail?_eq_some.mp hdetail)

/-- A reply whose data are an object comes out as the detail that the object is about, if it is
about one. Another reply with the same object in other words comes out the same. -/
theorem detail_in_other_words {c : Client} {net : Transport} {id : Nat} {url : String}
    {members : List (String × Json)} (hasks : c.Asks (.detail id) url)
    (hgives : Gives (net url) (.object members)) :
    (∀ d, (c.detail net id).result = .ok d ↔ SaysDetail id members d) ∧
      ∀ net' members', Gives (net' url) (.object members') → SameDetail members members' →
        (c.detail net' id).result = (c.detail net id).result := by
  refine ⟨fun d => ?_, fun net' members' hgives' hsame => ?_⟩
  · rw [detail_of_gives hasks hgives, ← detail?_object_eq_some]
    cases detail? id (.object members) <;> simp
  · rw [detail_of_gives hasks hgives, detail_of_gives hasks hgives', hsame.detail?_eq]

/-- Two query parameters: the first is given by its keys, the second by places. -/
def queryOf (entry : List (String × Json)) : String × Json :=
  ("req_query", .array [.object entry, .array [.text "r", .text " Integer ", .int 0]])

/-- A detail without an id, with nulls that may be left out. -/
def wordyDetail : List (String × Json) :=
  [("_id", .null), ("title", .text "t"), ("res_body", .null),
    queryOf [("type", .null), ("name", .text "q"), ("required", .text " TRUE ")]]

/-- The same in other words. -/
def terseDetail : List (String × Json) :=
  [queryOf [("required", .text " TRUE "), ("name", .text "q"), ("example", .int 1)],
    ("title", .text "t")]

theorem sameDetail_samples : SameDetail wordyDetail terseDetail := by
  have hentry {entry entry' : List (String × Json)} (h : Reword parameterKeys entry entry') :
      SameDetail [queryOf entry, ("title", .text "t")] [queryOf entry', ("title", .text "t")] :=
    .rel _ _ (@RewordDetail.parameter [] [("title", .text "t")] _ [] _ _ _ (by decide) h)
  have hid : SameDetail wordyDetail wordyDetail.tail :=
    .rel _ _ (.top (@Reword.null _ [] wordyDetail.tail _ (by decide) (by decide)))
  have hbody : SameDetail wordyDetail.tail [("title", .text "t"), wordyDetail[3]] :=
    .rel _ _ (.top (@Reword.null _ [("title", .text "t")] [wordyDetail[3]] _ (by decide)
      (by decide)))
  have horder : SameDetail [("title", .text "t"), wordyDetail[3]]
      [wordyDetail[3], ("title", .text "t")] :=
    .rel _ _ (.top (.reorder (by decide) (.swap _ _ _)))
  have htype : SameDetail [wordyDetail[3], ("title", .text "t")]
      [queryOf [("name", .text "q"), ("required", .text " TRUE ")], ("title", .text "t")] :=
    hentry (@Reword.null _ [] [("name", .text "q"), ("required", .text " TRUE ")] _ (by decide)
      (by decide))
  have hparameter : SameDetail
      [queryOf [("name", .text "q"), ("required", .text " TRUE ")], ("title", .text "t")]
      [queryOf [("required", .text " TRUE "), ("name", .text "q")], ("title", .text "t")] :=
    hentry (.reorder (by decide) (.swap _ _ _))
  have hexample : SameDetail terseDetail
      [queryOf [("required", .text " TRUE "), ("name", .text "q")], ("title", .text "t")] :=
    hentry (@Reword.unknown _ [("required", .text " TRUE "), ("name", .text "q")] [] _ _
      (by decide))
  exact .trans _ _ _ hid (.trans _ _ _ hbody (.trans _ _ _ horder (.trans _ _ _ htype
    (.trans _ _ _ hparameter (.symm _ _ hexample)))))

/-- The data of a reply in their envelope. -/
def enveloped (members : List (String × Json)) : Json := .object [("data", .object members)]

set_option maxRecDepth 2000 in
theorem gives_samples :
    Gives (.answer 200 (enveloped wordyDetail).compact) (.object wordyDetail) ∧
      Gives (.answer 200 (enveloped terseDetail).compact) (.object terseDetail) := by
  have hwordy : Json.Shown keys (enveloped wordyDetail).compact (enveloped wordyDetail) :=
    Json.readOnly_eq_some.mp (by with_unfolding_all rfl)
  have hterse : Json.Shown keys (enveloped terseDetail).compact (enveloped terseDetail) :=
    Json.readOnly_eq_some.mp (by with_unfolding_all rfl)
  have hstatus : ¬ IsRefusal 200 := by simp [IsRefusal]
  exact ⟨⟨200, _, ⟨0, none, _⟩, rfl, hstatus, ⟨_, hwordy, ofJson?_eq_some.mp rfl⟩, rfl, rfl⟩,
    ⟨200, _, ⟨0, none, _⟩, rfl, hstatus, ⟨_, hterse, ofJson?_eq_some.mp rfl⟩, rfl, rfl⟩⟩

/-- Both replies come out as the detail that was asked for by its id. -/
theorem detail_in_other_words_wordy :
    let url := "http://host/api/interface/get?token=t&id=5"
    let wordy : Transport := fun _ => .answer 200 (enveloped wordyDetail).compact
    let terse : Transport := fun _ => .answer 200 (enveloped terseDetail).compact
    let d : Detail :=
      ⟨5, "t", "", "", [], [⟨"q", .string, true, ""⟩, ⟨"r", .integer, false, ""⟩], none, none⟩
    hostClient.Asks (.detail 5) url ∧ Gives (wordy url) (.object wordyDetail) ∧
      Gives (terse url) (.object terseDetail) ∧ SameDetail wordyDetail terseDetail ∧
      (hostClient.detail wordy 5).result = .ok d ∧ (hostClient.detail terse 5).result = .ok d := by
  intro url wordy terse d
  have hasks : hostClient.Asks (.detail 5) url :=
    ⟨{ hostClient.base with path := .segments (Request.detail 5).path }, rfl, rfl,
      by decide +kernel⟩
  have hwordy : Gives (wordy url) (.object wordyDetail) := gives_samples.1
  have hterse : Gives (terse url) (.object terseDetail) := gives_samples.2
  obtain ⟨hmeans, hsame⟩ := detail_in_other_words hasks hwordy
  have hdetail : SaysDetail 5 wordyDetail d := detail?_object_eq_some.mp rfl
  have hresult := (hmeans d).mpr hdetail
  exact ⟨hasks, hwordy, hterse, sameDetail_samples, hresult,
    (hsame terse _ hterse sameDetail_samples).trans hresult⟩

end Client

end ApiTypings
