import ApiTypings.Proofs.TextLaws
import ApiTypings.Settings.Basic

/-!
# Settings from several sources

Settings are resolved from three sources: the arguments, the environment and the configuration
file. The token and the base URL are texts, and a text that is blank is as good as none; of the
texts that count the one in the highest source decides, and what the sources below say of the same
setting has no effect on the outcome. Of the other settings the file has a say only if the
arguments have none, and the environment never has.

What is wrong with the sources is said of each setting by itself. The error is about the fault that
comes first, whatever other faults there are.
-/

namespace ApiTypings

/-! ## Sources -/

/-- A setting that counts only if its text is not blank. -/
inductive TextSetting where
  | token
  | baseUrl
  deriving DecidableEq, Repr

inductive Source where
  | arguments
  | environment
  | file
  deriving DecidableEq, Repr

/-- The sources that come after one, in order. -/
def Source.below : Source → List Source
  | .arguments => [.environment, .file]
  | .environment => [.file]
  | .file => []

def TextSetting.variable : TextSetting → String
  | .token => Layer.tokenVariable
  | .baseUrl => Layer.baseUrlVariable

def Layer.text (l : Layer) : TextSetting → Option String
  | .token => l.token
  | .baseUrl => l.baseUrl

def Layer.withText (l : Layer) (value : Option String) : TextSetting → Layer
  | .token => { l with token := value }
  | .baseUrl => { l with baseUrl := value }

/-- What settings are resolved from. -/
structure Sources where
  arguments : Layer
  environment : String → Option String
  file : Layer

namespace Sources

def resolve (c : Sources) : Except SettingsError Settings :=
  Settings.resolve c.arguments (.ofEnvironment c.environment) c.file

/-- What a source says of a text. -/
def text (c : Sources) (k : TextSetting) : Source → Option String
  | .arguments => c.arguments.text k
  | .environment => c.environment k.variable
  | .file => c.file.text k

/-- The same sources, of which one says something else of a text. -/
def withText (c : Sources) (k : TextSetting) (s : Source) (value : Option String) : Sources :=
  match s with
  | .arguments => { c with arguments := c.arguments.withText value k }
  | .environment =>
    { c with environment := fun name => if name = k.variable then value else c.environment name }
  | .file => { c with file := c.file.withText value k }

/-- A text that is as good as none. -/
def IsAbsent (value : Option String) : Prop := ∀ text, value = some text → Text.isBlankText text

/-- The text in a source decides: it counts, and no source above has one that does. -/
structure Decides (c : Sources) (k : TextSetting) (s : Source) (text : String) : Prop where
  given : c.text k s = some text
  counts : Text.isBlankText text = false
  highest : ∀ above : Source, s ∈ above.below → IsAbsent (c.text k above)

/-- The output directory that is given, or else the usual one. -/
def outDirectory (c : Sources) : String :=
  (c.arguments.outDirectory.or c.file.outDirectory).getD Settings.defaultOutDirectory

def concurrency (c : Sources) : Nat :=
  (c.arguments.concurrency.or c.file.concurrency).getD BatchOptions.defaultConcurrency

def collision (c : Sources) : Collision :=
  (c.arguments.collision.or c.file.collision).getD .overwrite

/-! ## Faults -/

/-- What is wrong with one setting. -/
inductive Fault (c : Sources) : SettingsError → Prop
  | missingToken : (∀ s, IsAbsent (c.text .token s)) → Fault c .missingToken
  | missingBaseUrl : (∀ s, IsAbsent (c.text .baseUrl s)) → Fault c .missingBaseUrl
  | invalidBaseUrl {s : Source} {text : String} {e : UrlError} : c.Decides .baseUrl s text →
      Url.parse (Text.trim text) = .error e → Fault c (.invalidBaseUrl text e)
  | emptyOutDirectory : c.outDirectory = "" → Fault c .emptyOutDirectory

/-- The settings that the sources come to. -/
structure Settles (c : Sources) (s : Settings) : Prop where
  token : ∃ source text, c.Decides .token source text ∧ s.token = Text.trim text
  baseUrl : ∃ source text, c.Decides .baseUrl source text ∧
    Url.parse (Text.trim text) = .ok s.baseUrl
  outDirectory : s.outDirectory = c.outDirectory
  nonempty : c.outDirectory ≠ ""
  concurrency : s.concurrency = c.concurrency
  collision : s.collision = c.collision

end Sources

/-- The order in which faults are reported. Those of reading the configuration file come first,
since without it nothing is resolved. -/
def SettingsError.place : SettingsError → Nat
  | .read _ _ => 0
  | .parse _ => 0
  | .missingToken => 1
  | .missingBaseUrl => 2
  | .invalidBaseUrl _ _ => 3
  | .emptyOutDirectory => 4

/-- The error without the blanks around the text that it shows. -/
def SettingsError.trimmed : SettingsError → SettingsError
  | .invalidBaseUrl text e => .invalidBaseUrl (Text.trim text) e
  | e => e

namespace Sources

/-! ## The text that decides -/

/-- The text that decides, if one does. -/
def decided? (c : Sources) (k : TextSetting) : Option String :=
  firstNonBlank? [c.text k .arguments, c.text k .environment, c.text k .file]

theorem isAbsent_iff {value : Option String} :
    IsAbsent value ↔ value.bind Text.nonBlank? = none := by
  cases value with
  | none => simp [IsAbsent]
  | some text => simp [IsAbsent, Text.nonBlank?]

theorem counts_iff {value : Option String} {text : String} :
    value.bind Text.nonBlank? = some text ↔ value = some text ∧ Text.isBlankText text = false := by
  cases value with
  | none => simp
  | some t =>
    simp only [Option.bind_some, Text.nonBlank?, Option.some.injEq]
    cases ht : Text.isBlankText t with
    | true =>
      simp only [if_true, reduceCtorEq, false_iff]
      rintro ⟨rfl, hcounts⟩
      rw [ht] at hcounts
      cases hcounts
    | false =>
      simp only [Bool.false_eq_true, if_false, Option.some.injEq]
      constructor
      · rintro rfl
        exact ⟨rfl, ht⟩
      · exact And.left

/-- Blanks around a text have no part in whether it counts. -/
theorem nonBlank?_trim_congr {text text' : String} (h : Text.trim text = Text.trim text') :
    (Text.nonBlank? text).map Text.trim = (Text.nonBlank? text').map Text.trim := by
  have hblank : Text.isBlankText text = Text.isBlankText text' := by
    rw [Bool.eq_iff_iff, ← Text.trim_eq_empty_iff, ← Text.trim_eq_empty_iff, h]
  rw [Text.nonBlank?, Text.nonBlank?, hblank]
  split
  · rfl
  · rw [Option.map_some, Option.map_some, h]

theorem firstNonBlank?_cons (value : Option String) (values : List (Option String)) :
    firstNonBlank? (value :: values) = (value.bind Text.nonBlank?).or (firstNonBlank? values) := by
  unfold firstNonBlank?
  rw [List.findSome?_cons]
  cases value.bind Text.nonBlank? <;> rfl

theorem decided?_eq (c : Sources) (k : TextSetting) : c.decided? k =
    ((c.text k .arguments).bind Text.nonBlank?).or
      (((c.text k .environment).bind Text.nonBlank?).or
        ((c.text k .file).bind Text.nonBlank?)) := by
  rw [decided?, firstNonBlank?_cons, firstNonBlank?_cons, firstNonBlank?_cons]
  cases (c.text k .file).bind Text.nonBlank? <;> rfl

theorem decided?_eq_none {c : Sources} {k : TextSetting} :
    c.decided? k = none ↔ ∀ s, IsAbsent (c.text k s) := by
  rw [decided?_eq, Option.or_eq_none_iff, Option.or_eq_none_iff, ← isAbsent_iff, ← isAbsent_iff,
    ← isAbsent_iff]
  constructor
  · rintro ⟨harguments, henvironment, hfile⟩ s
    cases s with
    | arguments => exact harguments
    | environment => exact henvironment
    | file => exact hfile
  · exact fun h => ⟨h _, h _, h _⟩

theorem decided?_eq_some {c : Sources} {k : TextSetting} {text : String} :
    c.decided? k = some text ↔ ∃ s, c.Decides k s text := by
  rw [decided?_eq, Option.or_eq_some_iff, Option.or_eq_some_iff, ← isAbsent_iff, ← isAbsent_iff,
    counts_iff, counts_iff, counts_iff]
  constructor
  · rintro (⟨htext, hcounts⟩ | ⟨harguments, ⟨htext, hcounts⟩ | ⟨henvironment, htext, hcounts⟩⟩)
    · refine ⟨.arguments, htext, hcounts, fun above habove => ?_⟩
      cases above <;> simp [Source.below] at habove
    · refine ⟨.environment, htext, hcounts, fun above habove => ?_⟩
      cases above with
      | arguments => exact harguments
      | environment => simp [Source.below] at habove
      | file => simp [Source.below] at habove
    · refine ⟨.file, htext, hcounts, fun above habove => ?_⟩
      cases above with
      | arguments => exact harguments
      | environment => exact henvironment
      | file => simp [Source.below] at habove
  · rintro ⟨s, htext, hcounts, hhighest⟩
    cases s with
    | arguments => exact .inl ⟨htext, hcounts⟩
    | environment =>
      exact .inr ⟨hhighest .arguments (by decide), .inl ⟨htext, hcounts⟩⟩
    | file =>
      exact .inr ⟨hhighest .arguments (by decide),
        .inr ⟨hhighest .environment (by decide), htext, hcounts⟩⟩

theorem Decides.unique {c : Sources} {k : TextSetting} {s s' : Source} {text text' : String}
    (h : c.Decides k s text) (h' : c.Decides k s' text') : text = text' :=
  Option.some.inj ((decided?_eq_some.mpr ⟨s, h⟩).symm.trans (decided?_eq_some.mpr ⟨s', h'⟩))

theorem Decides.not_absent {c : Sources} {k : TextSetting} {s : Source} {text : String}
    (h : c.Decides k s text) : ¬ ∀ s, IsAbsent (c.text k s) := by
  intro habsent
  have hblank := habsent s text h.given
  rw [h.counts] at hblank
  cases hblank

/-! ## What settings are resolved to -/

/-- Of the sources only the texts that decide matter, and what is given of the other settings. -/
theorem resolve_eq (c : Sources) : c.resolve =
    match c.decided? .token with
    | none => .error .missingToken
    | some token =>
      match c.decided? .baseUrl with
      | none => .error .missingBaseUrl
      | some text =>
        match Url.parse (Text.trim text) with
        | .error e => .error (.invalidBaseUrl text e)
        | .ok baseUrl =>
          if c.outDirectory = "" then .error .emptyOutDirectory
          else .ok ⟨baseUrl, Text.trim token, c.outDirectory, c.concurrency, c.collision⟩ := by
  have hdecided (k : TextSetting) (setting : Layer → Option String)
      (h : ∀ l : Layer, setting l = l.text k) :
      firstNonBlank? ([c.arguments, .ofEnvironment c.environment, c.file].map setting) =
        c.decided? k := by
    cases k <;> simp only [List.map_cons, List.map_nil, h] <;> rfl
  have hgiven {α : Type} (setting : Layer → Option α)
      (h : setting (.ofEnvironment c.environment) = none) :
      [c.arguments, .ofEnvironment c.environment, c.file].findSome? setting =
        (setting c.arguments).or (setting c.file) := by
    simp only [List.findSome?_cons, h]
    cases setting c.arguments <;> cases setting c.file <;> rfl
  unfold resolve Settings.resolve
  simp only [hdecided .token (·.token) fun _ => rfl, hdecided .baseUrl (·.baseUrl) fun _ => rfl,
    hgiven (·.outDirectory) rfl, hgiven (·.concurrency) rfl, hgiven (·.collision) rfl,
    String.isEmpty_iff, outDirectory, concurrency, collision]
  cases c.decided? .token with
  | none => rfl
  | some token =>
    cases c.decided? .baseUrl with
    | none => rfl
    | some text =>
      dsimp only
      cases Url.parse (Text.trim text) <;> rfl

/-- The outcome is either the first fault or the settings that the sources come to. -/
theorem resolve_outcome (c : Sources) :
    (∃ e, c.resolve = .error e ∧ c.Fault e ∧ ∀ e', c.Fault e' → e.place ≤ e'.place) ∨
      ∃ s, c.resolve = .ok s ∧ c.Settles s := by
  -- The settings are looked at in the order of the faults: what was found rules out those before.
  have hresolve := c.resolve_eq
  cases htoken : c.decided? .token with
  | none =>
    simp only [htoken] at hresolve
    refine .inl ⟨_, hresolve, .missingToken (decided?_eq_none.mp htoken), ?_⟩
    rintro _ (_ | _ | _ | _) <;> simp [SettingsError.place]
  | some token =>
    obtain ⟨source, hsource⟩ := decided?_eq_some.mp htoken
    cases hbaseUrl : c.decided? .baseUrl with
    | none =>
      simp only [htoken, hbaseUrl] at hresolve
      refine .inl ⟨_, hresolve, .missingBaseUrl (decided?_eq_none.mp hbaseUrl), ?_⟩
      rintro _ (hnone | _ | _ | _)
      · exact (hsource.not_absent hnone).elim
      all_goals simp [SettingsError.place]
    | some text =>
      obtain ⟨place, hplace⟩ := decided?_eq_some.mp hbaseUrl
      cases hparse : Url.parse (Text.trim text) with
      | error e =>
        simp only [htoken, hbaseUrl, hparse] at hresolve
        refine .inl ⟨_, hresolve, .invalidBaseUrl hplace hparse, ?_⟩
        rintro _ (hnone | hnone | _ | _)
        · exact (hsource.not_absent hnone).elim
        · exact (hplace.not_absent hnone).elim
        all_goals simp [SettingsError.place]
      | ok baseUrl =>
        simp only [htoken, hbaseUrl, hparse] at hresolve
        by_cases hempty : c.outDirectory = ""
        · rw [if_pos hempty] at hresolve
          refine .inl ⟨_, hresolve, .emptyOutDirectory hempty, ?_⟩
          rintro _ (hnone | hnone | ⟨hother, herror⟩ | _)
          · exact (hsource.not_absent hnone).elim
          · exact (hplace.not_absent hnone).elim
          · rw [hplace.unique hother, herror] at hparse
            cases hparse
          · exact Nat.le_refl _
        · rw [if_neg hempty] at hresolve
          exact .inr ⟨_, hresolve, ⟨source, token, hsource, rfl⟩, ⟨place, text, hplace, hparse⟩,
            rfl, hempty, rfl, rfl⟩

theorem Settles.unique {c : Sources} {s s' : Settings} (h : c.Settles s) (h' : c.Settles s') :
    s = s' := by
  obtain ⟨_, token, htoken, htext⟩ := h.token
  obtain ⟨_, token', htoken', htext'⟩ := h'.token
  obtain ⟨_, text, hbaseUrl, hparse⟩ := h.baseUrl
  obtain ⟨_, text', hbaseUrl', hparse'⟩ := h'.baseUrl
  obtain rfl := htoken.unique htoken'
  obtain rfl := hbaseUrl.unique hbaseUrl'
  have hurl : s.baseUrl = s'.baseUrl := Except.ok.inj (hparse.symm.trans hparse')
  cases s
  cases s'
  simp only [Settings.mk.injEq]
  exact ⟨hurl, htext.trans htext'.symm, h.outDirectory.trans h'.outDirectory.symm,
    h.concurrency.trans h'.concurrency.symm, h.collision.trans h'.collision.symm⟩

/-- Sources that come to settings have no fault. -/
theorem Settles.no_fault {c : Sources} {s : Settings} (h : c.Settles s) {e : SettingsError} :
    ¬ c.Fault e := by
  obtain ⟨_, token, htoken, _⟩ := h.token
  obtain ⟨_, text, hbaseUrl, hparse⟩ := h.baseUrl
  rintro (hnone | hnone | ⟨hother, herror⟩ | hempty)
  · exact htoken.not_absent hnone
  · exact hbaseUrl.not_absent hnone
  · rw [hbaseUrl.unique hother, herror] at hparse
    cases hparse
  · exact h.nonempty hempty

/-- Of one setting there is one fault at most. -/
theorem Fault.unique {c : Sources} {e e' : SettingsError} (h : c.Fault e) (h' : c.Fault e')
    (hplace : e.place = e'.place) : e = e' := by
  cases h with
  | invalidBaseUrl hdecides herror =>
    cases h' with
    | invalidBaseUrl hdecides' herror' =>
      obtain rfl := hdecides.unique hdecides'
      rw [herror] at herror'
      cases herror'
      rfl
    | _ => cases hplace
  | _ => cases h' <;> first | rfl | cases hplace

theorem resolve_eq_ok {c : Sources} {s : Settings} : c.resolve = .ok s ↔ c.Settles s := by
  constructor
  · intro h
    rcases c.resolve_outcome with ⟨e, hresolve, _⟩ | ⟨s', hresolve, hsettles⟩
    · rw [hresolve] at h
      cases h
    · rw [hresolve] at h
      cases h
      exact hsettles
  · intro h
    rcases c.resolve_outcome with ⟨e, _, hfault, _⟩ | ⟨s', hresolve, hsettles⟩
    · exact (h.no_fault hfault).elim
    · rw [hresolve, hsettles.unique h]

theorem resolve_eq_error {c : Sources} {e : SettingsError} :
    c.resolve = .error e ↔ c.Fault e ∧ ∀ e', c.Fault e' → e.place ≤ e'.place := by
  constructor
  · intro h
    rcases c.resolve_outcome with ⟨e', hresolve, hfirst⟩ | ⟨s, hresolve, _⟩
    · rw [hresolve] at h
      cases h
      exact hfirst
    · rw [hresolve] at h
      cases h
  · rintro ⟨hfault, hfirst⟩
    rcases c.resolve_outcome with ⟨e', hresolve, hfault', hfirst'⟩ | ⟨s, _, hsettles⟩
    · have hplace : e'.place = e.place := Nat.le_antisymm (hfirst' e hfault) (hfirst e' hfault')
      rw [hresolve, hfault'.unique hfault hplace]
    · exact (hsettles.no_fault hfault).elim

/-! ## What does not matter -/

/-- The outcome up to the blanks around a text that an error shows. -/
def trimmedOutcome (c : Sources) : Except SettingsError Settings :=
  c.resolve.mapError SettingsError.trimmed

theorem trimmedOutcome_eq (c : Sources) : c.trimmedOutcome =
    match (c.decided? .token).map Text.trim with
    | none => .error .missingToken
    | some token =>
      match (c.decided? .baseUrl).map Text.trim with
      | none => .error .missingBaseUrl
      | some text =>
        match Url.parse text with
        | .error e => .error (.invalidBaseUrl text e)
        | .ok baseUrl =>
          if c.outDirectory = "" then .error .emptyOutDirectory
          else .ok ⟨baseUrl, token, c.outDirectory, c.concurrency, c.collision⟩ := by
  rw [trimmedOutcome, resolve_eq]
  cases c.decided? .token with
  | none => rfl
  | some token =>
    cases c.decided? .baseUrl with
    | none => rfl
    | some text =>
      dsimp only [Option.map_some]
      cases Url.parse (Text.trim text) with
      | error e => rfl
      | ok baseUrl =>
        dsimp only
        split <;> rfl

/-- Sources that say the same of the settings that are no texts, as far as it counts. -/
structure SameOthers (c c' : Sources) : Prop where
  outDirectory : c.outDirectory = c'.outDirectory
  concurrency : c.concurrency = c'.concurrency
  collision : c.collision = c'.collision

theorem SameOthers.resolve {c c' : Sources} (h : c.SameOthers c')
    (htexts : ∀ k, c.decided? k = c'.decided? k) : c.resolve = c'.resolve := by
  rw [c.resolve_eq, c'.resolve_eq, htexts, htexts, h.outDirectory, h.concurrency, h.collision]

theorem SameOthers.trimmedOutcome {c c' : Sources} (h : c.SameOthers c')
    (htexts : ∀ k, (c.decided? k).map Text.trim = (c'.decided? k).map Text.trim) :
    c.trimmedOutcome = c'.trimmedOutcome := by
  rw [c.trimmedOutcome_eq, c'.trimmedOutcome_eq, htexts, htexts, h.outDirectory, h.concurrency,
    h.collision]

theorem sameOthers_withText (c : Sources) (k : TextSetting) (s : Source) (value : Option String) :
    (c.withText k s value).SameOthers c := by
  cases s <;> cases k <;> exact ⟨rfl, rfl, rfl⟩

theorem SameOthers.trans_symm {a b c : Sources} (h : a.SameOthers c) (h' : b.SameOthers c) :
    a.SameOthers b :=
  ⟨h.outDirectory.trans h'.outDirectory.symm, h.concurrency.trans h'.concurrency.symm,
    h.collision.trans h'.collision.symm⟩

theorem sameOthers_withTexts (c : Sources) (k : TextSetting) (s : Source)
    (value value' : Option String) : (c.withText k s value).SameOthers (c.withText k s value') :=
  (sameOthers_withText c k s value).trans_symm (sameOthers_withText c k s value')

theorem text_withText_self (c : Sources) (k : TextSetting) (s : Source) (value : Option String) :
    (c.withText k s value).text k s = value := by
  cases s with
  | environment => exact if_pos rfl
  | _ => cases k <;> rfl

theorem text_withText_of_ne (c : Sources) {k k' : TextSetting} {s s' : Source}
    (value : Option String) (h : k' ≠ k ∨ s' ≠ s) :
    (c.withText k s value).text k' s' = c.text k' s' := by
  by_cases hs : s' = s
  · subst hs
    have hk : k' ≠ k := h.resolve_right fun hne => hne rfl
    have hvariable : k'.variable ≠ k.variable := by
      cases k <;> cases k' <;> first | decide | exact (hk rfl).elim
    cases s' with
    | environment => exact if_neg hvariable
    | _ => cases k <;> cases k' <;> first | rfl | exact (hk rfl).elim
  · cases s <;> cases s' <;> first | rfl | exact (hs rfl).elim

/-- No source is below itself, nor above one that is below it. -/
theorem ne_of_below {s s' above : Source} (hs : s' ∈ s.below) (h : above = s ∨ s ∈ above.below) :
    above ≠ s' := by
  rintro rfl
  revert hs h
  cases above <;> cases s <;> decide

/-- Below the source that decides another text changes nothing. -/
theorem Decides.withText {c : Sources} {k : TextSetting} {s s' : Source} {text : String}
    (h : c.Decides k s text) (hs : s' ∈ s.below) (value : Option String) :
    (c.withText k s' value).Decides k s text := by
  have hkept {above : Source} (habove : above = s ∨ s ∈ above.below) :
      (c.withText k s' value).text k above = c.text k above :=
    text_withText_of_ne c value (.inr (ne_of_below hs habove))
  refine ⟨(hkept (.inl rfl)).trans h.given, h.counts, fun above habove => ?_⟩
  rw [hkept (.inr habove)]
  exact h.highest above habove

theorem Decides.decided?_withText {c : Sources} {k : TextSetting} {s s' : Source} {text : String}
    (h : c.Decides k s text) (hs : s' ∈ s.below) (value : Option String) (k' : TextSetting) :
    (c.withText k s' value).decided? k' = c.decided? k' := by
  by_cases hk : k' = k
  · subst hk
    rw [decided?_eq_some.mpr ⟨s, h⟩, decided?_eq_some.mpr ⟨s, h.withText hs value⟩]
  · simp only [decided?, text_withText_of_ne c value (.inl hk)]

theorem decided?_withText_congr {α : Type} {c : Sources} {k : TextSetting} {s : Source}
    {value value' : Option String} (f : String → α)
    (h : (value.bind Text.nonBlank?).map f = (value'.bind Text.nonBlank?).map f)
    (k' : TextSetting) :
    ((c.withText k s value).decided? k').map f = ((c.withText k s value').decided? k').map f := by
  have htexts (s' : Source) : (((c.withText k s value).text k' s').bind Text.nonBlank?).map f =
      (((c.withText k s value').text k' s').bind Text.nonBlank?).map f := by
    by_cases hplace : k' ≠ k ∨ s' ≠ s
    · rw [text_withText_of_ne c value hplace, text_withText_of_ne c value' hplace]
    · obtain ⟨rfl, rfl⟩ : k' = k ∧ s' = s := by tauto
      rw [text_withText_self, text_withText_self, h]
  simp only [decided?_eq, Option.map_or, htexts]

/-- Configuration files that say the same wherever the arguments leave the file a say. -/
structure SameFile (arguments file file' : Layer) : Prop where
  texts : ∀ k, file'.text k = file.text k
  outDirectory : arguments.outDirectory = none → file'.outDirectory = file.outDirectory
  concurrency : arguments.concurrency = none → file'.concurrency = file.concurrency
  collision : arguments.collision = none → file'.collision = file.collision

theorem or_congr_of_none {α : Type} {given below below' : Option α}
    (h : given = none → below' = below) : given.or below' = given.or below := by
  cases given with
  | none => exact h rfl
  | some _ => rfl

theorem SameFile.sameOthers {c : Sources} {file' : Layer} (h : SameFile c.arguments c.file file') :
    ({ c with file := file' } : Sources).SameOthers c where
  outDirectory := congrArg (·.getD Settings.defaultOutDirectory) (or_congr_of_none h.outDirectory)
  concurrency := congrArg (·.getD BatchOptions.defaultConcurrency) (or_congr_of_none h.concurrency)
  collision := congrArg (·.getD Collision.overwrite) (or_congr_of_none h.collision)

/-- Settings are resolved exactly if there is no fault, and the error is about the first fault. The
highest text that counts decides: below it the setting may say anything or nothing. A blank text is
as good as none, and blanks around a text change nothing but the text that an error shows. Of the
other settings the arguments decide those that they give, the file decides the rest, and the
environment has no say. -/
theorem resolve_layered (c : Sources) :
    (∀ s, c.resolve = .ok s ↔ c.Settles s) ∧
      (∀ e, c.resolve = .error e ↔ c.Fault e ∧ ∀ e', c.Fault e' → e.place ≤ e'.place) ∧
      (∀ k s text, c.Decides k s text → ∀ s' ∈ s.below, ∀ value,
        (c.withText k s' value).resolve = c.resolve) ∧
      (∀ k s value value', IsAbsent value → IsAbsent value' →
        (c.withText k s value).resolve = (c.withText k s value').resolve) ∧
      (∀ k s text text', Text.trim text = Text.trim text' →
        (c.withText k s text).trimmedOutcome = (c.withText k s text').trimmedOutcome) ∧
      (∀ file', SameFile c.arguments c.file file' →
        ({ c with file := file' } : Sources).resolve = c.resolve) ∧
      ∀ environment', (∀ k : TextSetting, environment' k.variable = c.environment k.variable) →
        ({ c with environment := environment' } : Sources).resolve = c.resolve := by
  refine ⟨fun s => resolve_eq_ok, fun e => resolve_eq_error, ?_, ?_, ?_, ?_, ?_⟩
  · intro k s text hdecides s' hs' value
    exact (sameOthers_withText c k s' value).resolve (hdecides.decided?_withText hs' value)
  · intro k s value value' hvalue hvalue'
    rw [isAbsent_iff] at hvalue hvalue'
    have hnone : (value.bind Text.nonBlank?).map id = (value'.bind Text.nonBlank?).map id := by
      rw [hvalue, hvalue']
    refine (sameOthers_withTexts c k s value value').resolve fun k' => ?_
    simpa using decided?_withText_congr (c := c) (k := k) (s := s) id hnone k'
  · intro k s text text' htrim
    exact (sameOthers_withTexts c k s text text').trimmedOutcome
      (decided?_withText_congr Text.trim (nonBlank?_trim_congr htrim))
  · intro file' hfile
    refine hfile.sameOthers.resolve fun k => ?_
    simp only [decided?, text, hfile.texts]
  · intro environment' henvironment
    refine SameOthers.resolve ⟨rfl, rfl, rfl⟩ fun k => ?_
    simp only [decided?, text, henvironment]

/-- Sources with a blank token above one that counts, and with two faults. -/
def faulty : Sources where
  arguments := { Layer.empty with token := " ", baseUrl := "not a url", outDirectory := "" }
  environment := fun name => if name = Layer.tokenVariable then some " t " else none
  file := { Layer.empty with token := "u", baseUrl := "http://h/" }

/-- The token in the file does not matter, the blank one might be missing, and the error is about
the base URL. -/
theorem resolve_layered_faulty :
    faulty.Decides .token .environment " t " ∧ faulty.Fault .emptyOutDirectory ∧
      faulty.resolve = .error (.invalidBaseUrl "not a url" .noScheme) ∧
      (∀ value, (faulty.withText .token .file value).resolve = faulty.resolve) ∧
      (faulty.withText .token .arguments none).resolve =
        (faulty.withText .token .arguments (some " ")).resolve := by
  obtain ⟨_, herror, hbelow, habsent, _⟩ := resolve_layered faulty
  have hblank : IsAbsent (some " ") := by
    rintro _ ⟨⟩
    decide
  have htoken : faulty.Decides .token .environment " t " := by
    refine ⟨rfl, by decide, fun above habove => ?_⟩
    cases above with
    | arguments => exact hblank
    | _ => simp [Source.below] at habove
  have hbaseUrl : faulty.Decides .baseUrl .arguments "not a url" := by
    refine ⟨rfl, by decide, fun above habove => ?_⟩
    cases above <;> simp [Source.below] at habove
  have hparse : Url.parse (Text.trim "not a url") = .error .noScheme := rfl
  refine ⟨htoken, .emptyOutDirectory rfl, ?_, hbelow _ _ _ htoken _ (by decide),
    habsent _ _ _ _ (fun _ h => by cases h) hblank⟩
  refine (herror _).mpr ⟨.invalidBaseUrl hbaseUrl hparse, ?_⟩
  rintro _ (hnone | hnone | _ | _)
  · exact (htoken.not_absent hnone).elim
  · exact (hbaseUrl.not_absent hnone).elim
  all_goals simp [SettingsError.place]

end Sources

end ApiTypings
