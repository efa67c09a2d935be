import ApiTypings.Proofs.Destination

/-!
# Batches on stores that answer alike

A batch learns of its store only how making the destination and each write ended. So if two
states answer alike, and go on to do so after every write of a module file, a batch does the same
on both: it has the same result and the same events, and the names it takes are the same. What the
files hold has no say in it.

The states are related by any relation that writes keep. A turn ends the same way on related
states and leaves related states; this is carried on over all turns.
-/

namespace ApiTypings

/-- Related states answer alike to writes of module files in a directory, and stay related. -/
def Store.AnswersAlike {σ : Type} (s : Store σ) (dir : String) (R : σ → σ → Prop) : Prop :=
  ∀ (a b : σ) (file path text : String), R a b → Path.ModuleIn dir file path →
    (s.write a path text).2 = (s.write b path text).2 ∧
      R (s.write a path text).1 (s.write b path text).1

namespace Batch

variable {σ : Type}

/-- States of writing that differ in their stores alone, which are related. -/
structure Writing.Alike (R : σ → σ → Prop) (w w' : Writing σ) : Prop where
  result : w.result = w'.result
  taken : w.taken = w'.taken
  events : w.events = w'.events
  cancelled : w.cancelled = w'.cancelled
  store : R w.store w'.store

/-- Runs that differ in the stores they leave alone, which are related. -/
structure Run.Alike (R : σ → σ → Prop) (r r' : Run σ) : Prop where
  outcome : r.outcome = r'.outcome
  events : r.events = r'.events
  cancelled : r.cancelled = r'.cancelled
  store : R r.store r'.store

section
variable {e : Setting σ} {R : σ → σ → Prop} {w w' : Writing σ}

theorem Writing.Alike.pass (h : Writing.Alike R w w') (m : Moment) :
    Writing.Alike R (w.pass e m) (w'.pass e m) where
  result := h.result
  taken := h.taken
  events := congrArg (· ++ e.cancel.events m) h.events
  cancelled := congrArg (· || e.cancel.arrives m) h.cancelled
  store := h.store

/-- A turn ends the same way on related states. -/
theorem turnOf_alike (hstore : e.store.AnswersAlike e.destination R) (h : Writing.Alike R w w')
    (f : Fetched) : turnOf e w f = turnOf e w' f := by
  have hfate : fateOf e w f = fateOf e w' f := by
    have hwrite {file : String}
        (hfile : (choose e.options.collision w.taken (Module.ofDetail f.detail)).file? =
          some file) :
        writeFate e w (Module.ofDetail f.detail) file =
          writeFate e w' (Module.ofDetail f.detail) file := by
      unfold writeFate
      rw [(hstore _ _ _ _ _ h.store ((isModule_of_choose hfile).moduleIn e.destination)).1]
    unfold fateOf
    simp only [← h.taken]
    cases hchoice : choose e.options.collision w.taken (Module.ofDetail f.detail) with
    | rejected file earlier => rfl
    | plain file => exact hwrite (by rw [hchoice]; rfl)
    | overwriting file earlier => exact hwrite (by rw [hchoice]; rfl)
    | qualified file => exact hwrite (by rw [hchoice]; rfl)
  rw [turnOf, turnOf, hfate]

theorem Writing.Alike.process (hstore : e.store.AnswersAlike e.destination R)
    (h : Writing.Alike R w w') (f : Fetched) :
    Writing.Alike R (w.process e f) (w'.process e f) := by
  obtain ⟨hresult, htaken, heffect, hcancelled, hevents⟩ := process_spec e w f
  obtain ⟨hresult', htaken', heffect', hcancelled', hevents'⟩ := process_spec e w' f
  have hturn := turnOf_alike hstore h f
  refine ⟨?_, ?_, ?_, ?_, ?_⟩
  · rw [hresult, hresult', hturn, h.result]
  · rw [htaken, htaken', hturn, h.taken]
  · rw [hevents, hevents', turnEvents, turnEvents, hturn, h.taken, h.events]
  · rw [hcancelled, hcancelled', hturn, h.cancelled]
  · rw [heffect.store_eq, heffect'.store_eq, hturn]
    split
    · exact h.store
    · next file hfile =>
      rw [turnOf_file?] at hfile
      exact (hstore _ _ _ _ _ h.store ((isModule_of_choose hfile).moduleIn e.destination)).2

/-- What writing comes to on related states. -/
theorem conclude_all_alike (hstore : e.store.AnswersAlike e.destination R)
    (h : Writing.Alike R w w') (fs : List Fetched) :
    Run.Alike R (conclude (Writing.all e w fs)) (conclude (Writing.all e w' fs)) := by
  induction fs generalizing w w' with
  | nil =>
    simp only [Writing.all, conclude]
    exact ⟨by rw [h.result], by rw [h.result, h.events], h.cancelled, h.store⟩
  | cons f rest ih =>
    have hpass := h.pass (e := e) (.turn f.position)
    simp only [Writing.all, ← hpass.cancelled, ← hpass.result]
    split
    · split
      · exact ⟨rfl, hpass.events, hpass.cancelled, hpass.store⟩
      · simp only [conclude, Writing.stop, ← hpass.result, ← hpass.events]
        exact ⟨rfl, rfl, hpass.cancelled, hpass.store⟩
    · exact ih (hpass.process hstore f)

end

/-- A batch does the same on related states if it can make its destination in both, or in
neither for the same reason. -/
theorem run_alike {e : Setting σ} {R : σ → σ → Prop}
    (hstore : e.store.AnswersAlike e.destination R) (selection : List Summary) {a b : σ}
    (h : R a b)
    (hensured : (e.store.ensureDirectory a e.destination).2 =
        (e.store.ensureDirectory b e.destination).2 ∧
      R (e.store.ensureDirectory a e.destination).1 (e.store.ensureDirectory b e.destination).1) :
    Run.Alike R (run e selection a) (run e selection b) := by
  cases hrefusal : refusal e selection with
  | some error =>
    rw [run_of_refusal hrefusal, run_of_refusal hrefusal]
    exact ⟨rfl, rfl, rfl, h⟩
  | none =>
    cases ha : e.store.ensureDirectory a e.destination with
    | mk opened error =>
      cases hb : e.store.ensureDirectory b e.destination with
      | mk opened' error' =>
        rw [ha, hb] at hensured
        obtain ⟨rfl, hopened⟩ := hensured
        cases error with
        | some error =>
          rw [run_of_unopened hrefusal ha, run_of_unopened hrefusal hb]
          exact ⟨rfl, rfl, rfl, hopened⟩
        | none =>
          have hopening : Writing.Alike R (openingState e selection opened)
              (openingState e selection opened') := ⟨rfl, rfl, rfl, rfl, hopened⟩
          rw [run_of_opened hrefusal ha, run_of_opened hrefusal hb, generate_eq, generate_eq]
          exact conclude_all_alike hstore hopening _

end Batch

end ApiTypings
