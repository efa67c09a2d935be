import ApiTypings.Proofs.ExitStatus
import ApiTypings.Proofs.Replies
import ApiTypings.Proofs.Scheduling

/-!
# The order of requests

A server may heed how many requests came before, and a run asks it accordingly. The listing takes
the first two requests, and each interface of the selection the one in its place behind them. So
what a run exchanges with a server is what the server says to one request after the other.
-/

namespace ApiTypings

/-! ## Counted exchanges -/

/-- Exchanges in the order of the requests of a server, from one of them on. -/
inductive Server.Counted (server : Server) : Nat → List Exchange → Prop
  | nil (n : Nat) : Counted server n []
  | cons {n : Nat} {url : String} {xs : List Exchange} : Counted server (n + 1) xs →
      Counted server n (⟨url, server.request n url⟩ :: xs)

namespace Server.Counted

variable {server : Server} {n : Nat} {xs ys : List Exchange}

theorem append (h : server.Counted n xs) (h' : server.Counted (n + xs.length) ys) :
    server.Counted n (xs ++ ys) := by
  induction h with
  | nil => exact h'
  | cons _ ih =>
    rw [List.length_cons, Nat.add_comm _ 1, ← Nat.add_assoc] at h'
    exact .cons (ih h')

theorem reply (h : server.Counted n xs) {i : Nat} {x : Exchange} (hx : xs[i]? = some x) :
    x.reply = server.request (n + i) x.url := by
  induction h generalizing i with
  | nil => cases hx
  | cons _ ih =>
    cases i with
    | zero =>
      cases hx
      rfl
    | succ i =>
      rw [List.getElem?_cons_succ] at hx
      rw [ih hx, Nat.add_right_comm, Nat.add_assoc]

end Server.Counted

namespace Client

/-- The listing takes the first two requests, and if there is one, it took both. -/
theorem categories_counted (c : Client) (server : Server) :
    server.Counted 0 (c.categories server).exchanges ∧
      ∀ cs, (c.categories server).result = .ok cs →
        c.Reaches ∧ (c.categories server).exchanges.length = 2 := by
  have hproject := projectId_answers c (server.request 0)
  cases hresult : (c.projectId (server.request 0)).result with
  | error e =>
    obtain ⟨hexchanges, herror⟩ := categories_of_error hresult
    rw [hexchanges, herror]
    refine ⟨?_, nofun⟩
    by_cases hreaches : c.Reaches
    · obtain ⟨url, hurl⟩ := hreaches.asks .project
      rw [(hproject.asked url hurl).1]
      exact .cons (.nil _)
    · rw [(hproject.unasked hreaches).1]
      exact .nil _
  | ok project =>
    have hreaches := hproject.reaches hresult
    obtain ⟨url, hurl⟩ := hreaches.asks .project
    obtain ⟨url', hurl'⟩ := hreaches.asks (.menu project)
    have hmenu := menu_answers c (server.request 1) project
    rw [(categories_of_ok hresult).1, (hproject.asked url hurl).1, (hmenu.asked url' hurl').1]
    exact ⟨.cons (.cons (.nil _)), fun _ _ => ⟨hreaches, rfl⟩⟩

end Client

/-! ## Numbered events -/

namespace Batch

variable {σ : Type}

/-- A batch that comes to a result asks for each interface once, in selection order. -/
theorem run_started {e : Setting σ} {selection : List Summary} {store : σ} {r : BatchResult}
    (h : (run e selection store).cancelled = false)
    (hr : (run e selection store).outcome = .ok r) :
    (run e selection store).events.filterMap BatchEvent.started? = selection.map (·.id) := by
  obtain ⟨hselection, opened, _, hrun⟩ := run_ok hr
  rw [hrun] at h ⊢
  have hfetching := fetching_of_not_cancelled hselection h
  obtain ⟨before, after, hbefore, hafter, hevents⟩ := events_split opened hfetching
  rw [hevents, List.filterMap_append, List.filterMap_append, started_silent hbefore,
    started_silent hafter, List.nil_append, List.append_nil]
  exact Fetching.run_started _ _ _ _ _ hfetching

end Batch

namespace Command

variable {w : World} {session : Session}

/-- The exchanges of numbered events are the calls for what was started, each with its place. -/
theorem exchanges_numbered (started : Nat) (events : List BatchEvent) :
    ((numbered started events).flatMap fun (position, ev) => eventExchanges w session position ev) =
      ((events.filterMap BatchEvent.started?).zipIdx started).flatMap fun (id, position) =>
        (detailCall w session position id).exchanges := by
  induction events generalizing started with
  | nil => rfl
  | cons ev events ih =>
    cases ev with
    | fetchStarted id =>
      have hid : (BatchEvent.fetchStarted id).started? = some id := rfl
      rw [numbered, List.flatMap_cons, ih, List.filterMap_cons_some hid, List.zipIdx_cons,
        List.flatMap_cons]
      rfl
    | _ => exact ih started

theorem counted_details (hreaches : session.client.Reaches) (started : Nat) (ids : List Nat) :
    w.network.Counted (started + 2) ((ids.zipIdx started).flatMap fun (id, position) =>
      (detailCall w session position id).exchanges) := by
  induction ids generalizing started with
  | nil => exact .nil _
  | cons id ids ih =>
    obtain ⟨url, hurl⟩ := hreaches.asks (.detail id)
    have hcall := ((Client.detail_answers _ (w.network.request (started + 2)) id).asked url hurl).1
    rw [List.zipIdx_cons, List.flatMap_cons]
    change w.network.Counted _ ((session.client.detail _ id).exchanges ++ _)
    rw [hcall]
    exact .cons (Nat.add_right_comm started 2 1 ▸ ih (started + 1))

/-! ## Runs -/

theorem openSession_counted (w : World) (o : Options) (target : String) :
    w.network.Counted 0 (openSession w o target).exchanges ∧
      ∀ session, (openSession w o target).result = .ok session →
        session.client.Reaches ∧ (openSession w o target).exchanges.length = 2 := by
  unfold openSession
  split
  split
  · refine ⟨.nil _, fun session hsession => ?_⟩
    simp only [reduceCtorEq] at hsession
  · next settings _ =>
    obtain ⟨hcounted, htwo⟩ :=
      (Client.atBase settings.baseUrl settings.token).categories_counted w.network
    refine ⟨hcounted, fun session hsession => ?_⟩
    simp only at hsession
    split at hsession
    · simp only [reduceCtorEq] at hsession
    · next cs hcs =>
      obtain rfl := Except.ok.inj hsession
      exact htwo cs hcs

theorem exchanges_generateModules (w : World) (a : Opening) (session : Session)
    (selected : List Summary) :
    (generateModules w a session selected).exchanges = a.exchanges ++
      (((Batch.run (batchSetting w session) selected w.files).events.filterMap
        BatchEvent.started?).zipIdx 0).flatMap fun (id, position) =>
          (detailCall w session position id).exchanges := by
  rw [← exchanges_numbered]
  unfold generateModules
  simp only
  cases (Batch.run (batchSetting w session) selected w.files).outcome <;> rfl

/-- A batch that comes to a result exchanges what the calls for the selection do, each made in its
place. -/
theorem generateModules_asks {a : Opening} {selected : List Summary} {r : BatchResult}
    (hr : (Batch.run (batchSetting w session) selected w.files).outcome = .ok r) :
    (generateModules w a session selected).exchanges =
      a.exchanges ++ ((selected.map (·.id)).zipIdx 0).flatMap fun (id, position) =>
        (detailCall w session position id).exchanges := by
  rw [exchanges_generateModules, Batch.run_started (batch_not_cancelled w session selected) hr]

/-- The exchanges of a run are those of the requests of its server, in their order. -/
theorem run_counted (w : World) : w.network.Counted 0 (run w).exchanges := by
  unfold run
  simp only
  split
  · exact .nil _
  · exact .nil _
  · exact .nil _
  · exact .nil _
  · next o _ =>
    have hopening := (openSession_counted w o "yapi2ts_cli::commands::list").1
    change w.network.Counted 0 (list w o).exchanges
    unfold list
    simp only
    split <;> exact hopening
  · next o _ =>
    obtain ⟨hopening, htwo⟩ := openSession_counted w o "yapi2ts_cli::commands::generate"
    change w.network.Counted 0 (generate w o).exchanges
    unfold generate
    simp only
    split
    · exact hopening
    · next session hsession =>
      split
      · exact hopening
      · exact hopening
      · obtain ⟨hreaches, hlength⟩ := htwo session hsession
        rw [exchanges_generateModules]
        refine hopening.append ?_
        rw [hlength]
        exact counted_details hreaches 0 _

/-- The reply in an exchange of a run is the one to the request in its place. -/
theorem run_replies (w : World) {i : Nat} {x : Exchange} (hx : (run w).exchanges[i]? = some x) :
    x.reply = w.network.request i x.url := by
  have hreply := (run_counted w).reply hx
  rwa [Nat.zero_add] at hreply

end Command

end ApiTypings
