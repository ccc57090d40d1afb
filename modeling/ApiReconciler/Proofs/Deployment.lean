import ApiReconciler.Proofs.Gateway.Pages
import ApiReconciler.Proofs.Reconcile.Failures

/-!
# `ApiReconciler.Proofs.Deployment` — a deployment and the ones it supersedes

Once a deployment is made, deploying cannot fail any more. The others are listed and a deletion of each is
attempted; what comes back only decides whether the deployment is reported as left over. So the deletions that
are asked for are known from the listing alone (`trace_deleteOthers`), and the report is read off the answers
to them (`Exchange.undeleted?`). A listing that fails leaves nothing to delete, and a report of nothing.

## Contents
- `superseded`, `Prunes`: the deletions, and pruning by the replies that list the deployments.
- `trace_deleteOthers`, `trace_pruneDeployments`, `runs_deploy`: the loop and the programs around it.
- `deploy_keeps_only_new`: **every deployment and every pruning**, by any script.
-/

namespace ApiReconciler

open Program

variable {api keep : String} {xs : List Exchange}

/-! ## Deleting what is superseded -/

/-- The deployment that a refused deletion was for. -/
def Exchange.undeleted? : Exchange → Option String
  | .call (.deleteDeployment _ id) (.error _) => some id
  | _ => none

/-- The listed deployments, without the one that is kept. -/
def superseded (keep : String) (items : List Object) : List String :=
  (items.filterMap textId?).filter (· ≠ keep)

theorem superseded_cons {item : Object} {items : List Object} {id : String}
    (h : item.get? "id" = some (.text id)) :
    superseded keep (item :: items) =
      if id = keep then superseded keep items else id :: superseded keep items := by
  rw [superseded, List.filterMap_cons_some (textId?_of_text h)]
  split
  · next hkeep => exact List.filter_cons_of_neg (by simpa using hkeep)
  · next hother => exact List.filter_cons_of_pos (by simpa using hother)

theorem keep_not_superseded (keep : String) (items : List Object) : keep ∉ superseded keep items :=
  fun h => of_decide_eq_true (List.mem_filter.mp h).2 rfl

/-- An attempt to delete a deployment is one call, and whatever is answered, the program goes on. -/
theorem trace_tryDelete_bind {α : Type} {id : String} {f : Bool → Program α} {r : Except Failure α}
    (h : ((tryDelete api id).bind f).Trace xs r) :
    ∃ answer ys, xs = .call (.deleteDeployment api id) answer :: ys ∧ (f (!answer.isOk)).Trace ys r := by
  obtain ⟨answer, ys, rfl, h⟩ := h
  cases answer with
  | ok reply => exact ⟨.ok reply, ys, rfl, h⟩
  | error fault => exact ⟨.error fault, ys, rfl, h⟩

theorem undeleted_cons (id : String) (answer : Answer) (xs : List Exchange) :
    (Exchange.call (.deleteDeployment api id) answer :: xs).filterMap Exchange.undeleted? =
      if !answer.isOk then id :: xs.filterMap Exchange.undeleted? else xs.filterMap Exchange.undeleted? := by
  cases answer <;> rfl

/-- **The loop asks for each deletion once, in order, whatever is answered, and reports the refused ones.** -/
theorem trace_deleteOthers {items : List Object} {r : Except Failure (List String)}
    (hids : ∀ item ∈ items, Identified item) (h : (deleteOthers api keep items).Trace xs r) :
    r = .ok (xs.filterMap Exchange.undeleted?) ∧
      xs.map Exchange.request = (superseded keep items).map fun id => .call (.deleteDeployment api id) := by
  induction items generalizing xs r with
  | nil =>
      obtain ⟨rfl, rfl⟩ := h
      exact ⟨rfl, rfl⟩
  | cons item items ih =>
      obtain ⟨⟨id, hid⟩, hids⟩ := List.forall_mem_cons.mp hids
      rw [deleteOthers_cons api keep hid] at h
      rw [superseded_cons hid]
      split at h
      · next hkeep =>
          rw [if_pos hkeep]
          exact ih hids h
      · next hother =>
          rw [if_neg hother]
          obtain ⟨answer, ys, rfl, hloop⟩ := trace_tryDelete_bind h
          rcases trace_bind.mp hloop with ⟨left, us, vs, rfl, hrest, rfl, rfl⟩ | ⟨e, -, hrest⟩
          · obtain ⟨hleft, hrequests⟩ := ih hids hrest
            rw [Except.ok.inj hleft, List.append_nil, undeleted_cons, List.map_cons, hrequests]
            exact ⟨rfl, rfl⟩
          · -- what follows gives a report, so it does not fail
            cases (ih hids hrest).1

/-- After a listing, pruning attempts the deletions and reports the refused ones. -/
theorem trace_pruneDeployments {items : List Object} {r : Except Failure (List String)}
    (hids : ∀ item ∈ items, Identified item)
    (h : (pruneDeployments api keep).Trace (.list (.deployments api) (.ok items) :: xs) r) :
    r = .ok (xs.filterMap Exchange.undeleted?) ∧
      xs.map Exchange.request = (superseded keep items).map fun id => .call (.deleteDeployment api id) := by
  obtain ⟨_, _, he, h⟩ := h
  obtain ⟨hlist, rfl⟩ := List.cons_eq_cons.mp he
  cases hlist
  exact trace_deleteOthers hids h

/-- After a listing that failed, there is nothing to delete and nothing to report. -/
theorem trace_pruneDeployments_unlisted {fault : CallFault} {r : Except Failure (List String)}
    (h : (pruneDeployments api keep).Trace (.list (.deployments api) (.error fault) :: xs) r) :
    xs = [] ∧ r = .ok [] := by
  obtain ⟨_, _, he, h⟩ := h
  obtain ⟨hlist, rfl⟩ := List.cons_eq_cons.mp he
  cases hlist
  exact h

/-! ## Deploying -/

section

variable {σ : Type} {b : Backend σ} {s s₁ s₂ : σ} {stage : String}

/-- A refused deployment ends it all. -/
theorem runs_deploy_refused {fault : CallFault}
    (h : b.answer (.createDeployment api stage) s = (.error fault, s₁)) :
    Runs b (deploy api stage) s [.call (.createDeployment api stage) (.error fault)]
      (.error (.deploying ⟨.deploy stage, api, ⟨Operation.createDeployment.name, fault⟩⟩)) s₁ :=
  (runs_perform_error h).relabel_call.bind_error

/-- A deployment that was made is the result, whatever pruning reports. -/
theorem runs_deploy {reply : Object} {new : String} {ys : List Exchange} {left : List String}
    (h : b.answer (.createDeployment api stage) s = (.ok reply, s₁))
    (hnew : reply.get? "id" = some (.text new))
    (hprune : Runs b (pruneDeployments api new) s₁ ys (.ok left) s₂) :
    Runs b (deploy api stage) s (.call (.createDeployment api stage) (.ok reply) :: ys) (.ok new) s₂ := by
  rw [deploy_eq]
  have hnote : Runs b (noteSuperseded api left) s₂ [] (.ok ()) s₂ := by
    unfold noteSuperseded
    split
    · exact (runs_done ()).note
    · exact runs_done ()
  have hrest : Runs b ((pruneDeployments api new).bind fun left =>
      (noteSuperseded api left).bind fun _ => .done new) s₁ (ys ++ ([] ++ [])) (.ok new) s₂ :=
    hprune.bind (hnote.bind (runs_done new))
  rw [List.append_nil, List.append_nil] at hrest
  exact (runs_perform_ok h).relabel_ok.bind ((runs_textMember hnew).bind hrest.note)

end

/-! ## Scripts -/

/-- Pruning by the replies to the listing. If one of them is a fault, nothing is deleted. If they are all
pages, each listed deployment but the one to keep is deleted, in the order of the pages, and the refused
deletions are reported. -/
inductive Prunes (api keep : String) (replies : List Answer) : List Exchange → List String → Prop
  | unlisted {fault : CallFault} (hfault : .error fault ∈ replies) :
    Prunes api keep replies [.list (.deployments api) (.error fault)] []
  | listed {pages : List Object} {deletions : List Exchange} (hpages : replies = pages.map .ok)
      (hdeletions : deletions.map Exchange.request =
        (superseded keep (pages.flatMap Script.items)).map fun id => .call (.deleteDeployment api id)) :
    Prunes api keep replies
      (.list (.deployments api) (.ok (pages.flatMap Script.items)) :: deletions)
      (deletions.filterMap Exchange.undeleted?)

/-- What is kept is not deleted. -/
theorem Prunes.keeps {replies : List Answer} {left : List String} (h : Prunes api keep replies xs left) :
    ∀ x ∈ xs, x.request ≠ .call (.deleteDeployment api keep) := by
  cases h with
  | unlisted => simp
  | listed _ hdeletions =>
      refine List.forall_mem_cons.mpr ⟨by simp, fun x hx he => ?_⟩
      have hmem := List.mem_map_of_mem (f := Exchange.request) hx
      rw [hdeletions, he] at hmem
      obtain ⟨id, hid, he⟩ := List.mem_map.mp hmem
      cases he
      exact keep_not_superseded keep _ hid

/-- If the deployments can be listed, each of them has an identifier. -/
def Script.ListsIdentified (script : Script) : Prop :=
  ∀ pages : List Object, Script.taken (script .getDeployments) = pages.map .ok →
    ∀ item ∈ pages.flatMap Script.items, Identified item

/-- **By a script, pruning comes to its end**, whatever the replies are. -/
theorem prunes_script (paged : Bool) {script : Script} (hids : script.ListsIdentified) (api keep : String) :
    ∃ left, ((pruneDeployments api keep).run (Script.backend paged) script).result = .ok left ∧
      Prunes api keep (Script.taken (script .getDeployments))
        ((pruneDeployments api keep).exchanges (Script.backend paged) script) left := by
  have htrace := trace_run (Script.backend paged) (pruneDeployments api keep) script
  obtain ⟨rest, hx⟩ : ∃ rest, (pruneDeployments api keep).exchanges (Script.backend paged) script =
      .list (.deployments api) (Script.pages none (script .getDeployments)).1 :: rest := by
    have hlist : ((Script.backend paged).list (.deployments api) script).1 =
        (Script.pages none (script .getDeployments)).1 := Script.list_result paged _ script
    rw [← hlist]
    exact ⟨_, rfl⟩
  rcases Script.taken_cases (script .getDeployments) with ⟨pages, hpages⟩ | ⟨fault, hfault⟩
  · rw [Script.pages_of_taken hpages] at hx
    rw [hx] at htrace ⊢
    obtain ⟨hresult, hdeletions⟩ := trace_pruneDeployments (hids pages hpages) htrace
    exact ⟨_, hresult, .listed hpages hdeletions⟩
  · rw [Script.pages_of_fault hfault] at hx
    rw [hx] at htrace ⊢
    obtain ⟨rfl, hresult⟩ := trace_pruneDeployments_unlisted htrace
    exact ⟨_, hresult, .unlisted hfault⟩

/-- **Deploying keeps exactly the new deployment and attempts to delete every other one.** If the deployment
is refused, there is no other call, and that is the failure. If it is made, deploying gives it and does not
fail any more: it prunes the others, and never attempts to delete the new one. Pruning on its own gives the
deployments whose deletion was refused. -/
theorem deploy_keeps_only_new (paged : Bool) (script : Script) (api stage : String) :
    (∀ fault rest, script .createDeployment = .error fault :: rest →
      (deploy api stage).exchanges (Script.backend paged) script =
          [.call (.createDeployment api stage) (.error fault)] ∧
        ((deploy api stage).run (Script.backend paged) script).result =
          .error (.deploying ⟨.deploy stage, api, ⟨Operation.createDeployment.name, fault⟩⟩)) ∧
      (script.ListsIdentified → ∀ reply rest new, script .createDeployment = .ok reply :: rest →
        reply.get? "id" = some (.text new) →
          ((deploy api stage).run (Script.backend paged) script).result = .ok new ∧
            ∃ xs left, (deploy api stage).exchanges (Script.backend paged) script =
                .call (.createDeployment api stage) (.ok reply) :: xs ∧
              Prunes api new (Script.taken (script .getDeployments)) xs left ∧
              ∀ x ∈ xs, x.request ≠ .call (.deleteDeployment api new)) ∧
        (script.ListsIdentified → ∀ keep, ∃ left,
          ((pruneDeployments api keep).run (Script.backend paged) script).result = .ok left ∧
            Prunes api keep (Script.taken (script .getDeployments))
              ((pruneDeployments api keep).exchanges (Script.backend paged) script) left) := by
  refine ⟨fun fault rest hqueue => ?_, fun hids reply rest new hqueue hnew => ?_,
    fun hids keep => prunes_script paged hids api keep⟩
  · have hanswer : (Script.backend paged).answer (.createDeployment api stage) script =
        (.error fault, script.update .createDeployment rest) := by
      simp [Script.backend, Script.next, Call.operation, hqueue]
    have hruns := runs_deploy_refused hanswer
    exact ⟨hruns.exchanges, hruns.result⟩
  · have hanswer : (Script.backend paged).answer (.createDeployment api stage) script =
        (.ok reply, script.update .createDeployment rest) := by
      simp [Script.backend, Script.next, Call.operation, hqueue]
    -- the replies to the listing are still those of the script
    have hsame : script.update .createDeployment rest .getDeployments = script .getDeployments := rfl
    have hids' : (script.update .createDeployment rest).ListsIdentified := by
      unfold Script.ListsIdentified
      rw [hsame]
      exact hids
    obtain ⟨left, hresult, hprunes⟩ := prunes_script paged hids' api new
    rw [hsame] at hprunes
    have hruns := runs_deploy hanswer hnew ⟨hresult, rfl, rfl⟩
    exact ⟨hruns.result, _, left, hruns.exchanges, hprunes, hprunes.keeps⟩

/-- A deployment on the gateway. -/
def hostedDeployment (id : String) : Object := [(.text "id", .text id)]

/-- A page with these deployments, and with what is said of the next page. -/
def deploymentPage (ids : List String) (next : Object) : Object :=
  (.text "items", .list (ids.map fun id => .object (hostedDeployment id))) :: next

/-- Two pages with three deployments, one of them new; the deletion of the first one is refused. -/
def supersededReplies : Script
  | .createDeployment => [.ok [(.text "id", .text "n")]]
  | .getDeployments =>
    [.ok (deploymentPage ["1", "n"] [(.text "position", .text "p")]), .ok (deploymentPage ["2"] [])]
  | .deleteDeployment => [.error (.disconnected "lost")]
  | _ => []

theorem supersededReplies_pruned :
    supersededReplies.ListsIdentified ∧
      ((deploy "a" "live").run (Script.backend true) supersededReplies).result = .ok "n" ∧
      ((deploy "a" "live").exchanges (Script.backend true) supersededReplies).map Exchange.request =
        [.call (.createDeployment "a" "live"), .list (.deployments "a"),
          .call (.deleteDeployment "a" "1"), .call (.deleteDeployment "a" "2")] ∧
      ((pruneDeployments "a" "n").run (Script.backend true) supersededReplies).result = .ok ["1"] := by
  have hids : supersededReplies.ListsIdentified := by
    intro pages hpages item hitem
    have hlisted : (Script.pages none (supersededReplies .getDeployments)).1 =
        .ok (pages.flatMap Script.items) := Script.pages_of_taken hpages
    have hitems : ["1", "n", "2"].map hostedDeployment = pages.flatMap Script.items := Except.ok.inj hlisted
    rw [← hitems] at hitem
    obtain ⟨id, -, rfl⟩ := List.mem_map.mp hitem
    exact ⟨id, rfl⟩
  obtain ⟨-, hdeploy, -⟩ := deploy_keeps_only_new true supersededReplies "a" "live"
  obtain ⟨hresult, -⟩ := hdeploy hids _ _ _ rfl rfl
  exact ⟨hids, hresult, rfl, rfl⟩

end ApiReconciler
