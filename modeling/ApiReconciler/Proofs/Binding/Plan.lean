import ApiReconciler.Binding.Bind
import ApiReconciler.Gateway.Script
import ApiReconciler.Proofs.Gateway.Trace

/-!
# `ApiReconciler.Proofs.Binding.Plan` — what binding does, call by call

Everything that binding is going to do follows from the resources, the base URL and the bindings, before the
first call is made: the plan is a list (`bindPlan`). What the gateway answers decides two things only. A
response that is already declared takes one call more, which changes it, and any other refusal ends the
binding there and then. A method with a request parameter that cannot be mapped ends it as well, before any
call for the method. `Follows` says how a binding goes through the steps of a plan.

Each part of the program goes through its own part of the plan (`Pursues`), and parts that come one after the
other go through the parts of the plan one after the other (`pursues_bind`). That a failure is put under the
path of its resource is added where the program does it, for a resource as a whole (`pursues_relabel`).

## Contents
- `BindStep`, `bindPlan`: the steps of a binding; `admittedVerbs_eq`: the verbs in a preflight answer.
- `Follows`, `Pursues`, and how they go together.
- `bindAll_follows_plan`: **every run of a binding**.
-/

namespace ApiReconciler

open Program

/-! ## Plans -/

/-- A step of a binding: a call for the resource at a path, or its end at a method that cannot be mapped. -/
inductive BindStep
  | ask (path : String) (c : Call)
  | unmappable (fault : MappingFault)

/-- The verbs that a preflight answer admits: those of the resource and the preflight verb, each once, in
order. -/
def Resource.admitted (r : Resource) : List String :=
  (insert preflightVerb (r.methods.map Method.verb).toFinset).sort (· ≤ ·)

/-- The calls that set up the answer to preflight requests. -/
def preflightCalls (api : String) (r : Resource) : List Call :=
  let m : MethodRef := ⟨api, r.id, preflightVerb⟩
  [.putMethod m "NONE",
    .putIntegration m preflightIntegration,
    .putMethodResponse m statusOk [(allowHeaders, false), (allowMethods, false), (allowOrigin, false)],
    .putIntegrationResponse m statusOk (some [(jsonType, "")])
      (some [(allowHeaders, literal admittedHeaders),
        (allowMethods, literal (",".intercalate r.admitted)), (allowOrigin, literal "*")])]

/-- The calls that bind a method; one of them only if the method has an authorizer. -/
def methodCalls (api baseUrl : String) (b : Bindings) (r : Resource) (method : Method)
    (mappings : TextMap) : List Call :=
  let m : MethodRef := ⟨api, r.id, method.verb⟩
  .putIntegration m (backendIntegration baseUrl r.path method.verb mappings) ::
  .putIntegrationResponse m statusOk (some [(jsonType, "")]) none ::
  ((b.resolve r.path method.verb).toList.map (fun id => .updateMethod m (authorizationPatches id)) ++
    [.putMethodResponse m statusOk [(allowOrigin, false)],
      .updateIntegrationResponse m statusOk [addResponseParameter allowOrigin (literal "*")]])

/-- The steps for a method. -/
def methodPlan (api baseUrl : String) (b : Bindings) (r : Resource) (method : Method) : List BindStep :=
  match method.mappings with
  | .error fault => [.unmappable fault]
  | .ok mappings => (methodCalls api baseUrl b r method mappings).map (.ask r.path)

/-- The steps for a resource: the preflight answer, unless the resource declares the verb, and its methods. -/
def resourcePlan (api baseUrl : String) (b : Bindings) (r : Resource) : List BindStep :=
  (if preflightVerb ∈ r.methods.map Method.verb then [] else (preflightCalls api r).map (.ask r.path)) ++
    r.methods.flatMap (methodPlan api baseUrl b r)

/-- The steps of a binding. -/
def bindPlan (api baseUrl : String) (b : Bindings) (rs : List Resource) : List BindStep :=
  (withMethods rs).flatMap (resourcePlan api baseUrl b)

/-! ## The verbs in order -/

theorem mem_insertText {s t : String} {ts : List String} : s ∈ insertText t ts ↔ s = t ∨ s ∈ ts := by
  induction ts with
  | nil => simp [insertText]
  | cons u us ih =>
      rw [insertText]
      split
      · next h => simp [h]
      · split
        · exact List.mem_cons
        · rw [List.mem_cons, List.mem_cons, ih, or_left_comm]

theorem insertText_sorted {s : String} {ts : List String} (h : ts.Pairwise (· < ·)) :
    (insertText s ts).Pairwise (· < ·) := by
  induction ts with
  | nil => exact List.pairwise_singleton _ s
  | cons t ts ih =>
      obtain ⟨ht, hts⟩ := List.pairwise_cons.mp h
      rw [insertText]
      split
      · exact h
      · next hne =>
          split
          · next hlt =>
              refine List.pairwise_cons.mpr ⟨fun u hu => ?_, h⟩
              rcases List.mem_cons.mp hu with rfl | hu
              · exact hlt
              · exact lt_trans hlt (ht u hu)
          · next hnlt =>
              have hlt : t < s := lt_of_le_of_ne (not_lt.mp hnlt) fun he => hne he.symm
              refine List.pairwise_cons.mpr ⟨fun u hu => ?_, ih hts⟩
              rcases mem_insertText.mp hu with rfl | hu
              · exact hlt
              · exact ht u hu

theorem mem_admittedVerbs {verb : String} {verbs : List String} :
    verb ∈ admittedVerbs verbs ↔ verb = preflightVerb ∨ verb ∈ verbs := by
  induction verbs with
  | nil => simp [admittedVerbs]
  | cons v verbs ih =>
      rw [admittedVerbs, List.foldr_cons, mem_insertText, ← admittedVerbs, ih, List.mem_cons, or_left_comm]

theorem admittedVerbs_sorted (verbs : List String) : (admittedVerbs verbs).Pairwise (· < ·) := by
  induction verbs with
  | nil => exact List.pairwise_singleton _ preflightVerb
  | cons v verbs ih => exact insertText_sorted ih

/-- Inserting the verbs one by one puts them in order, each once. -/
theorem admittedVerbs_eq (r : Resource) : admittedVerbs (r.methods.map Method.verb) = r.admitted := by
  have hsorted := admittedVerbs_sorted (r.methods.map Method.verb)
  have hverbs : insert preflightVerb (r.methods.map Method.verb).toFinset =
      (admittedVerbs (r.methods.map Method.verb)).toFinset := by
    ext verb
    rw [Finset.mem_insert, List.mem_toFinset, List.mem_toFinset, mem_admittedVerbs]
  rw [Resource.admitted, hverbs]
  exact ((List.toFinset_sort _ (hsorted.imp ne_of_lt)).mpr (hsorted.imp le_of_lt)).symm

/-! ## Going through a plan -/

/-- The call that changes a response where one that declares it meets a response that is already there. -/
def Call.redeclaration? : Call → Option Call
  | .putMethodResponse m status parameters =>
    some (.updateMethodResponse m status
      (parameters.map fun p => addResponseParameter p.1 (truthText p.2)))
  | _ => none

/-- Exchanges that go through the steps of a plan in order, and what they end with. A refused call is the last
one, unless it meets what is already there and can be redeclared; what is reported is the path of the step and
the call that was refused last. -/
inductive Follows (report : String → CallFailure → Failure) :
    List BindStep → List Exchange → Except Failure Unit → Prop
  | finished : Follows report [] [] (.ok ())
  | made {path : String} {c : Call} {reply : Object} {rest : List BindStep} {xs : List Exchange}
      {r : Except Failure Unit} (hrest : Follows report rest xs r) :
    Follows report (.ask path c :: rest) (.call c (.ok reply) :: xs) r
  | redeclared {path : String} {c d : Call} {fault : CallFault} {reply : Object} {rest : List BindStep}
      {xs : List Exchange} {r : Except Failure Unit}
      (hconflict : (CallFailure.mk c.operation.name fault).kind = .conflict)
      (hagain : c.redeclaration? = some d) (hrest : Follows report rest xs r) :
    Follows report (.ask path c :: rest) (.call c (.error fault) :: .call d (.ok reply) :: xs) r
  | refused {path : String} {c : Call} {fault : CallFault} {rest : List BindStep}
      (hfinal : (CallFailure.mk c.operation.name fault).kind = .conflict → c.redeclaration? = none) :
    Follows report (.ask path c :: rest) [.call c (.error fault)]
      (.error (report path ⟨c.operation.name, fault⟩))
  | refusedAgain {path : String} {c d : Call} {fault fault' : CallFault} {rest : List BindStep}
      (hconflict : (CallFailure.mk c.operation.name fault).kind = .conflict)
      (hagain : c.redeclaration? = some d) :
    Follows report (.ask path c :: rest) [.call c (.error fault), .call d (.error fault')]
      (.error (report path ⟨d.operation.name, fault'⟩))
  | unmappable {fault : MappingFault} {rest : List BindStep} :
    Follows report (.unmappable fault :: rest) [] (.error (.mapping fault))

section

variable {report : String → CallFailure → Failure} {steps steps' : List BindStep} {xs ys : List Exchange}

/-- After the last step of one plan comes the first one of the next. -/
theorem Follows.append {r : Except Failure Unit} (h : Follows report steps xs (.ok ()))
    (h' : Follows report steps' ys r) : Follows report (steps ++ steps') (xs ++ ys) r := by
  generalize hm : (Except.ok () : Except Failure Unit) = m at h
  induction h with
  | finished => exact h'
  | made _ ih => exact .made (ih hm)
  | redeclared hconflict hagain _ ih => exact .redeclared hconflict hagain (ih hm)
  | refused => cases hm
  | refusedAgain => cases hm
  | unmappable => cases hm

/-- No step comes after a failure. -/
theorem Follows.append_error {e : Failure} (h : Follows report steps xs (.error e)) (steps' : List BindStep) :
    Follows report (steps ++ steps') xs (.error e) := by
  generalize hm : (Except.error e : Except Failure Unit) = m at h
  induction h with
  | finished => cases hm
  | made _ ih => exact .made (ih hm)
  | redeclared hconflict hagain _ ih => exact .redeclared hconflict hagain (ih hm)
  | refused hfinal => exact .refused hfinal
  | refusedAgain hconflict hagain => exact .refusedAgain hconflict hagain
  | unmappable => exact .unmappable

/-- A failed call under a label; other failures stand. -/
def Failure.labelled (label : CallFailure → Failure) : Failure → Failure
  | .call f => label f
  | e => e

/-- Failed calls can be put under the path of their resource afterwards, when all steps are for one resource. -/
theorem Follows.relabel {label : CallFailure → Failure} {r : Except Failure Unit}
    (h : Follows (fun _ => .call) steps xs r) (hlabel : ∀ path c, .ask path c ∈ steps → report path = label) :
    Follows report steps xs (r.mapError (Failure.labelled label)) := by
  induction h with
  | finished => exact .finished
  | made _ ih => exact .made (ih fun path c hc => hlabel path c (List.mem_cons_of_mem _ hc))
  | redeclared hconflict hagain _ ih =>
      exact .redeclared hconflict hagain (ih fun path c hc => hlabel path c (List.mem_cons_of_mem _ hc))
  | refused hfinal =>
      rw [Except.mapError, Failure.labelled, ← hlabel _ _ List.mem_cons_self]
      exact .refused hfinal
  | refusedAgain hconflict hagain =>
      rw [Except.mapError, Failure.labelled, ← hlabel _ _ List.mem_cons_self]
      exact .refusedAgain hconflict hagain
  | unmappable => exact .unmappable

end

/-! ## Programs that pursue a plan -/

section

variable {report : String → CallFailure → Failure} {steps steps' : List BindStep} {α β : Type}

/-- The program goes through the steps, whatever is answered. -/
def Pursues (report : String → CallFailure → Failure) (steps : List BindStep) (p : Program α) : Prop :=
  ∀ xs r, p.Trace xs r → Follows report steps xs (r.map fun _ => ())

theorem pursues_done {a : α} : Pursues report [] (.done a) := by
  rintro xs r ⟨rfl, rfl⟩
  exact .finished

theorem pursues_log {n : Note} : Pursues report [] (log n) := pursues_done

theorem pursues_bind {p : Program α} {f : α → Program β} (hp : Pursues report steps p)
    (hf : ∀ a, Pursues report steps' (f a)) : Pursues report (steps ++ steps') (p.bind f) := by
  intro xs r h
  rcases trace_bind.mp h with ⟨a, ys, zs, rfl, hfirst, hnext⟩ | ⟨e, rfl, hfirst⟩
  · exact (hp ys _ hfirst).append (hf a zs r hnext)
  · exact (hp xs _ hfirst).append_error steps'

/-- A call that cannot be redeclared is made once. -/
theorem pursues_perform {path : String} {c : Call} (hc : c.redeclaration? = none) :
    Pursues (fun _ => .call) [.ask path c] (perform c) := by
  intro xs r h
  rcases trace_perform.mp h with ⟨reply, rfl, rfl⟩ | ⟨fault, rfl, rfl⟩
  · exact .made .finished
  · exact .refused fun _ => hc

/-- A call whose reply is of no interest. -/
theorem trace_performed {c : Call} {xs : List Exchange} {r : Except Failure Unit}
    (h : ((perform c).bind fun _ => .done ()).Trace xs r) :
    (∃ reply, xs = [.call c (.ok reply)] ∧ r = .ok ()) ∨
      ∃ fault, xs = [.call c (.error fault)] ∧ r = .error (.call ⟨c.operation.name, fault⟩) := by
  obtain ⟨answer, ys, rfl, h⟩ := h
  cases answer with
  | ok reply =>
      obtain ⟨rfl, rfl⟩ := h
      exact .inl ⟨reply, rfl, rfl⟩
  | error fault =>
      obtain ⟨rfl, rfl⟩ := h
      exact .inr ⟨fault, rfl, rfl⟩

/-- A response that is already there is changed at once. -/
theorem pursues_declareResponse {path : String} (m : MethodRef) (parameters : List (String × Bool)) :
    Pursues (fun _ => .call) [.ask path (.putMethodResponse m statusOk parameters)]
      (declareResponse m parameters) := by
  intro xs r h
  rcases trace_rescueCall.mp h with ⟨_, rfl, hput⟩ | ⟨f, ys, zs, rfl, hput, hupdate⟩ | ⟨e, he, rfl, hput⟩
  · obtain ⟨reply, rfl, -⟩ | ⟨_, -, ⟨⟩⟩ := trace_performed hput
    exact .made .finished
  · obtain ⟨_, -, ⟨⟩⟩ | ⟨fault, rfl, ⟨⟩⟩ := trace_performed hput
    split at hupdate
    · next hconflict =>
        rcases trace_performed hupdate with ⟨reply, rfl, rfl⟩ | ⟨fault', rfl, rfl⟩
        · exact .redeclared hconflict rfl .finished
        · exact .refusedAgain hconflict rfl
    · next hother =>
        obtain ⟨rfl, rfl⟩ := hupdate
        exact .refused fun hconflict => absurd hconflict hother
  · obtain ⟨_, -, ⟨⟩⟩ | ⟨_, -, ⟨⟩⟩ := trace_performed hput
    exact absurd rfl (he _)

theorem pursues_relabel {p : Program α} {label : CallFailure → Failure}
    (hp : Pursues (fun _ => .call) steps p) (hlabel : ∀ path c, .ask path c ∈ steps → report path = label) :
    Pursues report steps (p.relabel label) := by
  intro xs r h
  rcases trace_rescueCall.mp h with ⟨a, rfl, hok⟩ | ⟨f, ys, zs, rfl, hcall, rfl, rfl⟩ | ⟨e, he, rfl, hother⟩
  · exact (hp xs _ hok).relabel hlabel
  · rw [List.append_nil]
    exact (hp ys _ hcall).relabel hlabel
  · have hfollows := (hp xs _ hother).relabel hlabel
    cases e with
    | call f => exact absurd rfl (he f)
    | _ => exact hfollows

end

/-! ## The parts of a binding -/

section

variable {api baseUrl : String} {b : Bindings}

theorem pursues_configurePreflight (r : Resource) :
    Pursues (fun _ => .call)
      (if preflightVerb ∈ r.methods.map Method.verb then [] else (preflightCalls api r).map (.ask r.path))
      (configurePreflight api r) := by
  simp only [configurePreflight]
  split
  · exact pursues_done
  · rw [admittedVerbs_eq]
    exact pursues_bind (pursues_perform rfl) fun _ => pursues_bind (pursues_perform rfl) fun _ =>
      pursues_bind (pursues_declareResponse _ _) fun _ => pursues_bind (pursues_perform rfl) fun _ =>
        pursues_done

theorem pursues_attachAuthorizer {m : MethodRef} {path : String} :
    Pursues (fun _ => .call)
      (((b.resolve path m.verb).toList.map fun id => Call.updateMethod m (authorizationPatches id)).map
        (.ask path))
      (attachAuthorizer m path b) := by
  unfold attachAuthorizer
  split
  · next h =>
      rw [h]
      exact pursues_log
  · next id h =>
      rw [h]
      exact pursues_bind (pursues_perform rfl) fun _ => pursues_done

theorem pursues_bindMethod (r : Resource) (method : Method) :
    Pursues (fun _ => .call) (methodPlan api baseUrl b r method) (bindMethod api r method baseUrl b) := by
  unfold bindMethod methodPlan
  cases method.mappings with
  | error fault =>
      rintro xs r ⟨rfl, rfl⟩
      exact .unmappable
  | ok mappings =>
      simp only [methodCalls, List.map_cons, List.map_append]
      exact pursues_bind (pursues_perform rfl) fun _ => pursues_bind (pursues_perform rfl) fun _ =>
        pursues_bind pursues_attachAuthorizer fun _ => pursues_bind (pursues_declareResponse _ _) fun _ =>
          pursues_bind (pursues_perform rfl) fun _ => pursues_done

theorem pursues_bindMethods (r : Resource) (methods : List Method) :
    Pursues (fun _ => .call) (methods.flatMap (methodPlan api baseUrl b r))
      (bindMethods api r baseUrl b methods) := by
  induction methods with
  | nil => exact pursues_done
  | cons method methods ih => exact pursues_bind (pursues_bindMethod r method) fun _ => ih

/-- The calls for a resource are asked for at its path, for the preflight answer or for a method. -/
theorem ask_mem_resourcePlan {r : Resource} {path : String} {c : Call}
    (h : .ask path c ∈ resourcePlan api baseUrl b r) :
    path = r.path ∧ (c ∈ preflightCalls api r ∨
      ∃ method mappings, c ∈ methodCalls api baseUrl b r method mappings) := by
  rcases List.mem_append.mp h with h | h
  · split at h
    · cases h
    · obtain ⟨_, hc, he⟩ := List.mem_map.mp h
      cases he
      exact ⟨rfl, .inl hc⟩
  · obtain ⟨method, -, h⟩ := List.mem_flatMap.mp h
    unfold methodPlan at h
    split at h
    · cases List.mem_singleton.mp h
    · obtain ⟨_, hc, he⟩ := List.mem_map.mp h
      cases he
      exact ⟨rfl, .inr ⟨_, _, hc⟩⟩

theorem pursues_bindResource (r : Resource) :
    Pursues (fun path cause => .binding ⟨path, api, cause⟩) (resourcePlan api baseUrl b r)
      (bindResource api baseUrl b r) := by
  refine pursues_relabel (pursues_bind (pursues_configurePreflight r) fun _ =>
    pursues_bindMethods r r.methods) fun path c hc => ?_
  rw [(ask_mem_resourcePlan hc).1]

theorem pursues_bindEach (rs : List Resource) :
    Pursues (fun path cause => .binding ⟨path, api, cause⟩) (rs.flatMap (resourcePlan api baseUrl b))
      (bindEach api baseUrl b rs) := by
  induction rs with
  | nil => exact pursues_done
  | cons r rs ih => exact pursues_bind (pursues_bindResource r) fun _ => ih

/-- **A binding pursues its plan.** -/
theorem pursues_bindAll (rs : List Resource) :
    Pursues (fun path cause => .binding ⟨path, api, cause⟩) (bindPlan api baseUrl b rs)
      (bindAll api rs baseUrl b) := by
  rw [← List.append_nil (bindPlan api baseUrl b rs)]
  exact pursues_bind (pursues_bindEach _) fun _ => pursues_bind pursues_log fun _ => pursues_done

theorem methodCount_eq (rs : List Resource) : methodCount rs = (rs.map fun r => r.methods.length).sum :=
  (List.sum_eq_foldl ..).symm

/-- A binding that comes to its end gives the number of methods. -/
theorem trace_bindAll_count {rs : List Resource} {xs : List Exchange} {n : Nat}
    (h : (bindAll api rs baseUrl b).Trace xs (.ok n)) : n = (rs.map fun r => r.methods.length).sum := by
  obtain ⟨_, _, _, -, -, hcount⟩ := trace_bind_ok.mp h
  rw [← methodCount_eq]
  exact Except.ok.inj hcount.2

/-! ## Calls of the plan -/

/-- The call of a step that makes one. -/
def BindStep.call? : BindStep → Option Call
  | .ask _ c => some c
  | .unmappable _ => none

/-- No step of a plan is a redeclaration. -/
theorem operation_of_mem_bindPlan {rs : List Resource} {path : String} {c : Call}
    (h : .ask path c ∈ bindPlan api baseUrl b rs) : c.operation ≠ .updateMethodResponse := by
  obtain ⟨r, -, h⟩ := List.mem_flatMap.mp h
  have hpreflight : ∀ c ∈ preflightCalls api r, c.operation ≠ .updateMethodResponse := by
    simp [preflightCalls, Call.operation]
  have hmethod : ∀ method mappings, ∀ c ∈ methodCalls api baseUrl b r method mappings,
      c.operation ≠ .updateMethodResponse := by
    intro method mappings c hc
    simp only [methodCalls, List.mem_cons, List.mem_append, List.mem_map, List.not_mem_nil, or_false] at hc
    rcases hc with rfl | rfl | ⟨_, -, rfl⟩ | rfl | rfl <;> simp [Call.operation]
  obtain ⟨-, hc | ⟨method, mappings, hc⟩⟩ := ask_mem_resourcePlan h
  · exact hpreflight c hc
  · exact hmethod method mappings c hc

end

/-- What was asked for, without redeclarations. -/
def askedFirst (xs : List Exchange) : List Request :=
  (xs.map Exchange.request).filter fun q => q.operation ≠ .updateMethodResponse

theorem askedFirst_cons {c : Call} (hc : c.operation ≠ .updateMethodResponse) (answer : Answer)
    (xs : List Exchange) : askedFirst (.call c answer :: xs) = .call c :: askedFirst xs :=
  List.filter_cons_of_pos (decide_eq_true hc)

theorem askedFirst_redeclaration {c d : Call} (hd : c.redeclaration? = some d) (answer : Answer)
    (xs : List Exchange) : askedFirst (.call d answer :: xs) = askedFirst xs := by
  unfold Call.redeclaration? at hd
  split at hd
  · rw [← Option.some.inj hd]
    rfl
  · cases hd

/-- Without redeclarations, what was asked for is the beginning of the plan. -/
theorem Follows.askedFirst_prefix {report : String → CallFailure → Failure} {steps : List BindStep}
    {xs : List Exchange} {r : Except Failure Unit} (h : Follows report steps xs r)
    (hplan : ∀ path c, .ask path c ∈ steps → c.operation ≠ .updateMethodResponse) :
    askedFirst xs <+: (steps.filterMap BindStep.call?).map .call := by
  induction h with
  | finished => exact List.prefix_refl _
  | made _ ih =>
      rw [askedFirst_cons (hplan _ _ List.mem_cons_self)]
      exact (List.prefix_cons_inj _).mpr (ih fun path c hc => hplan path c (List.mem_cons_of_mem _ hc))
  | redeclared _ hagain _ ih =>
      rw [askedFirst_cons (hplan _ _ List.mem_cons_self), askedFirst_redeclaration hagain]
      exact (List.prefix_cons_inj _).mpr (ih fun path c hc => hplan path c (List.mem_cons_of_mem _ hc))
  | refused _ =>
      rw [askedFirst_cons (hplan _ _ List.mem_cons_self)]
      exact (List.prefix_cons_inj _).mpr List.nil_prefix
  | refusedAgain _ hagain =>
      rw [askedFirst_cons (hplan _ _ List.mem_cons_self), askedFirst_redeclaration hagain]
      exact (List.prefix_cons_inj _).mpr List.nil_prefix
  | unmappable => exact List.nil_prefix

/-! ## Bindings -/

/-- **Binding follows its plan exactly, up to the first failure.** The calls of a binding are those of the plan
in order, each made once, with a redeclaration right after every declaration of a response that meets one.
A call that is refused otherwise is the last one, and is reported with the path of its resource. A binding
that is not refused anything makes all calls and gives the number of methods. -/
theorem bindAll_follows_plan {σ : Type} (backend : Backend σ) (s : σ) (api : String) (rs : List Resource)
    (baseUrl : String) (b : Bindings) :
    ∃ r, Follows (fun path cause => .binding ⟨path, api, cause⟩) (bindPlan api baseUrl b rs)
        ((bindAll api rs baseUrl b).exchanges backend s) r ∧
      ((bindAll api rs baseUrl b).run backend s).result =
        r.map (fun _ => (rs.map fun r => r.methods.length).sum) ∧
      askedFirst ((bindAll api rs baseUrl b).exchanges backend s) <+:
        ((bindPlan api baseUrl b rs).filterMap BindStep.call?).map .call := by
  have htrace := trace_run backend (bindAll api rs baseUrl b) s
  have hfollows := pursues_bindAll rs _ _ htrace
  refine ⟨_, hfollows, ?_, hfollows.askedFirst_prefix fun path c => operation_of_mem_bindPlan⟩
  cases hr : ((bindAll api rs baseUrl b).run backend s).result with
  | error e => rfl
  | ok n =>
      rw [hr] at htrace
      rw [trace_bindAll_count htrace]
      rfl

/-- A response that is already there is changed at once, and the refusal after that is the end. -/
example :
    ((bindAll "a" [⟨"r", "/pets", [⟨"OPTIONS", []⟩, ⟨"GET", []⟩]⟩] "https://backend"
      ⟨[], [], [], []⟩).exchanges (Script.backend true) fun
        | .putMethodResponse => [.error (.refused ⟨some "ConflictException", none, none⟩)]
        | .updateIntegrationResponse => [.error (.disconnected "lost")]
        | _ => []).map (fun x => x.request.operation) =
      [.putIntegration, .putIntegrationResponse, .putMethodResponse, .updateMethodResponse,
        .updateIntegrationResponse] := by
  rfl

end ApiReconciler
