import ApiReconciler.Authorizer.Scope
import ApiReconciler.Proofs.ArrivalMap
import ApiReconciler.Proofs.Lists

/-!
# `ApiReconciler.Proofs.Authorizer.Key` — keys survive the gateway

An authorizer is created with a URI made from its key and found again by a search in the URI that the
gateway lists. The search gives the key back as long as the region holds no colon and the target no slash,
which are the characters that end the two (`ofAuthorizer?_uri`). A required key is never empty
(`requiredAuthorizers_isFilled`), so the search does not give up on it either.

Not every policy has a key. It may lack a parameter, or a parameter may hold an integer with too many digits to be
written. The first policy without a key decides what is wrong with a definition (`requiredAuthorizers_eq_error_iff`).
-/

namespace ApiReconciler

namespace AuthorizerKey

/-! ## URIs -/

theorem dropFront?_append (front rest : List Char) : dropFront? front (front ++ rest) = some rest := by
  rw [dropFront?, if_pos (List.isPrefixOf_iff_prefix.mpr (List.prefix_append front rest)),
    List.drop_left]

/-- Two parts of a text come apart at a delimiter that the first part does not contain. -/
theorem span_at {p : Char → Bool} {cs delimiter : List Char} (hcs : ∀ c ∈ cs, p c = true)
    (hd : delimiter.head?.any (fun c => !p c) = true) (rest : List Char) :
    (cs ++ (delimiter ++ rest)).takeWhile p = cs ∧
      (cs ++ (delimiter ++ rest)).dropWhile p = delimiter ++ rest := by
  have hstop : ∀ c ∈ (delimiter ++ rest).head?, p c = false := by
    cases delimiter with
    | nil => cases hd
    | cons c delimiter => simpa using hd
  exact ⟨takeWhile_append_stop hcs hstop, dropWhile_append_stop hcs hstop⟩

section

variable {region target : List Char}

/-- A URI is read at its front: the region ends at the first colon and the target at the first slash. -/
theorem targetAt?_uriChars (hregion : region ≠ []) (hcolon : ':' ∉ region) (htarget : target ≠ [])
    (hslash : '/' ∉ target) : targetAt? (uriChars region target) = some target := by
  have hr : ∀ c ∈ region, decide (c ≠ ':') = true := fun c hc => decide_eq_true fun he => hcolon (he ▸ hc)
  have ht : ∀ c ∈ target, decide (c ≠ '/') = true := fun c hc => decide_eq_true fun he => hslash (he ▸ hc)
  have hafter : target ++ afterTarget = target ++ (afterTarget ++ []) := by rw [List.append_nil]
  obtain ⟨hregionTaken, hregionDropped⟩ :=
    span_at hr (by decide : beforeTarget.head?.any _ = true) (target ++ (afterTarget ++ []))
  obtain ⟨htargetTaken, htargetDropped⟩ :=
    span_at ht (by decide : afterTarget.head?.any _ = true) []
  simp only [targetAt?, uriChars, List.append_assoc, dropFront?_append, hafter, Option.bind_eq_bind,
    Option.bind_some, hregionTaken, hregionDropped, htargetTaken, htargetDropped, hregion, htarget, or_self,
    if_false]

/-- The search ends where a URI begins. -/
theorem targetIn?_of_targetAt? {cs : List Char} (h : targetAt? cs = some target) :
    targetIn? cs = some target := by
  cases cs with
  | nil => cases h
  | cons c cs => rw [targetIn?, h]

/-- **The key of an authorizer is read back** from the URI and the credentials it was created with. -/
theorem ofAuthorizer?_uri {region : String} {key : AuthorizerKey} {item : Object}
    (hregion : region ≠ "") (hcolon : ':' ∉ region.toList) (htarget : key.target ≠ "")
    (hcredential : key.credential ≠ "") (hslash : '/' ∉ key.target.toList)
    (huri : item.get? "authorizerUri" = some (.text (key.uri region)))
    (hcredentials : item.get? "authorizerCredentials" = some (.text key.credential)) :
    ofAuthorizer? item = some key := by
  have hfound : targetIn? (uriChars region.toList key.target.toList) = some key.target.toList :=
    targetIn?_of_targetAt? (targetAt?_uriChars (by simpa using hregion) hcolon (by simpa using htarget) hslash)
  have hread : textMember item "authorizerUri" = key.uri region := by rw [textMember, huri]; rfl
  have hcaller : textMember item "authorizerCredentials" = key.credential := by
    rw [textMember, hcredentials]; rfl
  unfold ofAuthorizer?
  rw [hread, uri, String.toList_ofList, hfound, hcaller]
  simp [hcredential]

end

end AuthorizerKey

/-! ## Required keys -/

/-- Neither part of the key is empty. -/
def AuthorizerKey.IsFilled (key : AuthorizerKey) : Prop := key.target ≠ "" ∧ key.credential ≠ ""

theorem Policy.textOf_ne {p : Policy} {v : Value} {text : String} (h : p.textOf v = .ok text) : text ≠ "" := by
  unfold Policy.textOf at h
  split at h
  · cases h
  · split at h
    · cases h
    · next hne =>
        rw [← Except.ok.inj h]
        exact hne

/-- A key is made of the texts of the two parameters. -/
theorem Policy.authorizerKey_ok {p : Policy} {key : AuthorizerKey} (h : p.authorizerKey = .ok key) :
    ∃ target credential, p.textOf target = .ok key.target ∧ p.textOf credential = .ok key.credential := by
  unfold Policy.authorizerKey at h
  split at h
  · next target credential _ _ =>
      obtain ⟨targetText, ht, hrest⟩ := bind_eq_ok_iff.mp h
      obtain ⟨credentialText, hc, hkey⟩ := bind_eq_ok_iff.mp hrest
      rw [← Except.ok.inj hkey]
      exact ⟨target, credential, ht, hc⟩
  · cases h

theorem Policy.authorizerKey_isFilled {p : Policy} {key : AuthorizerKey} (h : p.authorizerKey = .ok key) :
    key.IsFilled := by
  obtain ⟨_, _, htarget, hcredential⟩ := authorizerKey_ok h
  exact ⟨textOf_ne htarget, textOf_ne hcredential⟩

section

variable {scope : Scope} {policies : List Policy} {scopes scopes' : ArrivalMap Scope AuthorizerKey}

/-- Either no policy asks for an authorizer, or the first one that does has a key, to which the scope is set. -/
theorem addRequired_ok (h : addRequired scope policies scopes = .ok scopes') :
    (authorizerPolicy? policies = none ∧ scopes' = scopes) ∨
      ∃ p key, authorizerPolicy? policies = some p ∧ p.authorizerKey = .ok key ∧
        scopes' = scopes.set scope key := by
  unfold addRequired at h
  cases hp : authorizerPolicy? policies with
  | none =>
      simp only [hp, Except.ok.injEq] at h
      exact .inl ⟨rfl, h.symm⟩
  | some p =>
      simp only [hp] at h
      cases hkey : p.authorizerKey with
      | error e => simp [hkey, Except.map] at h
      | ok key =>
          simp only [hkey, Except.map, Except.ok.injEq] at h
          exact .inr ⟨p, key, rfl, hkey, h.symm⟩

theorem addRoutes_cons (r : Route) (routes : List Route) (scopes : ArrivalMap Scope AuthorizerKey) :
    addRoutes (r :: routes) scopes =
      (addRequired (Scope.of r.path r.verb) r.policies scopes).bind (addRoutes routes) := by
  rw [addRoutes]
  cases addRequired (Scope.of r.path r.verb) r.policies scopes <;> rfl

/-- A route is added before those behind it. -/
theorem addRoutes_cons_ok {r : Route} {routes : List Route} (h : addRoutes (r :: routes) scopes = .ok scopes') :
    ∃ next, addRequired (Scope.of r.path r.verb) r.policies scopes = .ok next ∧
      addRoutes routes next = .ok scopes' := by
  rw [addRoutes_cons] at h
  exact bind_eq_ok_iff.mp h

theorem requiredAuthorizers_eq_bind (d : Definition) :
    d.requiredAuthorizers = (addRequired .api d.policies []).bind (addRoutes d.routes) := by
  rw [Definition.requiredAuthorizers]
  cases addRequired .api d.policies [] <;> rfl

/-- The scopes of a definition are those of its routes, added to that of the API if it has one. -/
theorem requiredAuthorizers_ok {d : Definition} (h : d.requiredAuthorizers = .ok scopes) :
    ∃ api, addRequired .api d.policies [] = .ok api ∧ addRoutes d.routes api = .ok scopes := by
  rw [requiredAuthorizers_eq_bind] at h
  exact bind_eq_ok_iff.mp h

theorem addRequired_isFilled (hs : ∀ a ∈ scopes, a.2.IsFilled)
    (h : addRequired scope policies scopes = .ok scopes') : ∀ a ∈ scopes', a.2.IsFilled := by
  obtain ⟨-, rfl⟩ | ⟨p, key, -, hkey, rfl⟩ := addRequired_ok h
  · exact hs
  · intro a ha
    rcases ArrivalMap.mem_set ha with hold | hset
    · exact hs a hold
    · rw [hset]
      exact Policy.authorizerKey_isFilled hkey

theorem addRoutes_isFilled {routes : List Route} (hs : ∀ a ∈ scopes, a.2.IsFilled)
    (h : addRoutes routes scopes = .ok scopes') : ∀ a ∈ scopes', a.2.IsFilled := by
  induction routes generalizing scopes with
  | nil => rwa [← Except.ok.inj h]
  | cons r rs ih =>
      obtain ⟨next, hr, hrs⟩ := addRoutes_cons_ok h
      exact ih (addRequired_isFilled hs hr) hrs

/-- **A required key is not empty**, whatever the policies say. -/
theorem requiredAuthorizers_isFilled {d : Definition} (h : d.requiredAuthorizers = .ok scopes) :
    ∀ key ∈ scopes.values, key.IsFilled := by
  obtain ⟨api, hapi, hroutes⟩ := requiredAuthorizers_ok h
  intro key hkey
  obtain ⟨a, ha, rfl⟩ := List.mem_map.mp hkey
  exact addRoutes_isFilled (addRequired_isFilled (List.forall_mem_nil _) hapi) hroutes a ha

end

/-! ## Policies without a key -/

/-- Why a policy has no key, if it has none. -/
def Policy.fault? (p : Policy) : Option PolicyFault :=
  match p.authorizerKey with
  | .ok _ => none
  | .error fault => some fault

/-- The policies that ask for authorizers, in the order in which their keys are looked for. -/
def Definition.askingPolicies (d : Definition) : List Policy :=
  (authorizerPolicy? d.policies).toList ++ d.routes.flatMap fun r => (authorizerPolicy? r.policies).toList

/-- A key of the definition cannot be written: the first policy without a key has an integer with too many digits in
a parameter. -/
def Definition.HasLongKey (d : Definition) : Prop := d.requiredAuthorizers = .error .longInteger

/-- An integer can be written just if it lies below the limit. -/
theorem Value.isWritable_int_iff {n : Int} :
    (Value.int n).isWritable = true ↔ n.natAbs < 10 ^ Digits.maxIntegerDigits := by
  rw [Value.isWritable, Scalar.isWritable, decide_eq_true_iff]
  exact Nat.length_toDigits_le_iff (by decide) (by decide)

theorem Value.isWritable_int_eq_false {n : Int} (h : 10 ^ Digits.maxIntegerDigits ≤ n.natAbs) :
    (Value.int n).isWritable = false := by
  rw [← Bool.not_eq_true, isWritable_int_iff]
  exact Nat.not_lt.mpr h

theorem Policy.textOf_eq_longInteger_iff {p : Policy} {v : Value} :
    p.textOf v = .error .longInteger ↔ v.isWritable = false := by
  rw [textOf, Value.display?]
  cases v.isWritable with
  | false => simp
  | true => by_cases hempty : v.display = "" <;> simp [hempty]

theorem Policy.exists_textOf_iff {p : Policy} {v : Value} :
    (∃ text, p.textOf v = .ok text) ↔ v.isWritable = true ∧ v.display ≠ "" := by
  rw [textOf, Value.display?]
  cases v.isWritable with
  | false => simp
  | true => by_cases hempty : v.display = "" <;> simp [hempty]

theorem Policy.fault?_eq_some_iff {p : Policy} {fault : PolicyFault} :
    p.fault? = some fault ↔ p.authorizerKey = .error fault := by
  rw [fault?]
  cases p.authorizerKey <;> simp

/-- **When a key cannot be written.** Both parameters are given, and the first one has too long an integer, or the
second one has and the first one is a text that is not empty. -/
theorem Policy.fault?_eq_longInteger_iff {p : Policy} :
    p.fault? = some .longInteger ↔ ∃ target credential,
      p.parameter? "lambdaARN" = some target ∧ p.parameter? "invokeRoleARN" = some credential ∧
      (target.isWritable = false ∨ target.display ≠ "" ∧ credential.isWritable = false) := by
  rw [fault?_eq_some_iff]
  constructor
  · intro h
    unfold authorizerKey at h
    split at h
    · next target credential ht hc =>
        refine ⟨target, credential, ht, hc, ?_⟩
        obtain hlong | ⟨text, hok, hrest⟩ := bind_eq_error_iff.mp h
        · exact .inl (textOf_eq_longInteger_iff.mp hlong)
        · -- a key that has both texts is no failure
          obtain hlong | ⟨_, -, hkey⟩ := bind_eq_error_iff.mp hrest
          · exact .inr ⟨(exists_textOf_iff.mp ⟨text, hok⟩).2, textOf_eq_longInteger_iff.mp hlong⟩
          · cases hkey
    · cases h
  · rintro ⟨target, credential, ht, hc, hlong⟩
    rw [authorizerKey, ht, hc]
    refine bind_eq_error_iff.mpr ?_
    -- the second parameter is looked at only if the first one has a text
    cases hwritable : target.isWritable with
    | false => exact .inl (textOf_eq_longInteger_iff.mpr hwritable)
    | true =>
        obtain ⟨hnonempty, hlong⟩ := hlong.resolve_left (by simp [hwritable])
        obtain ⟨text, hok⟩ := exists_textOf_iff.mpr ⟨hwritable, hnonempty⟩
        exact .inr ⟨text, hok, bind_eq_error_iff.mpr (.inl (textOf_eq_longInteger_iff.mpr hlong))⟩

section

variable {fault : PolicyFault} {policies rest : List Policy} {scope : Scope}
  {scopes : ArrivalMap Scope AuthorizerKey}

/-- A policy is added before those behind it. -/
theorem addRequired_bind_eq_error_iff
    {next : ArrivalMap Scope AuthorizerKey → Except PolicyFault (ArrivalMap Scope AuthorizerKey)}
    (hnext : ∀ scopes, next scopes = .error fault ↔ rest.findSome? Policy.fault? = some fault) :
    (addRequired scope policies scopes).bind next = .error fault ↔
      ((authorizerPolicy? policies).toList ++ rest).findSome? Policy.fault? = some fault := by
  unfold addRequired
  cases authorizerPolicy? policies with
  | none => exact hnext scopes
  | some p =>
      rw [Option.toList_some, List.singleton_append, List.findSome?_cons, Policy.fault?]
      cases hp : p.authorizerKey with
      | ok key =>
          -- with a key, all depends on the policies behind this one
          simp only [hp]
          exact hnext _
      | error first => simp [hp, Except.map, Except.bind]

/-- Routes are added up to the first one whose policy has no key. -/
theorem addRoutes_eq_error_iff {routes : List Route} : addRoutes routes scopes = .error fault ↔
    (routes.flatMap fun r => (authorizerPolicy? r.policies).toList).findSome? Policy.fault? = some fault := by
  induction routes generalizing scopes with
  | nil => exact iff_of_false (fun h => by cases h) fun h => by cases h
  | cons r routes ih =>
      rw [addRoutes_cons, List.flatMap_cons]
      exact addRequired_bind_eq_error_iff fun _ => ih

/-- **What is wrong with a definition is what is wrong with the first policy without a key.** -/
theorem requiredAuthorizers_eq_error_iff {d : Definition} :
    d.requiredAuthorizers = .error fault ↔ d.askingPolicies.findSome? Policy.fault? = some fault := by
  rw [requiredAuthorizers_eq_bind, Definition.askingPolicies]
  exact addRequired_bind_eq_error_iff fun _ => addRoutes_eq_error_iff

end

end ApiReconciler
