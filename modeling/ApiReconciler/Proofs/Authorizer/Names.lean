import ApiReconciler.Proofs.Authorizer.Safety

/-!
# `ApiReconciler.Proofs.Authorizer.Names` — the names of created authorizers

An authorizer is created under a name that is made for people: the last part of the target, a dash, and the
last part of the credential. A synchronization creates one authorizer for each missing key and never two for
one key, so two of its calls carry the same name only if two keys do. That happens in two ways. The keys may
differ only in front of their last parts, as do two functions that are called by an alias of the same name. Or
the dash between the parts stands for one that belongs to a part: what one key has at the end of its target,
the other has at the beginning of its role (`displayName_eq_iff`).

## Contents
- `EndsIn`: the last part of a text.
- `AuthorizerKey.Collides`: keys with the same name, said about their parts.
- `trace_synchronize_creations`: the creations of any run.
- `created_names_distinct_iff`: when the names of a run are distinct; `aliasedOrders_collide`: when they are not.
-/

namespace ApiReconciler

open Program

/-! ## Last parts -/

/-- The text ends in a part that a character sets off: what follows its last occurrence, or everything when
there is none. -/
def EndsIn (c : Char) (text : String) (part : List Char) : Prop :=
  c ∉ part ∧ (text.toList = part ∨ ∃ front, text.toList = front ++ c :: part)

namespace AuthorizerKey

/-- A part is what follows the last occurrence of a character, if it does not contain the character and
nothing else stands in front of it. -/
theorem afterLast_append {c : Char} {front part : List Char} (hpart : c ∉ part)
    (hfront : ∀ d ∈ front.getLast?, d = c) : afterLast c (front ++ part) = part := by
  have hreverse : (part.reverse ++ front.reverse).takeWhile (· ≠ c) = part.reverse := by
    refine takeWhile_append_stop (fun d hd => ?_) fun d hd => ?_
    · refine decide_eq_true ?_
      rintro rfl
      exact hpart (List.mem_reverse.mp hd)
    · rw [List.head?_reverse] at hd
      simp [hfront d hd]
  rw [afterLast, List.reverse_append, hreverse, List.reverse_reverse]

theorem endsIn_afterLast (c : Char) (text : String) : EndsIn c text (afterLast c text.toList) := by
  have hsplit := List.takeWhile_append_dropWhile (p := fun d => decide (d ≠ c)) (l := text.toList.reverse)
  constructor
  · intro hmem
    have hne := List.mem_takeWhile_imp (List.mem_reverse.mp hmem)
    simp at hne
  · cases hrest : text.toList.reverse.dropWhile fun d => decide (d ≠ c) with
    | nil =>
        left
        rw [hrest, List.append_nil] at hsplit
        rw [afterLast, hsplit, List.reverse_reverse]
    | cons d rest =>
        have hstop : decide (d ≠ c) = false := stop_of_mem_head? (l := text.toList.reverse) (by rw [hrest]; rfl)
        obtain rfl : d = c := by simpa using hstop
        right
        refine ⟨rest.reverse, ?_⟩
        rw [hrest] at hsplit
        have hreverse := congrArg List.reverse hsplit
        simpa [afterLast] using hreverse.symm

/-- A text ends in one part. -/
theorem endsIn_iff {c : Char} {text : String} {part : List Char} :
    EndsIn c text part ↔ part = afterLast c text.toList := by
  constructor
  · rintro ⟨hpart, htext | ⟨front, htext⟩⟩
    · have hwhole : afterLast c ([] ++ part) = part := afterLast_append hpart (by simp)
      rw [htext]
      exact hwhole.symm
    · have hbehind : afterLast c ((front ++ [c]) ++ part) = part := afterLast_append hpart (by simp)
      rw [htext, List.append_cons]
      exact hbehind.symm
  · rintro rfl
    exact endsIn_afterLast c text

/-! ## Names -/

/-- Parts around a dash make the same text if they are the same, or if another dash of the text separates the
parts of the other one. -/
theorem dashed_eq_iff {a b a' b' : List Char} :
    a ++ '-' :: b = a' ++ '-' :: b' ↔
      (a = a' ∧ b = b') ∨ (∃ m, a = a' ++ '-' :: m ∧ b' = m ++ '-' :: b) ∨
        ∃ m, a' = a ++ '-' :: m ∧ b = m ++ '-' :: b' := by
  constructor
  · intro h
    rcases List.append_eq_append_iff.mp h with ⟨m, ha, hb⟩ | ⟨m, ha, hb⟩
    · cases m with
      | nil =>
          have htail : b = b' := by simpa using hb
          exact .inl ⟨by rw [ha, List.append_nil], htail⟩
      | cons c m =>
          rw [List.cons_append] at hb
          obtain ⟨rfl, htail⟩ := List.cons_eq_cons.mp hb
          exact .inr (.inr ⟨m, ha, htail⟩)
    · cases m with
      | nil =>
          have htail : b' = b := by simpa using hb
          exact .inl ⟨by rw [ha, List.append_nil], htail.symm⟩
      | cons c m =>
          rw [List.cons_append] at hb
          obtain ⟨rfl, htail⟩ := List.cons_eq_cons.mp hb
          exact .inr (.inl ⟨m, ha, htail⟩)
  · rintro (⟨rfl, rfl⟩ | ⟨m, rfl, rfl⟩ | ⟨m, rfl, rfl⟩)
    · rfl
    · simp
    · simp

/-- Two keys have names that cannot be told apart: their last parts are the same, or the target of one of them
goes on, behind a dash, with what the credential of the other one begins with. -/
inductive Collides (k k' : AuthorizerKey) : Prop
  | same {function role : List Char}
    (target : EndsIn ':' k.target function) (target' : EndsIn ':' k'.target function)
    (credential : EndsIn '/' k.credential role) (credential' : EndsIn '/' k'.credential role)
  | shifted {function middle role : List Char}
    (target : EndsIn ':' k.target (function ++ '-' :: middle)) (target' : EndsIn ':' k'.target function)
    (credential : EndsIn '/' k.credential role) (credential' : EndsIn '/' k'.credential (middle ++ '-' :: role))
  | shiftedBack {function middle role : List Char}
    (target : EndsIn ':' k.target function) (target' : EndsIn ':' k'.target (function ++ '-' :: middle))
    (credential : EndsIn '/' k.credential (middle ++ '-' :: role)) (credential' : EndsIn '/' k'.credential role)

/-- **Keys have the same name exactly if they collide.** -/
theorem displayName_eq_iff {k k' : AuthorizerKey} : k.displayName = k'.displayName ↔ k.Collides k' := by
  have htext : k.displayName = k'.displayName ↔
      afterLast ':' k.target.toList ++ '-' :: afterLast '/' k.credential.toList =
        afterLast ':' k'.target.toList ++ '-' :: afterLast '/' k'.credential.toList := by
    rw [displayName, displayName, String.ofList_inj]
  rw [htext, dashed_eq_iff]
  constructor
  · rintro (⟨hf, hr⟩ | ⟨m, hf, hr⟩ | ⟨m, hf, hr⟩)
    · exact .same (endsIn_iff.mpr rfl) (endsIn_iff.mpr hf) (endsIn_iff.mpr rfl) (endsIn_iff.mpr hr)
    · exact .shifted (endsIn_iff.mpr hf.symm) (endsIn_iff.mpr rfl) (endsIn_iff.mpr rfl) (endsIn_iff.mpr hr.symm)
    · exact .shiftedBack (endsIn_iff.mpr rfl) (endsIn_iff.mpr hf.symm) (endsIn_iff.mpr hr.symm)
        (endsIn_iff.mpr rfl)
  · rintro (⟨ht, ht', hc, hc'⟩ | ⟨ht, ht', hc, hc'⟩ | ⟨ht, ht', hc, hc'⟩)
    all_goals rw [endsIn_iff] at ht ht' hc hc'
    · exact .inl ⟨ht.symm.trans ht', hc.symm.trans hc'⟩
    · exact .inr (.inl ⟨_, by rw [← ht, ← ht'], by rw [← hc, ← hc']⟩)
    · exact .inr (.inr ⟨_, by rw [← ht, ← ht'], by rw [← hc, ← hc']⟩)

/-- Without dashes in roles, keys that collide have the same last parts. -/
theorem Collides.parts_eq {k k' : AuthorizerKey} (h : k.Collides k')
    (hrole : '-' ∉ afterLast '/' k.credential.toList) (hrole' : '-' ∉ afterLast '/' k'.credential.toList) :
    afterLast ':' k.target.toList = afterLast ':' k'.target.toList ∧
      afterLast '/' k.credential.toList = afterLast '/' k'.credential.toList := by
  rcases h with ⟨ht, ht', hc, hc'⟩ | ⟨-, -, -, hc'⟩ | ⟨-, -, hc, -⟩
  · rw [endsIn_iff] at ht ht' hc hc'
    exact ⟨ht.symm.trans ht', hc.symm.trans hc'⟩
  · rw [endsIn_iff] at hc'
    exact absurd (hc' ▸ List.mem_append_right _ List.mem_cons_self) hrole'
  · rw [endsIn_iff] at hc
    exact absurd (hc ▸ List.mem_append_right _ List.mem_cons_self) hrole

end AuthorizerKey

/-! ## Creations -/

variable {api region : String} {xs : List Exchange}

/-- Calls in turn are made for a front part of the list, and for all of it if they all get good answers. -/
theorem InTurn.asked {α : Type} {ask : α → Call} {good : Answer → Prop} {as : List α} {all : Bool}
    (h : InTurn ask good as xs all) :
    ∃ done, done <+: as ∧ xs.map Exchange.request = done.map (fun a => .call (ask a)) ∧
      (all = true → done = as) := by
  induction h with
  | finished => exact ⟨[], List.prefix_refl _, rfl, fun _ => rfl⟩
  | @stopped a rest answer _ => exact ⟨[a], by simp, rfl, nofun⟩
  | @next a rest answer xs all _ _ ih =>
      obtain ⟨done, hbegin, hasked, hall⟩ := ih
      refine ⟨a :: done, by simpa using hbegin, by simp [hasked], ?_⟩
      intro htrue
      rw [hall htrue]

/-- Pruning asks for nothing but deletions. -/
theorem pruneAuthorizers_asks_deletions (required : List AuthorizerKey) (more : List Existing) (prune : Bool)
    (b : Bindings) :
    (pruneAuthorizers api required more prune b).Asks fun q => q.operation = .deleteAuthorizer := by
  cases prune with
  | true =>
      refine (deleteSuperfluous_asks_listed required _ b).mono ?_
      rintro q ⟨a, -, rfl⟩
      rfl
  | false => exact asks_done

/-- **The creations of a synchronization come first**, one for each missing key up to the first that fails, and
nothing is created behind them. -/
theorem trace_synchronize_creations {d : Definition} {scopes : ArrivalMap Scope AuthorizerKey}
    {existing : List Existing} {prune : Bool} {r : Except Failure Bindings}
    (hscopes : d.requiredAuthorizers = .ok scopes) (h : (synchronize api region d existing prune).Trace xs r) :
    ∃ keys creations later, xs = creations ++ later ∧ keys <+: missingKeys scopes existing ∧
      creations.map Exchange.request = keys.map (fun key => .call (creation api region key)) ∧
      (∀ x ∈ later, x.request.operation = .deleteAuthorizer) ∧
      (r.isOk = true → keys = missingKeys scopes existing) := by
  rw [synchronize_eq, hscopes] at h
  simp only [Except.mapError, ofExcept_ok, done_bind] at h
  rw [missingKeys_eq]
  rcases trace_bind.mp h with ⟨b, creations, later, rfl, hcreate, hlater⟩ | ⟨e, rfl, hcreate⟩
  · obtain ⟨keys, hbegin, hasked, hall⟩ := (createMissing_inTurn (nodup_requiredKeys scopes) hcreate).asked
    refine ⟨keys, creations, later, rfl, hbegin, hasked, ?_, fun _ => hall rfl⟩
    exact (asks_bind (pruneAuthorizers_asks_deletions _ _ prune b) fun _ => asks_note.mpr asks_done).trace hlater
  · obtain ⟨keys, hbegin, hasked, -⟩ := (createMissing_inTurn (nodup_requiredKeys scopes) hcreate).asked
    refine ⟨keys, xs, [], (List.append_nil xs).symm, hbegin, hasked, by simp, ?_⟩
    intro hok
    cases hok

/-! ## The names of a run -/

/-- The name that a request creates an authorizer under. -/
def Request.createdName? : Request → Option String
  | .call (.createAuthorizer _ spec) => some spec.name
  | _ => none

theorem Request.createdName?_of_ne {q : Request} (h : q.operation ≠ .createAuthorizer) :
    q.createdName? = none := by
  cases q with
  | list l => rfl
  | call c => cases c <;> first | rfl | exact absurd rfl h

/-- The names under which exchanges create authorizers, in order. -/
def createdNames (xs : List Exchange) : List String := xs.filterMap fun x => x.request.createdName?

/-- What is created under which name. -/
theorem createdNames_of_creations {keys : List AuthorizerKey} {creations later : List Exchange}
    (hasked : creations.map Exchange.request = keys.map fun key => .call (creation api region key))
    (hlater : ∀ x ∈ later, x.request.operation = .deleteAuthorizer) :
    createdNames (creations ++ later) = keys.map AuthorizerKey.displayName := by
  have hcreated : createdNames creations = keys.map AuthorizerKey.displayName := by
    have hmap : createdNames creations = (creations.map Exchange.request).filterMap Request.createdName? := by
      rw [createdNames, List.filterMap_map]
      rfl
    rw [hmap, hasked, List.filterMap_map]
    exact congrFun List.filterMap_eq_map' keys
  have hnone : createdNames later = [] := by
    refine List.filterMap_eq_nil_iff.mpr fun x hx => Request.createdName?_of_ne ?_
    rw [hlater x hx]
    decide
  rw [createdNames, List.filterMap_append]
  change createdNames creations ++ createdNames later = _
  rw [hcreated, hnone, List.append_nil]

/-- **The names of created authorizers are distinct exactly if no two of their keys collide.** Nothing is
created when a policy has no key. Otherwise a run creates an authorizer for each of the missing keys up to the
first failure, for all of them if it succeeds, each under the name of its key. Keys collide only if they have
the same last parts or a role has a dash, so the names are distinct whenever roles have no dash and required
keys differ in their last parts. -/
theorem created_names_distinct_iff {σ : Type} (b : Backend σ) (s : σ) (api region : String) (d : Definition)
    (existing : List Existing) (prune : Bool) :
    let pass := synchronize api region d existing prune
    let names := createdNames (pass.exchanges b s)
    (∀ fault, d.requiredAuthorizers = .error fault → names = []) ∧
    ∀ scopes, d.requiredAuthorizers = .ok scopes →
      (∃ keys, keys <+: missingKeys scopes existing ∧ keys.Nodup ∧
        ((pass.run b s).result.isOk = true → keys = missingKeys scopes existing) ∧
        names = keys.map AuthorizerKey.displayName ∧
        (names.Nodup ↔ keys.Pairwise fun k k' => ¬k.Collides k')) ∧
      ((∀ key ∈ requiredKeys scopes, ∀ role, EndsIn '/' key.credential role → '-' ∉ role) →
        (∀ key ∈ requiredKeys scopes, ∀ key' ∈ requiredKeys scopes, ∀ function role,
          EndsIn ':' key.target function → EndsIn ':' key'.target function →
            EndsIn '/' key.credential role → EndsIn '/' key'.credential role → key = key') →
          names.Nodup) := by
  intro pass names
  refine ⟨fun fault hfault => ?_, fun scopes hscopes => ?_⟩
  · have hnone : pass.exchanges b s = [] := by
      simp only [pass]
      rw [synchronize_eq, hfault]
      rfl
    simp only [names, hnone]
    rfl
  obtain ⟨keys, creations, later, hxs, hbegin, hasked, hlater, hall⟩ :=
    trace_synchronize_creations hscopes (trace_run b pass s)
  have hnames : names = keys.map AuthorizerKey.displayName := by
    simp only [names, hxs]
    exact createdNames_of_creations hasked hlater
  have hkeys : keys.Nodup := (hbegin.sublist.trans List.filter_sublist).nodup (nodup_requiredKeys scopes)
  have hdistinct : names.Nodup ↔ keys.Pairwise fun k k' => ¬k.Collides k' := by
    rw [hnames, List.Nodup, List.pairwise_map]
    simp only [ne_eq, AuthorizerKey.displayName_eq_iff]
  refine ⟨⟨keys, hbegin, hkeys, hall, hnames, hdistinct⟩, fun hrole hparts => ?_⟩
  rw [hdistinct]
  refine hkeys.imp_of_mem fun {k k'} hk hk' hne hcollides => hne ?_
  have hrequired : ∀ key ∈ keys, key ∈ requiredKeys scopes := fun key hkey =>
    (List.mem_filter.mp (hbegin.subset hkey)).1
  obtain ⟨hfunction, hcredential⟩ := hcollides.parts_eq
    (hrole k (hrequired k hk) _ (AuthorizerKey.endsIn_iff.mpr rfl))
    (hrole k' (hrequired k' hk') _ (AuthorizerKey.endsIn_iff.mpr rfl))
  exact hparts k (hrequired k hk) k' (hrequired k' hk') _ _ (AuthorizerKey.endsIn_iff.mpr rfl)
    (AuthorizerKey.endsIn_iff.mpr hfunction) (AuthorizerKey.endsIn_iff.mpr rfl)
    (AuthorizerKey.endsIn_iff.mpr hcredential)

/-- The names of the missing authorizers of a definition are distinct. -/
theorem guardedOrders_named_apart :
    guardedOrders.requiredAuthorizers =
        .ok [(.api, ⟨"check", "caller"⟩), (.operation "/orders" "post", ⟨"audit", "caller"⟩)] ∧
      (createdNames ((synchronize "a" "eu" guardedOrders [] false).exchanges (Script.backend true)
        ordersReplies)).Nodup := by
  have hscopes : guardedOrders.requiredAuthorizers =
      .ok [(.api, ⟨"check", "caller"⟩), (.operation "/orders" "post", ⟨"audit", "caller"⟩)] := rfl
  obtain ⟨-, hdistinct⟩ :=
    (created_names_distinct_iff (Script.backend true) ordersReplies "a" "eu" guardedOrders [] false).2 _ hscopes
  have hrequired : ∀ key ∈ requiredKeys
      [(.api, ⟨"check", "caller"⟩), (.operation "/orders" "post", ⟨"audit", "caller"⟩)],
      key = ⟨"check", "caller"⟩ ∨ key = ⟨"audit", "caller"⟩ := by decide
  refine ⟨hscopes, hdistinct ?_ ?_⟩
  · intro key hkey role hends
    rw [AuthorizerKey.endsIn_iff] at hends
    subst hends
    rcases hrequired key hkey with rfl | rfl
    · decide
    · decide
  · intro key hkey key' hkey' function role ht ht' _ _
    rw [AuthorizerKey.endsIn_iff] at ht ht'
    subst ht
    rcases hrequired key hkey with rfl | rfl <;> rcases hrequired key' hkey' with rfl | rfl
    · rfl
    · exact absurd ht' (by decide)
    · exact absurd ht' (by decide)
    · rfl

/-- The key of a function that is called by an alias. -/
def aliasKey (function : String) : AuthorizerKey :=
  ⟨"arn:aws:lambda:us-east-1:123456789012:function:" ++ function ++ ":live",
    "arn:aws:iam::123456789012:role/invoke"⟩

/-- A policy that asks for such a function. -/
def asksForAlias (function : String) : Policy :=
  ⟨authorizerPolicyName, [(.text "lambdaARN", .text (aliasKey function).target),
    (.text "invokeRoleARN", .text (aliasKey function).credential)]⟩

/-- A definition with two functions, both of them called by an alias of one name. -/
def aliasedOrders : Definition :=
  { guardedOrders with
    policies := [asksForAlias "orders-auth"]
    routes := [⟨"/items", "GET", [asksForAlias "items-auth"]⟩] }

/-- Replies that name two authorizers. -/
def twoAuthorizers : Script
  | .createAuthorizer => [.ok [(.text "id", .text "1")], .ok [(.text "id", .text "2")]]
  | _ => []

/-- Two keys are required and two authorizers are created, both under one name. -/
theorem aliasedOrders_collide :
    aliasedOrders.requiredAuthorizers =
        .ok [(.api, aliasKey "orders-auth"), (.operation "/items" "get", aliasKey "items-auth")] ∧
      aliasKey "orders-auth" ≠ aliasKey "items-auth" ∧
      createdNames ((synchronize "a" "us-east-1" aliasedOrders [] false).exchanges (Script.backend true)
        twoAuthorizers) = ["live-invoke", "live-invoke"] ∧
      ¬(createdNames ((synchronize "a" "us-east-1" aliasedOrders [] false).exchanges (Script.backend true)
        twoAuthorizers)).Nodup := by
  have hnames : createdNames ((synchronize "a" "us-east-1" aliasedOrders [] false).exchanges
      (Script.backend true) twoAuthorizers) = ["live-invoke", "live-invoke"] := by decide +kernel
  refine ⟨rfl, by decide +kernel, hnames, ?_⟩
  rw [hnames]
  decide

end ApiReconciler
